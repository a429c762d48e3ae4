import Mathlib.Data.List.Basic
import Mathlib.Tactic.Ring

/-!
# Self-delimiting messages in a segmented stream

A framing judges the front of a buffer: it is incomplete, it is rejected, or it
starts with a complete message of a known length.  The last two judgements must
not change when more input arrives; this is what makes parsing a stream
independent of how the stream is cut into segments.
-/

namespace Touchpad.Foundation

inductive Verdict (μ ε : Type) where
  | incomplete
  | rejected (error : ε)
  | complete (message : μ) (length : Nat)

structure Framing (α μ ε : Type) where
  verdict : List α → Verdict μ ε
  complete_length : ∀ {buffer message length},
    verdict buffer = .complete message length → 0 < length ∧ length ≤ buffer.length
  complete_append : ∀ {buffer message length} (more : List α),
    verdict buffer = .complete message length →
      verdict (buffer ++ more) = .complete message length
  rejected_append : ∀ {buffer error} (more : List α),
    verdict buffer = .rejected error → verdict (buffer ++ more) = .rejected error

structure Parsed (α μ ε : Type) where
  messages : List μ
  error : Option ε
  rest : List α

namespace Framing

variable {α μ ε : Type} (F : Framing α μ ε)

def parse (buffer : List α) : Parsed α μ ε :=
  match _h : F.verdict buffer with
  | .incomplete => ⟨[], none, buffer⟩
  | .rejected error => ⟨[], some error, buffer⟩
  | .complete message length =>
      let later := parse (buffer.drop length)
      { later with messages := message :: later.messages }
termination_by buffer.length
decreasing_by
  have := F.complete_length _h
  simp only [List.length_drop]
  omega

variable {F}

theorem parse_incomplete {buffer : List α} (h : F.verdict buffer = .incomplete) :
    F.parse buffer = ⟨[], none, buffer⟩ := by
  rw [parse]
  split <;> rename_i heq <;> rw [h] at heq <;> cases heq

theorem parse_rejected {buffer : List α} {error : ε}
    (h : F.verdict buffer = .rejected error) :
    F.parse buffer = ⟨[], some error, buffer⟩ := by
  rw [parse]
  split <;> rename_i heq <;> rw [h] at heq <;> cases heq
  rfl

theorem parse_complete {buffer : List α} {message : μ} {length : Nat}
    (h : F.verdict buffer = .complete message length) :
    F.parse buffer =
      { F.parse (buffer.drop length) with
        messages := message :: (F.parse (buffer.drop length)).messages } := by
  rw [parse]
  split <;> rename_i heq <;> rw [h] at heq <;> cases heq
  rfl

theorem parse_messages (Has : μ → Prop)
    (h : ∀ buffer message length, F.verdict buffer = .complete message length → Has message)
    (buffer : List α) : ∀ message ∈ (F.parse buffer).messages, Has message := by
  induction hn : buffer.length using Nat.strongRecOn generalizing buffer with
  | ind n ih =>
      cases hverdict : F.verdict buffer with
      | incomplete => simp [parse_incomplete hverdict]
      | rejected error => simp [parse_rejected hverdict]
      | complete message length =>
          have hlength := F.complete_length hverdict
          rw [parse_complete hverdict]
          intro other hother
          rcases List.mem_cons.mp hother with rfl | hother
          · exact h buffer other length hverdict
          · exact ih _ (by simp only [List.length_drop]; omega) _ rfl other hother

theorem verdict_rest (buffer : List α) (h : (F.parse buffer).error = none) :
    F.verdict (F.parse buffer).rest = .incomplete := by
  induction hn : buffer.length using Nat.strongRecOn generalizing buffer with
  | ind n ih =>
      cases hverdict : F.verdict buffer with
      | incomplete => rwa [parse_incomplete hverdict]
      | rejected error => simp [parse_rejected hverdict] at h
      | complete message length =>
          have hlength := F.complete_length hverdict
          rw [parse_complete hverdict] at h ⊢
          exact ih _ (by simp only [List.length_drop]; omega) _ h rfl

theorem parse_append_of_ok (before after : List α)
    (h : (F.parse before).error = none) :
    F.parse (before ++ after) =
      { F.parse ((F.parse before).rest ++ after) with
        messages := (F.parse before).messages ++
          (F.parse ((F.parse before).rest ++ after)).messages } := by
  induction hn : before.length using Nat.strongRecOn generalizing before with
  | ind n ih =>
      cases hverdict : F.verdict before with
      | incomplete => simp [parse_incomplete hverdict]
      | rejected error => simp [parse_rejected hverdict] at h
      | complete message length =>
          have hlength := F.complete_length hverdict
          have hdrop : (before ++ after).drop length = before.drop length ++ after :=
            List.drop_append_of_le_length hlength.2
          rw [parse_complete hverdict] at h ⊢
          rw [parse_complete (F.complete_append after hverdict), hdrop,
            ih _ (by simp only [List.length_drop]; omega) _ h rfl]
          rfl

theorem parse_append_of_error (before after : List α) (error : ε)
    (h : (F.parse before).error = some error) :
    (F.parse (before ++ after)).messages = (F.parse before).messages ∧
      (F.parse (before ++ after)).error = some error := by
  induction hn : before.length using Nat.strongRecOn generalizing before with
  | ind n ih =>
      cases hverdict : F.verdict before with
      | incomplete => simp [parse_incomplete hverdict] at h
      | rejected found =>
          rw [parse_rejected hverdict] at h ⊢
          rw [parse_rejected (F.rejected_append after hverdict)]
          exact ⟨rfl, h⟩
      | complete message length =>
          have hlength := F.complete_length hverdict
          have hdrop : (before ++ after).drop length = before.drop length ++ after :=
            List.drop_append_of_le_length hlength.2
          rw [parse_complete hverdict] at h ⊢
          rw [parse_complete (F.complete_append after hverdict), hdrop]
          obtain ⟨hmessages, herror⟩ :=
            ih _ (by simp only [List.length_drop]; omega) _ h rfl
          exact ⟨congrArg (message :: ·) hmessages, herror⟩

theorem parse_append_messages (before after : List α) :
    (F.parse before).messages <+: (F.parse (before ++ after)).messages := by
  cases herror : (F.parse before).error with
  | none =>
      rw [parse_append_of_ok before after herror]
      exact List.prefix_append _ _
  | some error =>
      have hsame := (parse_append_of_error before after error herror).1
      exact hsame ▸ List.prefix_rfl

theorem rest_suffix (buffer : List α) : (F.parse buffer).rest <:+ buffer := by
  induction hn : buffer.length using Nat.strongRecOn generalizing buffer with
  | ind n ih =>
      cases hverdict : F.verdict buffer with
      | incomplete => simp [parse_incomplete hverdict]
      | rejected error => simp [parse_rejected hverdict]
      | complete message length =>
          have hlength := F.complete_length hverdict
          rw [parse_complete hverdict]
          exact (ih _ (by simp only [List.length_drop]; omega) _ rfl).trans
            (List.drop_suffix length buffer)

/-- A framing that takes every message of another one, and waits where the other waits,
finds all the messages of the other, and no more unless the other has rejected something. -/
theorem parse_lenient {ν δ : Type} {G : Framing α ν δ} (shown : μ → ν)
    (hcomplete : ∀ {buffer message length}, F.verdict buffer = .complete message length →
      G.verdict buffer = .complete (shown message) length)
    (hincomplete : ∀ {buffer}, F.verdict buffer = .incomplete → G.verdict buffer = .incomplete)
    (buffer : List α) :
    (F.parse buffer).messages.map shown <+: (G.parse buffer).messages ∧
      ((F.parse buffer).error = none → G.parse buffer =
        ⟨(F.parse buffer).messages.map shown, none, (F.parse buffer).rest⟩) := by
  induction hn : buffer.length using Nat.strongRecOn generalizing buffer with
  | ind n ih =>
      cases hverdict : F.verdict buffer with
      | incomplete => simp [parse_incomplete hverdict, parse_incomplete (hincomplete hverdict)]
      | rejected error => simp [parse_rejected hverdict]
      | complete message length =>
          have hlength := F.complete_length hverdict
          obtain ⟨hfirst, hsame⟩ :=
            ih _ (by simp only [List.length_drop]; omega) (buffer.drop length) rfl
          rw [parse_complete hverdict, parse_complete (hcomplete hverdict)]
          refine ⟨(List.prefix_cons_inj _).mpr hfirst, fun herror => ?_⟩
          rw [hsame herror]
          rfl

/-! ## Streams of well-formed messages -/

def Encodes (F : Framing α μ ε) (encoding : List α) (message : μ) : Prop :=
  F.verdict encoding = .complete message encoding.length

theorem Encodes.verdict_prefix {encoding : List α} {message : μ}
    (h : F.Encodes encoding message) {count : Nat} (hcount : count < encoding.length) :
    F.verdict (encoding.take count) = .incomplete := by
  have hsplit := List.take_append_drop count encoding
  cases hverdict : F.verdict (encoding.take count) with
  | incomplete => rfl
  | rejected error =>
      have hall := F.rejected_append (encoding.drop count) hverdict
      rw [hsplit, h] at hall
      cases hall
  | complete other length =>
      have hall := F.complete_append (encoding.drop count) hverdict
      rw [hsplit, h] at hall
      cases hall
      have := (F.complete_length hverdict).2
      rw [List.length_take] at this
      omega

/-- How much of `delivered` belongs to a message that is not complete yet, when
messages of these lengths follow each other. -/
def pendingLength : List Nat → Nat → Nat
  | [], delivered => delivered
  | length :: lengths, delivered =>
      if delivered < length then delivered else pendingLength lengths (delivered - length)

section Streams

variable (hempty : F.verdict [] = .incomplete)
include hempty

theorem parse_take_stream {stream : List (List α × μ)}
    (hstream : ∀ item ∈ stream, F.Encodes item.1 item.2) (count : Nat)
    (hcount : count ≤ (stream.map Prod.fst).flatten.length) :
    (F.parse ((stream.map Prod.fst).flatten.take count)).error = none ∧
      (F.parse ((stream.map Prod.fst).flatten.take count)).rest.length =
        pendingLength (stream.map fun item => item.1.length) count := by
  induction stream generalizing count with
  | nil =>
      obtain rfl : count = 0 := by simpa using hcount
      simp [parse_incomplete hempty, pendingLength]
  | cons item stream ih =>
      have hitem : F.Encodes item.1 item.2 := hstream item (by simp)
      simp only [List.map_cons, List.flatten_cons, pendingLength]
      by_cases hshort : count < item.1.length
      · rw [List.take_append_of_le_length hshort.le,
          parse_incomplete (hitem.verdict_prefix hshort), if_pos hshort]
        exact ⟨rfl, by rw [List.length_take]; omega⟩
      · have htake : (item.1 ++ (stream.map Prod.fst).flatten).take count =
            item.1 ++ (stream.map Prod.fst).flatten.take (count - item.1.length) := by
          rw [List.take_append, List.take_of_length_le (not_lt.mp hshort)]
        rw [htake, parse_complete (F.complete_append _ hitem), List.drop_left, if_neg hshort]
        refine ih (fun other hother => hstream other (by simp [hother])) _ ?_
        simp only [List.map_cons, List.flatten_cons, List.length_append] at hcount
        omega

theorem parse_stream {stream : List (List α × μ)}
    (hstream : ∀ item ∈ stream, F.Encodes item.1 item.2) :
    F.parse (stream.map Prod.fst).flatten = ⟨stream.map Prod.snd, none, []⟩ := by
  induction stream with
  | nil => exact parse_incomplete hempty
  | cons item stream ih =>
      have hitem : F.Encodes item.1 item.2 := hstream item (by simp)
      simp only [List.map_cons, List.flatten_cons]
      rw [parse_complete (F.complete_append _ hitem), List.drop_left,
        ih fun other hother => hstream other (by simp [hother])]

theorem parse_prefix {stream : List (List α × μ)}
    (hstream : ∀ item ∈ stream, F.Encodes item.1 item.2) {received : List α}
    (hreceived : received <+: (stream.map Prod.fst).flatten) :
    ∃ count rest, count ≤ stream.length ∧
      received = ((stream.map Prod.fst).take count).flatten ++ rest ∧
      (∀ encoding, (stream.map Prod.fst)[count]? = some encoding →
        rest.length < encoding.length) ∧
      F.parse received = ⟨(stream.map Prod.snd).take count, none, rest⟩ := by
  induction stream generalizing received with
  | nil =>
      obtain rfl : received = [] := List.prefix_nil.mp hreceived
      exact ⟨0, [], le_rfl, rfl, fun _ hnone => (by cases hnone), parse_incomplete hempty⟩
  | cons item stream ih =>
      have hitem : F.Encodes item.1 item.2 := hstream item List.mem_cons_self
      rw [List.map_cons, List.flatten_cons] at hreceived
      by_cases hshort : received.length < item.1.length
      · refine ⟨0, received, Nat.zero_le _, rfl, fun encoding hencoding => ?_, ?_⟩
        · cases hencoding
          exact hshort
        · have htake : received = item.1.take received.length := by
            have hall := List.prefix_iff_eq_take.mp hreceived
            rwa [List.take_append_of_le_length hshort.le] at hall
          rw [htake]
          exact parse_incomplete (hitem.verdict_prefix hshort)
      · obtain ⟨more, rfl⟩ : item.1 <+: received :=
          List.prefix_of_prefix_length_le (List.prefix_append _ _) hreceived (not_lt.mp hshort)
        obtain ⟨count, rest, hcount, hmore, hrest, hparse⟩ :=
          ih (fun other hother => hstream other (List.mem_cons_of_mem _ hother))
            ((List.prefix_append_right_inj _).mp hreceived)
        refine ⟨count + 1, rest, Nat.succ_le_succ hcount, ?_, hrest, ?_⟩
        · rw [List.map_cons, List.take_succ_cons, List.flatten_cons, List.append_assoc, ← hmore]
        · rw [parse_complete (F.complete_append _ hitem), List.drop_left, hparse]
          rfl

end Streams

end Framing

end Touchpad.Foundation
