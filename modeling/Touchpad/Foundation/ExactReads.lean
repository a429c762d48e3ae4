import Mathlib.Data.List.Basic
import Mathlib.Data.Nat.Basic

/-!
# Exact reads of a segmented stream

Data arrive in segments, and one receive takes at most as much as it asks for of the
first of them.  Receiving until the wanted length is there gives the front of the stream,
however it was cut, and fails exactly when the stream ends before.
-/

namespace Touchpad.Foundation

universe u

/-- What has not been received yet.  A segment is never empty; receiving nothing means
that the stream has ended. -/
structure Arriving (α : Type u) where
  segments : List (List α)
  filled : [] ∉ segments

namespace Arriving

variable {α : Type u} {source : Arriving α} {count : Nat}

def stream (source : Arriving α) : List α := source.segments.flatten

def recv (source : Arriving α) (count : Nat) : List α × Arriving α :=
  match source with
  | ⟨[], hfilled⟩ => ([], ⟨[], hfilled⟩)
  | ⟨segment :: segments, hfilled⟩ =>
      if hlong : count < segment.length then
        (segment.take count, ⟨segment.drop count :: segments, by
          simp only [List.mem_cons, not_or] at hfilled ⊢
          exact ⟨fun hnil => absurd (List.drop_eq_nil_iff.mp hnil.symm) (not_le.mpr hlong),
            hfilled.2⟩⟩)
      else (segment, ⟨segments, fun hnil => hfilled (List.mem_cons_of_mem _ hnil)⟩)

theorem recv_append (source : Arriving α) (count : Nat) :
    (source.recv count).1 ++ (source.recv count).2.stream = source.stream := by
  obtain ⟨segments, hfilled⟩ := source
  cases segments with
  | nil => rfl
  | cons segment segments =>
      rw [recv]
      split
      case isTrue => simp [stream, ← List.append_assoc]
      case isFalse => rfl

theorem recv_length_le (source : Arriving α) (count : Nat) :
    (source.recv count).1.length ≤ count := by
  obtain ⟨segments, hfilled⟩ := source
  cases segments with
  | nil => exact Nat.zero_le _
  | cons segment segments =>
      rw [recv]
      split
      case isTrue => exact List.length_take_le _ _
      case isFalse hshort => exact not_lt.mp hshort

theorem stream_of_recv_nil (hcount : 0 < count) (h : (source.recv count).1 = []) :
    source.stream = [] := by
  obtain ⟨segments, hfilled⟩ := source
  cases segments with
  | nil => rfl
  | cons segment segments =>
      have hsegment : segment ≠ [] := fun hnil => hfilled (by simp [hnil])
      rw [recv] at h
      split at h
      case isTrue =>
        rcases List.take_eq_nil_iff.mp h with hzero | hnil
        · exact absurd hzero (Nat.ne_of_gt hcount)
        · exact absurd hnil hsegment
      case isFalse => exact absurd h hsegment

/-- Receive until `remaining` items are there, or the stream ends. -/
def receiveExact (source : Arriving α) (remaining : Nat) : Option (List α) × Arriving α :=
  if remaining = 0 then (some [], source)
  else
    match _hchunk : source.recv remaining with
    | ([], rest) => (none, rest)
    | (item :: items, rest) =>
        let (more, rest) := receiveExact rest (remaining - (item :: items).length)
        (more.map (item :: items ++ ·), rest)
termination_by remaining
decreasing_by
  simp only [List.length_cons]
  omega

theorem receiveExact_enough (h : count ≤ source.stream.length) :
    ∃ rest : Arriving α, source.receiveExact count = (some (source.stream.take count), rest) ∧
      rest.stream = source.stream.drop count := by
  induction hn : count using Nat.strongRecOn generalizing source count with
  | ind n ih =>
      subst hn
      rw [receiveExact]
      by_cases hzero : count = 0
      · exact ⟨source, by simp [hzero], by simp [hzero]⟩
      rw [if_neg hzero]
      have happend := recv_append source count
      have hlength := recv_length_le source count
      split
      case h_1 rest hchunk =>
        have hnil := stream_of_recv_nil (Nat.pos_of_ne_zero hzero) (congrArg Prod.fst hchunk)
        rw [hnil] at h
        exact absurd (Nat.le_zero.mp h) hzero
      case h_2 item items rest hchunk =>
        rw [hchunk] at happend hlength
        dsimp only at happend hlength
        rw [← happend, List.length_append] at h
        obtain ⟨last, hmore, hlast⟩ := @ih (count - (item :: items).length)
          (by simp only [List.length_cons]; omega) rest _ (by omega) rfl
        rw [hmore]
        refine ⟨last, ?_, ?_⟩
        · rw [← happend, List.take_append, List.take_of_length_le hlength]
          rfl
        · rw [← happend, List.drop_append, List.drop_of_length_le hlength, hlast, List.nil_append]

theorem receiveExact_ended (h : source.stream.length < count) :
    (source.receiveExact count).1 = none := by
  induction hn : count using Nat.strongRecOn generalizing source count with
  | ind n ih =>
      subst hn
      rw [receiveExact, if_neg (by omega)]
      have happend := recv_append source count
      split
      case h_1 rest hchunk => rfl
      case h_2 item items rest hchunk =>
        rw [hchunk] at happend
        dsimp only at happend
        rw [← happend, List.length_append] at h
        have hmore := @ih (count - (item :: items).length)
          (by simp only [List.length_cons] at h ⊢; omega) rest _ (by omega) rfl
        dsimp only
        rw [hmore]
        rfl

end Arriving

end Touchpad.Foundation
