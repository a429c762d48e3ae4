import Touchpad.Agent.System
import Touchpad.Foundation.Sequence

/-!
# The numbers of a connection

An epoch is HELLO, RESET and then frames, numbered consecutively.  What the sender
has taken for the open connection, the queue and the number that a callback has
drawn make up an epoch together, up to an overflow; after one, the queue is not
sent any more.
-/

namespace Touchpad.Agent

open Touchpad.Foundation
open Touchpad.Protocol

def epoch (first : UInt32) (index : Nat) : Option (TPMessageType × UInt32) :=
  let type :=
    match index with
    | 0 => tpMessageHello
    | 1 => tpMessageReset
    | _ => tpMessageFrame
  some (type, first + UInt32.ofNat index)

def GapFree (messages : List WireMessage) : Prop :=
  ∃ first, Follows (epoch first) (messages.map messageHeader)

theorem gapFree_nil : GapFree [] := ⟨0, Follows.nil⟩

theorem epoch_frame (first : UInt32) {index : Nat} (h : 2 ≤ index) :
    epoch first index = some (tpMessageFrame, first + UInt32.ofNat index) := by
  obtain ⟨rest, rfl⟩ := Nat.exists_eq_add_of_le' h
  rfl

theorem add_ofNat_succ (first : UInt32) (index : Nat) :
    first + UInt32.ofNat (index + 1) = first + UInt32.ofNat index + 1 := by
  rw [UInt32.ofNat_add, UInt32.add_assoc]
  rfl

/-! ## What is on its way to the connection -/

inductive Progress where
  | idle
  | drawn (sequence : UInt32)
  | overflowing
  | requested
  deriving DecidableEq

def Progress.headers : Progress → List (Option (TPMessageType × UInt32))
  | .drawn sequence => [some (tpMessageFrame, sequence)]
  | _ => []

def Progress.Overflowing (progress : Progress) : Prop :=
  progress = .overflowing ∨ progress = .requested

structure Supply where
  queued : List WireMessage
  sequence : UInt32
  reconnectRequested : Bool
  progress : Progress

def SenderPc.early : SenderPc → Bool
  | .sendingReset _ => true
  | .clearingRequest => true
  | _ => false

/-- All drawn numbers are taken, queued or in a callback's hands.  An overflow that
is still under way is one of an earlier connection. -/
structure Intact (first : UInt32) (supply : Supply) (taken : List WireMessage) : Prop where
  numbered : Follows (epoch first)
    ((taken ++ supply.queued).map messageHeader ++ supply.progress.headers)
  next : supply.sequence + 1 =
    first + UInt32.ofNat
      (taken.length + supply.queued.length + supply.progress.headers.length)
  stale : supply.progress.Overflowing → supply.queued = []

structure Dropping (first : UInt32) (sender : SenderPc) (supply : Supply)
    (taken : List WireMessage) : Prop where
  numbered : Follows (epoch first) ((taken ++ supply.queued).map messageHeader)
  overflowing : supply.progress.Overflowing
  requested : supply.progress = .requested →
    supply.reconnectRequested = true ∧ sender.early = false
  full : sender.early = true → supply.queued.length = queueCapacity

structure Lost (first : UInt32) (sender : SenderPc) (supply : Supply)
    (taken : List WireMessage) : Prop where
  numbered : Follows (epoch first) (taken.map messageHeader)
  requested : supply.reconnectRequested = true
  late : sender.early = false
  empty : sender = .popping → supply.queued = []

inductive Streaming (sender : SenderPc) (supply : Supply) (taken : List WireMessage) : Prop where
  | intact (first : UInt32) (h : Intact first supply taken)
  | dropping (first : UInt32) (h : Dropping first sender supply taken)
  | lost (first : UInt32) (h : Lost first sender supply taken)

theorem Intact.gapFree {first : UInt32} {supply : Supply} {taken : List WireMessage}
    (h : Intact first supply taken) : GapFree taken := by
  have hfront := h.numbered.front
  rw [List.map_append] at hfront
  exact ⟨first, hfront.front⟩

theorem Streaming.gapFree {sender : SenderPc} {supply : Supply} {taken : List WireMessage}
    (h : Streaming sender supply taken) : GapFree taken := by
  cases h with
  | intact first h => exact h.gapFree
  | dropping first h =>
      have hfront := h.numbered
      rw [List.map_append] at hfront
      exact ⟨first, hfront.front⟩
  | lost first h => exact ⟨first, h.numbered⟩

/-! ## The sender's part -/

theorem intact_nil {supply : Supply} (hqueued : supply.queued = [])
    (hdrawn : supply.progress.headers = []) : Intact (supply.sequence + 1) supply [] where
  numbered := by
    rw [hqueued, hdrawn]
    exact Follows.nil
  next := by
    rw [hqueued, hdrawn]
    exact (UInt32.add_zero _).symm
  stale := fun _ => hqueued

theorem Intact.control {first : UInt32} {supply : Supply} {taken : List WireMessage}
    (h : Intact first supply taken) (hqueued : supply.queued = [])
    (hdrawn : supply.progress.headers = []) {message : WireMessage}
    (hmessage : messageHeader message = epoch first taken.length) :
    Intact first { supply with sequence := supply.sequence + 1 } (taken ++ [message]) where
  numbered := by
    have hnumbered := h.numbered
    rw [hqueued, hdrawn, List.append_nil, List.append_nil] at hnumbered
    rw [hqueued, hdrawn, List.append_nil, List.append_nil, List.map_append, List.map_singleton,
      hmessage]
    have hsnoc := hnumbered.snoc
    rwa [List.length_map] at hsnoc
  next := by
    have hnext := h.next
    simp only [hqueued, hdrawn, List.length_nil, Nat.add_zero] at hnext ⊢
    rw [hnext, List.length_append, List.length_singleton, add_ofNat_succ]
  stale := h.stale

theorem Intact.next_control {first : UInt32} {supply : Supply} {taken : List WireMessage}
    (h : Intact first supply taken) (hqueued : supply.queued = [])
    (hdrawn : supply.progress.headers = []) :
    supply.sequence + 1 = first + UInt32.ofNat taken.length := by
  simpa only [hqueued, hdrawn, List.length_nil, Nat.add_zero] using h.next

theorem Streaming.pop {supply : Supply} {taken queued : List WireMessage} {message : WireMessage}
    (h : Streaming .popping supply taken) (hqueued : supply.queued = message :: queued) :
    Streaming (.sending message) { supply with queued } (taken ++ [message]) := by
  have hsame : (taken ++ [message]) ++ queued = taken ++ supply.queued := by
    rw [hqueued, List.append_assoc, List.singleton_append]
  cases h with
  | intact first h =>
      refine .intact first ⟨?_, ?_, ?_⟩
      · rw [hsame]
        exact h.numbered
      · have hlength := congrArg List.length hsame
        simp only [List.length_append] at hlength
        simp only [List.length_append, hlength]
        exact h.next
      · intro hoverflowing
        rw [h.stale hoverflowing] at hqueued
        cases hqueued
  | dropping first h =>
      refine .dropping first ⟨?_, h.overflowing, fun hrequested => ⟨(h.requested hrequested).1, rfl⟩,
        fun hearly => by cases hearly⟩
      rw [hsame]
      exact h.numbered
  | lost first h =>
      rw [h.empty rfl] at hqueued
      cases hqueued

theorem Streaming.move {sender next : SenderPc} {supply : Supply} {taken : List WireMessage}
    (h : Streaming sender supply taken) (hearly : next.early = sender.early)
    (hpopping : next = .popping → supply.reconnectRequested = false) :
    Streaming next supply taken := by
  cases h with
  | intact first h => exact .intact first h
  | dropping first h =>
      exact .dropping first ⟨h.numbered, h.overflowing,
        fun hrequested => ⟨(h.requested hrequested).1, hearly.trans (h.requested hrequested).2⟩,
        fun hnext => h.full (hearly.symm.trans hnext)⟩
  | lost first h =>
      refine .lost first ⟨h.numbered, h.requested, hearly.trans h.late, fun hnext => ?_⟩
      have hfalse := hpopping hnext
      rw [h.requested] at hfalse
      cases hfalse

theorem Streaming.clearRequest {supply : Supply} {taken : List WireMessage}
    (h : Streaming .clearingRequest supply taken) :
    Streaming .clearingLatest { supply with reconnectRequested := false } taken := by
  cases h with
  | intact first h => exact .intact first ⟨h.numbered, h.next, h.stale⟩
  | dropping first h =>
      refine .dropping first ⟨h.numbered, h.overflowing, fun hrequested => ?_,
        fun hearly => by cases hearly⟩
      cases (h.requested hrequested).2
  | lost first h => cases h.late

/-! ## The callbacks' part -/

theorem Streaming.draw {sender : SenderPc} {supply : Supply} {taken : List WireMessage}
    (h : Streaming sender supply taken) (hidle : supply.progress = .idle)
    (htaken : 2 ≤ taken.length) :
    Streaming sender
      { supply with
        sequence := supply.sequence + 1
        progress := .drawn (supply.sequence + 1) } taken := by
  cases h with
  | intact first h =>
      have hnumbered := h.numbered
      have hnext := h.next
      rw [hidle] at hnumbered hnext
      simp only [Progress.headers, List.append_nil, List.length_nil, Nat.add_zero] at hnumbered hnext
      refine .intact first ⟨?_, ?_, ?_⟩
      · have hsnoc := hnumbered.snoc
        rwa [List.length_map, List.length_append,
          epoch_frame first (by omega), ← hnext] at hsnoc
      · simp only [Progress.headers, List.length_singleton]
        rw [hnext, add_ofNat_succ]
      · rintro (hdrawn | hdrawn) <;> cases hdrawn
  | dropping first h =>
      rcases h.overflowing with hprogress | hprogress
      · cases hidle.symm.trans hprogress
      · cases hidle.symm.trans hprogress
  | lost first h => exact .lost first ⟨h.numbered, h.requested, h.late, h.empty⟩

theorem Streaming.push {sender : SenderPc} {supply : Supply} {taken : List WireMessage}
    (h : Streaming sender supply taken) {sequence : UInt32} {message : WireMessage}
    (hdrawn : supply.progress = .drawn sequence)
    (hmessage : messageHeader message = some (tpMessageFrame, sequence))
    (hpopping : sender = .popping → supply.reconnectRequested = false) :
    Streaming sender { supply with queued := supply.queued ++ [message], progress := .idle }
      taken := by
  cases h with
  | intact first h =>
      have hnumbered := h.numbered
      have hnext := h.next
      rw [hdrawn] at hnumbered hnext
      refine .intact first ⟨?_, ?_, ?_⟩
      · simpa only [Progress.headers, List.map_append, List.map_singleton, hmessage,
          List.append_assoc, List.append_nil] using hnumbered
      · simpa only [Progress.headers, List.length_append, List.length_singleton, List.length_nil,
          Nat.add_zero, Nat.add_assoc] using hnext
      · rintro (hidle | hidle) <;> cases hidle
  | dropping first h =>
      rcases h.overflowing with hprogress | hprogress
      · cases hdrawn.symm.trans hprogress
      · cases hdrawn.symm.trans hprogress
  | lost first h =>
      refine .lost first ⟨h.numbered, h.requested, h.late, fun hsender => ?_⟩
      have hfalse := hpopping hsender
      rw [h.requested] at hfalse
      cases hfalse

theorem Streaming.overflow {sender : SenderPc} {supply : Supply} {taken : List WireMessage}
    (h : Streaming sender supply taken) {sequence : UInt32}
    (hdrawn : supply.progress = .drawn sequence)
    (hfull : supply.queued.length = queueCapacity) :
    Streaming sender { supply with progress := .overflowing } taken := by
  cases h with
  | intact first h =>
      refine .dropping first ⟨h.numbered.front, .inl rfl, ?_, fun _ => hfull⟩
      intro hrequested
      cases hrequested
  | dropping first h =>
      rcases h.overflowing with hprogress | hprogress
      · cases hdrawn.symm.trans hprogress
      · cases hdrawn.symm.trans hprogress
  | lost first h => exact .lost first ⟨h.numbered, h.requested, h.late, h.empty⟩

theorem Streaming.request {sender : SenderPc} {supply : Supply} {taken : List WireMessage}
    (h : Streaming sender supply taken) (hoverflowing : supply.progress = .overflowing)
    (hkept : ¬ (supply.queued.length = queueCapacity ∧ sender.early = true)) :
    Streaming sender { supply with reconnectRequested := true, progress := .requested } taken := by
  cases h with
  | intact first h =>
      have hnumbered := h.numbered
      have hnext := h.next
      rw [hoverflowing] at hnumbered hnext
      exact .intact first ⟨hnumbered, hnext, fun _ => h.stale (.inl hoverflowing)⟩
  | dropping first h =>
      have hlate : sender.early = false := by
        cases hearly : sender.early with
        | false => rfl
        | true => exact absurd ⟨h.full hearly, hearly⟩ hkept
      exact .dropping first ⟨h.numbered, .inr rfl, fun _ => ⟨rfl, hlate⟩, h.full⟩
  | lost first h => exact .lost first ⟨h.numbered, rfl, h.late, h.empty⟩

theorem Streaming.clear {sender : SenderPc} {supply : Supply} {taken : List WireMessage}
    (h : Streaming sender supply taken) (hrequested : supply.progress = .requested) :
    Streaming sender { supply with queued := [], progress := .idle } taken := by
  cases h with
  | intact first h =>
      have hnumbered := h.numbered
      have hnext := h.next
      have hempty := h.stale (.inr hrequested)
      rw [hrequested, hempty] at hnumbered hnext
      exact .intact first ⟨hnumbered, hnext, fun _ => rfl⟩
  | dropping first h =>
      have hfront := h.numbered
      rw [List.map_append] at hfront
      obtain ⟨hrequest, hlate⟩ := h.requested hrequested
      exact .lost first ⟨hfront.front, hrequest, hlate, fun _ => rfl⟩
  | lost first h => exact .lost first ⟨h.numbered, h.requested, h.late, fun _ => rfl⟩

end Touchpad.Agent
