import Mathlib.Data.Finset.Card
import Touchpad.Receiver.Grammar

/-!
# Room for the contacts of a connection

Where each FRAME and the one before it have at most five touching identifiers together,
every contact finds a slot, whatever timeouts come in between.
-/

namespace Touchpad.Receiver

open Touchpad.Foundation
open Touchpad.Shared

def touchingIn (message : Message) : Option (Finset UInt32) :=
  if message.type = .frame then some (tipIdentifiers message.contacts).toFinset else none

/-- Each FRAME has room beside the one before it. -/
def RoomFor (held : Finset UInt32) : List (Option (Finset UInt32)) → Prop
  | [] => True
  | none :: later => RoomFor held later
  | some touching :: later =>
      (held ∪ touching).card ≤ mtpHidMaxContacts ∧ RoomFor touching later

theorem roomFor_of_subset {fingers : Finset UInt32} (hfew : fingers.card ≤ mtpHidMaxContacts)
    {touched : List (Option (Finset UInt32))}
    (htouched : ∀ touching, some touching ∈ touched → touching ⊆ fingers)
    {held : Finset UInt32} (hheld : held ⊆ fingers) : RoomFor held touched := by
  induction touched generalizing held with
  | nil => trivial
  | cons first touched ih =>
      have hlater := fun {held : Finset UInt32} (hheld : held ⊆ fingers) =>
        ih (fun touching hmem => htouched touching (List.mem_cons_of_mem _ hmem)) hheld
      cases first with
      | none => exact hlater hheld
      | some touching =>
          have hfirst := htouched touching List.mem_cons_self
          exact ⟨(Finset.card_le_card (Finset.union_subset hheld hfirst)).trans hfew,
            hlater hfirst⟩

def touchingInCall (call : SessionCall) : Option (Finset UInt32) :=
  call.message?.bind touchingIn

def SlotsWithin (held : Finset UInt32) (session : TouchSession) : Prop :=
  ∀ item ∈ session.slots, item.1 ∈ held

theorem roomFor_messages (held : Finset UInt32) (calls : List SessionCall) :
    RoomFor held ((calls.filterMap SessionCall.message?).map touchingIn) ↔
      RoomFor held (calls.map touchingInCall) := by
  induction calls generalizing held with
  | nil => rfl
  | cons call calls ih =>
      cases call with
      | process message now =>
          have hmessages : (SessionCall.process message now :: calls).filterMap
              SessionCall.message? = message :: calls.filterMap SessionCall.message? := rfl
          have hcall : touchingInCall (.process message now) = touchingIn message := rfl
          rw [hmessages, List.map_cons, List.map_cons, hcall]
          cases touchingIn message with
          | none => exact ih held
          | some touching => exact and_congr_right fun _ => ih touching
      | timeout now | disconnect => exact ih held

theorem newContacts_room {session : TouchSession} (hsound : session.Sound)
    {contacts : List Contact} (hdistinct : (contacts.map Contact.identifier).Nodup)
    {held : Finset UInt32} (hslots : SlotsWithin held session) :
    session.slots.length + (newContacts session.slots contacts).length ≤
      (held ∪ (tipIdentifiers contacts).toFinset).card := by
  let keys := session.slots.map Prod.fst ++
    (newContacts session.slots contacts).map Contact.identifier
  have hkeys : keys.Nodup := by
    refine List.nodup_append.mpr ⟨hsound.valid.keys_nodup,
      hdistinct.sublist (List.filter_sublist.map _), ?_⟩
    intro key hkey identifier hidentifier hsame
    obtain ⟨contact, hcontact, rfl⟩ := List.mem_map.mp hidentifier
    have hnew := (List.mem_filter.mp hcontact).2
    rw [Bool.and_eq_true, Option.isNone_iff_eq_none, SlotTable.lookup_eq_none_iff] at hnew
    exact hnew.2 (hsame ▸ hkey)
  have hsubset : keys.toFinset ⊆ held ∪ (tipIdentifiers contacts).toFinset := by
    intro key hkey
    rw [List.mem_toFinset, List.mem_append] at hkey
    rw [Finset.mem_union, List.mem_toFinset]
    refine hkey.imp (fun hkey => ?_) (fun hkey => ?_)
    · obtain ⟨item, hitem, rfl⟩ := List.mem_map.mp hkey
      exact hslots item hitem
    · obtain ⟨contact, hcontact, rfl⟩ := List.mem_map.mp hkey
      obtain ⟨hmem, hnew⟩ := List.mem_filter.mp hcontact
      exact mem_tipIdentifiers.mpr ⟨contact, hmem, (Bool.and_eq_true _ _ ▸ hnew).1, rfl⟩
  calc session.slots.length + (newContacts session.slots contacts).length
      = keys.toFinset.card := by
        rw [List.toFinset_card_of_nodup hkeys, List.length_append, List.length_map,
          List.length_map]
    _ ≤ (held ∪ (tipIdentifiers contacts).toFinset).card := Finset.card_le_card hsubset

theorem run_fits {session : TouchSession} (hsound : session.Sound) {call : SessionCall}
    (hdistinct : call.Distinct) {held : Finset UInt32} (hslots : SlotsWithin held session)
    (hroom : ∀ touching, touchingInCall call = some touching →
      (held ∪ touching).card ≤ mtpHidMaxContacts) :
    (call.run session).1 ≠ .error .moreThanFiveActive := by
  cases call with
  | timeout now | disconnect => exact fun h => by cases h
  | process message now =>
      have hprocessed := TouchSession.process_processed hsound message now hdistinct
      rw [SessionCall.run]
      generalize session.process message now = result at hprocessed
      cases hprocessed with
      | frame result hnext htype hhello hreset hresult =>
          cases hresult with
          | accepted => exact fun h => by cases h
          | exceeded registered hvalid hsubset hfull hexceeds =>
              have hfew := newContacts_room hsound hdistinct hslots
              exact absurd hexceeds (not_lt.mpr (hfew.trans (hroom _ (if_pos htype))))
      | discontinuity | unexpectedHello | hello | beforeHello | reset | beforeReset =>
          exact fun h => by cases h

theorem run_slotsWithin {session after : TouchSession} (hsound : session.Sound)
    {call : SessionCall} (hdistinct : call.Distinct) {output : Option IoctlFrame}
    (hrun : call.run session = (.ok output, after)) {held : Finset UInt32}
    (hslots : SlotsWithin held session) : SlotsWithin ((touchingInCall call).getD held) after := by
  have heffect := call.run_effect hdistinct hsound
  rw [hrun] at heffect
  dsimp only at heffect
  cases heffect with
  | quiet _ hcall hsame hcontacts hbutton =>
      intro item hitem
      have hnone : touchingInCall call = none := by
        cases call with
        | process message now => exact if_neg (by simp [hcall message now rfl])
        | timeout now | disconnect => rfl
      rw [hnone]
      exact hslots item (hsame ▸ hitem)
  | emitted _ header registered hcall hheader hassigned =>
      intro item hitem
      rw [hassigned.slots_eq] at hitem
      have htip : item.1 ∈ tipIdentifiers call.shown := by simpa using (List.mem_filter.mp hitem).2
      cases call with
      | process message now =>
          rw [SessionCall.shown] at htip
          split at htip
          case isTrue htype =>
            have htouching : touchingInCall (.process message now) =
                some (tipIdentifiers message.contacts).toFinset := if_pos htype
            rw [htouching]
            exact List.mem_toFinset.mpr htip
          case isFalse => simp [tipIdentifiers] at htip
      | timeout now | disconnect => simp [SessionCall.shown, tipIdentifiers] at htip

theorem fitsAll_of_room {session : TouchSession} (hsound : session.Sound)
    {calls : List SessionCall} (hdistinct : ∀ call ∈ calls, call.Distinct)
    {held : Finset UInt32} (hslots : SlotsWithin held session)
    (hroom : RoomFor held (calls.map touchingInCall)) : session.FitsAll calls := by
  induction calls generalizing session held with
  | nil => exact List.forall_mem_nil _
  | cons call calls ih =>
      obtain ⟨hcall, hcalls⟩ := List.forall_mem_cons.mp hdistinct
      rw [List.map_cons] at hroom
      have hlater : RoomFor ((touchingInCall call).getD held) (calls.map touchingInCall) := by
        cases htouching : touchingInCall call with
        | none =>
            rw [htouching] at hroom
            exact hroom
        | some touching =>
            rw [htouching] at hroom
            exact hroom.2
      have hfirst : (call.run session).1 ≠ .error .moreThanFiveActive := by
        refine run_fits hsound hcall hslots fun touching htouching => ?_
        rw [htouching] at hroom
        exact hroom.1
      have hafter := hsound.run hcall
      cases hresult : call.run session with
      | mk outcome after =>
          rw [hresult] at hfirst hafter
          cases outcome with
          | error error =>
              rw [TouchSession.FitsAll, TouchSession.untilThrow_error hresult]
              exact List.forall_mem_singleton.mpr hfirst
          | ok output =>
              rw [TouchSession.FitsAll, TouchSession.untilThrow_ok hresult]
              exact List.forall_mem_cons.mpr ⟨hfirst, ih hafter hcalls
                (run_slotsWithin hsound hcall hresult hslots) hlater⟩

end Touchpad.Receiver
