import Touchpad.Foundation.Lifecycle
import Touchpad.Receiver.SessionInvariant

/-!
# The records of one slot over a run

Seen from one slot, the emitted frames are lifecycles of contact identifiers: TIP
records, then one lift, then nothing until the next identifier gets the slot.
This holds over any calls, also after one that throws.
-/

namespace Touchpad.Receiver

open Touchpad.Foundation
open Touchpad.Shared

/-- A lift has Tip cleared and repeats the rest of the last record. -/
def liftRule : LifecycleRule IoctlContact where
  active record := record.hasTip = true
  closes last lift :=
    lift.x = last.x ∧ lift.y = last.y ∧
      lift.flags &&& ~~~mtpIoctlContactTip = last.flags &&& ~~~mtpIoctlContactTip

def slotOwner (slots : SlotMap) (slot : Nat) : Option UInt32 :=
  (slots.find? fun item => item.2 = slot).map Prod.fst

/-- The records that an emitted frame carries for a slot, with their identifiers:
the one that has the slot after the step, and for a lift the one that had it before. -/
def SessionStep.ownedRecords (step : SessionStep) (slot : Nat) (frame : IoctlFrame) :
    List (Option UInt32 × IoctlContact) :=
  (frame.recordsFor slot).map fun record =>
    (slotOwner (if record.hasTip then step.after.slots else step.before.slots) slot, record)

def slotTrace (steps : List SessionStep) (slot : Nat) :
    List (List (Option UInt32 × IoctlContact)) :=
  steps.filterMap fun step => step.frame.map (step.ownedRecords slot)

def storedRecord (session : TouchSession) (slot : Nat) :
    Option (Option UInt32 × IoctlContact) :=
  (session.previousContacts.get slot).map fun contact =>
    (some contact.identifier, ioctlContact slot contact)

theorem slotOwner_eq {slots : SlotMap} (hvalid : slots.Valid) {identifier : UInt32}
    {slot : Nat} (hmem : (identifier, slot) ∈ slots) :
    slotOwner slots slot = some identifier := by
  cases hfind : slots.find? fun item => item.2 = slot with
  | none => simpa using List.find?_eq_none.mp hfind _ hmem
  | some item =>
      obtain ⟨identifier', slot'⟩ := item
      obtain rfl : slot' = slot := by simpa using List.find?_some hfind
      have hmem' := List.mem_of_find?_eq_some hfind
      rw [slotOwner, hfind, Option.map_some, hvalid.key_unique hmem' hmem]

theorem liftRule_closes (slot : Nat) (contact : Contact) :
    liftRule.closes (ioctlContact slot contact) (ioctlContact slot contact.lifted) := by
  refine ⟨rfl, rfl, ?_⟩
  simp only [ioctlContact, Contact.lifted]
  rw [UInt8.and_assoc]
  rfl

/-- The one step: an emitted frame continues, opens or closes the lifecycle of a
slot as the contacts stored before and after it say. -/
theorem slotStep_of_assigned {call : SessionCall} {before after : TouchSession}
    {outcome : Except ProtocolError (Option IoctlFrame)} {header : IoctlFrame}
    {registered : SlotMap} {contacts : List Contact} (hsound : before.Sound)
    (hassigned : Assigned before.slots registered contacts after.slots after.previousContacts)
    (slot : Nat) :
    SlotStep liftRule (storedRecord before slot)
      (SessionStep.ownedRecords ⟨call, before, outcome, after⟩ slot
        (transition header before.previousContacts after.previousContacts))
      (storedRecord after slot) := by
  rw [SessionStep.ownedRecords, transition_recordsFor, storedRecord, storedRecord]
  cases hbefore : before.previousContacts.get slot with
  | none =>
      cases hafter : after.previousContacts.get slot with
      | none => exact .idle
      | some contact =>
          obtain ⟨htip, hslot⟩ := hassigned.held slot contact hafter
          simp only [Option.some_or, Option.map_some, Option.toList_some,
            List.map_cons, List.map_nil, Option.map_none, ioctlContact_hasTip, htip, if_true,
            slotOwner_eq hassigned.valid hslot]
          exact .opens _ _ htip
  | some last =>
      obtain ⟨hlastTip, hlastSlot⟩ := hsound.held slot last hbefore
      cases hafter : after.previousContacts.get slot with
      | none =>
          simp only [Option.none_or, Option.map_some, Option.toList_some, List.map_cons,
            List.map_nil, Option.map_none, ioctlContact_hasTip, Contact.lifted_hasTip,
            Bool.false_eq_true, if_false, slotOwner_eq hsound.valid hlastSlot]
          refine .closes _ _ _ ?_ (liftRule_closes slot last)
          simp [liftRule]
      | some contact =>
          obtain ⟨htip, hslot⟩ := hassigned.held slot contact hafter
          have hregistered : (contact.identifier, slot) ∈ registered := by
            rw [hassigned.slots_eq] at hslot
            exact List.mem_of_mem_filter hslot
          have hsame : last.identifier = contact.identifier :=
            hassigned.registered_valid.key_unique (hassigned.start_subset hlastSlot) hregistered
          simp only [Option.some_or, Option.map_some, Option.toList_some, List.map_cons,
            List.map_nil, ioctlContact_hasTip, htip, if_true,
            slotOwner_eq hassigned.valid hslot, hsame]
          exact .continues _ _ _ htip

theorem slotTrace_step {step : SessionStep} (hsound : step.before.Sound)
    (heffect : Effect step.call step.before step.outcome step.after) (slot : Nat) :
    (step.frame = none ∧ storedRecord step.after slot = storedRecord step.before slot) ∨
      ∃ frame, step.frame = some frame ∧
        SlotStep liftRule (storedRecord step.before slot) (step.ownedRecords slot frame)
          (storedRecord step.after slot) := by
  obtain ⟨call, before, outcome, after⟩ := step
  dsimp only at hsound heffect ⊢
  cases heffect with
  | quiet _ hcall hslots hcontacts hbutton =>
      exact .inl ⟨rfl, by simp only [storedRecord, hcontacts]⟩
  | refused error _ herror hslots hcontacts hbutton =>
      exact .inl ⟨rfl, by simp only [storedRecord, hcontacts]⟩
  | threw _ hvalid hsubset hfull hcontacts =>
      exact .inl ⟨rfl, by simp only [storedRecord, hcontacts]⟩
  | emitted _ header registered hcall hheader hassigned =>
      exact .inr ⟨_, rfl, slotStep_of_assigned hsound hassigned slot⟩

theorem slotTrace_decomposed (calls : List SessionCall)
    (hdistinct : ∀ call ∈ calls, call.Distinct) (slot : Nat) :
    ∃ pending, Decomposed liftRule (slotTrace (({} : TouchSession).trace calls) slot) pending ∧
      lastShown pending = storedRecord (({} : TouchSession).after calls) slot := by
  induction calls using List.reverseRecOn with
  | nil => exact ⟨none, .nil, by simp [lastShown, storedRecord, TouchSession.after]⟩
  | append_singleton calls call ih =>
      have hcalls : ∀ earlier ∈ calls, earlier.Distinct :=
        fun earlier hearlier => hdistinct earlier (List.mem_append_left _ hearlier)
      obtain ⟨pending, hdecomposed, hlast⟩ := ih hcalls
      have hsound := TouchSession.sound_initial.after calls hcalls
      have hcall : call.Distinct := hdistinct call (by simp)
      have htrace : slotTrace (({} : TouchSession).trace (calls ++ [call])) slot =
          slotTrace (({} : TouchSession).trace calls) slot ++
            slotTrace [call.step (({} : TouchSession).after calls)] slot := by
        rw [TouchSession.trace_append, slotTrace, List.filterMap_append]
        rfl
      rw [htrace, TouchSession.after_append]
      rcases slotTrace_step hsound (call.step_effect hcall hsound) slot with
        ⟨hframe, hsame⟩ | ⟨frame, hframe, hstep⟩
      · refine ⟨pending, ?_, hlast.trans hsame.symm⟩
        simpa [slotTrace, hframe] using hdecomposed
      · obtain ⟨pending', hdecomposed', hlast'⟩ := hdecomposed.snoc (hlast ▸ hstep)
        refine ⟨pending', ?_, hlast'⟩
        simpa [slotTrace, hframe] using hdecomposed'

theorem ownedRecords_owner {step : SessionStep} (hsound : step.before.Sound)
    (heffect : Effect step.call step.before step.outcome step.after) {slot : Nat}
    {frame : IoctlFrame} (hframe : step.frame = some frame)
    {item : Option UInt32 × IoctlContact} (hitem : item ∈ step.ownedRecords slot frame) :
    ∃ identifier, item.1 = some identifier ∧
      (item.2.hasTip = true → ∃ contact ∈ step.call.shown,
        contact.identifier = identifier ∧ item.2 = ioctlContact slot contact) := by
  obtain ⟨call, before, outcome, after⟩ := step
  dsimp only at hsound heffect ⊢
  cases heffect with
  | quiet => cases hframe
  | refused => cases hframe
  | threw => cases hframe
  | emitted _ header registered hcall hheader hassigned =>
      cases hframe
      rw [SessionStep.ownedRecords, transition_recordsFor] at hitem
      dsimp only at hitem hsound hassigned ⊢
      cases hafter : after.previousContacts.get slot with
      | some contact =>
          obtain ⟨hshown, htip, hslot⟩ := (hassigned.stored_iff slot contact).mp hafter
          simp only [hafter, Option.some_or, Option.map_some, Option.toList_some, List.map_cons,
            List.map_nil, List.mem_singleton, ioctlContact_hasTip, htip, if_true,
            slotOwner_eq hassigned.valid hslot] at hitem
          subst hitem
          exact ⟨contact.identifier, rfl, fun _ => ⟨contact, hshown, rfl, rfl⟩⟩
      | none =>
          cases hbefore : before.previousContacts.get slot with
          | none => simp [hafter, hbefore] at hitem
          | some last =>
              obtain ⟨-, hslot⟩ := hsound.held slot last hbefore
              simp only [hafter, hbefore, Option.none_or, Option.map_some, Option.toList_some,
                List.map_cons, List.map_nil, List.mem_singleton, ioctlContact_hasTip,
                Contact.lifted_hasTip, Bool.false_eq_true, if_false,
                slotOwner_eq hsound.valid hslot] at hitem
              subst hitem
              exact ⟨last.identifier, rfl, fun htip => by simp at htip⟩

theorem stored_of_emitted {step : SessionStep} (hsound : step.before.Sound)
    (heffect : Effect step.call step.before step.outcome step.after)
    (hends : step.frame.isSome = true) {slot : Nat} {contact : Contact}
    (hstored : step.after.previousContacts.get slot = some contact) :
    contact ∈ step.call.shown ∧ contact.hasTip = true := by
  obtain ⟨call, before, outcome, after⟩ := step
  dsimp only at hsound heffect hstored ⊢
  cases heffect with
  | quiet => cases hends
  | refused => cases hends
  | threw => cases hends
  | emitted _ header registered hcall hheader hassigned =>
      obtain ⟨hshown, htip, -⟩ := (hassigned.stored_iff slot contact).mp hstored
      exact ⟨hshown, htip⟩

/-- The records of a slot over any calls are lifecycles of single identifiers; the
identifier of the open one is that of the stored contact. -/
theorem lift_exactly_once (calls : List SessionCall)
    (hdistinct : ∀ call ∈ calls, call.Distinct) (slot : Nat) :
    let steps := ({} : TouchSession).trace calls
    let session := ({} : TouchSession).after calls
    (∃ pending, Decomposed liftRule (slotTrace steps slot) pending ∧
      pending.map Prod.fst = (session.previousContacts.get slot).map
        fun contact => some contact.identifier) ∧
    (∀ step ∈ steps, ∀ frame, step.frame = some frame →
      ∀ item ∈ step.ownedRecords slot frame, ∃ identifier, item.1 = some identifier ∧
        (item.2.hasTip = true → ∃ contact ∈ step.call.shown,
          contact.identifier = identifier ∧ item.2 = ioctlContact slot contact)) ∧
    (∀ step ∈ steps, step.frame.isSome = true → ∀ contact,
      step.after.previousContacts.get slot = some contact →
        contact ∈ step.call.shown ∧ contact.hasTip = true) ∧
    (calls.getLast? = some .disconnect → session.previousContacts.get slot = none) := by
  intro steps session
  refine ⟨?_, ?_, ?_, ?_⟩
  · obtain ⟨pending, hdecomposed, hlast⟩ := slotTrace_decomposed calls hdistinct slot
    refine ⟨pending, hdecomposed, ?_⟩
    have howner := congrArg (Option.map Prod.fst) hlast
    rw [hdecomposed.owner_eq] at howner
    simpa [storedRecord, Function.comp_def] using howner
  · intro step hstep frame hframe item hitem
    obtain ⟨hsound, heffect⟩ := TouchSession.sound_initial.trace calls hdistinct hstep
    exact ownedRecords_owner hsound heffect hframe hitem
  · intro step hstep hends contact hstored
    obtain ⟨hsound, heffect⟩ := TouchSession.sound_initial.trace calls hdistinct hstep
    exact stored_of_emitted hsound heffect hends hstored
  · intro hdisconnect
    obtain ⟨earlier, hcalls⟩ := List.getLast?_eq_some_iff.mp hdisconnect
    have hcleared := (run_disconnect_cleared (({} : TouchSession).after earlier)).2.1
    have hsession : session.previousContacts = ContactSlots.none := by
      simp only [session, hcalls, TouchSession.after_append]
      exact hcleared
    rw [hsession, ContactSlots.get_none]

theorem lift_exactly_once_first_touch :
    ∃ pending, Decomposed liftRule
        (slotTrace (({} : TouchSession).trace (firstTouch ++ [.disconnect])) 0) pending ∧
      pending = none := by
  obtain ⟨⟨pending, hdecomposed, howner⟩, -, -, hclosed⟩ :=
    lift_exactly_once (firstTouch ++ [.disconnect]) (by decide) 0
  rw [hclosed rfl] at howner
  exact ⟨pending, hdecomposed, by simpa using howner⟩

end Touchpad.Receiver
