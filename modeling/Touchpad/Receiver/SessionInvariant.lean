import Touchpad.Receiver.SessionSteps

/-!
# The representation invariant of a session

`slots_`, `previous_contacts_` and `button_down_` agree with each other, with the
last FRAME and with the last frame handed to the driver, in every state reached
by calls that do not throw.
-/

namespace Touchpad.Receiver

open Touchpad.Foundation
open Touchpad.Shared

/-! ## What the invariant speaks about -/

/-- The last FRAME, if no RESET, release or disconnect came after it. -/
def frameInForce (frame : Option Message) (step : SessionStep) : Option Message :=
  match step.call with
  | .process message _ =>
      match message.type with
      | .hello => frame
      | .reset => none
      | .frame => some message
  | .timeout _ => if step.frame.isSome then none else frame
  | .disconnect => none

def lastEmitted (frame : Option IoctlFrame) (step : SessionStep) : Option IoctlFrame :=
  step.frame.or frame

def contactsOf (frame : Option Message) : List Contact :=
  (frame.map Message.contacts).getD []

/-- The driver was last told exactly the slots in use and the button. -/
def Told (session : TouchSession) : Option IoctlFrame → Prop
  | none => session.slots = [] ∧ session.buttonDown = false
  | some frame =>
      (∀ slot, (∃ record ∈ frame.recordsFor slot, record.hasTip = true) ↔
        slot ∈ session.slots.map Prod.snd) ∧
      frame.hasButton = session.buttonDown

theorem Told.congr {session after : TouchSession} {emitted : Option IoctlFrame}
    (h : Told session emitted) (hslots : after.slots = session.slots)
    (hbutton : after.buttonDown = session.buttonDown) : Told after emitted := by
  cases emitted <;> simpa only [Told, hslots, hbutton] using h

structure Coherent (session : TouchSession) (frame : Option Message)
    (emitted : Option IoctlFrame) : Prop where
  valid : session.slots.Valid
  domain : ∀ identifier, identifier ∈ session.slots.map Prod.fst ↔
    identifier ∈ tipIdentifiers (contactsOf frame)
  stored_iff : ∀ slot contact, session.previousContacts.get slot = some contact ↔
    contact ∈ contactsOf frame ∧ contact.hasTip = true ∧
      (contact.identifier, slot) ∈ session.slots
  told : Told session emitted

theorem Coherent.sound {session : TouchSession} {frame : Option Message}
    {emitted : Option IoctlFrame} (h : Coherent session frame emitted) : session.Sound where
  valid := h.valid
  held slot contact hcontact := ((h.stored_iff slot contact).mp hcontact).2

theorem coherent_initial : Coherent {} none none where
  valid := SlotTable.Valid.nil
  domain := by simp [contactsOf, tipIdentifiers]
  stored_iff := by simp [contactsOf]
  told := ⟨rfl, rfl⟩

/-! ## Emitted records -/

theorem transition_recordsFor (header : IoctlFrame) (before after : ContactSlots)
    (slot : Nat) :
    (transition header before after).recordsFor slot =
      (((after.get slot).or ((before.get slot).map Contact.lifted)).map
        (ioctlContact slot)).toList := by
  rw [transition, filled_recordsFor, ContactSlots.get_overlay]

theorem Assigned.slot_mem_iff {start registered slots : SlotMap} {contacts : List Contact}
    {stored : ContactSlots} (h : Assigned start registered contacts slots stored)
    (slot : Nat) : slot ∈ slots.map Prod.snd ↔ (stored.get slot).isSome = true := by
  rw [Option.isSome_iff_exists, List.mem_map]
  constructor
  · rintro ⟨⟨identifier, held⟩, hmem, rfl⟩
    have htip : identifier ∈ tipIdentifiers contacts := by
      rw [h.slots_eq] at hmem
      simpa using (List.mem_filter.mp hmem).2
    obtain ⟨contact, hcontact, hflag, rfl⟩ := mem_tipIdentifiers.mp htip
    exact ⟨contact, (h.stored_iff held contact).mpr ⟨hcontact, hflag, hmem⟩⟩
  · rintro ⟨contact, hcontact⟩
    exact ⟨_, ((h.stored_iff slot contact).mp hcontact).2.2, rfl⟩

theorem Assigned.told {start registered : SlotMap} {contacts : List Contact}
    {session : TouchSession} {header : IoctlFrame} (before : ContactSlots)
    (h : Assigned start registered contacts session.slots session.previousContacts)
    (hheader : Announces header session.buttonDown) :
    Told session (some (transition header before session.previousContacts)) := by
  refine ⟨fun slot => ?_, hheader.button⟩
  rw [h.slot_mem_iff, transition_recordsFor]
  cases hafter : session.previousContacts.get slot with
  | some contact =>
      have htip := ((h.stored_iff slot contact).mp hafter).2.1
      simp [htip]
  | none => cases before.get slot <;> simp

/-! ## Steps and runs -/

theorem run_disconnect_cleared (session : TouchSession) :
    (SessionCall.disconnect.run session).2.slots = [] ∧
      (SessionCall.disconnect.run session).2.previousContacts = ContactSlots.none ∧
      (SessionCall.disconnect.run session).2.buttonDown = false := by
  rw [SessionCall.run, TouchSession.onDisconnect_eq]
  exact ⟨rfl, rfl, rfl⟩

theorem contactsOf_emitted {step : SessionStep} (frame : Option Message)
    (hcall : ∀ message now, step.call = .process message now → message.type ≠ .hello)
    (hframe : step.frame.isSome = true) :
    contactsOf (frameInForce frame step) = step.call.shown := by
  cases hstep : step.call with
  | process message now =>
      have hnotHello := hcall message now hstep
      cases htype : message.type with
      | hello => exact absurd htype hnotHello
      | reset => simp [frameInForce, hstep, htype, contactsOf, SessionCall.shown]
      | frame => simp [frameInForce, hstep, htype, contactsOf, SessionCall.shown]
  | timeout now => simp [frameInForce, hstep, hframe, contactsOf, SessionCall.shown]
  | disconnect => simp [frameInForce, hstep, contactsOf, SessionCall.shown]

theorem Coherent.of_assigned {session : TouchSession} {frame : Option Message}
    {emitted : Option IoctlFrame} {start registered : SlotMap}
    (hassigned : Assigned start registered (contactsOf frame) session.slots
      session.previousContacts)
    (htold : Told session emitted) : Coherent session frame emitted where
  valid := hassigned.valid
  domain identifier := by
    constructor
    · intro hmem
      obtain ⟨item, hitem, rfl⟩ := List.mem_map.mp hmem
      rw [hassigned.slots_eq] at hitem
      simpa using (List.mem_filter.mp hitem).2
    · intro htip
      obtain ⟨slot, hslot⟩ := hassigned.placed identifier htip
      exact List.mem_map_of_mem hslot
  stored_iff := hassigned.stored_iff
  told := htold

theorem Coherent.step {session : TouchSession} {frame : Option Message}
    {emitted : Option IoctlFrame} (h : Coherent session frame emitted)
    {call : SessionCall} (hdistinct : call.Distinct) {output : Option IoctlFrame}
    {after : TouchSession} (hrun : call.run session = (.ok output, after)) :
    let step : SessionStep := ⟨call, session, .ok output, after⟩
    Coherent after (frameInForce frame step) (lastEmitted emitted step) := by
  intro step
  have heffect := call.run_effect hdistinct h.sound
  simp only [hrun] at heffect
  cases heffect with
  | quiet _ hcall hslots hcontacts hbutton =>
      have htold : Told after (lastEmitted emitted step) := h.told.congr hslots hbutton
      have hkept : Coherent after frame (lastEmitted emitted step) :=
        ⟨hslots ▸ h.valid, by rw [hslots]; exact h.domain,
          by rw [hslots, hcontacts]; exact h.stored_iff, htold⟩
      cases call with
      | process message now =>
          have hstep : frameInForce frame step = frame := by
            simp [frameInForce, step, hcall message now rfl]
          rwa [hstep]
      | timeout now => exact hkept
      | disconnect =>
          have hcleared := run_disconnect_cleared session
          simp only [hrun] at hcleared
          have hempty : Assigned [] [] [] after.slots after.previousContacts := by
            rw [hcleared.1, hcleared.2.1]
            exact Assigned.nothing SlotTable.Valid.nil
          exact .of_assigned hempty htold
  | emitted _ header registered hcall hheader hassigned =>
      have hshown : contactsOf (frameInForce frame step) = call.shown :=
        contactsOf_emitted frame hcall rfl
      rw [← hshown] at hassigned
      exact .of_assigned hassigned (hassigned.told _ hheader)

theorem Coherent.run {session : TouchSession} {frame : Option Message}
    {emitted : Option IoctlFrame} (h : Coherent session frame emitted)
    (calls : List SessionCall) (hdistinct : ∀ call ∈ calls, call.Distinct)
    (hreturns : ∀ step ∈ session.trace calls, ¬ step.Throws) :
    Coherent (session.after calls) ((session.trace calls).foldl frameInForce frame)
      ((session.trace calls).foldl lastEmitted emitted) := by
  induction calls generalizing session frame emitted with
  | nil => exact h
  | cons call calls ih =>
      rw [TouchSession.trace] at hreturns ⊢
      cases hrun : call.run session with
      | mk outcome after =>
          have hcallStep : call.step session = ⟨call, session, outcome, after⟩ := by
            rw [SessionCall.step, hrun]
          rw [hrun, hcallStep] at hreturns
          rw [hcallStep]
          cases outcome with
          | error error =>
              exact absurd rfl (hreturns _ List.mem_cons_self)
          | ok output =>
              have hstep := h.step (hdistinct call List.mem_cons_self) hrun
              have hafter : session.after (call :: calls) = after.after calls := by
                rw [TouchSession.after, List.foldl_cons, hrun]
                rfl
              rw [hafter, List.foldl_cons, List.foldl_cons]
              exact ih hstep (fun call hcall => hdistinct call (List.mem_cons_of_mem _ hcall))
                (fun step hmem => hreturns step (List.mem_cons_of_mem _ hmem))

/-! ## Writes into the frame -/

private theorem finRange_split {visited later : List (Fin mtpHidMaxContacts)}
    {slot : Fin mtpHidMaxContacts}
    (h : List.finRange mtpHidMaxContacts = visited ++ slot :: later) :
    visited.length < mtpHidMaxContacts := by
  have hlength := congrArg List.length h
  simp only [List.length_finRange, List.length_append, List.length_cons] at hlength
  omega

/-- Whichever slot the report loop of `Process` has come to, the next record goes
into `output.contacts[0..4]`. -/
theorem report_index_lt {visited later : List (Fin mtpHidMaxContacts)}
    {slot : Fin mtpHidMaxContacts}
    (h : List.finRange mtpHidMaxContacts = visited ++ slot :: later)
    (nextContacts : ContactSlots) (message : Message) {output : IoctlFrame}
    (houtput : reportContacts nextContacts visited (TouchSession.frameHeader message) =
      .ok output) : output.reportContactCount.toNat < mtpHidMaxContacts := by
  have hvisited := finRange_split h
  rw [TouchSession.reportContacts_frameHeader _ _ hvisited.le] at houtput
  cases houtput
  have hlength := slotRecords_length_le nextContacts visited
  rw [filled_reportContactCount _ (by omega)]
  omega

/-- The same for the report loop of `ReleaseAll`. -/
theorem release_index_lt {visited later : List (Fin mtpHidMaxContacts)}
    {slot : Fin mtpHidMaxContacts}
    (h : List.finRange mtpHidMaxContacts = visited ++ slot :: later)
    (previousContacts : ContactSlots) (sequence : UInt32) (reset : Bool) :
    (releaseContacts previousContacts visited
      (TouchSession.releaseHeader sequence reset)).reportContactCount.toNat <
      mtpHidMaxContacts := by
  have hvisited := finRange_split h
  rw [TouchSession.releaseHeader_filled, releaseContacts_filled _ _ _ _
    (by simpa using hvisited.le) rfl]
  have hlength := slotRecords_length_le (previousContacts.overlay ContactSlots.none) visited
  rw [List.nil_append, filled_reportContactCount _ (by omega)]
  omega

/-! ## The invariant -/

/-- The state of a session after calls that do not throw, in the words of the
source, and what follows for the calls after them. -/
theorem representation_invariant (calls : List SessionCall)
    (hdistinct : ∀ call ∈ calls, call.Distinct)
    (hreturns : ∀ step ∈ ({} : TouchSession).trace calls, ¬ step.Throws) :
    let steps := ({} : TouchSession).trace calls
    let session := ({} : TouchSession).after calls
    let contacts := contactsOf (steps.foldl frameInForce none)
    -- `slots_` is injective into 0..4, with the TIP identifiers as its domain
    (session.slots.map Prod.fst).Nodup ∧
    (∀ first second slot, (first, slot) ∈ session.slots → (second, slot) ∈ session.slots →
      first = second) ∧
    (∀ item ∈ session.slots, item.2 < mtpHidMaxContacts) ∧
    (∀ identifier, identifier ∈ session.slots.map Prod.fst ↔
      ∃ contact ∈ contacts, contact.hasTip = true ∧ contact.identifier = identifier) ∧
    -- `previous_contacts_` holds the contact of each slot in use, and nothing else
    (∀ slot, (session.previousContacts.get slot).isSome = true ↔
      slot ∈ session.slots.map Prod.snd) ∧
    (∀ slot contact, session.previousContacts.get slot = some contact →
      contact ∈ contacts ∧ contact.hasTip = true ∧
        (contact.identifier, slot) ∈ session.slots) ∧
    -- the driver was told the same
    Told session (steps.foldl lastEmitted none) ∧
    -- two errors cannot come next
    (∀ call : SessionCall, call.Distinct →
      (call.run session).1 ≠ .error .noFreeSlot ∧
      (call.run session).1 ≠ .error .reportCapacityExceeded) ∧
    -- every record is written into the five entries of the frame
    (∀ visited slot later, List.finRange mtpHidMaxContacts = visited ++ slot :: later →
      (∀ message nextContacts output,
        reportContacts nextContacts visited (TouchSession.frameHeader message) = .ok output →
          output.reportContactCount.toNat < mtpHidMaxContacts) ∧
      ∀ sequence reset,
        (releaseContacts session.previousContacts visited
          (TouchSession.releaseHeader sequence reset)).reportContactCount.toNat <
          mtpHidMaxContacts) := by
  intro steps session contacts
  have h : Coherent session (steps.foldl frameInForce none) (steps.foldl lastEmitted none) :=
    coherent_initial.run calls hdistinct hreturns
  refine ⟨h.valid.keys_nodup, fun first second slot => h.valid.key_unique, h.valid.slot_lt,
    fun identifier => (h.domain identifier).trans mem_tipIdentifiers, fun slot => ?_,
    fun slot contact => (h.stored_iff slot contact).mp, h.told, fun call hcall => ?_,
    fun visited slot later hsplit => ⟨fun message nextContacts output =>
      report_index_lt hsplit nextContacts message, release_index_lt hsplit _⟩⟩
  · rw [Option.isSome_iff_exists, List.mem_map]
    constructor
    · rintro ⟨contact, hcontact⟩
      exact ⟨_, ((h.stored_iff slot contact).mp hcontact).2.2, rfl⟩
    · rintro ⟨⟨identifier, held⟩, hmem, rfl⟩
      obtain ⟨contact, hcontact, htip, rfl⟩ :=
        mem_tipIdentifiers.mp ((h.domain identifier).mp (List.mem_map_of_mem hmem))
      exact ⟨contact, (h.stored_iff held contact).mpr ⟨hcontact, htip, hmem⟩⟩
  · have heffect := call.run_effect hcall h.sound
    generalize call.run session = result at heffect
    obtain ⟨outcome, after⟩ := result
    dsimp only at heffect ⊢
    cases heffect with
    | quiet => exact ⟨nofun, nofun⟩
    | refused error _ herror =>
        exact ⟨fun heq => herror.1 (by cases heq; rfl), fun heq => herror.2 (by cases heq; rfl)⟩
    | threw => exact ⟨nofun, nofun⟩
    | emitted => exact ⟨nofun, nofun⟩

theorem representation_invariant_first_touch :
    Told (({} : TouchSession).after firstTouch)
      ((({} : TouchSession).trace firstTouch).foldl lastEmitted none) :=
  (representation_invariant firstTouch (by decide) (by decide +kernel)).2.2.2.2.2.2.1

end Touchpad.Receiver
