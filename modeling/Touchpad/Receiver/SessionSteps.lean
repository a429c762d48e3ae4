import Touchpad.Protocol.TouchFrame
import Touchpad.Receiver.Report

/-!
# The steps of a session

One inversion lemma for each operation of `TouchSession`, and from them the one
statement about all calls that the later modules build on: `SessionCall.run_effect`.
Every call leaves the contacts alone, or emits the frame that takes the contacts
before it to the contacts after it, or throws after it has registered contacts.
-/

namespace Touchpad.Receiver

open Touchpad.Foundation
open Touchpad.Shared

def Message.hasButton (message : Message) : Bool :=
  decide (message.flags &&& kFrameButton ≠ 0)

def transition (header : IoctlFrame) (before after : ContactSlots) : IoctlFrame :=
  filled header (frameRecords (before.overlay after))

namespace TouchSession

theorem reportContacts_frameHeader (contacts : ContactSlots) (message : Message)
    {slots : List (Fin mtpHidMaxContacts)} (h : slots.length ≤ mtpHidMaxContacts) :
    reportContacts contacts slots (frameHeader message) =
      .ok (filled (frameHeader message) (slotRecords contacts slots)) :=
  reportContacts_filled contacts (frameHeader message) slots [] (by simpa using h)

theorem releaseHeader_filled (sequence : UInt32) (reset : Bool) :
    releaseHeader sequence reset = filled (releaseHeader sequence reset) [] := rfl

def numbered (session : TouchSession) (sequence : UInt32) : TouchSession :=
  { session with sequenceSeen := true, previousSequence := sequence }

@[simp] theorem numbered_slots (session : TouchSession) (sequence : UInt32) :
    (session.numbered sequence).slots = session.slots := rfl

def released (session : TouchSession) : TouchSession :=
  { session with
    slots := []
    previousContacts := ContactSlots.none
    buttonDown := false }

def InSequence (session : TouchSession) (sequence : UInt32) : Prop :=
  session.sequenceSeen = true → sequence = session.previousSequence + 1

instance (session : TouchSession) (sequence : UInt32) :
    Decidable (session.InSequence sequence) :=
  inferInstanceAs (Decidable (_ → _))

/-- Slots are valid and hold the stored contacts.  This holds after any call,
also after one that throws. -/
structure Sound (session : TouchSession) : Prop where
  valid : session.slots.Valid
  held : Held session.slots session.previousContacts

theorem releaseAll_eq (session : TouchSession) (sequence : UInt32) (reset : Bool) :
    session.releaseAll sequence reset =
      (transition (releaseHeader sequence reset) session.previousContacts ContactSlots.none,
        session.released) := by
  have hfill := releaseContacts_filled session.previousContacts
    (releaseHeader sequence reset) (List.finRange mtpHidMaxContacts) [] (by simp) rfl
  rw [← releaseHeader_filled] at hfill
  rw [releaseAll]
  exact Prod.ext hfill rfl

inductive FrameProcessed (session : TouchSession) (message : Message) (now : Time) :
    Except ProtocolError IoctlFrame × TouchSession → Prop
  | exceeded (registered : SlotMap) (hvalid : registered.Valid)
      (hsubset : session.slots ⊆ registered)
      (hfull : mtpHidMaxContacts ≤ registered.length)
      (hexceeds : mtpHidMaxContacts <
        session.slots.length + (newContacts session.slots message.contacts).length) :
      FrameProcessed session message now (.error .moreThanFiveActive,
        { session with buttonDown := message.hasButton, slots := registered })
  | accepted (registered slots : SlotMap) (stored : ContactSlots)
      (hassigned : Assigned session.slots registered message.contacts slots stored)
      (hroom : session.slots.length +
        (newContacts session.slots message.contacts).length ≤ mtpHidMaxContacts) :
      FrameProcessed session message now
        (.ok (transition (frameHeader message) session.previousContacts stored),
          { session with
            buttonDown := message.hasButton
            slots
            previousContacts := stored
            lastFrameTime := now })

theorem processFrame_processed {session : TouchSession} (hsound : session.Sound)
    (message : Message) (now : Time)
    (hdistinct : (message.contacts.map Contact.identifier).Nodup) :
    FrameProcessed session message now (session.processFrame message now) := by
  have hregistered := (Registers.start hsound.valid).registerContacts message.contacts hdistinct
  rw [processFrame]
  simp only []
  generalize registerContacts { slots := session.slots } message.contacts = registered
    at hregistered
  cases hregistered with
  | exceeded registration done h hfull hexceeds =>
      exact .exceeded registration.slots h.valid h.extends_start hfull hexceeds
  | accepted registration h =>
      have hassigned := h.assigned hdistinct hsound.held
      simp only [reportContacts_frameHeader _ message (List.length_finRange).le]
      rw [h.carried hsound.held hassigned]
      refine .accepted registration.slots _ _ hassigned ?_
      have hcount := h.count
      rw [List.nil_append] at hcount
      exact hcount ▸ h.valid.length_le

inductive Processed (session : TouchSession) (message : Message) (now : Time) :
    Except ProtocolError (Option IoctlFrame) × TouchSession → Prop
  | discontinuity (hgap : ¬ session.InSequence message.sequence) :
      Processed session message now (.error .sequenceDiscontinuity, session)
  | unexpectedHello (hnext : session.InSequence message.sequence)
      (htype : message.type = .hello)
      (hseen : session.helloSeen = true ∨ session.resetSeen = true) :
      Processed session message now
        (.error .unexpectedHello, session.numbered message.sequence)
  | hello (hnext : session.InSequence message.sequence) (htype : message.type = .hello)
      (hhello : session.helloSeen = false) (hreset : session.resetSeen = false) :
      Processed session message now
        (.ok none, { session.numbered message.sequence with helloSeen := true })
  | beforeHello (hnext : session.InSequence message.sequence)
      (htype : message.type ≠ .hello) (hhello : session.helloSeen = false) :
      Processed session message now
        (.error .messageBeforeHello, session.numbered message.sequence)
  | reset (hnext : session.InSequence message.sequence) (htype : message.type = .reset)
      (hhello : session.helloSeen = true) :
      Processed session message now
        (.ok (some (transition (releaseHeader message.sequence true)
            session.previousContacts ContactSlots.none)),
          { (session.numbered message.sequence).released with resetSeen := true })
  | beforeReset (hnext : session.InSequence message.sequence)
      (htype : message.type = .frame) (hhello : session.helloSeen = true)
      (hreset : session.resetSeen = false) :
      Processed session message now
        (.error .frameBeforeReset, session.numbered message.sequence)
  | frame (result : Except ProtocolError IoctlFrame × TouchSession)
      (hnext : session.InSequence message.sequence) (htype : message.type = .frame)
      (hhello : session.helloSeen = true) (hreset : session.resetSeen = true)
      (hresult : FrameProcessed (session.numbered message.sequence) message now result) :
      Processed session message now (result.1.map some, result.2)

theorem process_processed {session : TouchSession} (hsound : session.Sound)
    (message : Message) (now : Time)
    (hdistinct : (message.contacts.map Contact.identifier).Nodup) :
    Processed session message now (session.process message now) := by
  rw [process]
  by_cases hnext : session.InSequence message.sequence
  case neg =>
    rw [if_pos (by simpa [InSequence] using hnext)]
    exact .discontinuity hnext
  rw [if_neg (by simpa [InSequence] using hnext)]
  cases htype : message.type with
  | hello =>
      simp only []
      split
      case isTrue hseen => exact .unexpectedHello hnext htype (by simpa using hseen)
      case isFalse hseen =>
        simp only [Bool.or_eq_true, not_or, Bool.not_eq_true] at hseen
        exact .hello hnext htype hseen.1 hseen.2
  | reset =>
      simp only []
      split
      case isTrue hhello => exact .beforeHello hnext (by simp [htype]) (by simpa using hhello)
      case isFalse hhello =>
        rw [releaseAll_eq]
        exact .reset hnext htype (by simpa using hhello)
  | frame =>
      simp only []
      split
      case isTrue hhello => exact .beforeHello hnext (by simp [htype]) (by simpa using hhello)
      case isFalse hhello =>
        split
        case isTrue hreset =>
          exact .beforeReset hnext htype (by simpa using hhello) (by simpa using hreset)
        case isFalse hreset =>
          have hnumbered : (session.numbered message.sequence).Sound :=
            ⟨hsound.valid, hsound.held⟩
          exact .frame _ hnext htype (by simpa using hhello) (by simpa using hreset)
            (processFrame_processed hnumbered message now hdistinct)

theorem process_frame_processed {session : TouchSession} (hsound : session.Sound)
    {message : Message} (now : Time) (htype : message.type = .frame)
    (hhello : session.helloSeen = true) (hreset : session.resetSeen = true)
    (hnext : session.InSequence message.sequence)
    (hdistinct : (message.contacts.map Contact.identifier).Nodup) :
    ∃ result, session.process message now = (result.1.map some, result.2) ∧
      FrameProcessed (session.numbered message.sequence) message now result := by
  have hprocessed := process_processed hsound message now hdistinct
  generalize session.process message now = processed at hprocessed
  cases hprocessed with
  | discontinuity hgap => exact absurd hnext hgap
  | unexpectedHello _ hhello' => simp [htype] at hhello'
  | hello _ hhello' => simp [htype] at hhello'
  | beforeHello _ _ hhello' => simp [hhello] at hhello'
  | reset _ hreset' => simp [htype] at hreset'
  | beforeReset _ _ _ hreset' => simp [hreset] at hreset'
  | frame result _ _ _ _ hresult => exact ⟨result, rfl, hresult⟩

theorem onTimeout_eq (session : TouchSession) (now : Time) :
    session.onTimeout now =
      if session.hasActiveContacts = true ∧ kFrameTimeout ≤ now - session.lastFrameTime then
        (some (transition (releaseHeader session.previousSequence true)
          session.previousContacts ContactSlots.none), session.released)
      else (none, session) := by
  rw [onTimeout, releaseAll_eq]
  by_cases hactive : session.hasActiveContacts = true <;>
    by_cases hlate : now - session.lastFrameTime < kFrameTimeout <;>
      simp [hactive, hlate, not_lt.mp, not_le.mpr]

theorem onDisconnect_eq (session : TouchSession) :
    session.onDisconnect =
      (if session.hasActiveContacts then
          some (transition (releaseHeader session.previousSequence true)
            session.previousContacts ContactSlots.none)
        else none,
        { session.released with
          helloSeen := false
          resetSeen := false
          sequenceSeen := false }) := by
  rw [onDisconnect, releaseAll_eq]

theorem released_of_inactive {session : TouchSession} (hsound : session.Sound)
    (hinactive : session.hasActiveContacts = false) :
    session.slots = [] ∧ session.previousContacts = ContactSlots.none ∧
      session.buttonDown = false := by
  simp only [hasActiveContacts, Bool.or_eq_false_iff, Bool.not_eq_false',
    List.isEmpty_iff] at hinactive
  refine ⟨hinactive.1, ContactSlots.ext_get fun slot contact => ?_, hinactive.2⟩
  rw [ContactSlots.get_none]
  constructor
  · intro hcontact
    have hslot := (hsound.held slot contact hcontact).2
    rw [hinactive.1] at hslot
    cases hslot
  · nofun

end TouchSession

/-! ## Calls -/

inductive SessionCall where
  | process (message : Message) (now : Time)
  | timeout (now : Time)
  | disconnect
  deriving DecidableEq

namespace SessionCall

def run (session : TouchSession) :
    SessionCall → Except ProtocolError (Option IoctlFrame) × TouchSession
  | process message now => session.process message now
  | timeout now =>
      let (output, session) := session.onTimeout now
      (.ok output, session)
  | disconnect =>
      let (output, session) := session.onDisconnect
      (.ok output, session)

def shown : SessionCall → List Contact
  | process message _ => if message.type = .frame then message.contacts else []
  | _ => []

/-- Identifiers occur once in a message, which `DecodeMessage` checks. -/
def Distinct : SessionCall → Prop
  | process message _ => (message.contacts.map Contact.identifier).Nodup
  | _ => True

def Decoded : SessionCall → Prop
  | process message _ => ∃ bytes, decodeMessage bytes = .ok message
  | _ => True

theorem Decoded.distinct {call : SessionCall} (h : call.Decoded) : call.Distinct := by
  cases call with
  | process message now =>
      obtain ⟨bytes, hbytes⟩ := h
      exact distinct_of_decodeMessage hbytes
  | timeout now => trivial
  | disconnect => trivial

instance : DecidablePred Distinct
  | process message _ => inferInstanceAs (Decidable (message.contacts.map _).Nodup)
  | timeout _ => .isTrue trivial
  | disconnect => .isTrue trivial

theorem Distinct.shown {call : SessionCall} (h : call.Distinct) :
    (call.shown.map Contact.identifier).Nodup := by
  cases call with
  | process message now =>
      simp only [SessionCall.shown]
      split
      · exact h
      · simp
  | timeout now => simp [SessionCall.shown]
  | disconnect => simp [SessionCall.shown]

end SessionCall

structure Announces (header : IoctlFrame) (button : Bool) : Prop where
  abiVersion : header.abiVersion = mtpIoctlAbiVersion
  flags : header.flags = mtpIoctlFrameReset ∨
    header.flags = if button then mtpIoctlFrameButton else 0
  button : header.hasButton = button

theorem announces_frameHeader (message : Message) :
    Announces (TouchSession.frameHeader message) message.hasButton where
  abiVersion := rfl
  flags := by
    right
    by_cases hbutton : message.flags &&& kFrameButton = 0 <;>
      simp [TouchSession.frameHeader, Message.hasButton, hbutton]
  button := by
    by_cases hbutton : message.flags &&& kFrameButton = 0 <;>
      simp only [TouchSession.frameHeader, Message.hasButton, IoctlFrame.hasButton, hbutton,
        ne_eq, not_true_eq_false, not_false_eq_true, if_true, if_false] <;>
      decide

theorem announces_releaseHeader (sequence : UInt32) :
    Announces (TouchSession.releaseHeader sequence true) false where
  abiVersion := rfl
  flags := .inl rfl
  button := by
    simp only [TouchSession.releaseHeader, IoctlFrame.hasButton]
    decide

theorem Assigned.nothing {start : SlotMap} (h : start.Valid) :
    Assigned start start [] [] ContactSlots.none where
  registered_valid := h
  start_subset := List.Subset.refl start
  slots_eq := by simp [tipIdentifiers]
  placed := by simp [tipIdentifiers]
  stored_iff := by simp

/-- What a call does to slots, contacts and button, with the outcome it reports. -/
inductive Effect (call : SessionCall) (before : TouchSession) :
    Except ProtocolError (Option IoctlFrame) → TouchSession → Prop
  | quiet (after : TouchSession) (hcall : ∀ message now, call = .process message now →
        message.type = .hello)
      (hslots : after.slots = before.slots)
      (hcontacts : after.previousContacts = before.previousContacts)
      (hbutton : after.buttonDown = before.buttonDown) :
      Effect call before (.ok none) after
  | refused (error : ProtocolError) (after : TouchSession)
      (herror : error ≠ .noFreeSlot ∧ error ≠ .reportCapacityExceeded)
      (hslots : after.slots = before.slots)
      (hcontacts : after.previousContacts = before.previousContacts)
      (hbutton : after.buttonDown = before.buttonDown) :
      Effect call before (.error error) after
  | threw (after : TouchSession) (hvalid : after.slots.Valid)
      (hsubset : before.slots ⊆ after.slots)
      (hfull : mtpHidMaxContacts ≤ after.slots.length)
      (hcontacts : after.previousContacts = before.previousContacts) :
      Effect call before (.error .moreThanFiveActive) after
  | emitted (after : TouchSession) (header : IoctlFrame) (registered : SlotMap)
      (hcall : ∀ message now, call = .process message now → message.type ≠ .hello)
      (hheader : Announces header after.buttonDown)
      (hassigned : Assigned before.slots registered call.shown after.slots
        after.previousContacts) :
      Effect call before
        (.ok (some (transition header before.previousContacts after.previousContacts))) after

private theorem Effect.of_assigned {call : SessionCall} {before after : TouchSession}
    {header : IoctlFrame} {stored : ContactSlots} (registered : SlotMap)
    (hcall : ∀ message now, call = .process message now → message.type ≠ .hello)
    (hcontacts : after.previousContacts = stored)
    (hheader : Announces header after.buttonDown)
    (hassigned : Assigned before.slots registered call.shown after.slots stored) :
    Effect call before
      (.ok (some (transition header before.previousContacts stored))) after := by
  subst hcontacts
  exact .emitted after header registered hcall hheader hassigned

private theorem Effect.of_release {call : SessionCall} {before after : TouchSession}
    {sequence : UInt32} (hsound : before.Sound)
    (hcall : ∀ message now, call = .process message now → message.type = .reset)
    (hslots : after.slots = []) (hcontacts : after.previousContacts = ContactSlots.none)
    (hbutton : after.buttonDown = false) :
    Effect call before
      (.ok (some (transition (TouchSession.releaseHeader sequence true)
        before.previousContacts ContactSlots.none))) after := by
  have hshown : call.shown = [] := by
    cases call with
    | process message now => simp [SessionCall.shown, hcall message now rfl]
    | timeout now => rfl
    | disconnect => rfl
  refine .of_assigned before.slots ?_ hcontacts ?_ ?_
  · intro message now hprocess
    rw [hcall message now hprocess]
    nofun
  · rw [hbutton]
    exact announces_releaseHeader sequence
  · rw [hshown, hslots]
    exact Assigned.nothing hsound.valid

theorem SessionCall.run_effect {call : SessionCall} (hdistinct : call.Distinct)
    {session : TouchSession} (hsound : session.Sound) :
    Effect call session (call.run session).1 (call.run session).2 := by
  cases call with
  | process message now =>
      have hprocessed := TouchSession.process_processed hsound message now hdistinct
      rw [run]
      generalize session.process message now = result at hprocessed
      cases hprocessed with
      | discontinuity hgap => exact .refused _ _ ⟨nofun, nofun⟩ rfl rfl rfl
      | unexpectedHello hnext htype hseen => exact .refused _ _ ⟨nofun, nofun⟩ rfl rfl rfl
      | hello hnext htype hhello hreset =>
          refine .quiet _ ?_ rfl rfl rfl
          rintro _ _ ⟨⟩
          exact htype
      | beforeHello hnext htype hhello => exact .refused _ _ ⟨nofun, nofun⟩ rfl rfl rfl
      | beforeReset hnext htype hhello hreset =>
          exact .refused _ _ ⟨nofun, nofun⟩ rfl rfl rfl
      | reset hnext htype hhello =>
          refine .of_release hsound ?_ rfl rfl rfl
          rintro _ _ ⟨⟩
          exact htype
      | frame result hnext htype hhello hreset hresult =>
          cases hresult with
          | exceeded registered hvalid hsubset hfull hexceeds =>
              exact .threw _ hvalid hsubset hfull rfl
          | accepted registered slots stored hassigned hroom =>
              have hshown : (process message now).shown = message.contacts := by
                simp [shown, htype]
              refine .of_assigned registered ?_ rfl (announces_frameHeader message)
                (hshown ▸ hassigned)
              rintro _ _ ⟨⟩
              rw [htype]
              nofun
  | timeout now =>
      by_cases hexpired : session.hasActiveContacts = true ∧
          kFrameTimeout ≤ now - session.lastFrameTime
      · rw [run, TouchSession.onTimeout_eq, if_pos hexpired]
        exact .of_release hsound nofun rfl rfl (by rfl)
      · rw [run, TouchSession.onTimeout_eq, if_neg hexpired]
        exact .quiet _ nofun rfl rfl rfl
  | disconnect =>
      rw [run, TouchSession.onDisconnect_eq]
      cases hactive : session.hasActiveContacts with
      | true =>
          exact .of_release hsound nofun rfl rfl (by rfl)
      | false =>
          obtain ⟨hslots, hcontacts, hbutton⟩ :=
            TouchSession.released_of_inactive hsound hactive
          exact .quiet _ nofun hslots.symm hcontacts.symm hbutton.symm

theorem Assigned.valid {start registered slots : SlotMap} {contacts : List Contact}
    {stored : ContactSlots} (h : Assigned start registered contacts slots stored) :
    slots.Valid :=
  h.slots_eq ▸ h.registered_valid.filter _

theorem Assigned.held {start registered slots : SlotMap} {contacts : List Contact}
    {stored : ContactSlots} (h : Assigned start registered contacts slots stored) :
    Held slots stored := by
  intro slot contact hcontact
  exact ((h.stored_iff slot contact).mp hcontact).2

theorem Effect.sound {call : SessionCall} {before after : TouchSession}
    {outcome : Except ProtocolError (Option IoctlFrame)}
    (h : Effect call before outcome after) (hsound : before.Sound) : after.Sound := by
  cases h with
  | quiet _ hcall hslots hcontacts hbutton =>
      exact ⟨hslots ▸ hsound.valid, by rw [hslots, hcontacts]; exact hsound.held⟩
  | refused _ _ herror hslots hcontacts hbutton =>
      exact ⟨hslots ▸ hsound.valid, by rw [hslots, hcontacts]; exact hsound.held⟩
  | threw _ hvalid hsubset hfull hcontacts =>
      refine ⟨hvalid, fun slot contact hcontact => ?_⟩
      obtain ⟨htip, hslot⟩ := hsound.held slot contact (hcontacts ▸ hcontact)
      exact ⟨htip, hsubset hslot⟩
  | emitted _ header registered hcall hheader hassigned =>
      exact ⟨hassigned.valid, hassigned.held⟩

/-! ## Runs of calls -/

structure SessionStep where
  call : SessionCall
  before : TouchSession
  outcome : Except ProtocolError (Option IoctlFrame)
  after : TouchSession

def SessionStep.frame (step : SessionStep) : Option IoctlFrame :=
  step.outcome.toOption.join

def SessionStep.Throws (step : SessionStep) : Prop := step.outcome.toOption = none

instance : DecidablePred SessionStep.Throws :=
  fun step => inferInstanceAs (Decidable (step.outcome.toOption = none))

def SessionCall.step (call : SessionCall) (session : TouchSession) : SessionStep where
  call
  before := session
  outcome := (call.run session).1
  after := (call.run session).2

theorem SessionCall.step_effect {call : SessionCall} (hdistinct : call.Distinct)
    {session : TouchSession} (hsound : session.Sound) :
    Effect (call.step session).call (call.step session).before (call.step session).outcome
      (call.step session).after :=
  call.run_effect hdistinct hsound

namespace TouchSession

/-- The steps of the calls in order.  A call is made whatever the one before it did. -/
def trace (session : TouchSession) : List SessionCall → List SessionStep
  | [] => []
  | call :: calls => call.step session :: trace (call.run session).2 calls

def after (session : TouchSession) (calls : List SessionCall) : TouchSession :=
  calls.foldl (fun session call => (call.run session).2) session

theorem trace_append (session : TouchSession) (first second : List SessionCall) :
    session.trace (first ++ second) =
      session.trace first ++ (session.after first).trace second := by
  induction first generalizing session with
  | nil => rfl
  | cons call first ih =>
      rw [List.cons_append, trace, trace, ih, List.cons_append]
      rfl

theorem after_append (session : TouchSession) (first second : List SessionCall) :
    session.after (first ++ second) = (session.after first).after second :=
  List.foldl_append

theorem sound_initial : ({} : TouchSession).Sound where
  valid := SlotTable.Valid.nil
  held := by simp [Held]

theorem Sound.run {session : TouchSession} (h : session.Sound) {call : SessionCall}
    (hdistinct : call.Distinct) : (call.run session).2.Sound :=
  (call.run_effect hdistinct h).sound h

theorem trace_induction (Keeps : TouchSession → Prop) (calls : List SessionCall)
    (hkeeps : ∀ call ∈ calls, ∀ session, Keeps session → Keeps (call.run session).2)
    {session : TouchSession} (h : Keeps session) {step : SessionStep}
    (hstep : step ∈ session.trace calls) :
    Keeps step.before ∧ step.call ∈ calls ∧ step = step.call.step step.before := by
  induction calls generalizing session with
  | nil => cases hstep
  | cons call calls ih =>
      rcases List.mem_cons.mp hstep with rfl | hstep
      · exact ⟨h, List.mem_cons_self, rfl⟩
      · obtain ⟨hbefore, hmem, heq⟩ := ih
          (fun later hlater => hkeeps later (List.mem_cons_of_mem _ hlater))
          (hkeeps call List.mem_cons_self session h) hstep
        exact ⟨hbefore, List.mem_cons_of_mem _ hmem, heq⟩

theorem Sound.trace {session : TouchSession} (h : session.Sound) (calls : List SessionCall)
    (hdistinct : ∀ call ∈ calls, call.Distinct) {step : SessionStep}
    (hstep : step ∈ session.trace calls) :
    step.before.Sound ∧ Effect step.call step.before step.outcome step.after := by
  obtain ⟨hbefore, hmem, heq⟩ := trace_induction Sound calls
    (fun call hcall session hsound => hsound.run (hdistinct call hcall)) h hstep
  refine ⟨hbefore, ?_⟩
  rw [heq]
  exact step.call.step_effect (hdistinct _ hmem) hbefore

theorem Sound.after {session : TouchSession} (h : session.Sound) (calls : List SessionCall)
    (hdistinct : ∀ call ∈ calls, call.Distinct) : (session.after calls).Sound := by
  induction calls generalizing session with
  | nil => exact h
  | cons call calls ih =>
      exact ih (h.run (hdistinct call List.mem_cons_self))
        fun later hlater => hdistinct later (List.mem_cons_of_mem _ hlater)

end TouchSession

theorem decoded_after_reset {calls : List SessionCall} (h : ∀ call ∈ calls, call.Decoded) :
    ∀ call ∈ .process { type := .hello, sequence := 0 } 0 ::
      .process { type := .reset, sequence := 1 } 0 :: calls, call.Decoded := by
  have hhello : decodeMessage (Protocol.tpEncodeMessage Protocol.tpMessageHello {} 476).2 =
      .ok { type := .hello, sequence := 0 } := by decide +kernel
  have hreset : decodeMessage
      (Protocol.tpEncodeMessage Protocol.tpMessageReset { sequence := 1 } 476).2 =
      .ok { type := .reset, sequence := 1 } := by decide +kernel
  exact List.forall_mem_cons.mpr ⟨⟨_, hhello⟩, List.forall_mem_cons.mpr ⟨⟨_, hreset⟩, h⟩⟩

def firstTouchFrame : Message where
  type := .frame
  sequence := 2
  flags := kFrameButton
  contacts := [{ identifier := 7, flags := 7, x := 0x3f000000, y := 0x3e800000 }]

def firstTouch : List SessionCall :=
  [.process { type := .hello, sequence := 0 } 0,
    .process { type := .reset, sequence := 1 } 0,
    .process firstTouchFrame 0]

theorem firstTouch_decoded : ∀ call ∈ firstTouch, call.Decoded := by
  have hframe : decodeMessage (Protocol.tpEncodeMessage Protocol.tpMessageFrame {
      sequence := 2
      flags := Protocol.tpFrameButton
      contactCount := 1
      contacts := fun _ => { identifier := 7, flags := 7, x := 0x3f000000, y := 0x3e800000 } }
      476).2 = .ok firstTouchFrame := by decide +kernel
  exact decoded_after_reset (List.forall_mem_singleton.mpr ⟨_, hframe⟩)

end Touchpad.Receiver
