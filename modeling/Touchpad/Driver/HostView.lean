import Touchpad.Driver.Positions
import Touchpad.Foundation.Lists
import Touchpad.Foundation.Strokes

/-!
# What the host makes of the reports

The host joins the entries of consecutive reports by their contact identifier.  The
identifiers are slot numbers, which are given out again and again; still a host that reads
all Finger collections sees each stroke of a finger as one stroke, and no other.  One that
reads as many as Contact Count says sees the same where the active entries are among these.
-/

namespace Touchpad.Driver

open Touchpad.Foundation
open Touchpad.Shared
open Touchpad.Receiver

structure Sample where
  x : UInt16
  y : UInt16
  confidence : Bool
  deriving DecidableEq

/-! ## Messages and reports -/

def contactSample (contact : Contact) : Sample where
  x := toLogical (Binary32.value contact.x)
  y := toLogicalY (Binary32.value contact.y)
  confidence := contact.flags &&& mtpIoctlContactConfidence ≠ 0

def fingerIn (contacts : List Contact) (identifier : UInt32) : Option Sample :=
  (contacts.find? fun contact => contact.hasTip && contact.identifier = identifier).map
    contactSample

def PtpContact.sample (contact : PtpContact) : Sample where
  x := contact.x
  y := contact.y
  confidence := contact.confidence

/-- How many of the Finger collections of a report a host reads. -/
abbrev HostRule := PtpReport → Nat

def allCollections : HostRule := fun _ => mtpHidMaxContacts

def countedCollections : HostRule := fun report => report.contactCount.toNat

/-- The entry under this contact identifier in the first `collections` ones, if its Tip
Switch is set. -/
def PtpReport.sampleOf (report : PtpReport) (collections : Nat) (contactId : UInt32) :
    Option Sample :=
  ((List.finRange mtpHidMaxContacts).find? fun slot =>
    decide (slot.val < collections) && (report.contacts slot).tip &&
      (report.contacts slot).contactId = contactId).map
      fun slot => (report.contacts slot).sample

def PtpReport.Numbered (report : PtpReport) : Prop :=
  ∀ slot, (report.contacts slot).tip = true → (report.contacts slot).contactId.toNat = slot.val

theorem fingerIn_eq_some_iff {contacts : List Contact}
    (hdistinct : (contacts.map Contact.identifier).Nodup) {identifier : UInt32}
    {sample : Sample} :
    fingerIn contacts identifier = some sample ↔
      ∃ contact ∈ contacts, contact.hasTip = true ∧ contact.identifier = identifier ∧
        contactSample contact = sample := by
  have hfind : ∀ contact, contacts.find? (fun contact =>
      contact.hasTip && contact.identifier = identifier) = some contact ↔
        contact ∈ contacts ∧ contact.hasTip = true ∧ contact.identifier = identifier := by
    intro contact
    rw [find?_eq_some_iff_of_unique]
    · simp
    · intro first hfirst second hsecond h h'
      simp only [Bool.and_eq_true, decide_eq_true_iff] at h h'
      exact List.inj_on_of_nodup_map hdistinct hfirst hsecond (h.2.trans h'.2.symm)
  simp [fingerIn, Option.map_eq_some_iff, hfind, and_assoc]

theorem PtpReport.sampleOf_eq_some_iff {report : PtpReport} (hnumbered : report.Numbered)
    {collections : Nat} {contactId : UInt32} {sample : Sample} :
    report.sampleOf collections contactId = some sample ↔
      ∃ slot : Fin mtpHidMaxContacts, slot.val < collections ∧ contactId.toNat = slot.val ∧
        (report.contacts slot).tip = true ∧ (report.contacts slot).sample = sample := by
  have hid : ∀ slot : Fin mtpHidMaxContacts, (report.contacts slot).tip = true →
      ((report.contacts slot).contactId = contactId ↔ contactId.toNat = slot.val) := by
    intro slot htip
    rw [← hnumbered slot htip, eq_comm, UInt32.toNat_inj]
  rw [sampleOf, Option.map_eq_some_iff]
  constructor
  · rintro ⟨slot, hfound, hsample⟩
    have hslot := List.find?_some hfound
    simp only [Bool.and_eq_true, decide_eq_true_iff] at hslot
    obtain ⟨⟨hread, htip⟩, hsame⟩ := hslot
    exact ⟨slot, hread, (hid slot htip).mp hsame, htip, hsample⟩
  · rintro ⟨slot, hread, hslot, htip, hsample⟩
    refine ⟨slot, ?_, hsample⟩
    rw [find?_eq_some_iff_of_unique]
    · exact ⟨List.mem_finRange slot, by simp [hread, htip, (hid slot htip).mpr hslot]⟩
    · intro first _ second _ hfirst hsecond
      simp only [Bool.and_eq_true, decide_eq_true_iff] at hfirst hsecond
      apply Fin.ext
      rw [← (hid first hfirst.1.2).mp hfirst.2, ← (hid second hsecond.1.2).mp hsecond.2]

/-- Counting the entries hides none exactly where the active ones are within the count. -/
theorem PtpReport.sampleOf_counted_iff {report : PtpReport} (hnumbered : report.Numbered) :
    (∀ contactId, report.sampleOf report.contactCount.toNat contactId =
        report.sampleOf mtpHidMaxContacts contactId) ↔ report.WithinCount := by
  constructor
  · intro hsame slot htip
    have hall : report.sampleOf mtpHidMaxContacts (UInt32.ofNat slot.val) =
        some (report.contacts slot).sample := by
      refine (sampleOf_eq_some_iff hnumbered).mpr ⟨slot, slot.isLt, ?_, htip, rfl⟩
      exact UInt32.toNat_ofNat_of_lt' (slot.isLt.trans (by decide))
    rw [← hsame] at hall
    obtain ⟨other, hread, hother, -⟩ := (sampleOf_eq_some_iff hnumbered).mp hall
    rw [UInt32.toNat_ofNat_of_lt' (slot.isLt.trans (by decide))] at hother
    exact hother ▸ hread
  · intro hwithin contactId
    rw [sampleOf, sampleOf]
    congr 2
    funext slot
    cases htip : (report.contacts slot).tip with
    | false => simp
    | true => simp [hwithin slot htip]

/-! ## One report -/

section Transition

variable {header : IoctlFrame} {button : Bool} (hheader : Announces header button)
  {before after : ContactSlots} (hbefore : Masked before) (hafter : Masked after)
  {vhfReadReportSubmit : PtpReport → NtStatus} {context : DeviceContext} {report : PtpReport}
  (hreport : (submitIoctlFrame vhfReadReportSubmit context
    (transition header before after)).report = some report)
include hheader hbefore hafter hreport

theorem transition_entry (slot : Fin mtpHidMaxContacts) {contact : Contact}
    (hcontact : after.get slot = some contact) :
    (report.contacts slot).contactId.toNat = slot.val ∧
      (report.contacts slot).tip = contact.hasTip ∧
      (report.contacts slot).sample = contactSample contact := by
  obtain ⟨submitted, hsubmitted, -, -, -, hentries, -⟩ :=
    transition_report vhfReadReportSubmit context hheader hbefore hafter
  obtain rfl : submitted = report := Option.some.inj (hsubmitted.symm.trans hreport)
  obtain ⟨hid, hx, hy, htip, hconfidence⟩ := hentries slot (ioctlContact slot contact) (by
    rw [transition, filled_recordsFor, ContactSlots.get_overlay, hcontact]
    simp)
  refine ⟨hid, htip, ?_⟩
  rw [PtpContact.sample, hx, hy, hconfidence]
  rfl

theorem transition_tip (slot : Fin mtpHidMaxContacts) (htip : (report.contacts slot).tip = true) :
    ∃ contact, after.get slot = some contact := by
  obtain ⟨submitted, hsubmitted, -, -, -, hentries, hempty, -⟩ :=
    transition_report vhfReadReportSubmit context hheader hbefore hafter
  obtain rfl : submitted = report := Option.some.inj (hsubmitted.symm.trans hreport)
  cases hstored : after.get slot with
  | some contact => exact ⟨contact, rfl⟩
  | none =>
      cases hshown : (before.overlay after).get slot with
      | none =>
          rw [hempty slot (by rw [transition, filled_recordsFor, hshown]; rfl)] at htip
          cases htip
      | some lifted =>
          have hrecord := (hentries slot (ioctlContact slot lifted)
            (by rw [transition, filled_recordsFor, hshown]; simp)).2.2.2.1
          rw [ContactSlots.get_overlay, hstored, Option.none_or, Option.map_eq_some_iff]
            at hshown
          obtain ⟨last, -, rfl⟩ := hshown
          rw [ioctlContact_hasTip, Contact.lifted_hasTip, htip] at hrecord
          cases hrecord

theorem transition_numbered : report.Numbered := by
  intro slot htip
  obtain ⟨contact, hcontact⟩ := transition_tip hheader hbefore hafter hreport slot htip
  exact (transition_entry hheader hbefore hafter hreport slot hcontact).1

theorem sampleOf_transition {start registered slots : SlotMap} {shown : List Contact}
    (hassigned : Assigned start registered shown slots after)
    {contactId : UInt32} {sample : Sample} :
    report.sampleOf mtpHidMaxContacts contactId = some sample ↔
      ∃ contact ∈ shown, contact.hasTip = true ∧
        (contact.identifier, contactId.toNat) ∈ slots ∧ contactSample contact = sample := by
  have hstored := fun slot {contact} => @transition_entry header button hheader before after
    hbefore hafter vhfReadReportSubmit context report hreport slot contact
  rw [PtpReport.sampleOf_eq_some_iff (transition_numbered hheader hbefore hafter hreport)]
  constructor
  · rintro ⟨slot, -, hid, htip, hsample⟩
    obtain ⟨contact, hcontact⟩ := transition_tip hheader hbefore hafter hreport slot htip
    obtain ⟨hmem, hdown, hslot⟩ := (hassigned.stored_iff slot contact).mp hcontact
    exact ⟨contact, hmem, hdown, hid ▸ hslot, (hstored slot hcontact).2.2.symm.trans hsample⟩
  · rintro ⟨contact, hmem, hdown, hslot, hsample⟩
    have hcontact := (hassigned.stored_iff contactId.toNat contact).mpr ⟨hmem, hdown, hslot⟩
    have hlt := ContactSlots.lt_of_get _ hcontact
    obtain ⟨-, htip, hentered⟩ := hstored ⟨contactId.toNat, hlt⟩ hcontact
    exact ⟨⟨contactId.toNat, hlt⟩, hlt, rfl, htip.trans hdown, hentered.trans hsample⟩

end Transition

/-! ## All reports -/

def onPad (shown : List (List Contact)) : Timeline UInt32 Sample := fun index identifier =>
  shown[index]?.bind fun contacts => fingerIn contacts identifier

def onHost (rule : HostRule) (reports : List PtpReport) : Timeline UInt32 Sample :=
  fun index contactId => reports[index]?.bind fun report => report.sampleOf (rule report) contactId

theorem onHost_counted_iff {reports : List PtpReport}
    (hnumbered : ∀ report ∈ reports, report.Numbered) :
    onHost countedCollections reports = onHost allCollections reports ↔
      ∀ report ∈ reports, report.WithinCount := by
  constructor
  · intro hsame report hreport
    obtain ⟨index, hindex⟩ := List.mem_iff_getElem?.mp hreport
    refine (PtpReport.sampleOf_counted_iff (hnumbered report hreport)).mp fun contactId => ?_
    have hat := congrFun (congrFun hsame index) contactId
    rw [onHost, onHost, hindex] at hat
    exact hat
  · intro hwithin
    funext index contactId
    rw [onHost, onHost]
    cases hindex : reports[index]? with
    | none => rfl
    | some report =>
        have hmem := List.mem_of_getElem? hindex
        exact (PtpReport.sampleOf_counted_iff (hnumbered report hmem)).mpr (hwithin report hmem)
          contactId

def pressedBy : SessionCall → Bool
  | .process message _ => decide (message.type = .frame) && message.hasButton
  | _ => false

structure Emission (step : SessionStep) : Prop where
  decoded : step.call.Decoded
  sound : step.before.Sound
  masked : Masked step.before.previousContacts
  effect : Effect step.call step.before step.outcome step.after
  emits : step.frame.isSome
  button : step.after.buttonDown = pressedBy step.call

theorem buttonDown_of_emits {call : SessionCall} (hdistinct : call.Distinct)
    {session : TouchSession} (hsound : session.Sound)
    (hemits : (call.run session).1.toOption.join.isSome) :
    (call.run session).2.buttonDown = pressedBy call := by
  cases call with
  | process message now =>
      have hprocessed := TouchSession.process_processed hsound message now hdistinct
      rw [SessionCall.run] at hemits ⊢
      generalize session.process message now = result at hprocessed hemits
      cases hprocessed with
      | discontinuity => cases hemits
      | unexpectedHello => cases hemits
      | hello => cases hemits
      | beforeHello => cases hemits
      | beforeReset => cases hemits
      | reset _ htype => simp [pressedBy, htype, TouchSession.released]
      | frame result _ htype _ _ hresult =>
          cases hresult with
          | exceeded => cases hemits
          | accepted => simp [pressedBy, htype]
  | timeout now =>
      rw [SessionCall.run, TouchSession.onTimeout_eq] at hemits ⊢
      by_cases hexpired : session.hasActiveContacts = true ∧
          kFrameTimeout ≤ now - session.lastFrameTime
      · rw [if_pos hexpired]
        rfl
      · rw [if_neg hexpired] at hemits
        cases hemits
  | disconnect =>
      rw [SessionCall.run, TouchSession.onDisconnect_eq]
      rfl

def Reports (step : SessionStep) (report : PtpReport) : Prop :=
  ∃ frame vhfReadReportSubmit context, step.frame = some frame ∧
    (submitIoctlFrame vhfReadReportSubmit context frame).report = some report

theorem Emission.emitted {step : SessionStep} (h : Emission step) :
    ∃ header registered, Announces header step.after.buttonDown ∧
      Masked step.after.previousContacts ∧
      Assigned step.before.slots registered step.call.shown step.after.slots
        step.after.previousContacts ∧
      step.frame = some (transition header step.before.previousContacts
        step.after.previousContacts) := by
  obtain ⟨call, before, outcome, after⟩ := step
  obtain ⟨hdecoded, hsound, hmasked, heffect, hemits, hbutton⟩ := h
  dsimp only at *
  cases heffect with
  | quiet => cases hemits
  | refused => cases hemits
  | threw => cases hemits
  | emitted after header registered hcall hheader hassigned =>
      exact ⟨header, registered, hheader, masked_of_assigned hdecoded hassigned, hassigned, rfl⟩

theorem Emission.assigned {step : SessionStep} (h : Emission step) :
    ∃ registered, Assigned step.before.slots registered step.call.shown step.after.slots
      step.after.previousContacts := by
  obtain ⟨-, registered, -, -, hassigned, -⟩ := h.emitted
  exact ⟨registered, hassigned⟩

theorem Emission.sampleOf {step : SessionStep} (h : Emission step) {report : PtpReport}
    (hreport : Reports step report) {contactId : UInt32} {sample : Sample} :
    report.sampleOf mtpHidMaxContacts contactId = some sample ↔
      ∃ contact ∈ step.call.shown, contact.hasTip = true ∧
        (contact.identifier, contactId.toNat) ∈ step.after.slots ∧
        contactSample contact = sample := by
  obtain ⟨header, registered, hheader, hafter, hassigned, hemitted⟩ := h.emitted
  obtain ⟨frame, vhfReadReportSubmit, context, hframe, hsubmitted⟩ := hreport
  obtain rfl : frame = _ := Option.some.inj (hframe.symm.trans hemitted)
  exact sampleOf_transition hheader h.masked hafter hsubmitted hassigned

theorem Emission.numbered {step : SessionStep} (h : Emission step) {report : PtpReport}
    (hreport : Reports step report) : report.Numbered := by
  obtain ⟨header, registered, hheader, hafter, hassigned, hemitted⟩ := h.emitted
  obtain ⟨frame, vhfReadReportSubmit, context, hframe, hsubmitted⟩ := hreport
  obtain rfl : frame = _ := Option.some.inj (hframe.symm.trans hemitted)
  exact transition_numbered hheader h.masked hafter hsubmitted

theorem Emission.reported_button {step : SessionStep} (h : Emission step) {report : PtpReport}
    (hreport : Reports step report) : report.button = if pressedBy step.call then 1 else 0 := by
  obtain ⟨header, registered, hheader, hafter, hassigned, hemitted⟩ := h.emitted
  obtain ⟨frame, vhfReadReportSubmit, context, hframe, hsubmitted⟩ := hreport
  obtain rfl : frame = _ := Option.some.inj (hframe.symm.trans hemitted)
  obtain ⟨submitted, hreport, -, -, -, -, -, -, hreported⟩ :=
    transition_report vhfReadReportSubmit context hheader h.masked hafter
  obtain rfl : submitted = report := Option.some.inj (hreport.symm.trans hsubmitted)
  rw [hreported, ← h.button, ← hheader.button]
  rfl

theorem Emission.slots_steady {before step : SessionStep} (h : Emission step)
    (hkept : before.after.slots ⊆ step.before.slots) {identifier other : UInt32}
    {slot another : Nat} (hslot : (identifier, slot) ∈ before.after.slots)
    (hother : (other, another) ∈ step.after.slots) :
    identifier = other ↔ slot = another := by
  obtain ⟨registered, hassigned⟩ := h.assigned
  have hfirst := hassigned.start_subset (hkept hslot)
  have hsecond : (other, another) ∈ registered := by
    rw [hassigned.slots_eq] at hother
    exact List.mem_of_mem_filter hother
  constructor
  · rintro rfl
    exact hassigned.registered_valid.slot_unique hfirst hsecond
  · rintro rfl
    exact hassigned.registered_valid.key_unique hfirst hsecond

section Runs

variable {steps : List SessionStep} {reports : List PtpReport}

theorem onPad_eq_some_iff (hsteps : ∀ step ∈ steps, Emission step) {index : Nat}
    {identifier : UInt32} {sample : Sample} :
    onPad (steps.map fun step => step.call.shown) index identifier = some sample ↔
      ∃ step, steps[index]? = some step ∧ ∃ contact ∈ step.call.shown,
        contact.hasTip = true ∧ contact.identifier = identifier ∧
          contactSample contact = sample := by
  simp only [onPad, List.getElem?_map, Option.bind_eq_some_iff, Option.map_eq_some_iff]
  constructor
  · rintro ⟨_, ⟨step, hstep, rfl⟩, hsample⟩
    have hdecoded := (hsteps step (List.mem_of_getElem? hstep)).decoded
    exact ⟨step, hstep, (fingerIn_eq_some_iff hdecoded.distinct.shown).mp hsample⟩
  · rintro ⟨step, hstep, hcontact⟩
    have hdecoded := (hsteps step (List.mem_of_getElem? hstep)).decoded
    exact ⟨_, ⟨step, hstep, rfl⟩, (fingerIn_eq_some_iff hdecoded.distinct.shown).mpr hcontact⟩

theorem onHost_eq_some_iff (hsteps : ∀ step ∈ steps, Emission step)
    (hreports : List.Forall₂ Reports steps reports) {index : Nat} {contactId : UInt32}
    {sample : Sample} :
    onHost allCollections reports index contactId = some sample ↔
      ∃ step, steps[index]? = some step ∧ ∃ contact ∈ step.call.shown,
        contact.hasTip = true ∧ (contact.identifier, contactId.toNat) ∈ step.after.slots ∧
          contactSample contact = sample := by
  simp only [onHost, Option.bind_eq_some_iff]
  constructor
  · rintro ⟨report, hreport, hsample⟩
    obtain ⟨step, hstep, hmade⟩ := forall₂_at hreports.flip hreport
    have hemission := hsteps step (List.mem_of_getElem? hstep)
    exact ⟨step, hstep, (hemission.sampleOf hmade).mp hsample⟩
  · rintro ⟨step, hstep, hcontact⟩
    obtain ⟨report, hreport, hmade⟩ := forall₂_at hreports hstep
    have hemission := hsteps step (List.mem_of_getElem? hstep)
    exact ⟨report, hreport, (hemission.sampleOf hmade).mpr hcontact⟩

/-- An identifier goes by the slot that it has after the call, where slots in use stay known
from one call to the next, or none is in use behind it. -/
theorem renamed (hsteps : ∀ step ∈ steps, Emission step)
    (hkept : steps.IsChain fun step next =>
      step.after.slots ⊆ next.before.slots ∨ next.after.slots = [])
    (hreports : List.Forall₂ Reports steps reports) :
    Renamed (onPad (steps.map fun step => step.call.shown)) (onHost allCollections reports)
      fun index identifier contactId => ∃ step, steps[index]? = some step ∧
        (identifier, contactId.toNat) ∈ step.after.slots := by
  have hshown : ∀ {index : Nat} {identifier contactId : UInt32} {step : SessionStep},
      steps[index]? = some step → (identifier, contactId.toNat) ∈ step.after.slots →
      ∃ sample, onPad (steps.map fun step => step.call.shown) index identifier = some sample ∧
        onHost allCollections reports index contactId = some sample := by
    intro index identifier contactId step hstep hslot
    obtain ⟨registered, hassigned⟩ := (hsteps step (List.mem_of_getElem? hstep)).assigned
    have htip : identifier ∈ tipIdentifiers step.call.shown := by
      rw [hassigned.slots_eq] at hslot
      exact of_decide_eq_true (List.mem_filter.mp hslot).2
    obtain ⟨contact, hmem, hdown, rfl⟩ := mem_tipIdentifiers.mp htip
    exact ⟨contactSample contact,
      (onPad_eq_some_iff hsteps).mpr ⟨step, hstep, contact, hmem, hdown, rfl, rfl⟩,
      (onHost_eq_some_iff hsteps hreports).mpr ⟨step, hstep, contact, hmem, hdown, hslot, rfl⟩⟩
  constructor
  case same =>
    rintro index identifier contactId ⟨step, hstep, hslot⟩
    obtain ⟨sample, hpad, hhost⟩ := hshown hstep hslot
    rw [hpad, hhost]
  case down =>
    rintro index identifier contactId ⟨step, hstep, hslot⟩
    obtain ⟨sample, hpad, -⟩ := hshown hstep hslot
    rw [hpad]
    rfl
  case named =>
    intro index identifier hdown
    obtain ⟨sample, hsample⟩ := Option.isSome_iff_exists.mp hdown
    obtain ⟨step, hstep, contact, hmem, htip, rfl, -⟩ := (onPad_eq_some_iff hsteps).mp hsample
    obtain ⟨registered, hassigned⟩ := (hsteps step (List.mem_of_getElem? hstep)).assigned
    obtain ⟨slot, hslot⟩ :=
      hassigned.placed contact.identifier (mem_tipIdentifiers.mpr ⟨contact, hmem, htip, rfl⟩)
    have hlt : slot < 2 ^ 32 := (hassigned.valid.slot_lt _ hslot).trans (by decide)
    exact ⟨UInt32.ofNat slot, step, hstep, by rwa [UInt32.toNat_ofNat_of_lt' hlt]⟩
  case tracked =>
    intro index contactId hdown
    obtain ⟨sample, hsample⟩ := Option.isSome_iff_exists.mp hdown
    obtain ⟨step, hstep, contact, -, -, hslot, -⟩ :=
      (onHost_eq_some_iff hsteps hreports).mp hsample
    exact ⟨contact.identifier, step, hstep, hslot⟩
  case steady =>
    rintro index later identifier contactId other another ⟨step, hstep, hslot⟩
      ⟨next, hnext, hother⟩ hlater
    rw [← @UInt32.toNat_inj contactId another]
    rcases hlater with rfl | rfl
    · obtain rfl : step = next := Option.some.inj (hstep.symm.trans hnext)
      obtain ⟨registered, hassigned⟩ := (hsteps step (List.mem_of_getElem? hstep)).assigned
      constructor
      · rintro rfl
        exact hassigned.valid.slot_unique hslot hother
      · intro hsame
        exact hassigned.valid.key_unique hslot (hsame ▸ hother)
    · obtain ⟨hlt, rfl⟩ := List.getElem?_eq_some_iff.mp hstep
      obtain ⟨hlt', rfl⟩ := List.getElem?_eq_some_iff.mp hnext
      rcases List.isChain_iff_getElem.mp hkept index hlt' with hknown | hcleared
      · exact (hsteps _ (List.getElem_mem hlt')).slots_steady hknown hslot hother
      · rw [hcleared] at hother
        cases hother

theorem reported_buttons (hsteps : ∀ step ∈ steps, Emission step)
    (hreports : List.Forall₂ Reports steps reports) :
    reports.map PtpReport.button =
      steps.map fun step => if pressedBy step.call then 1 else 0 := by
  induction hreports with
  | nil => rfl
  | cons hreport _ ih =>
      obtain ⟨hstep, hsteps⟩ := List.forall_mem_cons.mp hsteps
      rw [List.map_cons, List.map_cons, hstep.reported_button hreport, ih hsteps]

theorem reports_numbered (hsteps : ∀ step ∈ steps, Emission step)
    (hreports : List.Forall₂ Reports steps reports) : ∀ report ∈ reports, report.Numbered := by
  intro report hreport
  obtain ⟨index, hindex⟩ := List.mem_iff_getElem?.mp hreport
  obtain ⟨step, hstep, hmade⟩ := forall₂_at hreports.flip hindex
  exact (hsteps step (List.mem_of_getElem? hstep)).numbered hmade

end Runs

end Touchpad.Driver
