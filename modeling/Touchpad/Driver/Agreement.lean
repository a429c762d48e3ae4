import Touchpad.Driver.Submit
import Touchpad.Receiver.SessionSteps

/-!
# Receiver and driver agree

Every frame that a session emits over decoded messages passes the checks of
`SubmitIoctlFrame`, and the report built from it shows the records unchanged.
-/

namespace Touchpad.Driver

open Touchpad.Foundation
open Touchpad.Shared
open Touchpad.Receiver

def Masked (contacts : ContactSlots) : Prop :=
  ∀ slot contact, contacts.get slot = some contact → contact.flags &&& ~~~0x07 = 0

theorem Masked.overlay {before after : ContactSlots} (hbefore : Masked before)
    (hafter : Masked after) : Masked (before.overlay after) := by
  intro slot contact hcontact
  rw [ContactSlots.get_overlay] at hcontact
  cases hslot : after.get slot with
  | some shown =>
      rw [hslot, Option.some_or, Option.some.injEq] at hcontact
      rw [← hcontact]
      exact hafter slot shown hslot
  | none =>
      rw [hslot, Option.none_or, Option.map_eq_some_iff] at hcontact
      obtain ⟨last, hlast, rfl⟩ := hcontact
      have hmask := hbefore slot last hlast
      rw [Contact.lifted, UInt8.and_assoc, UInt8.and_comm (~~~kTip), ← UInt8.and_assoc, hmask,
        UInt8.zero_and]

/-! ## Emitted frames pass the checks -/

theorem transition_records (header : IoctlFrame) (before after : ContactSlots) :
    (transition header before after).records = frameRecords (before.overlay after) :=
  filled_records header (frameRecords_length_le _)

theorem transition_header_valid {header : IoctlFrame} {button : Bool}
    (h : Announces header button) (before after : ContactSlots) :
    ¬ HeaderInvalid (transition header before after) := by
  have hlength := frameRecords_length_le (before.overlay after)
  have hreport := filled_reportContactCount header hlength
  have hactive := filled_activeContactCount header hlength
  have hcount : (frameRecords (before.overlay after)).countP IoctlContact.hasTip ≤
      (frameRecords (before.overlay after)).length := List.countP_le_length
  have hflags : header.flags &&& ~~~(mtpIoctlFrameReset ||| mtpIoctlFrameButton) = 0 := by
    rcases h.flags with hflags | hflags
    · rw [hflags]
      decide
    · rw [hflags]
      cases button <;> decide
  rintro (habi | hmask | htoo | htoo)
  · exact habi h.abiVersion
  · exact hmask hflags
  · rw [transition, hactive] at htoo
    omega
  · rw [transition, hreport] at htoo
    omega

theorem frameRecords_valid {contacts : ContactSlots} (h : Masked contacts)
    {record : IoctlContact} (hrecord : record ∈ frameRecords contacts) :
    ¬ RecordInvalid record := by
  have hslot := frameRecords_slot_lt hrecord
  obtain ⟨slot, source, hsource, rfl⟩ := mem_frameRecords.mp hrecord
  rintro (hlarge | hreserved | hflags)
  · omega
  · exact hreserved rfl
  · exact hflags (h slot source hsource)

theorem frameRecords_clamped {contacts : ContactSlots} {record : IoctlContact}
    (h : record ∈ frameRecords contacts) :
    record.x ≤ mtpCoordinateLogicalMax ∧ record.y ≤ mtpCoordinateLogicalMax := by
  obtain ⟨slot, source, -, rfl⟩ := mem_frameRecords.mp h
  exact ⟨toLogical_le _, toLogical_le _⟩

theorem frameRecords_countP (contacts : ContactSlots) :
    (frameRecords contacts).countP IoctlContact.hasTip =
      (List.finRange mtpHidMaxContacts).countP fun slot =>
        ((contacts slot).map Contact.hasTip).getD false := by
  rw [frameRecords, slotRecords, List.countP_filterMap]
  congr 1
  funext slot
  cases contacts slot <;> rfl

/-! ## Reports -/

theorem transition_report (vhfReadReportSubmit : PtpReport → NtStatus)
    (context : DeviceContext) {header : IoctlFrame} {button : Bool}
    (hheader : Announces header button) {before after : ContactSlots}
    (hbefore : Masked before) (hafter : Masked after) :
    let frame := transition header before after
    let submission := submitIoctlFrame vhfReadReportSubmit context frame
    ∃ report, submission.report = some report ∧
      submission.status = vhfReadReportSubmit report ∧
      (∀ record ∈ frame.records, clampCoordinate record.x = record.x ∧
        clampCoordinate record.y = record.y) ∧
      (frame.records.map IoctlContact.slot).Nodup ∧
      (∀ slot : Fin mtpHidMaxContacts, ∀ record ∈ frame.recordsFor slot,
        (report.contacts slot).contactId.toNat = slot ∧
        (report.contacts slot).x = record.x ∧ (report.contacts slot).y = record.y ∧
        (report.contacts slot).tip = record.hasTip ∧
        (report.contacts slot).confidence = record.hasConfidence) ∧
      (∀ slot : Fin mtpHidMaxContacts, frame.recordsFor slot = [] →
        report.contacts slot = {}) ∧
      report.contactCount.toNat =
        (List.finRange mtpHidMaxContacts).countP (fun slot => (report.contacts slot).tip) ∧
      report.button = if frame.hasButton then 1 else 0 := by
  intro frame submission
  have hrecords : frame.records = frameRecords (before.overlay after) :=
    transition_records header before after
  have hclamped : ∀ record ∈ frame.records, clampCoordinate record.x = record.x ∧
      clampCoordinate record.y = record.y := by
    intro record hrecord
    obtain ⟨hx, hy⟩ := frameRecords_clamped (hrecords ▸ hrecord)
    exact ⟨clampCoordinate_eq hx, clampCoordinate_eq hy⟩
  have hdistinct : (frame.records.map IoctlContact.slot).Nodup := by
    rw [hrecords]
    exact frameRecords_slots_nodup _
  obtain ⟨report, hreport, hstatus, hcount, hbutton, hentered, hempty⟩ :=
    submitIoctlFrame_report vhfReadReportSubmit context
      (transition_header_valid hheader before after)
      (fun record hrecord =>
        frameRecords_valid (hbefore.overlay hafter) (hrecords ▸ hrecord)) hdistinct
  refine ⟨report, hreport, hstatus, hclamped, hdistinct, ?_, ?_, ?_, hbutton⟩
  · intro slot record hrecord
    obtain ⟨hmem, hslot⟩ := IoctlFrame.mem_recordsFor.mp hrecord
    rw [hentered record hmem slot hslot]
    obtain ⟨hx, hy⟩ := hclamped record hmem
    refine ⟨?_, hx, hy, ptpContact_tip record, ptpContact_confidence record⟩
    simpa [ptpContact] using hslot
  · intro slot hnone
    apply hempty slot
    intro record hmem hslot
    have hrecord := IoctlFrame.mem_recordsFor.mpr ⟨hmem, hslot⟩
    rw [hnone] at hrecord
    cases hrecord
  · have hactive : report.contactCount.toNat =
        (frameRecords (before.overlay after)).countP IoctlContact.hasTip := by
      rw [hcount]
      exact filled_activeContactCount header (frameRecords_length_le _)
    rw [hactive, frameRecords_countP]
    apply List.countP_congr
    intro slot _
    cases hsource : before.overlay after slot with
    | some source =>
        have hmem : ioctlContact slot source ∈ frame.records := by
          rw [hrecords]
          exact mem_frameRecords.mpr ⟨slot, source, by simpa using hsource, rfl⟩
        rw [hentered _ hmem slot (ioctlContact_slot slot.isLt source)]
        simp
    | none =>
        have hothers : ∀ record ∈ frame.records, record.slot.toNat ≠ slot := by
          intro record hmem hslot
          rw [hrecords] at hmem
          obtain ⟨other, source, hother, rfl⟩ := mem_frameRecords.mp hmem
          rw [ioctlContact_slot (ContactSlots.lt_of_get _ hother)] at hslot
          rw [hslot, ContactSlots.get_val, hsource] at hother
          cases hother
        rw [hempty slot hothers]
        simp [PtpContact.tip]

/-! ## Runs -/

theorem masked_shown {call : SessionCall} (h : call.Decoded) {contact : Contact}
    (hcontact : contact ∈ call.shown) : contact.flags &&& ~~~0x07 = 0 := by
  cases call with
  | process message now =>
      obtain ⟨bytes, hbytes⟩ := h
      rw [SessionCall.shown] at hcontact
      split at hcontact
      · exact flags_of_decodeMessage hbytes hcontact
      · cases hcontact
  | timeout now => cases hcontact
  | disconnect => cases hcontact

theorem masked_of_assigned {call : SessionCall} (h : call.Decoded) {start registered : SlotMap}
    {slots : SlotMap} {stored : ContactSlots}
    (hassigned : Assigned start registered call.shown slots stored) : Masked stored := by
  intro slot contact hcontact
  exact masked_shown h ((hassigned.stored_iff slot contact).mp hcontact).1

theorem Masked.step {call : SessionCall} (hdecoded : call.Decoded)
    {before after : TouchSession} {outcome : Except ProtocolError (Option IoctlFrame)}
    (heffect : Effect call before outcome after) (h : Masked before.previousContacts) :
    Masked after.previousContacts := by
  cases heffect with
  | quiet _ _ _ hcontacts => exact hcontacts ▸ h
  | refused _ _ _ _ hcontacts => exact hcontacts ▸ h
  | threw _ _ _ _ hcontacts => exact hcontacts ▸ h
  | emitted _ header registered hcall hheader hassigned =>
      exact masked_of_assigned hdecoded hassigned

/-- Every frame emitted in a run of decoded messages, timeouts and disconnects is
submitted, as a report that agrees with it entry by entry. -/
theorem receiver_driver_agree (vhfReadReportSubmit : PtpReport → NtStatus)
    (calls : List SessionCall) (hdecoded : ∀ call ∈ calls, call.Decoded)
    (context : DeviceContext) :
    ∀ step ∈ ({} : TouchSession).trace calls, ∀ frame, step.frame = some frame →
      let submission := submitIoctlFrame vhfReadReportSubmit context frame
      ∃ report, submission.report = some report ∧
        submission.status = vhfReadReportSubmit report ∧
        (∀ record ∈ frame.records, clampCoordinate record.x = record.x ∧
          clampCoordinate record.y = record.y) ∧
        (frame.records.map IoctlContact.slot).Nodup ∧
        (∀ slot : Fin mtpHidMaxContacts, ∀ record ∈ frame.recordsFor slot,
          (report.contacts slot).contactId.toNat = slot ∧
          (report.contacts slot).x = record.x ∧ (report.contacts slot).y = record.y ∧
          (report.contacts slot).tip = record.hasTip ∧
          (report.contacts slot).confidence = record.hasConfidence) ∧
        (∀ slot : Fin mtpHidMaxContacts, frame.recordsFor slot = [] →
          report.contacts slot = {}) ∧
        report.contactCount.toNat =
          (List.finRange mtpHidMaxContacts).countP (fun slot => (report.contacts slot).tip) ∧
        report.button = if frame.hasButton then 1 else 0 := by
  intro step hstep frame hframe
  obtain ⟨⟨hsound, hmasked⟩, hmem, heq⟩ := TouchSession.trace_induction
    (fun session => session.Sound ∧ Masked session.previousContacts) calls
    (fun call hcall session hsession =>
      ⟨hsession.1.run (hdecoded call hcall).distinct,
        hsession.2.step (hdecoded call hcall)
          (call.run_effect (hdecoded call hcall).distinct hsession.1)⟩)
    ⟨TouchSession.sound_initial, by simp [Masked]⟩ hstep
  have heffect := step.call.step_effect (hdecoded _ hmem).distinct hsound
  rw [← heq] at heffect
  obtain ⟨call, before, outcome, after⟩ := step
  dsimp only at hmasked hmem heffect
  cases heffect with
  | quiet => cases hframe
  | refused => cases hframe
  | threw => cases hframe
  | emitted _ header registered hcall hheader hassigned =>
      cases hframe
      exact transition_report vhfReadReportSubmit context hheader hmasked
        (masked_of_assigned (hdecoded _ hmem) hassigned)

theorem receiver_driver_agree_first_touch :
    let step := (SessionCall.process firstTouchFrame 0).step
      (({} : TouchSession).after (firstTouch.take 2))
    ∃ frame report, step.frame = some frame ∧
      (submitIoctlFrame (fun _ => 0) {} frame).report = some report ∧ report.button = 1 := by
  intro step
  have hmem : step ∈ ({} : TouchSession).trace firstTouch :=
    List.mem_cons_of_mem _ (List.mem_cons_of_mem _ List.mem_cons_self)
  have hpressed : step.frame.map IoctlFrame.hasButton = some true := by decide +kernel
  obtain ⟨frame, hframe, hbutton⟩ := Option.map_eq_some_iff.mp hpressed
  obtain ⟨report, hreport, -, -, -, -, -, -, hreported⟩ :=
    receiver_driver_agree (fun _ => 0) firstTouch firstTouch_decoded {} step hmem frame hframe
  rw [hbutton] at hreported
  exact ⟨frame, report, hframe, hreport, hreported⟩

end Touchpad.Driver
