import Mathlib.Data.List.Basic
import Touchpad.Driver.Submit

/-!
# Refused frames

`SubmitIoctlFrame` checks the header of a frame before it computes the scan time
and the records after it.  A frame refused for a record has therefore already
advanced the counter that stands in for a missing scan time, and the next report
that uses the counter shows it.
-/

namespace Touchpad.Driver

open Touchpad.Shared

def Refused (input : IoctlFrame) : Prop :=
  HeaderInvalid input ∨ ∃ record ∈ input.records, RecordInvalid record

instance : DecidablePred Refused := fun _ => inferInstanceAs (Decidable (_ ∨ _))

def reportedScanTime (context : DeviceContext) (input : IoctlFrame) : UInt16 :=
  if input.scanTime100us ≠ 0 then input.scanTime100us else context.lastScanTime + 1

def timed (context : DeviceContext) (input : IoctlFrame) : DeviceContext :=
  if input.scanTime100us ≠ 0 then context
  else { context with lastScanTime := context.lastScanTime + 1 }

/-! ## The record loop -/

theorem fillReport_eq_none_iff {records : List IoctlContact} {report : PtpReport} :
    fillReport records report = none ↔ ∃ record ∈ records, RecordInvalid record := by
  induction records generalizing report with
  | nil => simp [fillReport]
  | cons record records ih =>
      rw [fillReport]
      split
      case isTrue hrecord => simp [hrecord]
      case isFalse hrecord =>
        rw [ih]
        simp [hrecord]

theorem fillReport_header {records : List IoctlContact} {report filled : PtpReport}
    (h : fillReport records report = some filled) :
    filled = { report with contacts := filled.contacts } := by
  induction records generalizing report with
  | nil =>
      cases h
      rfl
  | cons record records ih =>
      rw [fillReport] at h
      split at h
      case isTrue => cases h
      case isFalse =>
        have hfilled := ih h
        exact hfilled

theorem fillReport_contacts (Keeps : PtpContact → Prop)
    (hentered : ∀ source, Keeps (ptpContact source)) {records : List IoctlContact}
    {report filled : PtpReport} (hcontacts : ∀ i, Keeps (report.contacts i))
    (h : fillReport records report = some filled) (i : Fin mtpHidMaxContacts) :
    Keeps (filled.contacts i) := by
  induction records generalizing report with
  | nil =>
      cases h
      exact hcontacts i
  | cons record records ih =>
      rw [fillReport] at h
      split at h
      case isTrue => cases h
      case isFalse =>
        refine ih (fun other => ?_) h
        dsimp only
        split
        case isTrue => exact hentered record
        case isFalse => exact hcontacts other

/-! ## One submission -/

theorem submitIoctlFrame_of_headerInvalid (vhfReadReportSubmit : PtpReport → NtStatus)
    (context : DeviceContext) {input : IoctlFrame} (h : HeaderInvalid input) :
    submitIoctlFrame vhfReadReportSubmit context input =
      ⟨statusInvalidParameter, context, none⟩ := by
  rw [submitIoctlFrame, if_pos h]

theorem submitIoctlFrame_eq (vhfReadReportSubmit : PtpReport → NtStatus)
    (context : DeviceContext) {input : IoctlFrame} (h : ¬ HeaderInvalid input) :
    submitIoctlFrame vhfReadReportSubmit context input =
      match fillReport input.records
          (reportHeader input (reportedScanTime context input)) with
      | none => ⟨statusInvalidParameter, timed context input, none⟩
      | some report =>
          ⟨vhfReadReportSubmit report,
            { timed context input with
              lastReportSize := ptpReportSize
              lastActiveContactCount := input.activeContactCount
              lastSubmitStatus := vhfReadReportSubmit report
              submitCount := context.submitCount + 1 },
            some report⟩ := by
  unfold submitIoctlFrame reportedScanTime timed
  rw [if_neg h]
  by_cases hscan : input.scanTime100us ≠ 0
  · rewrite [if_pos hscan, if_pos hscan, if_pos hscan]
    rfl
  · rewrite [if_neg hscan, if_neg hscan, if_neg hscan]
    rfl

theorem submitIoctlFrame_refused (vhfReadReportSubmit : PtpReport → NtStatus)
    (context : DeviceContext) {input : IoctlFrame} (h : Refused input) :
    submitIoctlFrame vhfReadReportSubmit context input =
      ⟨statusInvalidParameter,
        if HeaderInvalid input then context else timed context input, none⟩ := by
  by_cases hheader : HeaderInvalid input
  · rw [submitIoctlFrame_of_headerInvalid _ _ hheader, if_pos hheader]
  · have hfill : fillReport input.records
        (reportHeader input (reportedScanTime context input)) = none :=
      fillReport_eq_none_iff.mpr (h.resolve_left hheader)
    rw [submitIoctlFrame_eq _ _ hheader, if_neg hheader, hfill]

theorem submitIoctlFrame_accepted (vhfReadReportSubmit : PtpReport → NtStatus)
    (context : DeviceContext) {input : IoctlFrame} (h : ¬ Refused input) :
    ∃ report, (submitIoctlFrame vhfReadReportSubmit context input).report = some report ∧
      fillReport input.records (reportHeader input (reportedScanTime context input)) =
        some report ∧
      report.scanTime = reportedScanTime context input ∧
      (submitIoctlFrame vhfReadReportSubmit context input).context.lastScanTime =
        (timed context input).lastScanTime := by
  have hheader : ¬ HeaderInvalid input := fun hheader => h (.inl hheader)
  rw [submitIoctlFrame_eq _ _ hheader]
  cases hfill : fillReport input.records
      (reportHeader input (reportedScanTime context input)) with
  | none => exact absurd (.inr (fillReport_eq_none_iff.mp hfill)) h
  | some report =>
      have htime : report.scanTime = reportedScanTime context input := by
        rw [fillReport_header hfill]
        rfl
      exact ⟨report, rfl, rfl, htime, rfl⟩

theorem submitIoctlFrame_report_eq_none_iff (vhfReadReportSubmit : PtpReport → NtStatus)
    (context : DeviceContext) (input : IoctlFrame) :
    (submitIoctlFrame vhfReadReportSubmit context input).report = none ↔ Refused input := by
  constructor
  · intro hnone
    by_contra haccepted
    obtain ⟨report, hreport, -⟩ :=
      submitIoctlFrame_accepted vhfReadReportSubmit context haccepted
    rw [hreport] at hnone
    cases hnone
  · intro hrefused
    rw [submitIoctlFrame_refused _ _ hrefused]

theorem timed_ne (context : DeviceContext) {input : IoctlFrame}
    (h : input.scanTime100us = 0) : timed context input ≠ context := by
  intro heq
  have hnext : context.lastScanTime + 1 = context.lastScanTime := by
    simpa [timed, h] using congrArg DeviceContext.lastScanTime heq
  have hwrap := congrArg UInt16.toNat hnext
  have hlt := context.lastScanTime.toNat_lt
  rw [UInt16.toNat_add] at hwrap
  simp only [UInt16.reduceToNat] at hwrap
  omega

/-! ## Sequences of frames -/

def submitAll (vhfReadReportSubmit : PtpReport → NtStatus) :
    DeviceContext → List IoctlFrame → List (Option PtpReport)
  | _, [] => []
  | context, input :: inputs =>
      let submission := submitIoctlFrame vhfReadReportSubmit context input
      submission.report :: submitAll vhfReadReportSubmit submission.context inputs

/-- The condition under which a frame, if refused, is refused before the clock
moves. -/
def KeepsClock (input : IoctlFrame) : Prop :=
  input.scanTime100us ≠ 0 ∨ HeaderInvalid input ∨
    ∀ record ∈ input.records, ¬ RecordInvalid record

instance : DecidablePred KeepsClock := fun _ => inferInstanceAs (Decidable (_ ∨ _ ∨ _))

theorem submitIoctlFrame_refused_context (vhfReadReportSubmit : PtpReport → NtStatus)
    (context : DeviceContext) {input : IoctlFrame} (h : Refused input) :
    (submitIoctlFrame vhfReadReportSubmit context input).context = context ↔
      KeepsClock input := by
  rw [submitIoctlFrame_refused _ _ h]
  dsimp only
  by_cases hheader : HeaderInvalid input
  · simp [hheader, KeepsClock]
  · obtain ⟨record, hrecord, hinvalid⟩ := h.resolve_left hheader
    have hrecords : ¬ ∀ record ∈ input.records, ¬ RecordInvalid record :=
      fun hvalid => hvalid record hrecord hinvalid
    by_cases hscan : input.scanTime100us = 0
    · have hmoved := timed_ne context hscan
      simp [KeepsClock, hheader, hscan, hrecords, hmoved]
    · simp [KeepsClock, hheader, hscan, timed]

/-- A refused frame leaves no trace exactly when its refusal comes before the
clock moves. -/
theorem refused_without_trace_iff (vhfReadReportSubmit : PtpReport → NtStatus)
    (context : DeviceContext) (input : IoctlFrame) :
    (Refused input →
      let submission := submitIoctlFrame vhfReadReportSubmit context input
      submission.status = statusInvalidParameter ∧ submission.report = none ∧
        submission.context = context ∧
        ∀ later, submitAll vhfReadReportSubmit submission.context later =
          submitAll vhfReadReportSubmit context later) ↔
      KeepsClock input := by
  constructor
  · intro h
    by_cases hrefused : Refused input
    · obtain ⟨-, -, hcontext, -⟩ := h hrefused
      exact (submitIoctlFrame_refused_context vhfReadReportSubmit context hrefused).mp hcontext
    · right
      right
      intro record hrecord hinvalid
      exact hrefused (.inr ⟨record, hrecord, hinvalid⟩)
  · intro hkeeps hrefused submission
    have hcontext : submission.context = context :=
      (submitIoctlFrame_refused_context vhfReadReportSubmit context hrefused).mpr hkeeps
    have hstatus : submission.status = statusInvalidParameter :=
      congrArg Submission.status (submitIoctlFrame_refused vhfReadReportSubmit context hrefused)
    have hreport : submission.report = none :=
      (submitIoctlFrame_report_eq_none_iff vhfReadReportSubmit context input).mpr hrefused
    refine ⟨hstatus, hreport, hcontext, ?_⟩
    intro later
    rw [hcontext]

def badRecordFrame : IoctlFrame where
  abiVersion := mtpIoctlAbiVersion
  reportContactCount := 1
  contacts := fun _ => { flags := 0x80 }

def emptyFrame : IoctlFrame where
  abiVersion := mtpIoctlAbiVersion

/-- The frame after the refused one is reported with scan time 2 in place of 1. -/
theorem refused_frame_traced :
    Refused badRecordFrame ∧ ¬ Refused emptyFrame ∧
      (submitIoctlFrame (fun _ => 0) {} badRecordFrame).report = none ∧
      (submitIoctlFrame (fun _ => 0) {} badRecordFrame).context ≠ {} ∧
      (submitAll (fun _ => 0) {} [badRecordFrame, emptyFrame]).map
        (Option.map PtpReport.scanTime) = [none, some 2] ∧
      (submitAll (fun _ => 0) {} [emptyFrame]).map
        (Option.map PtpReport.scanTime) = [some 1] := by
  decide +kernel

end Touchpad.Driver
