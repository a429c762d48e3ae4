import Touchpad.Shared.TouchpadIoctl

/-!
# Submitting a frame

`SubmitIoctlFrame` of `windows/driver/Driver.c`.  The call of the virtual HID
framework is a parameter: from the report it yields a status.  The device context
leaves out the handle of that framework and the lock around this function.
-/

namespace Touchpad.Driver

open Touchpad.Shared

abbrev NtStatus := UInt32

def statusInvalidParameter : NtStatus := 0xc000000d

def mtpReportIdInput : UInt8 := 0x05

structure PtpContact where
  flags : UInt8 := 0
  contactId : UInt32 := 0
  x : UInt16 := 0
  y : UInt16 := 0
  deriving DecidableEq, Repr

structure PtpReport where
  reportId : UInt8 := 0
  contacts : Fin mtpHidMaxContacts → PtpContact := fun _ => {}
  scanTime : UInt16 := 0
  contactCount : UInt8 := 0
  button : UInt8 := 0
  deriving DecidableEq

def ptpReportSize : UInt16 := 50

structure DeviceContext where
  lastScanTime : UInt16 := 0
  submitCount : Int32 := 0
  lastSubmitStatus : NtStatus := 0
  lastReportSize : UInt16 := 0
  lastActiveContactCount : UInt8 := 0
  inputMode : UInt8 := 0
  functionSwitch : UInt8 := 0
  getFeatureCount : Int32 := 0
  setFeatureCount : Int32 := 0
  deriving DecidableEq

def PtpContact.tip (contact : PtpContact) : Bool := contact.flags &&& 0x02 ≠ 0
def PtpContact.confidence (contact : PtpContact) : Bool := contact.flags &&& 0x01 ≠ 0

def clampCoordinate (value : UInt16) : UInt16 :=
  if mtpCoordinateLogicalMax < value then mtpCoordinateLogicalMax else value

def ptpContact (source : IoctlContact) : PtpContact :=
  let confidence : UInt8 := if source.flags &&& mtpIoctlContactConfidence ≠ 0 then 1 else 0
  let tip : UInt8 := if source.flags &&& mtpIoctlContactTip ≠ 0 then 1 else 0
  { flags := confidence ||| (tip <<< 1)
    contactId := source.slot.toUInt32
    x := clampCoordinate source.x
    y := clampCoordinate source.y }

def RecordInvalid (source : IoctlContact) : Prop :=
  mtpHidMaxContacts ≤ source.slot.toNat ∨ source.reserved ≠ 0 ∨
    source.flags &&& ~~~(mtpIoctlContactInRange ||| mtpIoctlContactTip |||
      mtpIoctlContactConfidence) ≠ 0

instance : DecidablePred RecordInvalid := fun _ => inferInstanceAs (Decidable (_ ∨ _ ∨ _))

/-- The record loop; `none` where it returns. -/
def fillReport : List IoctlContact → PtpReport → Option PtpReport
  | [], report => some report
  | source :: sources, report =>
      if RecordInvalid source then none
      else
        fillReport sources
          { report with
            contacts := fun i =>
              if i.val = source.slot.toNat then ptpContact source else report.contacts i }

def HeaderInvalid (input : IoctlFrame) : Prop :=
  input.abiVersion ≠ mtpIoctlAbiVersion ∨
    input.flags &&& ~~~(mtpIoctlFrameReset ||| mtpIoctlFrameButton) ≠ 0 ∨
    mtpHidMaxContacts < input.activeContactCount.toNat ∨
    mtpHidMaxContacts < input.reportContactCount.toNat

instance : DecidablePred HeaderInvalid := fun _ => inferInstanceAs (Decidable (_ ∨ _ ∨ _ ∨ _))

structure Submission where
  status : NtStatus
  context : DeviceContext
  report : Option PtpReport

def reportHeader (input : IoctlFrame) (scanTime : UInt16) : PtpReport where
  reportId := mtpReportIdInput
  scanTime
  contactCount := input.activeContactCount
  button := if input.flags &&& mtpIoctlFrameButton ≠ 0 then 1 else 0

def submitIoctlFrame (vhfReadReportSubmit : PtpReport → NtStatus) (context : DeviceContext)
    (input : IoctlFrame) : Submission :=
  if HeaderInvalid input then ⟨statusInvalidParameter, context, none⟩
  else
    let (scanTime, context) :=
      if input.scanTime100us ≠ 0 then (input.scanTime100us, context)
      else
        let lastScanTime := context.lastScanTime + 1
        (lastScanTime, { context with lastScanTime })
    match fillReport input.records (reportHeader input scanTime) with
    | none => ⟨statusInvalidParameter, context, none⟩
    | some report =>
        let status := vhfReadReportSubmit report
        ⟨status,
          { context with
            lastReportSize := ptpReportSize
            lastActiveContactCount := input.activeContactCount
            lastSubmitStatus := status
            submitCount := context.submitCount + 1 },
          some report⟩

/-! ## What a submission needs -/

theorem fillReport_eq_some (records : List IoctlContact) (report : PtpReport)
    (hvalid : ∀ record ∈ records, ¬ RecordInvalid record)
    (hdistinct : (records.map IoctlContact.slot).Nodup) :
    ∃ contacts, fillReport records report = some { report with contacts } ∧
      (∀ record ∈ records, ∀ slot : Fin mtpHidMaxContacts, record.slot.toNat = slot →
        contacts slot = ptpContact record) ∧
      ∀ slot : Fin mtpHidMaxContacts, (∀ record ∈ records, record.slot.toNat ≠ slot) →
        contacts slot = report.contacts slot := by
  induction records generalizing report with
  | nil => exact ⟨report.contacts, rfl, by simp, fun _ _ => rfl⟩
  | cons record records ih =>
      have hrecord : ¬ RecordInvalid record := hvalid record List.mem_cons_self
      rw [List.map_cons, List.nodup_cons] at hdistinct
      obtain ⟨contacts, hfill, hentered, hkept⟩ := ih
        { report with
          contacts := fun i =>
            if i.val = record.slot.toNat then ptpContact record else report.contacts i }
        (fun other hother => hvalid other (List.mem_cons_of_mem _ hother)) hdistinct.2
      refine ⟨contacts, ?_, ?_, ?_⟩
      · rw [fillReport, if_neg hrecord, hfill]
      · intro other hother slot hslot
        rcases List.mem_cons.mp hother with rfl | hother
        · have hothers : ∀ later ∈ records, later.slot.toNat ≠ slot := by
            intro later hlater heq
            have hsame : later.slot = other.slot := UInt8.toNat_inj.mp (heq.trans hslot.symm)
            exact hdistinct.1 (hsame ▸ List.mem_map_of_mem hlater)
          rw [hkept slot hothers]
          simp [hslot]
        · exact hentered other hother slot hslot
      · intro slot hothers
        have hslot := hothers record List.mem_cons_self
        rw [hkept slot fun later hlater => hothers later (List.mem_cons_of_mem _ hlater)]
        simp [Ne.symm hslot]

@[simp] theorem ptpContact_tip (source : IoctlContact) :
    (ptpContact source).tip = source.hasTip := by
  rw [PtpContact.tip, IoctlContact.hasTip, ptpContact]
  by_cases htip : source.flags &&& mtpIoctlContactTip = 0 <;>
    by_cases hconfidence : source.flags &&& mtpIoctlContactConfidence = 0 <;>
      simp only [htip, hconfidence, ne_eq, not_true_eq_false, not_false_eq_true, if_true,
        if_false] <;> decide

@[simp] theorem ptpContact_confidence (source : IoctlContact) :
    (ptpContact source).confidence = source.hasConfidence := by
  rw [PtpContact.confidence, IoctlContact.hasConfidence, ptpContact]
  by_cases htip : source.flags &&& mtpIoctlContactTip = 0 <;>
    by_cases hconfidence : source.flags &&& mtpIoctlContactConfidence = 0 <;>
      simp only [htip, hconfidence, ne_eq, not_true_eq_false, not_false_eq_true, if_true,
        if_false] <;> decide

theorem clampCoordinate_eq {value : UInt16} (h : value ≤ mtpCoordinateLogicalMax) :
    clampCoordinate value = value :=
  if_neg (UInt16.not_lt.mpr h)

theorem submitIoctlFrame_report (vhfReadReportSubmit : PtpReport → NtStatus)
    (context : DeviceContext) {input : IoctlFrame} (hheader : ¬ HeaderInvalid input)
    (hvalid : ∀ record ∈ input.records, ¬ RecordInvalid record)
    (hdistinct : (input.records.map IoctlContact.slot).Nodup) :
    ∃ report, (submitIoctlFrame vhfReadReportSubmit context input).report = some report ∧
      (submitIoctlFrame vhfReadReportSubmit context input).status =
        vhfReadReportSubmit report ∧
      report.contactCount = input.activeContactCount ∧
      report.button = (if input.hasButton then 1 else 0) ∧
      (∀ record ∈ input.records, ∀ slot : Fin mtpHidMaxContacts,
        record.slot.toNat = slot → report.contacts slot = ptpContact record) ∧
      ∀ slot : Fin mtpHidMaxContacts, (∀ record ∈ input.records, record.slot.toNat ≠ slot) →
        report.contacts slot = {} := by
  rw [submitIoctlFrame, if_neg hheader]
  generalize (if input.scanTime100us ≠ 0 then (input.scanTime100us, context)
    else (context.lastScanTime + 1,
      { context with lastScanTime := context.lastScanTime + 1 })) = timed
  obtain ⟨scanTime, context'⟩ := timed
  obtain ⟨contacts, hfill, hentered, hkept⟩ :=
    fillReport_eq_some input.records (reportHeader input scanTime) hvalid hdistinct
  simp only [hfill]
  refine ⟨_, rfl, rfl, rfl, ?_, hentered, hkept⟩
  simp [reportHeader, IoctlFrame.hasButton]

end Touchpad.Driver
