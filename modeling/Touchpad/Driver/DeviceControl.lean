import Touchpad.Driver.Features
import Touchpad.Driver.KernelBoundary
import Touchpad.Driver.SynthesisedTime
import Touchpad.Foundation.Lists
import Touchpad.Shared.PackedStructures

/-!
# The driver's requests

`MtpEvtIoDeviceControl`, `MtpEvtVhfGetFeature` and `MtpEvtVhfSetFeature` of
`windows/driver/Driver.c` over one device context, each taken as one step.  The
answers of the driver frameworks belong to the calls.  What a status query returns
sums up the calls before it.
-/

namespace Touchpad.Driver

open Touchpad.Foundation
open Touchpad.Shared

def statusInvalidDeviceRequest : NtStatus := 0xc0000010

def ntSuccess (status : NtStatus) : Bool := status < 0x80000000

def mtpCtlCode (deviceType function method access : UInt32) : UInt32 :=
  deviceType <<< 16 ||| access <<< 14 ||| function <<< 2 ||| method

def fileDeviceMtpTouchpad : UInt32 := 0x8000
def ioctlMtpSubmitFrame : UInt32 := mtpCtlCode fileDeviceMtpTouchpad 0x800 0 0x0002
def ioctlMtpQueryStatus : UInt32 := mtpCtlCode fileDeviceMtpTouchpad 0x801 0 0x0001

/-! ## Control requests -/

structure Request where
  ioControlCode : UInt32
  inputBuffer : Bytes := []
  outputBufferLength : Nat := 0

/-- What the frameworks answer during a request: whether a buffer can be retrieved, from
its length and the least length asked for, and what becomes of a report. -/
structure Services where
  retrieveInputBuffer : Nat → Nat → NtStatus
  retrieveOutputBuffer : Nat → Nat → NtStatus
  vhfReadReportSubmit : PtpReport → NtStatus

/-- How a request is completed: its status, the octets put into the output buffer and
the report submitted. -/
structure Completion where
  status : NtStatus
  output : Bytes := []
  report : Option PtpReport := none

def ioctlStatus (context : DeviceContext) : IoctlStatus where
  abiVersion := mtpIoctlAbiVersion
  submitCount := context.submitCount.toUInt32
  lastSubmitStatus := Int32.ofUInt32 context.lastSubmitStatus
  lastReportSize := context.lastReportSize
  lastActiveContactCount := context.lastActiveContactCount
  inputMode := context.inputMode
  functionSwitch := context.functionSwitch
  getFeatureCount := context.getFeatureCount.toUInt32
  setFeatureCount := context.setFeatureCount.toUInt32

def ioDeviceControl (services : Services) (context : DeviceContext) (request : Request) :
    Completion × DeviceContext :=
  if request.ioControlCode = ioctlMtpQueryStatus then
    let status := services.retrieveOutputBuffer request.outputBufferLength statusCodec.size
    if ntSuccess status then
      ({ status, output := statusCodec.pack (ioctlStatus context) }, context)
    else ({ status }, context)
  else if request.ioControlCode ≠ ioctlMtpSubmitFrame ∨
      request.inputBuffer.length ≠ frameCodec.size then
    ({ status := statusInvalidDeviceRequest }, context)
  else
    let status := services.retrieveInputBuffer request.inputBuffer.length frameCodec.size
    if ntSuccess status then
      let submission := submitIoctlFrame services.vhfReadReportSubmit context
        (frameCodec.unpack request.inputBuffer)
      ({ status := submission.status, report := submission.report }, submission.context)
    else ({ status }, context)

/-! ## The calls of a driver -/

inductive DriverCall where
  | control (services : Services) (request : Request)
  | getFeature (packet : Option Packet)
  | setFeature (packet : Option Packet)

inductive DriverAnswer where
  | control (completion : Completion)
  | feature (completion : FeatureCompletion)

def driverStep (context : DeviceContext) : DriverCall → DriverAnswer × DeviceContext
  | .control services request =>
      let (completion, context) := ioDeviceControl services context request
      (.control completion, context)
  | .getFeature packet =>
      let (completion, context) := getFeature context packet
      (.feature completion, context)
  | .setFeature packet =>
      let (completion, context) := setFeature context packet
      (.feature completion, context)

abbrev Exchange := DriverCall × DriverAnswer

def exchanges (context : DeviceContext) (calls : List DriverCall) : List Exchange :=
  calls.zip (answers driverStep context calls)

/-! ## What the calls come to -/

def submissionOf : Exchange → Option (PtpReport × NtStatus)
  | (_, .control completion) => completion.report.map fun report => (report, completion.status)
  | _ => none

def settingOf (reportId : UInt8) : Exchange → Option UInt8
  | (.setFeature (some packet), .feature completion) =>
      if packet.reportId = reportId ∧ completion.status = statusSuccess then
        some (byteAt packet.reportBuffer 1)
      else none
  | _ => none

def isGetFeature : Exchange → Bool
  | (.getFeature _, _) => true
  | _ => false

/-- The status that the exchanges up to a query come to. -/
def summary (history : List Exchange) : IoctlStatus :=
  let submissions := history.filterMap submissionOf
  let modes := history.filterMap (settingOf mtpReportIdMode)
  let functions := history.filterMap (settingOf mtpReportIdFunction)
  { abiVersion := mtpIoctlAbiVersion
    submitCount := UInt32.ofNat submissions.length
    lastSubmitStatus :=
      Int32.ofUInt32 ((submissions.getLast?.map Prod.snd).getD statusNotFound)
    lastReportSize :=
      (submissions.getLast?.map fun last => UInt16.ofNat last.1.pack.length).getD 0
    lastActiveContactCount :=
      (submissions.getLast?.map fun last => last.1.contactCount).getD 0
    inputMode := modes.getLast?.getD 0
    functionSwitch := functions.getLast?.getD 0
    getFeatureCount := UInt32.ofNat (history.countP isGetFeature)
    setFeatureCount := UInt32.ofNat (modes.length + functions.length) }

theorem summary_snoc (history : List Exchange) (exchange : Exchange) :
    let before := summary history
    let submission := submissionOf exchange
    let mode := settingOf mtpReportIdMode exchange
    let function := settingOf mtpReportIdFunction exchange
    summary (history ++ [exchange]) = { before with
      submitCount := before.submitCount + UInt32.ofNat submission.toList.length
      lastSubmitStatus :=
        (submission.map fun last => Int32.ofUInt32 last.2).getD before.lastSubmitStatus
      lastReportSize :=
        (submission.map fun last => UInt16.ofNat last.1.pack.length).getD before.lastReportSize
      lastActiveContactCount :=
        (submission.map fun last => last.1.contactCount).getD before.lastActiveContactCount
      inputMode := mode.getD before.inputMode
      functionSwitch := function.getD before.functionSwitch
      getFeatureCount := before.getFeatureCount + if isGetFeature exchange then 1 else 0
      setFeatureCount := before.setFeatureCount +
        UInt32.ofNat (mode.toList.length + function.toList.length) } := by
  intro before submission mode function
  have hlast {α : Type} (items : List α) (item : Option α) :
      (items ++ item.toList).getLast? = item.or items.getLast? := by
    rw [List.getLast?_append]
    cases item <;> rfl
  have hcount (n : Nat) : UInt32.ofNat (n + if isGetFeature exchange then 1 else 0) =
      UInt32.ofNat n + if isGetFeature exchange then 1 else 0 := by
    rw [UInt32.ofNat_add]
    split <;> rfl
  have hsets (m n k l : Nat) : UInt32.ofNat (m + k + (n + l)) =
      UInt32.ofNat (m + n) + UInt32.ofNat (k + l) := by
    rw [← UInt32.ofNat_add, Nat.add_add_add_comm]
  simp only [before, summary, filterMap_concat, hlast, List.length_append, List.countP_append,
    List.countP_singleton, hcount, hsets, submission, mode, function, UInt32.ofNat_add]
  cases submissionOf exchange <;> cases settingOf mtpReportIdMode exchange <;>
    cases settingOf mtpReportIdFunction exchange <;> rfl

theorem summary_quiet {history : List Exchange} {exchange : Exchange}
    (hsubmission : submissionOf exchange = none)
    (hsetting : ∀ reportId, settingOf reportId exchange = none)
    (hget : isGetFeature exchange = false) :
    summary (history ++ [exchange]) = summary history := by
  simp [summary_snoc, hsubmission, hsetting, hget]

theorem submitIoctlFrame_status (vhfReadReportSubmit : PtpReport → NtStatus)
    (context : DeviceContext) (input : IoctlFrame) :
    let submission := submitIoctlFrame vhfReadReportSubmit context input
    (submission.report = none ∧ ioctlStatus submission.context = ioctlStatus context) ∨
      ∃ report, submission.report = some report ∧
        ioctlStatus submission.context = { ioctlStatus context with
          submitCount := (ioctlStatus context).submitCount + 1
          lastSubmitStatus := Int32.ofUInt32 submission.status
          lastReportSize := UInt16.ofNat report.pack.length
          lastActiveContactCount := report.contactCount } := by
  intro submission
  have htimed : ioctlStatus (timed context input) = ioctlStatus context := by
    unfold timed
    split <;> rfl
  by_cases hrefused : Refused input
  · left
    have hsubmission := submitIoctlFrame_refused vhfReadReportSubmit context hrefused
    refine ⟨congrArg Submission.report hsubmission, ?_⟩
    rw [congrArg Submission.context hsubmission]
    dsimp only
    split
    · rfl
    · exact htimed
  · right
    have hheader : ¬ HeaderInvalid input := fun hheader => hrefused (.inl hheader)
    obtain ⟨report, hreport, hfill, -⟩ :=
      submitIoctlFrame_accepted vhfReadReportSubmit context hrefused
    refine ⟨report, hreport, ?_⟩
    have hcount : report.contactCount = input.activeContactCount := by
      rw [fillReport_header hfill]
      rfl
    have hsubmission := submitIoctlFrame_eq vhfReadReportSubmit context hheader
    rw [hfill] at hsubmission
    rw [show submission = _ from hsubmission, hcount, report.pack_length, UInt16.ofNat_toNat]
    have hcounted : (context.submitCount + 1).toUInt32 = context.submitCount.toUInt32 + 1 :=
      Int32.toUInt32_add _ _
    simp only [ioctlStatus, hcounted, timed]
    split <;> rfl

theorem ioDeviceControl_cases (services : Services) (context : DeviceContext)
    (request : Request) :
    ((ioDeviceControl services context request).1.report = none ∧
        (ioDeviceControl services context request).2 = context) ∨
      ∃ input, frameCodec.pack input = request.inputBuffer ∧
        request.ioControlCode = ioctlMtpSubmitFrame ∧
        ntSuccess (services.retrieveInputBuffer request.inputBuffer.length frameCodec.size) = true ∧
        ioDeviceControl services context request =
          ({ status := (submitIoctlFrame services.vhfReadReportSubmit context input).status
             report := (submitIoctlFrame services.vhfReadReportSubmit context input).report },
            (submitIoctlFrame services.vhfReadReportSubmit context input).context) := by
  unfold ioDeviceControl
  dsimp only
  split
  · split <;> exact .inl ⟨rfl, rfl⟩
  · split
    case isTrue => exact .inl ⟨rfl, rfl⟩
    case isFalse hsubmit =>
      obtain ⟨hcode, hlength⟩ := not_or.mp hsubmit
      split
      case isTrue hretrieved =>
        exact .inr ⟨_, frameCodec.pack_unpack _ (not_not.mp hlength), not_not.mp hcode,
          hretrieved, rfl⟩
      case isFalse => exact .inl ⟨rfl, rfl⟩

theorem step_summary {context : DeviceContext} {history : List Exchange}
    (h : ioctlStatus context = summary history) (call : DriverCall) :
    ioctlStatus (driverStep context call).2 =
      summary (history ++ [(call, (driverStep context call).1)]) := by
  cases call with
  | control services request =>
      rw [driverStep]
      have hquiet {completion : Completion} (hreport : completion.report = none) :
          summary (history ++ [(.control services request, .control completion)]) =
            summary history :=
        summary_quiet (by rw [submissionOf, hreport]; rfl) (fun _ => rfl) rfl
      rcases ioDeviceControl_cases services context request with
        ⟨hreport, hsame⟩ | ⟨input, -, -, -, hsubmitted⟩
      · dsimp only
        rw [hquiet hreport, hsame, h]
      · rw [hsubmitted]
        dsimp only
        rcases submitIoctlFrame_status services.vhfReadReportSubmit context input with
          ⟨hnone, hsame⟩ | ⟨report, hsome, hcounted⟩
        · rw [hquiet hnone, hsame, h]
        · rw [hcounted, h, summary_snoc, submissionOf, hsome]
          simp [settingOf, isGetFeature]
  | getFeature packet =>
      have hcounted : ioctlStatus (getFeature context packet).2 =
          { ioctlStatus context with
            getFeatureCount := (ioctlStatus context).getFeatureCount + 1 } := by
        simp only [getFeature_context, ioctlStatus, Int32.toUInt32_add]
        rfl
      rw [driverStep]
      dsimp only
      rw [hcounted, h, summary_snoc]
      simp [submissionOf, settingOf, isGetFeature]
  | setFeature packet =>
      have hrefused : statusInvalidParameter ≠ statusSuccess := by decide
      have hne : mtpReportIdFunction ≠ mtpReportIdMode := by decide
      have hcount : (context.setFeatureCount + 1).toUInt32 = context.setFeatureCount.toUInt32 + 1 :=
        Int32.toUInt32_add _ _
      rw [driverStep, summary_snoc, ← h]
      cases packet with
      | none => simp [setFeature, submissionOf, settingOf, isGetFeature]
      | some packet =>
          by_cases hset : 2 ≤ packet.reportBuffer.length ∧
              (packet.reportId = mtpReportIdMode ∨ packet.reportId = mtpReportIdFunction)
          · unfold setFeature
            dsimp only
            rw [if_pos hset]
            rcases hset.2 with hmode | hfunction
            · simp [hmode, hne.symm, submissionOf, settingOf, isGetFeature, ioctlStatus, hcount]
            · simp [hfunction, hne, submissionOf, settingOf, isGetFeature, ioctlStatus, hcount]
          · unfold setFeature
            dsimp only
            rw [if_neg hset]
            simp [submissionOf, settingOf, isGetFeature, hrefused]

theorem run_summary {context : DeviceContext} {history : List Exchange}
    (h : ioctlStatus context = summary history) (calls : List DriverCall) :
    ioctlStatus (afterAll driverStep context calls) =
      summary (history ++ exchanges context calls) := by
  induction calls generalizing context history with
  | nil => exact h.trans (congrArg summary (List.append_nil history).symm)
  | cons call calls ih =>
      have hnext := ih (step_summary h call)
      rw [List.append_assoc] at hnext
      exact hnext

/-- A status query that gets its buffer returns what all calls before it come to: the
number of reports handed over, the outcome, size and contacts of the last one, the
settings last made, and the feature operations.  It changes nothing, and neither does
a query without a buffer. -/
theorem query_sums_up (calls : List DriverCall) (services : Services) (inputBuffer : Bytes)
    (outputBufferLength : Nat) :
    let context := afterAll driverStep freshContext calls
    let (completion, after) := ioDeviceControl services context
      { ioControlCode := ioctlMtpQueryStatus, inputBuffer, outputBufferLength }
    after = context ∧ completion.report = none ∧
      completion.output =
        if ntSuccess completion.status then
          statusCodec.pack (summary (exchanges freshContext calls))
        else [] := by
  intro context
  have hsummary : ioctlStatus context = summary (exchanges freshContext calls) :=
    @run_summary freshContext [] rfl calls
  rw [ioDeviceControl, if_pos rfl]
  dsimp only
  rw [hsummary]
  split
  case isTrue => exact ⟨rfl, rfl, rfl⟩
  case isFalse => exact ⟨rfl, rfl, rfl⟩

/-! ## Requests with any octets -/

theorem ioDeviceControl_submit {services : Services} {request : Request}
    (hcode : request.ioControlCode = ioctlMtpSubmitFrame)
    (hretrieved : ntSuccess (services.retrieveInputBuffer request.inputBuffer.length
      frameCodec.size) = true) (context : DeviceContext) {input : IoctlFrame}
    (hinput : frameCodec.pack input = request.inputBuffer) :
    ioDeviceControl services context request =
      ({ status := (submitIoctlFrame services.vhfReadReportSubmit context input).status
         report := (submitIoctlFrame services.vhfReadReportSubmit context input).report },
        (submitIoctlFrame services.vhfReadReportSubmit context input).context) := by
  have hquery : request.ioControlCode ≠ ioctlMtpQueryStatus := by
    rw [hcode]
    decide
  have hlength : request.inputBuffer.length = frameCodec.size := by
    rw [← hinput, frameCodec.pack_length]
  have hunpack : frameCodec.unpack request.inputBuffer = input := by
    rw [← hinput, frameCodec.unpack_pack]
  rw [ioDeviceControl, if_neg hquery, if_neg (by simp [hcode, hlength])]
  dsimp only
  rw [if_pos hretrieved, hunpack]

theorem ioDeviceControl_unretrieved {services : Services} {request : Request}
    (hcode : request.ioControlCode = ioctlMtpSubmitFrame)
    (hlength : request.inputBuffer.length = frameCodec.size)
    (hretrieved : ¬ ntSuccess (services.retrieveInputBuffer frameCodec.size
      frameCodec.size) = true) (context : DeviceContext) :
    ioDeviceControl services context request =
      ({ status := services.retrieveInputBuffer frameCodec.size frameCodec.size }, context) := by
  have hquery : request.ioControlCode ≠ ioctlMtpQueryStatus := by
    rw [hcode]
    decide
  rw [ioDeviceControl, if_neg hquery, if_neg (by simp [hcode, hlength])]
  dsimp only
  rw [hlength, if_neg hretrieved]

/-- Only a submit request whose buffer is, octet for octet, one frame that is not refused
hands over a report, which is the report of this frame and within its bounds.  All other
requests leave the context as it was, up to the counter of scan times. -/
theorem request_reports_iff (services : Services) (context : DeviceContext) (request : Request)
    (report : PtpReport) :
    ((ioDeviceControl services context request).1.report = some report ↔
      request.ioControlCode = ioctlMtpSubmitFrame ∧
        ntSuccess (services.retrieveInputBuffer request.inputBuffer.length frameCodec.size) ∧
        ∃ input, frameCodec.pack input = request.inputBuffer ∧ ¬ Refused input ∧
          (submitIoctlFrame services.vhfReadReportSubmit context input).report = some report ∧
          report.Bounded) ∧
      ((ioDeviceControl services context request).1.report = none →
        { (ioDeviceControl services context request).2 with
          lastScanTime := context.lastScanTime } = context) := by
  constructor
  · constructor
    · intro hreport
      rcases ioDeviceControl_cases services context request with
        ⟨hnone, -⟩ | ⟨input, hinput, hcode, hretrieved, hsubmitted⟩
      · cases hnone.symm.trans hreport
      · rw [hsubmitted] at hreport
        refine ⟨hcode, hretrieved, input, hinput, ?_, hreport, submitted_bounded hreport⟩
        rw [← submitIoctlFrame_report_eq_none_iff services.vhfReadReportSubmit context input]
        exact fun hnone => Option.some_ne_none _ (hreport.symm.trans hnone)
    · rintro ⟨hcode, hretrieved, input, hinput, -, hreport, -⟩
      rw [ioDeviceControl_submit hcode hretrieved context hinput]
      exact hreport
  · intro hnone
    rcases ioDeviceControl_cases services context request with
      ⟨-, hsame⟩ | ⟨input, -, -, -, hsubmitted⟩
    · rw [hsame]
    · rw [hsubmitted] at hnone ⊢
      have hrefused : Refused input :=
        (submitIoctlFrame_report_eq_none_iff services.vhfReadReportSubmit context input).mp hnone
      rw [submitIoctlFrame_refused _ _ hrefused]
      dsimp only
      split
      · rfl
      · unfold timed
        split <;> rfl

end Touchpad.Driver
