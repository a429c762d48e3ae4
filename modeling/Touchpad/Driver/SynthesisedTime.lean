import Touchpad.Driver.ScanTime
import Touchpad.Foundation.Transition

/-!
# Synthesised scan times

Releases carry no scan time, and the driver gives them the next value of its
counter.  The counter counts the frames without scan time; the scan times of other
frames do not enter it, so a release goes on from the report of such a frame only
where the two happen to meet.
-/

namespace Touchpad.Driver

open Touchpad.Foundation
open Touchpad.Shared
open Touchpad.Receiver

def statusNotFound : NtStatus := 0xc0000225

def freshContext : DeviceContext := { lastSubmitStatus := statusNotFound }

/-! ## Runs of the driver -/

def submit (vhfReadReportSubmit : PtpReport → NtStatus) (context : DeviceContext)
    (input : IoctlFrame) : Option PtpReport × DeviceContext :=
  let submission := submitIoctlFrame vhfReadReportSubmit context input
  (submission.report, submission.context)

theorem submitAll_eq_answers (vhfReadReportSubmit : PtpReport → NtStatus)
    (context : DeviceContext) (inputs : List IoctlFrame) :
    submitAll vhfReadReportSubmit context inputs =
      answers (submit vhfReadReportSubmit) context inputs := by
  induction inputs generalizing context with
  | nil => rfl
  | cons input inputs ih =>
      rw [submitAll, answers, ih]
      rfl

def synthesised (inputs : List IoctlFrame) : Nat :=
  inputs.countP fun input => input.scanTime100us = 0

theorem lastScanTime_after (vhfReadReportSubmit : PtpReport → NtStatus) (context : DeviceContext)
    {inputs : List IoctlFrame} (haccepted : ∀ input ∈ inputs, ¬ Refused input) :
    (afterAll (submit vhfReadReportSubmit) context inputs).lastScanTime =
      context.lastScanTime + UInt16.ofNat (synthesised inputs) := by
  induction inputs generalizing context with
  | nil => exact (UInt16.add_zero _).symm
  | cons input inputs ih =>
      obtain ⟨hinput, hinputs⟩ := List.forall_mem_cons.mp haccepted
      obtain ⟨report, -, -, -, hclock⟩ :=
        submitIoctlFrame_accepted vhfReadReportSubmit context hinput
      have hnext : (submit vhfReadReportSubmit context input).2.lastScanTime =
          (timed context input).lastScanTime := hclock
      rw [afterAll, ih _ hinputs, hnext, timed, synthesised, synthesised]
      by_cases hscan : input.scanTime100us = 0
      · rw [List.countP_cons_of_pos (by simpa using hscan), if_neg (not_not.mpr hscan),
          UInt16.ofNat_add, UInt16.add_assoc, UInt16.add_comm 1]
        rfl
      · rw [List.countP_cons_of_neg (by simpa using hscan), if_pos hscan]

theorem report_at (vhfReadReportSubmit : PtpReport → NtStatus) (context : DeviceContext)
    {inputs : List IoctlFrame} (haccepted : ∀ input ∈ inputs, ¬ Refused input) {index : Nat}
    {input : IoctlFrame} (hinput : inputs[index]? = some input) :
    ∃ report, (submitAll vhfReadReportSubmit context inputs)[index]? = some (some report) ∧
      report.scanTime =
        if input.scanTime100us ≠ 0 then input.scanTime100us
        else context.lastScanTime + UInt16.ofNat (synthesised (inputs.take index)) + 1 := by
  obtain ⟨hindex, hget⟩ := List.getElem?_eq_some_iff.mp hinput
  have hsplit : inputs = inputs.take index ++ input :: inputs.drop (index + 1) := by
    rw [← hget, List.cons_getElem_drop_succ, List.take_append_drop]
  have hlength : (inputs.take index).length = index := List.length_take_of_le hindex.le
  have hearlier : ∀ other ∈ inputs.take index, ¬ Refused other := fun other hother =>
    haccepted other (List.mem_of_mem_take hother)
  have hmem : input ∈ inputs := List.mem_of_getElem? hinput
  obtain ⟨report, hreport, -, htime, -⟩ := submitIoctlFrame_accepted vhfReadReportSubmit
    (afterAll (submit vhfReadReportSubmit) context (inputs.take index)) (haccepted input hmem)
  have hanswer := @answers_at _ _ _ (submit vhfReadReportSubmit) context (inputs.take index)
    input (inputs.drop (index + 1))
  rw [← hsplit, hlength] at hanswer
  refine ⟨report, ?_, ?_⟩
  · rw [submitAll_eq_answers, hanswer]
    exact congrArg some hreport
  · rw [htime, reportedScanTime, lastScanTime_after _ _ hearlier]

/-! ## Continuation -/

/-- Each report of a frame without scan time goes on from the report before it. -/
def Continues (vhfReadReportSubmit : PtpReport → NtStatus) (inputs : List IoctlFrame) : Prop :=
  ∀ index, ∀ input ∈ inputs[index + 1]?, input.scanTime100us = 0 →
    ∃ previous report,
      (submitAll vhfReadReportSubmit freshContext inputs)[index]? = some (some previous) ∧
        (submitAll vhfReadReportSubmit freshContext inputs)[index + 1]? = some (some report) ∧
        report.scanTime = previous.scanTime + 1

/-- Where a frame without scan time follows one with scan time, that scan time is the
number of frames without one until then. -/
def CounterMeets (inputs : List IoctlFrame) : Prop :=
  ∀ index < inputs.length, ∀ last ∈ inputs[index]?, ∀ input ∈ inputs[index + 1]?,
    input.scanTime100us = 0 → last.scanTime100us ≠ 0 →
      last.scanTime100us = UInt16.ofNat (synthesised (inputs.take index))

instance : DecidablePred CounterMeets := fun inputs =>
  inferInstanceAs (Decidable (∀ index < inputs.length, _))

theorem synthesised_take_succ {inputs : List IoctlFrame} {index : Nat} {last : IoctlFrame}
    (hlast : inputs[index]? = some last) :
    synthesised (inputs.take (index + 1)) =
      synthesised (inputs.take index) + if last.scanTime100us = 0 then 1 else 0 := by
  rw [synthesised, synthesised, List.take_add_one, hlast, List.countP_append]
  simp [List.countP_cons]

theorem continues_at_iff (vhfReadReportSubmit : PtpReport → NtStatus) {inputs : List IoctlFrame}
    (haccepted : ∀ input ∈ inputs, ¬ Refused input) {index : Nat} {last input : IoctlFrame}
    (hlast : inputs[index]? = some last) (hinput : inputs[index + 1]? = some input)
    (hscan : input.scanTime100us = 0) :
    ∃ previous report,
      (submitAll vhfReadReportSubmit freshContext inputs)[index]? = some (some previous) ∧
        (submitAll vhfReadReportSubmit freshContext inputs)[index + 1]? = some (some report) ∧
        (report.scanTime = previous.scanTime + 1 ↔
          (last.scanTime100us ≠ 0 →
            last.scanTime100us = UInt16.ofNat (synthesised (inputs.take index)))) := by
  obtain ⟨previous, hprevious, hbefore⟩ :=
    report_at vhfReadReportSubmit freshContext haccepted hlast
  obtain ⟨report, hreport, hafter⟩ :=
    report_at vhfReadReportSubmit freshContext haccepted hinput
  refine ⟨previous, report, hprevious, hreport, ?_⟩
  rw [if_neg (not_not.mpr hscan), synthesised_take_succ hlast] at hafter
  have hfresh : ∀ time : UInt16, freshContext.lastScanTime + time = time := UInt16.zero_add
  rw [hfresh] at hafter hbefore
  rw [hafter, hbefore]
  by_cases hzero : last.scanTime100us = 0
  · simp [hzero]
  · rw [if_neg hzero, if_pos hzero, Nat.add_zero, UInt16.add_left_inj]
    exact ⟨fun h _ => h.symm, fun h => (h hzero).symm⟩

/-- Over a run of accepted frames, the reports of frames without scan time go on from
the reports before them exactly where the counter meets the scan times given to it. -/
theorem synthesised_times_continue_iff (vhfReadReportSubmit : PtpReport → NtStatus)
    {inputs : List IoctlFrame} (haccepted : ∀ input ∈ inputs, ¬ Refused input) :
    Continues vhfReadReportSubmit inputs ↔ CounterMeets inputs := by
  constructor
  · intro hcontinues index hindex last hlast input hinput hscan
    obtain ⟨previous, report, hprevious, hreport, hiff⟩ :=
      continues_at_iff vhfReadReportSubmit haccepted hlast hinput hscan
    obtain ⟨previous', report', hprevious', hreport', hnext⟩ :=
      hcontinues index input hinput hscan
    rw [hprevious, Option.some.injEq, Option.some.injEq] at hprevious'
    rw [hreport, Option.some.injEq, Option.some.injEq] at hreport'
    rw [← hprevious', ← hreport'] at hnext
    exact hiff.mp hnext
  · intro hmeets index input hinput hscan
    have hlt : index < inputs.length :=
      Nat.lt_of_succ_lt (List.getElem?_eq_some_iff.mp hinput).1
    have hlast : inputs[index]? = some inputs[index] := List.getElem?_eq_getElem hlt
    obtain ⟨previous, report, hprevious, hreport, hiff⟩ :=
      continues_at_iff vhfReadReportSubmit haccepted hlast hinput hscan
    exact ⟨previous, report, hprevious, hreport,
      hiff.mpr (hmeets index hlt _ hlast input hinput hscan)⟩

theorem synthesised_times_continue_iff_met :
    (∀ input ∈ [emptyFrame, { emptyFrame with scanTime100us := 1 }, emptyFrame],
      ¬ Refused input) ∧
      Continues (fun _ => 0) [emptyFrame, { emptyFrame with scanTime100us := 1 }, emptyFrame] := by
  have haccepted : ∀ input ∈ [emptyFrame, { emptyFrame with scanTime100us := 1 }, emptyFrame],
      ¬ Refused input := by decide
  exact ⟨haccepted, (synthesised_times_continue_iff (fun _ => 0) haccepted).mpr (by decide)⟩

/-! ## A release after a touch -/

def emittedFrames (calls : List SessionCall) : List IoctlFrame :=
  (({} : TouchSession).trace calls).filterMap SessionStep.frame

def touchedFrame : Message where
  type := .frame
  sequence := 2
  captureTimeUs := 250000
  contacts := [{ identifier := 7, flags := 7 }]

def touchedThenSilent : List SessionCall :=
  [.process { type := .hello, sequence := 0 } 0,
    .process { type := .reset, sequence := 1 } 0,
    .process touchedFrame 0,
    .timeout kFrameTimeout]

theorem touchedThenSilent_decoded : ∀ call ∈ touchedThenSilent, call.Decoded := by
  have hframe : decodeMessage (Protocol.tpEncodeMessage Protocol.tpMessageFrame {
      sequence := 2
      captureTimeUs := 250000
      contactCount := 1
      contacts := fun _ => { identifier := 7, flags := 7 } } 476).2 =
      .ok touchedFrame := by decide +kernel
  exact decoded_after_reset
    (List.forall_mem_cons.mpr ⟨⟨_, hframe⟩, List.forall_mem_singleton.mpr trivial⟩)

/-- The release is reported with scan time 2, after a report with 2500. -/
theorem release_time_jumps :
    (∀ call ∈ touchedThenSilent, call.Decoded) ∧
      (∀ input ∈ emittedFrames touchedThenSilent, ¬ Refused input) ∧
      (submitAll (fun _ => 0) freshContext (emittedFrames touchedThenSilent)).map
        (Option.map PtpReport.scanTime) = [some 1, some 2500, some 2] ∧
      ¬ Continues (fun _ => 0) (emittedFrames touchedThenSilent) := by
  have htimes : (submitAll (fun _ => 0) freshContext (emittedFrames touchedThenSilent)).map
      (Option.map PtpReport.scanTime) = [some 1, some 2500, some 2] := by decide +kernel
  have haccepted : ((emittedFrames touchedThenSilent).all fun input => ¬ Refused input) = true := by
    decide +kernel
  have hrelease : (emittedFrames touchedThenSilent)[2]?.map IoctlFrame.scanTime100us = some 0 := by
    decide +kernel
  refine ⟨touchedThenSilent_decoded, by simpa using haccepted, htimes, fun hcontinues => ?_⟩
  obtain ⟨release, hinput, hscan⟩ := Option.map_eq_some_iff.mp hrelease
  obtain ⟨previous, report, hprevious, hreport, hnext⟩ := hcontinues 1 release hinput hscan
  have hbefore := congrArg (Option.map (Option.map PtpReport.scanTime)) hprevious
  have hafter := congrArg (Option.map (Option.map PtpReport.scanTime)) hreport
  rw [← List.getElem?_map, htimes] at hbefore hafter
  have htouch : 2500 = previous.scanTime := by simpa using hbefore
  have hjump : 2 = report.scanTime := by simpa using hafter
  rw [← htouch, ← hjump] at hnext
  revert hnext
  decide

end Touchpad.Driver
