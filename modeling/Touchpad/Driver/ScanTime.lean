import Mathlib.Data.Int.ModEq
import Touchpad.Driver.Agreement
import Touchpad.Driver.History
import Touchpad.Receiver.FrameStep

/-!
# Scan time

The receiver divides the capture time into ticks of 100 microseconds and keeps
sixteen bits, so zero is one of its values.  The driver takes zero for a missing
scan time and reports its own counter instead.
-/

namespace Touchpad.Driver

open Touchpad.Foundation
open Touchpad.Shared
open Touchpad.Receiver

def captureTicks (message : Message) : UInt16 :=
  UInt16.ofNat (message.captureTimeUs.toNat / 100 % 65536)

theorem captureTicks_toNat (message : Message) :
    (captureTicks message).toNat = message.captureTimeUs.toNat / 100 % 65536 := by
  rw [captureTicks, UInt16.toNat_ofNat']
  omega

theorem frameHeader_scanTime (message : Message) :
    (TouchSession.frameHeader message).scanTime100us = captureTicks message := by
  apply UInt16.toNat_inj.mp
  rw [captureTicks_toNat]
  have hmask : (0xffff : UInt64).toNat = 2 ^ 16 - 1 := rfl
  have hhundred : (100 : UInt64).toNat = 100 := rfl
  simp only [TouchSession.frameHeader, UInt64.toNat_toUInt16, UInt64.toNat_and,
    UInt64.toNat_div, hmask, hhundred, Nat.and_two_pow_sub_one_eq_mod]
  omega

theorem frame_reportedScanTime (vhfReadReportSubmit : PtpReport → NtStatus)
    (context : DeviceContext) {session after : TouchSession} {message : Message} {now : Time}
    {frame : IoctlFrame} {arrived : SlotMap} (hmasked : Masked session.previousContacts)
    (hmasked' : Masked after.previousContacts)
    (h : FrameAccepted session message now frame after arrived) :
    ∃ report, (submitIoctlFrame vhfReadReportSubmit context frame).report = some report ∧
      report.scanTime = if captureTicks message ≠ 0 then captureTicks message
        else context.lastScanTime + 1 := by
  have hframe := h.frame_eq
  obtain ⟨report, hreport, -⟩ := transition_report vhfReadReportSubmit context
    (announces_frameHeader message) hmasked hmasked'
  rw [← hframe] at hreport
  have haccepted : ¬ Refused frame := by
    rw [← submitIoctlFrame_report_eq_none_iff vhfReadReportSubmit context frame, hreport]
    simp
  obtain ⟨report', hreport', -, htime, -⟩ :=
    submitIoctlFrame_accepted vhfReadReportSubmit context haccepted
  rw [hreport, Option.some.injEq] at hreport'
  have hscan : frame.scanTime100us = captureTicks message := by
    rw [hframe]
    exact frameHeader_scanTime message
  refine ⟨report, hreport, ?_⟩
  rw [hreport', htime, reportedScanTime, hscan]

theorem next_eq_zero_iff (value : UInt16) : value + 1 = 0 ↔ value = 0xffff := by
  have hlt := value.toNat_lt
  rw [← UInt16.toNat_inj, ← UInt16.toNat_inj, UInt16.toNat_add]
  simp only [UInt16.reduceToNat]
  omega

/-! ## Reports of a run -/

def Reported (vhfReadReportSubmit : PtpReport → NtStatus) (calls : List SessionCall)
    (message : Message) (context : DeviceContext) (report : PtpReport) : Prop :=
  ∃ step ∈ ({} : TouchSession).trace calls, ∃ now frame,
    step.call = .process message now ∧ message.type = .frame ∧ step.frame = some frame ∧
      (submitIoctlFrame vhfReadReportSubmit context frame).report = some report

def Supplied (message : Message) (context : DeviceContext) : Prop :=
  captureTicks message ≠ 0 ∨ context.lastScanTime = 0xffff

theorem frameStep_accepted {calls : List SessionCall}
    (hdecoded : ∀ call ∈ calls, call.Decoded) {step : SessionStep}
    (hstep : step ∈ ({} : TouchSession).trace calls) {message : Message} {now : Time}
    (hcall : step.call = .process message now) (htype : message.type = .frame)
    {frame : IoctlFrame} (hframe : step.frame = some frame) :
    Masked step.before.previousContacts ∧ Masked step.after.previousContacts ∧
      ∃ arrived, FrameAccepted step.before message now frame step.after arrived := by
  obtain ⟨⟨hsound, hmasked⟩, hmem, heq⟩ := TouchSession.trace_induction
    (fun session => session.Sound ∧ Masked session.previousContacts) calls
    (fun call hcall session hsession =>
      ⟨hsession.1.run (hdecoded call hcall).distinct,
        hsession.2.step (hdecoded call hcall)
          (call.run_effect (hdecoded call hcall).distinct hsession.1)⟩)
    ⟨TouchSession.sound_initial, by simp [Masked]⟩ hstep
  have hdecodedCall := hdecoded _ hmem
  rw [hcall] at hdecodedCall
  have hmasked' : Masked step.after.previousContacts := by
    have heffect := step.call.step_effect (hdecoded _ hmem).distinct hsound
    rw [← heq] at heffect
    exact hmasked.step (hdecoded _ hmem) heffect
  refine ⟨hmasked, hmasked', ?_⟩
  apply TouchSession.process_frame_accepted hsound htype hdecodedCall.distinct
  rw [heq, hcall] at hframe
  rw [heq, hcall]
  simp only [SessionStep.frame, SessionCall.step, SessionCall.run] at hframe ⊢
  cases hresult : step.before.process message now with
  | mk outcome after =>
      rw [hresult] at hframe
      cases outcome with
      | error error => cases hframe
      | ok output =>
          simp only [Except.toOption, Option.join_some] at hframe
          rw [hframe]

/-- Every accepted FRAME is reported; its report follows the capture clock exactly
when the driver does not put its counter in place of zero ticks, and then so do the
differences between reports. -/
theorem scan_time_follows_iff (vhfReadReportSubmit : PtpReport → NtStatus)
    (calls : List SessionCall) (hdecoded : ∀ call ∈ calls, call.Decoded) :
    (∀ step ∈ ({} : TouchSession).trace calls, ∀ message now frame,
      step.call = .process message now → message.type = .frame → step.frame = some frame →
        ∀ context, ∃ report,
          (submitIoctlFrame vhfReadReportSubmit context frame).report = some report) ∧
    (∀ message context report, Reported vhfReadReportSubmit calls message context report →
      (report.scanTime.toNat = message.captureTimeUs.toNat / 100 % 65536 ↔
        Supplied message context)) ∧
    (∀ first firstContext firstReport second secondContext secondReport,
      Reported vhfReadReportSubmit calls first firstContext firstReport →
      Reported vhfReadReportSubmit calls second secondContext secondReport →
      Supplied first firstContext → Supplied second secondContext →
        (secondReport.scanTime.toNat : Int) - firstReport.scanTime.toNat ≡
          (second.captureTimeUs.toNat / 100 : Nat) - (first.captureTimeUs.toNat / 100 : Nat)
          [ZMOD 65536]) := by
  have hreported : ∀ message context report,
      Reported vhfReadReportSubmit calls message context report →
        (report.scanTime.toNat = message.captureTimeUs.toNat / 100 % 65536 ↔
          Supplied message context) := by
    rintro message context report ⟨step, hstep, now, frame, hcall, htype, hframe, hreport⟩
    obtain ⟨hmasked, hmasked', arrived, haccepted⟩ :=
      frameStep_accepted hdecoded hstep hcall htype hframe
    obtain ⟨report', hreport', htime⟩ := frame_reportedScanTime vhfReadReportSubmit context
      hmasked hmasked' haccepted
    rw [hreport, Option.some.injEq] at hreport'
    rw [← captureTicks_toNat, UInt16.toNat_inj, hreport', htime, Supplied]
    by_cases hzero : captureTicks message = 0
    · simp only [hzero, ne_eq, not_true_eq_false, if_false, false_or]
      exact next_eq_zero_iff _
    · simp [hzero]
  refine ⟨?_, hreported, ?_⟩
  · intro step hstep message now frame hcall htype hframe context
    obtain ⟨hmasked, hmasked', arrived, haccepted⟩ :=
      frameStep_accepted hdecoded hstep hcall htype hframe
    obtain ⟨report, hreport, -⟩ := frame_reportedScanTime vhfReadReportSubmit context
      hmasked hmasked' haccepted
    exact ⟨report, hreport⟩
  · intro first firstContext firstReport second secondContext secondReport hfirst hsecond
      hsupplied hsupplied'
    rw [(hreported _ _ _ hfirst).mpr hsupplied, (hreported _ _ _ hsecond).mpr hsupplied']
    push_cast
    exact (Int.mod_modEq _ _).sub (Int.mod_modEq _ _)

def clockedCalls (captureTimeUs : UInt64) : List SessionCall :=
  [.process { type := .hello, sequence := 0 } 0,
    .process { type := .reset, sequence := 1 } 0,
    .process { type := .frame, sequence := 2, captureTimeUs } 0]

private theorem clockedCalls_decoded {captureTimeUs : UInt64}
    (h : decodeMessage (Protocol.tpEncodeMessage Protocol.tpMessageFrame
      { sequence := 2, captureTimeUs } 476).2 =
        .ok { type := .frame, sequence := 2, captureTimeUs }) :
    ∀ call ∈ clockedCalls captureTimeUs, call.Decoded :=
  decoded_after_reset (List.forall_mem_singleton.mpr ⟨_, h⟩)

private theorem clockedCalls_reported {captureTimeUs : UInt64} (scanTime100us : UInt16)
    (h : ((SessionCall.process { type := .frame, sequence := 2, captureTimeUs } 0).step
      (({} : TouchSession).after ((clockedCalls captureTimeUs).take 2))).frame =
        some { emptyFrame with sequence := 2, scanTime100us })
    {context : DeviceContext} {report : PtpReport}
    (hreport : (submitIoctlFrame (fun _ => 0) context
      { emptyFrame with sequence := 2, scanTime100us }).report = some report) :
    Reported (fun _ => 0) (clockedCalls captureTimeUs)
      { type := .frame, sequence := 2, captureTimeUs } context report :=
  ⟨_, List.mem_cons_of_mem _ (List.mem_cons_of_mem _ List.mem_cons_self), 0, _, rfl, rfl, h,
    hreport⟩

theorem scan_time_follows_iff_quarter_second :
    ∃ report, Reported (fun _ => 0) (clockedCalls 250000)
        { type := .frame, sequence := 2, captureTimeUs := 250000 } {} report ∧
      report.scanTime.toNat = 2500 := by
  have hreported : Reported (fun _ => 0) (clockedCalls 250000)
      { type := .frame, sequence := 2, captureTimeUs := 250000 } {}
      { reportId := 5, scanTime := 2500 } :=
    clockedCalls_reported 2500 (by decide +kernel) (by decide +kernel)
  have htime := ((scan_time_follows_iff (fun _ => 0) (clockedCalls 250000)
    (clockedCalls_decoded (by decide +kernel))).2.1 _ _ _ hreported).mpr (.inl (by decide))
  exact ⟨_, hreported, htime⟩

/-- A FRAME captured after 6.5536 seconds has zero ticks; on a fresh device context
its report says 1. -/
theorem zero_ticks_replaced :
    (∀ call ∈ clockedCalls 6553600, call.Decoded) ∧
      ∃ report, Reported (fun _ => 0) (clockedCalls 6553600)
          { type := .frame, sequence := 2, captureTimeUs := 6553600 } {} report ∧
        report.scanTime.toNat = 1 ∧ (6553600 : UInt64).toNat / 100 % 65536 = 0 := by
  refine ⟨clockedCalls_decoded (by decide +kernel), { reportId := 5, scanTime := 1 }, ?_,
    rfl, rfl⟩
  exact clockedCalls_reported 0 (by decide +kernel) (by decide +kernel)

end Touchpad.Driver
