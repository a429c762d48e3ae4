import Touchpad.Driver.Descriptor
import Touchpad.Foundation.SlotTable

/-!
# Frames from any process

`SubmitIoctlFrame` checks the fields of a frame and of its records one by one.  A
report stays within its bounds whatever the frame is; that its count is the number of
its tips, and that no record hides another, is left to whoever builds the frame.
-/

namespace Touchpad.Driver

open Touchpad.Foundation
open Touchpad.Shared

/-- The entry shows the record up to the coordinate clamp.  A report has no place for
the in-range flag. -/
structure PtpContact.Shows (entry : PtpContact) (record : IoctlContact) : Prop where
  contactId : entry.contactId.toNat = record.slot.toNat
  tip : entry.tip = record.hasTip
  confidence : entry.confidence = record.hasConfidence
  x : entry.x.toNat = min record.x.toNat mtpCoordinateLogicalMax.toNat
  y : entry.y.toNat = min record.y.toNat mtpCoordinateLogicalMax.toNat

def PtpReport.tips (report : PtpReport) : Nat :=
  (List.finRange mtpHidMaxContacts).countP fun slot => (report.contacts slot).tip

/-- Each record has an entry to itself, that of its slot, and is shown there. -/
def Placed (input : IoctlFrame) (report : PtpReport) : Prop :=
  ∃ place : Fin input.records.length → Fin mtpHidMaxContacts, Function.Injective place ∧
    ∀ index, (input.records.get index).slot.toNat = place index ∧
      (report.contacts (place index)).Shows (input.records.get index)

structure SelfConsistent (input : IoctlFrame) (report : PtpReport) : Prop where
  counted : report.contactCount.toNat = report.tips
  placed : Placed input report
  clamped : ∀ slot, (report.contacts slot).x ≤ mtpCoordinateLogicalMax ∧
    (report.contacts slot).y ≤ mtpCoordinateLogicalMax
  bounded : report.contactCount.toNat ≤ mtpHidMaxContacts

/-! ## The entries of a report -/

theorem clampCoordinate_toNat (value : UInt16) :
    (clampCoordinate value).toNat = min value.toNat mtpCoordinateLogicalMax.toNat := by
  rw [clampCoordinate]
  split
  case isTrue hlt => exact (Nat.min_eq_right (UInt16.lt_iff_toNat_lt.mp hlt).le).symm
  case isFalse hle => exact (Nat.min_eq_left (UInt16.not_lt.mp hle)).symm

theorem ptpContact_shows (record : IoctlContact) : (ptpContact record).Shows record where
  contactId := by simp [ptpContact]
  tip := ptpContact_tip record
  confidence := ptpContact_confidence record
  x := clampCoordinate_toNat record.x
  y := clampCoordinate_toNat record.y

private theorem getLast?_cons_getD {α β : Type*} (f : α → β) (head : α) (rest : List α)
    (default : β) :
    ((head :: rest).getLast?.map f).getD default = (rest.getLast?.map f).getD (f head) := by
  rw [List.getLast?_cons]
  cases rest.getLast? <;> rfl

theorem fillReport_entry {records : List IoctlContact} {report filled : PtpReport}
    (h : fillReport records report = some filled) (slot : Fin mtpHidMaxContacts) :
    filled.contacts slot =
      ((records.filter fun record => record.slot.toNat = slot.val).getLast?.map ptpContact).getD
        (report.contacts slot) := by
  induction records generalizing report with
  | nil =>
      cases h
      rfl
  | cons record records ih =>
      rw [fillReport] at h
      split at h
      case isTrue => cases h
      case isFalse =>
        rw [ih h]
        dsimp only
        by_cases hslot : record.slot.toNat = slot.val
        · rw [List.filter_cons_of_pos (by simpa using hslot), getLast?_cons_getD,
            if_pos hslot.symm]
        · rw [List.filter_cons_of_neg (by simpa using hslot), if_neg (Ne.symm hslot)]

section Submitted

variable {vhfReadReportSubmit : PtpReport → NtStatus} {context : DeviceContext}
  {input : IoctlFrame} {report : PtpReport}

theorem submitted_entries
    (h : (submitIoctlFrame vhfReadReportSubmit context input).report = some report) :
    ¬ Refused input ∧ report.contactCount = input.activeContactCount ∧
      ∀ slot : Fin mtpHidMaxContacts, report.contacts slot =
        ((input.recordsFor slot).getLast?.map ptpContact).getD {} := by
  have haccepted : ¬ Refused input := by
    rw [← submitIoctlFrame_report_eq_none_iff vhfReadReportSubmit context input, h]
    simp
  obtain ⟨filled, hfilled, hfill, -⟩ :=
    submitIoctlFrame_accepted vhfReadReportSubmit context haccepted
  rw [h, Option.some.injEq] at hfilled
  subst hfilled
  refine ⟨haccepted, ?_, fun slot => fillReport_entry hfill slot⟩
  rw [fillReport_header hfill]
  rfl

theorem recordsFor_getLast?_eq (hdistinct : (input.records.map IoctlContact.slot).Nodup)
    {record : IoctlContact} (hrecord : record ∈ input.records) :
    (input.recordsFor record.slot.toNat).getLast? = some record := by
  have hmem : record ∈ input.recordsFor record.slot.toNat :=
    IoctlFrame.mem_recordsFor.mpr ⟨hrecord, rfl⟩
  obtain ⟨last, hlast⟩ := Option.isSome_iff_exists.mp
    (List.getLast?_isSome.mpr (List.ne_nil_of_mem hmem))
  obtain ⟨hlastMem, hslot⟩ := IoctlFrame.mem_recordsFor.mp (List.mem_of_getLast? hlast)
  have hsame : last = record := List.inj_on_of_nodup_map hdistinct hlastMem hrecord
    (UInt8.toNat_inj.mp hslot)
  rw [hlast, hsame]

theorem submitted_shows
    (h : (submitIoctlFrame vhfReadReportSubmit context input).report = some report)
    (hdistinct : (input.records.map IoctlContact.slot).Nodup) {record : IoctlContact}
    (hrecord : record ∈ input.records) {slot : Fin mtpHidMaxContacts}
    (hslot : record.slot.toNat = slot) : report.contacts slot = ptpContact record := by
  obtain ⟨-, -, hentries⟩ := submitted_entries h
  rw [hentries slot, ← hslot, recordsFor_getLast?_eq hdistinct hrecord]
  rfl

theorem submitted_slot_lt
    (h : (submitIoctlFrame vhfReadReportSubmit context input).report = some report)
    {record : IoctlContact} (hrecord : record ∈ input.records) :
    record.slot.toNat < mtpHidMaxContacts := by
  obtain ⟨haccepted, -, -⟩ := submitted_entries h
  by_contra hlarge
  exact haccepted (.inr ⟨record, hrecord, .inl (not_lt.mp hlarge)⟩)

theorem placed_iff
    (h : (submitIoctlFrame vhfReadReportSubmit context input).report = some report) :
    Placed input report ↔ (input.records.map IoctlContact.slot).Nodup := by
  constructor
  · rintro ⟨place, hinjective, hplace⟩
    rw [List.Nodup, List.pairwise_map, List.pairwise_iff_getElem]
    intro first second hfirst hsecond hlt hsame
    have hplaces : place ⟨first, hfirst⟩ = place ⟨second, hsecond⟩ := by
      apply Fin.ext
      rw [← (hplace ⟨first, hfirst⟩).1, ← (hplace ⟨second, hsecond⟩).1]
      exact congrArg UInt8.toNat hsame
    exact hlt.ne (congrArg Fin.val (hinjective hplaces))
  · intro hdistinct
    refine ⟨fun index => ⟨_, submitted_slot_lt h (List.get_mem input.records index)⟩, ?_, ?_⟩
    · intro first second hsame
      have hvalue : (input.records.get first).slot.toNat =
          (input.records.get second).slot.toNat := Fin.mk.inj hsame
      have hslots := UInt8.toNat_inj.mp hvalue
      have hrecords := List.inj_on_of_nodup_map hdistinct (List.get_mem input.records first)
        (List.get_mem input.records second) hslots
      exact (List.Nodup.of_map _ hdistinct).get_inj_iff.mp hrecords
    · intro index
      refine ⟨rfl, ?_⟩
      rw [submitted_shows h hdistinct (List.get_mem input.records index) rfl]
      exact ptpContact_shows _

theorem submitted_tips
    (h : (submitIoctlFrame vhfReadReportSubmit context input).report = some report)
    (hdistinct : (input.records.map IoctlContact.slot).Nodup) :
    report.tips = input.records.countP IoctlContact.hasTip := by
  let tipSlots := (input.records.filter IoctlContact.hasTip).map fun record => record.slot.toNat
  have hnodup : tipSlots.Nodup := by
    have hslots : ((input.records.filter IoctlContact.hasTip).map IoctlContact.slot).Nodup :=
      hdistinct.sublist (List.filter_sublist.map _)
    have hvalues := hslots.map fun first second => UInt8.toNat_inj.mp
    rwa [List.map_map] at hvalues
  have hlt : ∀ slot ∈ tipSlots, slot < mtpHidMaxContacts := by
    intro slot hslot
    obtain ⟨record, hrecord, rfl⟩ := List.mem_map.mp hslot
    exact submitted_slot_lt h (List.mem_of_mem_filter hrecord)
  have hlength : tipSlots.length = input.records.countP IoctlContact.hasTip := by
    rw [List.length_map, List.countP_eq_length_filter]
  rw [← hlength, ← SlotTable.countP_finRange_mem hnodup hlt, PtpReport.tips]
  apply List.countP_congr
  intro slot _
  rw [decide_eq_true_iff]
  constructor
  · intro htip
    obtain ⟨-, -, hentries⟩ := submitted_entries h
    rw [hentries slot] at htip
    cases hlast : (input.recordsFor slot).getLast? with
    | none =>
        rw [hlast] at htip
        exact absurd htip (by decide)
    | some record =>
        rw [hlast] at htip
        obtain ⟨hrecord, hslot⟩ := IoctlFrame.mem_recordsFor.mp (List.mem_of_getLast? hlast)
        exact List.mem_map.mpr ⟨record,
          List.mem_filter.mpr ⟨hrecord, (ptpContact_tip record).symm.trans htip⟩, hslot⟩
  · intro hmem
    obtain ⟨record, hfiltered, hslot⟩ := List.mem_map.mp hmem
    obtain ⟨hrecord, htip⟩ := List.mem_filter.mp hfiltered
    rw [submitted_shows h hdistinct hrecord hslot, ptpContact_tip, htip]

/-- A report is within its bounds for every frame.  Each record has its entry exactly
when the records are for different slots, and all of the report is consistent exactly
when the announced count is that of the TIP records as well. -/
theorem submitted_report
    (h : (submitIoctlFrame vhfReadReportSubmit context input).report = some report) :
    report.contactCount.toNat ≤ mtpHidMaxContacts ∧
      (∀ slot, (report.contacts slot).x ≤ mtpCoordinateLogicalMax ∧
        (report.contacts slot).y ≤ mtpCoordinateLogicalMax) ∧
      (Placed input report ↔ (input.records.map IoctlContact.slot).Nodup) ∧
      (SelfConsistent input report ↔
        (input.records.map IoctlContact.slot).Nodup ∧
          input.activeContactCount.toNat = input.records.countP IoctlContact.hasTip) := by
  have hbounded := submitted_bounded h
  refine ⟨hbounded.contactCount, hbounded.coordinates, placed_iff h, ?_⟩
  obtain ⟨-, hcount, -⟩ := submitted_entries h
  rw [← hcount]
  constructor
  · intro hconsistent
    have hdistinct := (placed_iff h).mp hconsistent.placed
    exact ⟨hdistinct, hconsistent.counted.trans (submitted_tips h hdistinct)⟩
  · rintro ⟨hdistinct, hactive⟩
    exact ⟨hactive.trans (submitted_tips h hdistinct).symm, (placed_iff h).mpr hdistinct,
      hbounded.coordinates, hbounded.contactCount⟩

end Submitted

def fingerFrame : IoctlFrame where
  abiVersion := mtpIoctlAbiVersion
  activeContactCount := 1
  reportContactCount := 1
  contacts := fun _ => { slot := 3, flags := 7, x := 40000, y := 100 }

theorem submitted_report_one_finger :
    ∃ report, (submitIoctlFrame (fun _ => 0) {} fingerFrame).report = some report ∧
      SelfConsistent fingerFrame report := by
  have hsubmitted : (submitIoctlFrame (fun _ => 0) {} fingerFrame).report.isSome = true := by
    decide +kernel
  obtain ⟨report, hreport⟩ := Option.isSome_iff_exists.mp hsubmitted
  exact ⟨report, hreport, (submitted_report hreport).2.2.2.mpr (by decide +kernel)⟩

def hiddenFrame : IoctlFrame where
  abiVersion := mtpIoctlAbiVersion
  activeContactCount := 1
  reportContactCount := 2
  contacts := fun index => if index = 0 then { flags := 7 } else { flags := 5 }

/-- The report announces one contact and has none with Tip; the first record is gone. -/
theorem hidden_record_submitted :
    ¬ ∀ (vhfReadReportSubmit : PtpReport → NtStatus) (context : DeviceContext)
      (input : IoctlFrame) (report : PtpReport),
      (submitIoctlFrame vhfReadReportSubmit context input).report = some report →
        SelfConsistent input report := by
  intro hclaim
  have hshown : ((submitIoctlFrame (fun _ => 0) {} hiddenFrame).report.map fun report =>
      (report.contactCount.toNat, report.tips)) = some (1, 0) := by decide +kernel
  obtain ⟨report, hreport, hcounts⟩ := Option.map_eq_some_iff.mp hshown
  have hcounted := (hclaim _ _ _ _ hreport).counted
  rw [Prod.mk.injEq] at hcounts
  rw [hcounts.1, hcounts.2] at hcounted
  cases hcounted

end Touchpad.Driver
