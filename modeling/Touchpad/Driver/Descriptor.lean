import Touchpad.Driver.History
import Touchpad.Foundation.HidReport

/-!
# The report descriptor and the report

`g_MtpReportDescriptor` of `windows/driver/Descriptor.c` and the packed octets of
`MTP_PTP_REPORT`.  The layout that the descriptor gives for input report 0x05 reads
from these octets what the driver put into the report.
-/

namespace Touchpad.Driver

open Touchpad.Foundation
open Touchpad.Shared

def mtpReportIdMode : UInt8 := 0x04
def mtpReportIdFunction : UInt8 := 0x06
def mtpReportIdCaps : UInt8 := 0x07
def mtpReportIdCertification : UInt8 := 0x08

def fingerCollection : Bytes := [
  0x05, 0x0d,       -- Usage Page (Digitizers)
  0x09, 0x22,       -- Usage (Finger)
  0xa1, 0x02,       -- Collection (Logical)
  0x09, 0x47,       -- Usage (Confidence)
  0x09, 0x42,       -- Usage (Tip Switch)
  0x15, 0x00,
  0x25, 0x01,
  0x75, 0x01,
  0x95, 0x02,
  0x81, 0x02,       -- Input (Data,Var,Abs)
  0x75, 0x01,
  0x95, 0x06,
  0x81, 0x03,       -- Input (Const,Var,Abs)
  0x09, 0x51,       -- Usage (Contact Identifier)
  0x27, 0xff, 0xff, 0xff, 0xff,
  0x75, 0x20,
  0x95, 0x01,
  0x81, 0x02,
  0x05, 0x01,       -- Usage Page (Generic Desktop)
  0x16, 0x00, 0x00,
  0x26, 0xff, 0x7f,
  0x36, 0x00, 0x00,
  0x46, 0x40, 0x06,
  0x55, 0x0e,
  0x65, 0x11,
  0x75, 0x10,
  0x95, 0x01,
  0x09, 0x30,       -- Usage X
  0x81, 0x02,
  0x46, 0xe8, 0x03,
  0x09, 0x31,       -- Usage Y
  0x81, 0x02,
  0xc0]

def mtpReportDescriptor : Bytes :=
  [0x05, 0x0d,      -- Usage Page (Digitizers)
   0x09, 0x05,      -- Usage (Touch Pad)
   0xa1, 0x01,      -- Collection (Application)
   0x85, mtpReportIdInput] ++
  fingerCollection ++
  fingerCollection ++
  fingerCollection ++
  fingerCollection ++
  fingerCollection ++
  [0x05, 0x0d,
   0x55, 0x0c,
   0x66, 0x01, 0x10,
   0x47, 0xff, 0xff, 0x00, 0x00,
   0x27, 0xff, 0xff, 0x00, 0x00,
   0x75, 0x10,
   0x95, 0x01,
   0x09, 0x56,      -- Usage Scan Time
   0x81, 0x02,
   0x09, 0x54,      -- Usage Contact Count
   0x25, 0x7f,
   0x75, 0x08,
   0x95, 0x01,
   0x81, 0x02,
   0x05, 0x09,      -- Usage Page Button
   0x09, 0x01,
   0x25, 0x01,
   0x75, 0x01,
   0x95, 0x01,
   0x81, 0x02,
   0x75, 0x01,
   0x95, 0x07,
   0x81, 0x03,
   0x05, 0x0d,
   0x85, mtpReportIdCaps,
   0x09, 0x55,      -- Maximum Contact Count
   0x09, 0x59,      -- Button Type
   0x15, 0x00,
   0x26, 0xff, 0x00,
   0x75, 0x08,
   0x95, 0x02,
   0xb1, 0x02,
   0x06, 0x00, 0xff,
   0x85, mtpReportIdCertification,
   0x09, 0xc5,
   0x75, 0x08,
   0x96, 0x00, 0x01,
   0xb1, 0x02,
   0xc0,
   -- Windows Precision Touchpad configuration collection
   0x05, 0x0d,
   0x09, 0x0e,
   0xa1, 0x01,
   0x85, mtpReportIdMode,
   0x09, 0x22,      -- Usage (Finger)
   0xa1, 0x02,
   0x09, 0x52,
   0x15, 0x00,
   0x25, 0x0a,
   0x75, 0x08,
   0x95, 0x01,
   0xb1, 0x02,
   0xc0,
   0xa1, 0x00,
   0x85, mtpReportIdFunction,
   0x09, 0x57,
   0x09, 0x58,
   0x15, 0x00,
   0x25, 0x01,
   0x75, 0x01,
   0x95, 0x02,
   0xb1, 0x02,
   0x75, 0x01,
   0x95, 0x06,
   0xb1, 0x03,
   0xc0,
   0xc0]

/-! ## Packed reports -/

def PtpContact.pack (contact : PtpContact) : Bytes :=
  contact.flags :: (HidReport.littleEndian32 contact.contactId ++
    HidReport.littleEndian16 contact.x ++ HidReport.littleEndian16 contact.y)

def PtpReport.payload (report : PtpReport) : Bytes :=
  (List.ofFn report.contacts).flatMap PtpContact.pack ++
    (HidReport.littleEndian16 report.scanTime ++ [report.contactCount, report.button])

def PtpReport.pack (report : PtpReport) : Bytes :=
  report.reportId :: report.payload

/-! ## The layout -/

def confidenceUsage : HidReport.Usage := ⟨0x0d, 0x47⟩
def tipSwitchUsage : HidReport.Usage := ⟨0x0d, 0x42⟩
def contactIdentifierUsage : HidReport.Usage := ⟨0x0d, 0x51⟩
def xUsage : HidReport.Usage := ⟨0x01, 0x30⟩
def yUsage : HidReport.Usage := ⟨0x01, 0x31⟩
def scanTimeUsage : HidReport.Usage := ⟨0x0d, 0x56⟩
def contactCountUsage : HidReport.Usage := ⟨0x0d, 0x54⟩
def buttonUsage : HidReport.Usage := ⟨0x09, 0x01⟩
def fingerUsage : HidReport.Usage := ⟨0x0d, 0x22⟩

def inputField (collection : Nat) (usage : HidReport.Usage) (offset size : Nat)
    (logicalMaximum : Int) : HidReport.Field where
  kind := .input
  reportId := mtpReportIdInput.toNat
  collection := some collection
  usage := some usage
  offset
  size
  logicalMinimum := 0
  logicalMaximum

def fingerFields (index : Nat) : List HidReport.Field :=
  [inputField (index + 1) confidenceUsage (72 * index) 1 1,
    inputField (index + 1) tipSwitchUsage (72 * index + 1) 1 1,
    inputField (index + 1) contactIdentifierUsage (72 * index + 8) 32 0xffffffff,
    inputField (index + 1) xUsage (72 * index + 40) 16 32767,
    inputField (index + 1) yUsage (72 * index + 56) 16 32767]

def reportFields : List HidReport.Field :=
  [inputField 0 scanTimeUsage 360 16 65535,
    inputField 0 contactCountUsage 376 8 127,
    inputField 0 buttonUsage 384 1 1]

theorem mtpReportDescriptor_layout :
    ∃ layout, HidReport.layout mtpReportDescriptor = some layout ∧
      layout.bits .input mtpReportIdInput.toNat = 392 ∧
      (layout.collectionsWith fingerUsage).take mtpHidMaxContacts = [1, 2, 3, 4, 5] ∧
      layout.inputFields mtpReportIdInput.toNat =
        (List.finRange mtpHidMaxContacts).flatMap (fun index => fingerFields index.val) ++
          reportFields := by
  have hlayout : (HidReport.layout mtpReportDescriptor).map (fun layout =>
      (layout.bits .input mtpReportIdInput.toNat,
        (layout.collectionsWith fingerUsage).take mtpHidMaxContacts,
        layout.inputFields mtpReportIdInput.toNat)) =
      some (392, [1, 2, 3, 4, 5],
        (List.finRange mtpHidMaxContacts).flatMap (fun index => fingerFields index.val) ++
          reportFields) := by
    decide +kernel
  obtain ⟨layout, hlayout, heq⟩ := Option.map_eq_some_iff.mp hlayout
  rw [Prod.mk.injEq, Prod.mk.injEq] at heq
  exact ⟨layout, hlayout, heq⟩

/-! ## Reading the packed report -/

theorem PtpContact.pack_length (contact : PtpContact) : contact.pack.length = 9 := rfl

theorem PtpReport.blocks_length (report : PtpReport) :
    ((List.ofFn report.contacts).flatMap PtpContact.pack).length = 45 := by
  rw [List.length_flatMap, List.map_congr_left fun contact _ => contact.pack_length,
    List.map_const', List.sum_replicate_nat, List.length_ofFn]
  rfl

theorem PtpReport.pack_length (report : PtpReport) :
    report.pack.length = ptpReportSize.toNat := by
  rw [PtpReport.pack, List.length_cons, PtpReport.payload, List.length_append,
    report.blocks_length]
  rfl

private theorem readBits_flag (flags : UInt8) (index : Nat) :
    HidReport.readBits [flags] index 1 = (flags.toNat.testBit index).toNat := by
  have hword : HidReport.word [flags] = flags.toNat := rfl
  rw [HidReport.readBits, hword, Nat.testBit_eq_decide_div_mod_eq, pow_one]
  have hbit := Nat.mod_two_eq_zero_or_one (flags.toNat / 2 ^ index)
  rcases hbit with hbit | hbit <;> simp [hbit]

private theorem flag_eq (flags mask : UInt8) (index : Nat) (hmask : mask.toNat = 2 ^ index) :
    (decide (flags &&& mask ≠ 0)) = flags.toNat.testBit index := by
  have hnat : (flags &&& mask).toNat = (flags.toNat.testBit index).toNat * 2 ^ index := by
    rw [UInt8.toNat_and, hmask, Nat.and_two_pow]
  have hzero : flags &&& mask = 0 ↔ flags.toNat.testBit index = false := by
    rw [← UInt8.toNat_inj, hnat]
    cases flags.toNat.testBit index <;> simp
  rw [Bool.eq_iff_iff, decide_eq_true_iff, ne_eq, hzero, Bool.not_eq_false]

section Contact

variable (contact : PtpContact)

theorem pack_confidence :
    HidReport.readBits contact.pack 0 1 = contact.confidence.toNat := by
  have hflag := flag_eq contact.flags 0x01 0 rfl
  rw [PtpContact.confidence, hflag, ← readBits_flag]
  exact HidReport.readBits_front [contact.flags] _ (by simp)

theorem pack_tip : HidReport.readBits contact.pack 1 1 = contact.tip.toNat := by
  have hflag := flag_eq contact.flags 0x02 1 rfl
  rw [PtpContact.tip, hflag, ← readBits_flag]
  exact HidReport.readBits_front [contact.flags] _ (by simp)

theorem pack_contactId :
    HidReport.readBits contact.pack 8 32 = contact.contactId.toNat := by
  have hwindow := HidReport.readBits_window [contact.flags]
    (HidReport.littleEndian32 contact.contactId)
    (HidReport.littleEndian16 contact.x ++ HidReport.littleEndian16 contact.y)
    (show 0 + 32 ≤ 8 * 4 by omega)
  rw [HidReport.readBits_littleEndian32] at hwindow
  exact hwindow

theorem pack_x : HidReport.readBits contact.pack 40 16 = contact.x.toNat := by
  have hwindow := HidReport.readBits_window
    (contact.flags :: HidReport.littleEndian32 contact.contactId)
    (HidReport.littleEndian16 contact.x) (HidReport.littleEndian16 contact.y)
    (show 0 + 16 ≤ 8 * 2 by omega)
  rw [HidReport.readBits_littleEndian16] at hwindow
  exact hwindow

theorem pack_y : HidReport.readBits contact.pack 56 16 = contact.y.toNat := by
  have hwindow := HidReport.readBits_window
    (contact.flags :: (HidReport.littleEndian32 contact.contactId ++
      HidReport.littleEndian16 contact.x))
    (HidReport.littleEndian16 contact.y) [] (show 0 + 16 ≤ 8 * 2 by omega)
  rw [HidReport.readBits_littleEndian16] at hwindow
  exact hwindow

end Contact

section Report

variable (report : PtpReport)

theorem payload_contact (index : Fin mtpHidMaxContacts) {offset size : Nat}
    (h : offset + size ≤ 72) :
    HidReport.readBits report.payload (72 * index.val + offset) size =
      HidReport.readBits (report.contacts index).pack offset size := by
  obtain ⟨front, back, hsplit, hlength⟩ := flatMap_split PtpContact.pack
    PtpContact.pack_length (List.ofFn report.contacts)
    (show index.val < (List.ofFn report.contacts).length by simp)
  have hoffset : 72 * index.val + offset = 8 * front.length + offset := by omega
  rw [PtpReport.payload, hsplit, hoffset, List.append_assoc, List.append_assoc,
    HidReport.readBits_window front _ _ (by rw [PtpContact.pack_length]; omega),
    List.getElem_ofFn]

theorem payload_scanTime :
    HidReport.readBits report.payload 360 16 = report.scanTime.toNat := by
  have hwindow := HidReport.readBits_window
    ((List.ofFn report.contacts).flatMap PtpContact.pack)
    (HidReport.littleEndian16 report.scanTime) [report.contactCount, report.button]
    (show 0 + 16 ≤ 8 * 2 by omega)
  rw [HidReport.readBits_littleEndian16, report.blocks_length]
    at hwindow
  exact hwindow

theorem payload_contactCount :
    HidReport.readBits report.payload 376 8 = report.contactCount.toNat := by
  have hwindow := HidReport.readBits_window
    ((List.ofFn report.contacts).flatMap PtpContact.pack ++
      HidReport.littleEndian16 report.scanTime)
    [report.contactCount] [report.button] (show 0 + 8 ≤ 8 * 1 by omega)
  rw [HidReport.readBits_octet, List.length_append, report.blocks_length, List.append_assoc]
    at hwindow
  exact hwindow

theorem payload_button (h : report.button.toNat < 2) :
    HidReport.readBits report.payload 384 1 = report.button.toNat := by
  have hwindow := HidReport.readBits_window
    ((List.ofFn report.contacts).flatMap PtpContact.pack ++
      (HidReport.littleEndian16 report.scanTime ++ [report.contactCount]))
    [report.button] [] (show 0 + 1 ≤ 8 * 1 by omega)
  have hbutton : HidReport.readBits [report.button] 0 1 = report.button.toNat := by
    have hword : HidReport.word [report.button] = report.button.toNat := rfl
    rw [HidReport.readBits, hword, pow_zero, Nat.div_one, pow_one, Nat.mod_eq_of_lt h]
  rw [hbutton, List.length_append, report.blocks_length, List.append_assoc,
    List.append_assoc] at hwindow
  exact hwindow

end Report

/-! ## Submitted reports -/

structure PtpReport.Bounded (report : PtpReport) : Prop where
  reportId : report.reportId = mtpReportIdInput
  coordinates : ∀ i, (report.contacts i).x ≤ mtpCoordinateLogicalMax ∧
    (report.contacts i).y ≤ mtpCoordinateLogicalMax
  contactCount : report.contactCount.toNat ≤ mtpHidMaxContacts
  button : report.button.toNat < 2

theorem clampCoordinate_le (value : UInt16) :
    clampCoordinate value ≤ mtpCoordinateLogicalMax := by
  unfold clampCoordinate
  split
  case isTrue => exact UInt16.le_refl _
  case isFalse hle => exact UInt16.not_lt.mp hle

theorem submitted_bounded {vhfReadReportSubmit : PtpReport → NtStatus}
    {context : DeviceContext} {input : IoctlFrame} {report : PtpReport}
    (h : (submitIoctlFrame vhfReadReportSubmit context input).report = some report) :
    report.Bounded := by
  have haccepted : ¬ Refused input := by
    rw [← submitIoctlFrame_report_eq_none_iff vhfReadReportSubmit context input, h]
    simp
  obtain ⟨report', hreport', hfill, -⟩ :=
    submitIoctlFrame_accepted vhfReadReportSubmit context haccepted
  rw [h, Option.some.injEq] at hreport'
  rw [← hreport'] at hfill
  have hheader := fillReport_header hfill
  constructor
  · rw [hheader]
    rfl
  · intro i
    have hzero : (0 : UInt16) ≤ mtpCoordinateLogicalMax := by decide
    exact fillReport_contacts
      (fun contact => contact.x ≤ mtpCoordinateLogicalMax ∧
        contact.y ≤ mtpCoordinateLogicalMax)
      (fun source => ⟨clampCoordinate_le _, clampCoordinate_le _⟩) (fun _ => ⟨hzero, hzero⟩)
      hfill i
  · rw [hheader]
    by_contra htoo
    exact haccepted (.inl (.inr (.inr (.inl (not_le.mp htoo)))))
  · rw [hheader]
    by_cases hbutton : input.flags &&& mtpIoctlFrameButton = 0 <;>
      simp [reportHeader, hbutton]

def fingerValues (collection : Option Nat) (contact : PtpContact) :
    List (Option Nat × Option HidReport.Usage × Nat) :=
  [(collection, some confidenceUsage, contact.confidence.toNat),
    (collection, some tipSwitchUsage, contact.tip.toNat),
    (collection, some contactIdentifierUsage, contact.contactId.toNat),
    (collection, some xUsage, contact.x.toNat),
    (collection, some yUsage, contact.y.toNat)]

def reportValues (report : PtpReport) : List (Option Nat × Option HidReport.Usage × Nat) :=
  [(some 0, some scanTimeUsage, report.scanTime.toNat),
    (some 0, some contactCountUsage, report.contactCount.toNat),
    (some 0, some buttonUsage, report.button.toNat)]

theorem fingerFields_read (report : PtpReport) (index : Fin mtpHidMaxContacts) :
    (fingerFields index.val).map (fun field =>
      (field.collection, field.usage, field.read report.payload)) =
        fingerValues (some (index.val + 1)) (report.contacts index) := by
  simp only [fingerFields, fingerValues, inputField, HidReport.Field.read, List.map_cons,
    List.map_nil]
  rw [show 72 * index.val = 72 * index.val + 0 from rfl,
    payload_contact report index (show 0 + 1 ≤ 72 by omega), pack_confidence,
    payload_contact report index (show 1 + 1 ≤ 72 by omega), pack_tip,
    payload_contact report index (show 8 + 32 ≤ 72 by omega), pack_contactId,
    payload_contact report index (show 40 + 16 ≤ 72 by omega), pack_x,
    payload_contact report index (show 56 + 16 ≤ 72 by omega), pack_y]

theorem reportFields_read {report : PtpReport} (h : report.button.toNat < 2) :
    reportFields.map (fun field =>
      (field.collection, field.usage, field.read report.payload)) = reportValues report := by
  simp only [reportFields, reportValues, inputField, HidReport.Field.read, List.map_cons,
    List.map_nil, payload_scanTime, payload_contactCount, payload_button report h]

theorem fields_in_range {report : PtpReport} (h : report.Bounded) {field : HidReport.Field}
    (hfield : field ∈ (List.finRange mtpHidMaxContacts).flatMap
      (fun index => fingerFields index.val) ++ reportFields) :
    field.logicalMinimum ≤ field.read report.payload ∧
      (field.read report.payload : Int) ≤ field.logicalMaximum := by
  rcases List.mem_append.mp hfield with hfield | hfield
  · obtain ⟨index, -, hfield⟩ := List.mem_flatMap.mp hfield
    obtain ⟨hx, hy⟩ := h.coordinates index
    have hid := (report.contacts index).contactId.toNat_lt
    have hconfidence := Bool.toNat_le (report.contacts index).confidence
    have htip := Bool.toNat_le (report.contacts index).tip
    have hmax : mtpCoordinateLogicalMax.toNat = 32767 := rfl
    rw [UInt16.le_iff_toNat_le, hmax] at hx hy
    simp only [fingerFields, inputField, List.mem_cons, List.not_mem_nil, or_false] at hfield
    rcases hfield with rfl | rfl | rfl | rfl | rfl
    · have hread := payload_contact report index (show 0 + 1 ≤ 72 by omega)
      rw [pack_confidence, Nat.add_zero] at hread
      simp only [HidReport.Field.read, hread]
      omega
    · have hread := payload_contact report index (show 1 + 1 ≤ 72 by omega)
      rw [pack_tip] at hread
      simp only [HidReport.Field.read, hread]
      omega
    · have hread := payload_contact report index (show 8 + 32 ≤ 72 by omega)
      rw [pack_contactId] at hread
      simp only [HidReport.Field.read, hread]
      omega
    · have hread := payload_contact report index (show 40 + 16 ≤ 72 by omega)
      rw [pack_x] at hread
      simp only [HidReport.Field.read, hread]
      omega
    · have hread := payload_contact report index (show 56 + 16 ≤ 72 by omega)
      rw [pack_y] at hread
      simp only [HidReport.Field.read, hread]
      omega
  · have hscan := report.scanTime.toNat_lt
    have hcount : report.contactCount.toNat ≤ 5 := h.contactCount
    have hbutton := h.button
    simp only [reportFields, inputField, List.mem_cons, List.not_mem_nil, or_false] at hfield
    rcases hfield with rfl | rfl | rfl
    · simp only [HidReport.Field.read, payload_scanTime]
      omega
    · simp only [HidReport.Field.read, payload_contactCount]
      omega
    · simp only [HidReport.Field.read, payload_button report hbutton]
      omega

/-- The descriptor gives the packed report its length, reads from it what the driver
put there, finger by finger and then for the whole report, and declares ranges that
the values keep. -/
theorem report_bytes_mean (vhfReadReportSubmit : PtpReport → NtStatus)
    (context : DeviceContext) (input : IoctlFrame) (report : PtpReport)
    (hsubmitted : (submitIoctlFrame vhfReadReportSubmit context input).report = some report) :
    ∃ layout, HidReport.layout mtpReportDescriptor = some layout ∧
      let fingers := layout.collectionsWith fingerUsage
      let fields := layout.inputFields mtpReportIdInput.toNat
      report.pack = mtpReportIdInput :: report.payload ∧
      report.pack.length = ptpReportSize.toNat ∧
      8 + layout.bits .input mtpReportIdInput.toNat = 8 * ptpReportSize.toNat ∧
      fields.map (fun field => (field.collection, field.usage, field.read report.payload)) =
        (List.finRange mtpHidMaxContacts).flatMap (fun index =>
          fingerValues fingers[index.val]? (report.contacts index)) ++ reportValues report ∧
      ∀ field ∈ fields, field.logicalMinimum ≤ field.read report.payload ∧
        (field.read report.payload : Int) ≤ field.logicalMaximum := by
  have hbounded := submitted_bounded hsubmitted
  obtain ⟨layout, hlayout, hbits, hfingers, hfields⟩ := mtpReportDescriptor_layout
  refine ⟨layout, hlayout, ?_, report.pack_length, by rw [hbits]; rfl, ?_, ?_⟩
  · rw [PtpReport.pack, hbounded.reportId]
  · have hnth : ∀ index : Fin mtpHidMaxContacts,
        (layout.collectionsWith fingerUsage)[index.val]? = some (index.val + 1) := by
      intro index
      rw [← List.getElem?_take_of_lt index.isLt, hfingers]
      revert index
      decide
    rw [hfields, List.map_append, List.map_flatMap, reportFields_read hbounded.button]
    simp only [fingerFields_read, hnth]
  · intro field hfield
    rw [hfields] at hfield
    exact fields_in_range hbounded hfield

def oneFingerFrame : IoctlFrame where
  abiVersion := mtpIoctlAbiVersion
  flags := mtpIoctlFrameButton
  activeContactCount := 1
  reportContactCount := 1
  contacts := fun _ => { flags := 0x07, x := 40000, y := 5 }

theorem report_bytes_mean_one_finger :
    ∃ layout, HidReport.layout mtpReportDescriptor = some layout ∧
      ∃ report, (submitIoctlFrame (fun _ => 0) {} oneFingerFrame).report = some report ∧
        (report.contacts 0).x = 32767 ∧
        ∀ field ∈ layout.inputFields mtpReportIdInput.toNat,
          (field.read report.payload : Int) ≤ field.logicalMaximum := by
  have hshown : ((submitIoctlFrame (fun _ => 0) {} oneFingerFrame).report.map fun report =>
      (report.contacts 0).x) = some 32767 := by
    decide +kernel
  obtain ⟨report, hreport, hx⟩ := Option.map_eq_some_iff.mp hshown
  obtain ⟨layout, hlayout, -, -, -, -, hrange⟩ :=
    report_bytes_mean (fun _ => 0) {} oneFingerFrame report hreport
  exact ⟨layout, hlayout, report, hreport, hx, fun field hfield => (hrange field hfield).2⟩

end Touchpad.Driver
