import Touchpad.Driver.Descriptor

/-!
# Feature reports

`MtpEvtVhfGetFeature` and `MtpEvtVhfSetFeature` of `windows/driver/Driver.c` against
the feature reports that `g_MtpReportDescriptor` declares.  Each of the four reports is
served in one direction only.
-/

namespace Touchpad.Driver

open Touchpad.Foundation
open Touchpad.Shared

def statusSuccess : NtStatus := 0

def mtpCertificationBlob : Bytes := [
  0xfc, 0x28, 0xfe, 0x84, 0x40, 0xcb, 0x9a, 0x87, 0x0d, 0xbe, 0x57, 0x3c, 0xb6, 0x70,
  0x09, 0x88, 0x07, 0x97, 0x2d, 0x2b, 0xe3, 0x38, 0x34, 0xb6, 0x6c, 0xed, 0xb0, 0xf7,
  0xe5, 0x9c, 0xf6, 0xc2, 0x2e, 0x84, 0x1b, 0xe8, 0xb4, 0x51, 0x78, 0x43, 0x1f, 0x28,
  0x4b, 0x7c, 0x2d, 0x53, 0xaf, 0xfc, 0x47, 0x70, 0x1b, 0x59, 0x6f, 0x74, 0x43, 0xc4,
  0xf3, 0x47, 0x18, 0x53, 0x1a, 0xa2, 0xa1, 0x71, 0xc7, 0x95, 0x0e, 0x31, 0x55, 0x21,
  0xd3, 0xb5, 0x1e, 0xe9, 0x0c, 0xba, 0xec, 0xb8, 0x89, 0x19, 0x3e, 0xb3, 0xaf, 0x75,
  0x81, 0x9d, 0x53, 0xb9, 0x41, 0x57, 0xf4, 0x6d, 0x39, 0x25, 0x29, 0x7c, 0x87, 0xd9,
  0xb4, 0x98, 0x45, 0x7d, 0xa7, 0x26, 0x9c, 0x65, 0x3b, 0x85, 0x68, 0x89, 0xd7, 0x3b,
  0xbd, 0xff, 0x14, 0x67, 0xf2, 0x2b, 0xf0, 0x2a, 0x41, 0x54, 0xf0, 0xfd, 0x2c, 0x66,
  0x7c, 0xf8, 0xc0, 0x8f, 0x33, 0x13, 0x03, 0xf1, 0xd3, 0xc1, 0x0b, 0x89, 0xd9, 0x1b,
  0x62, 0xcd, 0x51, 0xb7, 0x80, 0xb8, 0xaf, 0x3a, 0x10, 0xc1, 0x8a, 0x5b, 0xe8, 0x8a,
  0x56, 0xf0, 0x8c, 0xaa, 0xfa, 0x35, 0xe9, 0x42, 0xc4, 0xd8, 0x55, 0xc3, 0x38, 0xcc,
  0x2b, 0x53, 0x5c, 0x69, 0x52, 0xd5, 0xc8, 0x73, 0x02, 0x38, 0x7c, 0x73, 0xb6, 0x41,
  0xe7, 0xff, 0x05, 0xd8, 0x2b, 0x79, 0x9a, 0xe2, 0x34, 0x60, 0x8f, 0xa3, 0x32, 0x1f,
  0x09, 0x78, 0x62, 0xbc, 0x80, 0xe3, 0x0f, 0xbd, 0x65, 0x20, 0x08, 0x13, 0xc1, 0xe2,
  0xee, 0x53, 0x2d, 0x86, 0x7e, 0xa7, 0x5a, 0xc5, 0xd3, 0x7d, 0x98, 0xbe, 0x31, 0x48,
  0x1f, 0xfb, 0xda, 0xaf, 0xa2, 0xa8, 0x6a, 0x89, 0xd6, 0xbf, 0xf2, 0xd3, 0x32, 0x2a,
  0x9a, 0xe4, 0xcf, 0x17, 0xb7, 0xb8, 0xf4, 0xe1, 0x33, 0x08, 0x24, 0x8b, 0xc4, 0x43,
  0xa5, 0xe5, 0x24, 0xc2]

structure Packet where
  reportId : UInt8
  reportBuffer : Bytes
  deriving DecidableEq

structure FeatureCompletion where
  status : NtStatus
  packet : Option Packet

/-- There may be no packet, or one without a buffer. -/
def getFeature (context : DeviceContext) (packet : Option Packet) :
    FeatureCompletion × DeviceContext :=
  let context := { context with getFeatureCount := context.getFeatureCount + 1 }
  match packet with
  | none => (⟨statusInvalidParameter, none⟩, context)
  | some packet =>
      if packet.reportId = mtpReportIdCaps ∧ 3 ≤ packet.reportBuffer.length then
        (⟨statusSuccess, some { packet with
          reportBuffer := mtpReportIdCaps :: UInt8.ofNat mtpHidMaxContacts :: 0 ::
            packet.reportBuffer.drop 3 }⟩, context)
      else if packet.reportId = mtpReportIdCertification ∧
          257 ≤ packet.reportBuffer.length then
        (⟨statusSuccess, some { packet with
          reportBuffer := mtpReportIdCertification :: mtpCertificationBlob ++
            packet.reportBuffer.drop 257 }⟩, context)
      else (⟨statusInvalidParameter, some packet⟩, context)

def setFeature (context : DeviceContext) (packet : Option Packet) :
    FeatureCompletion × DeviceContext :=
  match packet with
  | none => (⟨statusInvalidParameter, none⟩, context)
  | some packet =>
      if 2 ≤ packet.reportBuffer.length ∧
          (packet.reportId = mtpReportIdMode ∨ packet.reportId = mtpReportIdFunction) then
        let value := byteAt packet.reportBuffer 1
        let context :=
          if packet.reportId = mtpReportIdMode then { context with inputMode := value }
          else { context with functionSwitch := value }
        (⟨statusSuccess, some packet⟩,
          { context with setFeatureCount := context.setFeatureCount + 1 })
      else (⟨statusInvalidParameter, some packet⟩, context)

/-! ## The declared feature reports -/

def contactCountMaximumUsage : HidReport.Usage := ⟨0x0d, 0x55⟩
def buttonTypeUsage : HidReport.Usage := ⟨0x0d, 0x59⟩
def certificationUsage : HidReport.Usage := ⟨0xff00, 0xc5⟩
def inputModeUsage : HidReport.Usage := ⟨0x0d, 0x52⟩
def surfaceSwitchUsage : HidReport.Usage := ⟨0x0d, 0x57⟩
def buttonSwitchUsage : HidReport.Usage := ⟨0x0d, 0x58⟩

def contactRoom (layout : HidReport.Layout) : Nat :=
  (layout.inputFields mtpReportIdInput.toNat).countP fun field => field.usage = some tipSwitchUsage

def readFields (layout : HidReport.Layout) (reportId : UInt8) (payload : Bytes) :
    List (Option HidReport.Usage × Nat) :=
  (layout.featureFields reportId.toNat).map fun field => (field.usage, field.read payload)

/-- The sizes of the feature reports, and their fields. -/
def DeclaresFeatures (layout : HidReport.Layout) : Prop :=
  (layout.bits .feature mtpReportIdMode.toNat = 8 ∧
    layout.bits .feature mtpReportIdFunction.toNat = 8 ∧
    layout.bits .feature mtpReportIdCaps.toNat = 16 ∧
    layout.bits .feature mtpReportIdCertification.toNat = 2048) ∧
  (layout.featureFields mtpReportIdMode.toNat).map (fun field =>
    (field.usage, field.offset, field.size)) = [(some inputModeUsage, 0, 8)] ∧
  (layout.featureFields mtpReportIdFunction.toNat).map (fun field =>
    (field.usage, field.offset, field.size)) =
      [(some surfaceSwitchUsage, 0, 1), (some buttonSwitchUsage, 1, 1)] ∧
  readFields layout mtpReportIdCaps [UInt8.ofNat mtpHidMaxContacts, 0] =
    [(some contactCountMaximumUsage, contactRoom layout), (some buttonTypeUsage, 0)] ∧
  readFields layout mtpReportIdCertification mtpCertificationBlob =
    mtpCertificationBlob.map fun value => (some certificationUsage, value.toNat)

instance : DecidablePred DeclaresFeatures := fun _ =>
  inferInstanceAs (Decidable ((_ ∧ _ ∧ _ ∧ _) ∧ _ ∧ _ ∧ _ ∧ _))

theorem mtpReportDescriptor_features :
    ∃ layout, HidReport.layout mtpReportDescriptor = some layout ∧ DeclaresFeatures layout := by
  have hlayout : (HidReport.layout mtpReportDescriptor).any
      (fun layout => DeclaresFeatures layout) = true := by decide +kernel
  obtain ⟨layout, hlayout, hfeatures⟩ := (Option.any_eq_true _ _).mp hlayout
  exact ⟨layout, hlayout, of_decide_eq_true hfeatures⟩

/-! ## Reading features -/

def Holds (layout : HidReport.Layout) (packet : Packet) : Prop :=
  8 + layout.bits .feature packet.reportId.toNat ≤ 8 * packet.reportBuffer.length

def featurePayload (reportId : UInt8) : Option Bytes :=
  if reportId = mtpReportIdCaps then some [UInt8.ofNat mtpHidMaxContacts, 0]
  else if reportId = mtpReportIdCertification then some mtpCertificationBlob
  else none

theorem mtpCertificationBlob_length : mtpCertificationBlob.length = 256 := by decide +kernel

theorem getFeature_eq (context : DeviceContext) (packet : Packet) :
    (getFeature context (some packet)).1 =
      match featurePayload packet.reportId with
      | none => ⟨statusInvalidParameter, some packet⟩
      | some payload =>
          if 1 + payload.length ≤ packet.reportBuffer.length then
            ⟨statusSuccess, some { packet with
              reportBuffer := packet.reportId :: payload ++
                packet.reportBuffer.drop (1 + payload.length) }⟩
          else ⟨statusInvalidParameter, some packet⟩ := by
  obtain ⟨reportId, reportBuffer⟩ := packet
  have hne : mtpReportIdCaps ≠ mtpReportIdCertification := by decide
  have hblob : 1 + mtpCertificationBlob.length = 257 := by rw [mtpCertificationBlob_length]
  unfold getFeature featurePayload
  dsimp only
  by_cases hcaps : reportId = mtpReportIdCaps
  · subst hcaps
    rw [if_pos rfl]
    by_cases hlength : 3 ≤ reportBuffer.length
    · rw [if_pos ⟨rfl, hlength⟩]
      exact (if_pos hlength).symm
    · rw [if_neg fun hread => hlength hread.2, if_neg fun hread => hne hread.1]
      exact (if_neg hlength).symm
  · rw [if_neg fun hread => hcaps hread.1, if_neg hcaps]
    by_cases hcertification : reportId = mtpReportIdCertification
    · subst hcertification
      rw [if_pos rfl]
      dsimp only
      rw [hblob]
      by_cases hlength : 257 ≤ reportBuffer.length
      · rw [if_pos ⟨rfl, hlength⟩, if_pos hlength]
      · rw [if_neg fun hread => hlength hread.2, if_neg hlength]
    · rw [if_neg fun hread => hcertification hread.1, if_neg hcertification]

/-- Every operation counts, whether it is refused or not. -/
theorem getFeature_context (context : DeviceContext) (packet : Option Packet) :
    (getFeature context packet).2 =
      { context with getFeatureCount := context.getFeatureCount + 1 } := by
  unfold getFeature
  cases packet with
  | none => rfl
  | some packet =>
      dsimp only
      split
      · rfl
      · split <;> rfl

theorem featurePayload_isSome (reportId : UInt8) :
    (featurePayload reportId).isSome = true ↔
      reportId = mtpReportIdCaps ∨ reportId = mtpReportIdCertification := by
  unfold featurePayload
  split
  case isTrue hcaps => simp [hcaps]
  case isFalse hcaps =>
    split
    case isTrue hcertification => simp [hcertification]
    case isFalse hcertification => simp [hcaps, hcertification]

theorem DeclaresFeatures.payload {layout : HidReport.Layout} (h : DeclaresFeatures layout)
    {reportId : UInt8} {payload : Bytes} (hpayload : featurePayload reportId = some payload) :
    8 * payload.length = layout.bits .feature reportId.toNat ∧
      readFields layout reportId payload =
        if reportId = mtpReportIdCaps then
          [(some contactCountMaximumUsage, contactRoom layout), (some buttonTypeUsage, 0)]
        else mtpCertificationBlob.map fun value => (some certificationUsage, value.toNat) := by
  obtain ⟨⟨-, -, hcapsBits, hblobBits⟩, -, -, hcaps, hblob⟩ := h
  unfold featurePayload at hpayload
  split at hpayload
  case isTrue hid =>
    obtain rfl := Option.some.inj hpayload
    rw [if_pos hid, hid]
    exact ⟨hcapsBits.symm, hcaps⟩
  case isFalse hid =>
    split at hpayload
    case isTrue hcertification =>
      obtain rfl := Option.some.inj hpayload
      rw [if_neg hid, hcertification, hblobBits, mtpCertificationBlob_length]
      exact ⟨rfl, hblob⟩
    case isFalse => cases hpayload

/-- The capabilities and the certification, and no other feature report, are read, into a
packet that has a buffer.  An answer fills just the octets that the descriptor declares, and
what it declares there are the contacts that an input report has room for and the octets of
the certification; a refused operation leaves the packet as it was. -/
theorem getFeature_as_declared :
    ∃ layout, HidReport.layout mtpReportDescriptor = some layout ∧
      ∀ (context : DeviceContext) (passed : Option Packet),
        let completion := (getFeature context passed).1
        (completion.status = statusSuccess ↔ ∃ packet, passed = some packet ∧
          (packet.reportId = mtpReportIdCaps ∨ packet.reportId = mtpReportIdCertification) ∧
            Holds layout packet) ∧
        (completion.status ≠ statusSuccess → completion.packet = passed) ∧
        (completion.status = statusSuccess → ∃ packet payload, passed = some packet ∧
          completion.packet = some { packet with
            reportBuffer := packet.reportId :: payload ++
              packet.reportBuffer.drop (1 + payload.length) } ∧
          8 * payload.length = layout.bits .feature packet.reportId.toNat ∧
          readFields layout packet.reportId payload =
            if packet.reportId = mtpReportIdCaps then
              [(some contactCountMaximumUsage, contactRoom layout), (some buttonTypeUsage, 0)]
            else mtpCertificationBlob.map fun value => (some certificationUsage, value.toNat)) := by
  obtain ⟨layout, hlayout, hfeatures⟩ := mtpReportDescriptor_features
  refine ⟨layout, hlayout, fun context passed => ?_⟩
  have hrefused : statusInvalidParameter ≠ statusSuccess := by decide
  dsimp only
  cases passed with
  | none => exact ⟨by simp [getFeature, hrefused], fun _ => rfl, fun hread => absurd hread hrefused⟩
  | some packet =>
      simp only [Option.some.injEq, exists_eq_left', ← featurePayload_isSome]
      rw [getFeature_eq]
      cases hpayload : featurePayload packet.reportId with
      | none => simp [hrefused]
      | some payload =>
          obtain ⟨hbits, hfields⟩ := hfeatures.payload hpayload
          have hholds : Holds layout packet ↔ 1 + payload.length ≤ packet.reportBuffer.length := by
            rw [Holds, ← hbits]
            omega
          dsimp only
          by_cases hlength : 1 + payload.length ≤ packet.reportBuffer.length
          · rw [if_pos hlength]
            exact ⟨by simp [hholds, hlength], fun hfailed => absurd rfl hfailed,
              fun _ => ⟨packet, payload, rfl, rfl, hbits, hfields⟩⟩
          · rw [if_neg hlength]
            exact ⟨by simp [hholds, hlength, hrefused], fun _ => rfl,
              fun hread => absurd hread hrefused⟩

/-! ## Setting features -/

theorem DeclaresFeatures.settable {layout : HidReport.Layout} (h : DeclaresFeatures layout)
    {reportId : UInt8} (hreport : reportId = mtpReportIdMode ∨ reportId = mtpReportIdFunction) :
    layout.bits .feature reportId.toNat = 8 ∧
      ∀ field ∈ layout.featureFields reportId.toNat, field.offset + field.size ≤ 8 := by
  obtain ⟨⟨hmodeBits, hfunctionBits, -⟩, hmode, hfunction, -⟩ := h
  have hwithin : ∀ fields : List HidReport.Field, ∀ placed : List (Option HidReport.Usage × Nat × Nat),
      fields.map (fun field => (field.usage, field.offset, field.size)) = placed →
      (∀ place ∈ placed, place.2.1 + place.2.2 ≤ 8) →
      ∀ field ∈ fields, field.offset + field.size ≤ 8 := by
    rintro fields placed rfl hplaced field hfield
    exact hplaced _ (List.mem_map_of_mem hfield)
  rcases hreport with rfl | rfl
  · exact ⟨hmodeBits, hwithin _ _ hmode (by decide)⟩
  · exact ⟨hfunctionBits, hwithin _ _ hfunction (by decide)⟩

theorem readFields_front {layout : HidReport.Layout} {reportId : UInt8}
    (hwithin : ∀ field ∈ layout.featureFields reportId.toNat, field.offset + field.size ≤ 8)
    {payload : Bytes} (hpayload : payload ≠ []) :
    readFields layout reportId [byteAt payload 0] = readFields layout reportId payload := by
  obtain ⟨first, rest, rfl⟩ := List.exists_cons_of_ne_nil hpayload
  refine List.map_congr_left fun field hfield => ?_
  have hread := HidReport.readBits_front [first] rest (hwithin field hfield)
  exact congrArg (field.usage, ·) hread.symm

/-- The input mode and the function switches, and no other feature report, are set, from a
packet that has a buffer.  What is stored has the values that the descriptor reads from the
packet; a refused operation leaves the context as it was. -/
theorem setFeature_as_declared :
    ∃ layout, HidReport.layout mtpReportDescriptor = some layout ∧
      ∀ (context : DeviceContext) (passed : Option Packet),
        let (completion, after) := setFeature context passed
        completion.packet = passed ∧
        (completion.status = statusSuccess ↔ ∃ packet, passed = some packet ∧
          (packet.reportId = mtpReportIdMode ∨ packet.reportId = mtpReportIdFunction) ∧
            Holds layout packet) ∧
        (completion.status ≠ statusSuccess → after = context) ∧
        (completion.status = statusSuccess → ∃ packet stored, passed = some packet ∧
          (if packet.reportId = mtpReportIdMode then
            after = { context with
              inputMode := stored
              setFeatureCount := context.setFeatureCount + 1 }
          else
            after = { context with
              functionSwitch := stored
              setFeatureCount := context.setFeatureCount + 1 }) ∧
          readFields layout packet.reportId [stored] =
            readFields layout packet.reportId (packet.reportBuffer.drop 1)) := by
  obtain ⟨layout, hlayout, hfeatures⟩ := mtpReportDescriptor_features
  refine ⟨layout, hlayout, fun context passed => ?_⟩
  have hrefused : statusInvalidParameter ≠ statusSuccess := by decide
  cases passed with
  | none =>
      exact ⟨rfl, by simp [hrefused], fun _ => rfl, fun hdone => absurd hdone hrefused⟩
  | some packet =>
      have hholds : (packet.reportId = mtpReportIdMode ∨ packet.reportId = mtpReportIdFunction) →
          (Holds layout packet ↔ 2 ≤ packet.reportBuffer.length) := by
        intro hreport
        rw [Holds, (hfeatures.settable hreport).1]
        omega
      simp only [Option.some.injEq, exists_eq_left']
      unfold setFeature
      dsimp only
      by_cases hset : 2 ≤ packet.reportBuffer.length ∧
          (packet.reportId = mtpReportIdMode ∨ packet.reportId = mtpReportIdFunction)
      · obtain ⟨hlength, hreport⟩ := hset
        rw [if_pos ⟨hlength, hreport⟩]
        dsimp only
        have hdrop : packet.reportBuffer.drop 1 ≠ [] := by
          rw [Ne, List.drop_eq_nil_iff]
          omega
        have hvalue : byteAt packet.reportBuffer 1 = byteAt (packet.reportBuffer.drop 1) 0 := by
          simp [byteAt, List.getD_eq_getElem?_getD]
        refine ⟨rfl, iff_of_true rfl ⟨hreport, (hholds hreport).mpr hlength⟩,
          fun hfailed => absurd rfl hfailed, fun _ => ⟨packet, byteAt packet.reportBuffer 1, rfl, ?_, ?_⟩⟩
        · split <;> rfl
        · rw [hvalue]
          exact readFields_front (hfeatures.settable hreport).2 hdrop
      · rw [if_neg hset]
        refine ⟨rfl, iff_of_false hrefused fun hdone => hset ?_, fun _ => rfl,
          fun hdone => absurd hdone hrefused⟩
        exact ⟨(hholds hdone.1).mp hdone.2, hdone.1⟩

end Touchpad.Driver
