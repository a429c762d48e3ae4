import Touchpad.Protocol.EncodedMessage
import Touchpad.Receiver.Mtp1
import Mathlib.Data.List.Nodup

/-!
# Two decoders, one format

MTP1 messages are parsed by the C reference `tp_decode_message` and by the
receiver's `DecodeMessage`.  The header checks are made in different orders and
forms but accept the same headers; the receiver adds conditions on the contact
records, and both read the same fields.
-/

namespace Touchpad.Receiver

open Touchpad.Foundation
open Touchpad.Protocol

/-! ## What the reference accepts -/

private theorem magic_iff {source : Bytes} (h : kHeaderSize ≤ source.length) :
    getU32 source 0 = tpWireMagic ↔ source.take 4 = [0x4d, 0x54, 0x50, 0x31] := by
  match source, h with
  | a :: b :: c :: d :: rest, _ =>
      constructor
      · intro hmagic
        have hbytes := write32_read32 a b c d rest
        rw [show read32 (a :: b :: c :: d :: rest) 0 = tpWireMagic from hmagic] at hbytes
        exact hbytes.symm
      · intro hbytes
        obtain ⟨rfl, rfl, rfl, rfl⟩ : a = 0x4d ∧ b = 0x54 ∧ c = 0x50 ∧ d = 0x31 := by
          simpa using hbytes
        exact read32_write32 tpWireMagic rest

private theorem knownType_iff (raw : UInt16) :
    KnownType raw.toUInt32 ↔ ∃ type : MessageType, raw = type.code := by
  have hraw : raw.toUInt32.toUInt16 = raw := UInt16.toUInt16_toUInt32 raw
  constructor
  · rintro (h | h | h)
    · exact ⟨.hello, hraw.symm.trans (congrArg UInt32.toUInt16 h)⟩
    · exact ⟨.frame, hraw.symm.trans (congrArg UInt32.toUInt16 h)⟩
    · exact ⟨.reset, hraw.symm.trans (congrArg UInt32.toUInt16 h)⟩
  · rintro ⟨type, rfl⟩
    cases type <;> decide

private theorem payload_iff (payload : UInt32) (count : UInt16) :
    payload = count.toUInt32 * UInt32.ofNat tpContactSize ↔
      payload = UInt32.ofNat (count.toNat * kContactSize) := by
  have heq : count.toUInt32 * UInt32.ofNat tpContactSize =
      UInt32.ofNat (count.toNat * kContactSize) := by
    apply UInt32.toNat_inj.mp
    rw [UInt32.toNat_mul, UInt16.toNat_toUInt32, UInt32.toNat_ofNat', UInt32.toNat_ofNat']
    simp [tpContactSize, kContactSize]
  rw [heq]

/-- The reference and the receiver accept the same headers. -/
theorem accepted_iff {source : Bytes} :
    Accepted source ↔ kHeaderSize ≤ source.length ∧ source.length = announcedLength source ∧
      ∃ type, HeaderAccepted source type := by
  constructor
  · intro h
    have hlength : kHeaderSize ≤ source.length := by
      rw [h.length]
      exact Nat.le_add_right _ _
    obtain ⟨type, hcode⟩ := (knownType_iff _).mp h.type
    refine ⟨hlength, h.length, type, (magic_iff hlength).mp h.magic, h.version, hcode, h.flags,
      h.count, (payload_iff _ _).mp h.payload, fun hframe => h.control ?_⟩
    rw [hcode]
    cases type <;> first | exact absurd rfl hframe | decide
  · rintro ⟨hlength, hexact, type, hvalid⟩
    have htype := hvalid.type_code
    refine ⟨(magic_iff hlength).mpr hvalid.magic, hvalid.version, (knownType_iff _).mpr ⟨type, htype⟩,
      (payload_iff _ _).mpr hvalid.payload, hvalid.count, hvalid.flags, fun hframe => ?_, hexact⟩
    refine hvalid.control fun hsame => hframe ?_
    rw [show getU16 source 6 = type.code from htype, hsame]
    rfl

/-! ## The two formats compared -/

def contactFloats (contact : TPContact) : List Binary32 :=
  [contact.x, contact.y, contact.velocityX, contact.velocityY, contact.size,
    contact.angle, contact.majorAxis, contact.minorAxis, contact.density]

/-- What the receiver asks of the contact records beyond the reference. -/
structure RecordsClean (source : Bytes) (frame : TPFrame) : Prop where
  reserved : ∀ i < frame.contactCount.toNat, getU16 source (tpContactOffset i + 6) = 0
  flags : ∀ i < frame.contactCount.toNat, (frame.contactAt i).flags &&& ~~~0x07 = 0
  finite : ∀ i < frame.contactCount.toNat,
    ∀ float ∈ contactFloats (frame.contactAt i), Binary32.isFinite float = true
  distinct : ∀ i < frame.contactCount.toNat, ∀ j < frame.contactCount.toNat,
    (frame.contactAt i).identifier = (frame.contactAt j).identifier → i = j

structure SameContact (contact : Contact) (reference : TPContact) : Prop where
  identifier : contact.identifier = reference.identifier
  state : contact.state = reference.state
  flags : contact.flags = reference.flags
  x : contact.x = reference.x
  y : contact.y = reference.y
  velocityX : contact.velocityX = reference.velocityX
  velocityY : contact.velocityY = reference.velocityY
  size : contact.size = reference.size
  angle : contact.angle = reference.angle
  majorAxis : contact.majorAxis = reference.majorAxis
  minorAxis : contact.minorAxis = reference.minorAxis
  density : contact.density = reference.density

structure SameMessage (message : Message) (type : TPMessageType)
    (frame : TPFrame) : Prop where
  type : message.type.code.toUInt32 = type
  sequence : message.sequence = frame.sequence
  flags : message.flags = frame.flags
  captureTimeUs : message.captureTimeUs = frame.captureTimeUs
  deviceTimeUs : message.deviceTimeUs = frame.deviceTimeUs
  contactCount : message.contacts.length = frame.contactCount.toNat
  contacts : ∀ i contact, message.contacts[i]? = some contact →
    SameContact contact (frame.contactAt i)

private theorem sameContact_read (source : Bytes) (p : Nat) :
    SameContact (readContact source p) (decodeTPContact source p) :=
  ⟨rfl, rfl, rfl, rfl, rfl, rfl, rfl, rfl, rfl, rfl, rfl, rfl⟩

theorem recordsClean_decoded_iff {source : Bytes} {type : MessageType} (h : Accepted source) :
    RecordsClean source (decodeTPFrame source) ↔
      (∀ i < (readU16 source 16).toNat, RecordAccepted source (contactOffset i)) ∧
      ((readMessage source type).contacts.map Contact.identifier).Nodup := by
  have hat : ∀ {i}, i < (readU16 source 16).toNat → (decodeTPFrame source).contactAt i =
      decodeTPContact source (tpContactOffset i) := contactAt_decoded h
  have hcount : (decodeTPFrame source).contactCount.toNat = (readU16 source 16).toNat := rfl
  have hnodup : ((readMessage source type).contacts.map Contact.identifier).Nodup ↔
      ∀ i < (readU16 source 16).toNat, ∀ j < (readU16 source 16).toNat,
        readU32 source (contactOffset i) = readU32 source (contactOffset j) → i = j := by
    rw [readMessage, List.map_map, List.nodup_map_iff_inj_on List.nodup_range]
    simp only [List.mem_range]
    rfl
  rw [hnodup]
  constructor
  · rintro ⟨hreserved, hflags, hfinite, hdistinct⟩
    rw [hcount] at hreserved hflags hfinite hdistinct
    refine ⟨fun i hi => ⟨hreserved i hi, ?_, ?_⟩, fun i hi j hj heq => ?_⟩
    · have := hflags i hi
      rwa [hat hi] at this
    · have := hfinite i hi
      rwa [hat hi] at this
    · apply hdistinct i hi j hj
      rw [hat hi, hat hj]
      exact heq
  · rintro ⟨hrecords, hdistinct⟩
    refine ⟨?_, ?_, ?_, ?_⟩ <;> rw [hcount]
    · exact fun i hi => (hrecords i hi).reserved
    · intro i hi
      rw [hat hi]
      exact (hrecords i hi).flags
    · intro i hi
      rw [hat hi]
      exact (hrecords i hi).finite
    · intro i hi j hj heq
      rw [hat hi, hat hj] at heq
      exact hdistinct i hi j hj heq

theorem sameMessage_decoded {source : Bytes} {type : MessageType} (h : Accepted source)
    (hvalid : HeaderAccepted source type) :
    SameMessage (readMessage source type) (getU16 source 6).toUInt32
      (decodeTPFrame source) := by
  refine ⟨?_, rfl, rfl, rfl, rfl, by simp [readMessage]; rfl, ?_⟩
  · exact congrArg UInt16.toUInt32 hvalid.type_code.symm
  · intro i contact hcontact
    obtain ⟨hi, rfl⟩ : i < (readU16 source 16).toNat ∧
        readContact source (contactOffset i) = contact := by
      simpa [readMessage, List.getElem?_map, List.getElem?_range,
        List.getElem?_eq_some_iff] using hcontact
    rw [contactAt_decoded h hi]
    exact sameContact_read source _

/-- `DecodeMessage` accepts exactly the byte strings that the reference accepts
with clean records, and what they decode is the same message. -/
theorem decodeMessage_agrees_with_reference (source : Bytes) (type : TPMessageType)
    (frame : TPFrame) :
    let reference := tpDecodeMessage source source.length type frame
    ((∃ message, decodeMessage source = .ok message) ↔
      reference.1 = true ∧ RecordsClean source reference.2.2) ∧
    ∀ message, decodeMessage source = .ok message → reference.1 = true →
      SameMessage message reference.2.1 reference.2.2 := by
  intro reference
  have hdecoded (h : Accepted source) :
      reference = (true, (getU16 source 6).toUInt32, decodeTPFrame source) :=
    tpDecodeMessage_of_accepted h type frame
  refine ⟨⟨?_, ?_⟩, ?_⟩
  · rintro ⟨message, hmessage⟩
    obtain ⟨hlength, hexact, hrecords, hnodup, messageType, hvalid, rfl⟩ :=
      decodeMessage_eq_ok_iff.mp hmessage
    have haccepted := accepted_iff.mpr ⟨hlength, hexact, messageType, hvalid⟩
    rw [hdecoded haccepted]
    exact ⟨rfl, (recordsClean_decoded_iff haccepted).mpr ⟨hrecords, hnodup⟩⟩
  · rintro ⟨haccepts, hclean⟩
    have haccepted : Accepted source := tpDecodeMessage_accepts_iff.mp haccepts
    obtain ⟨hlength, hexact, messageType, hvalid⟩ := accepted_iff.mp haccepted
    rw [hdecoded haccepted, recordsClean_decoded_iff haccepted] at hclean
    exact ⟨_, decodeMessage_eq_ok_iff.mpr
      ⟨hlength, hexact, hclean.1, hclean.2, messageType, hvalid, rfl⟩⟩
  · intro message hmessage haccepts
    have haccepted : Accepted source := tpDecodeMessage_accepts_iff.mp haccepts
    obtain ⟨-, -, -, -, messageType, hvalid, rfl⟩ := decodeMessage_eq_ok_iff.mp hmessage
    rw [hdecoded haccepted]
    exact sameMessage_decoded haccepted hvalid

end Touchpad.Receiver
