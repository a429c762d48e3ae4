import Touchpad.Protocol.TouchFrame

/-!
# Encoded messages

When `tp_encode_message` writes a message, what it writes, and what
`tp_decode_message` reads from it: the type and the frame, without the parts of the
frame that the type does not carry.
-/

namespace Touchpad.Protocol

open Touchpad.Foundation

def KnownType (type : TPMessageType) : Prop :=
  type = tpMessageHello ∨ type = tpMessageFrame ∨ type = tpMessageReset

instance (type : TPMessageType) : Decidable (KnownType type) :=
  inferInstanceAs (Decidable (_ ∨ _ ∨ _))

structure Encodable (frame : TPFrame) : Prop where
  count : frame.contactCount.toNat ≤ tpMaxContacts
  flags : frame.flags &&& ~~~tpFrameButton = 0

def encodedCount (type : TPMessageType) (frame : TPFrame) : UInt16 :=
  if type = tpMessageFrame then frame.contactCount else 0

def encodedFlags (type : TPMessageType) (frame : TPFrame) : UInt16 :=
  if type = tpMessageFrame then frame.flags else 0

def encodedSize (type : TPMessageType) (frame : TPFrame) : Nat :=
  tpHeaderSize + tpContactSize * (encodedCount type frame).toNat

/-- Everything that keeps a message from being written. -/
def EncodingRejected (type : TPMessageType) (frame : TPFrame) (capacity : Nat) : Prop :=
  ¬ KnownType type ∨ tpMaxContacts < frame.contactCount.toNat ∨
    (type = tpMessageFrame ∧ frame.flags &&& ~~~tpFrameButton ≠ 0) ∨
    capacity < encodedSize type frame

instance (type : TPMessageType) (frame : TPFrame) (capacity : Nat) :
    Decidable (EncodingRejected type frame capacity) :=
  inferInstanceAs (Decidable (_ ∨ _ ∨ _ ∨ _))

def TPFrame.carried (frame : TPFrame) (type : TPMessageType) : TPFrame :=
  { frame with
    flags := encodedFlags type frame
    contactCount := encodedCount type frame
    contacts := fun index =>
      if index.val < (encodedCount type frame).toNat then frame.contacts index else {} }

@[simp] theorem encodeContact_length (contact : TPContact) :
    (encodeContact contact).length = tpContactSize := by
  simp [encodeContact, tpContactSize]

@[simp] theorem encodeHeader_length (type : TPMessageType) (payloadSize sequence : UInt32)
    (count flags : UInt16) (captureTimeUs deviceTimeUs : UInt64) :
    (encodeHeader type payloadSize sequence count flags captureTimeUs deviceTimeUs).length =
      tpHeaderSize := rfl

theorem encodeContacts_length (contacts : Nat → TPContact) (count : Nat) :
    ((List.range count).flatMap fun index => encodeContact (contacts index)).length =
      count * tpContactSize := by
  simp [List.length_flatMap]

theorem payloadSize_toNat {count : UInt16} (h : count.toNat ≤ tpMaxContacts) :
    (count.toUInt32 * UInt32.ofNat tpContactSize).toNat = count.toNat * tpContactSize := by
  simp only [tpMaxContacts] at h
  simp only [UInt32.toNat_mul, UInt16.toNat_toUInt32, UInt32.toNat_ofNat', tpContactSize]
  omega

theorem encodedCount_le {frame : TPFrame} (h : frame.contactCount.toNat ≤ tpMaxContacts)
    (type : TPMessageType) : (encodedCount type frame).toNat ≤ tpMaxContacts := by
  rw [encodedCount]
  split
  · exact h
  · decide

/-! ## What is written -/

def encodedMessage (type : TPMessageType) (frame : TPFrame) : Bytes :=
  encodeHeader type ((encodedCount type frame).toUInt32 * UInt32.ofNat tpContactSize)
      frame.sequence (encodedCount type frame) (encodedFlags type frame)
      frame.captureTimeUs frame.deviceTimeUs ++
    (List.range (encodedCount type frame).toNat).flatMap fun index =>
      encodeContact (frame.contactAt index)

theorem encodedMessage_length (type : TPMessageType) (frame : TPFrame) :
    (encodedMessage type frame).length = encodedSize type frame := by
  rw [encodedMessage, List.length_append, encodeHeader_length, encodeContacts_length,
    encodedSize, Nat.mul_comm]

theorem encodedSize_pos (type : TPMessageType) (frame : TPFrame) : 0 < encodedSize type frame := by
  simp only [encodedSize, tpHeaderSize]
  omega

theorem tpEncodeMessage_eq (type : TPMessageType) (frame : TPFrame) (capacity : Nat) :
    tpEncodeMessage type frame capacity =
      if EncodingRejected type frame capacity then (0, [])
      else (encodedSize type frame, encodedMessage type frame) := by
  unfold tpEncodeMessage
  by_cases hcount : tpMaxContacts < frame.contactCount.toNat
  · rw [if_pos hcount, if_pos (.inr (.inl hcount))]
  rw [if_neg hcount]
  have hunknown : (type ≠ tpMessageHello ∧ type ≠ tpMessageFrame ∧ type ≠ tpMessageReset) ↔
      ¬ KnownType type := by
    simp only [KnownType, not_or, ne_eq]
  by_cases htype : KnownType type
  · rw [if_neg (fun h => hunknown.mp h htype)]
    have hflags : (encodedFlags type frame &&& ~~~tpFrameButton ≠ 0) ↔
        type = tpMessageFrame ∧ frame.flags &&& ~~~tpFrameButton ≠ 0 := by
      rw [encodedFlags]
      split <;> simp_all
    have hsize : tpHeaderSize +
        ((encodedCount type frame).toUInt32 * UInt32.ofNat tpContactSize).toNat =
          encodedSize type frame := by
      rw [payloadSize_toNat (encodedCount_le (not_lt.mp hcount) type), encodedSize, Nat.mul_comm]
    simp only [← encodedFlags.eq_def, ← encodedCount.eq_def, hsize]
    by_cases hbits : encodedFlags type frame &&& ~~~tpFrameButton ≠ 0
    · rw [if_pos hbits, if_pos (.inr (.inr (.inl (hflags.mp hbits))))]
    by_cases hcapacity : capacity < encodedSize type frame
    · rw [if_neg hbits, if_pos hcapacity, if_pos (.inr (.inr (.inr hcapacity)))]
    · rw [if_neg hbits, if_neg hcapacity, if_neg]
      · rfl
      · rintro (h | h | h | h)
        · exact h htype
        · exact hcount h
        · exact hbits (hflags.mpr h)
        · exact hcapacity h
  · rw [if_pos (hunknown.mpr htype), if_pos (.inl htype)]

theorem tpEncodeMessage_written {type : TPMessageType} {frame : TPFrame} {capacity : Nat}
    (h : ¬ EncodingRejected type frame capacity) :
    (tpEncodeMessage type frame capacity).2 = encodedMessage type frame := by
  rw [tpEncodeMessage_eq, if_neg h]

/-! ## What is accepted -/

structure Accepted (source : Bytes) : Prop where
  magic : getU32 source 0 = tpWireMagic
  version : getU16 source 4 = tpWireVersion
  type : KnownType (getU16 source 6).toUInt32
  payload : getU32 source 8 = (getU16 source 16).toUInt32 * UInt32.ofNat tpContactSize
  count : (getU16 source 16).toNat ≤ tpMaxContacts
  flags : getU16 source 18 &&& ~~~tpFrameButton = 0
  control : (getU16 source 6).toUInt32 ≠ tpMessageFrame →
    getU16 source 16 = 0 ∧ getU16 source 18 = 0
  length : source.length = tpHeaderSize + (getU16 source 16).toNat * tpContactSize

private theorem knownType_raw (raw : UInt16) :
    KnownType raw.toUInt32 ↔
      ¬ (raw < tpMessageHello.toUInt16 ∨ tpMessageReset.toUInt16 < raw) := by
  have hvalue : ∀ value : UInt32, raw.toUInt32 = value ↔ raw.toNat = value.toNat := by
    intro value
    rw [← UInt32.toNat_inj, UInt16.toNat_toUInt32]
  simp only [KnownType, hvalue, UInt16.lt_iff_toNat_lt]
  have hhello : tpMessageHello.toNat = 1 ∧ tpMessageHello.toUInt16.toNat = 1 := by decide
  have hframe : tpMessageFrame.toNat = 2 := by decide
  have hreset : tpMessageReset.toNat = 3 ∧ tpMessageReset.toUInt16.toNat = 3 := by decide
  omega

private theorem frame_raw (raw : UInt16) :
    raw = tpMessageFrame.toUInt16 ↔ raw.toUInt32 = tpMessageFrame := by
  rw [← UInt32.toNat_inj, ← UInt16.toNat_inj, UInt16.toNat_toUInt32]
  rfl

theorem tpDecodeMessage_of_accepted {source : Bytes} (h : Accepted source)
    (type : TPMessageType) (frame : TPFrame) :
    tpDecodeMessage source source.length type frame =
      (true, (getU16 source 6).toUInt32, decodeTPFrame source) := by
  have hsize := payloadSize_toNat h.count
  have hheader : ¬ (source.length < tpHeaderSize ∨ getU32 source 0 ≠ tpWireMagic ∨
      getU16 source 4 ≠ tpWireVersion) := by
    rw [h.magic, h.version, h.length]
    simp
  have hraw := (knownType_raw _).mp h.type
  have hbody : ¬ (tpMaxContacts < (getU16 source 16).toNat ∨
      getU32 source 8 ≠ (getU16 source 16).toUInt32 * UInt32.ofNat tpContactSize ∨
      source.length ≠ tpHeaderSize + (getU32 source 8).toNat ∨
      getU16 source 18 &&& ~~~tpFrameButton ≠ 0 ∨
      (getU16 source 6 ≠ tpMessageFrame.toUInt16 ∧
        (getU16 source 16 ≠ 0 ∨ getU16 source 18 ≠ 0))) := by
    rintro (htoo | hne | hne | hne | ⟨hne, hnonzero⟩)
    · exact absurd h.count (not_le.mpr htoo)
    · exact hne h.payload
    · rw [h.payload, hsize] at hne
      exact hne h.length
    · exact hne h.flags
    · obtain ⟨hcount, hflags⟩ := h.control fun heq => hne ((frame_raw _).mpr heq)
      rcases hnonzero with hnonzero | hnonzero
      · exact hnonzero hcount
      · exact hnonzero hflags
  unfold tpDecodeMessage
  rw [if_neg hheader]
  dsimp only
  rw [if_neg hraw, if_neg hbody]

theorem accepted_of_tpDecodeMessage {source : Bytes} {type : TPMessageType} {frame : TPFrame}
    (h : (tpDecodeMessage source source.length type frame).1 = true) : Accepted source := by
  unfold tpDecodeMessage at h
  dsimp only at h
  split_ifs at h with hheader hraw hbody
  simp only [not_or, not_lt, not_not] at hheader hbody
  obtain ⟨-, hmagic, hversion⟩ := hheader
  obtain ⟨hcount, hpayload, hlength, hflags, hcontrol⟩ := hbody
  rw [hpayload, payloadSize_toNat hcount] at hlength
  refine ⟨hmagic, hversion, (knownType_raw _).mpr hraw, hpayload, hcount, hflags, ?_, hlength⟩
  intro hframe
  have hnone := not_and.mp hcontrol fun heq => hframe ((frame_raw _).mp heq)
  simpa only [not_or, not_not] using hnone

theorem tpDecodeMessage_accepts_iff {source : Bytes} {type : TPMessageType} {frame : TPFrame} :
    (tpDecodeMessage source source.length type frame).1 = true ↔ Accepted source := by
  constructor
  · exact accepted_of_tpDecodeMessage
  · intro h
    rw [tpDecodeMessage_of_accepted h]

theorem contactAt_decoded {source : Bytes} (h : Accepted source) {index : Nat}
    (hindex : index < (getU16 source 16).toNat) :
    (decodeTPFrame source).contactAt index = decodeTPContact source (tpContactOffset index) := by
  have hmax : index < tpMaxContacts := hindex.trans_le h.count
  rw [TPFrame.contactAt, dif_pos hmax]
  exact if_pos hindex

theorem tpDecodeMessage_of_rejected {source : Bytes} {type : TPMessageType} {frame : TPFrame}
    (h : (tpDecodeMessage source source.length type frame).1 = false) :
    (tpDecodeMessage source source.length type frame).2 = (type, frame) := by
  unfold tpDecodeMessage at h ⊢
  dsimp only at h ⊢
  split_ifs at h ⊢ <;> rfl

/-! ## Reading back what was written -/

private theorem read16_at {front : Bytes} {offset : Nat} (h : front.length = offset)
    (value : UInt16) (rest : Bytes) : read16 (front ++ (write16 value ++ rest)) offset = value := by
  rw [← h]
  exact (read16_append_right front _ 0).trans (read16_write16 value rest)

private theorem read32_at {front : Bytes} {offset : Nat} (h : front.length = offset)
    (value : UInt32) (rest : Bytes) : read32 (front ++ (write32 value ++ rest)) offset = value := by
  rw [← h]
  exact (read32_append_right front _ 0).trans (read32_write32 value rest)

private theorem read64_at {front : Bytes} {offset : Nat} (h : front.length = offset)
    (value : UInt64) (rest : Bytes) : read64 (front ++ (write64 value ++ rest)) offset = value := by
  rw [← h]
  exact (read64_append_right front _ 0).trans (read64_write64 value rest)

theorem encodeHeader_reads (type : TPMessageType) (payloadSize sequence : UInt32)
    (count flags : UInt16) (captureTimeUs deviceTimeUs : UInt64) (rest : Bytes) :
    let bytes :=
      encodeHeader type payloadSize sequence count flags captureTimeUs deviceTimeUs ++ rest
    getU32 bytes 0 = tpWireMagic ∧ getU16 bytes 4 = tpWireVersion ∧
      getU16 bytes 6 = type.toUInt16 ∧ getU32 bytes 8 = payloadSize ∧
      getU32 bytes 12 = sequence ∧ getU16 bytes 16 = count ∧ getU16 bytes 18 = flags ∧
      getU64 bytes 20 = captureTimeUs ∧ getU64 bytes 28 = deviceTimeUs := by
  intro bytes
  have h4 : (write32 tpWireMagic).length = 4 := rfl
  have h6 : (write32 tpWireMagic ++ write16 tpWireVersion).length = 6 := rfl
  have h8 : (write32 tpWireMagic ++ write16 tpWireVersion ++
      write16 type.toUInt16).length = 8 := rfl
  have h12 : (write32 tpWireMagic ++ write16 tpWireVersion ++
      write16 type.toUInt16 ++ write32 payloadSize).length = 12 := rfl
  have h16 : (write32 tpWireMagic ++ write16 tpWireVersion ++
      write16 type.toUInt16 ++ write32 payloadSize ++ write32 sequence).length = 16 := rfl
  have h18 : (write32 tpWireMagic ++ write16 tpWireVersion ++
      write16 type.toUInt16 ++ write32 payloadSize ++ write32 sequence ++
      write16 count).length = 18 := rfl
  have h20 : (write32 tpWireMagic ++ write16 tpWireVersion ++
      write16 type.toUInt16 ++ write32 payloadSize ++ write32 sequence ++
      write16 count ++ write16 flags).length = 20 := rfl
  have h28 : (write32 tpWireMagic ++ write16 tpWireVersion ++
      write16 type.toUInt16 ++ write32 payloadSize ++ write32 sequence ++
      write16 count ++ write16 flags ++ write64 captureTimeUs).length = 28 := rfl
  simp only [bytes, encodeHeader, getU16, getU32, getU64, List.append_assoc] at *
  refine ⟨?_, ?_, ?_, ?_, ?_, ?_, ?_, ?_, ?_⟩
  · exact read32_write32 tpWireMagic _
  · exact read16_at h4 tpWireVersion _
  · simpa only [List.append_assoc] using read16_at h6 type.toUInt16 _
  · simpa only [List.append_assoc] using read32_at h8 payloadSize _
  · simpa only [List.append_assoc] using read32_at h12 sequence _
  · simpa only [List.append_assoc] using read16_at h16 count _
  · simpa only [List.append_assoc] using read16_at h18 flags _
  · simpa only [List.append_assoc] using read64_at h20 captureTimeUs _
  · simpa only [List.append_assoc] using read64_at h28 deviceTimeUs _

theorem decodeTPContact_append_right (front rest : Bytes) (offset : Nat) :
    decodeTPContact (front ++ rest) (front.length + offset) = decodeTPContact rest offset := by
  simp only [decodeTPContact, getF32, getU32, Nat.add_assoc, read32_append_right,
    byteAt_append_right]

def contactValues (contact : TPContact) : List Binary32 :=
  [contact.x, contact.y, contact.velocityX, contact.velocityY, contact.size, contact.angle,
    contact.majorAxis, contact.minorAxis, contact.density]

theorem encodeContact_eq (contact : TPContact) :
    encodeContact contact =
      (write32 contact.identifier ++ [contact.state, contact.flags] ++ write16 0) ++
        (contactValues contact).flatMap write32 := by
  simp [encodeContact, contactValues]

theorem encodeContact_append (contact : TPContact) (rest : Bytes) :
    encodeContact contact ++ rest =
      write32 contact.identifier ++ ([contact.state, contact.flags] ++
        (write16 0 ++ ((contactValues contact).flatMap write32 ++ rest))) := by
  rw [encodeContact_eq]
  simp only [List.append_assoc]

theorem encodeContact_reserved (contact : TPContact) (rest : Bytes) :
    read16 (encodeContact contact ++ rest) 6 = 0 := by
  have hfront : (write32 contact.identifier ++ [contact.state, contact.flags]).length = 6 := rfl
  rw [encodeContact_append, ← List.append_assoc]
  exact read16_at hfront 0 _

theorem decodeTPContact_encodeContact (contact : TPContact) (rest : Bytes) :
    decodeTPContact (encodeContact contact ++ rest) 0 = contact := by
  have hvalue : ∀ index (h : index < (contactValues contact).length),
      read32 (encodeContact contact ++ rest) (8 + index * 4) = (contactValues contact)[index] := by
    intro index h
    rw [encodeContact_eq, List.append_assoc]
    exact read32_flatMap_write32 _ _ h rest
  have hidentifier : read32 (encodeContact contact ++ rest) 0 = contact.identifier := by
    rw [encodeContact_append]
    exact read32_write32 contact.identifier _
  have hstate : byteAt (encodeContact contact ++ rest) 4 = contact.state := by
    rw [encodeContact_append]
    exact byteAt_append_right (write32 contact.identifier) _ 0
  have hflags : byteAt (encodeContact contact ++ rest) 5 = contact.flags := by
    rw [encodeContact_append]
    exact byteAt_append_right (write32 contact.identifier) _ 1
  simp only [decodeTPContact, getF32, getU32, Nat.zero_add, hidentifier, hstate, hflags]
  have hlength : (contactValues contact).length = 9 := rfl
  rw [hvalue 0 (by omega), hvalue 1 (by omega), hvalue 2 (by omega), hvalue 3 (by omega),
    hvalue 4 (by omega), hvalue 5 (by omega), hvalue 6 (by omega), hvalue 7 (by omega),
    hvalue 8 (by omega)]
  rfl

theorem decodeTPContact_flatMap (front : Bytes) (contacts : List TPContact) {index : Nat}
    (h : index < contacts.length) :
    decodeTPContact (front ++ contacts.flatMap encodeContact)
      (front.length + index * tpContactSize) = contacts[index] := by
  obtain ⟨before, after, hsplit, hlength⟩ := flatMap_split encodeContact encodeContact_length contacts h
  rw [decodeTPContact_append_right, hsplit, ← hlength]
  exact (decodeTPContact_append_right _ _ 0).trans (decodeTPContact_encodeContact _ _)

theorem encodedMessage_reads (type : TPMessageType) (frame : TPFrame) :
    let bytes := encodedMessage type frame
    getU32 bytes 0 = tpWireMagic ∧ getU16 bytes 4 = tpWireVersion ∧
      getU16 bytes 6 = type.toUInt16 ∧
      getU32 bytes 8 = (encodedCount type frame).toUInt32 * UInt32.ofNat tpContactSize ∧
      getU32 bytes 12 = frame.sequence ∧ getU16 bytes 16 = encodedCount type frame ∧
      getU16 bytes 18 = encodedFlags type frame ∧
      getU64 bytes 20 = frame.captureTimeUs ∧ getU64 bytes 28 = frame.deviceTimeUs :=
  encodeHeader_reads _ _ _ _ _ _ _ _

theorem encodedMessage_contact {type : TPMessageType} {frame : TPFrame} {index : Nat}
    (h : index < (encodedCount type frame).toNat) :
    decodeTPContact (encodedMessage type frame) (tpContactOffset index) =
      frame.contactAt index := by
  have hcontacts : (List.range (encodedCount type frame).toNat).flatMap
      (fun index => encodeContact (frame.contactAt index)) =
        ((List.range (encodedCount type frame).toNat).map frame.contactAt).flatMap
          encodeContact := by
    rw [List.flatMap_map]
  rw [encodedMessage, hcontacts, tpContactOffset]
  refine (decodeTPContact_flatMap _ _ (by simpa using h)).trans ?_
  simp

theorem encodedMessage_reserved {type : TPMessageType} {frame : TPFrame} {index : Nat}
    (h : index < (encodedCount type frame).toNat) :
    getU16 (encodedMessage type frame) (tpContactOffset index + 6) = 0 := by
  obtain ⟨before, after, hsplit, hlength⟩ := flatMap_split
    (fun index => encodeContact (frame.contactAt index)) (fun _ => encodeContact_length _)
    (List.range (encodedCount type frame).toNat) (by simpa using h)
  rw [encodedMessage, hsplit, tpContactOffset, ← hlength, getU16, Nat.add_assoc]
  rw [← encodeHeader_length type ((encodedCount type frame).toUInt32 * UInt32.ofNat tpContactSize)
    frame.sequence (encodedCount type frame) (encodedFlags type frame) frame.captureTimeUs
    frame.deviceTimeUs, read16_append_right, read16_append_right,
    encodeContact_reserved]

theorem decodeTPFrame_encodedMessage (type : TPMessageType) (frame : TPFrame) :
    decodeTPFrame (encodedMessage type frame) = frame.carried type := by
  obtain ⟨-, -, -, -, hsequence, hcount, hflags, hcapture, hdevice⟩ :=
    encodedMessage_reads type frame
  have hcontacts : ∀ index : Fin tpMaxContacts,
      (if index.val < (encodedCount type frame).toNat then
        decodeTPContact (encodedMessage type frame) (tpContactOffset index.val)
      else {}) =
        if index.val < (encodedCount type frame).toNat then frame.contacts index else {} := by
    intro index
    by_cases hindex : index.val < (encodedCount type frame).toNat
    · rw [if_pos hindex, if_pos hindex, encodedMessage_contact hindex, TPFrame.contactAt,
        dif_pos index.isLt]
    · rw [if_neg hindex, if_neg hindex]
  simp only [decodeTPFrame, TPFrame.carried, hsequence, hcount, hflags, hcapture, hdevice,
    hcontacts]

theorem accepted_encodedMessage {type : TPMessageType} {frame : TPFrame} {capacity : Nat}
    (h : ¬ EncodingRejected type frame capacity) : Accepted (encodedMessage type frame) := by
  simp only [EncodingRejected, not_or, not_not, not_lt, not_and] at h
  obtain ⟨htype, hcount, hflags, -⟩ := h
  obtain ⟨hmagic, hversion, hraw, hpayload, -, hread, hreadFlags, -, -⟩ :=
    encodedMessage_reads type frame
  have hsame : type.toUInt16.toUInt32 = type := by
    rcases htype with rfl | rfl | rfl <;> decide
  refine ⟨hmagic, hversion, ?_, ?_, ?_, ?_, ?_, ?_⟩
  · rw [hraw, hsame]
    exact htype
  · rw [hpayload, hread]
  · rw [hread]
    exact encodedCount_le hcount type
  · rw [hreadFlags, encodedFlags]
    split
    · exact hflags ‹_›
    · decide
  · rw [hraw, hsame, hread, hreadFlags]
    intro hframe
    exact ⟨if_neg hframe, if_neg hframe⟩
  · rw [hread, encodedMessage_length, encodedSize, Nat.mul_comm]

theorem tpDecodeMessage_encodedMessage {type : TPMessageType} {frame : TPFrame} {capacity : Nat}
    (h : ¬ EncodingRejected type frame capacity) (oldType : TPMessageType) (oldFrame : TPFrame) :
    tpDecodeMessage (encodedMessage type frame) (encodedMessage type frame).length oldType
      oldFrame = (true, type, frame.carried type) := by
  rw [tpDecodeMessage_of_accepted (accepted_encodedMessage h)]
  simp only [EncodingRejected, not_or, not_not, not_lt, not_and] at h
  obtain ⟨-, -, hraw, -, -, -, -, -, -⟩ := encodedMessage_reads type frame
  have hsame : type.toUInt16.toUInt32 = type := by
    rcases h.1 with rfl | rfl | rfl <;> decide
  rw [decodeTPFrame_encodedMessage, hraw, hsame]

/-! ## Messages -/

/-- The type and sequence number under which the decoder accepts a message. -/
def messageHeader (bytes : Bytes) : Option (TPMessageType × UInt32) :=
  let (accepted, type, frame) := tpDecodeMessage bytes bytes.length 0 {}
  if accepted then some (type, frame.sequence) else none

theorem not_rejected_of_encodable {type : TPMessageType} (htype : KnownType type)
    {frame : TPFrame} (h : Encodable frame) : ¬ EncodingRejected type frame tpMaxMessageSize := by
  have hcount := encodedCount_le h.count type
  rintro (hunknown | htoo | ⟨-, hflags⟩ | hcapacity)
  · exact hunknown htype
  · exact absurd h.count (not_le.mpr htoo)
  · exact hflags h.flags
  · simp only [encodedSize, tpMaxMessageSize, tpMaxContacts, tpContactSize] at hcapacity hcount
    omega

/-- An encodable frame of a known type is written into a buffer of the maximal
size, and read back with that type and sequence number. -/
theorem tpEncodeMessage_accepted {type : TPMessageType} (htype : KnownType type)
    {frame : TPFrame} (h : Encodable frame) :
    (tpEncodeMessage type frame tpMaxMessageSize).1 ≠ 0 ∧
      messageHeader (tpEncodeMessage type frame tpMaxMessageSize).2 =
        some (type, frame.sequence) := by
  have hfits := not_rejected_of_encodable htype h
  rw [tpEncodeMessage_eq, if_neg hfits]
  refine ⟨(encodedSize_pos type frame).ne', ?_⟩
  rw [messageHeader, tpDecodeMessage_encodedMessage hfits]
  rfl

end Touchpad.Protocol
