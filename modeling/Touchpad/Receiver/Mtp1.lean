import Touchpad.Foundation.BigEndian
import Touchpad.Foundation.Binary32

/-!
# The receiver's message decoder

`ValidateHeader` and `DecodeMessage` of `windows/receiver/Mtp1.cpp`.  A thrown
`ProtocolError` is an `Except` error; its constructors are the throw sites of
the receiver and `what` gives their texts.
-/

namespace Touchpad.Receiver

open Touchpad.Foundation

def kHeaderSize : Nat := 36
def kContactSize : Nat := 44
def kMaxContacts : Nat := 10
def kMaxMessageSize : Nat := kHeaderSize + kMaxContacts * kContactSize
def kFrameButton : UInt16 := 0x0001

inductive MessageType where
  | hello
  | frame
  | reset
  deriving DecidableEq, Repr

def MessageType.code : MessageType → UInt16
  | .hello => 1
  | .frame => 2
  | .reset => 3

structure Contact where
  identifier : UInt32 := 0
  state : UInt8 := 0
  flags : UInt8 := 0
  x : Binary32 := 0
  y : Binary32 := 0
  velocityX : Binary32 := 0
  velocityY : Binary32 := 0
  size : Binary32 := 0
  angle : Binary32 := 0
  majorAxis : Binary32 := 0
  minorAxis : Binary32 := 0
  density : Binary32 := 0
  deriving DecidableEq, Repr

structure Message where
  type : MessageType
  sequence : UInt32 := 0
  captureTimeUs : UInt64 := 0
  deviceTimeUs : UInt64 := 0
  flags : UInt16 := 0
  contacts : List Contact := []
  deriving DecidableEq, Repr

inductive ProtocolError where
  | unknownMessageType
  | contactNotFinite
  | invalidMagic
  | unsupportedVersion
  | invalidHeaderFlags
  | invalidPayloadLength
  | controlContacts
  | truncatedHeader
  | messageLengthMismatch
  | reservedNonzero
  | unknownContactFlags
  | duplicateIdentifier
  | streamBufferLimit
  | sequenceDiscontinuity
  | unexpectedHello
  | messageBeforeHello
  | frameBeforeReset
  | moreThanFiveActive
  | reportCapacityExceeded
  | noFreeSlot
  deriving DecidableEq, Repr

def ProtocolError.what : ProtocolError → String
  | .unknownMessageType => "unknown message type"
  | .contactNotFinite => "contact contains NaN or infinity"
  | .invalidMagic => "invalid magic"
  | .unsupportedVersion => "unsupported version"
  | .invalidHeaderFlags => "invalid header flags"
  | .invalidPayloadLength => "invalid payload length or contact count"
  | .controlContacts => "control message contains contacts"
  | .truncatedHeader => "truncated header"
  | .messageLengthMismatch => "message length mismatch"
  | .reservedNonzero => "contact reserved field is nonzero"
  | .unknownContactFlags => "unknown contact flags"
  | .duplicateIdentifier => "duplicate contact identifier"
  | .streamBufferLimit => "stream buffer limit exceeded"
  | .sequenceDiscontinuity => "sequence discontinuity"
  | .unexpectedHello => "unexpected HELLO"
  | .messageBeforeHello => "message received before HELLO"
  | .frameBeforeReset => "FRAME received before RESET"
  | .moreThanFiveActive => "more than five active contacts"
  | .reportCapacityExceeded => "report contact capacity exceeded"
  | .noFreeSlot => "no free HID contact slot"

theorem ProtocolError.what_injective : Function.Injective ProtocolError.what := by
  intro first second h
  cases first <;> cases second <;> first | rfl | (simp [what] at h)

/-! ## Header -/

def readU16 (bytes : Bytes) (offset : Nat) : UInt16 := read16 bytes offset
def readU32 (bytes : Bytes) (offset : Nat) : UInt32 := read32 bytes offset
def readU64 (bytes : Bytes) (offset : Nat) : UInt64 := read64 bytes offset
def readF32 (bytes : Bytes) (offset : Nat) : Binary32 := readU32 bytes offset

def readType (value : UInt16) : Except ProtocolError MessageType :=
  if value = 1 then .ok .hello
  else if value = 2 then .ok .frame
  else if value = 3 then .ok .reset
  else .error .unknownMessageType

def validateHeader (header : Bytes) : Except ProtocolError Nat :=
  if header.take 4 ≠ [0x4d, 0x54, 0x50, 0x31] then .error .invalidMagic
  else if readU16 header 4 ≠ 1 then .error .unsupportedVersion
  else
    match readType (readU16 header 6) with
    | .error error => .error error
    | .ok type =>
        let payload := readU32 header 8
        let count := readU16 header 16
        let flags := readU16 header 18
        if flags &&& ~~~kFrameButton ≠ 0 ∨ (type ≠ .frame ∧ flags ≠ 0) then
          .error .invalidHeaderFlags
        else if kMaxContacts < count.toNat ∨
            payload ≠ UInt32.ofNat (count.toNat * kContactSize) then
          .error .invalidPayloadLength
        else if type ≠ .frame ∧ count ≠ 0 then .error .controlContacts
        else .ok (kHeaderSize + payload.toNat)

/-! ## Contacts -/

def contactOffset (index : Nat) : Nat := kHeaderSize + index * kContactSize

def readContact (bytes : Bytes) (p : Nat) : Contact where
  identifier := readU32 bytes p
  state := byteAt bytes (p + 4)
  flags := byteAt bytes (p + 5)
  x := readF32 bytes (p + 8)
  y := readF32 bytes (p + 12)
  velocityX := readF32 bytes (p + 16)
  velocityY := readF32 bytes (p + 20)
  size := readF32 bytes (p + 24)
  angle := readF32 bytes (p + 28)
  majorAxis := readF32 bytes (p + 32)
  minorAxis := readF32 bytes (p + 36)
  density := readF32 bytes (p + 40)

def Contact.floats (contact : Contact) : List Binary32 :=
  [contact.x, contact.y, contact.velocityX, contact.velocityY, contact.size,
    contact.angle, contact.majorAxis, contact.minorAxis, contact.density]

def decodeContact (bytes : Bytes) (p : Nat) : Except ProtocolError Contact :=
  if readU16 bytes (p + 6) ≠ 0 then .error .reservedNonzero
  else
    let contact := readContact bytes p
    if contact.flags &&& ~~~0x07 ≠ 0 then .error .unknownContactFlags
    else if contact.floats.all Binary32.isFinite then .ok contact
    else .error .contactNotFinite

/-- The contact loop from `index` on, with `remaining` records to go and the
identifiers inserted so far. -/
def decodeContacts (bytes : Bytes) :
    Nat → Nat → List UInt32 → Except ProtocolError (List Contact)
  | 0, _, _ => .ok []
  | remaining + 1, index, identifiers =>
      match decodeContact bytes (contactOffset index) with
      | .error error => .error error
      | .ok contact =>
          if contact.identifier ∈ identifiers then .error .duplicateIdentifier
          else
            match decodeContacts bytes remaining (index + 1)
                (contact.identifier :: identifiers) with
            | .error error => .error error
            | .ok contacts => .ok (contact :: contacts)

def decodeMessage (bytes : Bytes) : Except ProtocolError Message :=
  if bytes.length < kHeaderSize then .error .truncatedHeader
  else
    match validateHeader (bytes.take kHeaderSize) with
    | .error error => .error error
    | .ok expected =>
        if bytes.length ≠ expected then .error .messageLengthMismatch
        else
          match readType (readU16 bytes 6) with
          | .error error => .error error
          | .ok type =>
              match decodeContacts bytes (readU16 bytes 16).toNat 0 [] with
              | .error error => .error error
              | .ok contacts =>
                  .ok {
                    type
                    sequence := readU32 bytes 12
                    captureTimeUs := readU64 bytes 20
                    deviceTimeUs := readU64 bytes 28
                    flags := readU16 bytes 18
                    contacts }

/-! ## What acceptance says -/

theorem readType_eq_ok_iff {value : UInt16} {type : MessageType} :
    readType value = .ok type ↔ value = type.code := by
  unfold readType
  constructor
  · intro h
    split_ifs at h with h1 h2 h3 <;> cases h <;> assumption
  · rintro rfl
    cases type <;> rfl

@[mk_iff]
structure HeaderAccepted (bytes : Bytes) (type : MessageType) : Prop where
  magic : bytes.take 4 = [0x4d, 0x54, 0x50, 0x31]
  version : readU16 bytes 4 = 1
  type_code : readU16 bytes 6 = type.code
  flags : readU16 bytes 18 &&& ~~~kFrameButton = 0
  count : (readU16 bytes 16).toNat ≤ kMaxContacts
  payload : readU32 bytes 8 =
    UInt32.ofNat ((readU16 bytes 16).toNat * kContactSize)
  control : type ≠ .frame → readU16 bytes 16 = 0 ∧ readU16 bytes 18 = 0

def announcedLength (bytes : Bytes) : Nat :=
  kHeaderSize + (readU16 bytes 16).toNat * kContactSize

theorem HeaderAccepted.payload_toNat {bytes : Bytes} {type : MessageType}
    (h : HeaderAccepted bytes type) :
    (readU32 bytes 8).toNat = (readU16 bytes 16).toNat * kContactSize := by
  have hcount := h.count
  rw [h.payload, UInt32.toNat_ofNat']
  simp only [kMaxContacts, kContactSize] at *
  omega

theorem validateHeader_eq_ok_iff {header : Bytes} {expected : Nat} :
    validateHeader header = .ok expected ↔
      expected = announcedLength header ∧ ∃ type, HeaderAccepted header type := by
  have hvalid : validateHeader header = .ok expected ↔
      expected = kHeaderSize + (readU32 header 8).toNat ∧
        ∃ type, HeaderAccepted header type := by
    unfold validateHeader
    cases htype : readType (readU16 header 6) with
    | error error =>
        have hnone : ¬ ∃ type, HeaderAccepted header type := by
          rintro ⟨type, h⟩
          rw [readType_eq_ok_iff.mpr h.type_code] at htype
          cases htype
        split_ifs <;> simp [hnone]
    | ok type =>
        rw [readType_eq_ok_iff] at htype
        have hone : (∃ other, HeaderAccepted header other) ↔
            HeaderAccepted header type := by
          refine ⟨?_, fun h => ⟨type, h⟩⟩
          rintro ⟨other, h⟩
          have hcode := h.type_code.symm.trans htype
          have : other = type := by
            cases other <;> cases type <;> first | rfl | exact absurd hcode (by decide)
          exact this ▸ h
        rw [hone, headerAccepted_iff]
        grind
  rw [hvalid]
  constructor <;> rintro ⟨rfl, type, h⟩ <;>
    exact ⟨by rw [announcedLength, h.payload_toNat], type, h⟩

theorem headerAccepted_take {bytes : Bytes} {type : MessageType} {count : Nat}
    (hcount : kHeaderSize ≤ count) :
    HeaderAccepted (bytes.take count) type ↔ HeaderAccepted bytes type := by
  have h16 : ∀ offset, offset + 1 < 36 →
      readU16 (bytes.take count) offset = readU16 bytes offset := by
    intro offset h
    exact read16_take (by simp only [kHeaderSize] at hcount; omega)
  have h32 : readU32 (bytes.take count) 8 = readU32 bytes 8 :=
    read32_take (by simp only [kHeaderSize] at hcount; omega)
  have hmagic : (bytes.take count).take 4 = bytes.take 4 := by
    rw [List.take_take, Nat.min_eq_left (by simp only [kHeaderSize] at hcount; omega)]
  constructor
  · rintro ⟨h1, h2, h3, h4, h5, h6, h7⟩
    simp (disch := decide) only [h16, h32, hmagic] at *
    exact ⟨h1, h2, h3, h4, h5, h6, h7⟩
  · rintro ⟨h1, h2, h3, h4, h5, h6, h7⟩
    constructor <;> simp (disch := decide) only [h16, h32, hmagic] <;> assumption

structure RecordAccepted (bytes : Bytes) (p : Nat) : Prop where
  reserved : readU16 bytes (p + 6) = 0
  flags : (readContact bytes p).flags &&& ~~~0x07 = 0
  finite : ∀ float ∈ (readContact bytes p).floats, Binary32.isFinite float = true

theorem decodeContact_eq_ok_iff {bytes : Bytes} {p : Nat} {contact : Contact} :
    decodeContact bytes p = .ok contact ↔
      contact = readContact bytes p ∧ RecordAccepted bytes p := by
  unfold decodeContact
  dsimp only
  constructor
  · intro h
    split_ifs at h with hreserved hflags hfinite
    cases h
    exact ⟨rfl, not_not.mp hreserved, not_not.mp hflags, List.all_eq_true.mp hfinite⟩
  · rintro ⟨rfl, hreserved, hflags, hfinite⟩
    have hall := List.all_eq_true.mpr hfinite
    simp [hreserved, hflags, hall]

theorem decodeContacts_eq_ok_iff {bytes : Bytes} {remaining index : Nat}
    {identifiers : List UInt32} {contacts : List Contact} :
    decodeContacts bytes remaining index identifiers = .ok contacts ↔
      contacts = (List.range' index remaining).map
        (fun i => readContact bytes (contactOffset i)) ∧
      (∀ i ∈ List.range' index remaining, RecordAccepted bytes (contactOffset i)) ∧
      (contacts.map Contact.identifier).Nodup ∧
      ∀ contact ∈ contacts, contact.identifier ∉ identifiers := by
  induction remaining generalizing index identifiers contacts with
  | zero => simp +contextual [decodeContacts, eq_comm]
  | succ remaining ih =>
      rw [decodeContacts]
      cases hhead : decodeContact bytes (contactOffset index) with
      | error error =>
          have hreject : ¬ RecordAccepted bytes (contactOffset index) := by
            intro h
            rw [decodeContact_eq_ok_iff.mpr ⟨rfl, h⟩] at hhead
            cases hhead
          simp [List.range'_succ, hreject]
      | ok contact =>
          obtain ⟨rfl, haccept⟩ := decodeContact_eq_ok_iff.mp hhead
          by_cases hseen : (readContact bytes (contactOffset index)).identifier ∈ identifiers
          · simp only [if_pos hseen, reduceCtorEq, false_iff]
            rintro ⟨rfl, -, -, hfresh⟩
            exact hfresh _ (by simp [List.range'_succ]) hseen
          · simp only [if_neg hseen]
            cases htail : decodeContacts bytes remaining (index + 1)
                ((readContact bytes (contactOffset index)).identifier :: identifiers) with
            | error error =>
                simp only [reduceCtorEq, false_iff]
                rintro ⟨rfl, hrecords, hnodup, hfresh⟩
                simp only [List.range'_succ, List.map_cons, List.nodup_cons,
                  List.mem_cons, forall_eq_or_imp] at hrecords hnodup hfresh
                rw [ih.mpr ⟨rfl, hrecords.2, hnodup.2, by
                  intro contact hcontact
                  simp only [List.mem_cons, not_or]
                  refine ⟨fun heq => hnodup.1 ?_, hfresh.2 contact hcontact⟩
                  exact heq ▸ List.mem_map_of_mem hcontact⟩] at htail
                cases htail
            | ok rest =>
                obtain ⟨rfl, hrecords, hnodup, hfresh⟩ := ih.mp htail
                simp only [List.mem_cons, not_or] at hfresh
                simp only [Except.ok.injEq, List.range'_succ, List.map_cons]
                constructor
                · rintro rfl
                  refine ⟨rfl, ?_, ?_, ?_⟩
                  · simpa [haccept] using hrecords
                  · rw [List.map_cons, List.nodup_cons]
                    refine ⟨?_, hnodup⟩
                    intro hmem
                    obtain ⟨contact, hcontact, heq⟩ := List.mem_map.mp hmem
                    exact (hfresh contact hcontact).1 heq
                  · simp only [List.mem_cons, forall_eq_or_imp]
                    exact ⟨hseen, fun contact hcontact => (hfresh contact hcontact).2⟩
                · rintro ⟨rfl, -⟩
                  rfl

def readMessage (bytes : Bytes) (type : MessageType) : Message where
  type := type
  sequence := readU32 bytes 12
  captureTimeUs := readU64 bytes 20
  deviceTimeUs := readU64 bytes 28
  flags := readU16 bytes 18
  contacts := (List.range (readU16 bytes 16).toNat).map
    fun i => readContact bytes (contactOffset i)

theorem decodeMessage_eq_ok_iff {bytes : Bytes} {message : Message} :
    decodeMessage bytes = .ok message ↔
      kHeaderSize ≤ bytes.length ∧ bytes.length = announcedLength bytes ∧
      (∀ i < (readU16 bytes 16).toNat, RecordAccepted bytes (contactOffset i)) ∧
      (message.contacts.map Contact.identifier).Nodup ∧
      ∃ type, HeaderAccepted bytes type ∧ message = readMessage bytes type := by
  unfold decodeMessage
  by_cases hlength : bytes.length < kHeaderSize
  · simp [hlength]
  have hcount16 : readU16 (bytes.take kHeaderSize) 16 = readU16 bytes 16 :=
    read16_take (by decide)
  cases hheader : validateHeader (bytes.take kHeaderSize) with
  | error error =>
      have hnone : ∀ type, ¬ HeaderAccepted bytes type := by
        intro type h
        rw [validateHeader_eq_ok_iff.mpr
          ⟨rfl, type, (headerAccepted_take le_rfl).mpr h⟩] at hheader
        cases hheader
      simp [hlength, hnone]
  | ok expected =>
      obtain ⟨rfl, type, hvalid⟩ := validateHeader_eq_ok_iff.mp hheader
      rw [headerAccepted_take le_rfl] at hvalid
      have hunique : ∀ other, HeaderAccepted bytes other → other = type := by
        intro other h
        have hcode := h.type_code.symm.trans hvalid.type_code
        cases other <;> cases type <;> first | rfl | exact absurd hcode (by decide)
      have hannounced : announcedLength (bytes.take kHeaderSize) = announcedLength bytes := by
        rw [announcedLength, hcount16, announcedLength]
      simp only [if_neg hlength, hannounced, readType_eq_ok_iff.mpr hvalid.type_code]
      by_cases hexact : bytes.length = announcedLength bytes
      · simp only [hexact, ne_eq, not_true_eq_false, if_false, true_and]
        cases hcontacts : decodeContacts bytes (readU16 bytes 16).toNat 0 [] with
        | error error =>
            simp only [reduceCtorEq, false_iff]
            rintro ⟨-, hrecords, hnodup, other, hother, rfl⟩
            rw [decodeContacts_eq_ok_iff.mpr ⟨rfl, by
              simpa [List.mem_range'_1] using hrecords, by
              simpa [readMessage, List.range_eq_range'] using hnodup, by simp⟩] at hcontacts
            cases hcontacts
        | ok contacts =>
            obtain ⟨rfl, hrecords, hnodup, -⟩ := decodeContacts_eq_ok_iff.mp hcontacts
            simp only [Except.ok.injEq]
            constructor
            · rintro rfl
              refine ⟨by omega, ?_, hnodup, type, hvalid, ?_⟩
              · simpa [List.mem_range'_1] using hrecords
              · simp [readMessage, List.range_eq_range']
            · rintro ⟨-, -, -, other, hother, rfl⟩
              obtain rfl := hunique other hother
              simp [readMessage, List.range_eq_range']
      · simp [hexact]

theorem distinct_of_decodeMessage {bytes : Bytes} {message : Message}
    (h : decodeMessage bytes = .ok message) :
    (message.contacts.map Contact.identifier).Nodup :=
  (decodeMessage_eq_ok_iff.mp h).2.2.2.1

theorem flags_of_decodeMessage {bytes : Bytes} {message : Message}
    (h : decodeMessage bytes = .ok message) {contact : Contact}
    (hcontact : contact ∈ message.contacts) : contact.flags &&& ~~~0x07 = 0 := by
  obtain ⟨-, -, hrecords, -, type, -, rfl⟩ := decodeMessage_eq_ok_iff.mp h
  obtain ⟨i, hi, rfl⟩ := List.mem_map.mp hcontact
  exact (hrecords i (List.mem_range.mp hi)).flags

end Touchpad.Receiver
