import Touchpad.Foundation.ExactReads
import Touchpad.Receiver.Segmentation

/-!
# The debug receiver

`receive_exact` and the connection loop of `tools/debug_receiver.py`.  It reads exact
lengths from the socket and prints what it reads; it checks less than the receiver on
Windows.  Rounding to five digits stays a parameter.
-/

namespace Touchpad.Tools

open Touchpad.Foundation
open Touchpad.Protocol
open Touchpad.Receiver

def magic : Bytes := [0x4d, 0x54, 0x50, 0x31]
def headerSize : Nat := 36
def contactSize : Nat := 44

def typeNames : List (UInt16 × String) := [(1, "HELLO"), (2, "FRAME"), (3, "RESET")]

def typeShown (messageType : UInt16) : String ⊕ UInt16 :=
  match typeNames.lookup messageType with
  | some name => .inl name
  | none => .inr messageType

structure Header where
  magic : Bytes
  version : UInt16
  messageType : UInt16
  payloadLength : UInt32
  sequence : UInt32
  count : UInt16
  flags : UInt16
  captureUs : UInt64
  deviceUs : UInt64

def unpackHeader (bytes : Bytes) : Header where
  magic := bytes.take 4
  version := read16 bytes 4
  messageType := read16 bytes 6
  payloadLength := read32 bytes 8
  sequence := read32 bytes 12
  count := read16 bytes 16
  flags := read16 bytes 18
  captureUs := read64 bytes 20
  deviceUs := read64 bytes 28

structure ContactShown (ρ : Type) where
  id : UInt32
  state : UInt8
  flags : UInt8
  x : ρ
  y : ρ

structure Shown (ρ : Type) where
  type : String ⊕ UInt16
  sequence : UInt32
  flags : UInt16
  captureUs : UInt64
  deviceUs : UInt64
  contacts : List (ContactShown ρ)

inductive Ending where
  | disconnected
  | invalidHeader
  | insidePayload
  deriving DecidableEq, Repr

section Main

variable {ρ : Type} (round5 : Binary32 → ρ)

def unpackContact (payload : Bytes) (offset : Nat) : ContactShown ρ where
  id := read32 payload offset
  state := byteAt payload (offset + 4)
  flags := byteAt payload (offset + 5)
  x := round5 (read32 payload (offset + 8))
  y := round5 (read32 payload (offset + 12))

def rangeOf (stop step : Nat) : List Nat :=
  (List.range ((stop + (step - 1)) / step)).map (· * step)

def shownAs (header : Header) (payload : Bytes) : Shown ρ where
  type := typeShown header.messageType
  sequence := header.sequence
  flags := header.flags
  captureUs := header.captureUs
  deviceUs := header.deviceUs
  contacts := (rangeOf header.payloadLength.toNat contactSize).map (unpackContact round5 payload)

def Header.Invalid (header : Header) : Prop :=
  header.magic ≠ Tools.magic ∨ header.version ≠ 1 ∨
    header.payloadLength.toNat ≠ header.count.toNat * contactSize

instance (header : Header) : Decidable header.Invalid :=
  inferInstanceAs (Decidable (_ ∨ _ ∨ _))

theorem receiveExact_shorter {source rest : Arriving UInt8} {count : Nat} {bytes : Bytes}
    (h : source.receiveExact count = (some bytes, rest)) :
    count ≤ source.stream.length ∧ bytes = source.stream.take count ∧
      rest.stream = source.stream.drop count := by
  by_cases hcount : count ≤ source.stream.length
  · obtain ⟨other, hreceived, hrest⟩ := Arriving.receiveExact_enough hcount
    rw [hreceived] at h
    cases h
    exact ⟨hcount, rfl, hrest⟩
  · have hended := Arriving.receiveExact_ended (not_le.mp hcount)
    rw [h] at hended
    cases hended

def checkHeader (headerBytes : Bytes) : Option Header :=
  let header := unpackHeader headerBytes
  if header.Invalid then none else some header

/-- The loop over one connection: what is printed, and how it ends. -/
def debugReceiverMain (source : Arriving UInt8) : List (Shown ρ) × Ending :=
  match _hheader : source.receiveExact headerSize with
  | (none, _) => ([], .disconnected)
  | (some headerBytes, afterHeader) =>
      match checkHeader headerBytes with
      | none => ([], .invalidHeader)
      | some header =>
          match _hpayload : afterHeader.receiveExact header.payloadLength.toNat with
          | (none, _) => ([], .insidePayload)
          | (some payload, afterPayload) =>
              let later := debugReceiverMain afterPayload
              (shownAs round5 header payload :: later.1, later.2)
termination_by source.stream.length
decreasing_by
  obtain ⟨hlength, -, hrest⟩ := receiveExact_shorter _hheader
  obtain ⟨-, -, hlast⟩ := receiveExact_shorter _hpayload
  rw [hlast, hrest, List.length_drop, List.length_drop]
  have hsize : headerSize = 36 := rfl
  omega

/-! ## The same on the whole stream -/

def verdict (buffer : Bytes) : Verdict (Shown ρ) Unit :=
  if buffer.length < headerSize then .incomplete
  else
    match checkHeader (buffer.take headerSize) with
    | none => .rejected ()
    | some header =>
        if buffer.length < headerSize + header.payloadLength.toNat then .incomplete
        else
          .complete
            (shownAs round5 header ((buffer.drop headerSize).take header.payloadLength.toNat))
            (headerSize + header.payloadLength.toNat)

theorem verdict_short {buffer : Bytes} (h : buffer.length < headerSize) :
    verdict round5 buffer = .incomplete := if_pos h

theorem verdict_rejected {buffer : Bytes} (h : headerSize ≤ buffer.length)
    (hheader : checkHeader (buffer.take headerSize) = none) :
    verdict round5 buffer = .rejected () := by
  rw [verdict, if_neg (not_lt.mpr h), hheader]

theorem verdict_of_header {buffer : Bytes} {header : Header} (h : headerSize ≤ buffer.length)
    (hheader : checkHeader (buffer.take headerSize) = some header) :
    verdict round5 buffer =
      if buffer.length < headerSize + header.payloadLength.toNat then .incomplete
      else .complete
        (shownAs round5 header ((buffer.drop headerSize).take header.payloadLength.toNat))
        (headerSize + header.payloadLength.toNat) := by
  rw [verdict, if_neg (not_lt.mpr h), hheader]

theorem verdict_cases (buffer : Bytes) :
    (buffer.length < headerSize ∧ verdict round5 buffer = .incomplete) ∨
      (headerSize ≤ buffer.length ∧ checkHeader (buffer.take headerSize) = none ∧
        verdict round5 buffer = .rejected ()) ∨
      ∃ header, headerSize ≤ buffer.length ∧
        checkHeader (buffer.take headerSize) = some header ∧
        verdict round5 buffer =
          if buffer.length < headerSize + header.payloadLength.toNat then .incomplete
          else .complete
            (shownAs round5 header ((buffer.drop headerSize).take header.payloadLength.toNat))
            (headerSize + header.payloadLength.toNat) := by
  by_cases hshort : buffer.length < headerSize
  · exact .inl ⟨hshort, verdict_short round5 hshort⟩
  · cases hheader : checkHeader (buffer.take headerSize) with
    | none =>
        exact .inr (.inl ⟨not_lt.mp hshort, rfl,
          verdict_rejected round5 (not_lt.mp hshort) hheader⟩)
    | some header =>
        exact .inr (.inr ⟨header, not_lt.mp hshort, rfl,
          verdict_of_header round5 (not_lt.mp hshort) hheader⟩)

theorem checkHeader_append {buffer : Bytes} (h : headerSize ≤ buffer.length) (more : Bytes) :
    checkHeader ((buffer ++ more).take headerSize) = checkHeader (buffer.take headerSize) := by
  rw [List.take_append_of_le_length h]

def framing : Framing UInt8 (Shown ρ) Unit where
  verdict := verdict round5
  complete_length {buffer message length} hverdict := by
    rcases verdict_cases round5 buffer with ⟨-, hcase⟩ | ⟨-, -, hcase⟩ | ⟨header, -, -, hcase⟩
    · rw [hcase] at hverdict
      cases hverdict
    · rw [hcase] at hverdict
      cases hverdict
    · rw [hcase] at hverdict
      split at hverdict
      · cases hverdict
      · cases hverdict
        exact ⟨by simp only [headerSize]; omega, not_lt.mp ‹_›⟩
  complete_append {buffer message length} more hverdict := by
    rcases verdict_cases round5 buffer with ⟨-, hcase⟩ | ⟨-, -, hcase⟩ |
      ⟨header, hlong, hheader, hcase⟩
    · rw [hcase] at hverdict
      cases hverdict
    · rw [hcase] at hverdict
      cases hverdict
    · rw [hcase] at hverdict
      split at hverdict
      case isTrue => cases hverdict
      case isFalse hwhole =>
        have hlonger : headerSize ≤ (buffer ++ more).length := by
          rw [List.length_append]
          omega
        rw [verdict_of_header round5 hlonger ((checkHeader_append hlong more).trans hheader),
          if_neg (by rw [List.length_append]; omega), ← hverdict,
          List.drop_append_of_le_length hlong, List.take_append_of_le_length]
        rw [List.length_drop]
        omega
  rejected_append {buffer error} more hverdict := by
    rcases verdict_cases round5 buffer with ⟨-, hcase⟩ | ⟨hlong, hheader, hcase⟩ |
      ⟨header, -, -, hcase⟩
    · rw [hcase] at hverdict
      cases hverdict
    · have hlonger : headerSize ≤ (buffer ++ more).length := by
        rw [List.length_append]
        omega
      exact verdict_rejected round5 hlonger ((checkHeader_append hlong more).trans hheader)
    · rw [hcase] at hverdict
      split at hverdict <;> cases hverdict

def endingOf (parsed : Parsed UInt8 (Shown ρ) Unit) : Ending :=
  match parsed.error with
  | some _ => .invalidHeader
  | none => if parsed.rest.length < headerSize then .disconnected else .insidePayload

/-- What is printed depends on the stream only, not on its segments. -/
theorem debugReceiverMain_eq_parse (source : Arriving UInt8) :
    debugReceiverMain round5 source = (((framing round5).parse source.stream).messages,
      endingOf ((framing round5).parse source.stream)) := by
  induction hn : source.stream.length using Nat.strongRecOn generalizing source with
  | ind n ih =>
      rw [debugReceiverMain]
      split
      case h_1 rest hreceived =>
        have hshort : source.stream.length < headerSize := by
          by_contra hlong
          obtain ⟨other, henough, -⟩ := Arriving.receiveExact_enough (not_lt.mp hlong)
          rw [henough] at hreceived
          cases hreceived
        have hverdict : (framing round5).verdict source.stream = .incomplete :=
          verdict_short round5 hshort
        rw [Framing.parse_incomplete hverdict, endingOf]
        simp [hshort]
      case h_2 headerBytes afterHeader hreceived =>
        obtain ⟨hlong, rfl, hafter⟩ := receiveExact_shorter hreceived
        split
        case h_1 hheader =>
          have hverdict : (framing round5).verdict source.stream = .rejected () :=
            verdict_rejected round5 hlong hheader
          rw [Framing.parse_rejected hverdict]
          rfl
        case h_2 header hheader =>
          have hjudged := verdict_of_header round5 hlong hheader
          have hlength : afterHeader.stream.length = source.stream.length - headerSize := by
            rw [hafter, List.length_drop]
          split
          case h_1 rest hended =>
            have hshort : source.stream.length < headerSize + header.payloadLength.toNat := by
              by_contra hwhole
              have hfits : header.payloadLength.toNat ≤ afterHeader.stream.length := by omega
              obtain ⟨other, henough, -⟩ := Arriving.receiveExact_enough hfits
              rw [henough] at hended
              cases hended
            rw [if_pos hshort] at hjudged
            have hverdict : (framing round5).verdict source.stream = .incomplete := hjudged
            rw [Framing.parse_incomplete hverdict, endingOf]
            simp [not_lt.mpr hlong]
          case h_2 payload afterPayload hpayload =>
            obtain ⟨hwhole, rfl, hlast⟩ := receiveExact_shorter hpayload
            have hsize : headerSize = 36 := rfl
            rw [if_neg (by omega)] at hjudged
            have hverdict : (framing round5).verdict source.stream = _ := hjudged
            have hrest : afterPayload.stream =
                source.stream.drop (headerSize + header.payloadLength.toNat) := by
              rw [hlast, hafter, List.drop_drop]
            rw [Framing.parse_complete hverdict, ih _ (by rw [hrest, List.length_drop]; omega) _ rfl,
              hrest, hafter]
            rfl

/-! ## Beside the receiver on Windows -/

def nameOf : MessageType → String
  | .hello => "HELLO"
  | .frame => "FRAME"
  | .reset => "RESET"

def contactShown (contact : Contact) : ContactShown ρ where
  id := contact.identifier
  state := contact.state
  flags := contact.flags
  x := round5 contact.x
  y := round5 contact.y

def messageShown (message : Message) : Shown ρ where
  type := .inl (nameOf message.type)
  sequence := message.sequence
  flags := message.flags
  captureUs := message.captureTimeUs
  deviceUs := message.deviceTimeUs
  contacts := message.contacts.map (contactShown round5)

theorem typeShown_code (type : MessageType) : typeShown type.code = .inl (nameOf type) := by
  cases type <;> rfl

theorem unpackHeader_take (bytes : Bytes) :
    unpackHeader (bytes.take headerSize) = unpackHeader bytes := by
  have hmagic : (bytes.take headerSize).take 4 = bytes.take 4 := by
    rw [List.take_take]
    rfl
  have h16 : ∀ offset, offset + 1 < 36 → read16 (bytes.take headerSize) offset =
      read16 bytes offset := fun offset h => read16_take h
  have h32 : ∀ offset, offset + 3 < 36 → read32 (bytes.take headerSize) offset =
      read32 bytes offset := fun offset h => read32_take h
  simp (disch := decide) only [unpackHeader, hmagic, h16, h32, read64]

theorem checkHeader_accepted {bytes : Bytes} {type : MessageType} (h : HeaderAccepted bytes type) :
    checkHeader (bytes.take headerSize) = some (unpackHeader bytes) := by
  have hvalid : ¬ (unpackHeader bytes).Invalid := by
    rintro (hmagic | hversion | hpayload)
    · exact hmagic h.magic
    · exact hversion h.version
    · exact hpayload h.payload_toNat
  rw [checkHeader, unpackHeader_take]
  exact if_neg hvalid

theorem rangeOf_mul (count : Nat) :
    rangeOf (count * contactSize) contactSize = (List.range count).map (· * contactSize) := by
  have hcount : (count * contactSize + (contactSize - 1)) / contactSize = count := by
    simp only [contactSize]
    omega
  rw [rangeOf, hcount]

theorem unpackContact_drop (bytes : Bytes) (index : Nat) :
    unpackContact round5 (bytes.drop headerSize) (index * contactSize) =
      contactShown round5 (readContact bytes (contactOffset index)) := by
  have hoffset : contactOffset index = headerSize + index * contactSize := rfl
  simp only [unpackContact, contactShown, readContact, readU32, readF32, read32, byteAt_drop,
    hoffset, Nat.add_assoc]

theorem shownAs_decoded {bytes : Bytes} {type : MessageType} (h : HeaderAccepted bytes type) :
    shownAs round5 (unpackHeader bytes) (bytes.drop headerSize) =
      messageShown round5 (readMessage bytes type) := by
  have htype : typeShown (unpackHeader bytes).messageType = .inl (nameOf type) := by
    rw [← typeShown_code, ← h.type_code]
    rfl
  have hpayload : (unpackHeader bytes).payloadLength.toNat =
      (readU16 bytes 16).toNat * contactSize := h.payload_toNat
  rw [shownAs, htype, hpayload, rangeOf_mul, messageShown, readMessage]
  simp [unpackContact_drop, unpackHeader, readU16, readU32, readU64]

theorem announced_eq {bytes : Bytes} {type : MessageType} (h : HeaderAccepted bytes type) :
    announcedLength (bytes.take kHeaderSize) =
      headerSize + (unpackHeader bytes).payloadLength.toNat := by
  have hcount : readU16 (bytes.take kHeaderSize) 16 = readU16 bytes 16 := read16_take (by decide)
  have hpayload : (unpackHeader bytes).payloadLength.toNat =
      (readU16 bytes 16).toNat * contactSize := h.payload_toNat
  rw [announcedLength, hcount, hpayload]
  rfl

theorem verdict_complete {buffer : Bytes} {message : Message} {length : Nat}
    (h : mtp1Verdict buffer = .complete message length) :
    verdict round5 buffer = .complete (messageShown round5 message) length := by
  rcases mtp1Verdict_cases buffer with ⟨-, hverdict⟩ | ⟨hlong, hjudged⟩
  · rw [h] at hverdict
    cases hverdict
  · rw [h] at hjudged
    cases hjudged with
    | wholeMessage _ _ hheader hfits hdecoded =>
        obtain ⟨-, -, -, -, type, haccepted, rfl⟩ := decodeMessage_eq_ok_iff.mp hdecoded
        have hleast := (validateHeader_bounds hheader).1
        have hwhole := (headerAccepted_take hleast).mp haccepted
        have hlength := (validateHeader_eq_ok_iff.mp hheader).1.trans (announced_eq hwhole)
        have hunpacked : unpackHeader (buffer.take length) = unpackHeader buffer := by
          rw [← unpackHeader_take, List.take_take,
            Nat.min_eq_left (show headerSize ≤ length from hleast), unpackHeader_take]
        rw [verdict_of_header round5 hlong (checkHeader_accepted hwhole),
          if_neg (by rw [← hlength]; exact not_lt.mpr hfits), ← shownAs_decoded round5 haccepted,
          hunpacked, hlength, List.drop_take, Nat.add_sub_cancel_left]

theorem verdict_incomplete {buffer : Bytes} (h : mtp1Verdict buffer = .incomplete) :
    verdict round5 buffer = .incomplete := by
  rcases mtp1Verdict_cases buffer with ⟨hshort, -⟩ | ⟨hlong, hjudged⟩
  · exact verdict_short round5 hshort
  · rw [h] at hjudged
    cases hjudged with
    | partialMessage length hheader hpartial =>
        obtain ⟨hlength, type, haccepted⟩ := validateHeader_eq_ok_iff.mp hheader
        rw [headerAccepted_take le_rfl] at haccepted
        rw [verdict_of_header round5 hlong (checkHeader_accepted haccepted), if_pos]
        rw [← announced_eq haccepted, ← hlength]
        exact hpartial

/-- However the network cuts a stream for the one and for the other, the debug receiver
prints the messages that the receiver on Windows decodes, and where that finds nothing
wrong it prints no others and ends with the stream. -/
theorem debug_receiver_agrees {source : Arriving UInt8} {segments : List (Bytes × Popping)}
    (hsame : (segments.map Prod.fst).flatten = source.stream)
    (hlimit : (feed {} segments).error ≠ some .streamBufferLimit) :
    let fed := feed {} segments
    fed.decoded.map (messageShown round5) <+: (debugReceiverMain round5 source).1 ∧
      (fed.error = none → debugReceiverMain round5 source =
        (fed.decoded.map (messageShown round5),
          if fed.decoder.buffer.length < headerSize then .disconnected else .insidePayload)) := by
  intro fed
  obtain ⟨hdecoded, herror, hrest⟩ := feed_parses {} segments mtp1Framing_nil hlimit
  obtain ⟨hfirst, hall⟩ := Framing.parse_lenient (F := mtp1Framing) (G := framing round5)
    (messageShown round5) (verdict_complete round5) (verdict_incomplete round5) source.stream
  rw [List.nil_append, hsame, referenceParse] at hdecoded herror hrest
  rw [debugReceiverMain_eq_parse, show fed.decoded = _ from hdecoded]
  refine ⟨by simpa using hfirst, fun hnone => ?_⟩
  rw [hall (herror.symm.trans hnone), endingOf, hrest hnone]
  rfl

end Main

def brokenStream : Bytes :=
  let hello := (tpEncodeMessage tpMessageHello { sequence := 1 } tpMaxMessageSize).2
  let touch : TPContact := { identifier := 7, state := 4, flags := 7, x := 0x3f000000 }
  let frame := (tpEncodeMessage tpMessageFrame
    { sequence := 2, contactCount := 1, contacts := fun _ => touch } tpMaxMessageSize).2
  hello ++ frame ++ frame.take 40

def brokenArriving : Arriving UInt8 where
  segments := [brokenStream.take 7, brokenStream.drop 7]
  filled := by decide +kernel

theorem debug_receiver_agrees_broken_stream :
    let printed := debugReceiverMain (fun float => float) brokenArriving
    printed.1.map (fun shown => shown.contacts.map ContactShown.id) = [[], [7]] ∧
      printed.2 = .insidePayload := by
  intro printed
  have hsame : (([(brokenStream.take 60, .all), (brokenStream.drop 60, .all)] :
      List (Bytes × Popping)).map Prod.fst).flatten = brokenArriving.stream := by decide +kernel
  obtain ⟨-, hall⟩ := debug_receiver_agrees (fun float => float) hsame (by decide +kernel)
  have hprinted := hall (by decide +kernel)
  rw [show printed = _ from hprinted]
  exact ⟨by decide +kernel, by decide +kernel⟩

end Touchpad.Tools
