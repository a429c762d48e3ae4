import Touchpad.Foundation.Framing
import Touchpad.Receiver.Mtp1

/-!
# The stream decoder

`StreamDecoder` of `windows/receiver/Mtp1.cpp`: octets are appended as they are
received, complete messages are decoded into a queue, and the receive loop pops
them.  A call that throws keeps what it did to the object so far, so every
operation returns the decoder next to its outcome.
-/

namespace Touchpad.Receiver

open Touchpad.Foundation

structure StreamDecoder where
  buffer : Bytes := []
  messages : List Message := []
  deriving DecidableEq, Repr

namespace StreamDecoder

/-- The loop of `ParseAvailable`; every iteration that goes on shortens the
buffer, so its length is fuel enough. -/
def parseLoop : Nat → StreamDecoder → Option ProtocolError × StreamDecoder
  | 0, decoder => (none, decoder)
  | fuel + 1, decoder =>
      if decoder.buffer.length < kHeaderSize then (none, decoder)
      else
        match validateHeader (decoder.buffer.take kHeaderSize) with
        | .error error => (some error, decoder)
        | .ok length =>
            if decoder.buffer.length < length then (none, decoder)
            else
              match decodeMessage (decoder.buffer.take length) with
              | .error error => (some error, decoder)
              | .ok message =>
                  parseLoop fuel {
                    buffer := decoder.buffer.drop length
                    messages := decoder.messages ++ [message] }

def parseAvailable (decoder : StreamDecoder) : Option ProtocolError × StreamDecoder :=
  parseLoop decoder.buffer.length decoder

def append (decoder : StreamDecoder) (bytes : Bytes) :
    Option ProtocolError × StreamDecoder :=
  if kMaxMessageSize * 2 < decoder.buffer.length + bytes.length then
    (some .streamBufferLimit, decoder)
  else parseAvailable { decoder with buffer := decoder.buffer ++ bytes }

/-- `none` is the `logic_error` thrown on an empty queue. -/
def popMessage (decoder : StreamDecoder) : Option (Message × StreamDecoder) :=
  match decoder.messages with
  | [] => none
  | message :: messages => some (message, { decoder with messages })

def popUpTo : Nat → StreamDecoder → List Message × StreamDecoder
  | 0, decoder => ([], decoder)
  | count + 1, decoder =>
      match decoder.popMessage with
      | none => ([], decoder)
      | some (message, decoder) =>
          let (messages, decoder) := popUpTo count decoder
          (message :: messages, decoder)

def popAll (decoder : StreamDecoder) : List Message × StreamDecoder :=
  popUpTo decoder.messages.length decoder

theorem popUpTo_eq (count : Nat) (decoder : StreamDecoder) :
    popUpTo count decoder =
      (decoder.messages.take count,
        { decoder with messages := decoder.messages.drop count }) := by
  induction count generalizing decoder with
  | zero => simp [popUpTo]
  | succ count ih =>
      obtain ⟨buffer, messages⟩ := decoder
      cases messages with
      | nil => simp [popUpTo, popMessage]
      | cons message messages => simp [popUpTo, popMessage, ih]

theorem popAll_eq (decoder : StreamDecoder) :
    popAll decoder = (decoder.messages, { decoder with messages := [] }) := by
  simp [popAll, popUpTo_eq]

end StreamDecoder

/-! ## MTP1 as a framing -/

def mtp1Verdict (buffer : Bytes) : Verdict Message ProtocolError :=
  if buffer.length < kHeaderSize then .incomplete
  else
    match validateHeader (buffer.take kHeaderSize) with
    | .error error => .rejected error
    | .ok length =>
        if buffer.length < length then .incomplete
        else
          match decodeMessage (buffer.take length) with
          | .error error => .rejected error
          | .ok message => .complete message length

theorem validateHeader_bounds {header : Bytes} {length : Nat}
    (h : validateHeader header = .ok length) :
    kHeaderSize ≤ length ∧ length ≤ kMaxMessageSize := by
  obtain ⟨rfl, type, hvalid⟩ := validateHeader_eq_ok_iff.mp h
  have hcount := hvalid.count
  simp only [announcedLength, kMaxMessageSize, kHeaderSize, kContactSize,
    kMaxContacts] at *
  omega

inductive Mtp1Judged (buffer : Bytes) : Verdict Message ProtocolError → Prop
  | badHeader (error) :
      validateHeader (buffer.take kHeaderSize) = .error error →
        Mtp1Judged buffer (.rejected error)
  | partialMessage (length) :
      validateHeader (buffer.take kHeaderSize) = .ok length →
        buffer.length < length → Mtp1Judged buffer .incomplete
  | badMessage (length error) :
      validateHeader (buffer.take kHeaderSize) = .ok length →
        length ≤ buffer.length →
          decodeMessage (buffer.take length) = .error error →
            Mtp1Judged buffer (.rejected error)
  | wholeMessage (length message) :
      validateHeader (buffer.take kHeaderSize) = .ok length →
        length ≤ buffer.length →
          decodeMessage (buffer.take length) = .ok message →
            Mtp1Judged buffer (.complete message length)

theorem mtp1Verdict_judged {buffer : Bytes} (h : kHeaderSize ≤ buffer.length) :
    Mtp1Judged buffer (mtp1Verdict buffer) := by
  unfold mtp1Verdict
  rw [if_neg (not_lt.mpr h)]
  cases hheader : validateHeader (buffer.take kHeaderSize) with
  | error error => exact .badHeader error hheader
  | ok length =>
      dsimp only
      split
      · exact .partialMessage length hheader ‹_›
      · cases hmessage : decodeMessage (buffer.take length) with
        | error error => exact .badMessage length error hheader (not_lt.mp ‹_›) hmessage
        | ok message => exact .wholeMessage length message hheader (not_lt.mp ‹_›) hmessage

theorem mtp1Verdict_short {buffer : Bytes} (h : buffer.length < kHeaderSize) :
    mtp1Verdict buffer = .incomplete := by
  rw [mtp1Verdict, if_pos h]

theorem mtp1Verdict_cases (buffer : Bytes) :
    (buffer.length < kHeaderSize ∧ mtp1Verdict buffer = .incomplete) ∨
      (kHeaderSize ≤ buffer.length ∧ Mtp1Judged buffer (mtp1Verdict buffer)) := by
  rcases Nat.lt_or_ge buffer.length kHeaderSize with h | h
  · exact .inl ⟨h, mtp1Verdict_short h⟩
  · exact .inr ⟨h, mtp1Verdict_judged h⟩

theorem mtp1_incomplete_length {buffer : Bytes} (h : mtp1Verdict buffer = .incomplete) :
    buffer.length < kMaxMessageSize := by
  rcases mtp1Verdict_cases buffer with ⟨hshort, -⟩ | ⟨-, hjudged⟩
  · exact hshort.trans (by decide)
  · rw [h] at hjudged
    cases hjudged with
    | partialMessage length hheader hpartial =>
        exact hpartial.trans_le (validateHeader_bounds hheader).2

private theorem mtp1_complete_length {buffer : Bytes} {message : Message}
    {length : Nat} (h : mtp1Verdict buffer = .complete message length) :
    0 < length ∧ length ≤ buffer.length := by
  rcases mtp1Verdict_cases buffer with ⟨-, hverdict⟩ | ⟨-, hjudged⟩
  · rw [h] at hverdict
    cases hverdict
  · rw [h] at hjudged
    cases hjudged with
    | wholeMessage _ _ hheader hfits _ =>
        have := (validateHeader_bounds hheader).1
        simp only [kHeaderSize] at this
        exact ⟨by omega, hfits⟩

private theorem mtp1_complete_append {buffer : Bytes} {message : Message}
    {length : Nat} (more : Bytes) (h : mtp1Verdict buffer = .complete message length) :
    mtp1Verdict (buffer ++ more) = .complete message length := by
  rcases mtp1Verdict_cases buffer with ⟨-, hverdict⟩ | ⟨hlong, hjudged⟩
  · rw [h] at hverdict
    cases hverdict
  · rw [h] at hjudged
    cases hjudged with
    | wholeMessage _ _ hheader hfits hmessage =>
        have hshort : ¬ (buffer ++ more).length < kHeaderSize := by
          rw [List.length_append]; omega
        have hpartial : ¬ (buffer ++ more).length < length := by
          rw [List.length_append]; omega
        simp only [mtp1Verdict, hshort, if_false, List.take_append_of_le_length hlong,
          hheader, hpartial, List.take_append_of_le_length hfits, hmessage]

private theorem mtp1_rejected_append {buffer : Bytes} {error : ProtocolError}
    (more : Bytes) (h : mtp1Verdict buffer = .rejected error) :
    mtp1Verdict (buffer ++ more) = .rejected error := by
  rcases mtp1Verdict_cases buffer with ⟨-, hverdict⟩ | ⟨hlong, hjudged⟩
  · rw [h] at hverdict
    cases hverdict
  · have hshort : ¬ (buffer ++ more).length < kHeaderSize := by
      rw [List.length_append]; omega
    rw [h] at hjudged
    cases hjudged with
    | badHeader _ hheader =>
        simp only [mtp1Verdict, hshort, if_false, List.take_append_of_le_length hlong,
          hheader]
    | badMessage length _ hheader hfits hmessage =>
        have hpartial : ¬ (buffer ++ more).length < length := by
          rw [List.length_append]; omega
        simp only [mtp1Verdict, hshort, if_false, List.take_append_of_le_length hlong,
          hheader, hpartial, List.take_append_of_le_length hfits, hmessage]

def mtp1Framing : Framing UInt8 Message ProtocolError where
  verdict := mtp1Verdict
  complete_length := mtp1_complete_length
  complete_append := mtp1_complete_append
  rejected_append := mtp1_rejected_append

theorem mtp1Framing_nil : mtp1Framing.verdict [] = .incomplete := by
  change mtp1Verdict [] = .incomplete
  exact mtp1Verdict_short (by decide)

theorem mtp1_parse_decoded (buffer : Bytes) :
    ∀ message ∈ (mtp1Framing.parse buffer).messages,
      ∃ encoded, decodeMessage encoded = .ok message := by
  refine Framing.parse_messages (F := mtp1Framing)
    (fun message => ∃ encoded, decodeMessage encoded = .ok message) ?_ buffer
  intro buffer message length hverdict
  rcases mtp1Verdict_cases buffer with ⟨-, hshort⟩ | ⟨-, hjudged⟩
  · cases hshort.symm.trans hverdict
  · rw [show mtp1Verdict buffer = .complete message length from hverdict] at hjudged
    cases hjudged with
    | wholeMessage _ _ _ _ hdecoded => exact ⟨_, hdecoded⟩

/-- A byte string that `DecodeMessage` accepts is one whole message. -/
theorem encodes_of_decodeMessage {bytes : Bytes} {message : Message}
    (h : decodeMessage bytes = .ok message) : mtp1Framing.Encodes bytes message := by
  obtain ⟨hlength, hexact, -, -, type, hvalid, -⟩ := decodeMessage_eq_ok_iff.mp h
  have hheader : validateHeader (bytes.take kHeaderSize) = .ok bytes.length := by
    refine validateHeader_eq_ok_iff.mpr ⟨?_, type, (headerAccepted_take le_rfl).mpr hvalid⟩
    have hcount : readU16 (bytes.take kHeaderSize) 16 = readU16 bytes 16 :=
      read16_take (by decide)
    rw [announcedLength, hcount]
    exact hexact
  change mtp1Verdict bytes = _
  simp only [mtp1Verdict, not_lt.mpr hlength, if_false, hheader, lt_irrefl,
    List.take_length, h]

/-! ## `Append` parses -/

namespace StreamDecoder

theorem parseLoop_eq {fuel : Nat} (decoder : StreamDecoder)
    (hfuel : decoder.buffer.length ≤ fuel) :
    parseLoop fuel decoder =
      ((mtp1Framing.parse decoder.buffer).error,
        { buffer := (mtp1Framing.parse decoder.buffer).rest
          messages := decoder.messages ++ (mtp1Framing.parse decoder.buffer).messages }) := by
  induction fuel generalizing decoder with
  | zero =>
      have hverdict : mtp1Framing.verdict decoder.buffer = .incomplete :=
        mtp1Verdict_short (by simp only [kHeaderSize]; omega)
      simp [parseLoop, Framing.parse_incomplete hverdict]
  | succ fuel ih =>
      rw [parseLoop]
      rcases mtp1Verdict_cases decoder.buffer with ⟨hshort, hverdict⟩ | ⟨hlong, hjudged⟩
      · rw [if_pos hshort, Framing.parse_incomplete (F := mtp1Framing) hverdict]
        simp
      · rw [if_neg (not_lt.mpr hlong)]
        cases hverdict : mtp1Verdict decoder.buffer with
        | incomplete =>
            rw [Framing.parse_incomplete (F := mtp1Framing) hverdict]
            rw [hverdict] at hjudged
            cases hjudged with
            | partialMessage _ hheader hpartial => simp [hheader, hpartial]
        | rejected error =>
            rw [Framing.parse_rejected (F := mtp1Framing) hverdict]
            rw [hverdict] at hjudged
            cases hjudged with
            | badHeader _ hheader => simp [hheader]
            | badMessage _ _ hheader hfits hmessage =>
                simp [hheader, not_lt.mpr hfits, hmessage]
        | complete message length =>
            have hpos := mtp1_complete_length hverdict
            rw [Framing.parse_complete (F := mtp1Framing) hverdict]
            rw [hverdict] at hjudged
            cases hjudged with
            | wholeMessage _ _ hheader hfits hmessage =>
                simp only [hheader, not_lt.mpr hfits, if_false, hmessage]
                rw [ih _ (by simp only [List.length_drop]; omega)]
                simp

theorem append_eq_limit {decoder : StreamDecoder} {bytes : Bytes}
    (h : kMaxMessageSize * 2 < decoder.buffer.length + bytes.length) :
    decoder.append bytes = (some .streamBufferLimit, decoder) := by
  rw [append, if_pos h]

theorem append_eq_parse {decoder : StreamDecoder} {bytes : Bytes}
    (h : decoder.buffer.length + bytes.length ≤ kMaxMessageSize * 2) :
    decoder.append bytes =
      ((mtp1Framing.parse (decoder.buffer ++ bytes)).error,
        { buffer := (mtp1Framing.parse (decoder.buffer ++ bytes)).rest
          messages := decoder.messages ++
            (mtp1Framing.parse (decoder.buffer ++ bytes)).messages }) := by
  rw [append, if_neg (not_lt.mpr h), parseAvailable, parseLoop_eq _ le_rfl]

theorem append_decoded (decoder : StreamDecoder) (bytes : Bytes) :
    ∀ message ∈ (decoder.append bytes).2.messages,
      message ∈ decoder.messages ∨ ∃ encoded, decodeMessage encoded = .ok message := by
  intro message hmessage
  by_cases hlimit : decoder.buffer.length + bytes.length ≤ kMaxMessageSize * 2
  · rw [append_eq_parse hlimit] at hmessage
    rcases List.mem_append.mp hmessage with hmessage | hmessage
    · exact .inl hmessage
    · exact .inr (mtp1_parse_decoded _ message hmessage)
  · rw [append_eq_limit (not_le.mp hlimit)] at hmessage
    exact .inl hmessage

end StreamDecoder

end Touchpad.Receiver
