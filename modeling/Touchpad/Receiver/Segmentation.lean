import Touchpad.Protocol.TouchFrame
import Touchpad.Receiver.StreamDecoder

/-!
# Segmentation of the byte stream

The network cuts the stream into segments at will.  Feeding the segments to a
`StreamDecoder` is compared with parsing the whole byte string at once, and the
buffer limit of `Append` is turned into a condition on the segments.
-/

namespace Touchpad.Receiver

open Touchpad.Foundation

inductive Popping where
  | upTo (count : Nat)
  | all
  deriving DecidableEq, Repr

def Popping.run : Popping → StreamDecoder → List Message × StreamDecoder
  | .upTo count, decoder => decoder.popUpTo count
  | .all, decoder => decoder.popAll

/-- The messages popped, the error that ended the run if any, and the decoder
as it was left. -/
structure Fed where
  popped : List Message
  error : Option ProtocolError
  decoder : StreamDecoder
  deriving DecidableEq, Repr

def feed (decoder : StreamDecoder) : List (Bytes × Popping) → Fed
  | [] => ⟨[], none, decoder⟩
  | (bytes, popping) :: segments =>
      match decoder.append bytes with
      | (some error, decoder) => ⟨[], some error, decoder⟩
      | (none, decoder) =>
          let (popped, decoder) := popping.run decoder
          let later := feed decoder segments
          { later with popped := popped ++ later.popped }

def Fed.decoded (fed : Fed) : List Message := fed.popped ++ fed.decoder.messages

theorem Popping.run_spec (popping : Popping) (decoder : StreamDecoder) :
    (popping.run decoder).2.buffer = decoder.buffer ∧
      (popping.run decoder).1 ++ (popping.run decoder).2.messages = decoder.messages := by
  cases popping with
  | upTo count => simp [run, StreamDecoder.popUpTo_eq]
  | all => simp [run, StreamDecoder.popAll_eq]

theorem feed_append_error {decoder left : StreamDecoder} {bytes : Bytes}
    {popping : Popping} {segments : List (Bytes × Popping)} {error : ProtocolError}
    (h : decoder.append bytes = (some error, left)) :
    feed decoder ((bytes, popping) :: segments) = ⟨[], some error, left⟩ := by
  simp only [feed, h]

theorem feed_append_ok {decoder left : StreamDecoder} {bytes : Bytes}
    {popping : Popping} {segments : List (Bytes × Popping)}
    (h : decoder.append bytes = (none, left)) :
    feed decoder ((bytes, popping) :: segments) =
      { feed (popping.run left).2 segments with
        popped := (popping.run left).1 ++ (feed (popping.run left).2 segments).popped } := by
  simp only [feed, h]

/-! ## The reference parse -/

/-- Parse a whole byte string: while a header is there, stop with its error if
it is invalid, stop if the message is incomplete, otherwise decode the message
(stopping with its error) and drop its octets. -/
def referenceParse (bytes : Bytes) : Parsed UInt8 Message ProtocolError :=
  mtp1Framing.parse bytes

theorem feed_parses (decoder : StreamDecoder) (segments : List (Bytes × Popping))
    (hbuffer : mtp1Verdict decoder.buffer = .incomplete)
    (hlimit : (feed decoder segments).error ≠ some .streamBufferLimit) :
    let parsed := referenceParse (decoder.buffer ++ (segments.map Prod.fst).flatten)
    (feed decoder segments).decoded = decoder.messages ++ parsed.messages ∧
      (feed decoder segments).error = parsed.error ∧
      ((feed decoder segments).error = none →
        (feed decoder segments).decoder.buffer = parsed.rest) := by
  induction segments generalizing decoder with
  | nil =>
      simp [referenceParse, feed, Fed.decoded,
        Framing.parse_incomplete (F := mtp1Framing) hbuffer]
  | cons segment segments ih =>
      obtain ⟨bytes, popping⟩ := segment
      have hfits : decoder.buffer.length + bytes.length ≤ kMaxMessageSize * 2 := by
        by_contra hexceeds
        rw [feed_append_error (StreamDecoder.append_eq_limit (not_le.mp hexceeds))] at hlimit
        exact hlimit rfl
      have happend := StreamDecoder.append_eq_parse hfits
      have hwhole : referenceParse
          (decoder.buffer ++ (((bytes, popping) :: segments).map Prod.fst).flatten) =
          mtp1Framing.parse
            ((decoder.buffer ++ bytes) ++ (segments.map Prod.fst).flatten) := by
        simp [referenceParse]
      intro parsed
      change parsed = _ at hwhole
      rw [hwhole]
      have hrest := Framing.verdict_rest (F := mtp1Framing) (decoder.buffer ++ bytes)
      have hok := Framing.parse_append_of_ok (F := mtp1Framing) (decoder.buffer ++ bytes)
        (segments.map Prod.fst).flatten
      have hstop := Framing.parse_append_of_error (F := mtp1Framing) (decoder.buffer ++ bytes)
        (segments.map Prod.fst).flatten
      generalize mtp1Framing.parse (decoder.buffer ++ bytes) = front at happend hrest hok hstop
      obtain ⟨messages, error, rest⟩ := front
      cases error with
      | some error =>
          obtain ⟨hmessages, herror⟩ := hstop error rfl
          rw [feed_append_error happend, hmessages, herror]
          exact ⟨rfl, rfl, nofun⟩
      | none =>
          obtain ⟨hkept, hqueue⟩ := popping.run_spec ⟨rest, decoder.messages ++ messages⟩
          rw [feed_append_ok happend] at hlimit ⊢
          obtain ⟨hdecoded, herror, hbuffer⟩ := ih _ (by rw [hkept]; exact hrest rfl) hlimit
          rw [hkept] at hdecoded herror hbuffer
          rw [hok rfl]
          refine ⟨?_, herror, hbuffer⟩
          simp only [Fed.decoded, List.append_assoc] at hdecoded ⊢
          rw [hdecoded, ← List.append_assoc, hqueue, List.append_assoc]
          rfl

theorem mtp1_incomplete_take {buffer : Bytes} (h : mtp1Verdict buffer = .incomplete)
    (count : Nat) (message : Message) : decodeMessage (buffer.take count) ≠ .ok message := by
  intro hmessage
  have hencodes := encodes_of_decodeMessage hmessage
  have hall := mtp1Framing.complete_append (buffer.drop count) hencodes
  rw [List.take_append_drop] at hall
  cases hall.symm.trans h

/-- Segmentation does not matter: as long as no call of `Append` trips the buffer
limit, the messages and the error are those of the reference parse, and without
an error the buffer is the unparsed tail. -/
theorem segmentation_irrelevant (segments : List (Bytes × Popping))
    (hlimit : (feed {} segments).error ≠ some .streamBufferLimit) :
    let fed := feed {} segments
    let stream := (segments.map Prod.fst).flatten
    fed.decoded = (referenceParse stream).messages ∧
      fed.error = (referenceParse stream).error ∧
      (fed.error = none →
        fed.decoder.buffer = (referenceParse stream).rest ∧
        fed.decoder.buffer <:+ stream ∧
        fed.decoder.buffer.length < kMaxMessageSize ∧
        ∀ count message, decodeMessage (fed.decoder.buffer.take count) ≠ .ok message) := by
  intro fed stream
  obtain ⟨hdecoded, herror, hbuffer⟩ :=
    feed_parses {} segments (mtp1Verdict_short (by decide)) hlimit
  refine ⟨hdecoded, herror, fun hok => ?_⟩
  have hrest : fed.decoder.buffer = (referenceParse stream).rest := hbuffer hok
  have hincomplete : mtp1Verdict (referenceParse stream).rest = .incomplete :=
    Framing.verdict_rest (F := mtp1Framing) stream (herror.symm.trans hok)
  rw [hrest]
  exact ⟨rfl, Framing.rest_suffix (F := mtp1Framing) stream,
    mtp1_incomplete_length hincomplete, mtp1_incomplete_take hincomplete⟩

/-! ## The buffer limit -/

/-- Before every segment, the octets of a message that is not complete yet
together with the segment stay within the limit of `Append`.  The arguments are
the lengths of the messages, the octets delivered so far and the lengths of the
segments. -/
def FitsBuffer (lengths : List Nat) : Nat → List Nat → Prop
  | _, [] => True
  | delivered, size :: sizes =>
      Framing.pendingLength lengths delivered + size ≤ kMaxMessageSize * 2 ∧
        FitsBuffer lengths (delivered + size) sizes

instance (lengths : List Nat) :
    ∀ delivered sizes, Decidable (FitsBuffer lengths delivered sizes)
  | _, [] => .isTrue trivial
  | delivered, size :: sizes =>
      @instDecidableAnd _ _ _ (instDecidableFitsBuffer lengths (delivered + size) sizes)

def receiveAll (segments : List Bytes) : Fed :=
  feed {} (segments.map fun bytes => (bytes, .all))

private theorem feed_limit_iff {stream : List (Bytes × Message)}
    (hstream : ∀ item ∈ stream, decodeMessage item.1 = .ok item.2)
    (segments : List Bytes) (before : Bytes) (decoder : StreamDecoder)
    (hwhole : before ++ segments.flatten = (stream.map Prod.fst).flatten)
    (hbuffer : decoder.buffer = (mtp1Framing.parse before).rest) :
    (feed decoder (segments.map fun bytes => (bytes, .all))).error ≠
        some .streamBufferLimit ↔
      FitsBuffer (stream.map fun item => item.1.length) before.length
        (segments.map List.length) := by
  have hencodes : ∀ item ∈ stream, mtp1Framing.Encodes item.1 item.2 :=
    fun item hitem => encodes_of_decodeMessage (hstream item hitem)
  have hfront : ∀ front back : Bytes, front ++ back = (stream.map Prod.fst).flatten →
      (mtp1Framing.parse front).error = none ∧
        (mtp1Framing.parse front).rest.length =
          Framing.pendingLength (stream.map fun item => item.1.length) front.length := by
    intro front back hsplit
    have hparse := Framing.parse_take_stream mtp1Framing_nil hencodes front.length
      (by rw [← hsplit, List.length_append]; omega)
    rwa [← hsplit, List.take_left] at hparse
  induction segments generalizing before decoder with
  | nil => simp [feed, FitsBuffer]
  | cons bytes segments ih =>
      obtain ⟨hok, hpending⟩ := hfront before _ hwhole
      have hnext : (before ++ bytes) ++ segments.flatten = (stream.map Prod.fst).flatten := by
        rw [← hwhole, List.flatten_cons, List.append_assoc]
      simp only [List.map_cons, FitsBuffer, ← hpending, ← hbuffer]
      by_cases hfits : decoder.buffer.length + bytes.length ≤ kMaxMessageSize * 2
      · have happend := StreamDecoder.append_eq_parse hfits
        have hparse := Framing.parse_append_of_ok (F := mtp1Framing) before bytes hok
        rw [← hbuffer] at hparse
        have hrest : (mtp1Framing.parse (decoder.buffer ++ bytes)).rest =
            (mtp1Framing.parse (before ++ bytes)).rest := by rw [hparse]
        have herror : (mtp1Framing.parse (decoder.buffer ++ bytes)).error = none := by
          have := (hfront _ _ hnext).1
          rwa [hparse] at this
        rw [herror] at happend
        rw [feed_append_ok happend]
        have hlater := ih (before ++ bytes) (Popping.run .all
            ⟨(mtp1Framing.parse (decoder.buffer ++ bytes)).rest, decoder.messages ++
              (mtp1Framing.parse (decoder.buffer ++ bytes)).messages⟩).2 hnext
          ((Popping.run_spec .all _).1.trans hrest)
        rw [List.length_append] at hlater
        simpa [hfits] using hlater
      · rw [feed_append_error (StreamDecoder.append_eq_limit (not_le.mp hfits))]
        simp [hfits]

theorem feed_all_queue (decoder : StreamDecoder) (segments : List Bytes)
    (hqueue : decoder.messages = [])
    (hok : (feed decoder (segments.map fun bytes => (bytes, .all))).error = none) :
    (feed decoder (segments.map fun bytes => (bytes, .all))).decoder.messages = [] := by
  induction segments generalizing decoder with
  | nil => exact hqueue
  | cons bytes segments ih =>
      rw [List.map_cons] at hok ⊢
      cases happend : decoder.append bytes with
      | mk error left =>
          cases error with
          | some error =>
              rw [feed_append_error happend] at hok
              cases hok
          | none =>
              rw [feed_append_ok happend] at hok ⊢
              exact ih _ (by simp [Popping.run, StreamDecoder.popAll_eq]) hok

/-- A stream of acceptable messages is received without an error and in full
exactly when its segments fit the buffer. -/
theorem receiveAll_delivers_iff (stream : List (Bytes × Message))
    (segments : List Bytes)
    (hstream : ∀ item ∈ stream, decodeMessage item.1 = .ok item.2)
    (hwhole : segments.flatten = (stream.map Prod.fst).flatten) :
    ((receiveAll segments).error = none ∧
        (receiveAll segments).popped = stream.map Prod.snd) ↔
      FitsBuffer (stream.map fun item => item.1.length) 0 (segments.map List.length) := by
  have hempty : mtp1Framing.parse [] = ⟨[], none, []⟩ :=
    Framing.parse_incomplete mtp1Framing_nil
  have hlimit := feed_limit_iff hstream segments [] {} hwhole (by rw [hempty])
  rw [List.length_nil] at hlimit
  rw [← hlimit]
  constructor
  · rintro ⟨hok, -⟩ hexceeds
    rw [receiveAll, hexceeds] at hok
    cases hok
  · intro hfits
    obtain ⟨hdecoded, herror, -⟩ := segmentation_irrelevant _ hfits
    have hencodes : ∀ item ∈ stream, mtp1Framing.Encodes item.1 item.2 :=
      fun item hitem => encodes_of_decodeMessage (hstream item hitem)
    have hparse := Framing.parse_stream mtp1Framing_nil hencodes
    have hflatten : ((segments.map fun bytes => (bytes, Popping.all)).map Prod.fst).flatten =
        (stream.map Prod.fst).flatten := by
      rw [← hwhole, List.map_map]
      simp [Function.comp_def]
    rw [hflatten, referenceParse, hparse] at hdecoded herror
    refine ⟨herror, ?_⟩
    have hqueue := feed_all_queue {} segments rfl herror
    rwa [Fed.decoded, hqueue, List.append_nil] at hdecoded

def idleSession (frames : Nat) : List (Bytes × Message) :=
  (List.range (frames + 2)).map fun i =>
    let type : MessageType := if i = 0 then .hello else if i = 1 then .reset else .frame
    let frame : Protocol.TPFrame := { sequence := UInt32.ofNat i }
    ((Protocol.tpEncodeMessage type.code.toUInt32 frame 476).2,
      { type, sequence := UInt32.ofNat i })

theorem receiveAll_delivers_iff_split_session :
    let bytes := ((idleSession 1).map Prod.fst).flatten
    let segments := [bytes.take 10, bytes.drop 10]
    (receiveAll segments).error = none ∧
      (receiveAll segments).popped = (idleSession 1).map Prod.snd :=
  (receiveAll_delivers_iff (idleSession 1)
    [((idleSession 1).map Prod.fst).flatten.take 10,
      ((idleSession 1).map Prod.fst).flatten.drop 10]
    (by decide +kernel) (by decide +kernel)).mpr (by decide +kernel)

/-- The same session with 25 frames is 972 octets; received at once, which the
4096-octet receive buffer allows, it is rejected. -/
theorem coalesced_session_rejected :
    let bytes := ((idleSession 25).map Prod.fst).flatten
    (∀ item ∈ idleSession 25, decodeMessage item.1 = .ok item.2) ∧
      (1 ≤ bytes.length ∧ bytes.length ≤ 4096) ∧
      ¬ ((receiveAll [bytes]).error = none ∧
        (receiveAll [bytes]).popped = (idleSession 25).map Prod.snd) ∧
      (receiveAll [bytes]).error = some .streamBufferLimit := by
  decide +kernel

theorem segmentation_irrelevant_split_session :
    let bytes := ((idleSession 1).map Prod.fst).flatten
    (feed {} [(bytes.take 40, .upTo 0), (bytes.drop 40, .upTo 1)]).decoded =
      (referenceParse bytes).messages := by
  have hsegments := segmentation_irrelevant
    [(((idleSession 1).map Prod.fst).flatten.take 40, .upTo 0),
      (((idleSession 1).map Prod.fst).flatten.drop 40, .upTo 1)] (by decide +kernel)
  exact hsegments.1

end Touchpad.Receiver
