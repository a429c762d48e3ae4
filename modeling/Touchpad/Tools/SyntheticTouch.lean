import Touchpad.Link.KeptAgents

/-!
# The synthetic gesture

`message` and the sends of `main` in `windows/tools/synthetic_touch.py`, a second
sender of the protocol that does not share code with the agent.  Clock readings and the
results of floating-point arithmetic are parameters; `struct.pack` raises where a number
does not fit its field.
-/

namespace Touchpad.Tools.SyntheticTouch

open Touchpad.Foundation
open Touchpad.Protocol
open Touchpad.Agent
open Touchpad.Receiver
open Touchpad.Link
open Touchpad.Shared
open Touchpad.Driver

/-! ## Messages -/

structure Touch where
  identifier : UInt32
  x : Binary32
  y : Binary32
  velocityX : Binary32
  velocityY : Binary32

def packContact (touch : Touch) : Bytes :=
  write32 touch.identifier ++ [4, 0x07] ++ write16 0 ++
    write32 touch.x ++ write32 touch.y ++
    write32 touch.velocityX ++ write32 touch.velocityY ++
    write32 0x3da3d70a ++ write32 0 ++ write32 0x3da3d70a ++ write32 0x3d75c28f ++
    write32 0x3f800000

/-- `message`; `none` where `HEADER.pack` raises. -/
def message (messageType : UInt16) (sequence : Nat) (contacts : List Touch) (button : Bool)
    (nowUs : UInt64) : Option Bytes :=
  let payload := contacts.flatMap packContact
  if payload.length < 2 ^ 32 ∧ sequence < 2 ^ 32 ∧ contacts.length < 2 ^ 16 then
    some ([0x4d, 0x54, 0x50, 0x31] ++ write16 1 ++ write16 messageType ++
      write32 (UInt32.ofNat payload.length) ++ write32 (UInt32.ofNat sequence) ++
      write16 (UInt16.ofNat contacts.length) ++
      write16 (if button ∧ messageType = 2 then 1 else 0) ++ write64 nowUs ++ write64 nowUs ++
      payload)
  else none

/-! ## The gesture -/

structure Tick where
  x : Binary32
  velocityX : Binary32
  button : Bool
  nowUs : UInt64

def Tick.touch (tick : Tick) : Touch where
  identifier := 1
  x := tick.x
  y := 0x3f000000
  velocityX := tick.velocityX
  velocityY := 0

def sendTicks (endUs : UInt64) : Nat → List Tick → List (Option Bytes)
  | sequence, [] => [message 2 sequence [] false endUs]
  | sequence, tick :: ticks =>
      message 2 sequence [tick.touch] tick.button tick.nowUs ::
        sendTicks endUs (sequence + 1) ticks

def gesture (helloUs resetUs endUs : UInt64) (ticks : List Tick) : List (Option Bytes) :=
  message 1 1 [] false helloUs :: message 3 2 [] false resetUs :: sendTicks endUs 3 ticks

def sent : List (Option Bytes) → List Bytes
  | some bytes :: messages => bytes :: sent messages
  | _ => []

/-! ## The same messages in the reference encoding -/

def Touch.contact (touch : Touch) : TPContact where
  identifier := touch.identifier
  state := 4
  flags := 0x07
  x := touch.x
  y := touch.y
  velocityX := touch.velocityX
  velocityY := touch.velocityY
  size := 0x3da3d70a
  majorAxis := 0x3da3d70a
  minorAxis := 0x3d75c28f
  density := 0x3f800000

def frameOf (sequence : Nat) (touch : Option Touch) (button : Bool) (nowUs : UInt64) :
    TPFrame where
  sequence := UInt32.ofNat sequence
  captureTimeUs := nowUs
  deviceTimeUs := nowUs
  flags := if button then tpFrameButton else 0
  contactCount := if touch.isSome then 1 else 0
  contacts := fun _ => (touch.map Touch.contact).getD {}

def frame (sequence : Nat) (touch : Option Touch) (button : Bool) (nowUs : UInt64) : Drawn :=
  ⟨tpMessageFrame, frameOf sequence touch button nowUs⟩

def ticksDrawn (endUs : UInt64) : Nat → List Tick → List Drawn
  | sequence, [] => [frame sequence none false endUs]
  | sequence, tick :: ticks =>
      frame sequence (some tick.touch) tick.button tick.nowUs ::
        ticksDrawn endUs (sequence + 1) ticks

def gestureDrawn (helloUs resetUs endUs : UInt64) (ticks : List Tick) : List Drawn :=
  ⟨tpMessageHello, frameOf 1 none false helloUs⟩ ::
    ⟨tpMessageReset, frameOf 2 none false resetUs⟩ :: ticksDrawn endUs 3 ticks

theorem frameOf_encodable (sequence : Nat) (touch : Option Touch) (button : Bool)
    (nowUs : UInt64) : Encodable (frameOf sequence touch button nowUs) := by
  constructor
  · change (if touch.isSome then (1 : UInt16) else 0).toNat ≤ tpMaxContacts
    cases touch with
    | none => decide
    | some touch => exact (by decide : (1 : UInt16).toNat ≤ tpMaxContacts)
  · change (if button then tpFrameButton else 0) &&& ~~~tpFrameButton = 0
    cases button <;> decide

theorem encoded_eq {type : TPMessageType} (htype : KnownType type) (sequence : Nat)
    (touch : Option Touch) (button : Bool) (nowUs : UInt64) :
    (Drawn.mk type (frameOf sequence touch button nowUs)).encoded =
      encodedMessage type (frameOf sequence touch button nowUs) :=
  tpEncodeMessage_written
    (not_rejected_of_encodable htype (frameOf_encodable sequence touch button nowUs))

/-- What the script packs, where it packs something, is what the reference encodes. -/
theorem message_frame (sequence : Nat) (touch : Option Touch) (button : Bool) (nowUs : UInt64) :
    message 2 sequence touch.toList button nowUs =
      if sequence < 2 ^ 32 then some (frame sequence touch button nowUs).encoded else none := by
  have hpacked : (touch.toList.flatMap packContact).length < 2 ^ 32 ∧ sequence < 2 ^ 32 ∧
      touch.toList.length < 2 ^ 16 ↔ sequence < 2 ^ 32 := by
    cases touch <;> simp [packContact]
  rw [frame, encoded_eq (.inr (.inl rfl)), message]
  simp only [hpacked]
  split
  case isTrue => cases touch <;> cases button <;> rfl
  case isFalse => rfl

theorem message_control {type : TPMessageType}
    (htype : type = tpMessageHello ∨ type = tpMessageReset) {sequence : Nat}
    (hsequence : sequence < 2 ^ 32) (nowUs : UInt64) :
    message type.toUInt16 sequence [] false nowUs =
      some (Drawn.mk type (frameOf sequence none false nowUs)).encoded := by
  rw [encoded_eq (htype.imp id .inr), message, if_pos ⟨by decide, hsequence, by decide⟩]
  rcases htype with rfl | rfl <;> rfl

theorem sent_ticks (endUs : UInt64) (sequence : Nat) (ticks : List Tick) :
    sent (sendTicks endUs sequence ticks) <+:
      (ticksDrawn endUs sequence ticks).map Drawn.encoded := by
  induction ticks generalizing sequence with
  | nil =>
      have hlast := message_frame sequence none false endUs
      rw [Option.toList_none] at hlast
      rw [sendTicks, ticksDrawn, hlast]
      split
      · exact List.prefix_rfl
      · exact List.nil_prefix
  | cons tick ticks ih =>
      have hfirst := message_frame sequence (some tick.touch) tick.button tick.nowUs
      rw [Option.toList_some] at hfirst
      rw [sendTicks, ticksDrawn, hfirst]
      split
      · exact (List.prefix_cons_inj _).mpr (ih (sequence + 1))
      · exact List.nil_prefix

theorem sent_gesture (helloUs resetUs endUs : UInt64) (ticks : List Tick) :
    sent (gesture helloUs resetUs endUs ticks) <+:
      (gestureDrawn helloUs resetUs endUs ticks).map Drawn.encoded := by
  have hhello := message_control (.inl rfl) (show 1 < 2 ^ 32 by decide) helloUs
  have hreset := message_control (.inr rfl) (show 2 < 2 ^ 32 by decide) resetUs
  have hmessages : gesture helloUs resetUs endUs ticks =
      some (Drawn.mk tpMessageHello (frameOf 1 none false helloUs)).encoded ::
        some (Drawn.mk tpMessageReset (frameOf 2 none false resetUs)).encoded ::
          sendTicks endUs 3 ticks := by
    rw [← hhello, ← hreset]
    rfl
  rw [hmessages]
  exact (List.prefix_cons_inj _).mpr ((List.prefix_cons_inj _).mpr (sent_ticks endUs 3 ticks))

/-! ## What the receiver makes of them -/

def Tick.Finite (tick : Tick) : Prop :=
  Binary32.isFinite tick.x = true ∧ Binary32.isFinite tick.velocityX = true

theorem frame_clean (sequence : Nat) {touch : Option Touch} (button : Bool) (nowUs : UInt64)
    (hfinite : ∀ tick : Touch, touch = some tick →
      ∀ float ∈ contactFloats tick.contact, Binary32.isFinite float = true) :
    CleanContacts ((frameOf sequence touch button nowUs).carried tpMessageFrame) := by
  obtain ⟨hcount, hcontacts⟩ := carried_frame (frameOf sequence touch button nowUs)
  cases touch with
  | none =>
      refine ⟨?_, ?_, ?_⟩ <;> intro i hi <;> rw [hcount] at hi <;>
        exact absurd hi (Nat.not_lt_zero i)
  | some touch =>
      have hone (i : Nat)
          (hi : i < (frameOf sequence (some touch) button nowUs).contactCount.toNat) : i = 0 :=
        Nat.lt_one_iff.mp hi
      rw [← hcount] at hone hcontacts
      have hat (i : Nat) (hi : i < ((frameOf sequence (some touch) button nowUs).carried
          tpMessageFrame).contactCount.toNat) :
          ((frameOf sequence (some touch) button nowUs).carried tpMessageFrame).contactAt i =
            touch.contact := by
        rw [hcontacts i hi, hone i hi]
        rfl
      refine ⟨fun i hi => ?_, fun i hi => ?_, fun i hi j hj _ => (hone i hi).trans (hone j hj).symm⟩
      · rw [hat i hi]
        exact (by decide : (0x07 : UInt8) &&& ~~~0x07 = 0)
      · rw [hat i hi]
        exact hfinite touch rfl

theorem tick_floats {tick : Tick} (h : tick.Finite) :
    ∀ float ∈ contactFloats tick.touch.contact, Binary32.isFinite float = true := by
  obtain ⟨hx, hvelocity⟩ := h
  have hhalf : Binary32.isFinite 0x3f000000 = true := by decide
  have hzero : Binary32.isFinite 0 = true := by decide
  have hmajor : Binary32.isFinite 0x3da3d70a = true := by decide
  have hminor : Binary32.isFinite 0x3d75c28f = true := by decide
  have hdensity : Binary32.isFinite 0x3f800000 = true := by decide
  intro float hfloat
  simp only [contactFloats, List.mem_cons, List.not_mem_nil, or_false] at hfloat
  rcases hfloat with rfl | rfl | rfl | rfl | rfl | rfl | rfl | rfl | rfl
  exacts [hx, hhalf, hvelocity, hzero, hmajor, hzero, hmajor, hminor, hdensity]

theorem frame_decodes (sequence : Nat) {touch : Option Touch} (button : Bool) (nowUs : UInt64)
    (hfinite : ∀ tick : Touch, touch = some tick →
      ∀ float ∈ contactFloats tick.contact, Binary32.isFinite float = true) :
    Decodes (frame sequence touch button nowUs) := by
  have hwritten := not_rejected_of_encodable (.inr (.inl rfl))
    (frameOf_encodable sequence touch button nowUs)
  rw [Decodes, frame, encoded_eq (.inr (.inl rfl))]
  exact decodeMessage_encoded hwritten (frame_clean sequence button nowUs hfinite)

theorem control_decodes {type : TPMessageType}
    (htype : type = tpMessageHello ∨ type = tpMessageReset) (sequence : Nat) (nowUs : UInt64) :
    Decodes ⟨type, frameOf sequence none false nowUs⟩ := by
  have hknown : KnownType type := htype.imp id .inr
  have hcontrol : type ≠ tpMessageFrame := by
    rcases htype with rfl | rfl <;> decide
  rw [Decodes, encoded_eq hknown]
  exact decodeMessage_encoded (not_rejected_of_encodable hknown (frameOf_encodable _ _ _ _))
    (control_clean hcontrol _)

theorem gesture_decodes (helloUs resetUs endUs : UInt64) {ticks : List Tick}
    (hfinite : ∀ tick ∈ ticks, tick.Finite) :
    ∀ item ∈ gestureDrawn helloUs resetUs endUs ticks, Decodes item := by
  have hticks (sequence : Nat) : ∀ item ∈ ticksDrawn endUs sequence ticks, Decodes item := by
    induction ticks generalizing sequence with
    | nil =>
        exact List.forall_mem_singleton.mpr
          (frame_decodes sequence false endUs fun _ hnone => by cases hnone)
    | cons tick ticks ih =>
        obtain ⟨htick, hticks⟩ := List.forall_mem_cons.mp hfinite
        refine List.forall_mem_cons.mpr ⟨frame_decodes sequence _ _ ?_, ih hticks (sequence + 1)⟩
        rintro _ ⟨⟩
        exact tick_floats htick
  exact List.forall_mem_cons.mpr ⟨control_decodes (.inl rfl) 1 helloUs,
    List.forall_mem_cons.mpr ⟨control_decodes (.inr rfl) 2 resetUs, hticks 3⟩⟩

theorem gesture_greets (helloUs resetUs endUs : UInt64) (ticks : List Tick) :
    Greets ((gestureDrawn helloUs resetUs endUs ticks).map Drawn.type) := by
  have hframes (sequence : Nat) : (ticksDrawn endUs sequence ticks).map Drawn.type =
      List.replicate (ticks.length + 1) tpMessageFrame := by
    induction ticks generalizing sequence with
    | nil => rfl
    | cons tick ticks ih =>
        rw [ticksDrawn, List.map_cons, ih (sequence + 1)]
        rfl
  refine ⟨ticks.length + 1, ?_⟩
  rw [gestureDrawn, List.map_cons, List.map_cons, hframes 3]
  exact List.prefix_rfl

theorem gesture_counts (helloUs resetUs endUs : UInt64) (ticks : List Tick) :
    ((gestureDrawn helloUs resetUs endUs ticks).map fun item => item.frame.sequence).IsChain
      fun sequence next => next = sequence + 1 := by
  have hframes (sequence : Nat) : (UInt32.ofNat sequence ::
      (ticksDrawn endUs (sequence + 1) ticks).map fun item => item.frame.sequence).IsChain
        fun sequence next => next = sequence + 1 := by
    induction ticks generalizing sequence with
    | nil => exact .cons_cons (UInt32.ofNat_add sequence 1) (.singleton _)
    | cons tick ticks ih => exact .cons_cons (UInt32.ofNat_add sequence 1) (ih (sequence + 1))
  exact .cons_cons rfl (hframes 2)

theorem drawnTouching_frame (sequence : Nat) (touch : Option Touch) (button : Bool)
    (nowUs : UInt64) : drawnTouching (frame sequence touch button nowUs) =
      some (touch.toList.map Touch.identifier).toFinset := by
  cases touch with
  | none => rfl
  | some touch =>
      have htip : decide (touch.contact.flags &&& tpContactTip ≠ 0) = true :=
        decide_eq_true (by decide : (0x07 : UInt8) &&& tpContactTip ≠ 0)
      change some (([touch.contact].filter fun contact => contact.flags &&& tpContactTip ≠ 0).map
        TPContact.identifier).toFinset = _
      simp only [List.filter_cons, htip, if_true, List.filter_nil]
      rfl

theorem gesture_touching (helloUs resetUs endUs : UInt64) (ticks : List Tick) :
    ∀ item ∈ gestureDrawn helloUs resetUs endUs ticks, ∀ touching,
      drawnTouching item = some touching → touching ⊆ {1} := by
  have hframes (sequence : Nat) : ∀ item ∈ ticksDrawn endUs sequence ticks, ∀ touching,
      drawnTouching item = some touching → touching ⊆ {1} := by
    induction ticks generalizing sequence with
    | nil =>
        refine List.forall_mem_singleton.mpr fun touching htouching => ?_
        rw [drawnTouching_frame] at htouching
        cases htouching
        exact Finset.empty_subset _
    | cons tick ticks ih =>
        refine List.forall_mem_cons.mpr ⟨fun touching htouching => ?_, ih (sequence + 1)⟩
        rw [drawnTouching_frame] at htouching
        cases htouching
        exact Finset.Subset.refl _
  exact List.forall_mem_cons.mpr ⟨fun _ hnone => (by cases hnone),
    List.forall_mem_cons.mpr ⟨fun _ hnone => (by cases hnone), hframes 3⟩⟩

theorem gesture_room (helloUs resetUs endUs : UInt64) (ticks : List Tick) (count : Nat) :
    RoomFor ∅ (((gestureDrawn helloUs resetUs endUs ticks).take count).map drawnTouching) := by
  refine roomFor_of_subset (by decide : ({1} : Finset UInt32).card ≤ mtpHidMaxContacts)
    (fun touching hmem => ?_) (Finset.empty_subset _)
  obtain ⟨item, hitem, htouching⟩ := List.mem_map.mp hmem
  exact gesture_touching helloUs resetUs endUs ticks item (List.mem_of_mem_take hitem) touching
    htouching

theorem ticksDrawn_last (endUs : UInt64) (sequence : Nat) (ticks : List Tick) :
    (ticksDrawn endUs sequence ticks).getLast? =
      some (frame (sequence + ticks.length) none false endUs) := by
  induction ticks generalizing sequence with
  | nil => rfl
  | cons tick ticks ih =>
      have hlength : sequence + (tick :: ticks).length = sequence + 1 + ticks.length := by
        rw [List.length_cons]
        omega
      rw [ticksDrawn, List.getLast?_cons, ih (sequence + 1), hlength]
      rfl

theorem gestureDrawn_last (helloUs resetUs endUs : UInt64) (ticks : List Tick) :
    (gestureDrawn helloUs resetUs endUs ticks).getLast? =
      some (frame (3 + ticks.length) none false endUs) := by
  rw [gestureDrawn, List.getLast?_cons, List.getLast?_cons, ticksDrawn_last]
  rfl

theorem gestureDrawn_length (helloUs resetUs endUs : UInt64) (ticks : List Tick) :
    (gestureDrawn helloUs resetUs endUs ticks).length = ticks.length + 3 := by
  have hticks (sequence : Nat) : (ticksDrawn endUs sequence ticks).length = ticks.length + 1 := by
    induction ticks generalizing sequence with
    | nil => rfl
    | cons tick ticks ih => rw [ticksDrawn, List.length_cons, ih, List.length_cons]
  rw [gestureDrawn, List.length_cons, List.length_cons, hticks 3]

theorem meant_last {sequence : Nat} {nowUs : UInt64} {message : Message}
    (h : Meant (frame sequence none false nowUs) message) :
    message.type = .frame ∧ message.contacts = [] ∧ message.hasButton = false := by
  have hcontacts : message.contacts.length = 0 := SameMessage.contactCount h
  have hflags : message.flags = 0 := SameMessage.flags h
  refine ⟨(type_of_code (SameMessage.type h)).2.2 rfl, List.length_eq_zero_iff.mp hcontacts, ?_⟩
  rw [Message.hasButton, hflags]
  rfl

/-- The octets of any gesture with finite numbers, cut off anywhere, in any segments that fit
into the buffer and with any timeouts between them, over frameworks that give out every buffer
and take every report: while the connection is open the receiver serves the script, reads the
messages that arrived in full as the script meant them and hands over the frame of every call.  When the last one has arrived, no finger and no button is down. -/
theorem synthetic_gesture_kept {services : Nat → Services}
    (htaken : TakeEveryReport services)
    (submissions : Submissions DriverLog) (helloUs resetUs endUs : UInt64) {ticks : List Tick}
    (hfinite : ∀ tick ∈ ticks, tick.Finite) {outcomes : Outcomes}
    (harrived : outcomes.octets <+: (sent (gesture helloUs resetUs endUs ticks)).flatten)
    (hopened : outcomes.StayOpen) (hroom : outcomes.HaveRoom) :
    let process := Process.run (submitRequest services) ⟨.accepting, submissions⟩
      (.accepted :: receivedEvents outcomes)
    let drawn := gestureDrawn helloUs resetUs endUs ticks
    ∃ (count : Nat) (rest : Bytes) (connection : Connection), count ≤ ticks.length + 3 ∧
      outcomes.octets = ((drawn.map Drawn.encoded).take count).flatten ++ rest ∧
      (∀ message, (drawn.map Drawn.encoded)[count]? = some message →
        rest.length < message.length) ∧
      process.phase = .serving connection ∧
      List.Forall₂ Meant (drawn.take count) (referenceParse outcomes.octets).messages ∧
      process.submissions.frames =
        submissions.frames ++ ({} : TouchSession).frames (callsFor [] outcomes) ∧
      (count = ticks.length + 3 → connection.session.hasActiveContacts = false) := by
  intro process drawn
  obtain ⟨bytes, hbytes⟩ := sent_gesture helloUs resetUs endUs ticks
  have hbegins : outcomes.octets <+: (drawn.map Drawn.encoded).flatten := by
    rw [← hbytes, List.flatten_append]
    exact harrived.trans (List.prefix_append _ _)
  obtain ⟨count, rest, decoded, hcount, hreceived, hrest, hparse, hmeant⟩ :=
    parse_drawn (gesture_decodes helloUs resetUs endUs hfinite) hbegins
  have hmessages : (referenceParse outcomes.octets).messages = decoded := by rw [hparse]
  have hinOrder : InOrder decoded := by
    rw [inOrder_sent_iff (greets_take (gesture_greets helloUs resetUs endUs ticks) count) hmeant,
      List.map_take]
    exact (gesture_counts helloUs resetUs endUs ticks).take count
  have hfits : ({} : TouchSession).FitsAll (callsFor [] outcomes) := by
    apply callsFor_fits
    rw [hmessages, touching_all hmeant]
    exact gesture_room helloUs resetUs endUs ticks count
  have hkept : Kept outcomes :=
    (kept_iff outcomes).mpr ⟨hopened, hroom, by rw [hparse], by rwa [hmessages], hfits⟩
  obtain ⟨connection, made, hphase, hfollowing, hattempts⟩ := (Process.serves_iff
    (submitRequest_accepting htaken) submissions outcomes).1 hkept
  rw [gestureDrawn_length] at hcount
  refine ⟨count, rest, connection, hcount, hreceived, hrest, hphase, hmessages ▸ hmeant,
    hfollowing.frames hattempts, ?_⟩
  intro hall
  rw [List.take_of_length_le (by rw [gestureDrawn_length, hall])] at hmeant
  obtain ⟨message, hlast, hmessage⟩ :=
    getLast_of_forall₂ hmeant (gestureDrawn_last helloUs resetUs endUs ticks)
  obtain ⟨htype, hcontacts, hbutton⟩ := meant_last hmessage
  rw [hfollowing.session]
  refine TouchSession.inactive_after TouchSession.sound_initial
    (fun call hcall => (callsFor_decoded [] outcomes call hcall).distinct)
    (callsFor_no_disconnect [] outcomes) hkept.processed ?_ htype hcontacts hbutton
  rw [callsFor_all_messages, hmessages]
  exact hlast

theorem synthetic_gesture_kept_one_tick :
    let ticks : List Tick := [{ x := 0x3f000000, velocityX := 0, button := true, nowUs := 2 }]
    let bytes := (sent (gesture 0 1 3 ticks)).flatten
    let outcomes : Outcomes :=
      [(.received (bytes.take 100), 0), (.received (bytes.drop 100), 1), (.timedOut, 2)]
    let services : Services :=
      { retrieveInputBuffer := fun _ _ => 0
        retrieveOutputBuffer := fun _ _ => 0
        vhfReadReportSubmit := fun _ => 0 }
    let process := Process.run (submitRequest fun _ => services)
      ⟨.accepting, { driver := { context := {} } }⟩ (.accepted :: receivedEvents outcomes)
    List.Forall₂ Meant (gestureDrawn 0 1 3 ticks) (referenceParse bytes).messages ∧
      ∃ connection, process.phase = .serving connection ∧
        connection.session.hasActiveContacts = false := by
  intro ticks bytes outcomes services process
  have hoctets : outcomes.octets = bytes := by
    simp [outcomes, Outcomes.octets, RecvOutcome.octets]
  have hfinite : ∀ tick ∈ ticks, tick.Finite := by
    refine List.forall_mem_singleton.mpr ⟨?_, ?_⟩ <;> decide
  have hsizes : (referenceParse []).rest.length + (bytes.take 100).length ≤ kMaxMessageSize * 2 ∧
      (referenceParse (bytes.take 100)).rest.length + (bytes.drop 100).length ≤
        kMaxMessageSize * 2 ∧ (referenceParse bytes).messages.length = 4 := by
    decide +kernel
  have hroom : outcomes.HaveRoom := by
    intro before octets now hfirst
    have hthree : before ++ [(.received octets, now)] <+:
        [(.received (bytes.take 100), 0), (.received (bytes.drop 100), 1)] ++ [(.timedOut, 2)] :=
      hfirst
    rcases concat_prefix_concat hthree with htwo | ⟨-, heq⟩
    case inr => cases heq
    replace htwo : before ++ [(.received octets, now)] <+:
      [(.received (bytes.take 100), 0)] ++ [(.received (bytes.drop 100), 1)] := htwo
    rcases concat_prefix_concat htwo with hone | ⟨rfl, heq⟩
    case inr =>
      cases heq
      have hbefore : Outcomes.octets [(.received (bytes.take 100), 0)] = bytes.take 100 := by
        simp [Outcomes.octets, RecvOutcome.octets]
      rw [hbefore]
      exact hsizes.2.1
    replace hone : before ++ [(.received octets, now)] <+:
      [] ++ [(.received (bytes.take 100), 0)] := hone
    rcases concat_prefix_concat hone with hnone | ⟨rfl, heq⟩
    case inl => simp at hnone
    cases heq
    exact hsizes.1
  obtain ⟨count, rest, connection, hcount, -, -, hphase, hmeant, -, hinactive⟩ :=
    @synthetic_gesture_kept (fun _ => services) ⟨fun _ => rfl, fun _ _ => rfl⟩
      { driver := { context := {} } } 0 1 3 ticks hfinite outcomes (by rw [hoctets])
      (by simp [Outcomes.StayOpen, outcomes]) hroom
  have hlength := hmeant.length_eq
  rw [hoctets] at hlength hmeant
  rw [hsizes.2.2, List.length_take, gestureDrawn_length] at hlength
  have hall : count = ticks.length + 3 := by
    change count = 4
    change min count 4 = 4 at hlength
    change count ≤ 4 at hcount
    omega
  rw [List.take_of_length_le (by rw [gestureDrawn_length, hall])] at hmeant
  exact ⟨hmeant, connection, hphase, hinactive hall⟩

end Touchpad.Tools.SyntheticTouch
