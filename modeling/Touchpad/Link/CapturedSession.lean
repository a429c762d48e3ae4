import Touchpad.Agent.Stream
import Touchpad.Receiver.Delivery

/-!
# Captured sessions at the receiver

What the agent sends on a connection, delivered message by message.  The receiver
accepts all of it exactly when no two captures in a row have more than five TIP
identifiers between them; an agent captures up to ten.
-/

namespace Touchpad.Link

open Touchpad.Foundation
open Touchpad.Protocol
open Touchpad.Agent
open Touchpad.Receiver
open Touchpad.Shared

/-! ## Captured frames -/

def receivedContact (touch : MTTouch) : Contact where
  identifier := touch.identifier.toUInt32
  state := touch.state.toUInt32.toUInt8
  flags := flagsForState touch.state
  x := touch.x
  y := touch.y
  velocityX := touch.velocityX
  velocityY := touch.velocityY
  size := touch.size
  angle := touch.angle
  majorAxis := touch.majorAxis
  minorAxis := touch.minorAxis
  density := touch.density

def touchingIdentifiers (touches : List MTTouch) : List UInt32 :=
  (tips touches).map fun touch => touch.identifier.toUInt32

theorem sameContact_received {contact : Contact} {touch : MTTouch}
    (h : SameContact contact (touchContact touch)) : contact = receivedContact touch := by
  obtain ⟨identifier, state, flags, x, y, velocityX, velocityY, size, angle, majorAxis,
    minorAxis, density⟩ := h
  cases contact
  simp_all [receivedContact, touchContact]

theorem received_hasTip (touch : MTTouch) :
    (receivedContact touch).hasTip = decide (touch.state = 3 ∨ touch.state = 4) := by
  rw [Bool.eq_iff_iff, Contact.hasTip, decide_eq_true_iff, decide_eq_true_iff]
  exact flagsForState_tip touch.state

theorem tipIdentifiers_received (touches : List MTTouch) :
    tipIdentifiers (touches.map receivedContact) = touchingIdentifiers touches := by
  rw [tipIdentifiers, touchingIdentifiers, tips, List.filter_map, List.map_map]
  congr 1
  exact List.filter_congr fun touch _ => received_hasTip touch

theorem flagsForState_known (state : Int32) : flagsForState state &&& ~~~0x07 = 0 := by
  unfold flagsForState
  dsimp only
  split <;> split <;> decide

theorem identifiers_nodup {touches : List MTTouch}
    (h : (touches.map MTTouch.identifier).Nodup) :
    (touches.map fun touch => touch.identifier.toUInt32).Nodup := by
  have hinjective : Function.Injective Int32.toUInt32 := by
    intro first second hsame
    exact congrArg Int32.ofUInt32 hsame
  have hmap := h.map hinjective
  rw [List.map_map] at hmap
  exact hmap

section Carried

variable {touches : List MTTouch} (hfits : touches.length ≤ tpMaxContacts)
  (deviceTimeUs : UInt64) (down : Bool) (sequence : UInt32) (captureTimeUs : UInt64)

include hfits

theorem carried_count :
    ((capturedFrame touches deviceTimeUs down sequence captureTimeUs).carried
      tpMessageFrame).contactCount.toNat = touches.length := by
  have hlt : touches.length < 2 ^ 16 := lt_of_le_of_lt hfits (by decide)
  have hcount : (encodedCount tpMessageFrame
      (capturedFrame touches deviceTimeUs down sequence captureTimeUs)) =
        UInt16.ofNat touches.length := if_pos rfl
  rw [TPFrame.carried, hcount, UInt16.toNat_ofNat', Nat.mod_eq_of_lt hlt]

theorem carried_contactAt {index : Nat} (h : index < touches.length) :
    ((capturedFrame touches deviceTimeUs down sequence captureTimeUs).carried
      tpMessageFrame).contactAt index = touchContact touches[index] := by
  have hcount := carried_count hfits deviceTimeUs down sequence captureTimeUs
  rw [TPFrame.carried] at hcount ⊢
  dsimp only at hcount
  rw [TPFrame.contactAt, dif_pos (lt_of_lt_of_le h hfits)]
  dsimp only
  rw [hcount, if_pos h]
  change (touches[index]?.map touchContact).getD {} = _
  rw [List.getElem?_eq_getElem h]
  rfl

theorem cleanContacts_captured (hcapturable : Capturable touches) :
    CleanContacts ((capturedFrame touches deviceTimeUs down sequence captureTimeUs).carried
      tpMessageFrame) := by
  have hat := @carried_contactAt touches hfits deviceTimeUs down sequence captureTimeUs
  refine ⟨?_, ?_, ?_⟩ <;> rw [carried_count hfits]
  · intro i hi
    rw [hat hi]
    exact flagsForState_known _
  · intro i hi
    rw [hat hi]
    exact hcapturable.finite _ (List.getElem_mem hi)
  · intro i hi j hj hsame
    rw [hat hi, hat hj] at hsame
    have hnodup := List.nodup_iff_injective_getElem.mp (identifiers_nodup hcapturable.distinct)
    have heq := @hnodup ⟨i, by simpa using hi⟩ ⟨j, by simpa using hj⟩ (by simpa [touchContact] using hsame)
    exact congrArg Fin.val heq

end Carried

theorem type_of_code {type : MessageType} {code : TPMessageType}
    (h : type.code.toUInt32 = code) :
    (code = tpMessageHello → type = .hello) ∧ (code = tpMessageReset → type = .reset) ∧
      (code = tpMessageFrame → type = .frame) := by
  subst h
  cases type <;> decide

theorem decode_captured {touches : List MTTouch} (hfits : touches.length ≤ tpMaxContacts)
    (hcapturable : Capturable touches) {sequence : UInt32} {bytes : Bytes}
    (h : (Item.frame touches).Encodes sequence bytes) :
    ∃ message, decodeMessage bytes = .ok message ∧ message.type = .frame ∧
      message.sequence = sequence ∧ message.contacts = touches.map receivedContact := by
  obtain ⟨deviceTimeUs, down, now, rfl⟩ := h
  have haccepted := not_rejected_of_encodable (.inr (.inl rfl))
    (encodable_captured hfits deviceTimeUs down sequence now)
  obtain ⟨message, hdecoded, hsame⟩ := decodeMessage_encoded haccepted
    (cleanContacts_captured hfits deviceTimeUs down sequence now hcapturable)
  refine ⟨message, ?_, (type_of_code hsame.type).2.2 rfl, hsame.sequence, ?_⟩
  · rw [tpEncodeMessage_written haccepted]
    exact hdecoded
  · have hlength : message.contacts.length = touches.length :=
      hsame.contactCount.trans (carried_count hfits deviceTimeUs down sequence now)
    apply List.ext_getElem (by simpa using hlength)
    intro i hi _
    rw [List.getElem_map]
    apply sameContact_received
    have hcontact := hsame.contacts i _ (List.getElem?_eq_getElem hi)
    rw [carried_contactAt hfits _ _ _ _ (by omega)] at hcontact
    exact hcontact

theorem decode_control {type : TPMessageType} (htype : KnownType type) (sequence : UInt32)
    (now : UInt64) :
    ∃ message, decodeMessage (tpEncodeMessage type { sequence, captureTimeUs := now }
        tpMaxMessageSize).2 = .ok message ∧
      message.type.code.toUInt32 = type ∧ message.sequence = sequence := by
  have haccepted := not_rejected_of_encodable htype (encodable_control sequence now)
  have hcount : (encodedCount type { sequence, captureTimeUs := now }).toNat = 0 := by
    rw [encodedCount]
    split <;> rfl
  have hclean : CleanContacts
      (TPFrame.carried { sequence, captureTimeUs := now } type) := by
    refine ⟨?_, ?_, ?_⟩ <;> intro i hi <;> exact absurd (lt_of_lt_of_eq hi hcount) (by omega)
  obtain ⟨message, hdecoded, hsame⟩ := decodeMessage_encoded haccepted hclean
  rw [tpEncodeMessage_written haccepted]
  exact ⟨message, hdecoded, hsame.type, hsame.sequence⟩

/-! ## Sessions -/

def tipSet (touches : List MTTouch) : Finset UInt32 := (touchingIdentifiers touches).toFinset

/-- No two captures in a row have more TIP identifiers between them than there are slots. -/
def FitsSlots (captured : List (List MTTouch)) : Prop :=
  (∅ :: captured.map tipSet).IsChain fun before after =>
    (before ∪ after).card ≤ mtpHidMaxContacts

instance (captured : List (List MTTouch)) : Decidable (FitsSlots captured) :=
  inferInstanceAs (Decidable (List.IsChain _ _))

theorem card_union_eq {active arriving : List UInt32} (hactive : active.Nodup)
    (harriving : arriving.Nodup) :
    (active.toFinset ∪ arriving.toFinset).card =
      active.length + (arriving.filter (· ∉ active)).length := by
  have hnew : (arriving.filter (· ∉ active)).toFinset =
      arriving.toFinset \ active.toFinset := by
    ext identifier
    simp
  rw [← List.toFinset_card_of_nodup hactive,
    ← List.toFinset_card_of_nodup (harriving.filter _), hnew, Finset.union_comm,
    ← Finset.card_sdiff_add_card, Nat.add_comm]

theorem touchingIdentifiers_nodup {touches : List MTTouch} (h : Capturable touches) :
    (touchingIdentifiers touches).Nodup :=
  (identifiers_nodup h.distinct).sublist (List.filter_sublist.map _)

theorem receive_frames {session : TouchSession} {sequence : UInt32} {active : List UInt32}
    (h : Expects session sequence active) {captured : List (List MTTouch)}
    (hcapturable : ∀ touches ∈ captured, Capturable touches ∧ touches.length ≤ tpMaxContacts)
    {deliveries : List (Bytes × Time)}
    (hstream : Stream sequence (captured.map .frame) (deliveries.map Prod.fst)) :
    (runFrom Connection.receive { session } deliveries).isSome = true ↔
      (active.toFinset :: captured.map tipSet).IsChain fun before after =>
        (before ∪ after).card ≤ mtpHidMaxContacts := by
  induction captured generalizing session sequence active deliveries with
  | nil =>
      have hnone : deliveries = [] := by
        have hlength := Numbered.length_eq hstream
        simpa using hlength.symm
      subst hnone
      simp [runFrom]
  | cons touches captured ih =>
      obtain ⟨hcapture, hfits⟩ := hcapturable touches List.mem_cons_self
      cases deliveries with
      | nil => cases hstream
      | cons delivery deliveries =>
          obtain ⟨bytes, now⟩ := delivery
          cases hstream with
          | cons hitem hrest =>
              obtain ⟨message, hdecoded, htype, hsequence, hcontacts⟩ :=
                decode_captured hfits hcapture hitem
              have hframe := h.frame htype hsequence (distinct_of_decodeMessage hdecoded) now
              have htips : tipIdentifiers message.contacts = touchingIdentifiers touches := by
                rw [hcontacts, tipIdentifiers_received]
              have hcard := card_union_eq
                (h.active.nodup_iff.mp h.sound.valid.keys_nodup)
                (touchingIdentifiers_nodup hcapture)
              rw [List.map_cons, List.isChain_cons_cons, tipSet, hcard, runFrom,
                receive_message hdecoded]
              dsimp only at hframe
              rw [htips] at hframe
              split at hframe
              case isTrue hroom =>
                obtain ⟨frame, after, hprocess, hafter⟩ := hframe
                rw [hprocess]
                have hothers := ih hafter
                  (fun other hother => hcapturable other (List.mem_cons_of_mem _ hother)) hrest
                rw [and_iff_right hroom]
                exact hothers
              case isFalse hexceeds =>
                obtain ⟨after, hprocess⟩ := hframe
                rw [hprocess]
                exact iff_of_false (by simp) fun hfit => hexceeds hfit.1

/-- The connection gets through all that is sent on it exactly when the captures that
were sent fit into the slots. -/
theorem captured_session_accepted_iff {threshold : Binary32} {opening events : List Event}
    {start final : Serial}
    (hopening : runFrom Serial.step (Serial.initial threshold) opening = some start)
    (hstart : start.sender = .countingReconnect)
    (hcaptures : Along Serial.step Captures start events)
    (hrun : runFrom Serial.step start events = some final)
    {deliveries : List (Bytes × Time)} {earlier : List (List WireMessage)}
    (hsent : final.connections = deliveries.map Prod.fst :: earlier) :
    (∃ connection, runFrom Connection.receive {} deliveries = some connection) ↔
      FitsSlots ((observed Serial.step capturedOf start events).take (deliveries.length - 2)) := by
  obtain ⟨⟨messages, rest, first, others, hconnections, hstream⟩, hcapturable⟩ :=
    connection_stream hopening hstart hcaptures hrun
  generalize observed Serial.step capturedOf start events = captured at hstream hcapturable
  obtain ⟨rfl, -⟩ := List.cons.inj (hconnections.symm.trans hsent)
  have hfront := Numbered.front hstream
  rw [← Option.isSome_iff_exists]
  cases deliveries with
  | nil => simp [runFrom, FitsSlots]
  | cons hello deliveries =>
      obtain ⟨helloBytes, helloTime⟩ := hello
      cases hfront with
      | cons hhello hfront =>
          obtain ⟨helloNow, hhello⟩ := hhello
          obtain ⟨helloMessage, hhelloDecoded, hhelloType, hhelloSequence⟩ :=
            decode_control (.inl rfl) first helloNow
          rw [← hhello] at hhelloDecoded
          have hgreeted := process_hello ((type_of_code hhelloType).1 rfl) helloTime
          rw [runFrom, receive_message hhelloDecoded, hgreeted]
          dsimp only
          cases deliveries with
          | nil => simp [runFrom, FitsSlots]
          | cons reset deliveries =>
              obtain ⟨resetBytes, resetTime⟩ := reset
              cases hfront with
              | cons hreset hfront =>
                  obtain ⟨resetNow, hreset⟩ := hreset
                  obtain ⟨resetMessage, hresetDecoded, hresetType, hresetSequence⟩ :=
                    decode_control (.inr (.inr rfl)) (first + 1) resetNow
                  rw [← hreset] at hresetDecoded
                  obtain ⟨frame, after, hprocess, hexpects⟩ := process_reset
                    ((type_of_code hresetType).2.1 rfl)
                    (hresetSequence.trans (congrArg (· + 1) hhelloSequence.symm)) resetTime
                  rw [runFrom, receive_message hresetDecoded, hprocess]
                  dsimp only
                  rw [hresetSequence] at hexpects
                  rw [← List.map_take, List.length_map] at hfront
                  exact receive_frames hexpects
                    (fun touches htouches => hcapturable touches (List.mem_of_mem_take htouches))
                    hfront

/-! ## One finger and six -/

def openingEvents : List Event := List.replicate 2 (.sender true 0)

def captureOnce (touches : List MTTouch) : List Event :=
  List.replicate 9 (.sender true 0) ++ [.call (.contact (some touches) 0) 0] ++
    List.replicate 4 (.sender true 0)

def fingers (count : Nat) : List MTTouch :=
  (List.range count).map fun index => { identifier := Int32.ofNat index, state := 4 }

def judged (events : List Event) : Option (Bool × Bool × Bool) :=
  (runFrom Serial.step (Serial.initial 0) openingEvents).bind fun start =>
    (runFrom Serial.step start events).bind fun final =>
      final.connections.head?.map fun messages =>
        (decide (start.sender = .countingReconnect ∧ Along Serial.step Captures start events),
          decide (FitsSlots
            ((observed Serial.step capturedOf start events).take (messages.length - 2))),
          (runFrom Connection.receive {} (messages.map fun message => (message, 0))).isSome)

theorem judged_eq_some {events : List Event} {fits accepted : Bool}
    (h : judged events = some (true, fits, accepted)) :
    ∃ start final deliveries earlier,
      runFrom Serial.step (Serial.initial 0) openingEvents = some start ∧
        start.sender = .countingReconnect ∧ Along Serial.step Captures start events ∧
        runFrom Serial.step start events = some final ∧
        final.connections = deliveries.map Prod.fst :: earlier ∧
        (FitsSlots ((observed Serial.step capturedOf start events).take
          (deliveries.length - 2)) ↔ fits = true) ∧
        (runFrom Connection.receive {} deliveries).isSome = accepted := by
  obtain ⟨start, hopening, hjudged⟩ := Option.bind_eq_some_iff.mp h
  obtain ⟨final, hrun, hjudged⟩ := Option.bind_eq_some_iff.mp hjudged
  obtain ⟨messages, hmessages, hjudged⟩ := Option.map_eq_some_iff.mp hjudged
  obtain ⟨earlier, hconnections⟩ := List.head?_eq_some_iff.mp hmessages
  rw [Prod.mk.injEq, Prod.mk.injEq, decide_eq_true_iff] at hjudged
  obtain ⟨⟨hstart, hcaptures⟩, hfits, haccepted⟩ := hjudged
  refine ⟨start, final, messages.map fun message => (message, 0), earlier, hopening, hstart,
    hcaptures, hrun, ?_, ?_, haccepted⟩
  · rw [hconnections, List.map_map, show Prod.fst ∘ (fun message => (message, (0 : Time))) = id
      from rfl, List.map_id]
  · rw [List.length_map, ← hfits, decide_eq_true_iff]

theorem captured_session_accepted_iff_one_finger :
    ∃ start final deliveries earlier,
      runFrom Serial.step (Serial.initial 0) openingEvents = some start ∧
        runFrom Serial.step start (captureOnce (fingers 1)) = some final ∧
        final.connections = deliveries.map Prod.fst :: earlier ∧
        ∃ connection, runFrom Connection.receive {} deliveries = some connection := by
  have hjudged : judged (captureOnce (fingers 1)) = some (true, true, true) := by decide +kernel
  obtain ⟨start, final, deliveries, earlier, hopening, hstart, hcaptures, hrun, hsent, hfits, -⟩ :=
    judged_eq_some hjudged
  exact ⟨start, final, deliveries, earlier, hopening, hrun, hsent,
    (captured_session_accepted_iff hopening hstart hcaptures hrun hsent).mpr (hfits.mpr rfl)⟩

/-- Six fingers are captured and sent in one FRAME, and end the connection. -/
theorem six_fingers_rejected :
    ¬ ∀ (threshold : Binary32) (opening events : List Event) (start final : Serial),
      runFrom Serial.step (Serial.initial threshold) opening = some start →
        start.sender = .countingReconnect →
          Along Serial.step Captures start events →
            runFrom Serial.step start events = some final →
              ∀ (deliveries : List (Bytes × Time)) (earlier : List (List WireMessage)),
                final.connections = deliveries.map Prod.fst :: earlier →
                  ∃ connection, runFrom Connection.receive {} deliveries = some connection := by
  intro hclaim
  have hjudged : judged (captureOnce (fingers 6)) = some (true, false, false) := by decide +kernel
  obtain ⟨start, final, deliveries, earlier, hopening, hstart, hcaptures, hrun, hsent, -,
    hrejected⟩ := judged_eq_some hjudged
  obtain ⟨connection, hconnection⟩ :=
    hclaim 0 openingEvents _ start final hopening hstart hcaptures hrun deliveries earlier hsent
  rw [hconnection] at hrejected
  cases hrejected

end Touchpad.Link
