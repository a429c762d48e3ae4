import Touchpad.Protocol.EncodedMessage
import Touchpad.Receiver.DecoderAgreement
import Touchpad.Receiver.ReceiveLoop
import Touchpad.Foundation.Transition

/-!
# Messages delivered one at a time

A message that the reference encodes, with clean contacts, is decoded as it was
meant.  Received alone it goes through `Process` at once, and in a session that
expects its number a FRAME gets through when the contacts before it and its own
take at most five slots.
-/

namespace Touchpad.Receiver

open Touchpad.Foundation
open Touchpad.Protocol
open Touchpad.Shared

/-! ## Messages that the reference encodes -/

structure CleanContacts (frame : TPFrame) : Prop where
  flags : ∀ i < frame.contactCount.toNat, (frame.contactAt i).flags &&& ~~~0x07 = 0
  finite : ∀ i < frame.contactCount.toNat,
    ∀ float ∈ contactFloats (frame.contactAt i), Binary32.isFinite float = true
  distinct : ∀ i < frame.contactCount.toNat, ∀ j < frame.contactCount.toNat,
    (frame.contactAt i).identifier = (frame.contactAt j).identifier → i = j

theorem decodeMessage_encoded {type : TPMessageType} {frame : TPFrame} {capacity : Nat}
    (hfits : ¬ EncodingRejected type frame capacity) (hclean : CleanContacts (frame.carried type)) :
    ∃ message, decodeMessage (encodedMessage type frame) = .ok message ∧
      SameMessage message type (frame.carried type) := by
  have haccepted := accepted_encodedMessage hfits
  obtain ⟨hlength, hexact, messageType, hvalid⟩ := accepted_iff.mp haccepted
  have hread := (tpDecodeMessage_of_accepted haccepted 0 {}).symm.trans
    (tpDecodeMessage_encodedMessage hfits 0 {})
  have htype : (getU16 (encodedMessage type frame) 6).toUInt32 = type :=
    congrArg (fun decoded => decoded.2.1) hread
  have hframe := decodeTPFrame_encodedMessage type frame
  have hrecords : RecordsClean (encodedMessage type frame)
      (decodeTPFrame (encodedMessage type frame)) := by
    rw [hframe]
    exact ⟨fun i hi => encodedMessage_reserved hi, hclean.flags, hclean.finite, hclean.distinct⟩
  obtain ⟨hcontacts, hdistinct⟩ := (recordsClean_decoded_iff haccepted).mp hrecords
  refine ⟨_, decodeMessage_eq_ok_iff.mpr
    ⟨hlength, hexact, hcontacts, hdistinct, messageType, hvalid, rfl⟩, ?_⟩
  have hsame := sameMessage_decoded haccepted hvalid
  rw [htype, hframe] at hsame
  exact hsame

/-! ## Whole messages -/

def Connection.receive (connection : Connection) (delivery : Bytes × Time) :
    Option Connection :=
  (connection.step (.received delivery.1) delivery.2).2

theorem append_message {bytes : Bytes} {message : Message}
    (hdecoded : decodeMessage bytes = .ok message) :
    ({} : StreamDecoder).append bytes = (none, { messages := [message] }) := by
  have hlength : bytes.length ≤ kMaxMessageSize := by
    obtain ⟨-, hexact, -, -, type, hvalid, -⟩ := decodeMessage_eq_ok_iff.mp hdecoded
    have hcount := hvalid.count
    simp only [announcedLength, kMaxMessageSize, kHeaderSize, kContactSize, kMaxContacts] at *
    omega
  have hparse := @Framing.parse_stream _ _ _ mtp1Framing mtp1Framing_nil [(bytes, message)]
    (by simpa using encodes_of_decodeMessage hdecoded)
  rw [StreamDecoder.append_eq_parse (by simp; omega)]
  simp only [List.map_cons, List.map_nil, List.flatten_cons, List.flatten_nil,
    List.append_nil] at hparse
  simp [hparse]

theorem receive_message {bytes : Bytes} {message : Message}
    (hdecoded : decodeMessage bytes = .ok message) (session : TouchSession) (now : Time) :
    Connection.receive { session } (bytes, now) =
      match session.process message now with
      | (.ok _, after) => some { session := after }
      | (.error _, _) => none := by
  unfold Connection.receive Connection.step
  dsimp only
  rw [append_message hdecoded]
  simp only [StreamDecoder.popAll_eq, processMessages]
  generalize session.process message now = result
  obtain ⟨outcome, after⟩ := result
  cases outcome with
  | ok output => rfl
  | error error => rfl

/-! ## Sessions that expect a number -/

structure Expects (session : TouchSession) (sequence : UInt32) (active : List UInt32) :
    Prop where
  sound : session.Sound
  hello : session.helloSeen = true
  reset : session.resetSeen = true
  next : session.InSequence sequence
  active : (session.slots.map Prod.fst).Perm active

theorem newContacts_count {slots : SlotMap} {active : List UInt32}
    (h : (slots.map Prod.fst).Perm active) (contacts : List Contact) :
    (newContacts slots contacts).length =
      ((tipIdentifiers contacts).filter (· ∉ active)).length := by
  have hfree : ∀ identifier, (slots.lookup identifier).isNone = decide (identifier ∉ active) := by
    intro identifier
    rw [Bool.eq_iff_iff, Option.isNone_iff_eq_none, SlotTable.lookup_eq_none_iff,
      decide_eq_true_iff, h.mem_iff]
  rw [newContacts, tipIdentifiers, List.filter_map, List.length_map, List.filter_filter]
  congr 2
  funext contact
  rw [hfree, Bool.and_comm]
  rfl

theorem Assigned.keys_perm {start registered slots : SlotMap} {contacts : List Contact}
    {stored : ContactSlots} (h : Assigned start registered contacts slots stored)
    (hdistinct : (contacts.map Contact.identifier).Nodup) :
    (slots.map Prod.fst).Perm (tipIdentifiers contacts) := by
  have htips : (tipIdentifiers contacts).Nodup :=
    hdistinct.sublist (List.filter_sublist.map Contact.identifier)
  rw [List.perm_ext_iff_of_nodup h.valid.keys_nodup htips]
  intro identifier
  constructor
  · intro hmem
    obtain ⟨item, hitem, rfl⟩ := List.mem_map.mp hmem
    rw [h.slots_eq] at hitem
    exact of_decide_eq_true (List.mem_filter.mp hitem).2
  · intro htip
    obtain ⟨slot, hslot⟩ := h.placed identifier htip
    exact List.mem_map_of_mem hslot

def greeted (sequence : UInt32) : TouchSession :=
  { ({} : TouchSession).numbered sequence with helloSeen := true }

theorem process_hello {message : Message} (htype : message.type = .hello) (now : Time) :
    ({} : TouchSession).process message now = (.ok none, greeted message.sequence) := by
  rw [TouchSession.process, htype]
  rfl

theorem process_reset {message : Message} {sequence : UInt32} (htype : message.type = .reset)
    (hsequence : message.sequence = sequence + 1) (now : Time) :
    ∃ frame after, (greeted sequence).process message now = (.ok (some frame), after) ∧
      Expects after (message.sequence + 1) [] := by
  let after : TouchSession :=
    { (greeted sequence).numbered message.sequence with
      resetSeen := true
      slots := []
      previousContacts := ContactSlots.none
      buttonDown := false }
  have hnext : ¬ ((greeted sequence).sequenceSeen = true ∧
      message.sequence ≠ (greeted sequence).previousSequence + 1) := fun hgap => hgap.2 hsequence
  have hprocess : ∃ frame, (greeted sequence).process message now = (.ok (some frame), after) := by
    rw [TouchSession.process, if_neg hnext, htype]
    exact ⟨_, rfl⟩
  obtain ⟨frame, hprocess⟩ := hprocess
  refine ⟨frame, after, hprocess, ?_⟩
  exact ⟨⟨SlotTable.Valid.nil, by simp [Held, after]⟩, rfl, rfl, fun _ => rfl, .refl _⟩

theorem Expects.frame {session : TouchSession} {sequence : UInt32} {active : List UInt32}
    (h : Expects session sequence active) {message : Message} (htype : message.type = .frame)
    (hsequence : message.sequence = sequence)
    (hdistinct : (message.contacts.map Contact.identifier).Nodup) (now : Time) :
    let tips := tipIdentifiers message.contacts
    if active.length + (tips.filter (· ∉ active)).length ≤ mtpHidMaxContacts then
      ∃ frame after, session.process message now = (.ok (some frame), after) ∧
        Expects after (sequence + 1) tips
    else ∃ after, session.process message now = (.error .moreThanFiveActive, after) := by
  intro tips
  have hcount : session.slots.length + (newContacts session.slots message.contacts).length =
      active.length + (tips.filter (· ∉ active)).length := by
    rw [newContacts_count h.active, ← h.active.length_eq, List.length_map]
  rw [← hcount]
  obtain ⟨result, hprocess, hframe⟩ := TouchSession.process_frame_processed h.sound now htype
    h.hello h.reset (hsequence ▸ h.next) hdistinct
  rw [hprocess]
  cases hframe with
  | exceeded registered hvalid hsubset hfull hexceeds =>
      rw [TouchSession.numbered_slots] at hexceeds
      rw [if_neg (not_le.mpr hexceeds)]
      exact ⟨_, rfl⟩
  | accepted registered slots stored hassigned hroom =>
      rw [TouchSession.numbered_slots] at hroom
      rw [if_pos hroom]
      refine ⟨_, _, rfl, ⟨hassigned.valid, hassigned.held⟩, h.hello, h.reset, ?_, ?_⟩
      · intro _
        rw [← hsequence]
        rfl
      · exact hassigned.keys_perm hdistinct

end Touchpad.Receiver
