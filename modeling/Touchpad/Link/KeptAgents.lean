import Touchpad.Agent.Epoch
import Touchpad.Link.Strokes
import Touchpad.Receiver.KeptClients

/-!
# Agents that are kept

What the agent sends is in the order of the receiver's grammar but for the numbers, and
these count up wherever the run is orderly.  What is left for the receiver to drop such a
client for is contacts that find no slots.
-/

namespace Touchpad.Link

open Touchpad.Foundation
open Touchpad.Protocol
open Touchpad.Agent
open Touchpad.Receiver
open Touchpad.Shared
open Touchpad.Driver

/-! ## The order of what is sent -/

theorem sequences_eq {items : List Drawn} {messages : List Message}
    (hmeant : List.Forall₂ Meant items messages) :
    messages.map Message.sequence = items.map fun item => item.frame.sequence := by
  induction hmeant with
  | nil => rfl
  | @cons item message items messages hfirst hmeant ih =>
      have hsame : message.sequence = (item.frame.carried item.type).sequence :=
        SameMessage.sequence hfirst
      rw [List.map_cons, List.map_cons, ih, hsame]
      rfl

theorem greets_begins {items : List Drawn} {messages : List Message}
    (hgreets : Greets (items.map Drawn.type)) (hmeant : List.Forall₂ Meant items messages) :
    ∃ word ∈ grammar.matches', messages.map Message.type <+: word := by
  obtain ⟨count, hgreets⟩ := hgreets
  rw [begins_grammar_iff]
  cases hmeant with
  | nil => exact .inl rfl
  | @cons hello first items messages hfirst hmeant =>
      rw [List.map_cons, greeting, List.cons_prefix_cons] at hgreets
      obtain ⟨hhello, hgreets⟩ := hgreets
      have htype := (type_of_code hfirst.type).1 hhello
      cases hmeant with
      | nil => exact .inr (.inl (by simp [htype]))
      | @cons reset second items messages hsecond hmeant =>
          rw [List.map_cons, List.cons_prefix_cons] at hgreets
          obtain ⟨hreset, hframes⟩ := hgreets
          have htype' := (type_of_code hsecond.type).2.1 hreset
          refine .inr (.inr ⟨messages.map Message.type, by simp [htype, htype'], ?_⟩)
          intro hmem
          obtain ⟨message, hmessage, hagain⟩ := List.mem_map.mp hmem
          obtain ⟨index, hindex⟩ := List.mem_iff_getElem?.mp hmessage
          obtain ⟨item, hitem, hsame⟩ := forall₂_at hmeant.flip hindex
          have hframe : item.type = tpMessageFrame := List.eq_of_mem_replicate
            (hframes.subset (List.mem_map_of_mem (List.mem_of_getElem? hitem)))
          rw [(type_of_code hsame.type).2.2 hframe] at hagain
          cases hagain

theorem greets_take {items : List Drawn} (h : Greets (items.map Drawn.type)) (count : Nat) :
    Greets ((items.take count).map Drawn.type) := by
  obtain ⟨frames, hprefix⟩ := h
  refine ⟨frames, List.IsPrefix.trans ?_ hprefix⟩
  rw [List.map_take]
  exact List.take_prefix _ _

/-- What an agent sends is in order exactly when its numbers count up. -/
theorem inOrder_sent_iff {items : List Drawn} {messages : List Message}
    (hgreets : Greets (items.map Drawn.type)) (hmeant : List.Forall₂ Meant items messages) :
    InOrder messages ↔ (items.map fun item => item.frame.sequence).IsChain
      fun sequence next => next = sequence + 1 := by
  rw [← sequences_eq hmeant]
  exact ⟨InOrder.sequences, fun hsequences => ⟨greets_begins hgreets hmeant, hsequences⟩⟩

/-! ## The room that is needed -/

def drawnTouching (item : Drawn) : Option (Finset UInt32) :=
  if item.type = tpMessageFrame then
    some ((((List.range item.frame.contactCount.toNat).map item.frame.contactAt).filter
      fun contact => contact.flags &&& tpContactTip ≠ 0).map TPContact.identifier).toFinset
  else none

theorem tips_same {contacts : List Contact} {references : List TPContact}
    (h : List.Forall₂ SameContact contacts references) :
    tipIdentifiers contacts =
      (references.filter fun contact => contact.flags &&& tpContactTip ≠ 0).map
        TPContact.identifier := by
  induction h with
  | nil => rfl
  | @cons contact reference contacts references hsame hrest ih =>
      have htip : contact.hasTip = decide (reference.flags &&& tpContactTip ≠ 0) := by
        rw [Contact.hasTip, hsame.flags]
        rfl
      rw [tipIdentifiers] at ih ⊢
      rw [List.filter_cons, List.filter_cons, htip]
      split
      · rw [List.map_cons, List.map_cons, ih, hsame.identifier]
      · exact ih

theorem carried_frame (frame : TPFrame) :
    (frame.carried tpMessageFrame).contactCount = frame.contactCount ∧
      ∀ i < frame.contactCount.toNat,
        (frame.carried tpMessageFrame).contactAt i = frame.contactAt i := by
  have hcount : encodedCount tpMessageFrame frame = frame.contactCount := if_pos rfl
  refine ⟨hcount, fun i hi => ?_⟩
  rw [TPFrame.carried, TPFrame.contactAt, TPFrame.contactAt, hcount]
  split
  · exact if_pos hi
  · rfl

theorem touching_meant {item : Drawn} {message : Message} (h : Meant item message) :
    touchingIn message = drawnTouching item := by
  have hisFrame := Meant.isFrame h
  obtain ⟨type, frame⟩ := item
  rw [touchingIn, drawnTouching]
  by_cases htype : message.type = .frame
  case neg =>
    have hother : type ≠ tpMessageFrame := by simpa [Drawn.isFrame, htype] using hisFrame
    rw [if_neg htype, if_neg hother]
  case pos =>
    obtain rfl : type = tpMessageFrame := by simpa [Drawn.isFrame, htype] using hisFrame
    obtain ⟨hcount, hcontacts⟩ := carried_frame frame
    have hlength : message.contacts.length = frame.contactCount.toNat := by
      have hsame := h.contactCount
      dsimp only at hsame
      rw [hsame, hcount]
    have hsame : List.Forall₂ SameContact message.contacts
        ((List.range frame.contactCount.toNat).map frame.contactAt) := by
      refine List.forall₂_iff_get.mpr ⟨by simpa using hlength, fun i hi _ => ?_⟩
      have hcontact := h.contacts i _ (List.getElem?_eq_getElem hi)
      dsimp only at hcontact
      rw [hcontacts i (hlength ▸ hi)] at hcontact
      simpa using hcontact
    rw [if_pos htype, if_pos rfl, tips_same hsame]

theorem touching_all {items : List Drawn} {messages : List Message}
    (hmeant : List.Forall₂ Meant items messages) :
    messages.map touchingIn = items.map drawnTouching := by
  induction hmeant with
  | nil => rfl
  | cons hfirst hmeant ih => rw [List.map_cons, List.map_cons, ih, touching_meant hfirst]

/-! ## Orderly runs -/

def OrderlyWired (wired : Wired) : WiredAction → Prop
  | .threads action => Orderly wired.system action
  | .send _ _ => True

theorem orderly_step {wired next : Wired} {action : WiredAction} (h : Agent.Sound wired.system)
    (horderly : OrderlyWired wired action) (hstep : wired.step action = some next) :
    Agent.Sound next.system := by
  cases Wired.step_cases hstep with
  | threads action system hidle hsystem => exact step_sound h horderly hsystem
  | send results now message succeeds taken system hflight hsent hsystem =>
      have horder : Orderly wired.system (.sender succeeds now) := by
        intro hclearing
        rw [hclearing] at hflight
        cases hflight
      exact step_sound h horder hsystem

theorem header_shown {called : List (List MTTouch)} {item : Drawn} (h : item.Shows called) :
    messageHeader item.encoded = some (item.type, item.frame.sequence) := by
  obtain ⟨type, frame⟩ := item
  rcases h with ⟨htype, touches, -, hfits, deviceTimeUs, down, sequence, now, hframe⟩ |
    ⟨htype, sequence, now, hframe⟩
  · dsimp only at htype hframe
    subst htype hframe
    exact (tpEncodeMessage_accepted (.inr (.inl rfl))
      (encodable_captured hfits deviceTimeUs down sequence now)).2
  · dsimp only at htype hframe
    subst hframe
    exact (tpEncodeMessage_accepted (htype.imp id .inr) (encodable_control sequence now)).2

theorem counts_up {called : List (List MTTouch)} {items : List Drawn}
    (hshown : ∀ item ∈ items, item.Shows called) (h : GapFree (items.map Drawn.encoded)) :
    (items.map fun item => item.frame.sequence).IsChain
      fun sequence next => next = sequence + 1 := by
  obtain ⟨first, hfollows⟩ := h
  have hsequence (index : Nat) (hindex : index < items.length) :
      items[index].frame.sequence = first + UInt32.ofNat index := by
    have hheader := hfollows index (messageHeader items[index].encoded) (by simp [hindex])
    rw [header_shown (hshown _ (List.getElem_mem hindex))] at hheader
    exact congrArg Prod.snd (Option.some.inj hheader)
  rw [List.isChain_iff_getElem]
  intro index hindex
  rw [List.length_map] at hindex
  rw [List.getElem_map, List.getElem_map, hsequence _ hindex,
    hsequence index (Nat.lt_of_succ_lt hindex), add_ofNat_succ]

/-! ## Who is dropped -/

/-- An agent in any run, with callbacks in any interleaving and sends that break off anywhere,
whose touches have distinct identifiers and finite numbers, and a receiver over frameworks that
give out every buffer and take every report.  While the octets of a connection arrive, in any
segments and with any timeouts between them, the receiver serves it exactly as long as the
connection is open, what arrives fits into the buffer, the messages that arrived in full
count up, and their contacts find slots.  They do count up where the run was
orderly, and contacts do find slots where each FRAME and the one before it have at most
five touching identifiers together. -/
theorem agent_kept_iff {threshold : Binary32} {actions : List WiredAction} {final : Wired}
    (hrun : runFrom Wired.step (Wired.initial threshold) actions = some final)
    (hcapturable : AllCapturable (actions.flatMap WiredAction.calledWith)) {index : Nat}
    {messages : List WireMessage} {wire : Bytes}
    (hmessages : final.system.connections[index]? = some messages)
    (hwire : final.wires[index]? = some wire) {services : Nat → Services}
    (htaken : TakeEveryReport services)
    (submissions : Submissions DriverLog) {outcomes : Outcomes}
    (harrived : outcomes.octets <+: wire) :
    let process := Process.run (submitRequest services) ⟨.accepting, submissions⟩
      (.accepted :: receivedEvents outcomes)
    ∃ (sent : List Drawn) (count : Nat) (rest : Bytes),
      messages = sent.map Drawn.encoded ∧
      outcomes.octets = (messages.take count).flatten ++ rest ∧
      (∀ message, messages[count]? = some message → rest.length < message.length) ∧
      ((∃ connection, process.phase = .serving connection) ↔
        outcomes.StayOpen ∧ outcomes.HaveRoom ∧
          ((sent.take count).map fun item => item.frame.sequence).IsChain
            (fun sequence next => next = sequence + 1) ∧
          ({} : TouchSession).FitsAll (callsFor [] outcomes)) ∧
      (Along Wired.step OrderlyWired (Wired.initial threshold) actions →
        ((sent.take count).map fun item => item.frame.sequence).IsChain
          fun sequence next => next = sequence + 1) ∧
      (RoomFor ∅ ((sent.take count).map drawnTouching) →
        ({} : TouchSession).FitsAll (callsFor [] outcomes)) := by
  intro process
  obtain ⟨sent, count, rest, decoded, rfl, hgreets, hshown, hreceived, hrest, hparse, hmeant⟩ :=
    arrived hrun hcapturable hmessages hwire harrived
  refine ⟨sent, count, rest, rfl, hreceived, hrest, ?_, fun horderly => ?_, fun hroom => ?_⟩
  · obtain ⟨hserves, hidle⟩ := Process.serves_iff
      (submitRequest_accepting htaken) submissions outcomes
    have hkept := kept_iff outcomes
    have hformed : (referenceParse (Outcomes.octets outcomes)).error = none := by rw [hparse]
    have hinOrder := inOrder_sent_iff (greets_take hgreets count) hmeant
    rw [and_iff_right hformed, hparse, hinOrder] at hkept
    rw [← hkept]
    refine ⟨fun ⟨connection, hphase⟩ => ?_, fun h => ?_⟩
    · by_contra hnot
      exact hidle hnot connection hphase
    · obtain ⟨connection, made, hphase, -⟩ := hserves h
      exact ⟨connection, hphase⟩
  · have hsound : Agent.Sound final.system :=
      runFrom_induction (fun _ _ _ => orderly_step) (Agent.sound_initial threshold) horderly hrun
    have hgapFree : GapFree (sent.map Drawn.encoded) :=
      hsound.flowing.gapFree _ (List.mem_of_getElem? hmessages)
    rw [List.map_take]
    exact (counts_up hshown hgapFree).take count
  · apply callsFor_fits
    rw [hparse, touching_all hmeant]
    exact hroom

theorem agent_kept_iff_one_finger :
    let outcomes : Outcomes := [(.received (oneFingerWire.take 100), 0), (.timedOut, 1),
      (.received (oneFingerWire.drop 100), 2)]
    ∃ (sent : List Drawn) (count : Nat) (rest : Bytes),
      oneFingerWire = ((sent.map Drawn.encoded).take count).flatten ++ rest ∧
      ((sent.take count).map fun item => item.frame.sequence).IsChain
        (fun sequence next => next = sequence + 1) ∧
      ({} : TouchSession).FitsAll (callsFor [] outcomes) := by
  intro outcomes
  let services : Services :=
    { retrieveInputBuffer := fun _ _ => 0
      retrieveOutputBuffer := fun _ _ => 0
      vhfReadReportSubmit := fun _ => 0 }
  let process := Process.run (submitRequest fun _ => services)
    ⟨.accepting, { driver := { context := {} } }⟩ (.accepted :: receivedEvents outcomes)
  have hlast : (runFrom Wired.step (Wired.initial 0) oneFinger).map (fun final =>
      (final.wires, final.system.connections.length)) = some ([oneFingerWire], 1) := by
    decide +kernel
  obtain ⟨final, hrun, hfinal⟩ := Option.map_eq_some_iff.mp hlast
  obtain ⟨hwires, hconnections⟩ := Prod.mk.inj hfinal
  obtain ⟨messages, hmessages⟩ := List.length_eq_one_iff.mp hconnections
  have hcapturable : AllCapturable (oneFinger.flatMap WiredAction.calledWith) := by
    intro touches htouches _
    have hone : touches = [oneTouch] := List.mem_singleton.mp htouches
    rw [hone]
    decide
  have hoctets : outcomes.octets = oneFingerWire := by
    simp [outcomes, Outcomes.octets, RecvOutcome.octets]
  have hserving : process.phase.isServing = true := by
    decide +kernel
  obtain ⟨sent, count, rest, rfl, hreceived, -, hkept, -, -⟩ :=
    @agent_kept_iff 0 oneFinger final hrun hcapturable 0 messages oneFingerWire
      (by rw [hmessages]; rfl) (by rw [hwires]; rfl) (fun _ => services)
      ⟨fun _ => rfl, fun _ _ => rfl⟩ { driver := { context := {} } } outcomes (by rw [hoctets])
  rw [hoctets] at hreceived
  obtain ⟨-, -, hcount, hfits⟩ := hkept.mp (Phase.exists_serving hserving)
  exact ⟨sent, count, rest, hreceived, hcount, hfits⟩

end Touchpad.Link
