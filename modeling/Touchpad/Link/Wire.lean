import Touchpad.Agent.Transport
import Touchpad.Foundation.Lists
import Touchpad.Link.CapturedSession
import Touchpad.Receiver.Segmentation

/-!
# From the agent's sockets to the decoder

The octets that reach the receiver are some of those that a socket took, cut at will.
Whatever the threads did and wherever a send broke off, the decoder reads the messages
that arrived in full and keeps the part of the next one.
-/

namespace Touchpad.Link

open Touchpad.Foundation
open Touchpad.Protocol
open Touchpad.Agent
open Touchpad.Receiver

/-- The calls that fit into a frame have distinct identifiers and finite numbers. -/
def AllCapturable (called : List (List MTTouch)) : Prop :=
  ∀ touches ∈ called, touches.length ≤ tpMaxContacts → Capturable touches

def Meant (item : Drawn) (message : Message) : Prop :=
  SameMessage message item.type (item.frame.carried item.type)

def Decodes (item : Drawn) : Prop :=
  ∃ message, decodeMessage item.encoded = .ok message ∧ Meant item message

theorem control_clean {type : TPMessageType} (htype : type ≠ tpMessageFrame) (frame : TPFrame) :
    CleanContacts (frame.carried type) := by
  have hcount : (frame.carried type).contactCount.toNat = 0 := by
    rw [TPFrame.carried, encodedCount, if_neg htype]
    rfl
  refine ⟨?_, ?_, ?_⟩ <;> intro i hi <;> rw [hcount] at hi <;> exact absurd hi (Nat.not_lt_zero i)

theorem decode_drawn {called : List (List MTTouch)} (hcapturable : AllCapturable called)
    {item : Drawn} (h : item.Shows called) : Decodes item := by
  obtain ⟨type, frame⟩ := item
  rw [Decodes, Drawn.encoded]
  rcases h with ⟨htype, touches, hcalled, hfits, deviceTimeUs, down, sequence, now, hframe⟩ |
    ⟨htype, sequence, now, hframe⟩
  · dsimp only at htype hframe
    subst htype hframe
    have hdistinct : Capturable touches := by
      rcases hcalled with rfl | hmem
      · exact ⟨List.nodup_nil, fun touch htouch => by cases htouch⟩
      · exact hcapturable touches hmem hfits
    have haccepted := not_rejected_of_encodable (.inr (.inl rfl))
      (encodable_captured hfits deviceTimeUs down sequence now)
    rw [tpEncodeMessage_written haccepted]
    exact decodeMessage_encoded haccepted
      (cleanContacts_captured hfits deviceTimeUs down sequence now hdistinct)
  · dsimp only at htype hframe
    subst hframe
    have hknown : KnownType type := htype.imp id .inr
    have hcontrol : type ≠ tpMessageFrame := by
      rcases htype with rfl | rfl <;> decide
    have haccepted := not_rejected_of_encodable hknown (encodable_control sequence now)
    rw [tpEncodeMessage_written haccepted]
    exact decodeMessage_encoded haccepted (control_clean hcontrol _)

theorem decode_all {items : List Drawn} (hitems : ∀ item ∈ items, Decodes item) :
    ∃ stream : List (Bytes × Message), stream.map Prod.fst = items.map Drawn.encoded ∧
      (∀ pair ∈ stream, decodeMessage pair.1 = .ok pair.2) ∧
      List.Forall₂ Meant items (stream.map Prod.snd) := by
  induction items with
  | nil => exact ⟨[], rfl, nofun, .nil⟩
  | cons item items ih =>
      obtain ⟨⟨message, hmessage, hsame⟩, hlater⟩ := List.forall_mem_cons.mp hitems
      obtain ⟨stream, hencoded, hdecoded, hmeant⟩ := ih hlater
      refine ⟨(item.encoded, message) :: stream, ?_, ?_, .cons hsame hmeant⟩
      · rw [List.map_cons, List.map_cons, hencoded]
      · intro pair hpair
        rcases List.mem_cons.mp hpair with rfl | hpair
        · exact hmessage
        · exact hdecoded pair hpair

theorem parse_drawn {items : List Drawn} (hitems : ∀ item ∈ items, Decodes item) {octets : Bytes}
    (h : octets <+: (items.map Drawn.encoded).flatten) :
    ∃ (count : Nat) (rest : Bytes) (decoded : List Message), count ≤ items.length ∧
      octets = ((items.map Drawn.encoded).take count).flatten ++ rest ∧
      (∀ message, (items.map Drawn.encoded)[count]? = some message →
        rest.length < message.length) ∧
      referenceParse octets = ⟨decoded, none, rest⟩ ∧
      List.Forall₂ Meant (items.take count) decoded := by
  obtain ⟨stream, hencoded, hdecoded, hmeant⟩ := decode_all hitems
  obtain ⟨count, rest, hcount, hreceived, hrest, hparse⟩ :=
    @Framing.parse_prefix _ _ _ mtp1Framing mtp1Framing_nil stream
      (fun pair hpair => encodes_of_decodeMessage (hdecoded pair hpair)) octets (hencoded ▸ h)
  have hlength := congrArg List.length hencoded
  rw [List.length_map, List.length_map] at hlength
  rw [hencoded] at hreceived hrest
  exact ⟨count, rest, (stream.map Prod.snd).take count, hlength ▸ hcount, hreceived, hrest,
    hparse, List.forall₂_take count hmeant⟩

/-! ## The decoder at the other end -/

theorem arrived {threshold : Binary32} {actions : List WiredAction} {final : Wired}
    (hrun : runFrom Wired.step (Wired.initial threshold) actions = some final)
    (hcapturable : AllCapturable (actions.flatMap WiredAction.calledWith)) {index : Nat}
    {messages : List WireMessage} {wire : Bytes}
    (hmessages : final.system.connections[index]? = some messages)
    (hwire : final.wires[index]? = some wire) {octets : Bytes} (harrived : octets <+: wire) :
    ∃ (sent : List Drawn) (count : Nat) (rest : Bytes) (decoded : List Message),
      messages = sent.map Drawn.encoded ∧ Greets (sent.map Drawn.type) ∧
      (∀ item ∈ sent, item.Shows (actions.flatMap WiredAction.calledWith)) ∧
      octets = (messages.take count).flatten ++ rest ∧
      (∀ message, messages[count]? = some message → rest.length < message.length) ∧
      referenceParse octets = ⟨decoded, none, rest⟩ ∧
      List.Forall₂ Meant (sent.take count) decoded := by
  obtain ⟨⟨route, haccounts⟩, hsourced, hwires⟩ := Wired.run_sound hrun
  obtain ⟨sent, hsent, rfl⟩ : ∃ sent, route.sent[index]? = some sent ∧
      sent.map Drawn.encoded = messages := by
    have hindex := hmessages
    rw [haccounts.connections, List.getElem?_map, Option.map_eq_some_iff] at hindex
    exact hindex
  obtain ⟨torn, htorn, hbroken⟩ := forall₂_at hwires.torn hmessages
  obtain rfl : torn = wire := Option.some.inj (htorn.symm.trans hwire)
  obtain ⟨more, hmore, hbegins, hunsent⟩ := hbroken.exists_prefix
  have hshown : ∀ item ∈ sent ++ more, item.Shows (actions.flatMap WiredAction.calledWith) := by
    intro item hitem
    refine hsourced.2 item ((List.mem_append.mp hitem).elim (fun hitem => ?_) (hmore item))
    apply haccounts.lanes.subset
    have hmem : sent ∈ route.sent := List.mem_of_getElem? hsent
    simp only [Route.line, List.mem_append, List.mem_flatten, List.mem_reverse]
    exact .inl (.inl ⟨sent, hmem, hitem⟩)
  obtain ⟨count, rest, decoded, hcount, hreceived, hrest, hparse, hmeant⟩ :=
    parse_drawn (fun item hitem => decode_drawn hcapturable (hshown item hitem))
      (List.map_append ▸ harrived.trans hbegins)
  rw [List.map_append] at hreceived hrest
  have hwhole : count ≤ sent.length := by
    by_contra hpast
    have hsent : (sent.map Drawn.encoded).length = sent.length := List.length_map _
    have hlong := hunsent count (by omega) (by simpa using hcount)
    have hshort := harrived.length_le
    rw [hreceived, List.length_append] at hshort
    omega
  rw [List.take_append_of_le_length (by simpa using hwhole)] at hreceived
  rw [List.take_append_of_le_length hwhole] at hmeant
  refine ⟨sent, count, rest, decoded, rfl, haccounts.greeted sent (List.mem_of_getElem? hsent),
    fun item hitem => hshown item (List.mem_append_left _ hitem), hreceived,
    fun message hmessage => hrest message ?_, hparse, hmeant⟩
  rw [List.getElem?_append_left (List.getElem?_eq_some_iff.mp hmessage).1]
  exact hmessage

/-- In every interleaving, with sends that break off anywhere, and where the touches that fit
into a frame have distinct identifiers and finite numbers: what arrives of a connection, in
any segments that the decoder's buffer has room for, is decoded without an error to the
messages that arrived in full, with all their fields, and the part of the next message
is kept.  Each FRAME among them shows the touches of one call of `contact_callback`, or
none. -/
theorem wire_decodes {threshold : Binary32} {actions : List WiredAction} {final : Wired}
    (hrun : runFrom Wired.step (Wired.initial threshold) actions = some final)
    (hcapturable : AllCapturable (actions.flatMap WiredAction.calledWith)) {index : Nat}
    {messages : List WireMessage} {wire : Bytes}
    (hmessages : final.system.connections[index]? = some messages)
    (hwire : final.wires[index]? = some wire) {segments : List Bytes}
    (harrived : segments.flatten <+: wire)
    (hlimit : (receiveAll segments).error ≠ some .streamBufferLimit) :
    ∃ (sent : List Drawn) (count : Nat) (rest : Bytes),
      messages = sent.map Drawn.encoded ∧
      (∀ item ∈ sent, item.Shows (actions.flatMap WiredAction.calledWith)) ∧
      segments.flatten = (messages.take count).flatten ++ rest ∧
      (∀ message, messages[count]? = some message → rest.length < message.length) ∧
      (receiveAll segments).error = none ∧
      List.Forall₂ Meant (sent.take count) (receiveAll segments).popped ∧
      (receiveAll segments).decoder.buffer = rest := by
  obtain ⟨sent, count, rest, decoded, hsent, -, hshown, hreceived, hrest, hparse, hmeant⟩ :=
    arrived hrun hcapturable hmessages hwire harrived
  have hsegments : ((segments.map fun bytes => (bytes, Popping.all)).map Prod.fst).flatten =
      segments.flatten := by
    simp [Function.comp_def]
  obtain ⟨hall, herror, hbuffer⟩ := feed_parses {} _ (mtp1Verdict_short (by decide)) hlimit
  simp only [List.nil_append, hsegments, hparse] at hall herror hbuffer
  have hqueue := feed_all_queue {} segments rfl herror
  rw [Fed.decoded, hqueue, List.append_nil] at hall
  have hpopped : (receiveAll segments).popped = decoded := hall
  exact ⟨sent, count, rest, hsent, hshown, hreceived, hrest, herror, hpopped ▸ hmeant,
    hbuffer herror⟩

/-! ## A send that breaks off -/

def brokenOff : List WiredAction :=
  List.replicate 5 (.threads (.sender true 0)) ++
    [.send [.sent 10, .interrupted, .sent 26] 0, .threads (.sender true 0), .send [.sent 36] 0] ++
    List.replicate 3 (.threads (.sender true 0)) ++
    (reachMutex 0 ++ passMutex 0).map .threads ++
    List.replicate 3 (.threads (.sender true 0)) ++ [.send [.sent 20, .failed] 0]

theorem wire_decodes_broken_off :
    ∃ (final : Wired) (wire : Bytes),
      runFrom Wired.step (Wired.initial 0) brokenOff = some final ∧ final.wires = [wire] ∧
        (receiveAll [wire.take 50, wire.drop 50]).error = none ∧
        (receiveAll [wire.take 50, wire.drop 50]).decoder.buffer.length = 20 ∧
        (receiveAll [wire.take 50, wire.drop 50]).decoder.buffer <:+ wire := by
  have hvalues : (runFrom Wired.step (Wired.initial 0) brokenOff).map (fun final =>
      (final.system.connections.length, final.wires.map fun wire =>
        (decide ((receiveAll [wire.take 50, wire.drop 50]).error ≠ some .streamBufferLimit),
          (receiveAll [wire.take 50, wire.drop 50]).decoder.buffer.length))) =
      some (1, [(true, 20)]) := by
    decide +kernel
  obtain ⟨final, hrun, hfinal⟩ := Option.map_eq_some_iff.mp hvalues
  obtain ⟨hconnections, hwires⟩ := Prod.mk.injEq .. ▸ hfinal
  obtain ⟨messages, hmessages⟩ := List.length_eq_one_iff.mp hconnections
  obtain ⟨wire, hwire, hreceived⟩ := List.map_eq_singleton_iff.mp hwires
  obtain ⟨hlimit, hlength⟩ := Prod.mk.injEq .. ▸ hreceived
  have hcapturable : AllCapturable (brokenOff.flatMap WiredAction.calledWith) := by
    intro touches htouches _
    have hempty : touches = [] := List.mem_singleton.mp htouches
    rw [hempty]
    decide
  have hflatten : [wire.take 50, wire.drop 50].flatten = wire := by simp
  obtain ⟨sent, count, rest, -, -, harrived, -, herror, -, hbuffer⟩ :=
    @wire_decodes 0 brokenOff final hrun hcapturable 0 messages wire (by rw [hmessages]; rfl)
      (by rw [hwire]; rfl) [wire.take 50, wire.drop 50] (by rw [hflatten]) (of_decide_eq_true hlimit)
  refine ⟨final, wire, hrun, hwire, herror, hlength, ?_⟩
  rw [hbuffer, ← hflatten, harrived]
  exact List.suffix_append _ _

end Touchpad.Link
