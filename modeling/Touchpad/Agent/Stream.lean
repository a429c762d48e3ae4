import Touchpad.Agent.Epoch
import Touchpad.Agent.Serial

/-!
# The stream of a connection

What the sender sends on a connection when calls are whole and the queue does not
overflow: a part, from the beginning, of HELLO, RESET and one frame for each call of
`contact_callback` that found the agent connected, under consecutive numbers.
-/

namespace Touchpad.Agent

open Touchpad.Foundation
open Touchpad.Protocol

/-! ## Messages of a connection -/

def capturedFrame (touches : List MTTouch) (deviceTimeUs : UInt64) (down : Bool)
    (sequence : UInt32) (captureTimeUs : UInt64) : TPFrame :=
  { contactFrame touches deviceTimeUs down with sequence, captureTimeUs }

theorem encodable_captured {touches : List MTTouch} (hfits : touches.length ≤ tpMaxContacts)
    (deviceTimeUs : UInt64) (down : Bool) (sequence : UInt32) (captureTimeUs : UInt64) :
    Encodable (capturedFrame touches deviceTimeUs down sequence captureTimeUs) :=
  ⟨(encodable_contactFrame hfits deviceTimeUs down).count, buttonFlags_masked down⟩

inductive Item where
  | hello
  | reset
  | frame (touches : List MTTouch)

def Item.Encodes (sequence : UInt32) : Item → WireMessage → Prop
  | .hello, message => ∃ now,
      message = (tpEncodeMessage tpMessageHello { sequence, captureTimeUs := now }
        tpMaxMessageSize).2
  | .reset, message => ∃ now,
      message = (tpEncodeMessage tpMessageReset { sequence, captureTimeUs := now }
        tpMaxMessageSize).2
  | .frame touches, message => ∃ deviceTimeUs down now,
      message = (tpEncodeMessage tpMessageFrame
        (capturedFrame touches deviceTimeUs down sequence now) tpMaxMessageSize).2

theorem Item.encodes_total (sequence : UInt32) (item : Item) :
    ∃ message, item.Encodes sequence message := by
  cases item with
  | hello => exact ⟨_, 0, rfl⟩
  | reset => exact ⟨_, 0, rfl⟩
  | frame touches => exact ⟨_, 0, false, 0, rfl⟩

def Stream (first : UInt32) (items : List Item) (messages : List WireMessage) : Prop :=
  Numbered (· + 1) Item.Encodes first items messages

def session (captured : List (List MTTouch)) : List Item :=
  .hello :: .reset :: captured.map .frame

theorem session_snoc (captured : List (List MTTouch)) (touches : List MTTouch) :
    session (captured ++ [touches]) = session captured ++ [.frame touches] := by
  simp [session]

def capturedOf (serial : Serial) : Event → List (List MTTouch)
  | .call (.contact touches _) _ => (admitted serial.agent touches).toList
  | _ => []

namespace Serial

variable {earlier : List (List WireMessage)} {captured : List (List MTTouch)}

/-! ## Stages of a connection -/

def Begun (serial : Serial) (earlier : List (List WireMessage))
    (captured : List (List MTTouch)) : Prop :=
  serial.agent.connected = false ∧ captured = [] ∧ serial.connections = [] :: earlier

def Greeting (serial : Serial) (earlier : List (List WireMessage))
    (captured : List (List MTTouch)) (items : List Item) : Prop :=
  serial.agent.connected = false ∧ captured = [] ∧ serial.agent.queue.contents = [] ∧
    ∃ messages first, serial.connections = messages :: earlier ∧
      Stream first items (messages ++ serial.sender.inFlight) ∧
      serial.agent.sequence + 1 = (· + 1)^[items.length] first

def Feeding (serial : Serial) (earlier : List (List WireMessage))
    (captured : List (List MTTouch)) : Prop :=
  serial.agent.connected = true ∧
    ∃ messages first, serial.connections = messages :: earlier ∧
      Stream first (session captured)
        (messages ++ serial.sender.inFlight ++ serial.agent.queue.contents) ∧
      serial.agent.sequence + 1 = (· + 1)^[(session captured).length] first

def Delivered (serial : Serial) (earlier : List (List WireMessage))
    (captured : List (List MTTouch)) : Prop :=
  ∃ messages rest first, serial.connections = messages :: earlier ∧
    Stream first (session captured) (messages ++ rest)

def Stage (serial : Serial) (earlier : List (List WireMessage))
    (captured : List (List MTTouch)) : SenderPc → Prop
  | .countingReconnect => serial.Begun earlier captured
  | .clearingQueue => serial.Begun earlier captured
  | .drawingHello => serial.Greeting earlier captured []
  | .sendingHello _ => serial.Greeting earlier captured [.hello]
  | .drawingReset => serial.Greeting earlier captured [.hello]
  | .sendingReset _ => serial.Greeting earlier captured [.hello, .reset]
  | .clearingRequest => serial.Greeting earlier captured [.hello, .reset]
  | .clearingLatest => serial.Greeting earlier captured [.hello, .reset]
  | .settingConnected => serial.Greeting earlier captured [.hello, .reset]
  | .testingLoop => serial.Feeding earlier captured
  | .testingRequest => serial.Feeding earlier captured
  | .popping => serial.Feeding earlier captured
  | .sending _ => serial.Feeding earlier captured
  | .countingSent => serial.Feeding earlier captured
  | _ => serial.Delivered earlier captured

theorem delivered_of_stream {serial : Serial} {messages rest : List WireMessage}
    {first : UInt32} {items : List Item} (hconnections : serial.connections = messages :: earlier)
    (hstream : Stream first items (messages ++ rest)) (hitems : items <+: session captured) :
    serial.Delivered earlier captured := by
  obtain ⟨more, hmore⟩ := hitems
  obtain ⟨others, hothers⟩ := Numbered.extend hstream Item.encodes_total more
  rw [hmore, List.append_assoc] at hothers
  exact ⟨messages, rest ++ others, first, hconnections, hothers⟩

theorem Greeting.delivered {serial : Serial} {items : List Item}
    (h : serial.Greeting earlier captured items) (hitems : items <+: [.hello, .reset]) :
    serial.Delivered earlier captured := by
  obtain ⟨-, -, -, messages, first, hconnections, hstream, -⟩ := h
  exact delivered_of_stream hconnections hstream (hitems.trans ⟨captured.map .frame, rfl⟩)

theorem Feeding.delivered {serial : Serial} (h : serial.Feeding earlier captured) :
    serial.Delivered earlier captured := by
  obtain ⟨-, messages, first, hconnections, hstream, -⟩ := h
  rw [List.append_assoc] at hstream
  exact ⟨messages, _, first, hconnections, hstream⟩

theorem Stage.delivered {serial : Serial} (h : serial.Stage earlier captured serial.sender) :
    serial.Delivered earlier captured := by
  cases hsender : serial.sender with
  | countingReconnect | clearingQueue =>
      rw [hsender] at h
      obtain ⟨-, rfl, hconnections⟩ := h
      exact delivered_of_stream hconnections (.nil 0) List.nil_prefix
  | drawingHello | sendingHello message | drawingReset | sendingReset message | clearingRequest
  | clearingLatest | settingConnected =>
      rw [hsender] at h
      exact Greeting.delivered h (by simp [List.cons_prefix_cons])
  | testingLoop | testingRequest | popping | sending message | countingSent =>
      rw [hsender] at h
      exact Feeding.delivered h
  | testingRunning | connecting | abandoning | droppingConnected | clearingAfter | closing
  | exited =>
      rw [hsender] at h
      exact h

/-! ## Steps of the sender -/

theorem Greeting.draw {serial : Serial} {items : List Item}
    (h : serial.Greeting earlier captured items) (hidle : serial.sender.inFlight = [])
    (item : Item) {message : WireMessage}
    (hitem : item.Encodes (serial.agent.sequence + 1) message) {sender : SenderPc}
    (hsender : sender.inFlight = [message]) :
    Greeting
      { serial with
        agent := { serial.agent with sequence := serial.agent.sequence + 1 }
        sender } earlier captured (items ++ [item]) := by
  obtain ⟨hconnected, hcaptured, hqueue, messages, first, hconnections, hstream, hsequence⟩ := h
  refine ⟨hconnected, hcaptured, hqueue, messages, first, hconnections, ?_, ?_⟩
  · rw [hidle, List.append_nil] at hstream
    rw [hsender]
    exact Numbered.snoc hstream (hsequence ▸ hitem)
  · rw [List.length_append, List.length_singleton, Function.iterate_succ_apply', ← hsequence]

theorem Greeting.deliver {serial : Serial} {items : List Item} {message : WireMessage}
    (h : serial.Greeting earlier captured items) (hflight : serial.sender.inFlight = [message])
    {sender : SenderPc} (hsender : sender.inFlight = []) :
    Greeting ⟨serial.agent, sender, Agent.deliver message serial.connections⟩ earlier captured
      items := by
  obtain ⟨hconnected, hcaptured, hqueue, messages, first, hconnections, hstream, hsequence⟩ := h
  refine ⟨hconnected, hcaptured, hqueue, messages ++ [message], first, ?_, ?_, hsequence⟩
  · rw [hconnections]
    rfl
  · rw [hsender, List.append_nil, ← hflight]
    exact hstream

theorem Feeding.deliver {serial : Serial} {message : WireMessage}
    (h : serial.Feeding earlier captured) (hflight : serial.sender.inFlight = [message])
    {sender : SenderPc} (hsender : sender.inFlight = []) :
    Feeding ⟨serial.agent, sender, Agent.deliver message serial.connections⟩ earlier
      captured := by
  obtain ⟨hconnected, messages, first, hconnections, hstream, hsequence⟩ := h
  refine ⟨hconnected, messages ++ [message], first, ?_, ?_, hsequence⟩
  · rw [hconnections]
    rfl
  · rw [hsender, List.append_nil, ← hflight]
    exact hstream

theorem Delivered.congr {serial next : Serial} (h : serial.Delivered earlier captured)
    (hsame : next.connections = serial.connections) : next.Delivered earlier captured := by
  obtain ⟨messages, rest, first, hconnections, hstream⟩ := h
  exact ⟨messages, rest, first, hsame.trans hconnections, hstream⟩

theorem Stage.onward {serial : Serial} {next : AgentState} {after : SenderPc}
    (h : serial.Stage earlier captured serial.sender)
    (hadvances : Advances serial.agent true serial.sender next after) :
    Stage ⟨next, after, serial.connections⟩ earlier captured after := by
  have hdelivered := h.delivered
  obtain ⟨agent, sender, connections⟩ := serial
  cases hadvances with
  | reconnect | request | latest | running | unrequested | sent => exact h
  | online =>
      obtain ⟨-, rfl, hqueue, messages, first, hconnections, hstream, hsequence⟩ := h
      refine ⟨rfl, messages, first, hconnections, ?_, hsequence⟩
      dsimp only at hqueue
      rw [hqueue, List.append_nil]
      exact hstream
  | offline => exact hdelivered.congr rfl

theorem senderStep_stage {serial : Serial} {succeeds : Bool} {now : UInt64} {sent : Sent}
    (hvalid : serial.agent.queue.Valid) (h : serial.Stage earlier captured serial.sender)
    (hstays : serial.sender ≠ .connecting)
    (hstep : senderStep serial.agent true serial.connections succeeds now serial.sender =
      some sent) :
    sent.agent.queue.Valid ∧
      Stage ⟨sent.agent, sent.sender, sent.connections⟩ earlier captured sent.sender := by
  have hdelivered := h.delivered
  obtain ⟨agent, sender, connections⟩ := serial
  cases senderStep_cases hstep with
  | connects => exact absurd rfl hstays
  | clears =>
      obtain ⟨hconnected, hcaptured, hconnections⟩ := h
      exact ⟨MessageQueue.valid_clear _, hconnected, hcaptured, rfl, [], agent.sequence + 1,
        hconnections, .nil _, rfl⟩
  | clearsAfter => exact ⟨MessageQueue.valid_clear _, hdelivered.congr rfl⟩
  | draws hdraws =>
      cases hdraws with
      | hello => exact ⟨hvalid, Greeting.draw h rfl .hello ⟨now, rfl⟩ rfl⟩
      | reset => exact ⟨hvalid, Greeting.draw h rfl .reset ⟨now, rfl⟩ rfl⟩
  | delivers hsucceeds hdelivers =>
      cases hdelivers with
      | hello | reset => exact ⟨hvalid, Greeting.deliver h rfl rfl⟩
      | frame => exact ⟨hvalid, Feeding.deliver h rfl rfl⟩
  | pops message queue hpop =>
      obtain ⟨hnext, hcontents⟩ := MessageQueue.queuePop_eq_some hvalid hpop
      obtain ⟨hconnected, messages, first, hconnections, hstream, hsequence⟩ := h
      refine ⟨hnext, hconnected, messages, first, hconnections, ?_, hsequence⟩
      dsimp only at hstream
      rw [hcontents] at hstream
      simpa [SenderPc.inFlight] using hstream
  | advances hadvances =>
      have hafter := h.onward hadvances
      cases hadvances <;> exact ⟨hvalid, hafter⟩
  | leaves hleaves =>
      cases hleaves <;> exact ⟨hvalid, hdelivered.congr rfl⟩

/-! ## Calls -/

theorem pushFrame_taken {agent : AgentState} {frame : TPFrame} (hencodable : Encodable frame)
    (hvalid : agent.queue.Valid) (hroom : agent.queue.count < queueCapacity) :
    ∃ queue, pushFrame agent frame = ({ agent with queue }, true) ∧ queue.Valid ∧
      queue.contents = agent.queue.contents ++
        [(tpEncodeMessage tpMessageFrame frame tpMaxMessageSize).2] := by
  have hlength := (tpEncodeMessage_accepted (.inr (.inl rfl)) hencodable).1
  rcases MessageQueue.queuePush_cases hvalid
    (tpEncodeMessage tpMessageFrame frame tpMaxMessageSize).2 with ⟨hfull, -⟩ | ⟨-, htaken, hpushed⟩
  · exact absurd hfull hroom.ne
  · refine ⟨_, ?_, hpushed⟩
    unfold pushFrame
    dsimp only
    rw [if_pos ⟨hlength, htaken⟩]

theorem contactCallback_captured {agent : AgentState} {touches : Option (List MTTouch)}
    {taken : List MTTouch} (hadmitted : admitted agent touches = some taken)
    (hvalid : agent.queue.Valid) (hroom : agent.queue.count < queueCapacity)
    (now deviceTimeUs : UInt64) :
    let next := (contactCallback agent now touches deviceTimeUs).1
    next.queue.Valid ∧ next.connected = true ∧ next.sequence = agent.sequence + 1 ∧
      ∃ message, Item.Encodes (agent.sequence + 1) (.frame taken) message ∧
        next.queue.contents = agent.queue.contents ++ [message] := by
  obtain ⟨-, hconnected, hfits, hcall⟩ := contactCallback_admitted hadmitted now deviceTimeUs
  intro next
  let down := effectiveButtonDown (advancePressure agent.pressureThreshold taken agent.pressure)
    agent.physicalButtonDown
  let frame := capturedFrame taken deviceTimeUs down (agent.sequence + 1) now
  let built : AgentState := { (buildFrame { agent with captured := agent.captured + 1 }
    (.contact taken deviceTimeUs)).1 with sequence := agent.sequence + 1 }
  have hencodable : Encodable frame := encodable_captured hfits deviceTimeUs down _ now
  obtain ⟨queue, hpushed, hqueue, hcontents⟩ :=
    @pushFrame_taken built frame hencodable hvalid hroom
  have hnext : next = { built with queue } := by
    change (contactCallback agent now touches deviceTimeUs).1 = _
    rw [hcall]
    exact congrArg Prod.fst hpushed
  rw [hnext]
  exact ⟨hqueue, hconnected, rfl, _, ⟨deviceTimeUs, down, now, rfl⟩, hcontents⟩

theorem call_stage {serial : Serial} {touches : Option (List MTTouch)} {deviceTimeUs now : UInt64}
    (hvalid : serial.agent.queue.Valid) (h : serial.Stage earlier captured serial.sender)
    (hroom : ∀ taken, admitted serial.agent touches = some taken →
      serial.agent.queue.count < queueCapacity) :
    let next : Serial :=
      { serial with agent := (contactCallback serial.agent now touches deviceTimeUs).1 }
    next.agent.queue.Valid ∧
      next.Stage earlier (captured ++ (admitted serial.agent touches).toList) next.sender := by
  intro next
  cases hadmitted : admitted serial.agent touches with
  | none =>
      obtain ⟨counted, dropped, hskipped⟩ := contactCallback_skipped hadmitted now deviceTimeUs
      have hnext : next = { serial with
          agent := { serial.agent with captured := counted, dropped } } := by
        change { serial with agent := (contactCallback serial.agent now touches deviceTimeUs).1 } = _
        rw [hskipped]
      rw [hnext, Option.toList_none, List.append_nil]
      exact ⟨hvalid, h⟩
  | some taken =>
      have hdelivered := h.delivered
      obtain ⟨-, honline, -⟩ := contactCallback_admitted hadmitted now deviceTimeUs
      obtain ⟨hqueue, hconnected, hnumber, message, hmessage, hcontents⟩ :=
        contactCallback_captured hadmitted hvalid (hroom taken hadmitted) now deviceTimeUs
      refine ⟨hqueue, ?_⟩
      have hfeeding : serial.Feeding earlier captured →
          next.Feeding earlier (captured ++ [taken]) := by
        rintro ⟨-, messages, first, hconnections, hstream, hsequence⟩
        refine ⟨hconnected, messages, first, hconnections, ?_, ?_⟩
        · rw [session_snoc, hcontents, ← List.append_assoc]
          exact Numbered.snoc hstream (hsequence ▸ hmessage)
        · rw [session_snoc, List.length_append, List.length_singleton,
            Function.iterate_succ_apply', ← hsequence, hnumber]
      have hended : next.Delivered earlier (captured ++ [taken]) := by
        obtain ⟨messages, rest, first, hconnections, hstream⟩ := hdelivered
        refine delivered_of_stream hconnections hstream ?_
        rw [session_snoc]
        exact List.prefix_append _ _
      rw [Option.toList_some]
      change next.Stage earlier (captured ++ [taken]) serial.sender
      cases hsender : serial.sender with
      | countingReconnect | clearingQueue | drawingHello | sendingHello message | drawingReset
      | sendingReset message | clearingRequest | clearingLatest | settingConnected =>
          rw [hsender] at h
          exact absurd (honline.symm.trans h.1) (by decide)
      | testingLoop | testingRequest | popping | sending message | countingSent =>
          rw [hsender] at h
          exact hfeeding h
      | testingRunning | connecting | abandoning | droppingConnected | clearingAfter | closing
      | exited => exact hended

end Serial

/-! ## Runs of one connection -/

def MTTouch.floats (touch : MTTouch) : List Binary32 :=
  [touch.x, touch.y, touch.velocityX, touch.velocityY, touch.size, touch.angle,
    touch.majorAxis, touch.minorAxis, touch.density]

structure Capturable (touches : List MTTouch) : Prop where
  distinct : (touches.map MTTouch.identifier).Nodup
  finite : ∀ touch ∈ touches, ∀ float ∈ touch.floats, Binary32.isFinite float = true

instance (touches : List MTTouch) : Decidable (Capturable touches) :=
  decidable_of_iff
    ((touches.map MTTouch.identifier).Nodup ∧
      ∀ touch ∈ touches, touch.floats.all Binary32.isFinite = true)
    ⟨fun h => ⟨h.1, fun touch htouch => List.all_eq_true.mp (h.2 touch htouch)⟩,
      fun h => ⟨h.1, fun touch htouch => List.all_eq_true.mpr (h.2 touch htouch)⟩⟩

/-- Calls of `contact_callback` and steps of the sender on one connection, as long as
the queue does not overflow. -/
def Captures (serial : Serial) : Event → Prop
  | .stop => True
  | .sender _ _ => serial.sender ≠ .connecting
  | .call (.button _ _) _ => False
  | .call (.contact touches _) _ =>
      ∀ taken ∈ admitted serial.agent touches,
        Capturable taken ∧ serial.agent.queue.count < queueCapacity

instance decidableCaptures (serial : Serial) : ∀ event, Decidable (Captures serial event)
  | .stop => .isTrue trivial
  | .sender _ _ => inferInstanceAs (Decidable (¬ _))
  | .call (.button _ _) _ => .isFalse id
  | .call (.contact _ _) _ => inferInstanceAs (Decidable (∀ _ ∈ _, _))

structure OnConnection (earlier : List (List WireMessage)) (serial : Serial)
    (captured : List (List MTTouch)) : Prop where
  queue : serial.agent.queue.Valid
  stage : serial.Stage earlier captured serial.sender
  capturable : ∀ touches ∈ captured, Capturable touches ∧ touches.length ≤ tpMaxContacts

theorem step_onConnection {earlier : List (List WireMessage)} {serial next : Serial}
    {event : Event} {captured : List (List MTTouch)} (h : OnConnection earlier serial captured)
    (hcaptures : Captures serial event) (hstep : serial.step event = some next) :
    OnConnection earlier next (captured ++ capturedOf serial event) := by
  obtain ⟨hqueue, hstage, hcapturable⟩ := h
  cases event with
  | stop =>
      cases hstep
      rw [show capturedOf serial .stop = [] from rfl, List.append_nil]
      exact ⟨hqueue, hstage, hcapturable⟩
  | sender succeeds now =>
      obtain ⟨sent, hsent, rfl⟩ := Serial.step_sender hstep
      obtain ⟨hnext, hafter⟩ := Serial.senderStep_stage hqueue hstage hcaptures hsent
      rw [show capturedOf serial (.sender succeeds now) = [] from rfl, List.append_nil]
      exact ⟨hnext, hafter, hcapturable⟩
  | call invocation now =>
      cases invocation with
      | button pressed released => exact absurd hcaptures id
      | contact touches deviceTimeUs =>
          cases hstep
          obtain ⟨hnext, hafter⟩ := Serial.call_stage hqueue hstage
            fun taken htaken => (hcaptures taken htaken).2
          refine ⟨hnext, hafter, ?_⟩
          intro other hother
          rcases List.mem_append.mp hother with hother | hother
          · exact hcapturable other hother
          · have htaken : admitted serial.agent touches = some other := by
              simpa [capturedOf] using hother
            obtain ⟨-, -, hfits, -⟩ := contactCallback_admitted htaken now deviceTimeUs
            exact ⟨(hcaptures other htaken).1, hfits⟩

/-! ## Before a connection -/

def SenderPc.online : SenderPc → Bool
  | .testingLoop => true
  | .testingRequest => true
  | .popping => true
  | .sending _ => true
  | .countingSent => true
  | .droppingConnected => true
  | _ => false

structure Ready (serial : Serial) : Prop where
  queue : serial.agent.queue.Valid
  online : serial.agent.connected = true → serial.sender.online = true
  opened : serial.sender = .countingReconnect →
    ∃ earlier, serial.connections = [] :: earlier

theorem ready_initial (threshold : Binary32) : Ready (Serial.initial threshold) where
  queue := MessageQueue.valid_initial
  online h := by cases h
  opened h := by cases h

theorem pushFrame_ready {agent : AgentState} {frame : TPFrame} (hvalid : agent.queue.Valid) :
    (pushFrame agent frame).1.queue.Valid ∧
      ((pushFrame agent frame).1.connected = true → agent.connected = true) := by
  unfold pushFrame
  dsimp only
  split
  · rcases MessageQueue.queuePush_cases hvalid
      (tpEncodeMessage tpMessageFrame frame tpMaxMessageSize).2 with ⟨-, hsame⟩ | ⟨-, -, hpushed, -⟩
    · rw [hsame]
      exact ⟨hvalid, id⟩
    · exact ⟨hpushed, id⟩
  · exact ⟨MessageQueue.valid_clear _, fun h => by cases h⟩

theorem enqueuePending_ready {agent : AgentState} (hvalid : agent.queue.Valid) (now : UInt64)
    (pending : Pending) :
    (enqueuePending agent now pending).1.queue.Valid ∧
      ((enqueuePending agent now pending).1.connected = true → agent.connected = true) := by
  have hbuilt : (buildFrame agent pending).1.queue = agent.queue := buildFrame_queue agent pending
  have hconnected : (buildFrame agent pending).1.connected = agent.connected := by
    cases pending <;> rfl
  rw [← hbuilt] at hvalid
  rw [enqueuePending_pushes, ← hconnected]
  exact pushFrame_ready hvalid

theorem perform_ready {agent : AgentState} (hvalid : agent.queue.Valid) (now : UInt64)
    (invocation : Invocation) :
    (invocation.perform agent now).1.queue.Valid ∧
      ((invocation.perform agent now).1.connected = true → agent.connected = true) := by
  cases invocation with
  | contact touches deviceTimeUs =>
      rw [Invocation.perform]
      cases hadmitted : admitted agent touches with
      | none =>
          obtain ⟨captured, dropped, hskipped⟩ :=
            contactCallback_skipped hadmitted now deviceTimeUs
          rw [hskipped]
          exact ⟨hvalid, id⟩
      | some taken =>
          obtain ⟨-, -, -, hcall⟩ := contactCallback_admitted hadmitted now deviceTimeUs
          rw [hcall]
          exact @enqueuePending_ready { agent with captured := agent.captured + 1 } hvalid now _
  | button pressed released =>
      obtain ⟨physicalButtonDown, buttonEvents, hstored⟩ := storeButton_eq agent pressed released
      rw [Invocation.perform, buttonCallback, hstored]
      dsimp only
      split
      · exact ⟨hvalid, id⟩
      · exact @enqueuePending_ready { agent with physicalButtonDown, buttonEvents } hvalid now _

theorem senderStep_ready {serial : Serial} {succeeds : Bool} {now : UInt64} {sent : Sent}
    (h : Ready serial)
    (hstep : senderStep serial.agent true serial.connections succeeds now serial.sender =
      some sent) :
    Ready ⟨sent.agent, sent.sender, sent.connections⟩ := by
  obtain ⟨hqueue, honline, -⟩ := h
  obtain ⟨agent, sender, connections⟩ := serial
  cases senderStep_cases hstep with
  | connects => exact ⟨hqueue, honline, fun _ => ⟨connections, rfl⟩⟩
  | clears | clearsAfter => exact ⟨MessageQueue.valid_clear _, honline, by simp⟩
  | draws hdraws =>
      cases hdraws <;> exact ⟨hqueue, honline, by simp⟩
  | delivers hsucceeds hdelivers =>
      cases hdelivers <;> exact ⟨hqueue, honline, by simp⟩
  | pops message queue hpop =>
      exact ⟨(MessageQueue.queuePop_eq_some hqueue hpop).1, fun _ => rfl, by simp⟩
  | advances hadvances =>
      cases hadvances with
      | online => exact ⟨hqueue, fun _ => rfl, by simp⟩
      | offline => exact ⟨hqueue, by simp, by simp⟩
      | _ => exact ⟨hqueue, honline, by simp⟩
  | leaves hleaves =>
      cases hleaves with
      | stopped | requested | drained | frameLost => exact ⟨hqueue, fun _ => rfl, by simp⟩
      | _ => exact ⟨hqueue, honline, by simp⟩

theorem step_ready {serial next : Serial} {event : Event} (h : Ready serial)
    (hstep : serial.step event = some next) : Ready next := by
  cases event with
  | stop =>
      cases hstep
      exact ⟨h.queue, h.online, h.opened⟩
  | sender succeeds now =>
      obtain ⟨sent, hsent, rfl⟩ := Serial.step_sender hstep
      exact senderStep_ready h hsent
  | call invocation now =>
      cases hstep
      obtain ⟨hqueue, hconnected⟩ := perform_ready h.queue now invocation
      exact ⟨hqueue, fun honline => h.online (hconnected honline), h.opened⟩

/-- What is sent on a connection is a part, from the beginning, of the session that the
calls on it make up. -/
theorem connection_stream {threshold : Binary32} {opening events : List Event}
    {start final : Serial}
    (hopening : runFrom Serial.step (Serial.initial threshold) opening = some start)
    (hstart : start.sender = .countingReconnect)
    (hcaptures : Along Serial.step Captures start events)
    (hrun : runFrom Serial.step start events = some final) :
    let captured := observed Serial.step capturedOf start events
    (∃ messages rest first earlier, final.connections = messages :: earlier ∧
      Stream first (session captured) (messages ++ rest)) ∧
    ∀ touches ∈ captured, Capturable touches ∧ touches.length ≤ tpMaxContacts := by
  intro captured
  have hready : Ready start :=
    runFrom_induction (fun _ _ _ hready _ hstep => step_ready hready hstep)
      (ready_initial threshold) (along_of_forall (fun _ _ => trivial) _ opening) hopening
  obtain ⟨earlier, hearlier⟩ := hready.opened hstart
  have hoffline : start.agent.connected = false := by
    cases hconnected : start.agent.connected with
    | false => rfl
    | true =>
        have honline := hready.online hconnected
        rw [hstart] at honline
        cases honline
  have hbegun : OnConnection earlier start [] := by
    refine ⟨hready.queue, ?_, by simp⟩
    rw [hstart]
    exact ⟨hoffline, rfl, hearlier⟩
  obtain ⟨-, hstage, hcapturable⟩ :=
    runFrom_observed (fun _ _ _ _ => step_onConnection) hbegun hcaptures hrun
  refine ⟨?_, hcapturable⟩
  obtain ⟨messages, rest, first, hconnections, hstream⟩ := hstage.delivered
  exact ⟨messages, rest, first, earlier, hconnections, hstream⟩

end Touchpad.Agent
