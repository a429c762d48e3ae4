import Touchpad.Agent.Callback
import Touchpad.Agent.MessageQueue
import Touchpad.Foundation.Transition

/-!
# The agent's threads

`sender_main`, `contact_callback` and `button_callback` of `mac/Agent/main.c` as a
step function.  Each atomic access, each body under the queue mutex and each socket
call is one step; so is each atomic access inside of the section that a callback
runs under the frame mutex, of which there is one at a time.  Traces are left out.
-/

namespace Touchpad.Agent

open Touchpad.Foundation
open Touchpad.Protocol

structure AgentState where
  queue : MessageQueue := {}
  running : Bool := true
  connected : Bool := false
  reconnectRequested : Bool := false
  sequence : UInt32 := 0
  captured : UInt64 := 0
  sent : UInt64 := 0
  dropped : UInt64 := 0
  reconnects : UInt64 := 0
  physicalButtonDown : Bool := false
  buttonEvents : UInt64 := 0
  pressure : Pressure := {}
  pressureThreshold : Binary32 := 0
  latestFrame : TPFrame := {}

/-- A call of one of the callbacks, with the `touch_count` touches, or none where
`touches` is null although the count is not zero, and the timestamp in microseconds. -/
inductive Invocation where
  | contact (touches : Option (List MTTouch)) (deviceTimeUs : UInt64)
  | button (pressed released : Int32)

inductive Pending where
  | contact (touches : List MTTouch) (deviceTimeUs : UInt64)
  | button

inductive CallbackPc where
  | idle
  | capturing (touches : Option (List MTTouch)) (deviceTimeUs : UInt64)
  | testingContact (touches : Option (List MTTouch)) (deviceTimeUs : UInt64)
  | dropping
  | pressing (pressed released : Int32)
  | releasing (released : Int32)
  | countingButton
  | testingButton
  | entering (pending : Pending)

inductive SectionPc where
  | building (pending : Pending)
  | drawing (frame : TPFrame)
  | pushing (frame : TPFrame)
  | droppingConnected
  | requesting
  | clearing
  | countingDropped
  | leaving

inductive SenderPc where
  | testingRunning
  | connecting
  | countingReconnect
  | clearingQueue
  | drawingHello
  | sendingHello (message : WireMessage)
  | drawingReset
  | sendingReset (message : WireMessage)
  | abandoning
  | clearingRequest
  | clearingLatest
  | settingConnected
  | testingLoop
  | testingRequest
  | popping
  | sending (message : WireMessage)
  | countingSent
  | droppingConnected
  | clearingAfter
  | closing
  | exited
  deriving DecidableEq

/-- All threads, and what was sent on each connection, the newest first. -/
structure System where
  agent : AgentState := {}
  sender : SenderPc := .testingRunning
  frameSection : Option SectionPc := none
  callbacks : Nat → CallbackPc := fun _ => .idle
  connections : List (List WireMessage) := []

inductive Action where
  | stop
  | call (thread : Nat) (invocation : Invocation)
  | callback (thread : Nat)
  | frameSection (now : UInt64)
  | sender (succeeds : Bool) (now : UInt64)

/-! ## Callbacks outside of the frame mutex -/

def Invocation.start : Invocation → CallbackPc
  | .contact touches deviceTimeUs => .capturing touches deviceTimeUs
  | .button pressed released => .pressing pressed released

/-- The next step of a callback; `none` where it has none, as in front of the mutex. -/
def callbackStep (agent : AgentState) : CallbackPc → Option (AgentState × CallbackPc)
  | .idle => none
  | .capturing touches deviceTimeUs =>
      some ({ agent with captured := agent.captured + 1 },
        .testingContact touches deviceTimeUs)
  | .testingContact touches deviceTimeUs =>
      if !agent.connected then some (agent, .idle)
      else
        match touches with
        | none => some (agent, .dropping)
        | some touches =>
            if tpMaxContacts < touches.length then some (agent, .dropping)
            else some (agent, .entering (.contact touches deviceTimeUs))
  | .dropping => some ({ agent with dropped := agent.dropped + 1 }, .idle)
  | .pressing pressed released =>
      some (if pressed ≠ 0 then { agent with physicalButtonDown := true } else agent,
        .releasing released)
  | .releasing released =>
      some (if released ≠ 0 then { agent with physicalButtonDown := false } else agent,
        .countingButton)
  | .countingButton =>
      some ({ agent with buttonEvents := agent.buttonEvents + 1 }, .testingButton)
  | .testingButton =>
      some (agent, if agent.connected then .entering .button else .idle)
  | .entering _ => none

def CallbackPc.bare : CallbackPc → Bool
  | .capturing _ _ | .testingContact _ _ | .entering (.contact _ _) => false
  | _ => true

inductive CallbackPc.Goes : CallbackPc → CallbackPc → Prop
  | captured (touches : Option (List MTTouch)) (deviceTimeUs : UInt64) :
      Goes (.capturing touches deviceTimeUs) (.testingContact touches deviceTimeUs)
  | passed (touches : List MTTouch) (deviceTimeUs : UInt64)
      (hfits : touches.length ≤ tpMaxContacts) :
      Goes (.testingContact (some touches) deviceTimeUs)
        (.entering (.contact touches deviceTimeUs))
  | bare (before after : CallbackPc) (hbare : after.bare = true) : Goes before after

/-- Outside of the frame mutex a callback writes counters and the physical button only. -/
theorem callbackStep_cases {agent next : AgentState} {pc after : CallbackPc}
    (hstep : callbackStep agent pc = some (next, after)) :
    (∃ captured dropped physicalButtonDown buttonEvents,
      next = { agent with captured, dropped, physicalButtonDown, buttonEvents }) ∧
      pc.Goes after := by
  cases pc with
  | idle => cases hstep
  | capturing touches deviceTimeUs =>
      cases hstep
      exact ⟨⟨_, _, _, _, rfl⟩, .captured touches deviceTimeUs⟩
  | testingContact touches deviceTimeUs =>
      unfold callbackStep at hstep
      dsimp only at hstep
      split at hstep
      · cases hstep
        exact ⟨⟨_, _, _, _, rfl⟩, .bare _ _ rfl⟩
      · cases touches with
        | none =>
            cases hstep
            exact ⟨⟨_, _, _, _, rfl⟩, .bare _ _ rfl⟩
        | some touches =>
            dsimp only at hstep
            split at hstep
            case isTrue =>
              cases hstep
              exact ⟨⟨_, _, _, _, rfl⟩, .bare _ _ rfl⟩
            case isFalse hfits =>
              cases hstep
              exact ⟨⟨_, _, _, _, rfl⟩, .passed touches deviceTimeUs (not_lt.mp hfits)⟩
  | pressing pressed released | releasing released =>
      cases hstep
      split <;> exact ⟨⟨_, _, _, _, rfl⟩, .bare _ _ rfl⟩
  | dropping | countingButton =>
      cases hstep
      exact ⟨⟨_, _, _, _, rfl⟩, .bare _ _ rfl⟩
  | testingButton =>
      cases hstep
      refine ⟨⟨_, _, _, _, rfl⟩, .bare _ _ ?_⟩
      split <;> rfl
  | entering pending => cases hstep

/-! ## The section under the frame mutex -/

def buildFrame (agent : AgentState) : Pending → AgentState × TPFrame
  | .contact touches deviceTimeUs =>
      let pressure := advancePressure agent.pressureThreshold touches agent.pressure
      let frame := contactFrame touches deviceTimeUs
        (effectiveButtonDown pressure agent.physicalButtonDown)
      ({ agent with pressure, latestFrame := frame }, frame)
  | .button =>
      let frame := buttonFrame agent.latestFrame
        (effectiveButtonDown agent.pressure agent.physicalButtonDown)
      ({ agent with latestFrame := frame }, frame)

/-- The next step of the section; it ends by releasing the mutex. -/
def sectionStep (agent : AgentState) (now : UInt64) :
    SectionPc → AgentState × Option SectionPc
  | .building pending =>
      let (agent, frame) := buildFrame agent pending
      (agent, some (.drawing frame))
  | .drawing frame =>
      let sequence := agent.sequence + 1
      ({ agent with sequence },
        some (.pushing { frame with sequence, captureTimeUs := now }))
  | .pushing frame =>
      let (length, message) := tpEncodeMessage tpMessageFrame frame tpMaxMessageSize
      if length = 0 then (agent, some .droppingConnected)
      else
        let (accepted, queue) := queuePush agent.queue message
        ({ agent with queue }, some (if accepted then .leaving else .droppingConnected))
  | .droppingConnected => ({ agent with connected := false }, some .requesting)
  | .requesting => ({ agent with reconnectRequested := true }, some .clearing)
  | .clearing =>
      ({ agent with queue := queueClear agent.queue }, some .countingDropped)
  | .countingDropped => ({ agent with dropped := agent.dropped + 1 }, some .leaving)
  | .leaving => (agent, none)

/-! ## The sender -/

def drawControl (agent : AgentState) (type : TPMessageType) (now : UInt64) :
    AgentState × WireMessage :=
  let sequence := agent.sequence + 1
  ({ agent with sequence },
    (tpEncodeMessage type { sequence, captureTimeUs := now } tpMaxMessageSize).2)

structure Sent where
  agent : AgentState
  sender : SenderPc
  connections : List (List WireMessage)

def deliver (message : WireMessage) : List (List WireMessage) → List (List WireMessage)
  | [] => []
  | messages :: earlier => (messages ++ [message]) :: earlier

/-- The next step of the sender.  `succeeds` is the result of `connect` and `send`;
`none` where it waits, for the queue or for the frame mutex. -/
def senderStep (agent : AgentState) (mutexFree : Bool) (connections : List (List WireMessage))
    (succeeds : Bool) (now : UInt64) : SenderPc → Option Sent
  | .testingRunning =>
      some ⟨agent, if agent.running then .connecting else .exited, connections⟩
  | .connecting =>
      if succeeds then some ⟨agent, .countingReconnect, [] :: connections⟩
      else some ⟨agent, .testingRunning, connections⟩
  | .countingReconnect =>
      some ⟨{ agent with reconnects := agent.reconnects + 1 }, .clearingQueue, connections⟩
  | .clearingQueue =>
      some ⟨{ agent with queue := queueClear agent.queue }, .drawingHello, connections⟩
  | .drawingHello =>
      let (agent, message) := drawControl agent tpMessageHello now
      some ⟨agent, .sendingHello message, connections⟩
  | .sendingHello message =>
      if 0 < message.length ∧ succeeds = true then
        some ⟨agent, .drawingReset, deliver message connections⟩
      else some ⟨agent, .abandoning, connections⟩
  | .drawingReset =>
      let (agent, message) := drawControl agent tpMessageReset now
      some ⟨agent, .sendingReset message, connections⟩
  | .sendingReset message =>
      if 0 < message.length ∧ succeeds = true then
        some ⟨agent, .clearingRequest, deliver message connections⟩
      else some ⟨agent, .abandoning, connections⟩
  | .abandoning => some ⟨agent, .testingRunning, connections⟩
  | .clearingRequest =>
      some ⟨{ agent with reconnectRequested := false }, .clearingLatest, connections⟩
  | .clearingLatest =>
      if mutexFree then
        some ⟨{ agent with latestFrame := {} }, .settingConnected, connections⟩
      else none
  | .settingConnected => some ⟨{ agent with connected := true }, .testingLoop, connections⟩
  | .testingLoop =>
      some ⟨agent, if agent.running then .testingRequest else .droppingConnected, connections⟩
  | .testingRequest =>
      some ⟨agent, if agent.reconnectRequested then .droppingConnected else .popping,
        connections⟩
  | .popping =>
      match queuePop agent.queue with
      | some (message, queue) => some ⟨{ agent with queue }, .sending message, connections⟩
      | none =>
          if agent.running && !agent.reconnectRequested then none
          else some ⟨agent, .droppingConnected, connections⟩
  | .sending message =>
      if succeeds then some ⟨agent, .countingSent, deliver message connections⟩
      else some ⟨agent, .droppingConnected, connections⟩
  | .countingSent => some ⟨{ agent with sent := agent.sent + 1 }, .testingLoop, connections⟩
  | .droppingConnected => some ⟨{ agent with connected := false }, .clearingAfter, connections⟩
  | .clearingAfter =>
      some ⟨{ agent with queue := queueClear agent.queue }, .closing, connections⟩
  | .closing => some ⟨agent, .testingRunning, connections⟩
  | .exited => none

/-! ## What a step of the sender does -/

def SenderPc.inFlight : SenderPc → List WireMessage
  | .sendingHello message => [message]
  | .sendingReset message => [message]
  | .sending message => [message]
  | _ => []

inductive Advances (agent : AgentState) (mutexFree : Bool) :
    SenderPc → AgentState → SenderPc → Prop
  | reconnect : Advances agent mutexFree .countingReconnect
      { agent with reconnects := agent.reconnects + 1 } .clearingQueue
  | request : Advances agent mutexFree .clearingRequest
      { agent with reconnectRequested := false } .clearingLatest
  | latest (hfree : mutexFree = true) : Advances agent mutexFree .clearingLatest
      { agent with latestFrame := {} } .settingConnected
  | online : Advances agent mutexFree .settingConnected
      { agent with connected := true } .testingLoop
  | running (hrunning : agent.running = true) :
      Advances agent mutexFree .testingLoop agent .testingRequest
  | unrequested (hrequest : agent.reconnectRequested = false) :
      Advances agent mutexFree .testingRequest agent .popping
  | sent : Advances agent mutexFree .countingSent
      { agent with sent := agent.sent + 1 } .testingLoop
  | offline : Advances agent mutexFree .droppingConnected
      { agent with connected := false } .clearingAfter

inductive SenderPc.Leaves (running succeeds : Bool) : SenderPc → SenderPc → Prop
  | starting (hrunning : running = true) : Leaves running succeeds .testingRunning .connecting
  | ended (hrunning : running = false) : Leaves running succeeds .testingRunning .exited
  | unreachable (hfails : succeeds = false) :
      Leaves running succeeds .connecting .testingRunning
  | helloLost (message : WireMessage) (hlost : succeeds = true → message = []) :
      Leaves running succeeds (.sendingHello message) .abandoning
  | resetLost (message : WireMessage) (hlost : succeeds = true → message = []) :
      Leaves running succeeds (.sendingReset message) .abandoning
  | frameLost (message : WireMessage) (hlost : succeeds = true → message = []) :
      Leaves running succeeds (.sending message) .droppingConnected
  | stopped : Leaves running succeeds .testingLoop .droppingConnected
  | requested : Leaves running succeeds .testingRequest .droppingConnected
  | drained : Leaves running succeeds .popping .droppingConnected
  | abandoned : Leaves running succeeds .abandoning .testingRunning
  | closed : Leaves running succeeds .closing .testingRunning

inductive SenderPc.Draws : TPMessageType → SenderPc → (WireMessage → SenderPc) → Prop
  | hello : Draws tpMessageHello .drawingHello .sendingHello
  | reset : Draws tpMessageReset .drawingReset .sendingReset

inductive SenderPc.Delivers (message : WireMessage) : SenderPc → SenderPc → Prop
  | hello : Delivers message (.sendingHello message) .drawingReset
  | reset : Delivers message (.sendingReset message) .clearingRequest
  | frame : Delivers message (.sending message) .countingSent

inductive Sends (agent : AgentState) (mutexFree : Bool) (connections : List (List WireMessage))
    (succeeds : Bool) (now : UInt64) : SenderPc → Sent → Prop
  | connects (hsucceeds : succeeds = true) :
      Sends agent mutexFree connections succeeds now .connecting
        ⟨agent, .countingReconnect, [] :: connections⟩
  | clears : Sends agent mutexFree connections succeeds now .clearingQueue
      ⟨{ agent with queue := queueClear agent.queue }, .drawingHello, connections⟩
  | clearsAfter : Sends agent mutexFree connections succeeds now .clearingAfter
      ⟨{ agent with queue := queueClear agent.queue }, .closing, connections⟩
  | draws {type : TPMessageType} {before : SenderPc} {after : WireMessage → SenderPc}
      (hdraws : SenderPc.Draws type before after) :
      Sends agent mutexFree connections succeeds now before
        ⟨(drawControl agent type now).1, after (drawControl agent type now).2, connections⟩
  | delivers {message : WireMessage} {before after : SenderPc} (hsucceeds : succeeds = true)
      (hdelivers : SenderPc.Delivers message before after) :
      Sends agent mutexFree connections succeeds now before
        ⟨agent, after, deliver message connections⟩
  | pops (message : WireMessage) (queue : MessageQueue)
      (hpop : queuePop agent.queue = some (message, queue)) :
      Sends agent mutexFree connections succeeds now .popping
        ⟨{ agent with queue }, .sending message, connections⟩
  | advances {before after : SenderPc} {next : AgentState}
      (hadvances : Advances agent mutexFree before next after) :
      Sends agent mutexFree connections succeeds now before ⟨next, after, connections⟩
  | leaves {before after : SenderPc}
      (hleaves : SenderPc.Leaves agent.running succeeds before after) :
      Sends agent mutexFree connections succeeds now before ⟨agent, after, connections⟩

theorem senderStep_cases {agent : AgentState} {mutexFree succeeds : Bool}
    {connections : List (List WireMessage)} {now : UInt64} {sender : SenderPc} {sent : Sent}
    (h : senderStep agent mutexFree connections succeeds now sender = some sent) :
    Sends agent mutexFree connections succeeds now sender sent := by
  cases sender with
  | testingRunning =>
      cases h
      split
      case isTrue hrunning => exact .leaves (.starting hrunning)
      case isFalse hended => exact .leaves (.ended (Bool.eq_false_of_not_eq_true hended))
  | connecting =>
      rw [senderStep] at h
      split at h
      case isTrue hsucceeds =>
        cases h
        exact .connects hsucceeds
      case isFalse hfails =>
        cases h
        exact .leaves (.unreachable (Bool.eq_false_of_not_eq_true hfails))
  | countingReconnect =>
      cases h
      exact .advances .reconnect
  | clearingQueue =>
      cases h
      exact .clears
  | drawingHello =>
      cases h
      exact .draws .hello
  | sendingHello message =>
      rw [senderStep] at h
      split at h
      case isTrue hsucceeds =>
        cases h
        exact .delivers hsucceeds.2 .hello
      case isFalse hfails =>
        cases h
        exact .leaves (.helloLost message fun hsucceeds => by simpa [hsucceeds] using hfails)
  | drawingReset =>
      cases h
      exact .draws .reset
  | sendingReset message =>
      rw [senderStep] at h
      split at h
      case isTrue hsucceeds =>
        cases h
        exact .delivers hsucceeds.2 .reset
      case isFalse hfails =>
        cases h
        exact .leaves (.resetLost message fun hsucceeds => by simpa [hsucceeds] using hfails)
  | abandoning =>
      cases h
      exact .leaves .abandoned
  | clearingRequest =>
      cases h
      exact .advances .request
  | clearingLatest =>
      rw [senderStep] at h
      split at h
      case isTrue hfree =>
        cases h
        exact .advances (.latest hfree)
      case isFalse => cases h
  | settingConnected =>
      cases h
      exact .advances .online
  | testingLoop =>
      cases h
      split
      case isTrue hrunning => exact .advances (.running hrunning)
      case isFalse => exact .leaves .stopped
  | testingRequest =>
      cases h
      split
      case isTrue => exact .leaves .requested
      case isFalse hrequest =>
        exact .advances (.unrequested (Bool.eq_false_of_not_eq_true hrequest))
  | popping =>
      rw [senderStep] at h
      split at h
      case h_1 message queue hpop =>
        cases h
        exact .pops message queue hpop
      case h_2 =>
        split at h
        · cases h
        · cases h
          exact .leaves .drained
  | sending message =>
      rw [senderStep] at h
      split at h
      case isTrue hsucceeds =>
        cases h
        exact .delivers hsucceeds .frame
      case isFalse hfails =>
        cases h
        exact .leaves (.frameLost message fun hsucceeds => absurd hsucceeds hfails)
  | countingSent =>
      cases h
      exact .advances .sent
  | droppingConnected =>
      cases h
      exact .advances .offline
  | clearingAfter =>
      cases h
      exact .clearsAfter
  | closing =>
      cases h
      exact .leaves .closed
  | exited => cases h

/-! ## The system -/

namespace System

def step (system : System) : Action → Option System
  | .stop => some { system with agent := { system.agent with running := false } }
  | .call thread invocation =>
      match system.callbacks thread with
      | .idle =>
          some { system with
            callbacks := Function.update system.callbacks thread invocation.start }
      | _ => none
  | .callback thread =>
      match system.callbacks thread, system.frameSection with
      | .entering pending, none =>
          some { system with
            frameSection := some (.building pending)
            callbacks := Function.update system.callbacks thread .idle }
      | pc, _ =>
          match callbackStep system.agent pc with
          | none => none
          | some (agent, pc) =>
              some { system with
                agent
                callbacks := Function.update system.callbacks thread pc }
  | .frameSection now =>
      match system.frameSection with
      | none => none
      | some pc =>
          let (agent, frameSection) := sectionStep system.agent now pc
          some { system with agent, frameSection }
  | .sender succeeds now =>
      match senderStep system.agent system.frameSection.isNone system.connections succeeds now
          system.sender with
      | none => none
      | some sent =>
          some { system with
            agent := sent.agent
            sender := sent.sender
            connections := sent.connections }

def initial (pressureThreshold : Binary32) : System :=
  { agent := { pressureThreshold } }

inductive Steps (system : System) : Action → System → Prop
  | stop : Steps system .stop { system with agent := { system.agent with running := false } }
  | call (thread : Nat) (invocation : Invocation) (hidle : system.callbacks thread = .idle) :
      Steps system (.call thread invocation)
        { system with
          callbacks := Function.update system.callbacks thread invocation.start }
  | enters (thread : Nat) (pending : Pending) (hpc : system.callbacks thread = .entering pending)
      (hfree : system.frameSection = none) :
      Steps system (.callback thread)
        { system with
          frameSection := some (.building pending)
          callbacks := Function.update system.callbacks thread .idle }
  | callback (thread : Nat) (agent : AgentState) (pc : CallbackPc)
      (hcallback : callbackStep system.agent (system.callbacks thread) = some (agent, pc)) :
      Steps system (.callback thread)
        { system with agent, callbacks := Function.update system.callbacks thread pc }
  | frameSection (now : UInt64) (pc : SectionPc) (hsection : system.frameSection = some pc) :
      Steps system (.frameSection now)
        { system with
          agent := (sectionStep system.agent now pc).1
          frameSection := (sectionStep system.agent now pc).2 }
  | sender (succeeds : Bool) (now : UInt64) (sent : Sent)
      (hsent : senderStep system.agent system.frameSection.isNone system.connections succeeds now
        system.sender = some sent) :
      Steps system (.sender succeeds now)
        { system with
          agent := sent.agent
          sender := sent.sender
          connections := sent.connections }

theorem step_cases {system next : System} {action : Action}
    (hstep : system.step action = some next) : system.Steps action next := by
  cases action with
  | stop =>
      cases hstep
      exact .stop
  | call thread invocation =>
      rw [step] at hstep
      split at hstep
      case h_1 hidle =>
        cases hstep
        exact .call thread invocation hidle
      case h_2 => cases hstep
  | callback thread =>
      rw [step] at hstep
      split at hstep
      case h_1 pending hpc hfree =>
        cases hstep
        exact .enters thread pending hpc hfree
      case h_2 =>
        split at hstep
        case h_1 => cases hstep
        case h_2 agent pc hcallback =>
          cases hstep
          exact .callback thread agent pc hcallback
  | frameSection now =>
      rw [step] at hstep
      split at hstep
      case h_1 => cases hstep
      case h_2 pc hsection =>
        cases hstep
        exact .frameSection now pc hsection
  | sender succeeds now =>
      rw [step] at hstep
      split at hstep
      case h_1 => cases hstep
      case h_2 sent hsent =>
        cases hstep
        exact .sender succeeds now sent hsent

end System

end Touchpad.Agent
