import Touchpad.Agent.System

/-!
# Calls one after the other

The callbacks as functions on the shared state, each run to its end with nothing in
between, and runs in which calls alternate with steps of the sender.  A call comes
to what the steps of its thread come to when no other thread takes one.
-/

namespace Touchpad.Agent

open Touchpad.Foundation
open Touchpad.Protocol

/-- What `enqueue_frame_locked` does when a number was assigned to a frame that
cannot be sent. -/
def abandonEpoch (agent : AgentState) : AgentState :=
  { agent with
    connected := false
    reconnectRequested := true
    queue := queueClear agent.queue
    dropped := agent.dropped + 1 }

def pushFrame (agent : AgentState) (frame : TPFrame) : AgentState × Bool :=
  let (length, message) := tpEncodeMessage tpMessageFrame frame tpMaxMessageSize
  let (accepted, queue) := queuePush agent.queue message
  if length ≠ 0 ∧ accepted = true then ({ agent with queue }, true)
  else (abandonEpoch agent, false)

def enqueueFrameLocked (agent : AgentState) (now : UInt64) (frame : TPFrame) :
    AgentState × Bool :=
  let sequence := agent.sequence + 1
  pushFrame { agent with sequence } { frame with sequence, captureTimeUs := now }

def enqueuePending (agent : AgentState) (now : UInt64) (pending : Pending) :
    AgentState × Option TPFrame :=
  let (agent, frame) := buildFrame agent pending
  let (agent, accepted) := enqueueFrameLocked agent now frame
  (agent, if accepted then some frame else none)

/-- `contact_callback`, with the frame it enqueued. -/
def contactCallback (agent : AgentState) (now : UInt64) (touches : Option (List MTTouch))
    (deviceTimeUs : UInt64) : AgentState × Option TPFrame :=
  let agent := { agent with captured := agent.captured + 1 }
  if !agent.connected then (agent, none)
  else
    match touches with
    | none => ({ agent with dropped := agent.dropped + 1 }, none)
    | some touches =>
        if tpMaxContacts < touches.length then
          ({ agent with dropped := agent.dropped + 1 }, none)
        else enqueuePending agent now (.contact touches deviceTimeUs)

def storeButton (agent : AgentState) (pressed released : Int32) : AgentState :=
  let agent := if pressed ≠ 0 then { agent with physicalButtonDown := true } else agent
  let agent := if released ≠ 0 then { agent with physicalButtonDown := false } else agent
  { agent with buttonEvents := agent.buttonEvents + 1 }

def buttonCallback (agent : AgentState) (now : UInt64) (pressed released : Int32) :
    AgentState × Option TPFrame :=
  let agent := storeButton agent pressed released
  if !agent.connected then (agent, none)
  else enqueuePending agent now .button

def Invocation.perform (agent : AgentState) (now : UInt64) :
    Invocation → AgentState × Option TPFrame
  | .contact touches deviceTimeUs => contactCallback agent now touches deviceTimeUs
  | .button pressed released => buttonCallback agent now pressed released

/-! ## What a call comes to -/

theorem enqueuePending_pushes (agent : AgentState) (now : UInt64) (pending : Pending) :
    (enqueuePending agent now pending).1 =
      (pushFrame
        { (buildFrame agent pending).1 with
          sequence := (buildFrame agent pending).1.sequence + 1 }
        { (buildFrame agent pending).2 with
          sequence := (buildFrame agent pending).1.sequence + 1
          captureTimeUs := now }).1 := rfl

def admitted (agent : AgentState) (touches : Option (List MTTouch)) : Option (List MTTouch) :=
  if agent.connected then touches.filter fun touches => touches.length ≤ tpMaxContacts
  else none

theorem contactCallback_skipped {agent : AgentState} {touches : Option (List MTTouch)}
    (h : admitted agent touches = none) (now deviceTimeUs : UInt64) :
    ∃ captured dropped,
      contactCallback agent now touches deviceTimeUs = ({ agent with captured, dropped }, none) := by
  unfold contactCallback
  dsimp only
  unfold admitted at h
  cases hconnected : agent.connected with
  | false =>
      rw [Bool.not_false, if_pos rfl]
      exact ⟨_, _, rfl⟩
  | true =>
      rw [Bool.not_true, if_neg (by simp)]
      rw [hconnected, if_pos rfl] at h
      cases touches with
      | none => exact ⟨_, _, rfl⟩
      | some touches =>
          have hlong : tpMaxContacts < touches.length := by simpa using h
          dsimp only
          rw [if_pos hlong]
          exact ⟨_, _, rfl⟩

theorem contactCallback_admitted {agent : AgentState} {touches : Option (List MTTouch)}
    {taken : List MTTouch} (h : admitted agent touches = some taken) (now deviceTimeUs : UInt64) :
    touches = some taken ∧ agent.connected = true ∧ taken.length ≤ tpMaxContacts ∧
      contactCallback agent now touches deviceTimeUs =
        enqueuePending { agent with captured := agent.captured + 1 } now
          (.contact taken deviceTimeUs) := by
  unfold admitted at h
  split at h
  case isFalse => cases h
  case isTrue hconnected =>
    obtain ⟨rfl, hfits⟩ := Option.filter_eq_some_iff.mp h
    rw [decide_eq_true_iff] at hfits
    refine ⟨rfl, hconnected, hfits, ?_⟩
    unfold contactCallback
    dsimp only
    rw [hconnected, Bool.not_true, if_neg (by simp), if_neg (not_lt.mpr hfits)]

theorem storeButton_eq (agent : AgentState) (pressed released : Int32) :
    ∃ physicalButtonDown buttonEvents,
      storeButton agent pressed released = { agent with physicalButtonDown, buttonEvents } := by
  unfold storeButton
  dsimp only
  split <;> split <;> exact ⟨_, _, rfl⟩

/-! ## Runs of whole calls -/

/-- The shared state, the sender and the connections while no callback runs. -/
structure Serial where
  agent : AgentState := {}
  sender : SenderPc := .testingRunning
  connections : List (List WireMessage) := []

inductive Event where
  | stop
  | sender (succeeds : Bool) (now : UInt64)
  | call (invocation : Invocation) (now : UInt64)

namespace Serial

def step (serial : Serial) : Event → Option Serial
  | .stop => some { serial with agent := { serial.agent with running := false } }
  | .sender succeeds now =>
      match senderStep serial.agent true serial.connections succeeds now serial.sender with
      | none => none
      | some sent => some ⟨sent.agent, sent.sender, sent.connections⟩
  | .call invocation now =>
      some { serial with agent := (invocation.perform serial.agent now).1 }

theorem step_sender {serial next : Serial} {succeeds : Bool} {now : UInt64}
    (hstep : serial.step (.sender succeeds now) = some next) :
    ∃ sent, senderStep serial.agent true serial.connections succeeds now serial.sender =
      some sent ∧ next = ⟨sent.agent, sent.sender, sent.connections⟩ := by
  rw [step] at hstep
  split at hstep
  case h_1 => cases hstep
  case h_2 sent hsent =>
    cases hstep
    exact ⟨sent, hsent, rfl⟩

def initial (pressureThreshold : Binary32) : Serial :=
  { agent := { pressureThreshold } }

/-! ## Whole calls in the system of threads -/

def system (serial : Serial) : System :=
  { agent := serial.agent, sender := serial.sender, connections := serial.connections }

private def during (serial : Serial) (pc : CallbackPc) : System :=
  { serial.system with callbacks := Function.update (fun _ => .idle) 0 pc }

private def holding (serial : Serial) (pc : SectionPc) : System :=
  { serial.system with frameSection := some pc }

private theorem during_idle (serial : Serial) : serial.during .idle = serial.system := by
  rw [during, Function.update_eq_self (f := fun _ => CallbackPc.idle)]
  rfl

private theorem reaches_callback {serial : Serial} {agent : AgentState} {pc after : CallbackPc}
    {final : System} (hstep : callbackStep serial.agent pc = some (agent, after))
    (hrest : Reaches System.step ({ serial with agent }.during after) final) :
    Reaches System.step (serial.during pc) final := by
  refine .head (.callback 0) ?_ hrest
  have hpc : (serial.during pc).callbacks 0 = pc := by
    simp only [during, Function.update_self]
  rw [System.step, hpc]
  split
  case h_1 => cases hstep
  case h_2 =>
    rw [show ∀ pc, (serial.during pc).agent = serial.agent from fun _ => rfl, hstep]
    simp only [during, system, Function.update_idem]

private theorem reaches_reading {serial : Serial} {pc : CallbackPc} {final : System}
    (after : CallbackPc) (hstep : callbackStep serial.agent pc = some (serial.agent, after))
    (hrest : Reaches System.step (serial.during after) final) :
    Reaches System.step (serial.during pc) final :=
  reaches_callback hstep hrest

private theorem reaches_returned {serial : Serial} {pc : CallbackPc}
    (hstep : callbackStep serial.agent pc = some (serial.agent, .idle)) :
    Reaches System.step (serial.during pc) serial.system := by
  refine reaches_reading .idle hstep ?_
  rw [during_idle]
  exact .refl

private theorem reaches_section {serial : Serial} {pc after : SectionPc} {agent : AgentState}
    {final : System} (now : UInt64)
    (hstep : sectionStep serial.agent now pc = (agent, some after))
    (hrest : Reaches System.step ({ serial with agent }.holding after) final) :
    Reaches System.step (serial.holding pc) final := by
  refine .head (.frameSection now) ?_ hrest
  unfold System.step holding
  dsimp only [system]
  rw [hstep]

private theorem reaches_left (serial : Serial) :
    Reaches System.step (serial.holding .leaving) serial.system :=
  .head (.frameSection 0) rfl .refl

private theorem queuePush_refused {queue after : MessageQueue} {message : WireMessage}
    (h : queuePush queue message = (false, after)) : after = queue := by
  unfold queuePush at h
  split at h
  · exact (congrArg Prod.snd h).symm
  · cases congrArg Prod.fst h

private theorem reaches_abandoned (serial : Serial) :
    Reaches System.step (serial.holding .droppingConnected)
      { serial with agent := abandonEpoch serial.agent }.system :=
  reaches_section 0 rfl <| reaches_section 0 rfl <|
    reaches_section 0 rfl <| reaches_section 0 rfl <| reaches_left _

private theorem reaches_pushed (serial : Serial) (frame : TPFrame) :
    Reaches System.step (serial.holding (.pushing frame))
      { serial with agent := (pushFrame serial.agent frame).1 }.system := by
  unfold pushFrame
  generalize hencoded : tpEncodeMessage tpMessageFrame frame tpMaxMessageSize = encoded
  obtain ⟨length, message⟩ := encoded
  dsimp only
  generalize hpushed : queuePush serial.agent.queue message = pushed
  obtain ⟨accepted, queue⟩ := pushed
  by_cases hlength : length = 0
  · rw [if_neg (by simp [hlength])]
    refine reaches_section 0 ?_ (reaches_abandoned _)
    rw [sectionStep, hencoded]
    exact if_pos hlength
  · cases accepted with
    | false =>
        have hqueue := queuePush_refused hpushed
        rw [if_neg (by simp)]
        refine reaches_section 0 ?_ (reaches_abandoned _)
        rw [sectionStep, hencoded]
        dsimp only
        rw [if_neg hlength, hpushed, hqueue]
        rfl
    | true =>
        rw [if_pos ⟨hlength, rfl⟩]
        refine reaches_section 0 ?_ (reaches_left _)
        rw [sectionStep, hencoded]
        dsimp only
        rw [if_neg hlength, hpushed]
        rfl

private theorem reaches_enqueued (serial : Serial) (now : UInt64) (frame : TPFrame) :
    Reaches System.step (serial.holding (.drawing frame))
      { serial with agent := (enqueueFrameLocked serial.agent now frame).1 }.system :=
  reaches_section now rfl (reaches_pushed _ _)

private theorem reaches_entered (serial : Serial) (now : UInt64) (pending : Pending) :
    Reaches System.step (serial.during (.entering pending))
      { serial with agent := (enqueuePending serial.agent now pending).1 }.system := by
  have hentered : (serial.during (.entering pending)).step (.callback 0) =
      some (serial.holding (.building pending)) := by
    simp only [System.step, during, system, holding, Function.update_self,
      Function.update_idem]
    rw [Function.update_eq_self (f := fun _ => CallbackPc.idle)]
  exact .head (.callback 0) hentered (reaches_section now rfl (reaches_enqueued _ now _))

private theorem reaches_dropped (serial : Serial) :
    Reaches System.step (serial.during .dropping)
      { serial with
        agent := { serial.agent with dropped := serial.agent.dropped + 1 } }.system := by
  refine reaches_callback rfl ?_
  rw [during_idle]
  exact .refl

private theorem reaches_contact (serial : Serial) (now : UInt64)
    (touches : Option (List MTTouch)) (deviceTimeUs : UInt64) :
    Reaches System.step (serial.during (.capturing touches deviceTimeUs))
      { serial with
        agent := (contactCallback serial.agent now touches deviceTimeUs).1 }.system := by
  refine reaches_callback rfl ?_
  unfold contactCallback
  dsimp only
  by_cases hconnected : serial.agent.connected = true
  · rw [if_neg (by simp [hconnected])]
    cases touches with
    | none =>
        refine reaches_reading .dropping ?_ (reaches_dropped _)
        exact if_neg (by simp [hconnected])
    | some touches =>
        dsimp only
        by_cases hlength : tpMaxContacts < touches.length
        · rw [if_pos hlength]
          refine reaches_reading .dropping ?_ (reaches_dropped _)
          exact (if_neg (by simp [hconnected])).trans (if_pos hlength)
        · rw [if_neg hlength]
          refine reaches_reading _ ?_ (reaches_entered _ now _)
          exact (if_neg (by simp [hconnected])).trans (if_neg hlength)
  · rw [if_pos (by simp [hconnected])]
    exact reaches_returned (if_pos (by simp [hconnected]))

private theorem reaches_tested (serial : Serial) (now : UInt64) :
    Reaches System.step (serial.during .testingButton)
      { serial with
        agent :=
          (if !serial.agent.connected then (serial.agent, none)
            else enqueuePending serial.agent now .button).1 }.system := by
  by_cases hconnected : serial.agent.connected = true
  · rw [if_neg (by simp [hconnected])]
    refine reaches_reading _ ?_ (reaches_entered _ now _)
    rw [callbackStep, if_pos hconnected]
  · rw [if_pos (by simp [hconnected])]
    apply reaches_returned
    rw [callbackStep, if_neg hconnected]

private theorem reaches_button (serial : Serial) (now : UInt64) (pressed released : Int32) :
    Reaches System.step (serial.during (.pressing pressed released))
      { serial with
        agent := (buttonCallback serial.agent now pressed released).1 }.system :=
  reaches_callback rfl (reaches_callback rfl (reaches_callback rfl (reaches_tested _ now)))

theorem reaches_call (serial : Serial) (invocation : Invocation) (now : UInt64) :
    Reaches System.step serial.system
      { serial with agent := (invocation.perform serial.agent now).1 }.system := by
  have hcalled : serial.system.step (.call 0 invocation) =
      some (serial.during invocation.start) := rfl
  refine .head (.call 0 invocation) hcalled ?_
  cases invocation with
  | contact touches deviceTimeUs => exact reaches_contact serial now touches deviceTimeUs
  | button pressed released => exact reaches_button serial now pressed released

theorem reaches_step {serial next : Serial} {event : Event}
    (hstep : serial.step event = some next) :
    Reaches System.step serial.system next.system := by
  cases event with
  | stop =>
      cases hstep
      exact .head .stop rfl .refl
  | sender succeeds now =>
      refine .head (.sender succeeds now) ?_ .refl
      obtain ⟨sent, hsent, rfl⟩ := step_sender hstep
      rw [System.step]
      rw [show senderStep serial.system.agent serial.system.frameSection.isNone
        serial.system.connections succeeds now serial.system.sender = some sent from hsent]
      rfl
  | call invocation now =>
      cases hstep
      exact reaches_call serial invocation now

/-- Runs of whole calls are runs of the threads. -/
theorem reaches_system {serial final : Serial} {events : List Event}
    (hrun : runFrom step serial events = some final) :
    Reaches System.step serial.system final.system := by
  induction events generalizing serial with
  | nil =>
      cases hrun
      exact .refl
  | cons event events ih =>
      rw [runFrom] at hrun
      cases hnext : serial.step event with
      | none =>
          rw [hnext] at hrun
          cases hrun
      | some next =>
          rw [hnext] at hrun
          exact (reaches_step hnext).trans (ih hrun)

end Serial

end Touchpad.Agent
