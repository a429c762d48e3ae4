import Touchpad.Agent.System

/-!
# Stopping

`stop_agent` of `mac/Agent/main.c` clears `running`, and `main` joins the sender.  From
then on the sender is through after a few steps of its own, whatever the callbacks do,
and nothing can keep it from taking them: it waits for the frame mutex at most, which
is always released.
-/

namespace Touchpad.Agent

open Touchpad.Foundation

def SenderPc.stepsLeft : SenderPc → Nat
  | .exited => 0
  | .testingRunning => 1
  | .abandoning => 2
  | .closing => 2
  | .clearingAfter => 3
  | .droppingConnected => 4
  | .testingLoop => 5
  | .countingSent => 6
  | .settingConnected => 6
  | .sending _ => 7
  | .clearingLatest => 7
  | .popping => 8
  | .clearingRequest => 8
  | .testingRequest => 9
  | .sendingReset _ => 9
  | .drawingReset => 10
  | .sendingHello _ => 11
  | .drawingHello => 12
  | .clearingQueue => 13
  | .countingReconnect => 14
  | .connecting => 15

def SenderPc.messagesLeft : SenderPc → Nat
  | .connecting | .countingReconnect | .clearingQueue | .drawingHello | .sendingHello _ => 2
  | .drawingReset | .sendingReset _ | .testingRequest | .popping | .sending _ => 1
  | _ => 0

def sectionStepsLeft : Option SectionPc → Nat
  | none => 0
  | some .leaving => 1
  | some .countingDropped => 2
  | some .clearing => 3
  | some .requesting => 4
  | some .droppingConnected => 5
  | some (.pushing _) => 6
  | some (.drawing _) => 7
  | some (.building _) => 8

def messagesSent (connections : List (List WireMessage)) : Nat := connections.flatten.length

theorem messagesSent_deliver_le (message : WireMessage) (connections : List (List WireMessage)) :
    messagesSent (deliver message connections) ≤ messagesSent connections + 1 := by
  cases connections with
  | nil => exact Nat.zero_le _
  | cons messages earlier =>
      simp only [messagesSent, deliver, List.flatten_cons, List.length_append,
        List.length_singleton]
      omega

theorem stepsLeft_le (sender : SenderPc) : sender.stepsLeft ≤ 15 := by
  cases sender <;> simp [SenderPc.stepsLeft]

theorem messagesLeft_le (sender : SenderPc) : sender.messagesLeft ≤ 2 := by
  cases sender <;> simp [SenderPc.messagesLeft]

theorem sectionStepsLeft_le (frameSection : Option SectionPc) :
    sectionStepsLeft frameSection ≤ 8 := by
  cases frameSection with
  | none => exact Nat.zero_le _
  | some pc => cases pc <;> simp [sectionStepsLeft]

theorem senderStep_stopped {agent : AgentState} (hstopped : agent.running = false)
    {mutexFree succeeds : Bool} {connections : List (List WireMessage)} {now : UInt64}
    {sender : SenderPc} {sent : Sent}
    (hstep : senderStep agent mutexFree connections succeeds now sender = some sent) :
    sent.agent.running = false ∧ sent.sender.stepsLeft < sender.stepsLeft ∧
      messagesSent sent.connections + sent.sender.messagesLeft ≤
        messagesSent connections + sender.messagesLeft := by
  cases senderStep_cases hstep with
  | connects | clears | clearsAfter | pops =>
      exact ⟨hstopped, by simp [SenderPc.stepsLeft], le_rfl⟩
  | draws hdraws =>
      cases hdraws <;> exact ⟨hstopped, by simp [SenderPc.stepsLeft], le_rfl⟩
  | @delivers message _ _ _ hdelivers =>
      have hdeliver := messagesSent_deliver_le message connections
      cases hdelivers <;>
        exact ⟨hstopped, by simp [SenderPc.stepsLeft], Nat.add_le_add_right hdeliver _⟩
  | advances hadvances =>
      cases hadvances with
      | running hrunning =>
          rw [hstopped] at hrunning
          cases hrunning
      | _ => exact ⟨hstopped, by simp [SenderPc.stepsLeft], le_rfl⟩
  | leaves hleaves =>
      cases hleaves with
      | starting hrunning =>
          rw [hstopped] at hrunning
          cases hrunning
      | _ => exact ⟨hstopped, by simp [SenderPc.stepsLeft], Nat.le_add_right _ _⟩

theorem sectionStep_running (agent : AgentState) (now : UInt64) (pc : SectionPc) :
    (sectionStep agent now pc).1.running = agent.running ∧
      sectionStepsLeft (sectionStep agent now pc).2 < sectionStepsLeft (some pc) := by
  cases pc with
  | building pending => cases pending <;> exact ⟨rfl, by simp [sectionStep, sectionStepsLeft]⟩
  | pushing frame =>
      rw [sectionStep]
      dsimp only
      split
      · exact ⟨rfl, by simp [sectionStepsLeft]⟩
      · refine ⟨rfl, ?_⟩
        dsimp only
        split <;> simp [sectionStepsLeft]
  | _ => exact ⟨rfl, by simp [sectionStep, sectionStepsLeft]⟩

/-! ## Runs behind `stop_agent` -/

def Action.bySender : Action → Bool
  | .sender _ _ => true
  | _ => false

structure Stopped (bound : Nat) (system : System) : Prop where
  running : system.agent.running = false
  messages : messagesSent system.connections + system.sender.messagesLeft ≤ bound

theorem step_stopped {bound : Nat} (system : System) (action : Action) (next : System)
    (h : Stopped bound system) (hstep : system.step action = some next) :
    Stopped bound next ∧
      next.sender.stepsLeft + (if action.bySender then 1 else 0) ≤ system.sender.stepsLeft := by
  obtain ⟨hrunning, hmessages⟩ := h
  cases System.step_cases hstep with
  | stop => exact ⟨⟨rfl, hmessages⟩, le_rfl⟩
  | call | enters => exact ⟨⟨hrunning, hmessages⟩, le_rfl⟩
  | callback thread agent pc hcallback =>
      obtain ⟨⟨captured, dropped, physicalButtonDown, buttonEvents, rfl⟩, -⟩ :=
        callbackStep_cases hcallback
      exact ⟨⟨hrunning, hmessages⟩, le_rfl⟩
  | frameSection now pc hsection =>
      exact ⟨⟨(sectionStep_running _ _ _).1.trans hrunning, hmessages⟩, le_rfl⟩
  | sender succeeds now sent hsent =>
      obtain ⟨hstill, hlower, hfewer⟩ := senderStep_stopped hrunning hsent
      exact ⟨⟨hstill, hfewer.trans hmessages⟩, hlower⟩

/-- Only the holder of the frame mutex keeps a stopped sender waiting. -/
theorem stopped_sender_goes_on {agent : AgentState} (hstopped : agent.running = false)
    {sender : SenderPc} (hleft : sender ≠ .exited) (connections : List (List WireMessage)) :
    ∃ sent, senderStep agent true connections true 0 sender = some sent := by
  cases sender with
  | exited => exact absurd rfl hleft
  | popping =>
      rw [senderStep]
      split
      · exact ⟨_, rfl⟩
      · rw [hstopped]
        exact ⟨_, rfl⟩
  | sendingHello message | sendingReset message =>
      rw [senderStep]
      split <;> exact ⟨_, rfl⟩
  | _ => exact ⟨_, rfl⟩

def Action.finishing : Action → Prop
  | .sender _ _ | .frameSection _ => True
  | _ => False

theorem stopped_progress {bound : Nat} (system : System) (h : Stopped bound system)
    (hleft : system.sender ≠ .exited) :
    ∃ action next, action.finishing ∧ system.step action = some next ∧ Stopped bound next ∧
      sectionStepsLeft next.frameSection + next.sender.stepsLeft <
        sectionStepsLeft system.frameSection + system.sender.stepsLeft := by
  cases hsection : system.frameSection with
  | some pc =>
      obtain ⟨-, hlower⟩ := sectionStep_running system.agent 0 pc
      have hstep : system.step (.frameSection 0) = some { system with
          agent := (sectionStep system.agent 0 pc).1
          frameSection := (sectionStep system.agent 0 pc).2 } := by
        rw [System.step, hsection]
      exact ⟨.frameSection 0, _, trivial, hstep, (step_stopped _ _ _ h hstep).1,
        Nat.add_lt_add_right hlower _⟩
  | none =>
      obtain ⟨sent, hsent⟩ := stopped_sender_goes_on h.running hleft system.connections
      have hstep : system.step (.sender true 0) = some { system with
          agent := sent.agent
          sender := sent.sender
          connections := sent.connections } := by
        rw [System.step, hsection, Option.isNone_none, hsent]
      obtain ⟨hstopped, hlower⟩ := step_stopped _ _ _ h hstep
      rw [Action.bySender, if_pos rfl] at hlower
      refine ⟨.sender true 0, _, trivial, hstep, hstopped, ?_⟩
      dsimp only at hlower ⊢
      rw [hsection]
      omega

/-- Once the agent is stopped, in any state and whatever the threads do then: the sender
takes at most 15 more steps and sends at most two more messages.  At any point, unless it
has ended, it can be run to its end within 23 steps of its own and of the callback that
holds the frame mutex. -/
theorem stopped_agent_ends {system final : System} {actions : List Action}
    (hstopped : system.agent.running = false)
    (hrun : runFrom System.step system actions = some final) :
    final.agent.running = false ∧ actions.countP Action.bySender ≤ 15 ∧
      messagesSent final.connections ≤ messagesSent system.connections + 2 ∧
      ∃ finish ended, (∀ action ∈ finish, action.finishing) ∧ finish.length ≤ 23 ∧
        runFrom System.step final finish = some ended ∧ ended.sender = .exited := by
  have hinitial : Stopped (messagesSent system.connections + system.sender.messagesLeft) system :=
    ⟨hstopped, le_rfl⟩
  obtain ⟨hfinal, hsteps⟩ := runFrom_rank step_stopped hinitial hrun
  have hbound := stepsLeft_le system.sender
  have hmessages := messagesLeft_le system.sender
  obtain ⟨finish, ended, hfinishing, hlength, hfinish, hended⟩ :=
    exists_run_of_rank stopped_progress hfinal
  refine ⟨hfinal.running, by omega, ?_, finish, ended, hfinishing, ?_, hfinish, hended⟩
  · have hsent := hfinal.messages
    omega
  · have hsection := sectionStepsLeft_le final.frameSection
    have hsender := stepsLeft_le final.sender
    omega

theorem stopped_agent_ends_connecting :
    ∃ system final, runFrom System.step (System.initial 0)
        [.sender true 0, .sender true 0, .stop] = some system ∧
      runFrom System.step system (List.replicate 14 (.sender true 0)) = some final ∧
      final.sender = .exited ∧
      messagesSent final.connections ≤ messagesSent system.connections + 2 := by
  have hended : ((runFrom System.step (System.initial 0)
      [.sender true 0, .sender true 0, .stop]).bind fun system =>
        (runFrom System.step system (List.replicate 14 (.sender true 0))).map fun final =>
          (system.agent.running, final.sender)) = some (false, .exited) := by
    decide +kernel
  obtain ⟨system, hsystem, hended⟩ := Option.bind_eq_some_iff.mp hended
  obtain ⟨final, hfinal, hended⟩ := Option.map_eq_some_iff.mp hended
  obtain ⟨hstopped, hexited⟩ := Prod.mk.injEq .. ▸ hended
  exact ⟨system, final, hsystem, hfinal, hexited, (stopped_agent_ends hstopped hfinal).2.2.1⟩

end Touchpad.Agent
