import Touchpad.Agent.Traffic

/-!
# What the FRAMEs show

Frames are built under the frame mutex from the arguments of a call or from the latest
frame, which the sender resets in between.  In every interleaving a FRAME shows the
touches of one call of `contact_callback`, or none.
-/

namespace Touchpad.Agent

open Touchpad.Foundation
open Touchpad.Protocol

def calledWith : Action → List (List MTTouch)
  | .call _ (.contact (some touches) _) => [touches]
  | _ => []

def Shows (called : List (List MTTouch)) (frame : TPFrame) : Prop :=
  ∃ touches, (touches = [] ∨ touches ∈ called) ∧ touches.length ≤ tpMaxContacts ∧
    ∃ deviceTimeUs down sequence captureTimeUs,
      frame = capturedFrame touches deviceTimeUs down sequence captureTimeUs

/-- A FRAME shows a call; HELLO and RESET have a number and a time only. -/
def Drawn.Shows (called : List (List MTTouch)) (drawn : Drawn) : Prop :=
  (drawn.type = tpMessageFrame ∧ Agent.Shows called drawn.frame) ∨
    ((drawn.type = tpMessageHello ∨ drawn.type = tpMessageReset) ∧
      ∃ sequence captureTimeUs, drawn.frame = { sequence, captureTimeUs })

def Pending.From (called : List (List MTTouch)) : Pending → Prop
  | .contact touches _ => touches ∈ called ∧ touches.length ≤ tpMaxContacts
  | .button => True

def CallbackPc.From (called : List (List MTTouch)) : CallbackPc → Prop
  | .capturing touches _ | .testingContact touches _ => ∀ taken ∈ touches, taken ∈ called
  | .entering pending => pending.From called
  | _ => True

def SectionFrom (called : List (List MTTouch)) : Option SectionPc → Prop
  | some (.building pending) => pending.From called
  | some (.drawing frame) | some (.pushing frame) => Shows called frame
  | _ => True

structure FromCalls (called : List (List MTTouch)) (system : System) : Prop where
  latest : Shows called system.agent.latestFrame
  frameSection : SectionFrom called system.frameSection
  callbacks : ∀ thread, (system.callbacks thread).From called

variable {called : List (List MTTouch)}

theorem shows_empty : Shows called {} := by
  refine ⟨[], .inl rfl, by decide, 0, false, 0, 0, ?_⟩
  simp [capturedFrame, contactFrame, buttonFlags]

theorem Shows.button {frame : TPFrame} (h : Shows called frame) (down : Bool) :
    Shows called (buttonFrame frame down) := by
  obtain ⟨touches, hmem, hfits, deviceTimeUs, down', sequence, captureTimeUs, rfl⟩ := h
  exact ⟨touches, hmem, hfits, 0, down, sequence, captureTimeUs, rfl⟩

theorem Shows.numbered {frame : TPFrame} (h : Shows called frame) (sequence : UInt32)
    (captureTimeUs : UInt64) : Shows called { frame with sequence, captureTimeUs } := by
  obtain ⟨touches, hmem, hfits, deviceTimeUs, down, sequence', captureTimeUs', rfl⟩ := h
  exact ⟨touches, hmem, hfits, deviceTimeUs, down, sequence, captureTimeUs, rfl⟩

theorem buildFrame_shows {agent : AgentState} (hlatest : Shows called agent.latestFrame)
    {pending : Pending} (hpending : pending.From called) :
    Shows called (buildFrame agent pending).2 := by
  cases pending with
  | contact touches deviceTimeUs =>
      exact ⟨touches, .inr hpending.1, hpending.2, deviceTimeUs, _, 0, 0, rfl⟩
  | button => exact hlatest.button _

theorem sectionStep_from {agent : AgentState} {pc : SectionPc}
    (hlatest : Shows called agent.latestFrame) (h : SectionFrom called (some pc))
    (now : UInt64) :
    Shows called (sectionStep agent now pc).1.latestFrame ∧
      SectionFrom called (sectionStep agent now pc).2 := by
  cases pc with
  | building pending =>
      have hbuilt := buildFrame_shows hlatest h
      refine ⟨?_, hbuilt⟩
      rw [sectionStep]
      dsimp only
      rw [buildFrame_latest]
      exact hbuilt
  | drawing frame => exact ⟨hlatest, h.numbered _ _⟩
  | pushing frame =>
      rw [sectionStep]
      dsimp only
      split
      · exact ⟨hlatest, trivial⟩
      · refine ⟨hlatest, ?_⟩
        dsimp only
        split <;> trivial
  | droppingConnected | requesting | clearing | countingDropped | leaving =>
      exact ⟨hlatest, trivial⟩

theorem callbackStep_from {agent next : AgentState} {pc after : CallbackPc}
    (h : pc.From called) (hstep : callbackStep agent pc = some (next, after)) :
    after.From called := by
  cases (callbackStep_cases hstep).2 with
  | captured => exact h
  | passed touches deviceTimeUs hfits => exact ⟨h touches rfl, hfits⟩
  | bare _ _ hbare =>
      cases after with
      | entering pending =>
          cases pending with
          | contact => cases hbare
          | button => trivial
      | capturing | testingContact => cases hbare
      | _ => trivial

theorem from_update {callbacks : Nat → CallbackPc}
    (h : ∀ thread, (callbacks thread).From called) (thread : Nat) {pc : CallbackPc}
    (hpc : pc.From called) (other : Nat) : (Function.update callbacks thread pc other).From called := by
  by_cases hother : other = thread
  · rw [hother, Function.update_self]
    exact hpc
  · rw [Function.update_of_ne hother]
    exact h other

theorem senderStep_latest {agent : AgentState} {mutexFree succeeds : Bool}
    {connections : List (List WireMessage)} {now : UInt64} {sender : SenderPc} {sent : Sent}
    (hlatest : Shows called agent.latestFrame)
    (hstep : senderStep agent mutexFree connections succeeds now sender = some sent) :
    Shows called sent.agent.latestFrame := by
  cases senderStep_cases hstep with
  | advances hadvances =>
      cases hadvances with
      | latest => exact shows_empty
      | _ => exact hlatest
  | _ => exact hlatest

theorem drawnBy_shows {system : System} (h : FromCalls called system) (action : Action) :
    ∀ item ∈ drawnBy system action, item.Shows called := by
  intro item hitem
  cases action with
  | frameSection now =>
      have hsection := h.frameSection
      rw [drawnBy] at hitem
      split at hitem
      case h_1 pc hpc =>
        rw [hpc] at hsection
        cases pc with
        | drawing frame =>
            cases List.mem_singleton.mp hitem
            exact .inl ⟨rfl, hsection.numbered _ _⟩
        | _ => cases hitem
      case h_2 => cases hitem
  | sender succeeds now =>
      rw [drawnBy] at hitem
      cases hsender : system.sender with
      | drawingHello =>
          rw [hsender] at hitem
          cases List.mem_singleton.mp hitem
          exact .inr ⟨.inl rfl, _, _, rfl⟩
      | drawingReset =>
          rw [hsender] at hitem
          cases List.mem_singleton.mp hitem
          exact .inr ⟨.inr rfl, _, _, rfl⟩
      | _ =>
          rw [hsender] at hitem
          cases hitem
  | stop | call thread invocation | callback thread => cases hitem

theorem step_fromCalls {system next : System} {action : Action} (h : FromCalls called system)
    (hcalled : ∀ touches ∈ calledWith action, touches ∈ called)
    (hstep : system.step action = some next) : FromCalls called next := by
  cases System.step_cases hstep with
  | stop => exact ⟨h.latest, h.frameSection, h.callbacks⟩
  | call thread invocation =>
      refine ⟨h.latest, h.frameSection, from_update h.callbacks thread ?_⟩
      cases invocation with
      | contact touches deviceTimeUs =>
          intro taken htaken
          cases htaken
          exact hcalled taken List.mem_cons_self
      | button pressed released => trivial
  | enters thread pending hpc hfree =>
      have hthread := h.callbacks thread
      rw [hpc] at hthread
      exact ⟨h.latest, hthread, from_update h.callbacks thread trivial⟩
  | callback thread agent pc hcallback =>
      obtain ⟨⟨captured, dropped, physicalButtonDown, buttonEvents, rfl⟩, -⟩ :=
        callbackStep_cases hcallback
      exact ⟨h.latest, h.frameSection, from_update h.callbacks thread
        (callbackStep_from (h.callbacks thread) hcallback)⟩
  | frameSection now pc hpc =>
      obtain ⟨hlatest, hsection⟩ := sectionStep_from h.latest (hpc ▸ h.frameSection) now
      exact ⟨hlatest, hsection, h.callbacks⟩
  | sender succeeds now sent hsent =>
      exact ⟨senderStep_latest h.latest hsent, h.frameSection, h.callbacks⟩

def Sourced (called : List (List MTTouch)) (system : System) (drawn : List Drawn) : Prop :=
  FromCalls called system ∧ ∀ item ∈ drawn, item.Shows called

theorem step_sourced (system : System) (action : Action) (next : System) (drawn : List Drawn)
    (h : Sourced called system drawn) (hcalled : ∀ touches ∈ calledWith action, touches ∈ called)
    (hstep : system.step action = some next) :
    Sourced called next (drawn ++ drawnBy system action) := by
  refine ⟨step_fromCalls h.1 hcalled hstep, fun item hitem => ?_⟩
  rcases List.mem_append.mp hitem with hold | hnew
  · exact h.2 item hold
  · exact drawnBy_shows h.1 action item hnew

theorem sourced_initial (threshold : Binary32) : Sourced called (System.initial threshold) [] :=
  ⟨⟨shows_empty, trivial, fun _ => trivial⟩, fun item hitem => by cases hitem⟩

end Touchpad.Agent
