import Touchpad.Agent.Serial
import Touchpad.Foundation.Latch

/-!
# Pressure clicks

`advancePressure` is a latch that closes after three hard presses of a single
finger.  In runs where it sees every call it follows them exactly; a call that
`contact_callback` skips it does not see, and a click that was never made can come
of that.
-/

namespace Touchpad.Agent

open Touchpad.Foundation
open Touchpad.Protocol

/-! ## Touches as inputs of the latch -/

/-- One TIP touch holds the latch, firmly under a pressure from the threshold on. -/
def grip (threshold : Binary32) : Option (List MTTouch) → Grip
  | none => .broken
  | some touches =>
      match tips touches with
      | [tip] => if Binary32.lessEqual threshold tip.pressure then .firm else .light
      | _ => .broken

theorem tipPressure_eq (touches : List MTTouch) (count : Nat) (maximum : Binary32) :
    tipPressure touches (count, maximum) =
      (count + (tips touches).length,
        (tips touches).foldl
          (fun maximum tip =>
            if Binary32.less maximum tip.pressure then tip.pressure else maximum)
          maximum) := by
  induction touches generalizing count maximum with
  | nil => rfl
  | cons touch touches ih =>
      rw [tipPressure, tips]
      by_cases htip : touch.state = 3 ∨ touch.state = 4
      · rw [if_pos ((flagsForState_tip touch.state).mpr htip), ih,
          List.filter_cons_of_pos (by simpa using htip), List.foldl_cons, List.length_cons, tips]
        congr 1
        omega
      · rw [if_neg fun h => htip ((flagsForState_tip touch.state).mp h), ih,
          List.filter_cons_of_neg (by simpa using htip), tips]

theorem lessEqual_maximum {threshold : Binary32} (h : Binary32.less 0 threshold = true)
    (pressure : Binary32) :
    Binary32.lessEqual threshold (if Binary32.less 0 pressure then pressure else 0) =
      Binary32.lessEqual threshold pressure := by
  by_cases hpressure : Binary32.less 0 pressure = true
  · rw [if_pos hpressure]
  · rw [if_neg hpressure]
    have hzero : Binary32.lessEqual threshold 0 = false := by
      rw [Bool.eq_false_iff]
      intro hle
      have hloop := Binary32.less_of_less_of_lessEqual h hle
      rw [Binary32.less_irrefl] at hloop
      cases hloop
    have hlow : Binary32.lessEqual threshold pressure = false := by
      rw [Bool.eq_false_iff]
      exact fun hle => hpressure (Binary32.less_of_less_of_lessEqual h hle)
    rw [hzero, hlow]

/-! ## One call -/

def Pressure.latch (pressure : Pressure) : Latch where
  down := pressure.buttonDown
  streak := pressure.pressFrames.toNat

theorem grip_one {touches : List MTTouch} {tip : MTTouch} (h : tips touches = [tip])
    (threshold : Binary32) :
    grip threshold (some touches) =
      if Binary32.lessEqual threshold tip.pressure then .firm else .light := by
  rw [grip, h]

theorem advancePressure_latch {threshold : Binary32} (h : Binary32.less 0 threshold = true)
    {pressure : Pressure}
    (hstreak : pressure.buttonDown = false → pressure.pressFrames.toNat < 3)
    (touches : List MTTouch) :
    (advancePressure threshold touches pressure).latch =
      pressure.latch.next 3 (grip threshold (some touches)) := by
  unfold advancePressure
  rw [tipPressure_eq, Nat.zero_add]
  dsimp only
  cases htips : tips touches with
  | nil =>
      rw [grip, htips, if_pos (by simp)]
      rfl
  | cons tip others =>
      cases others with
      | cons other others =>
          rw [grip, htips, if_pos (by simp)]
          rfl
      | nil =>
          rw [grip_one htips, if_neg (by simp), List.foldl_cons, List.foldl_nil,
            lessEqual_maximum h, h, Bool.and_true]
          cases hdown : pressure.buttonDown with
          | true =>
              have hclosed : pressure.latch.down = true := hdown
              rw [Bool.not_true, if_neg (by simp), Latch.next_closed hclosed]
              split <;> simp
          | false =>
              have hopen : pressure.latch.down = false := hdown
              have hcount := hstreak hdown
              have hsucc : (pressure.pressFrames + 1).toNat = pressure.latch.streak + 1 := by
                rw [UInt32.toNat_add, UInt32.toNat_one]
                exact Nat.mod_eq_of_lt (by omega)
              have hthree : 3 ≤ pressure.pressFrames + 1 ↔ 3 ≤ pressure.latch.streak + 1 := by
                rw [← hsucc]
                exact UInt32.le_iff_toNat_le
              rw [Bool.not_false, if_pos rfl]
              cases hpressed : Binary32.lessEqual threshold tip.pressure with
              | true =>
                  rw [if_pos rfl, if_pos rfl, Latch.next_firm hopen]
                  by_cases hfull : 3 ≤ pressure.latch.streak + 1
                  · rw [if_pos (hthree.mpr hfull), decide_eq_true hfull, ← hsucc]
                    rfl
                  · rw [if_neg fun h => hfull (hthree.mp h), decide_eq_false hfull, ← hsucc]
                    rfl
              | false =>
                  rw [if_neg (by simp), if_neg (by simp), Latch.next_light hopen]
                  rfl

theorem advancePressure_events (threshold : Binary32) (touches : List MTTouch)
    (pressure : Pressure) :
    (advancePressure threshold touches pressure).buttonEvents =
      if (advancePressure threshold touches pressure).buttonDown = pressure.buttonDown then
        pressure.buttonEvents
      else pressure.buttonEvents + 1 := by
  unfold advancePressure
  dsimp only
  split
  · cases pressure.buttonDown <;> rfl
  · split
    case isTrue hopen =>
      rw [Bool.and_eq_true, Bool.not_eq_true'] at hopen
      split
      · split
        · rw [hopen.1]
          rfl
        · exact (if_pos rfl).symm
      · exact (if_pos rfl).symm
    case isFalse => exact (if_pos rfl).symm

/-! ## Steps of a run -/

theorem pushFrame_buttons (agent : AgentState) (frame : TPFrame) :
    (pushFrame agent frame).1.pressure = agent.pressure ∧
      (pushFrame agent frame).1.pressureThreshold = agent.pressureThreshold ∧
      (pushFrame agent frame).1.physicalButtonDown = agent.physicalButtonDown := by
  unfold pushFrame
  dsimp only
  split <;> exact ⟨rfl, rfl, rfl⟩

theorem senderStep_pressure {agent : AgentState} {mutexFree succeeds : Bool}
    {connections : List (List WireMessage)} {now : UInt64} {sender : SenderPc} {sent : Sent}
    (hstep : senderStep agent mutexFree connections succeeds now sender = some sent) :
    sent.agent.pressure = agent.pressure ∧
      sent.agent.pressureThreshold = agent.pressureThreshold := by
  cases senderStep_cases hstep with
  | advances hadvances => cases hadvances <;> exact ⟨rfl, rfl⟩
  | _ => exact ⟨rfl, rfl⟩

theorem enqueuePending_buttons (agent : AgentState) (now : UInt64) (pending : Pending) :
    (enqueuePending agent now pending).1.pressure = (buildFrame agent pending).1.pressure ∧
      (enqueuePending agent now pending).1.pressureThreshold = agent.pressureThreshold ∧
      (enqueuePending agent now pending).1.physicalButtonDown = agent.physicalButtonDown := by
  rw [enqueuePending_pushes]
  obtain ⟨hpressure, hthreshold, hphysical⟩ := pushFrame_buttons _ _
  refine ⟨hpressure, hthreshold.trans ?_, hphysical.trans ?_⟩ <;> cases pending <;> rfl

theorem buttonCallback_pressure (agent : AgentState) (now : UInt64) (pressed released : Int32) :
    (buttonCallback agent now pressed released).1.pressureThreshold = agent.pressureThreshold ∧
      (buttonCallback agent now pressed released).1.pressure = agent.pressure := by
  obtain ⟨physicalButtonDown, buttonEvents, hstored⟩ := storeButton_eq agent pressed released
  rw [buttonCallback, hstored]
  dsimp only
  split
  · exact ⟨rfl, rfl⟩
  · obtain ⟨hpressure, hthreshold, -⟩ := enqueuePending_buttons
      { agent with physicalButtonDown, buttonEvents } now .button
    exact ⟨hthreshold, hpressure⟩

def gripOf (threshold : Binary32) : Event → List Grip
  | .call (.contact touches _) _ => [grip threshold touches]
  | _ => []

def grips (threshold : Binary32) (events : List Event) : List Grip :=
  events.flatMap (gripOf threshold)

theorem grips_append (threshold : Binary32) (events : List Event) (event : Event) :
    grips threshold (events ++ [event]) = grips threshold events ++ gripOf threshold event := by
  rw [grips, List.flatMap_append, List.flatMap_singleton]
  rfl

/-- What a step does to the latch: nothing, or nothing although it is a call of
`contact_callback`, or it advances it. -/
theorem step_pressure {serial next : Serial} {event : Event}
    (hstep : serial.step event = some next) :
    next.agent.pressureThreshold = serial.agent.pressureThreshold ∧
      ((∀ threshold, gripOf threshold event = []) ∧
          next.agent.pressure = serial.agent.pressure ∨
        (∃ touches deviceTimeUs now, event = .call (.contact touches deviceTimeUs) now ∧
          admitted serial.agent touches = none ∧
          next.agent.pressure = serial.agent.pressure) ∨
        ∃ taken deviceTimeUs now, event = .call (.contact (some taken) deviceTimeUs) now ∧
          admitted serial.agent (some taken) = some taken ∧
          next.agent.pressure =
            advancePressure serial.agent.pressureThreshold taken serial.agent.pressure) := by
  cases event with
  | stop =>
      cases hstep
      exact ⟨rfl, .inl ⟨fun _ => rfl, rfl⟩⟩
  | sender succeeds now =>
      obtain ⟨sent, hsent, rfl⟩ := Serial.step_sender hstep
      obtain ⟨hpressure, hthreshold⟩ := senderStep_pressure hsent
      exact ⟨hthreshold, .inl ⟨fun _ => rfl, hpressure⟩⟩
  | call invocation now =>
      cases hstep
      cases invocation with
      | contact touches deviceTimeUs =>
          rw [Invocation.perform]
          cases hadmitted : admitted serial.agent touches with
          | none =>
              obtain ⟨captured, dropped, hskipped⟩ :=
                contactCallback_skipped hadmitted now deviceTimeUs
              rw [hskipped]
              exact ⟨rfl, .inr (.inl ⟨touches, deviceTimeUs, now, rfl, hadmitted, rfl⟩)⟩
          | some taken =>
              obtain ⟨rfl, -, -, htaken⟩ := contactCallback_admitted hadmitted now deviceTimeUs
              rw [htaken]
              obtain ⟨hpressure, hthreshold, -⟩ := enqueuePending_buttons
                { serial.agent with captured := serial.agent.captured + 1 } now
                (.contact taken deviceTimeUs)
              exact ⟨hthreshold, .inr (.inr ⟨taken, deviceTimeUs, now, rfl, hadmitted, hpressure⟩)⟩
      | button pressed released =>
          obtain ⟨hthreshold, hpressure⟩ :=
            buttonCallback_pressure serial.agent now pressed released
          exact ⟨hthreshold, .inl ⟨fun _ => rfl, hpressure⟩⟩

/-! ## The button of a frame -/

theorem buttonFlags_button (down : Bool) : buttonFlags down &&& tpFrameButton ≠ 0 ↔ down = true := by
  cases down <;> decide

theorem enqueuePending_frame {agent next : AgentState} {now : UInt64} {pending : Pending}
    {frame : TPFrame} (h : enqueuePending agent now pending = (next, some frame)) :
    frame.flags &&& tpFrameButton ≠ 0 ↔
      next.pressure.buttonDown = true ∨ next.physicalButtonDown = true := by
  obtain ⟨hpressure, -, hphysical⟩ := enqueuePending_buttons agent now pending
  rw [h] at hpressure hphysical
  have hframe : frame = (buildFrame agent pending).2 := by
    have hsome := congrArg Prod.snd h
    unfold enqueuePending at hsome
    dsimp only at hsome
    split at hsome
    · exact (Option.some.inj hsome).symm
    · cases hsome
  have hflags : (buildFrame agent pending).2.flags = buttonFlags
      (effectiveButtonDown (buildFrame agent pending).1.pressure agent.physicalButtonDown) := by
    cases pending <;> rfl
  rw [hframe, hflags, buttonFlags_button, effectiveButtonDown, Bool.or_eq_true]
  rw [← hpressure, ← hphysical]

theorem perform_frame {agent next : AgentState} {now : UInt64} {invocation : Invocation}
    {frame : TPFrame} (h : invocation.perform agent now = (next, some frame)) :
    frame.flags &&& tpFrameButton ≠ 0 ↔
      next.pressure.buttonDown = true ∨ next.physicalButtonDown = true := by
  cases invocation with
  | contact touches deviceTimeUs =>
      rw [Invocation.perform] at h
      cases hadmitted : admitted agent touches with
      | none =>
          obtain ⟨captured, dropped, hskipped⟩ :=
            contactCallback_skipped hadmitted now deviceTimeUs
          rw [hskipped] at h
          cases h
      | some taken =>
          obtain ⟨-, -, -, htaken⟩ := contactCallback_admitted hadmitted now deviceTimeUs
          rw [htaken] at h
          exact enqueuePending_frame h
  | button pressed released =>
      rw [Invocation.perform, buttonCallback] at h
      split at h
      · cases h
      · exact enqueuePending_frame h

theorem contactCallback_physical (agent : AgentState) (now deviceTimeUs : UInt64)
    (touches : Option (List MTTouch)) :
    (contactCallback agent now touches deviceTimeUs).1.physicalButtonDown =
      agent.physicalButtonDown := by
  cases hadmitted : admitted agent touches with
  | none =>
      obtain ⟨captured, dropped, hskipped⟩ := contactCallback_skipped hadmitted now deviceTimeUs
      rw [hskipped]
  | some taken =>
      obtain ⟨-, -, -, htaken⟩ := contactCallback_admitted hadmitted now deviceTimeUs
      rw [htaken]
      exact (enqueuePending_buttons _ now _).2.2

/-! ## Clicks that were made -/

/-- The latch misses no break while it is closed, nor anything but a hard press
while it counts. -/
def Harmless (serial : Serial) : Event → Prop
  | .call (.contact touches _) _ =>
      admitted serial.agent touches = none →
        (serial.agent.pressure.buttonDown = true →
          grip serial.agent.pressureThreshold touches ≠ .broken) ∧
        (serial.agent.pressure.buttonDown = false → 0 < serial.agent.pressure.pressFrames →
          grip serial.agent.pressureThreshold touches = .firm)
  | _ => True

instance decidableHarmless (serial : Serial) : ∀ event, Decidable (Harmless serial event)
  | .stop => .isTrue trivial
  | .sender _ _ => .isTrue trivial
  | .call (.button _ _) _ => .isTrue trivial
  | .call (.contact _ _) _ => inferInstanceAs (Decidable (_ → _))

structure Accounted (threshold : Binary32) (serial : Serial) (seen : List Grip) : Prop where
  threshold : serial.agent.pressureThreshold = threshold
  backed : serial.agent.pressure.latch.Backed 3 seen

theorem step_accounted {threshold : Binary32} (hthreshold : Binary32.less 0 threshold = true)
    {serial next : Serial} {event : Event} {seen : List Grip}
    (h : Accounted threshold serial seen) (hharmless : Harmless serial event)
    (hstep : serial.step event = some next) :
    Accounted threshold next (seen ++ gripOf threshold event) := by
  obtain ⟨hsame, hcases⟩ := step_pressure hstep
  refine ⟨hsame.trans h.threshold, ?_⟩
  rcases hcases with ⟨hquiet, hpressure⟩ | ⟨touches, deviceTimeUs, now, rfl, hskipped, hpressure⟩ |
    ⟨taken, deviceTimeUs, now, rfl, -, hpressure⟩
  · rw [hquiet, List.append_nil, hpressure]
    exact h.backed
  · obtain ⟨hclosed, hcounting⟩ := hharmless hskipped
    rw [h.threshold] at hclosed hcounting
    rw [hpressure]
    refine h.backed.missed hclosed fun hup hstreak => hcounting hup ?_
    rw [UInt32.lt_iff_toNat_lt]
    exact hstreak
  · rw [hpressure, h.threshold,
      advancePressure_latch hthreshold fun hup => (h.backed.streak hup).1]
    exact h.backed.next (by decide) _

theorem accounted_initial (threshold : Binary32) :
    Accounted threshold (Serial.initial threshold) [] :=
  ⟨rfl, .initial (by decide)⟩

/-- In runs whose steps are harmless, a BUTTON that `contact_callback` enqueues while
the physical button is up was clicked: three hard presses in a row, and one finger
ever since. -/
theorem pressure_click_never_invented {threshold : Binary32}
    (hthreshold : Binary32.less 0 threshold = true) {events : List Event} {state : Serial}
    (hharmless : Along Serial.step Harmless (Serial.initial threshold) events)
    (hrun : runFrom Serial.step (Serial.initial threshold) events = some state)
    {touches : Option (List MTTouch)} {deviceTimeUs now : UInt64} {next : AgentState}
    {frame : TPFrame}
    (hcall : contactCallback state.agent now touches deviceTimeUs = (next, some frame))
    (hbutton : frame.flags &&& tpFrameButton ≠ 0)
    (hphysical : state.agent.physicalButtonDown = false) :
    Latch.Held 3 (grips threshold (events ++ [.call (.contact touches deviceTimeUs) now])) := by
  have hbefore : Accounted threshold state (grips threshold events) := by
    rw [grips, ← observed_eq_flatMap hrun]
    exact runFrom_observed (fun _ _ _ _ => step_accounted hthreshold)
      (accounted_initial threshold) hharmless hrun
  have hlast : Harmless state (.call (.contact touches deviceTimeUs) now) := by
    intro hnone
    obtain ⟨captured, dropped, hskipped⟩ := contactCallback_skipped hnone now deviceTimeUs
    rw [hskipped] at hcall
    cases hcall
  have hstep : state.step (.call (.contact touches deviceTimeUs) now) =
      some { state with agent := next } := by
    rw [Serial.step, Invocation.perform, hcall]
  have hafter := step_accounted hthreshold hbefore hlast hstep
  have hup : next.physicalButtonDown = false := by
    have hsame := contactCallback_physical state.agent now deviceTimeUs touches
    rw [hcall] at hsame
    exact hsame.trans hphysical
  have hframe : (Invocation.contact touches deviceTimeUs).perform state.agent now =
      (next, some frame) := hcall
  rw [grips_append]
  rcases (perform_frame hframe).mp hbutton with hdown | hdown
  · exact hafter.backed.held hdown
  · rw [hup] at hdown
    cases hdown

/-! ## A click that survives a reconnect -/

def defaultThreshold : Binary32 := 0x42b40000

def hardPress : List MTTouch := [{ identifier := 1, state := 4, pressure := 0x42c80000 }]

def lightTouch : List MTTouch := [{ identifier := 1, state := 4 }]

def touch (touches : List MTTouch) : Event := .call (.contact (some touches) 0) 0

def connected : List Event := List.replicate 11 (.sender true 0)

def hardPresses : List Event := connected ++ List.replicate 3 (touch hardPress)

def liftedOffline : List Event :=
  hardPresses ++ List.replicate 3 (.sender true 0) ++ [.sender false 0, .sender true 0] ++
    [touch []] ++ List.replicate 2 (.sender true 0) ++ connected

def enqueuedAfter (events : List Event) (touches : List MTTouch) : Option (Bool × UInt16) :=
  (runFrom Serial.step (Serial.initial defaultThreshold) events).bind fun state =>
    (contactCallback state.agent 0 (some touches) 0).2.map fun frame =>
      (state.agent.physicalButtonDown, frame.flags)

theorem enqueuedAfter_eq_some {events : List Event} {touches : List MTTouch} {physical : Bool}
    {flags : UInt16} (h : enqueuedAfter events touches = some (physical, flags)) :
    ∃ state next frame,
      runFrom Serial.step (Serial.initial defaultThreshold) events = some state ∧
        contactCallback state.agent 0 (some touches) 0 = (next, some frame) ∧
        state.agent.physicalButtonDown = physical ∧ frame.flags = flags := by
  obtain ⟨state, hrun, hcalled⟩ := Option.bind_eq_some_iff.mp h
  obtain ⟨frame, henqueued, hframe⟩ := Option.map_eq_some_iff.mp hcalled
  refine ⟨state, _, frame, hrun, Prod.ext rfl henqueued, ?_, ?_⟩
  · exact congrArg Prod.fst hframe
  · exact congrArg Prod.snd hframe

theorem pressure_click_never_invented_three_presses :
    ∃ state next frame,
      runFrom Serial.step (Serial.initial defaultThreshold) hardPresses = some state ∧
        contactCallback state.agent 0 (some lightTouch) 0 = (next, some frame) ∧
        frame.flags &&& tpFrameButton ≠ 0 ∧
        Latch.Held 3 (grips defaultThreshold (hardPresses ++ [touch lightTouch])) := by
  have henqueued : enqueuedAfter hardPresses lightTouch = some (false, 1) := by decide +kernel
  obtain ⟨state, next, frame, hrun, hcall, hphysical, hflags⟩ := enqueuedAfter_eq_some henqueued
  have hbutton : frame.flags &&& tpFrameButton ≠ 0 := by
    rw [hflags]
    decide
  refine ⟨state, next, frame, hrun, hcall, hbutton, ?_⟩
  exact pressure_click_never_invented (by decide +kernel) (by decide +kernel) hrun hcall hbutton
    hphysical

/-- No finger was down after the hard presses, and the next light touch carries BUTTON. -/
theorem click_survives_reconnect :
    ¬ ∀ threshold : Binary32, Binary32.less 0 threshold = true →
      ∀ (events : List Event) (state : Serial),
        runFrom Serial.step (Serial.initial threshold) events = some state →
          ∀ (touches : Option (List MTTouch)) (deviceTimeUs now : UInt64) (next : AgentState)
            (frame : TPFrame),
            contactCallback state.agent now touches deviceTimeUs = (next, some frame) →
              frame.flags &&& tpFrameButton ≠ 0 →
                state.agent.physicalButtonDown = false →
                  Latch.Held 3
                    (grips threshold (events ++ [.call (.contact touches deviceTimeUs) now])) := by
  intro hclaim
  have henqueued : enqueuedAfter liftedOffline lightTouch = some (false, 1) := by decide +kernel
  obtain ⟨state, next, frame, hrun, hcall, hphysical, hflags⟩ := enqueuedAfter_eq_some henqueued
  have hbutton : frame.flags &&& tpFrameButton ≠ 0 := by
    rw [hflags]
    decide
  have hheld := hclaim defaultThreshold (by decide +kernel) liftedOffline state hrun
    (some lightTouch) 0 0 next frame hcall hbutton hphysical
  rw [← Latch.after_down_iff_held (by decide)] at hheld
  revert hheld
  decide +kernel

/-! ## Clicks in connected runs -/

def Processed (serial : Serial) : Event → Prop
  | .call (.contact touches _) _ => admitted serial.agent touches ≠ none
  | _ => True

instance decidableProcessed (serial : Serial) : ∀ event, Decidable (Processed serial event)
  | .stop => .isTrue trivial
  | .sender _ _ => .isTrue trivial
  | .call (.button _ _) _ => .isTrue trivial
  | .call (.contact _ _) _ => inferInstanceAs (Decidable (¬ _))

structure Followed (threshold : Binary32) (serial : Serial) (seen : List Grip) : Prop where
  threshold : serial.agent.pressureThreshold = threshold
  latch : serial.agent.pressure.latch = Latch.after 3 seen

theorem step_followed {threshold : Binary32} (hthreshold : Binary32.less 0 threshold = true)
    {serial next : Serial} {event : Event} {seen : List Grip}
    (h : Followed threshold serial seen) (hprocessed : Processed serial event)
    (hstep : serial.step event = some next) :
    Followed threshold next (seen ++ gripOf threshold event) := by
  obtain ⟨hsame, hcases⟩ := step_pressure hstep
  refine ⟨hsame.trans h.threshold, ?_⟩
  rcases hcases with ⟨hquiet, hpressure⟩ | ⟨touches, deviceTimeUs, now, rfl, hskipped, -⟩ |
    ⟨taken, deviceTimeUs, now, rfl, -, hpressure⟩
  · rw [hquiet, List.append_nil, hpressure]
    exact h.latch
  · exact absurd hskipped hprocessed
  · have hbacked := Latch.backed_after (show 0 < 3 by decide) seen
    rw [← h.latch] at hbacked
    rw [hpressure, h.threshold,
      advancePressure_latch hthreshold fun hup => (hbacked.streak hup).1, h.latch, gripOf,
      Latch.after_append]

def flipOf (serial : Serial) (event : Event) : List Bool :=
  match serial.step event with
  | none => []
  | some next =>
      if next.agent.pressure.buttonDown = serial.agent.pressure.buttonDown then []
      else [next.agent.pressure.buttonDown]

def flips (threshold : Binary32) (events : List Event) : List Bool :=
  observed Serial.step flipOf (Serial.initial threshold) events

def Counted (serial : Serial) (seen : List Bool) : Prop :=
  serial.agent.pressure.buttonEvents = UInt64.ofNat seen.length

theorem step_events {serial next : Serial} {event : Event}
    (hstep : serial.step event = some next) :
    next.agent.pressure.buttonEvents =
      if next.agent.pressure.buttonDown = serial.agent.pressure.buttonDown then
        serial.agent.pressure.buttonEvents
      else serial.agent.pressure.buttonEvents + 1 := by
  obtain ⟨-, ⟨-, hpressure⟩ | ⟨touches, deviceTimeUs, now, -, -, hpressure⟩ |
    ⟨taken, deviceTimeUs, now, -, -, hpressure⟩⟩ := step_pressure hstep
  · rw [hpressure, if_pos rfl]
  · rw [hpressure, if_pos rfl]
  · rw [hpressure]
    exact advancePressure_events _ _ _

theorem step_counted {serial next : Serial} {event : Event} {seen : List Bool}
    (h : Counted serial seen) (hstep : serial.step event = some next) :
    Counted next (seen ++ flipOf serial event) := by
  have hevents := step_events hstep
  rw [Counted] at h ⊢
  rw [flipOf, hstep]
  dsimp only
  split
  case isTrue hsame =>
    rw [if_pos hsame] at hevents
    rw [hevents, List.append_nil, h]
  case isFalse hflipped =>
    rw [if_neg hflipped] at hevents
    rw [hevents, List.length_append, h]
    rw [List.length_singleton, UInt64.ofNat_add]
    rfl

theorem followed_initial (threshold : Binary32) :
    Followed threshold (Serial.initial threshold) [] :=
  ⟨rfl, rfl⟩

theorem followed_run {threshold : Binary32} (hthreshold : Binary32.less 0 threshold = true)
    {events : List Event} {state : Serial}
    (hprocessed : Along Serial.step Processed (Serial.initial threshold) events)
    (hrun : runFrom Serial.step (Serial.initial threshold) events = some state) :
    Followed threshold state (grips threshold events) := by
  rw [grips, ← observed_eq_flatMap hrun]
  exact runFrom_observed (fun _ _ _ _ => step_followed hthreshold)
      (followed_initial threshold) hprocessed hrun

theorem Followed.down_iff {threshold : Binary32} {serial : Serial} {seen : List Grip}
    (h : Followed threshold serial seen) :
    serial.agent.pressure.buttonDown = true ↔
      List.replicate 3 Grip.firm <:+: seen.rtakeWhile (· ≠ .broken) := by
  rw [← Latch.after_down_iff (by decide), ← h.latch]
  rfl

/-- The latch is closed exactly when the calls since the last one without a single
finger contain three hard presses in a row; frames carry the latch or the physical
button; and the changes of the latch are counted. -/
theorem pressure_click_follows {threshold : Binary32}
    (hthreshold : Binary32.less 0 threshold = true) {events : List Event} {final : Serial}
    (hprocessed : Along Serial.step Processed (Serial.initial threshold) events)
    (hrun : runFrom Serial.step (Serial.initial threshold) events = some final) :
    (final.agent.pressure.buttonDown = true ↔
      List.replicate 3 Grip.firm <:+: (grips threshold events).rtakeWhile (· ≠ .broken)) ∧
      (∀ earlier invocation now later, events = earlier ++ .call invocation now :: later →
        ∀ state next frame,
          runFrom Serial.step (Serial.initial threshold) earlier = some state →
          invocation.perform state.agent now = (next, some frame) →
          (frame.flags &&& tpFrameButton ≠ 0 ↔
            List.replicate 3 Grip.firm <:+:
              (grips threshold (earlier ++ [.call invocation now])).rtakeWhile (· ≠ .broken) ∨
            next.physicalButtonDown = true)) ∧
      final.agent.pressure.buttonEvents = UInt64.ofNat (flips threshold events).length := by
  refine ⟨(followed_run hthreshold hprocessed hrun).down_iff, ?_, ?_⟩
  · rintro earlier invocation now later rfl state next frame hearlier hperform
    obtain ⟨hbefore, hat, -⟩ := hprocessed.split hearlier
    have hstep : state.step (.call invocation now) = some { state with agent := next } := by
      rw [Serial.step, hperform]
    have hafter := step_followed hthreshold (followed_run hthreshold hbefore hearlier) hat hstep
    rw [perform_frame hperform, grips_append, ← hafter.down_iff]
  · exact runFrom_observed (fun _ _ _ _ hcounted _ => step_counted hcounted)
      (show Counted (Serial.initial threshold) [] from rfl) hprocessed hrun

theorem pressure_click_follows_light_touch :
    ∃ final, runFrom Serial.step (Serial.initial defaultThreshold)
        (hardPresses ++ [touch lightTouch]) = some final ∧
      final.agent.pressure.buttonDown = true ∧
      final.agent.pressure.buttonEvents = 1 := by
  have hstate : (runFrom Serial.step (Serial.initial defaultThreshold)
      (hardPresses ++ [touch lightTouch])).isSome = true := by decide +kernel
  obtain ⟨final, hrun⟩ := Option.isSome_iff_exists.mp hstate
  obtain ⟨hdown, -, hevents⟩ :=
    pressure_click_follows (by decide +kernel) (by decide +kernel) hrun
  refine ⟨final, hrun, hdown.mpr (by decide +kernel), hevents.trans ?_⟩
  decide +kernel

end Touchpad.Agent
