import Touchpad.Protocol.EncodedMessage

/-!
# The frames of the callbacks

What `contact_callback` and `button_callback` of `mac/Agent/main.c` put into a frame
under the frame mutex, and the pressure latch that the former advances.
-/

namespace Touchpad.Agent

open Touchpad.Foundation
open Touchpad.Protocol

/-- The fields of an `MTTouch` that the agent reads. -/
structure MTTouch where
  identifier : Int32 := 0
  state : Int32 := 0
  x : Binary32 := 0
  y : Binary32 := 0
  velocityX : Binary32 := 0
  velocityY : Binary32 := 0
  size : Binary32 := 0
  pressure : Binary32 := 0
  angle : Binary32 := 0
  majorAxis : Binary32 := 0
  minorAxis : Binary32 := 0
  density : Binary32 := 0
  deriving DecidableEq

def flagsForState (state : Int32) : UInt8 :=
  let flags := tpContactConfidence
  let flags := if 1 ≤ state ∧ state ≤ 6 then flags ||| tpContactInRange else flags
  if state = 3 ∨ state = 4 then flags ||| tpContactTip else flags

structure Pressure where
  buttonDown : Bool := false
  pressFrames : UInt32 := 0
  buttonEvents : UInt64 := 0
  deriving DecidableEq

def tipPressure : List MTTouch → Nat × Binary32 → Nat × Binary32
  | [], state => state
  | source :: touches, (tipCount, maximumPressure) =>
      if flagsForState source.state &&& tpContactTip ≠ 0 then
        tipPressure touches
          (tipCount + 1,
            if Binary32.less maximumPressure source.pressure then source.pressure
            else maximumPressure)
      else tipPressure touches (tipCount, maximumPressure)

def advancePressure (threshold : Binary32) (touches : List MTTouch) (pressure : Pressure) :
    Pressure :=
  let (tipCount, maximumPressure) := tipPressure touches (0, 0)
  if tipCount ≠ 1 then
    { buttonDown := false
      pressFrames := 0
      buttonEvents :=
        if pressure.buttonDown then pressure.buttonEvents + 1 else pressure.buttonEvents }
  else if !pressure.buttonDown && Binary32.less 0 threshold then
    if Binary32.lessEqual threshold maximumPressure then
      let pressFrames := pressure.pressFrames + 1
      if 3 ≤ pressFrames then
        { buttonDown := true, pressFrames, buttonEvents := pressure.buttonEvents + 1 }
      else { pressure with pressFrames }
    else { pressure with pressFrames := 0 }
  else pressure

def effectiveButtonDown (pressure : Pressure) (physicalButtonDown : Bool) : Bool :=
  pressure.buttonDown || physicalButtonDown

def buttonFlags (down : Bool) : UInt16 := if down then tpFrameButton else 0

def touchContact (source : MTTouch) : TPContact where
  identifier := source.identifier.toUInt32
  state := source.state.toUInt32.toUInt8
  flags := flagsForState source.state
  x := source.x
  y := source.y
  velocityX := source.velocityX
  velocityY := source.velocityY
  size := source.size
  angle := source.angle
  majorAxis := source.majorAxis
  minorAxis := source.minorAxis
  density := source.density

/-- The frame of `contact_callback`, before its sequence number and capture time. -/
def contactFrame (touches : List MTTouch) (deviceTimeUs : UInt64) (down : Bool) : TPFrame where
  deviceTimeUs
  contactCount := UInt16.ofNat touches.length
  flags := buttonFlags down
  contacts := fun index => (touches[index.val]?.map touchContact).getD {}

def buttonFrame (latest : TPFrame) (down : Bool) : TPFrame :=
  { latest with flags := buttonFlags down, deviceTimeUs := 0 }

/-! ## TIP touches -/

def tips (touches : List MTTouch) : List MTTouch :=
  touches.filter fun touch => touch.state = 3 ∨ touch.state = 4

theorem flagsForState_tip (state : Int32) :
    flagsForState state &&& tpContactTip ≠ 0 ↔ state = 3 ∨ state = 4 := by
  unfold flagsForState
  dsimp only
  constructor
  · intro h
    by_contra htip
    rw [if_neg htip] at h
    apply h
    split <;> decide
  · intro htip
    rw [if_pos htip]
    split <;> decide

/-! ## Both can be encoded -/

theorem buttonFlags_masked (down : Bool) : buttonFlags down &&& ~~~tpFrameButton = 0 := by
  cases down <;> decide

theorem encodable_contactFrame {touches : List MTTouch}
    (h : touches.length ≤ tpMaxContacts) (deviceTimeUs : UInt64) (down : Bool) :
    Encodable (contactFrame touches deviceTimeUs down) where
  count := by
    have hlt : touches.length < 2 ^ 16 := lt_of_le_of_lt h (by decide)
    simp only [contactFrame, UInt16.toNat_ofNat', Nat.mod_eq_of_lt hlt]
    exact h
  flags := buttonFlags_masked down

theorem encodable_buttonFrame {latest : TPFrame} (h : Encodable latest) (down : Bool) :
    Encodable (buttonFrame latest down) where
  count := h.count
  flags := buttonFlags_masked down

theorem encodable_empty : Encodable {} := ⟨by decide, by decide⟩

end Touchpad.Agent
