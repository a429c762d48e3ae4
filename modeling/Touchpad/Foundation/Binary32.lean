import Mathlib.Data.Rat.Floor

/-!
# Finite values of binary32 bit patterns

A single-precision number is kept as its bit pattern; its value is the exact
rational that the pattern denotes.  The all-ones exponent encodes infinities
and NaNs, which have no value: `value` is meaningful on finite patterns only.
-/

namespace Touchpad.Foundation

abbrev Binary32 := UInt32

namespace Binary32

def exponentField (bits : Binary32) : Nat := bits.toNat / 2 ^ 23 % 2 ^ 8

def mantissaField (bits : Binary32) : Nat := bits.toNat % 2 ^ 23

def negative (bits : Binary32) : Bool := 2 ^ 31 ≤ bits.toNat

def isFinite (bits : Binary32) : Bool := exponentField bits ≠ 255

/-- The magnitude is `significand * 2 ^ (scale - 150)`; subnormals share the
scale of the smallest normal exponent and lack the hidden bit. -/
def magnitude (bits : Binary32) : Rat :=
  let significand :=
    if exponentField bits = 0 then mantissaField bits
    else 2 ^ 23 + mantissaField bits
  let scale := max 1 (exponentField bits)
  ((significand * 2 ^ scale : Nat) : Rat) / ((2 ^ 150 : Nat) : Rat)

def value (bits : Binary32) : Rat :=
  if negative bits then -magnitude bits else magnitude bits

def isNaN (bits : Binary32) : Bool := exponentField bits = 255 && mantissaField bits ≠ 0

/-- The order of floats.  An infinite pattern denotes a power of two beyond all
finite ones, and no comparison with a NaN holds. -/
def less (first second : Binary32) : Bool :=
  !isNaN first && !isNaN second && decide (value first < value second)

def lessEqual (first second : Binary32) : Bool :=
  !isNaN first && !isNaN second && decide (value first ≤ value second)

theorem less_irrefl (bits : Binary32) : less bits bits = false := by
  simp [less]

theorem less_of_less_of_lessEqual {first second third : Binary32}
    (hless : less first second = true) (hle : lessEqual second third = true) :
    less first third = true := by
  simp only [less, lessEqual, Bool.and_eq_true, decide_eq_true_iff] at hless hle ⊢
  exact ⟨⟨hless.1.1, hle.1.2⟩, lt_of_lt_of_le hless.2 hle.2⟩

end Binary32

/-- Round to the nearest integer, halves upward: `lround` on nonnegative
arguments. -/
def roundHalfUp (value : Rat) : Int := (value + 1 / 2).floor

theorem roundHalfUp_le {value : Rat} {bound : Int} (h : value ≤ bound) :
    roundHalfUp value ≤ bound := by
  have hlt : roundHalfUp value < bound + 1 := by
    rw [roundHalfUp, Rat.floor_lt_iff]
    push_cast
    linarith
  omega

end Touchpad.Foundation
