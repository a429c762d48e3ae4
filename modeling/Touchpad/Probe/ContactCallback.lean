import Touchpad.Agent.Callback
import Touchpad.Foundation.Pool
import Touchpad.Foundation.RunningMaximum

/-!
# The callbacks of the probe

`contact_callback` and `update_max_touches` of `mac/Probe/main.c`, which may run for
several devices at once.  The counters are atomic, each with an order of its own; a line
of output is written in pieces under the lock of `stdout`.
-/

namespace Touchpad.Probe

open Touchpad.Foundation

def maxReasonableTouches : UInt64 := 32

structure MTTouch extends Agent.MTTouch where
  millimetersX : Binary32 := 0
  millimetersY : Binary32 := 0
  fingerId : Int32 := 0
  handId : Int32 := 0
  reserved0 : Int32 := 0
  reserved1 : Int32 := 0

/-- The arguments of a call.  The array of touches may be missing; the timestamp is the bit
pattern of a double. -/
structure Call where
  device : UInt64 := 0
  touches : Option (Nat → MTTouch) := none
  touchCount : UInt64 := 0
  timestamp : UInt64 := 0
  frame : UInt64 := 0

def Call.valid (call : Call) : Bool :=
  !(decide (maxReasonableTouches < call.touchCount) ||
    (decide (0 < call.touchCount) && call.touches.isNone))

def Call.candidate (call : Call) : Nat := call.touchCount.toUInt32.toNat

inductive Written where
  | opening (captureTimeUs device frame timestamp touchCount : UInt64)
  | comma
  | contact (touch : MTTouch)
  | closing

def Call.opening (call : Call) (now : UInt64) : Written :=
  .opening now call.device call.frame call.timestamp call.touchCount

def Call.contactAt (call : Call) (index : Nat) : List Written :=
  (if index ≠ 0 then [.comma] else []) ++ [.contact ((call.touches.map (· index)).getD {})]

def Call.contacts (call : Call) : List Written :=
  (List.range call.touchCount.toNat).flatMap call.contactAt ++ [.closing]

def Call.line (call : Call) (now : UInt64) : List Written := call.opening now :: call.contacts

/-! ## Shared state -/

structure Shared where
  frameCount : UInt64 := 0
  touchCount : UInt64 := 0
  invalidFrameCount : UInt64 := 0
  /-- The values of `g_max_touches`, in the order in which they were stored. -/
  maxTouches : List Nat := [0]
  /-- The callback that holds the lock of `stdout`. -/
  locked : Option Nat := none
  stdout : List Written := []

inductive Stage where
  | entered
  | summing
  | raising (update : Raising)
  | opening
  | writing (rest : List Written)
  | returned

structure Callback where
  call : Call
  stage : Stage := .entered

/-- What a callback does next, where that is open: its access to `g_max_touches`, or the
time that it draws. -/
inductive Choice where
  | goes
  | accesses (access : Access)
  | draws (now : UInt64)

def updateMaxTouches (shared : Shared) (candidate : Nat) (update : Raising) (access : Access) :
    Option (Shared × Raising) :=
  (update.step shared.maxTouches candidate access).map fun (maxTouches, next) =>
    ({ shared with maxTouches }, next)

def contactCallback (index : Nat) (shared : Shared) (callback : Callback) :
    Choice → Option (Shared × Callback)
  | .goes =>
      match callback.stage with
      | .entered =>
          if callback.call.valid then
            some ({ shared with frameCount := shared.frameCount + 1 },
              { callback with stage := .summing })
          else
            some ({ shared with invalidFrameCount := shared.invalidFrameCount + 1 },
              { callback with stage := .returned })
      | .summing =>
          some ({ shared with touchCount := shared.touchCount + callback.call.touchCount },
            { callback with stage := .raising .loading })
      | .raising .settled =>
          if shared.locked = none then
            some ({ shared with locked := some index }, { callback with stage := .opening })
          else none
      | .writing (item :: rest) =>
          some ({ shared with stdout := shared.stdout ++ [item] },
            { callback with stage := .writing rest })
      | .writing [] =>
          some ({ shared with locked := none }, { callback with stage := .returned })
      | _ => none
  | .accesses access =>
      match callback.stage with
      | .raising update =>
          (updateMaxTouches shared callback.call.candidate update access).map
            fun (shared, next) => (shared, { callback with stage := .raising next })
      | _ => none
  | .draws now =>
      match callback.stage with
      | .opening =>
          some ({ shared with stdout := shared.stdout ++ [callback.call.opening now] },
            { callback with stage := .writing callback.call.contacts })
      | _ => none

def rules : PoolRules Shared Callback Call Choice where
  fresh call := { call }
  act := contactCallback

abbrev Action := PoolAction Call Choice

def started : Pool Shared Callback := { shared := {} }

inductive Moves (index : Nat) (shared : Shared) (call : Call) :
    Stage → Choice → Shared → Stage → Prop
  | counted (h : call.valid = true) : Moves index shared call .entered .goes
      { shared with frameCount := shared.frameCount + 1 } .summing
  | refused (h : call.valid = false) : Moves index shared call .entered .goes
      { shared with invalidFrameCount := shared.invalidFrameCount + 1 } .returned
  | summed : Moves index shared call .summing .goes
      { shared with touchCount := shared.touchCount + call.touchCount } (.raising .loading)
  | accessed {update next : Raising} {access : Access} {maxTouches : List Nat}
      (h : update.step shared.maxTouches call.candidate access = some (maxTouches, next)) :
      Moves index shared call (.raising update) (.accesses access) { shared with maxTouches }
        (.raising next)
  | took (h : shared.locked = none) : Moves index shared call (.raising .settled) .goes
      { shared with locked := some index } .opening
  | opened (now : UInt64) : Moves index shared call .opening (.draws now)
      { shared with stdout := shared.stdout ++ [call.opening now] } (.writing call.contacts)
  | wrote (item : Written) (rest : List Written) :
      Moves index shared call (.writing (item :: rest)) .goes
        { shared with stdout := shared.stdout ++ [item] } (.writing rest)
  | released : Moves index shared call (.writing []) .goes { shared with locked := none } .returned

theorem moves_of_contactCallback {index : Nat} {shared after : Shared} {callback next : Callback}
    {choice : Choice} (h : contactCallback index shared callback choice = some (after, next)) :
    next.call = callback.call ∧
      Moves index shared callback.call callback.stage choice after next.stage := by
  obtain ⟨call, stage⟩ := callback
  cases choice with
  | goes =>
      cases stage with
      | entered =>
          rw [contactCallback] at h
          dsimp only at h
          split at h
          case isTrue hvalid =>
            cases h
            exact ⟨rfl, .counted hvalid⟩
          case isFalse hinvalid =>
            cases h
            exact ⟨rfl, .refused (by simpa using hinvalid)⟩
      | summing =>
          cases h
          exact ⟨rfl, .summed⟩
      | raising update =>
          cases update with
          | settled =>
              obtain ⟨hfree, htaken⟩ := Option.ite_none_right_eq_some.mp h
              cases htaken
              exact ⟨rfl, .took hfree⟩
          | loading => cases h
          | comparing seen => cases h
      | writing rest =>
          cases rest with
          | nil =>
              cases h
              exact ⟨rfl, .released⟩
          | cons item rest =>
              cases h
              exact ⟨rfl, .wrote item rest⟩
      | opening => cases h
      | returned => cases h
  | accesses access =>
      cases stage with
      | raising update =>
          obtain ⟨⟨raised, other⟩, hupdate, heq⟩ := Option.map_eq_some_iff.mp h
          obtain ⟨⟨maxTouches, updated⟩, hstep, hraised⟩ := Option.map_eq_some_iff.mp hupdate
          cases hraised
          cases heq
          exact ⟨rfl, .accessed hstep⟩
      | entered => cases h
      | summing => cases h
      | opening => cases h
      | writing rest => cases h
      | returned => cases h
  | draws now =>
      cases stage with
      | opening =>
          cases h
          exact ⟨rfl, .opened now⟩
      | entered => cases h
      | summing => cases h
      | raising update => cases h
      | writing rest => cases h
      | returned => cases h

end Touchpad.Probe
