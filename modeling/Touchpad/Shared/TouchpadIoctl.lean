import Mathlib.Data.Fintype.Pi

/-!
# The frame that crosses the kernel boundary

`MTP_IOCTL_FRAME` of `windows/shared/TouchpadIoctl.h`.  The receiver fills one
frame per report; the driver validates it and turns it into a HID report.
-/

namespace Touchpad.Shared

def mtpIoctlAbiVersion : UInt32 := 2
abbrev mtpHidMaxContacts : Nat := 5
def mtpCoordinateLogicalMax : UInt16 := 32767

def mtpIoctlContactInRange : UInt8 := 0x01
def mtpIoctlContactTip : UInt8 := 0x02
def mtpIoctlContactConfidence : UInt8 := 0x04
def mtpIoctlFrameReset : UInt32 := 0x00000001
def mtpIoctlFrameButton : UInt32 := 0x00000002

structure IoctlContact where
  slot : UInt8 := 0
  flags : UInt8 := 0
  x : UInt16 := 0
  y : UInt16 := 0
  reserved : UInt16 := 0
  deriving DecidableEq, Repr

structure IoctlFrame where
  abiVersion : UInt32 := 0
  sequence : UInt32 := 0
  flags : UInt32 := 0
  scanTime100us : UInt16 := 0
  activeContactCount : UInt8 := 0
  reportContactCount : UInt8 := 0
  contacts : Fin mtpHidMaxContacts → IoctlContact := fun _ => {}
  deriving DecidableEq

namespace IoctlContact

def hasTip (record : IoctlContact) : Bool := record.flags &&& mtpIoctlContactTip ≠ 0

def hasConfidence (record : IoctlContact) : Bool :=
  record.flags &&& mtpIoctlContactConfidence ≠ 0

end IoctlContact

namespace IoctlFrame

def hasButton (frame : IoctlFrame) : Bool := frame.flags &&& mtpIoctlFrameButton ≠ 0

def records (frame : IoctlFrame) : List IoctlContact :=
  (List.ofFn frame.contacts).take frame.reportContactCount.toNat

def recordsFor (frame : IoctlFrame) (slot : Nat) : List IoctlContact :=
  frame.records.filter fun record => record.slot.toNat = slot

theorem mem_recordsFor {frame : IoctlFrame} {slot : Nat} {record : IoctlContact} :
    record ∈ frame.recordsFor slot ↔ record ∈ frame.records ∧ record.slot.toNat = slot := by
  simp [recordsFor]

end IoctlFrame

end Touchpad.Shared
