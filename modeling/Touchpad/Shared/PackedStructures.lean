import Touchpad.Foundation.FixedCodec
import Touchpad.Shared.TouchpadIoctl

/-!
# The structures as octets

The packed layout of the structures of `windows/shared/TouchpadIoctl.h`, as they lie
in the buffers of a request.
-/

namespace Touchpad.Shared

open Touchpad.Foundation

structure IoctlStatus where
  abiVersion : UInt32 := 0
  submitCount : UInt32 := 0
  lastSubmitStatus : Int32 := 0
  lastReportSize : UInt16 := 0
  lastActiveContactCount : UInt8 := 0
  inputMode : UInt8 := 0
  functionSwitch : UInt8 := 0
  reserved : Fin 3 → UInt8 := fun _ => 0
  getFeatureCount : UInt32 := 0
  setFeatureCount : UInt32 := 0
  deriving DecidableEq

def int32Codec : FixedCodec Int32 :=
  FixedCodec.word32.congr {
    toFun := Int32.ofUInt32
    invFun := Int32.toUInt32
    left_inv := fun _ => rfl
    right_inv := fun _ => rfl }

open FixedCodec in
def contactCodec : FixedCodec IoctlContact :=
  (octet.prod (octet.prod (word16.prod (word16.prod word16)))).congr {
    toFun := fun (slot, flags, x, y, reserved) => { slot, flags, x, y, reserved }
    invFun := fun record => (record.slot, record.flags, record.x, record.y, record.reserved)
    left_inv := fun _ => rfl
    right_inv := fun _ => rfl }

open FixedCodec in
def frameCodec : FixedCodec IoctlFrame :=
  (word32.prod (word32.prod (word32.prod (word16.prod (octet.prod (octet.prod
    (contactCodec.array mtpHidMaxContacts))))))).congr {
      toFun := fun (abiVersion, sequence, flags, scanTime100us, activeContactCount,
        reportContactCount, contacts) =>
        { abiVersion, sequence, flags, scanTime100us, activeContactCount, reportContactCount,
          contacts }
      invFun := fun frame =>
        (frame.abiVersion, frame.sequence, frame.flags, frame.scanTime100us,
          frame.activeContactCount, frame.reportContactCount, frame.contacts)
      left_inv := fun _ => rfl
      right_inv := fun _ => rfl }

open FixedCodec in
def statusCodec : FixedCodec IoctlStatus :=
  (word32.prod (word32.prod (int32Codec.prod (word16.prod (octet.prod (octet.prod
    (octet.prod ((octet.array 3).prod (word32.prod word32))))))))).congr {
      toFun := fun (abiVersion, submitCount, lastSubmitStatus, lastReportSize,
        lastActiveContactCount, inputMode, functionSwitch, reserved, getFeatureCount,
        setFeatureCount) =>
        { abiVersion, submitCount, lastSubmitStatus, lastReportSize, lastActiveContactCount,
          inputMode, functionSwitch, reserved, getFeatureCount, setFeatureCount }
      invFun := fun status =>
        (status.abiVersion, status.submitCount, status.lastSubmitStatus, status.lastReportSize,
          status.lastActiveContactCount, status.inputMode, status.functionSwitch,
          status.reserved, status.getFeatureCount, status.setFeatureCount)
      left_inv := fun _ => rfl
      right_inv := fun _ => rfl }

theorem structure_sizes :
    contactCodec.size = 8 ∧ frameCodec.size = 56 ∧ statusCodec.size = 28 := by decide

end Touchpad.Shared
