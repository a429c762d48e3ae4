import Touchpad.Foundation.BigEndian
import Touchpad.Foundation.Binary32

/-!
# The MTP1 reference codec

`tp_encode_message` and `tp_decode_message` of `protocol/TouchFrame.c`.
Pointers are taken to be valid, so the null checks disappear; a C enumeration
may hold any integer, so message types are words.
-/

namespace Touchpad.Protocol

open Touchpad.Foundation

def tpWireMagic : UInt32 := 0x4d545031
def tpWireVersion : UInt16 := 1
def tpMaxContacts : Nat := 10
def tpHeaderSize : Nat := 36
def tpContactSize : Nat := 44
def tpMaxMessageSize : Nat := tpHeaderSize + tpMaxContacts * tpContactSize

abbrev TPMessageType := UInt32

def tpMessageHello : TPMessageType := 1
def tpMessageFrame : TPMessageType := 2
def tpMessageReset : TPMessageType := 3

def tpContactInRange : UInt8 := 0x01
def tpContactTip : UInt8 := 0x02
def tpContactConfidence : UInt8 := 0x04

def tpFrameButton : UInt16 := 0x0001

structure TPContact where
  identifier : UInt32 := 0
  state : UInt8 := 0
  flags : UInt8 := 0
  x : Binary32 := 0
  y : Binary32 := 0
  velocityX : Binary32 := 0
  velocityY : Binary32 := 0
  size : Binary32 := 0
  angle : Binary32 := 0
  majorAxis : Binary32 := 0
  minorAxis : Binary32 := 0
  density : Binary32 := 0
  deriving DecidableEq, Repr, Inhabited

structure TPFrame where
  sequence : UInt32 := 0
  captureTimeUs : UInt64 := 0
  deviceTimeUs : UInt64 := 0
  flags : UInt16 := 0
  contactCount : UInt16 := 0
  contacts : Fin tpMaxContacts → TPContact := fun _ => {}

/-- `frame->contacts[index]`, zero outside the array. -/
def TPFrame.contactAt (frame : TPFrame) (index : Nat) : TPContact :=
  if h : index < tpMaxContacts then frame.contacts ⟨index, h⟩ else {}

/-! ## Encoding -/

def encodeContact (contact : TPContact) : Bytes :=
  write32 contact.identifier ++ [contact.state, contact.flags] ++ write16 0 ++
    write32 contact.x ++ write32 contact.y ++
    write32 contact.velocityX ++ write32 contact.velocityY ++
    write32 contact.size ++ write32 contact.angle ++
    write32 contact.majorAxis ++ write32 contact.minorAxis ++
    write32 contact.density

def encodeHeader (type : TPMessageType) (payloadSize sequence : UInt32)
    (count flags : UInt16) (captureTimeUs deviceTimeUs : UInt64) : Bytes :=
  write32 tpWireMagic ++ write16 tpWireVersion ++ write16 type.toUInt16 ++
    write32 payloadSize ++ write32 sequence ++ write16 count ++ write16 flags ++
    write64 captureTimeUs ++ write64 deviceTimeUs

/-- The returned size together with the octets written to `destination`. -/
def tpEncodeMessage (type : TPMessageType) (frame : TPFrame) (capacity : Nat) :
    Nat × Bytes :=
  if tpMaxContacts < frame.contactCount.toNat then (0, [])
  else if type ≠ tpMessageHello ∧ type ≠ tpMessageFrame ∧ type ≠ tpMessageReset then
    (0, [])
  else
    let count := if type = tpMessageFrame then frame.contactCount else 0
    let flags := if type = tpMessageFrame then frame.flags else 0
    if flags &&& ~~~tpFrameButton ≠ 0 then (0, [])
    else
      let payloadSize : UInt32 := count.toUInt32 * UInt32.ofNat tpContactSize
      let messageSize := tpHeaderSize + payloadSize.toNat
      if capacity < messageSize then (0, [])
      else
        (messageSize,
          encodeHeader type payloadSize frame.sequence count flags
              frame.captureTimeUs frame.deviceTimeUs ++
            (List.range count.toNat).flatMap fun index =>
              encodeContact (frame.contactAt index))

/-! ## Decoding -/

def getU16 (input : Bytes) (offset : Nat) : UInt16 := read16 input offset
def getU32 (input : Bytes) (offset : Nat) : UInt32 := read32 input offset
def getU64 (input : Bytes) (offset : Nat) : UInt64 := read64 input offset
def getF32 (input : Bytes) (offset : Nat) : Binary32 := getU32 input offset

def tpContactOffset (index : Nat) : Nat := tpHeaderSize + index * tpContactSize

def decodeTPContact (source : Bytes) (input : Nat) : TPContact where
  identifier := getU32 source input
  state := byteAt source (input + 4)
  flags := byteAt source (input + 5)
  x := getF32 source (input + 8)
  y := getF32 source (input + 12)
  velocityX := getF32 source (input + 16)
  velocityY := getF32 source (input + 20)
  size := getF32 source (input + 24)
  angle := getF32 source (input + 28)
  majorAxis := getF32 source (input + 32)
  minorAxis := getF32 source (input + 36)
  density := getF32 source (input + 40)

def decodeTPFrame (source : Bytes) : TPFrame where
  sequence := getU32 source 12
  flags := getU16 source 18
  contactCount := getU16 source 16
  captureTimeUs := getU64 source 20
  deviceTimeUs := getU64 source 28
  contacts := fun index =>
    if index.val < (getU16 source 16).toNat then
      decodeTPContact source (tpContactOffset index.val)
    else {}

/-- The result together with the final values of `*type` and `*frame`. -/
def tpDecodeMessage (source : Bytes) (length : Nat) (type : TPMessageType)
    (frame : TPFrame) : Bool × TPMessageType × TPFrame :=
  if length < tpHeaderSize ∨ getU32 source 0 ≠ tpWireMagic ∨
      getU16 source 4 ≠ tpWireVersion then
    (false, type, frame)
  else
    let rawType := getU16 source 6
    if rawType < tpMessageHello.toUInt16 ∨ tpMessageReset.toUInt16 < rawType then
      (false, type, frame)
    else
      let payloadSize := getU32 source 8
      let count := getU16 source 16
      let flags := getU16 source 18
      if tpMaxContacts < count.toNat ∨
          payloadSize ≠ count.toUInt32 * UInt32.ofNat tpContactSize ∨
          length ≠ tpHeaderSize + payloadSize.toNat ∨
          flags &&& ~~~tpFrameButton ≠ 0 ∨
          (rawType ≠ tpMessageFrame.toUInt16 ∧ (count ≠ 0 ∨ flags ≠ 0)) then
        (false, type, frame)
      else
        (true, rawType.toUInt32, decodeTPFrame source)

end Touchpad.Protocol
