import Touchpad.Receiver.Mtp1
import Touchpad.Shared.TouchpadIoctl

/-!
# The touch session

`TouchSession` of `windows/receiver/TouchSession.cpp`: the sequence and
handshake checks, the map from contact identifiers to HID slots, and the frames
handed to the driver.  `Process` may throw after it has changed the session, so
the session is returned next to the outcome.  The steady clock is read once per
call and passed in, in nanoseconds.

A slot number in `slots_` indexes arrays of five; reading outside of them finds
nothing and writing outside of them has no effect here, which is where the
source would be undefined.
-/

namespace Touchpad.Receiver

open Touchpad.Foundation
open Touchpad.Shared

def kTip : UInt8 := 0x02

abbrev Time := Int

def kFrameTimeout : Time := 200000000

abbrev SlotMap := List (UInt32 × Nat)

abbrev ContactSlots := Fin mtpHidMaxContacts → Option Contact

namespace ContactSlots

def none : ContactSlots := fun _ => .none

def get (contacts : ContactSlots) (slot : Nat) : Option Contact :=
  if h : slot < mtpHidMaxContacts then contacts ⟨slot, h⟩ else .none

def put (contacts : ContactSlots) (slot : Nat) (contact : Option Contact) :
    ContactSlots :=
  fun i => if i.val = slot then contact else contacts i

end ContactSlots

structure TouchSession where
  helloSeen : Bool := false
  resetSeen : Bool := false
  sequenceSeen : Bool := false
  buttonDown : Bool := false
  previousSequence : UInt32 := 0
  slots : SlotMap := []
  previousContacts : ContactSlots := ContactSlots.none
  lastFrameTime : Time := 0
  deriving DecidableEq

def Contact.hasTip (contact : Contact) : Bool := contact.flags &&& kTip ≠ 0

def Contact.lifted (contact : Contact) : Contact :=
  { contact with flags := contact.flags &&& ~~~kTip }

/-! ## Coordinates -/

/-- The `float` is taken as the exact rational that it stands for: the rounding of the
source's single precision multiplication to a `float` is left out. -/
def toLogical (value : Rat) : UInt16 :=
  let clamped := if value < 0 then 0 else if 1 < value then 1 else value
  UInt16.ofNat (roundHalfUp (clamped * mtpCoordinateLogicalMax.toNat)).toNat

/-- MultitouchSupport grows Y upward from the bottom edge, Precision Touchpad
coordinates grow downward from the top edge.  The subtraction is exact here too; the
source rounds `1.0f - value` to a `float`. -/
def toLogicalY (value : Rat) : UInt16 := toLogical (1 - value)

/-! ## Filling a frame -/

def pushContact (output : IoctlFrame) (slot : Fin mtpHidMaxContacts)
    (flags : UInt8) (source : Contact) : IoctlFrame :=
  { output with
    contacts := fun i =>
      if i.val = output.reportContactCount.toNat then
        { output.contacts i with
          slot := UInt8.ofNat slot.val
          flags
          x := toLogical (Binary32.value source.x)
          y := toLogicalY (Binary32.value source.y) }
      else output.contacts i
    reportContactCount := output.reportContactCount + 1 }

def reportContacts (nextContacts : ContactSlots) :
    List (Fin mtpHidMaxContacts) → IoctlFrame → Except ProtocolError IoctlFrame
  | [], output => .ok output
  | slot :: slots, output =>
      match nextContacts slot with
      | .none => reportContacts nextContacts slots output
      | some source =>
          if mtpHidMaxContacts ≤ output.reportContactCount.toNat then
            .error .reportCapacityExceeded
          else
            let output := pushContact output slot source.flags source
            reportContacts nextContacts slots
              (if source.hasTip then
                { output with activeContactCount := output.activeContactCount + 1 }
              else output)

def releaseContacts (previousContacts : ContactSlots) :
    List (Fin mtpHidMaxContacts) → IoctlFrame → IoctlFrame
  | [], output => output
  | slot :: slots, output =>
      match previousContacts slot with
      | .none => releaseContacts previousContacts slots output
      | some source =>
          releaseContacts previousContacts slots
            (pushContact output slot (source.flags &&& ~~~kTip) source)

/-! ## Slots -/

def allocateSlot (slots : SlotMap) : Option Nat :=
  (List.range mtpHidMaxContacts).find? fun candidate =>
    !slots.any fun item => item.2 = candidate

structure Registration where
  slots : SlotMap
  present : List UInt32 := []
  nextContacts : ContactSlots := ContactSlots.none

/-- One contact of the first loop; a throw leaves `slots_` as it was. -/
def registerContact (registration : Registration) (contact : Contact) :
    Except ProtocolError Registration :=
  if contact.hasTip = false then .ok registration
  else
    let present := contact.identifier :: registration.present
    match registration.slots.lookup contact.identifier with
    | some slot =>
        .ok { registration with
          present
          nextContacts := registration.nextContacts.put slot contact }
    | .none =>
        if mtpHidMaxContacts ≤ registration.slots.length then .error .moreThanFiveActive
        else
          match allocateSlot registration.slots with
          | .none => .error .noFreeSlot
          | some slot =>
              .ok {
                slots := registration.slots ++ [(contact.identifier, slot)]
                present
                nextContacts := registration.nextContacts.put slot contact }

def registerContacts (registration : Registration) :
    List Contact → Option ProtocolError × Registration
  | [] => (.none, registration)
  | contact :: contacts =>
      match registerContact registration contact with
      | .error error => (some error, registration)
      | .ok registration => registerContacts registration contacts

/-- The second loop: every identifier that is not present leaves with its last
contact, Tip cleared. -/
def carryLeaving (previousContacts : ContactSlots) (present : List UInt32) :
    SlotMap → ContactSlots → ContactSlots
  | [], nextContacts => nextContacts
  | (identifier, slot) :: slots, nextContacts =>
      if identifier ∈ present then carryLeaving previousContacts present slots nextContacts
      else
        match previousContacts.get slot with
        | .none => carryLeaving previousContacts present slots nextContacts
        | some contact =>
            carryLeaving previousContacts present slots
              (nextContacts.put slot (some contact.lifted))

def eraseLeaving : List UInt32 → SlotMap × ContactSlots → SlotMap × ContactSlots
  | [], state => state
  | identifier :: leaving, (slots, previousContacts) =>
      match slots.lookup identifier with
      | .none => eraseLeaving leaving (slots, previousContacts)
      | some slot =>
          eraseLeaving leaving
            (slots.filter fun item => item.1 ≠ identifier,
              previousContacts.put slot .none)

def storeContacts (contacts : List Contact) :
    SlotMap → ContactSlots → ContactSlots
  | [], previousContacts => previousContacts
  | (identifier, slot) :: slots, previousContacts =>
      match contacts.find? fun item => item.identifier = identifier with
      | .none => storeContacts contacts slots previousContacts
      | some contact =>
          storeContacts contacts slots (previousContacts.put slot (some contact))

/-! ## The operations -/

namespace TouchSession

def hasActiveContacts (session : TouchSession) : Bool :=
  !session.slots.isEmpty || session.buttonDown

def releaseHeader (sequence : UInt32) (reset : Bool) : IoctlFrame where
  abiVersion := mtpIoctlAbiVersion
  sequence
  flags := if reset then mtpIoctlFrameReset else 0

def releaseAll (session : TouchSession) (sequence : UInt32) (reset : Bool) :
    IoctlFrame × TouchSession :=
  (releaseContacts session.previousContacts (List.finRange mtpHidMaxContacts)
      (releaseHeader sequence reset),
    { session with
      slots := []
      previousContacts := ContactSlots.none
      buttonDown := false })

def frameHeader (message : Message) : IoctlFrame where
  abiVersion := mtpIoctlAbiVersion
  sequence := message.sequence
  flags := if message.flags &&& kFrameButton ≠ 0 then mtpIoctlFrameButton else 0
  scanTime100us := (message.captureTimeUs / 100 &&& 0xffff).toUInt16

/-- The FRAME branch of `Process`, after the sequence and handshake checks. -/
def processFrame (session : TouchSession) (message : Message) (now : Time) :
    Except ProtocolError IoctlFrame × TouchSession :=
  let session :=
    { session with buttonDown := decide (message.flags &&& kFrameButton ≠ 0) }
  match registerContacts { slots := session.slots } message.contacts with
  | (some error, registration) =>
      (.error error, { session with slots := registration.slots })
  | (.none, registration) =>
      let session := { session with slots := registration.slots }
      let leaving := (session.slots.map Prod.fst).filter (· ∉ registration.present)
      let nextContacts := carryLeaving session.previousContacts registration.present
        session.slots registration.nextContacts
      match reportContacts nextContacts (List.finRange mtpHidMaxContacts)
          (frameHeader message) with
      | .error error => (.error error, session)
      | .ok output =>
          let (slots, previousContacts) :=
            eraseLeaving leaving (session.slots, session.previousContacts)
          (.ok output,
            { session with
              slots
              previousContacts := storeContacts message.contacts slots previousContacts
              lastFrameTime := now })

def process (session : TouchSession) (message : Message) (now : Time) :
    Except ProtocolError (Option IoctlFrame) × TouchSession :=
  if session.sequenceSeen = true ∧ message.sequence ≠ session.previousSequence + 1 then
    (.error .sequenceDiscontinuity, session)
  else
    let session :=
      { session with sequenceSeen := true, previousSequence := message.sequence }
    match message.type with
    | .hello =>
        if session.helloSeen || session.resetSeen then (.error .unexpectedHello, session)
        else (.ok .none, { session with helloSeen := true })
    | .reset =>
        if !session.helloSeen then (.error .messageBeforeHello, session)
        else
          let (output, session) :=
            releaseAll { session with resetSeen := true } message.sequence true
          (.ok (some output), session)
    | .frame =>
        if !session.helloSeen then (.error .messageBeforeHello, session)
        else if !session.resetSeen then (.error .frameBeforeReset, session)
        else
          let (output, session) := processFrame session message now
          (output.map some, session)

def onDisconnect (session : TouchSession) : Option IoctlFrame × TouchSession :=
  let shouldReport := session.hasActiveContacts
  let (release, session) := releaseAll session session.previousSequence true
  (if shouldReport then some release else .none,
    { session with helloSeen := false, resetSeen := false, sequenceSeen := false })

def onTimeout (session : TouchSession) (now : Time) : Option IoctlFrame × TouchSession :=
  if !session.hasActiveContacts || now - session.lastFrameTime < kFrameTimeout then
    (.none, session)
  else
    let (release, session) := releaseAll session session.previousSequence true
    (some release, session)

end TouchSession

end Touchpad.Receiver
