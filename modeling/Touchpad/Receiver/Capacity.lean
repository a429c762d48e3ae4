import Touchpad.Protocol.TouchFrame
import Touchpad.Receiver.SessionSteps

/-!
# The contact capacity of a FRAME

`Process` enters the new contacts of a FRAME while the leaving ones still hold
their slots.  A FRAME is therefore accepted when the identifiers of both together
are at most five, which five contacts replacing others are not.
-/

namespace Touchpad.Receiver

open Touchpad.Foundation
open Touchpad.Shared

/-- A FRAME in sequence is accepted exactly when the slots in use and its new
contacts are at most five together; otherwise it is rejected for its contacts. -/
theorem TouchSession.process_frame {session : TouchSession} (hsound : session.Sound)
    {message : Message} (now : Time) (htype : message.type = .frame)
    (hhello : session.helloSeen = true) (hreset : session.resetSeen = true)
    (hnext : session.InSequence message.sequence)
    (hdistinct : (message.contacts.map Contact.identifier).Nodup) :
    if session.slots.length + (newContacts session.slots message.contacts).length ≤
        mtpHidMaxContacts then
      ∃ frame, (session.process message now).1 = .ok (some frame)
    else (session.process message now).1 = .error .moreThanFiveActive := by
  obtain ⟨result, hprocess, hframe⟩ :=
    process_frame_processed hsound now htype hhello hreset hnext hdistinct
  rw [hprocess]
  cases hframe with
  | exceeded registered hvalid hsubset hfull hexceeds =>
      rw [numbered_slots] at hexceeds
      rw [if_neg (not_le.mpr hexceeds)]
      rfl
  | accepted registered slots stored hassigned hroom =>
      rw [numbered_slots] at hroom
      rw [if_pos hroom]
      exact ⟨_, rfl⟩

/-- A FRAME with at most five TIP contacts gets through, and only a FRAME with more
is rejected for them, exactly when such a FRAME leaves room beside the slots in use. -/
theorem five_contacts_fit_iff (calls : List SessionCall) (message : Message) (now : Time)
    (hcalls : ∀ call ∈ calls, call.Distinct)
    (hdistinct : (message.contacts.map Contact.identifier).Nodup)
    (htype : message.type = .frame)
    (hhello : (({} : TouchSession).after calls).helloSeen = true)
    (hreset : (({} : TouchSession).after calls).resetSeen = true)
    (hnext : (({} : TouchSession).after calls).InSequence message.sequence) :
    let session := ({} : TouchSession).after calls
    let tips := (message.contacts.filter Contact.hasTip).length
    ((tips ≤ mtpHidMaxContacts →
        ∃ frame, (session.process message now).1 = .ok (some frame)) ∧
      ((session.process message now).1 = .error .moreThanFiveActive →
        mtpHidMaxContacts < tips)) ↔
    (tips ≤ mtpHidMaxContacts →
      session.slots.length + (newContacts session.slots message.contacts).length ≤
        mtpHidMaxContacts) := by
  intro session tips
  have hsound : session.Sound := TouchSession.sound_initial.after calls hcalls
  have hframe := TouchSession.process_frame hsound now htype hhello hreset hnext hdistinct
  by_cases hroom : session.slots.length +
      (newContacts session.slots message.contacts).length ≤ mtpHidMaxContacts
  · rw [if_pos hroom] at hframe
    obtain ⟨frame, hframe⟩ := hframe
    simp [hframe, hroom]
  · rw [if_neg hroom] at hframe
    simp [hframe, hroom, not_le]

def touching (sequence : UInt32) (identifiers : List UInt32) : Message where
  type := .frame
  sequence
  contacts := identifiers.map fun identifier => { identifier, flags := 7 }

def touchingCalls (identifiers : List UInt32) : List SessionCall :=
  [.process { type := .hello, sequence := 0 } 0,
    .process { type := .reset, sequence := 1 } 0,
    .process (touching 2 identifiers) 0]

theorem five_contacts_fit_iff_one_replaced :
    let session := ({} : TouchSession).after (touchingCalls [1, 2, 3, 4])
    ∃ frame, (session.process (touching 3 [2, 3, 4, 5]) 0).1 = .ok (some frame) :=
  ((five_contacts_fit_iff (touchingCalls [1, 2, 3, 4]) (touching 3 [2, 3, 4, 5]) 0
    (by decide) (by decide) rfl (by decide +kernel) (by decide +kernel)
    (by decide +kernel)).mpr (by decide +kernel)).1 (by decide)

/-- Five fingers are down; in the next FRAME they are gone and one other finger
touches.  The one contact of that FRAME is rejected as more than five. -/
theorem replaced_contacts_rejected :
    let session := ({} : TouchSession).after (touchingCalls [1, 2, 3, 4, 5])
    let message := touching 3 [6]
    let frame : Protocol.TPFrame := {
      sequence := 3
      contactCount := 1
      contacts := fun _ => { identifier := 6, flags := 7 } }
    (∀ step ∈ ({} : TouchSession).trace (touchingCalls [1, 2, 3, 4, 5]), ¬ step.Throws) ∧
      decodeMessage (Protocol.tpEncodeMessage Protocol.tpMessageFrame frame 476).2 =
        .ok message ∧
      session.helloSeen = true ∧ session.resetSeen = true ∧
      message.sequence = session.previousSequence + 1 ∧
      (message.contacts.filter Contact.hasTip).length = 1 ∧
      (session.process message 0).1 = .error .moreThanFiveActive := by
  decide +kernel

end Touchpad.Receiver
