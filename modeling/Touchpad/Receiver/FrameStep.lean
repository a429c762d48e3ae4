import Touchpad.Receiver.Capacity

/-!
# One accepted FRAME

The frame that an accepted FRAME emits and the contacts that it leaves active, as
a function of the active contacts before it, of the slots that newly arrived
identifiers get, and of the contacts of the message.
-/

namespace Touchpad.Receiver

open Touchpad.Foundation
open Touchpad.Shared

/-! ## Accepted messages -/

structure FrameAccepted (session : TouchSession) (message : Message) (now : Time)
    (frame : IoctlFrame) (after : TouchSession) (arrived : SlotMap) : Prop where
  next : session.InSequence message.sequence
  hello : session.helloSeen = true
  reset : session.resetSeen = true
  keys : arrived.map Prod.fst =
    (newContacts session.slots message.contacts).map Contact.identifier
  lowest : SlotTable.LowestFirst session.slots arrived
  assigned : Assigned session.slots (session.slots ++ arrived) message.contacts after.slots
    after.previousContacts
  frame_eq : frame = transition (TouchSession.frameHeader message) session.previousContacts
    after.previousContacts
  after_eq : after = { session.numbered message.sequence with
    buttonDown := message.hasButton
    slots := after.slots
    previousContacts := after.previousContacts
    lastFrameTime := now }

namespace TouchSession

private theorem processFrame_of_process {session after : TouchSession} {message : Message}
    {now : Time} {frame : IoctlFrame} (htype : message.type = .frame)
    (h : session.process message now = (.ok (some frame), after)) :
    session.InSequence message.sequence ∧ session.helloSeen = true ∧
      session.resetSeen = true ∧
      (session.numbered message.sequence).processFrame message now = (.ok frame, after) := by
  unfold process at h
  split at h
  case isTrue => cases h
  case isFalse hgap =>
    simp only [htype] at h
    split at h
    case isTrue => cases h
    case isFalse hhello =>
      split at h
      case isTrue => cases h
      case isFalse hreset =>
        rw [← numbered] at h
        cases hresult : (session.numbered message.sequence).processFrame message now with
        | mk outcome final =>
            rw [hresult] at h
            cases outcome with
            | error error => cases h
            | ok output =>
                cases h
                exact ⟨by simpa [InSequence] using hgap, by simpa using hhello,
                  by simpa using hreset, rfl⟩

theorem processFrame_ok {session after : TouchSession} (hsound : session.Sound)
    {message : Message} {now : Time} {frame : IoctlFrame}
    (hdistinct : (message.contacts.map Contact.identifier).Nodup)
    (h : session.processFrame message now = (.ok frame, after)) :
    ∃ arrived, arrived.map Prod.fst =
        (newContacts session.slots message.contacts).map Contact.identifier ∧
      SlotTable.LowestFirst session.slots arrived ∧
      Assigned session.slots (session.slots ++ arrived) message.contacts after.slots
        after.previousContacts ∧
      frame = transition (frameHeader message) session.previousContacts
        after.previousContacts ∧
      after = { session with
        buttonDown := message.hasButton
        slots := after.slots
        previousContacts := after.previousContacts
        lastFrameTime := now } := by
  have hregistered := (Registers.start hsound.valid).registerContacts message.contacts hdistinct
  rw [processFrame] at h
  simp only [] at h
  cases hloop : registerContacts { slots := session.slots } message.contacts with
  | mk error registration =>
      rw [List.nil_append, hloop] at hregistered
      rw [hloop] at h
      cases hregistered with
      | exceeded => cases h
      | accepted _ hregisters =>
          obtain ⟨arrived, hslots, hlowest, hkeys⟩ :=
            registerContacts_arrived (by exact hsound.valid) hdistinct hloop
          dsimp only at hslots hlowest hkeys h
          have hassigned := hregisters.assigned hdistinct hsound.held
          rw [hregisters.carried hsound.held hassigned,
            reportContacts_frameHeader _ _ (List.length_finRange).le] at h
          cases h
          rw [hslots] at hassigned
          exact ⟨arrived, hkeys rfl, hlowest, hslots ▸ hassigned, rfl, rfl⟩

theorem process_frame_accepted {session after : TouchSession} (hsound : session.Sound)
    {message : Message} {now : Time} {frame : IoctlFrame} (htype : message.type = .frame)
    (hdistinct : (message.contacts.map Contact.identifier).Nodup)
    (h : session.process message now = (.ok (some frame), after)) :
    ∃ arrived, FrameAccepted session message now frame after arrived := by
  obtain ⟨hnext, hhello, hreset, hresult⟩ := processFrame_of_process htype h
  have hnumbered : (session.numbered message.sequence).Sound := ⟨hsound.valid, hsound.held⟩
  obtain ⟨arrived, hkeys, hlowest, hassigned, hframe, hafter⟩ :=
    processFrame_ok hnumbered hdistinct hresult
  exact ⟨arrived, hnext, hhello, hreset, hkeys, hlowest, hassigned, hframe, hafter⟩

theorem processFrame_error_slots {session after : TouchSession} (hsound : session.Sound)
    {message : Message} {now : Time} {error : ProtocolError}
    (hdistinct : (message.contacts.map Contact.identifier).Nodup)
    (h : session.processFrame message now = (.error error, after)) :
    ∃ arrived, after.slots = session.slots ++ arrived ∧
      SlotTable.LowestFirst session.slots arrived := by
  rw [processFrame] at h
  dsimp only at h
  cases hloop : registerContacts { slots := session.slots } message.contacts with
  | mk thrown registration =>
      obtain ⟨arrived, hslots, hlowest, -⟩ :=
        registerContacts_arrived (by exact hsound.valid) hdistinct hloop
      rw [hloop] at h
      refine ⟨arrived, ?_, hlowest⟩
      rw [← hslots]
      cases thrown with
      | some thrown =>
          cases h
          rfl
      | none =>
          dsimp only at h
          split at h
          · cases h
            rfl
          · cases h

theorem process_error_slots {session after : TouchSession} (hsound : session.Sound)
    {message : Message} {now : Time} {error : ProtocolError}
    (hdistinct : (message.contacts.map Contact.identifier).Nodup)
    (h : session.process message now = (.error error, after)) :
    ∃ arrived, after.slots = session.slots ++ arrived ∧
      SlotTable.LowestFirst session.slots arrived := by
  have hunchanged : after.slots = session.slots → ∃ arrived,
      after.slots = session.slots ++ arrived ∧
        SlotTable.LowestFirst session.slots arrived := fun hsame => ⟨[], by simp [hsame], .nil⟩
  unfold process at h
  split at h
  case isTrue =>
    cases h
    exact hunchanged rfl
  case isFalse =>
    cases htype : message.type with
    | hello | reset =>
        simp only [htype] at h
        split at h
        · cases h
          exact hunchanged rfl
        · cases h
    | frame =>
        simp only [htype] at h
        split at h
        · cases h
          exact hunchanged rfl
        split at h
        · cases h
          exact hunchanged rfl
        rw [← numbered] at h
        have hnumbered : (session.numbered message.sequence).Sound :=
          ⟨hsound.valid, hsound.held⟩
        cases hresult : (session.numbered message.sequence).processFrame message now with
        | mk outcome final =>
            rw [hresult] at h
            cases outcome with
            | ok output => cases h
            | error thrown =>
                have hslots := processFrame_error_slots hnumbered hdistinct hresult
                cases h
                exact hslots

end TouchSession

end Touchpad.Receiver
