import Touchpad.Receiver.ReceiveLoop

/-!
# Silence on a connection

The timeout is looked at only when `recv` times out.  Octets that leave a message
incomplete take the other branch, so they put the release off; this is the only
way in which contacts outlive 200 milliseconds without a FRAME.
-/

namespace Touchpad.Receiver

open Touchpad.Foundation
open Touchpad.Shared

/-- Nothing is active, or a FRAME was processed less than 200 milliseconds ago. -/
def TouchSession.Fresh (session : TouchSession) (now : Time) : Prop :=
  session.hasActiveContacts = false ∨ now - session.lastFrameTime < kFrameTimeout

instance (session : TouchSession) (now : Time) : Decidable (session.Fresh now) :=
  inferInstanceAs (Decidable (_ ∨ _))

structure LoopStep where
  before : Connection
  outcome : RecvOutcome
  now : Time
  after : Option Connection

namespace Connection

def trace (connection : Connection) : List (RecvOutcome × Time) → List LoopStep
  | [] => []
  | (outcome, now) :: outcomes =>
      ⟨connection, outcome, now, (connection.step outcome now).2⟩ ::
        match (connection.step outcome now).2 with
        | none => []
        | some after => trace after outcomes

end Connection

/-- A chunk that leaves only an incomplete message in the buffer is received while
the session is fresh. -/
def LoopStep.Timely (step : LoopStep) : Prop :=
  match step.outcome with
  | .received bytes =>
      mtp1Verdict (step.before.decoder.buffer ++ bytes) = .incomplete →
        step.before.session.Fresh step.now
  | _ => True

private theorem fresh_of_recent {session : TouchSession} {now : Time}
    (h : session.hasActiveContacts = false ∨ session.lastFrameTime = now) :
    session.Fresh now := by
  rcases h with h | h
  · exact .inl h
  · right
    rw [h, Int.sub_self]
    decide

theorem Connection.Ready.timeout {connection after : Connection} {now : Time}
    {frames : List IoctlFrame} (h : connection.Ready)
    (hstep : connection.step .timedOut now = (frames, some after)) :
    after.Ready ∧ after.session.Fresh now := by
  rw [step, TouchSession.onTimeout_eq] at hstep
  by_cases hexpired : connection.session.hasActiveContacts = true ∧
      kFrameTimeout ≤ now - connection.session.lastFrameTime
  · rw [if_pos hexpired] at hstep
    cases hstep
    refine ⟨⟨h.incomplete, h.queue, ?_, fun _ => rfl⟩, .inl rfl⟩
    exact ⟨SlotTable.Valid.nil, fun _ _ hcontact => by simp [TouchSession.released] at hcontact⟩
  · rw [if_neg hexpired] at hstep
    cases hstep
    refine ⟨h, ?_⟩
    rw [TouchSession.Fresh]
    by_contra hstale
    simp only [not_or, Bool.not_eq_false, not_lt] at hstale
    exact hexpired hstale

theorem Connection.Ready.received {connection after : Connection} {now : Time}
    {bytes : Bytes} {frames : List IoctlFrame} (h : connection.Ready)
    (hstep : connection.step (.received bytes) now = (frames, some after)) :
    after.Ready ∧ (after.session.Fresh now ↔
      (mtp1Verdict (connection.decoder.buffer ++ bytes) = .incomplete →
        connection.session.Fresh now)) := by
  rw [step] at hstep
  have hfits : connection.decoder.buffer.length + bytes.length ≤ kMaxMessageSize * 2 := by
    by_contra hexceeds
    rw [StreamDecoder.append_eq_limit (not_le.mp hexceeds)] at hstep
    cases hstep
  have happend := StreamDecoder.append_eq_parse hfits
  have hdecoded := connection.decoder.append_decoded bytes
  have hrest := Framing.verdict_rest (F := mtp1Framing) (connection.decoder.buffer ++ bytes)
  rw [happend, h.queue, List.nil_append] at hdecoded
  rw [happend, h.queue, List.nil_append] at hstep
  cases hverdict : mtp1Verdict (connection.decoder.buffer ++ bytes) with
  | incomplete =>
      -- Nothing is processed, so the session stays what it was.
      rw [Framing.parse_incomplete (F := mtp1Framing) hverdict] at hstep
      dsimp only at hstep
      rw [StreamDecoder.popAll_eq] at hstep
      cases hstep
      exact ⟨⟨hverdict, rfl, h.sound, h.idle⟩, by simp⟩
  | rejected error =>
      rw [Framing.parse_rejected (F := mtp1Framing) hverdict] at hstep
      cases hstep
  | complete message length =>
      have hparse := Framing.parse_complete (F := mtp1Framing) hverdict
      have hsome : (mtp1Framing.parse (connection.decoder.buffer ++ bytes)).messages ≠ [] := by
        rw [hparse]
        nofun
      generalize mtp1Framing.parse (connection.decoder.buffer ++ bytes) = parsed
        at hstep hdecoded hrest hsome
      obtain ⟨messages, error, rest⟩ := parsed
      cases error with
      | some error => cases hstep
      | none =>
          dsimp only at hstep hdecoded hsome
          rw [StreamDecoder.popAll_eq] at hstep
          cases hprocess : processMessages now messages connection.session with
          | mk processed result =>
              obtain ⟨error, session⟩ := result
              dsimp only at hstep
              rw [hprocess] at hstep
              cases error with
              | some error => cases hstep
              | none =>
                  cases hstep
                  obtain ⟨hsound, hidle, -, hrecent⟩ := processMessages_recent
                    (fun message hmessage => (hdecoded message hmessage).resolve_left nofun)
                    h.sound h.idle hprocess
                  refine ⟨⟨hrest rfl, rfl, hsound, hidle⟩, ?_⟩
                  simp [fresh_of_recent (hrecent hsome)]

theorem Connection.Ready.step {connection after : Connection} {outcome : RecvOutcome}
    {now : Time} {frames : List IoctlFrame} (h : connection.Ready)
    (hstep : connection.step outcome now = (frames, some after)) :
    after.Ready ∧ (after.session.Fresh now ↔
      LoopStep.Timely ⟨connection, outcome, now, some after⟩) := by
  cases outcome with
  | received bytes => exact h.received hstep
  | timedOut =>
      obtain ⟨hready, hfresh⟩ := h.timeout hstep
      exact ⟨hready, iff_of_true hfresh trivial⟩
  | closed => cases hstep
  | failed => cases hstep

theorem Connection.Ready.goes_on {connection : Connection} {bytes : Bytes}
    (h : connection.Ready)
    (hincomplete : mtp1Verdict (connection.decoder.buffer ++ bytes) = .incomplete) (now : Time) :
    (connection.step (.received bytes) now).2.isSome = true := by
  have hlength := mtp1_incomplete_length hincomplete
  rw [List.length_append] at hlength
  rw [Connection.step, StreamDecoder.append_eq_parse (by omega),
    Framing.parse_incomplete (F := mtp1Framing) hincomplete, h.queue]
  rfl

theorem Connection.Ready.timely_iff {connection : Connection} (h : connection.Ready)
    (outcome : RecvOutcome) (now : Time) :
    (∀ after, (connection.step outcome now).2 = some after → after.session.Fresh now) ↔
      LoopStep.Timely ⟨connection, outcome, now, (connection.step outcome now).2⟩ := by
  cases hresult : connection.step outcome now with
  | mk frames next =>
      cases next with
      | some next =>
          rw [← (h.step hresult).2]
          simp
      | none =>
          have htimely : LoopStep.Timely ⟨connection, outcome, now, none⟩ := by
            cases outcome with
            | received bytes =>
                intro hincomplete
                have hsome := h.goes_on hincomplete now
                rw [hresult] at hsome
                cases hsome
            | timedOut | closed | failed => trivial
          simpa using htimely

theorem Connection.Ready.trace {connection : Connection} (h : connection.Ready)
    (outcomes : List (RecvOutcome × Time)) {step : LoopStep}
    (hmem : step ∈ connection.trace outcomes) :
    (∀ after, step.after = some after → after.session.Fresh step.now) ↔ step.Timely := by
  induction outcomes generalizing connection with
  | nil => cases hmem
  | cons item outcomes ih =>
      obtain ⟨outcome, now⟩ := item
      rw [Connection.trace] at hmem
      rcases List.mem_cons.mp hmem with rfl | hmem
      · exact h.timely_iff outcome now
      · cases hresult : connection.step outcome now with
        | mk frames next =>
            rw [hresult] at hmem
            cases next with
            | none => cases hmem
            | some next => exact ih (h.step hresult).1 hmem

/-- On every connection: contacts are released within 200 milliseconds of the last
FRAME, after every iteration that goes on, exactly when all iterations are timely. -/
theorem silence_releases_iff (outcomes : List (RecvOutcome × Time)) :
    (∀ step ∈ ({} : Connection).trace outcomes, ∀ after, step.after = some after →
      after.session.hasActiveContacts = false ∨
        step.now - after.session.lastFrameTime < kFrameTimeout) ↔
    ∀ step ∈ ({} : Connection).trace outcomes, step.Timely :=
  forall₂_congr fun _ hmem => Connection.ready_initial.trace outcomes hmem

/-- The first octet of the next message comes 200 milliseconds after a FRAME: the
finger stays down. -/
theorem partial_message_keeps_contacts :
    ∃ step ∈ ({} : Connection).trace
        [(.received openingBytes, 0), (.received [0x4d], 200000000)],
      ∃ after, step.after = some after ∧ ¬ (after.session.hasActiveContacts = false ∨
        step.now - after.session.lastFrameTime < kFrameTimeout) := by
  have hstates : (({} : Connection).trace
        [(.received openingBytes, 0), (.received [0x4d], 200000000)]).map
      (fun step => step.after.map fun after =>
        (after.session.hasActiveContacts, step.now - after.session.lastFrameTime)) =
      [some (true, 0), some (true, kFrameTimeout)] := by
    decide +kernel
  have hlate : some (true, kFrameTimeout) ∈ (({} : Connection).trace
        [(.received openingBytes, 0), (.received [0x4d], 200000000)]).map
      (fun step => step.after.map fun after =>
        (after.session.hasActiveContacts, step.now - after.session.lastFrameTime)) := by
    rw [hstates]
    exact List.mem_cons_of_mem _ List.mem_cons_self
  obtain ⟨step, hmem, hstep⟩ := List.mem_map.mp hlate
  obtain ⟨after, hafter, heq⟩ := Option.map_eq_some_iff.mp hstep
  obtain ⟨hactive, helapsed⟩ := Prod.mk.inj heq
  refine ⟨step, hmem, after, hafter, ?_⟩
  rw [hactive, helapsed]
  decide

end Touchpad.Receiver
