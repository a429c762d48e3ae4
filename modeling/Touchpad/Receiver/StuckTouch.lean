import Touchpad.Driver.Agreement
import Touchpad.Receiver.ReceiveLoop

/-!
# No stuck touch

Between two clients the driver has nothing down: whatever the client sent and
however its connection ended, the last frame submitted has no TIP record and no
BUTTON.  While a client is served this holds whenever its session is inactive,
which is what `OnDisconnect` asks before it leaves the release out.
-/

namespace Touchpad.Receiver

open Touchpad.Foundation
open Touchpad.Shared
open Touchpad.Driver

def Releases (frame : IoctlFrame) : Prop :=
  ∃ header before, Announces header false ∧ Masked before ∧
    frame = transition header before ContactSlots.none

def Settled (session : TouchSession) (submitted : List IoctlFrame) : Prop :=
  session.hasActiveContacts = true ∨
    ∀ frame, submitted.getLast? = some frame → Releases frame

structure Accounted (session : TouchSession) (submitted : List IoctlFrame) : Prop where
  sound : session.Sound
  masked : Masked session.previousContacts
  settled : Settled session submitted

theorem releases_of_inactive {session : TouchSession} (hsound : session.Sound)
    (hinactive : session.hasActiveContacts = false) {header : IoctlFrame}
    (hheader : Announces header session.buttonDown) {before : ContactSlots}
    (hbefore : Masked before) :
    Releases (transition header before session.previousContacts) := by
  obtain ⟨-, hcontacts, hbutton⟩ := TouchSession.released_of_inactive hsound hinactive
  rw [hbutton] at hheader
  exact ⟨header, before, hheader, hbefore, by rw [hcontacts]⟩

theorem TouchSession.hasActiveContacts_congr {session after : TouchSession}
    (hslots : after.slots = session.slots) (hbutton : after.buttonDown = session.buttonDown) :
    after.hasActiveContacts = session.hasActiveContacts := by
  rw [hasActiveContacts, hasActiveContacts, hslots, hbutton]

theorem Accounted.step {call : SessionCall} (hdecoded : call.Decoded)
    {before after : TouchSession} {outcome : Except ProtocolError (Option IoctlFrame)}
    {submitted : List IoctlFrame} (h : Accounted before submitted)
    (heffect : Effect call before outcome after) :
    Accounted after (submitted ++ outcome.toOption.join.toList) := by
  have hsound := heffect.sound h.sound
  refine ⟨hsound, h.masked.step hdecoded heffect, ?_⟩
  cases heffect with
  | quiet _ hcall hslots hcontacts hbutton =>
      have hactive := TouchSession.hasActiveContacts_congr hslots hbutton
      simpa [Settled, hactive, Except.toOption] using h.settled
  | refused error _ herror hslots hcontacts hbutton =>
      have hactive := TouchSession.hasActiveContacts_congr hslots hbutton
      simpa [Settled, hactive, Except.toOption] using h.settled
  | threw _ hvalid hsubset hfull hcontacts =>
      left
      have hne : after.slots ≠ [] := by
        intro hempty
        rw [hempty] at hfull
        simp at hfull
      simp [TouchSession.hasActiveContacts, hne]
  | emitted _ header registered hcall hheader hassigned =>
      cases hactive : after.hasActiveContacts with
      | true => exact .inl hactive
      | false =>
          right
          intro frame hframe
          have hlast : frame =
              transition header before.previousContacts after.previousContacts := by
            simpa [Except.toOption, eq_comm] using hframe
          rw [hlast]
          exact releases_of_inactive hsound hactive hheader h.masked

theorem Accounted.processMessages {messages : List Message} {now : Time}
    (hdecoded : ∀ message ∈ messages, ∃ encoded, decodeMessage encoded = .ok message)
    {session : TouchSession} {submitted : List IoctlFrame}
    (h : Accounted session submitted) :
    Accounted (Receiver.processMessages now messages session).2.2
      (submitted ++ (Receiver.processMessages now messages session).1) := by
  induction messages generalizing session submitted with
  | nil => simpa [Receiver.processMessages] using h
  | cons message messages ih =>
      have hcall : (SessionCall.process message now).Decoded :=
        hdecoded message List.mem_cons_self
      have hstep := h.step hcall (SessionCall.run_effect hcall.distinct h.sound)
      rw [Receiver.processMessages]
      rw [SessionCall.run] at hstep
      cases hprocess : session.process message now with
      | mk outcome after =>
          rw [hprocess] at hstep
          cases outcome with
          | error error => simpa [Except.toOption] using hstep
          | ok output =>
              have hlater := ih
                (fun other hother => hdecoded other (List.mem_cons_of_mem _ hother)) hstep
              simpa [Except.toOption] using hlater

theorem Accounted.disconnect {session : TouchSession} {submitted : List IoctlFrame}
    (h : Accounted session submitted) :
    ∀ frame, (submitted ++ session.onDisconnect.1.toList).getLast? = some frame →
      Releases frame := by
  intro frame hframe
  rw [TouchSession.onDisconnect_eq] at hframe
  cases hactive : session.hasActiveContacts with
  | true =>
      have hlast : frame = transition
          (TouchSession.releaseHeader session.previousSequence true)
          session.previousContacts ContactSlots.none := by
        simpa [hactive, eq_comm] using hframe
      exact ⟨_, _, announces_releaseHeader _, h.masked, hlast⟩
  | false =>
      have hlast : submitted.getLast? = some frame := by simpa [hactive] using hframe
      exact h.settled.resolve_left (by simp [hactive]) frame hlast

/-! ## The server -/

def Server.Safe (server : Server) : Prop :=
  match server.connection with
  | none => ∀ frame, server.submitted.getLast? = some frame → Releases frame
  | some connection =>
      connection.decoder.messages = [] ∧ Accounted connection.session server.submitted

theorem Connection.step_safe {connection : Connection} {submitted : List IoctlFrame}
    (hqueue : connection.decoder.messages = [])
    (h : Accounted connection.session submitted) (outcome : RecvOutcome) (now : Time) :
    Server.Safe {
      connection := (connection.step outcome now).2
      submitted := submitted ++ (connection.step outcome now).1 } := by
  cases outcome with
  | closed => exact h.disconnect
  | failed => exact h.disconnect
  | timedOut =>
      have hcall : (SessionCall.timeout now).Decoded := trivial
      exact ⟨hqueue, h.step hcall (SessionCall.run_effect hcall.distinct h.sound)⟩
  | received bytes =>
      rw [step]
      have hdecoded := connection.decoder.append_decoded bytes
      cases happend : connection.decoder.append bytes with
      | mk error decoder =>
          rw [happend, hqueue] at hdecoded
          cases error with
          | some error => exact h.disconnect
          | none =>
              dsimp only
              rw [StreamDecoder.popAll_eq]
              dsimp only
              have hprocessed : Accounted
                  (processMessages now decoder.messages connection.session).2.2
                  (submitted ++ (processMessages now decoder.messages connection.session).1) :=
                h.processMessages fun message hmessage =>
                  (hdecoded message hmessage).resolve_left nofun
              cases hprocess :
                  processMessages now decoder.messages connection.session with
              | mk frames result =>
                  obtain ⟨error, session⟩ := result
                  rw [hprocess] at hprocessed
                  cases error with
                  | some error =>
                      have hdisconnect := hprocessed.disconnect
                      rw [List.append_assoc] at hdisconnect
                      exact hdisconnect
                  | none => exact ⟨rfl, hprocessed⟩

theorem Server.Safe.step {server : Server} (h : server.Safe) (event : ServerEvent) :
    (server.step event).Safe := by
  obtain ⟨connection, submitted⟩ := server
  cases event with
  | accepted =>
      cases connection with
      | none => exact ⟨rfl, TouchSession.sound_initial, by simp [Masked], .inr h⟩
      | some connection => exact h
  | received outcome now =>
      cases connection with
      | none => exact h
      | some connection => exact connection.step_safe h.1 h.2 outcome now

theorem Server.Safe.run {server : Server} (h : server.Safe) (events : List ServerEvent) :
    (server.run events).Safe := by
  induction events generalizing server with
  | nil => exact h
  | cons event events ih => exact ih (h.step event)

theorem Releases.nothing_down {frame : IoctlFrame} (h : Releases frame)
    (vhfReadReportSubmit : PtpReport → NtStatus) (context : DeviceContext) :
    (∀ record ∈ frame.records, record.hasTip = false) ∧ frame.hasButton = false ∧
      ∃ report, (submitIoctlFrame vhfReadReportSubmit context frame).report = some report ∧
        report.button = 0 ∧ ∀ slot, (report.contacts slot).tip = false := by
  obtain ⟨header, before, hheader, hbefore, rfl⟩ := h
  have htips : ∀ record ∈ (transition header before ContactSlots.none).records,
      record.hasTip = false := by
    intro record hrecord
    rw [transition_records] at hrecord
    obtain ⟨slot, source, hsource, rfl⟩ := mem_frameRecords.mp hrecord
    rw [ContactSlots.get_overlay, ContactSlots.get_none, Option.none_or,
      Option.map_eq_some_iff] at hsource
    obtain ⟨last, -, rfl⟩ := hsource
    simp
  have hbutton : (transition header before ContactSlots.none).hasButton = false :=
    hheader.button
  obtain ⟨report, hreport, -, -, -, hentries, hempty, -, hpressed⟩ :=
    transition_report vhfReadReportSubmit context hheader hbefore
      (show Masked ContactSlots.none by simp [Masked])
  refine ⟨htips, hbutton, report, hreport, by rw [hpressed, hbutton]; rfl, fun slot => ?_⟩
  cases hrecords : (transition header before ContactSlots.none).recordsFor slot with
  | nil =>
      rw [hempty slot hrecords]
      rfl
  | cons record records =>
      have hmem : record ∈ (transition header before ContactSlots.none).recordsFor slot := by
        rw [hrecords]
        exact List.mem_cons_self
      rw [(hentries slot record hmem).2.2.2.1]
      exact htips record (IoctlFrame.mem_recordsFor.mp hmem).1

/-- Over any clients, octets, timeouts and ends of connections: when no client is
served, the last frame submitted has nothing down, and the report the driver
builds from it releases the button and all five fingers. -/
theorem no_stuck_touch (vhfReadReportSubmit : PtpReport → NtStatus)
    (context : DeviceContext) (events : List ServerEvent) :
    let server := ({} : Server).run events
    server.connection = none → ∀ frame, server.submitted.getLast? = some frame →
      (∀ record ∈ frame.records, record.hasTip = false) ∧ frame.hasButton = false ∧
        ∃ report, (submitIoctlFrame vhfReadReportSubmit context frame).report = some report ∧
          report.button = 0 ∧ ∀ slot, (report.contacts slot).tip = false := by
  intro server hclosed frame hframe
  have hinitial : ({} : Server).Safe := nofun
  have hsafe : server.Safe := hinitial.run events
  rw [Server.Safe, hclosed] at hsafe
  exact (hsafe frame hframe).nothing_down vhfReadReportSubmit context

theorem no_stuck_touch_client_gone :
    let server := ({} : Server).run
      [.accepted, .received (.received openingBytes) 0, .received .closed 0]
    ∃ frame, server.submitted.getLast? = some frame ∧ frame.records.length = 1 ∧
      ∀ record ∈ frame.records, record.hasTip = false := by
  intro server
  have hlast : (server.submitted.getLast?.map fun frame => frame.records.length) = some 1 := by
    decide +kernel
  obtain ⟨frame, hframe, hlength⟩ := Option.map_eq_some_iff.mp hlast
  have hdown := no_stuck_touch (fun _ => 0) {}
    [.accepted, .received (.received openingBytes) 0, .received .closed 0]
    (by decide +kernel) frame hframe
  exact ⟨frame, hframe, hlength, hdown.1⟩

end Touchpad.Receiver
