import Touchpad.Protocol.TouchFrame
import Touchpad.Receiver.SessionSteps
import Touchpad.Receiver.StreamDecoder

/-!
# The receive loop

The two loops of `main` in `windows/receiver/main.cpp`: one iteration of the inner
loop for each `recv`, and the outer loop that accepts one client after another.
Submissions to the driver are taken to succeed; the frames are collected in the
order they are handed over.  One clock reading serves a whole iteration.
-/

namespace Touchpad.Receiver

open Touchpad.Foundation
open Touchpad.Shared

/-- What `recv` comes back with: octets, `WSAETIMEDOUT`, zero or another error. -/
inductive RecvOutcome where
  | received (bytes : Bytes)
  | timedOut
  | closed
  | failed
  deriving DecidableEq

structure Connection where
  decoder : StreamDecoder := {}
  session : TouchSession := {}
  deriving DecidableEq

/-- `while (decoder.HasMessage())`, over the messages in the queue: the frames
submitted, the exception if any, and the session. -/
def processMessages (now : Time) :
    List Message → TouchSession → List IoctlFrame × Option ProtocolError × TouchSession
  | [], session => ([], none, session)
  | message :: messages, session =>
      match session.process message now with
      | (.error error, session) => ([], some error, session)
      | (.ok output, session) =>
          let (frames, error, session) := processMessages now messages session
          (output.toList ++ frames, error, session)

namespace Connection

/-- One iteration: the frames submitted, and the connection if it goes on.  Every
way out of the loop leads to `OnDisconnect`. -/
def step (connection : Connection) (outcome : RecvOutcome) (now : Time) :
    List IoctlFrame × Option Connection :=
  match outcome with
  | .closed | .failed => (connection.session.onDisconnect.1.toList, none)
  | .timedOut =>
      let (release, session) := connection.session.onTimeout now
      (release.toList, some { connection with session })
  | .received bytes =>
      match connection.decoder.append bytes with
      | (some _, _) => (connection.session.onDisconnect.1.toList, none)
      | (none, decoder) =>
          let (messages, decoder) := decoder.popAll
          match processMessages now messages connection.session with
          | (frames, some _, session) => (frames ++ session.onDisconnect.1.toList, none)
          | (frames, none, session) => (frames, some { decoder, session })

end Connection

/-- The whole process: the connection being served, and every frame submitted. -/
structure Server where
  connection : Option Connection := none
  submitted : List IoctlFrame := []
  deriving DecidableEq

inductive ServerEvent where
  | accepted
  | received (outcome : RecvOutcome) (now : Time)
  deriving DecidableEq

namespace Server

/-- A client is accepted while none is served, and `recv` is called while one is;
the other events do not occur and change nothing. -/
def step (server : Server) : ServerEvent → Server
  | .accepted =>
      match server.connection with
      | none => { server with connection := some {} }
      | some _ => server
  | .received outcome now =>
      match server.connection with
      | none => server
      | some connection =>
          let (frames, connection) := connection.step outcome now
          { connection, submitted := server.submitted ++ frames }

def run (server : Server) (events : List ServerEvent) : Server :=
  events.foldl step server

end Server

def openingBytes : Bytes :=
  let frame : Protocol.TPFrame := {
    sequence := 2
    contactCount := 1
    contacts := fun _ => { identifier := 7, flags := 7 } }
  (Protocol.tpEncodeMessage Protocol.tpMessageHello {} 476).2 ++
    (Protocol.tpEncodeMessage Protocol.tpMessageReset { sequence := 1 } 476).2 ++
    (Protocol.tpEncodeMessage Protocol.tpMessageFrame frame 476).2

/-! ## Between iterations -/

def TouchSession.Idle (session : TouchSession) : Prop :=
  session.helloSeen = false → session.hasActiveContacts = false

structure Connection.Ready (connection : Connection) : Prop where
  incomplete : mtp1Verdict connection.decoder.buffer = .incomplete
  queue : connection.decoder.messages = []
  sound : connection.session.Sound
  idle : connection.session.Idle

theorem Connection.ready_initial : ({} : Connection).Ready where
  incomplete := mtp1Verdict_short (by decide)
  queue := rfl
  sound := TouchSession.sound_initial
  idle _ := rfl

theorem TouchSession.process_recent {session : TouchSession} (hsound : session.Sound)
    (hidle : session.Idle) {message : Message} {now : Time}
    (hdistinct : (message.contacts.map Contact.identifier).Nodup)
    {output : Option IoctlFrame} {after : TouchSession}
    (h : session.process message now = (.ok output, after)) :
    after.Sound ∧ after.Idle ∧
      (after.hasActiveContacts = false ∨ after.lastFrameTime = now) := by
  have hafter : after.Sound := by
    have hcall : (SessionCall.process message now).Distinct := hdistinct
    have hrun := hsound.run hcall
    rwa [SessionCall.run, h] at hrun
  refine ⟨hafter, ?_⟩
  have hprocessed := process_processed hsound message now hdistinct
  generalize hresult : session.process message now = result at hprocessed
  rw [hresult] at h
  cases hprocessed with
  | discontinuity => cases h
  | unexpectedHello => cases h
  | beforeHello => cases h
  | beforeReset => cases h
  | hello hnext htype hhello hreset =>
      cases h
      refine ⟨fun hunseen => ?_, .inl (hidle hhello)⟩
      cases hunseen
  | reset hnext htype hhello =>
      cases h
      exact ⟨fun _ => rfl, .inl rfl⟩
  | frame result hnext htype hhello hreset hframe =>
      cases hframe with
      | exceeded => cases h
      | accepted registered slots stored hassigned hroom =>
          cases h
          refine ⟨fun hfresh => ?_, .inr rfl⟩
          cases hhello.symm.trans hfresh

theorem processMessages_recent {messages : List Message} {now : Time}
    (hdecoded : ∀ message ∈ messages, ∃ encoded, decodeMessage encoded = .ok message)
    {session : TouchSession} (hsound : session.Sound) (hidle : session.Idle)
    {frames : List IoctlFrame} {after : TouchSession}
    (h : processMessages now messages session = (frames, none, after)) :
    after.Sound ∧ after.Idle ∧ (messages = [] → after = session) ∧
      (messages ≠ [] → after.hasActiveContacts = false ∨ after.lastFrameTime = now) := by
  induction messages generalizing session frames with
  | nil =>
      cases h
      exact ⟨hsound, hidle, fun _ => rfl, fun hne => absurd rfl hne⟩
  | cons message messages ih =>
      obtain ⟨encoded, hencoded⟩ := hdecoded message List.mem_cons_self
      rw [processMessages] at h
      cases hprocess : session.process message now with
      | mk outcome middle =>
          rw [hprocess] at h
          cases outcome with
          | error error => cases h
          | ok output =>
              dsimp only at h
              obtain ⟨hmiddle, hidle', hrecent⟩ :=
                TouchSession.process_recent hsound hidle (distinct_of_decodeMessage hencoded)
                  hprocess
              cases hlater : processMessages now messages middle with
              | mk later rest =>
                  obtain ⟨error, after'⟩ := rest
                  rw [hlater] at h
                  cases h
                  obtain ⟨hsound', hidle'', hsame, hrecent'⟩ := ih
                    (fun other hother => hdecoded other (List.mem_cons_of_mem _ hother))
                    hmiddle hidle' hlater
                  refine ⟨hsound', hidle'', nofun, fun _ => ?_⟩
                  cases messages with
                  | nil => rwa [hsame rfl]
                  | cons => exact hrecent' nofun

end Touchpad.Receiver
