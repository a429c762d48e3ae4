import Touchpad.Driver.DeviceControl
import Touchpad.Foundation.Lists
import Touchpad.Receiver.StuckTouch

/-!
# Submissions that may fail

The loops of `main` in `windows/receiver/main.cpp` over any driver.  `Submit` throws
where the driver refuses a frame: during a connection this leads to `OnDisconnect`, and
where the release that follows is refused as well the process exits.  The frame handed
over last before a client is waited for or the process exits has nothing down.
-/

namespace Touchpad.Receiver

open Touchpad.Foundation
open Touchpad.Shared
open Touchpad.Driver

universe u

variable {δ : Type u}

/-- The driver, and the frames handed to it with whether it took them. -/
structure Submissions (δ : Type u) where
  driver : δ
  attempts : List (IoctlFrame × Bool) := []

namespace Submissions

/-- `if (output) Submit(driver, *output)`; false where `Submit` throws. -/
def offer (submit : δ → IoctlFrame → Bool × δ) (submissions : Submissions δ) :
    Option IoctlFrame → Bool × Submissions δ
  | none => (true, submissions)
  | some frame =>
      let (taken, driver) := submit submissions.driver frame
      (taken, { driver, attempts := submissions.attempts ++ [(frame, taken)] })

def frames (submissions : Submissions δ) : List IoctlFrame :=
  submissions.attempts.map Prod.fst

end Submissions

/-- `while (decoder.HasMessage())`; false where `Process` or `Submit` throws. -/
def serveMessages (submit : δ → IoctlFrame → Bool × δ) (now : Time) :
    List Message → TouchSession → Submissions δ → Bool × TouchSession × Submissions δ
  | [], session, submissions => (true, session, submissions)
  | message :: messages, session, submissions =>
      match session.process message now with
      | (.error _, session) => (false, session, submissions)
      | (.ok output, session) =>
          let (taken, submissions) := submissions.offer submit output
          if taken then serveMessages submit now messages session submissions
          else (false, session, submissions)

/-- One iteration of the inner loop; false where the loop is left. -/
def Connection.serve (submit : δ → IoctlFrame → Bool × δ) (connection : Connection)
    (outcome : RecvOutcome) (now : Time) (submissions : Submissions δ) :
    Bool × Connection × Submissions δ :=
  match outcome with
  | .closed | .failed => (false, connection, submissions)
  | .timedOut =>
      let (release, session) := connection.session.onTimeout now
      let (taken, submissions) := submissions.offer submit release
      (taken, { connection with session }, submissions)
  | .received bytes =>
      match connection.decoder.append bytes with
      | (some _, decoder) => (false, { connection with decoder }, submissions)
      | (none, decoder) =>
          let (messages, decoder) := decoder.popAll
          let (served, session, submissions) :=
            serveMessages submit now messages connection.session submissions
          (served, { decoder, session }, submissions)

inductive Phase where
  | accepting
  | serving (connection : Connection)
  | exited

structure Process (δ : Type u) where
  phase : Phase := .accepting
  submissions : Submissions δ

inductive ProcessEvent where
  | accepted
  | acceptFailed
  | received (outcome : RecvOutcome) (now : Time)

namespace Process

/-- The release behind the inner loop is not caught. -/
def disconnect (submit : δ → IoctlFrame → Bool × δ) (connection : Connection)
    (submissions : Submissions δ) : Process δ :=
  let (release, _) := connection.session.onDisconnect
  let (taken, submissions) := submissions.offer submit release
  { phase := if taken then .accepting else .exited, submissions }

def step (submit : δ → IoctlFrame → Bool × δ) (process : Process δ) :
    ProcessEvent → Process δ
  | .accepted =>
      match process.phase with
      | .accepting => { process with phase := .serving {} }
      | _ => process
  | .acceptFailed =>
      match process.phase with
      | .accepting => { process with phase := .exited }
      | _ => process
  | .received outcome now =>
      match process.phase with
      | .serving connection =>
          let (goesOn, connection, submissions) :=
            connection.serve submit outcome now process.submissions
          if goesOn then { phase := .serving connection, submissions }
          else disconnect submit connection submissions
      | _ => process

def run (submit : δ → IoctlFrame → Bool × δ) (process : Process δ)
    (events : List ProcessEvent) : Process δ :=
  events.foldl (step submit) process

end Process

/-! ## What is handed to the driver -/

def Emittable (frame : IoctlFrame) : Prop :=
  ∃ header button before after, Announces header button ∧ Masked before ∧ Masked after ∧
    frame = transition header before after

theorem Effect.emittable {call : SessionCall} (hdecoded : call.Decoded)
    {before after : TouchSession} {outcome : Except ProtocolError (Option IoctlFrame)}
    (hmasked : Masked before.previousContacts) (h : Effect call before outcome after)
    {frame : IoctlFrame} (hframe : outcome.toOption.join = some frame) : Emittable frame := by
  have hafter := hmasked.step hdecoded h
  cases h with
  | quiet => cases hframe
  | refused => cases hframe
  | threw => cases hframe
  | emitted after header registered hcall hheader hassigned =>
      cases hframe
      exact ⟨header, _, _, _, hheader, hmasked, hafter, rfl⟩

/-- What the driver keeps true of itself and of what it was handed. -/
def KeptBy (submit : δ → IoctlFrame → Bool × δ) (Keeps : δ → List (IoctlFrame × Bool) → Prop) :
    Prop :=
  ∀ driver attempts frame, Emittable frame → Keeps driver attempts →
    Keeps (submit driver frame).2 (attempts ++ [(frame, (submit driver frame).1)])

structure Served (Keeps : δ → List (IoctlFrame × Bool) → Prop) (session : TouchSession)
    (submissions : Submissions δ) : Prop where
  accounted : Accounted session submissions.frames
  keeps : Keeps submissions.driver submissions.attempts

section Serving

variable {submit : δ → IoctlFrame → Bool × δ} {Keeps : δ → List (IoctlFrame × Bool) → Prop}
  (hkept : KeptBy submit Keeps)

theorem Submissions.offer_frames (submissions : Submissions δ) (output : Option IoctlFrame) :
    (submissions.offer submit output).2.frames = submissions.frames ++ output.toList := by
  cases output with
  | none => exact (List.append_nil _).symm
  | some frame => simp [offer, frames]

include hkept

theorem Submissions.offer_keeps {submissions : Submissions δ} {output : Option IoctlFrame}
    (houtput : ∀ frame, output = some frame → Emittable frame)
    (h : Keeps submissions.driver submissions.attempts) :
    Keeps (submissions.offer submit output).2.driver
      (submissions.offer submit output).2.attempts := by
  cases output with
  | none => exact h
  | some frame => exact hkept _ _ frame (houtput frame rfl) h

theorem Served.offer {call : SessionCall} (hdecoded : call.Decoded) {session : TouchSession}
    {submissions : Submissions δ} (h : Served Keeps session submissions) :
    Served Keeps (call.run session).2
      (submissions.offer submit (call.run session).1.toOption.join).2 := by
  have heffect := SessionCall.run_effect hdecoded.distinct h.accounted.sound
  constructor
  · rw [Submissions.offer_frames]
    exact h.accounted.step hdecoded heffect
  · exact Submissions.offer_keeps hkept
      (fun frame hframe => heffect.emittable hdecoded h.accounted.masked hframe) h.keeps

theorem Served.messages {messages : List Message} {now : Time}
    (hdecoded : ∀ message ∈ messages, ∃ encoded, decodeMessage encoded = .ok message)
    {session : TouchSession} {submissions : Submissions δ}
    (h : Served Keeps session submissions) :
    Served Keeps (serveMessages submit now messages session submissions).2.1
      (serveMessages submit now messages session submissions).2.2 := by
  induction messages generalizing session submissions with
  | nil => exact h
  | cons message messages ih =>
      have hcall : (SessionCall.process message now).Decoded :=
        hdecoded message List.mem_cons_self
      have hoffer := h.offer hkept hcall
      rw [SessionCall.run] at hoffer
      rw [serveMessages]
      cases hprocess : session.process message now with
      | mk outcome after =>
          rw [hprocess] at hoffer
          cases outcome with
          | error error => exact hoffer
          | ok output =>
              dsimp only at hoffer ⊢
              split
              case isTrue =>
                exact ih (fun other hother => hdecoded other (List.mem_cons_of_mem _ hother))
                  hoffer
              case isFalse => exact hoffer

theorem Served.serve {connection : Connection} (hqueue : connection.decoder.messages = [])
    {submissions : Submissions δ} (h : Served Keeps connection.session submissions)
    (outcome : RecvOutcome) (now : Time) :
    let (goesOn, after, submissions) := connection.serve submit outcome now submissions
    (goesOn = true → after.decoder.messages = []) ∧ Served Keeps after.session submissions := by
  cases outcome with
  | closed => exact ⟨nofun, h⟩
  | failed => exact ⟨nofun, h⟩
  | timedOut =>
      have hcall : (SessionCall.timeout now).Decoded := trivial
      exact ⟨fun _ => hqueue, h.offer hkept hcall⟩
  | received bytes =>
      have hdecoded := connection.decoder.append_decoded bytes
      rw [Connection.serve]
      cases happend : connection.decoder.append bytes with
      | mk error decoder =>
          rw [happend, hqueue] at hdecoded
          cases error with
          | some error => exact ⟨nofun, h⟩
          | none =>
              dsimp only
              rw [StreamDecoder.popAll_eq]
              exact ⟨fun _ => rfl, h.messages hkept fun message hmessage =>
                (hdecoded message hmessage).resolve_left nofun⟩

end Serving

/-! ## The process -/

def Quiet (submissions : Submissions δ) : Prop :=
  ∀ frame, submissions.frames.getLast? = some frame → Releases frame

def Process.Safe (Keeps : δ → List (IoctlFrame × Bool) → Prop) (process : Process δ) : Prop :=
  Keeps process.submissions.driver process.submissions.attempts ∧
    match process.phase with
    | .serving connection =>
        connection.decoder.messages = [] ∧ Accounted connection.session process.submissions.frames
    | _ => Quiet process.submissions

section Process

variable {submit : δ → IoctlFrame → Bool × δ} {Keeps : δ → List (IoctlFrame × Bool) → Prop}
  (hkept : KeptBy submit Keeps)
include hkept

theorem Served.disconnect {connection : Connection} {submissions : Submissions δ}
    (h : Served Keeps connection.session submissions) :
    (Process.disconnect submit connection submissions).Safe Keeps := by
  have hcall : SessionCall.disconnect.Decoded := trivial
  have hoffer := h.offer hkept hcall
  have hquiet : Quiet (submissions.offer submit connection.session.onDisconnect.1).2 := by
    intro frame hframe
    rw [Submissions.offer_frames] at hframe
    exact h.accounted.disconnect frame hframe
  rw [Process.disconnect]
  dsimp only
  refine ⟨hoffer.keeps, ?_⟩
  split
  case h_1 hphase => split at hphase <;> cases hphase
  case h_2 => exact hquiet

theorem Process.Safe.step {process : Process δ} (h : process.Safe Keeps)
    (event : ProcessEvent) : (process.step submit event).Safe Keeps := by
  obtain ⟨phase, submissions⟩ := process
  obtain ⟨hkeeps, hphase⟩ := h
  cases phase with
  | accepting =>
      cases event with
      | accepted =>
          exact ⟨hkeeps, rfl, TouchSession.sound_initial, by simp [Masked], .inr hphase⟩
      | acceptFailed => exact ⟨hkeeps, hphase⟩
      | received outcome now => exact ⟨hkeeps, hphase⟩
  | exited => cases event <;> exact ⟨hkeeps, hphase⟩
  | serving connection =>
      cases event with
      | accepted => exact ⟨hkeeps, hphase⟩
      | acceptFailed => exact ⟨hkeeps, hphase⟩
      | received outcome now =>
          obtain ⟨hqueue, haccounted⟩ := hphase
          have hserve := Served.serve hkept hqueue ⟨haccounted, hkeeps⟩ outcome now
          rw [Process.step]
          dsimp only at hserve ⊢
          split
          case isTrue hgoesOn =>
            exact ⟨hserve.2.keeps, hserve.1 hgoesOn, hserve.2.accounted⟩
          case isFalse => exact hserve.2.disconnect hkept

theorem Process.Safe.run {process : Process δ} (h : process.Safe Keeps)
    (events : List ProcessEvent) : (process.run submit events).Safe Keeps := by
  induction events generalizing process with
  | nil => exact h
  | cons event events ih => exact ih (h.step hkept event)

end Process

theorem Process.safe_initial {Keeps : δ → List (IoctlFrame × Bool) → Prop} {driver : δ}
    (h : Keeps driver []) : ({ submissions := { driver } } : Process δ).Safe Keeps :=
  ⟨h, nofun⟩

theorem Process.run_concat (submit : δ → IoctlFrame → Bool × δ) (process : Process δ)
    (events : List ProcessEvent) (event : ProcessEvent) :
    process.run submit (events ++ [event]) = (process.run submit events).step submit event := by
  rw [run, List.foldl_append]
  rfl

theorem Process.disconnect_exited {submit : δ → IoctlFrame → Bool × δ} {connection : Connection}
    {submissions : Submissions δ} (hexited : (disconnect submit connection submissions).phase = .exited) :
    ∃ frame, (disconnect submit connection submissions).submissions.attempts.getLast? =
      some (frame, false) := by
  rw [disconnect] at hexited ⊢
  dsimp only at hexited ⊢
  cases hrelease : connection.session.onDisconnect.1 with
  | none =>
      rw [hrelease] at hexited
      cases hexited
  | some frame =>
      rw [hrelease, Submissions.offer] at hexited
      dsimp only at hexited
      refine ⟨frame, ?_⟩
      rw [Submissions.offer]
      dsimp only
      rw [List.getLast?_concat]
      split at hexited
      case isTrue => cases hexited
      case isFalse hrefused => rw [Bool.not_eq_true] at hrefused; rw [hrefused]

theorem Process.exited_cases (submit : δ → IoctlFrame → Bool × δ) {process : Process δ}
    (hinitial : process.phase = .accepting) (events : List ProcessEvent)
    (hexited : (process.run submit events).phase = .exited) :
    (∃ before after, events = before ++ .acceptFailed :: after ∧
      (process.run submit before).phase = .accepting) ∨
    ∃ frame, (process.run submit events).submissions.attempts.getLast? = some (frame, false) := by
  induction events using List.reverseRecOn with
  | nil =>
      change process.phase = .exited at hexited
      rw [hinitial] at hexited
      cases hexited
  | append_singleton events event ih =>
      rw [run_concat] at hexited ⊢
      cases hbefore : process.run submit events with
      | mk phase submissions =>
          rw [hbefore] at hexited ih
          cases phase with
          | accepting =>
              cases event with
              | acceptFailed => exact .inl ⟨events, [], rfl, by rw [hbefore]⟩
              | accepted | received => cases hexited
          | exited =>
              have hsame : Process.step submit ⟨.exited, submissions⟩ event =
                  ⟨.exited, submissions⟩ := by
                cases event <;> rfl
              rw [hsame]
              refine (ih rfl).imp_left ?_
              rintro ⟨before, after, rfl, hphase⟩
              exact ⟨before, after ++ [event], by simp, hphase⟩
          | serving connection =>
              cases event with
              | accepted | acceptFailed => cases hexited
              | received outcome now =>
                  rw [Process.step] at hexited ⊢
                  dsimp only at hexited ⊢
                  split at hexited
                  case isTrue => cases hexited
                  case isFalse hleft =>
                    rw [if_neg hleft]
                    exact .inr (disconnect_exited hexited)

/-! ## The driver behind the process -/

structure DriverLog where
  context : DeviceContext
  completions : List Completion := []

def DriverLog.taken (driver : DriverLog) : List PtpReport :=
  driver.completions.filterMap fun completion =>
    if ntSuccess completion.status then completion.report else none

/-- `DeviceIoControl` with `IOCTL_MTP_SUBMIT_FRAME`.  The frameworks may answer each request
differently. -/
def submitRequest (services : Nat → Services) (driver : DriverLog) (frame : IoctlFrame) :
    Bool × DriverLog :=
  let (completion, context) := ioDeviceControl (services driver.completions.length)
    driver.context { ioControlCode := ioctlMtpSubmitFrame, inputBuffer := frameCodec.pack frame }
  (ntSuccess completion.status, { context, completions := driver.completions ++ [completion] })

/-- The frameworks give out every input buffer and take every report. -/
structure TakeEveryReport (services : Nat → Services) : Prop where
  retrieved : ∀ index, ntSuccess ((services index).retrieveInputBuffer frameCodec.size
    frameCodec.size) = true
  submitted : ∀ index report, ntSuccess ((services index).vhfReadReportSubmit report) = true

/-- The completion of the request for a frame.  Where the driver gets the buffer it makes
one report of the frame, and the frame is taken where the framework takes this report. -/
inductive Answers (services : Services) : IoctlFrame × Bool → Completion → Prop
  | lost {frame : IoctlFrame} {status : NtStatus}
      (hretrieved : services.retrieveInputBuffer frameCodec.size frameCodec.size = status)
      (hfailed : ntSuccess status = false) : Answers services (frame, false) { status }
  | reported {frame : IoctlFrame} {report : PtpReport} {context : DeviceContext}
      (hretrieved : ntSuccess (services.retrieveInputBuffer frameCodec.size
        frameCodec.size) = true)
      (hreport : (submitIoctlFrame services.vhfReadReportSubmit context frame).report =
        some report) :
      Answers services (frame, ntSuccess (services.vhfReadReportSubmit report))
        { status := services.vhfReadReportSubmit report, report := some report }

/-- Each attempt, with its number, is answered by the completion in its place. -/
def AllAnswered (services : Nat → Services) (attempts : List (IoctlFrame × Bool))
    (completions : List Completion) : Prop :=
  List.Forall₂ (fun numbered completion => Answers (services numbered.2) numbered.1 completion)
    attempts.zipIdx completions

theorem submitRequest_completes (services : Nat → Services) (driver : DriverLog)
    {frame : IoctlFrame} (hframe : Emittable frame) :
    ∃ completion,
      (submitRequest services driver frame).2.completions = driver.completions ++ [completion] ∧
        Answers (services driver.completions.length)
          (frame, (submitRequest services driver frame).1) completion := by
  obtain ⟨header, button, before, after, hheader, hbefore, hafter, rfl⟩ := hframe
  let request : Request :=
    { ioControlCode := ioctlMtpSubmitFrame
      inputBuffer := frameCodec.pack (transition header before after) }
  have hlength : request.inputBuffer.length = frameCodec.size := frameCodec.pack_length _
  refine ⟨_, rfl, ?_⟩
  change Answers _ (_, ntSuccess (ioDeviceControl (services driver.completions.length)
    driver.context request).1.status) (ioDeviceControl (services driver.completions.length)
    driver.context request).1
  generalize services driver.completions.length = answering
  cases hretrieved : ntSuccess (answering.retrieveInputBuffer frameCodec.size frameCodec.size) with
  | true =>
      obtain ⟨report, hreport, hstatus, -⟩ := transition_report
        answering.vhfReadReportSubmit driver.context hheader hbefore hafter
      rw [@ioDeviceControl_submit answering request rfl (hlength ▸ hretrieved) driver.context _ rfl,
        hreport, hstatus]
      exact .reported hretrieved hreport
  | false =>
      rw [@ioDeviceControl_unretrieved answering request rfl hlength (by rw [hretrieved]; decide)]
      dsimp only
      rw [hretrieved]
      exact .lost rfl hretrieved

theorem submitRequest_answers (services : Nat → Services) :
    KeptBy (submitRequest services) fun driver attempts =>
      AllAnswered services attempts driver.completions := by
  intro driver attempts frame hframe hanswers
  obtain ⟨completion, hcompletions, hanswer⟩ := submitRequest_completes services driver hframe
  have hlength : attempts.length = driver.completions.length := by
    rw [← hanswers.length_eq, List.length_zipIdx]
  rw [AllAnswered, hcompletions, List.zipIdx_append, List.zipIdx_singleton, Nat.zero_add, hlength]
  exact List.rel_append hanswers (.cons hanswer .nil)

theorem AllAnswered.getLast? {services : Nat → Services} {attempts : List (IoctlFrame × Bool)}
    {completions : List Completion} (h : AllAnswered services attempts completions)
    {completion : Completion} (hlast : completions.getLast? = some completion) :
    ∃ frame taken index, attempts.getLast? = some (frame, taken) ∧
      Answers (services index) (frame, taken) completion := by
  obtain ⟨⟨⟨frame, taken⟩, index⟩, hattempt, hanswer⟩ := getLast_of_forall₂ h.flip hlast
  refine ⟨frame, taken, index, ?_, hanswer⟩
  rw [← List.zipIdx_map_fst 0 attempts, List.getLast?_map, hattempt]
  rfl

/-- Whatever clients send and whatever the frameworks answer: each frame handed over is
answered by one report of it where the driver gets the request's buffer, by none elsewhere,
and is taken where the framework takes this report.  Whenever no client is served, also after
submissions that failed, the last frame handed over releases the button and all fingers,
and so does its report.  The process exits only where `accept` fails while no client is
served, or this last frame is not taken. -/
theorem no_stuck_touch_whatever_status (services : Nat → Services) (context : DeviceContext)
    (events : List ProcessEvent) :
    let initial : Process DriverLog := { submissions := { driver := { context } } }
    let process := initial.run (submitRequest services) events
    let attempts := process.submissions.attempts
    let completions := process.submissions.driver.completions
    AllAnswered services attempts completions ∧
      ((∀ connection, process.phase ≠ .serving connection) →
        (∀ frame taken, attempts.getLast? = some (frame, taken) →
          frame.hasButton = false ∧ ∀ record ∈ frame.records, record.hasTip = false) ∧
        ∀ completion report, completions.getLast? = some completion →
          completion.report = some report →
            report.button = 0 ∧ ∀ slot, (report.contacts slot).tip = false) ∧
      (process.phase = .exited →
        (∃ before after, events = before ++ .acceptFailed :: after ∧
          (initial.run (submitRequest services) before).phase = .accepting) ∨
        ∃ frame, attempts.getLast? = some (frame, false)) := by
  intro initial process attempts completions
  have hinitial : initial.Safe fun driver attempts =>
      AllAnswered services attempts driver.completions := by
    refine Process.safe_initial ?_
    exact List.Forall₂.nil
  obtain ⟨hanswers, hphase⟩ := hinitial.run (submitRequest_answers services) events
  refine ⟨hanswers, fun hidle => ?_, Process.exited_cases _ rfl events⟩
  have hquiet : Quiet process.submissions := by
    cases hprocess : process.phase with
    | accepting | exited =>
        rw [hprocess] at hphase
        exact hphase
    | serving connection => exact absurd hprocess (hidle connection)
  have hreleases : ∀ frame taken, attempts.getLast? = some (frame, taken) → Releases frame := by
    intro frame taken hattempt
    refine hquiet frame ?_
    rw [Submissions.frames, List.getLast?_map, hattempt]
    rfl
  refine ⟨fun frame taken hattempt => ?_, fun completion report hlast hreported => ?_⟩
  · obtain ⟨hrecords, hbutton, -⟩ :=
      (hreleases frame taken hattempt).nothing_down (fun _ => 0) context
    exact ⟨hbutton, hrecords⟩
  · obtain ⟨frame, taken, index, hattempt, hanswer⟩ := hanswers.getLast? hlast
    cases hanswer with
    | lost => cases hreported
    | @reported _ made context' hretrieved hreport =>
        obtain ⟨-, -, released, hreleased, hdown⟩ :=
          (hreleases _ _ hattempt).nothing_down (services index).vhfReadReportSubmit context'
        obtain rfl : made = report := Option.some.inj hreported
        obtain rfl : made = released := Option.some.inj (hreport.symm.trans hreleased)
        exact hdown

end Touchpad.Receiver
