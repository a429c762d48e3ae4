import Touchpad.Driver.HostView
import Touchpad.Receiver.Grammar
import Touchpad.Receiver.Segmentation
import Touchpad.Receiver.Serving

/-!
# Conversations

What the loops of `main` do with one client after another, said without the decoder and
its buffer: for each client the messages of all octets that it sent go through `Process`
in their order, time-outs come between them, and a disconnect comes last.  Where
`Process` or `Submit` throws the calls end with this one, where `Append` throws with those
for the octets before, and the disconnect comes then.
-/

namespace Touchpad.Receiver

open Touchpad.Foundation
open Touchpad.Shared
open Touchpad.Driver

universe u

variable {δ : Type u}

abbrev Outcomes := List (RecvOutcome × Time)

def RecvOutcome.octets : RecvOutcome → Bytes
  | .received bytes => bytes
  | _ => []

def Outcomes.octets (outcomes : Outcomes) : Bytes :=
  outcomes.flatMap fun outcome => outcome.1.octets

theorem Outcomes.octets_append (outcomes later : Outcomes) :
    Outcomes.octets (outcomes ++ later) = outcomes.octets ++ later.octets := List.flatMap_append

def processCalls (now : Time) (messages : List Message) : List SessionCall :=
  messages.map fun message => .process message now

def callsForOne (before : Bytes) : RecvOutcome × Time → List SessionCall
  | (.received bytes, now) =>
      processCalls now ((referenceParse (before ++ bytes)).messages.drop
        (referenceParse before).messages.length)
  | (.timedOut, now) => [.timeout now]
  | _ => []

def callsFor : Bytes → Outcomes → List SessionCall
  | _, [] => []
  | before, outcome :: outcomes =>
      callsForOne before outcome ++ callsFor (before ++ outcome.1.octets) outcomes

theorem callsFor_concat (before : Bytes) (outcomes : Outcomes) (outcome : RecvOutcome × Time) :
    callsFor before (outcomes ++ [outcome]) =
      callsFor before outcomes ++ callsForOne (before ++ Outcomes.octets outcomes) outcome := by
  induction outcomes generalizing before with
  | nil => simp [callsFor, Outcomes.octets]
  | cons first outcomes ih =>
      rw [List.cons_append, callsFor, ih, callsFor, List.append_assoc, List.append_assoc]
      simp [Outcomes.octets]

theorem processCalls_messages (now : Time) (messages : List Message) :
    (processCalls now messages).filterMap SessionCall.message? = messages := by
  simp [processCalls, SessionCall.message?, List.filterMap_map, Function.comp_def]

theorem callsFor_messages (before : Bytes) (outcomes : Outcomes) :
    (referenceParse before).messages ++
        (callsFor before outcomes).filterMap SessionCall.message? =
      (referenceParse (before ++ Outcomes.octets outcomes)).messages := by
  induction outcomes generalizing before with
  | nil => simp [callsFor, Outcomes.octets]
  | cons outcome outcomes ih =>
      obtain ⟨outcome, now⟩ := outcome
      have hone : (referenceParse before).messages ++
          (callsForOne before (outcome, now)).filterMap SessionCall.message? =
            (referenceParse (before ++ outcome.octets)).messages := by
        cases outcome with
        | received bytes =>
            rw [callsForOne, processCalls_messages]
            exact List.prefix_iff_eq_append.mp (Framing.parse_append_messages before bytes)
        | timedOut | closed | failed =>
            simp [callsForOne, SessionCall.message?, RecvOutcome.octets]
      rw [callsFor, List.filterMap_append, ← List.append_assoc, hone, ih, List.append_assoc]
      rfl

def TouchSession.frames (session : TouchSession) (calls : List SessionCall) : List IoctlFrame :=
  (session.trace calls).filterMap SessionStep.frame

theorem TouchSession.ProcessesAll.first {session : TouchSession} {call : SessionCall}
    {calls : List SessionCall} (h : session.ProcessesAll (call :: calls)) :
    ¬ (call.step session).Throws ∧ (call.run session).2.ProcessesAll calls := by
  have hfirst : ¬ (call.step session).Throws := h _ List.mem_cons_self
  refine ⟨hfirst, fun step hstep => h step ?_⟩
  rw [untilThrow, if_neg hfirst]
  exact List.mem_cons_of_mem _ hstep

/-! ## Calls that are made -/

/-- A call that was made, and whether it went through: neither `Process` nor `Submit`
threw. -/
structure Made where
  step : SessionStep
  through : Bool

def Made.attempt (made : Made) : Option (IoctlFrame × Bool) :=
  made.step.frame.map fun frame => (frame, made.through)

def callsMade (made : List Made) : List SessionCall := made.map fun made => made.step.call

def attemptsMade (made : List Made) : List (IoctlFrame × Bool) := made.filterMap Made.attempt

theorem callsMade_append (made more : List Made) :
    callsMade (made ++ more) = callsMade made ++ callsMade more := List.map_append

theorem attemptsMade_append (made more : List Made) :
    attemptsMade (made ++ more) = attemptsMade made ++ attemptsMade more := List.filterMap_append

/-- The calls are made one after the other, up to the first one that does not go through:
it throws, or its frame is refused. -/
inductive Makes : TouchSession → List SessionCall → List Made → Bool → Prop
  | done (session : TouchSession) : Makes session [] [] true
  | next {session : TouchSession} {call : SessionCall} {calls : List SessionCall}
      {made : List Made} {through : Bool} (hreturns : ¬ (call.step session).Throws)
      (hlater : Makes (call.run session).2 calls made through) :
      Makes session (call :: calls) (⟨call.step session, true⟩ :: made) through
  | stopped {session : TouchSession} {call : SessionCall} (calls : List SessionCall)
      (hstops : (call.step session).Throws ∨ (call.step session).frame.isSome) :
      Makes session (call :: calls) [⟨call.step session, false⟩] false

namespace Makes

variable {session : TouchSession} {calls : List SessionCall} {made : List Made} {through : Bool}

theorem append {later : List SessionCall} {more : List Made}
    (h : Makes session calls made true)
    (hlater : Makes (session.after calls) later more through) :
    Makes session (calls ++ later) (made ++ more) through := by
  induction calls generalizing session made with
  | nil =>
      cases h
      exact hlater
  | cons call calls ih =>
      cases h with
      | next hreturns hrest => exact .next hreturns (ih hrest hlater)

theorem cut (h : Makes session calls made false) (later : List SessionCall) :
    Makes session (calls ++ later) made false := by
  induction calls generalizing session made with
  | nil => cases h
  | cons call calls ih =>
      cases h with
      | next hreturns hrest => exact .next hreturns (ih hrest)
      | stopped _ hstops => exact .stopped _ hstops

theorem trace_eq (h : Makes session calls made through) :
    made.map Made.step = session.trace (callsMade made) := by
  induction h with
  | done => rfl
  | next hreturns hlater ih =>
      rw [List.map_cons, ih]
      rfl
  | stopped => rfl

theorem calls_prefix (h : Makes session calls made through) : callsMade made <+: calls := by
  induction h with
  | done => exact List.prefix_rfl
  | next hreturns hlater ih => exact (List.prefix_cons_inj _).mpr ih
  | stopped => exact (List.prefix_cons_inj _).mpr List.nil_prefix

theorem calls_eq (h : Makes session calls made true) : callsMade made = calls := by
  induction calls generalizing session made with
  | nil =>
      cases h
      rfl
  | cons call calls ih =>
      cases h with
      | next hreturns hrest => exact congrArg (call :: ·) (ih hrest)

theorem frames_eq (h : Makes session calls made through) :
    (attemptsMade made).map Prod.fst = session.frames (callsMade made) := by
  rw [TouchSession.frames, ← h.trace_eq, List.filterMap_map, attemptsMade, List.map_filterMap]
  congr 1
  funext item
  simp [Made.attempt, Function.comp_def]

end Makes

theorem makes_offer (submit : δ → IoctlFrame → Bool × δ) {session : TouchSession}
    {call : SessionCall} (hreturns : ¬ (call.step session).Throws) (submissions : Submissions δ) :
    let offered := submissions.offer submit (call.step session).frame
    Makes session [call] [⟨call.step session, offered.1⟩] offered.1 ∧
      offered.2.attempts =
        submissions.attempts ++ attemptsMade [⟨call.step session, offered.1⟩] := by
  intro offered
  cases hframe : (call.step session).frame with
  | none =>
      have hoffered : offered = (true, submissions) := by
        change submissions.offer submit (call.step session).frame = _
        rw [hframe]
        rfl
      rw [hoffered]
      refine ⟨.next hreturns (.done _), ?_⟩
      simp [attemptsMade, Made.attempt, hframe]
  | some frame =>
      have hoffered : offered = submissions.offer submit (some frame) := by
        rw [← hframe]
      refine ⟨?_, ?_⟩
      · cases htaken : offered.1 with
        | true => exact .next hreturns (.done _)
        | false => exact .stopped [] (.inr (by rw [hframe]; rfl))
      · simp [hoffered, Submissions.offer, attemptsMade, Made.attempt, hframe]

/-! ## Conversations -/

structure Conversation where
  outcomes : Outcomes := []
  made : List Made := []

def Outcomes.Appends (outcomes : Outcomes) : RecvOutcome → Prop
  | .received bytes =>
      (referenceParse outcomes.octets).rest.length + bytes.length ≤ kMaxMessageSize * 2 ∧
        (referenceParse (outcomes.octets ++ bytes)).error = none
  | _ => True

/-- The loop is left with these calls made: all of them where the connection ends, those for
the octets before where `Append` throws, and up to the one that did not go through, which is
for the last outcome, where `Process` or `Submit` throws. -/
inductive Leaves : Outcomes → List Made → Prop
  | ended {outcomes : Outcomes} {outcome : RecvOutcome} {now : Time} {made : List Made}
      (houtcome : outcome = .closed ∨ outcome = .failed)
      (hmade : Makes {} (callsFor [] outcomes) made true) :
      Leaves (outcomes ++ [(outcome, now)]) made
  | rejected {outcomes : Outcomes} {bytes : Bytes} {now : Time} {made : List Made}
      (hrejected : ¬ outcomes.Appends (.received bytes))
      (hmade : Makes {} (callsFor [] outcomes) made true) :
      Leaves (outcomes ++ [(.received bytes, now)]) made
  | threw {outcomes : Outcomes} {outcome : RecvOutcome} {now : Time} {made last : List Made}
      (happends : outcomes.Appends outcome)
      (hmade : Makes {} (callsFor [] outcomes) made true)
      (hlast : Makes (({} : TouchSession).after (callsMade made))
        (callsForOne outcomes.octets (outcome, now)) last false) :
      Leaves (outcomes ++ [(outcome, now)]) (made ++ last)

theorem Leaves.makes {outcomes : Outcomes} {made : List Made} (h : Leaves outcomes made) :
    ∃ before through, before <+: outcomes ∧ Makes {} (callsFor [] before) made through := by
  cases h with
  | ended houtcome hmade => exact ⟨_, true, List.prefix_append _ _, hmade⟩
  | rejected hrejected hmade => exact ⟨_, true, List.prefix_append _ _, hmade⟩
  | threw happends hmade hlast =>
      refine ⟨_, false, List.prefix_rfl, ?_⟩
      rw [callsFor_concat, List.nil_append]
      exact hmade.append (hmade.calls_eq ▸ hlast)

namespace Conversation

def calls (conversation : Conversation) : List SessionCall := callsMade conversation.made

def attempts (conversation : Conversation) : List (IoctlFrame × Bool) :=
  attemptsMade conversation.made

/-- The loop was left, and `OnDisconnect` called. -/
def Ended (conversation : Conversation) : Prop :=
  ∃ made release through, Leaves conversation.outcomes made ∧
    Makes (({} : TouchSession).after (callsMade made)) [.disconnect] release through ∧
    conversation.made = made ++ release

structure Following (conversation : Conversation) (connection : Connection) : Prop where
  makes : Makes {} (callsFor [] conversation.outcomes) conversation.made true
  session : connection.session = ({} : TouchSession).after (callsFor [] conversation.outcomes)
  parsed : (referenceParse conversation.outcomes.octets).error = none
  buffer : connection.decoder.buffer = (referenceParse conversation.outcomes.octets).rest
  queue : connection.decoder.messages = []

theorem Following.initial : Following {} {} where
  makes := .done {}
  session := rfl
  parsed := by rw [referenceParse, Outcomes.octets, List.flatMap_nil,
    Framing.parse_incomplete mtp1Framing_nil]
  buffer := by rw [referenceParse, Outcomes.octets, List.flatMap_nil,
    Framing.parse_incomplete mtp1Framing_nil]
  queue := rfl

end Conversation

/-! ## The inner loop -/

section Serving

variable (submit : δ → IoctlFrame → Bool × δ)

theorem serveMessages_makes (now : Time) (messages : List Message) (session : TouchSession)
    (submissions : Submissions δ) :
    let (served, after, left) := serveMessages submit now messages session submissions
    ∃ made, Makes session (processCalls now messages) made served ∧
      after = session.after (callsMade made) ∧
      left.attempts = submissions.attempts ++ attemptsMade made := by
  induction messages generalizing session submissions with
  | nil => exact ⟨[], .done session, rfl, (List.append_nil _).symm⟩
  | cons message messages ih =>
      let call : SessionCall := .process message now
      rw [serveMessages]
      cases hprocess : session.process message now with
      | mk outcome after =>
          have hstep : call.step session = ⟨call, session, outcome, after⟩ := by
            rw [SessionCall.step, show call.run session = (outcome, after) from hprocess]
          have hafter : (call.run session).2 = after := by
            rw [show call.run session = (outcome, after) from hprocess]
          cases outcome with
          | error error =>
              have hthrows : (call.step session).Throws := by
                rw [hstep]
                rfl
              refine ⟨_, .stopped (processCalls now messages) (.inl hthrows), ?_, ?_⟩
              · exact hafter.symm
              · have hquiet : Made.attempt ⟨call.step session, false⟩ = none := by
                  rw [Made.attempt, hstep]
                  rfl
                rw [attemptsMade, List.filterMap_cons_none hquiet]
                exact (List.append_nil _).symm
          | ok output =>
              have hreturns : ¬ (call.step session).Throws := by
                rw [hstep]
                exact fun h => by cases h
              have hframe : (call.step session).frame = output := by
                rw [hstep]
                rfl
              obtain ⟨hone, hattempts⟩ := makes_offer submit hreturns submissions
              rw [hframe] at hone hattempts
              dsimp only
              cases htaken : (submissions.offer submit output).1 with
              | false =>
                  rw [htaken] at hone hattempts
                  exact ⟨_, hone.cut (processCalls now messages), hafter.symm, hattempts⟩
              | true =>
                  rw [htaken] at hone hattempts
                  obtain ⟨made, hmade, hleft, hserved⟩ :=
                    ih after (submissions.offer submit output).2
                  refine ⟨⟨call.step session, true⟩ :: made, .next hreturns (hafter ▸ hmade), ?_, ?_⟩
                  · rw [if_pos rfl, hleft, ← hafter]
                    rfl
                  · rw [if_pos rfl, hserved, hattempts, List.append_assoc, ← attemptsMade_append]
                    rfl

/-! ## One iteration -/

namespace Conversation

structure GoesOn (conversation : Conversation) (outcome : RecvOutcome × Time) (made : List Made)
    (goesOn : Bool) (after : Connection) : Prop where
  session : after.session = ({} : TouchSession).after (callsMade (conversation.made ++ made))
  follows : goesOn = true →
    Following ⟨conversation.outcomes ++ [outcome], conversation.made ++ made⟩ after
  leaves : goesOn = false →
    Leaves (conversation.outcomes ++ [outcome]) (conversation.made ++ made)

namespace Following

variable {conversation : Conversation} {connection : Connection}

theorem session_after (h : conversation.Following connection) (made : List Made) :
    connection.session.after (callsMade made) =
      ({} : TouchSession).after (callsMade (conversation.made ++ made)) := by
  rw [callsMade_append, TouchSession.after_append, h.makes.calls_eq, ← h.session]

theorem makes_more (h : conversation.Following connection) {outcome : RecvOutcome × Time}
    {made : List Made} (hmade : Makes connection.session
      (callsForOne conversation.outcomes.octets outcome) made true) :
    Makes {} (callsFor [] (conversation.outcomes ++ [outcome])) (conversation.made ++ made)
      true := by
  rw [callsFor_concat, List.nil_append]
  exact h.makes.append (h.session ▸ hmade)

theorem leaves_stopped (h : conversation.Following connection) {outcome : RecvOutcome}
    {now : Time} {made : List Made} (happends : conversation.outcomes.Appends outcome)
    (hmade : Makes connection.session (callsForOne conversation.outcomes.octets (outcome, now))
      made false) :
    Leaves (conversation.outcomes ++ [(outcome, now)]) (conversation.made ++ made) := by
  rw [h.session, ← h.makes.calls_eq] at hmade
  exact .threw happends h.makes hmade

theorem goesOn_left (h : conversation.Following connection) {outcome : RecvOutcome × Time}
    (hleaves : Leaves (conversation.outcomes ++ [outcome]) conversation.made)
    {after : Connection} (hsession : after.session = connection.session) :
    conversation.GoesOn outcome [] false after where
  session := hsession.trans (h.session_after [])
  follows := nofun
  leaves := fun _ => by rwa [List.append_nil]

theorem serve_timedOut (h : conversation.Following connection) (now : Time)
    (submissions : Submissions δ) :
    let (goesOn, after, left) := connection.serve submit .timedOut now submissions
    ∃ made, left.attempts = submissions.attempts ++ attemptsMade made ∧
      conversation.GoesOn (.timedOut, now) made goesOn after := by
  let call : SessionCall := .timeout now
  have hreturns : ¬ (call.step connection.session).Throws := fun h => by cases h
  obtain ⟨hone, hattempts⟩ := makes_offer submit hreturns submissions
  have hsession : ∀ through, (connection.session.onTimeout now).2 = ({} : TouchSession).after
      (callsMade (conversation.made ++ [⟨call.step connection.session, through⟩])) :=
    fun through => h.session_after [⟨call.step connection.session, through⟩]
  have hoctets : Outcomes.octets (conversation.outcomes ++ [(.timedOut, now)]) =
      conversation.outcomes.octets := by
    simp [Outcomes.octets, RecvOutcome.octets]
  refine ⟨_, hattempts, hsession _, fun hgoesOn => ?_, fun hleft => ?_⟩
  · replace hgoesOn : (submissions.offer submit (call.step connection.session).frame).1 =
        true := hgoesOn
    rw [hgoesOn] at hone ⊢
    have hall := @makes_more _ _ h (.timedOut, now) _ hone
    exact ⟨hall, hall.calls_eq ▸ hsession true, hoctets ▸ h.parsed, hoctets ▸ h.buffer, h.queue⟩
  · replace hleft : (submissions.offer submit (call.step connection.session).frame).1 =
        false := hleft
    rw [hleft] at hone ⊢
    exact h.leaves_stopped trivial hone

theorem serve_received (h : conversation.Following connection) (bytes : Bytes) (now : Time)
    (submissions : Submissions δ) :
    let (goesOn, after, left) := connection.serve submit (.received bytes) now submissions
    ∃ made, left.attempts = submissions.attempts ++ attemptsMade made ∧
      conversation.GoesOn (.received bytes, now) made goesOn after := by
  have hoctets : Outcomes.octets (conversation.outcomes ++ [(.received bytes, now)]) =
      conversation.outcomes.octets ++ bytes := by
    simp [Outcomes.octets, RecvOutcome.octets]
  by_cases hlimit : connection.decoder.buffer.length + bytes.length ≤ kMaxMessageSize * 2
  case neg =>
    rw [Connection.serve, StreamDecoder.append_eq_limit (not_le.mp hlimit)]
    refine ⟨[], (List.append_nil _).symm, h.goesOn_left ?_ rfl⟩
    exact .rejected (fun happends => hlimit (h.buffer ▸ happends.1)) h.makes
  case pos =>
    obtain ⟨parsed, happend, hparse⟩ : ∃ parsed : Parsed UInt8 Message ProtocolError,
        connection.decoder.append bytes = (parsed.error, ⟨parsed.rest, parsed.messages⟩) ∧
        referenceParse (conversation.outcomes.octets ++ bytes) =
          ⟨(referenceParse conversation.outcomes.octets).messages ++ parsed.messages,
            parsed.error, parsed.rest⟩ := by
      refine ⟨_, ?_, Framing.parse_append_of_ok _ bytes h.parsed⟩
      rw [StreamDecoder.append_eq_parse hlimit, h.queue, List.nil_append, h.buffer]
      rfl
    rw [Connection.serve, happend]
    cases herror : parsed.error with
    | some error =>
        refine ⟨[], (List.append_nil _).symm, h.goesOn_left (.rejected (fun happends => ?_)
          h.makes) rfl⟩
        have hfails := happends.2
        rw [hparse, herror] at hfails
        cases hfails
    | none =>
        obtain ⟨made, hmade, hleft, hattempts⟩ := serveMessages_makes submit now
          parsed.messages connection.session submissions
        have hcalls : callsForOne conversation.outcomes.octets (.received bytes, now) =
            processCalls now parsed.messages := by
          rw [callsForOne, hparse, List.drop_left]
        rw [← hcalls] at hmade
        have hsession := hleft.trans (h.session_after made)
        dsimp only
        rw [StreamDecoder.popAll_eq]
        refine ⟨made, hattempts, hsession, fun hserved => ?_, fun hserved => ?_⟩
        · rw [hserved] at hmade
          have hall := h.makes_more hmade
          refine ⟨hall, hall.calls_eq ▸ hsession, ?_, ?_, rfl⟩
          · rw [hoctets, hparse, herror]
          · rw [hoctets, hparse]
        · rw [hserved] at hmade
          exact h.leaves_stopped ⟨h.buffer ▸ hlimit, by rw [hparse, herror]⟩ hmade

theorem serve (h : conversation.Following connection) (outcome : RecvOutcome) (now : Time)
    (submissions : Submissions δ) :
    let (goesOn, after, left) := connection.serve submit outcome now submissions
    ∃ made, left.attempts = submissions.attempts ++ attemptsMade made ∧
      conversation.GoesOn (outcome, now) made goesOn after := by
  cases outcome with
  | closed | failed =>
      exact ⟨[], (List.append_nil _).symm, h.goesOn_left (.ended (by simp) h.makes) rfl⟩
  | timedOut => exact h.serve_timedOut submit now submissions
  | received bytes => exact h.serve_received submit bytes now submissions

end Following

end Conversation

end Serving

/-! ## The process -/

def Process.hear (process : Process δ) (event : ProcessEvent) (heard : List Outcomes) :
    List Outcomes :=
  match process.phase, event, heard with
  | .accepting, .accepted, heard => [] :: heard
  | .serving _, .received outcome now, outcomes :: heard =>
      (outcomes ++ [(outcome, now)]) :: heard
  | _, _, heard => heard

def Process.heard (submit : δ → IoctlFrame → Bool × δ) :
    Process δ → List ProcessEvent → List Outcomes → List Outcomes
  | _, [], heard => heard
  | process, event :: events, heard =>
      Process.heard submit (process.step submit event) events (process.hear event heard)

inductive Phase.Told : Phase → List Conversation → Prop
  | accepting (past : List Conversation) (hpast : ∀ conversation ∈ past, conversation.Ended) :
      Told .accepting past
  | serving (connection : Connection) (current : Conversation) (past : List Conversation)
      (hcurrent : current.Following connection)
      (hpast : ∀ conversation ∈ past, conversation.Ended) :
      Told (.serving connection) (current :: past)
  | exited (past : List Conversation) (hpast : ∀ conversation ∈ past, conversation.Ended) :
      Told .exited past

theorem Phase.Told.of_mem {phase : Phase} {conversations : List Conversation}
    (h : phase.Told conversations) {conversation : Conversation}
    (hmem : conversation ∈ conversations) :
    conversation.Ended ∨ ∃ connection, conversation.Following connection := by
  cases h with
  | accepting _ hpast | exited _ hpast => exact .inl (hpast conversation hmem)
  | serving connection current past hcurrent hpast =>
      rcases List.mem_cons.mp hmem with rfl | hmem
      · exact .inr ⟨connection, hcurrent⟩
      · exact .inl (hpast conversation hmem)

/-- The process made the calls of these conversations, and submitted their frames. -/
structure Recounted (process : Process δ) (heard : List Outcomes)
    (conversations : List Conversation) : Prop where
  outcomes : conversations.map Conversation.outcomes = heard
  told : process.phase.Told conversations
  attempts : process.submissions.attempts = conversations.reverse.flatMap Conversation.attempts

section Process

variable (submit : δ → IoctlFrame → Bool × δ)

theorem Process.disconnect_makes (connection : Connection) (submissions : Submissions δ) :
    ∃ release through, Makes connection.session [.disconnect] release through ∧
      (disconnect submit connection submissions).submissions.attempts =
        submissions.attempts ++ attemptsMade release := by
  have hreturns : ¬ (SessionCall.disconnect.step connection.session).Throws := fun h => by cases h
  obtain ⟨hmakes, hattempts⟩ := makes_offer submit hreturns submissions
  exact ⟨_, _, hmakes, hattempts⟩

theorem Process.disconnect_told (connection : Connection) (submissions : Submissions δ)
    {past : List Conversation} (hpast : ∀ conversation ∈ past, conversation.Ended) :
    (disconnect submit connection submissions).phase.Told past := by
  rw [disconnect]
  dsimp only
  split
  case isTrue => exact .accepting past hpast
  case isFalse => exact .exited past hpast

theorem Recounted.step {process : Process δ} {heard : List Outcomes}
    {conversations : List Conversation} (h : Recounted process heard conversations)
    (event : ProcessEvent) :
    ∃ conversations, Recounted (process.step submit event) (process.hear event heard)
      conversations := by
  obtain ⟨phase, submissions⟩ := process
  obtain ⟨houtcomes, htold, hattempts⟩ := h
  subst houtcomes
  cases htold with
  | accepting past hpast =>
      cases event with
      | accepted =>
          refine ⟨{} :: conversations, rfl, .serving {} {} _ .initial hpast, ?_⟩
          rw [List.reverse_cons, List.flatMap_append, ← hattempts]
          exact (List.append_nil _).symm
      | acceptFailed => exact ⟨conversations, rfl, .exited _ hpast, hattempts⟩
      | received outcome now => exact ⟨conversations, rfl, .accepting _ hpast, hattempts⟩
  | exited past hpast =>
      cases event with
      | accepted => exact ⟨conversations, rfl, .exited _ hpast, hattempts⟩
      | acceptFailed => exact ⟨conversations, rfl, .exited _ hpast, hattempts⟩
      | received outcome now => exact ⟨conversations, rfl, .exited _ hpast, hattempts⟩
  | serving connection current past hcurrent hpast =>
      cases event with
      | accepted => exact ⟨_, rfl, .serving connection current past hcurrent hpast, hattempts⟩
      | acceptFailed => exact ⟨_, rfl, .serving connection current past hcurrent hpast, hattempts⟩
      | received outcome now =>
          have hserve := hcurrent.serve submit outcome now submissions
          rw [Process.step]
          dsimp only
          cases hresult : connection.serve submit outcome now submissions with
          | mk goesOn rest =>
              obtain ⟨after, left⟩ := rest
              rw [hresult] at hserve
              obtain ⟨made, hoffered, hsession, hgoes, hleaves⟩ := hserve
              have hbefore : submissions.attempts =
                  past.reverse.flatMap Conversation.attempts ++ current.attempts := by
                rw [List.reverse_cons, List.flatMap_append, List.flatMap_singleton] at hattempts
                exact hattempts
              rw [hbefore, List.append_assoc, Conversation.attempts, ← attemptsMade_append]
                at hoffered
              dsimp only
              split
              case isTrue hgoesOn =>
                refine ⟨⟨current.outcomes ++ [(outcome, now)], current.made ++ made⟩ :: past, rfl,
                  .serving _ _ past (hgoes hgoesOn) hpast, ?_⟩
                rw [List.reverse_cons, List.flatMap_append, List.flatMap_singleton]
                exact hoffered
              case isFalse hstops =>
                obtain ⟨release, through, hrelease, hlast⟩ :=
                  Process.disconnect_makes submit after left
                rw [hsession] at hrelease
                have hended : Conversation.Ended ⟨current.outcomes ++ [(outcome, now)],
                    current.made ++ made ++ release⟩ :=
                  ⟨_, release, through, hleaves (Bool.eq_false_of_not_eq_true hstops), hrelease,
                    rfl⟩
                refine ⟨_ :: past, rfl, Process.disconnect_told submit after left
                  (List.forall_mem_cons.mpr ⟨hended, hpast⟩), ?_⟩
                rw [hlast, hoffered, List.append_assoc, ← attemptsMade_append,
                  List.reverse_cons, List.flatMap_append, List.flatMap_singleton]
                rfl

theorem Recounted.run {process : Process δ} {heard : List Outcomes}
    {conversations : List Conversation} (h : Recounted process heard conversations)
    (events : List ProcessEvent) :
    ∃ conversations, Recounted (process.run submit events)
      (Process.heard submit process events heard) conversations := by
  induction events generalizing process heard conversations with
  | nil => exact ⟨conversations, h⟩
  | cons event events ih =>
      obtain ⟨next, hnext⟩ := h.step submit event
      exact ih hnext

end Process

/-- Whatever the driver answers, the loops of `main` make conversations: over each
connection the calls for what `recv` came back with, in order, all of them while the connection
lasts and where it ends, up to the one that did not go through where `Process` or `Submit`
throws, and those for what came before where `Append` throws; then a disconnect.  The
frames that go to the driver are those of these calls, each from a fresh session. -/
theorem process_makes_conversations (submit : δ → IoctlFrame → Bool × δ) (driver : δ)
    (events : List ProcessEvent) :
    ∃ conversations : List Conversation,
      Recounted (({ submissions := { driver } } : Process δ).run submit events)
        (Process.heard submit { submissions := { driver } } events []) conversations := by
  have hinitial : Recounted ({ submissions := { driver } } : Process δ) [] [] :=
    ⟨rfl, .accepting [] (List.forall_mem_nil _), rfl⟩
  exact hinitial.run submit events

end Touchpad.Receiver
