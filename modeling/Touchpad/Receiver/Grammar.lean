import Mathlib.Computability.RegularExpressions
import Touchpad.Receiver.SessionSteps

/-!
# The grammar of a connection

A fresh session processes a list of messages without a throw exactly when their
types begin HELLO RESET (RESET | FRAME)* and their sequence numbers count up, leaving
aside FRAMEs with too many contacts.  Timeouts in between change neither side.
-/

namespace Touchpad.Receiver

open Touchpad.Foundation
open Touchpad.Shared

/-! ## The language -/

/-- HELLO RESET (RESET | FRAME)*. -/
def grammar : RegularExpression MessageType :=
  .comp (.char .hello) (.comp (.char .reset) (.star (.plus (.char .reset) (.char .frame))))

/-- The types begin a word of the grammar and the sequence numbers count up. -/
structure InOrder (messages : List Message) : Prop where
  types : ∃ word ∈ grammar.matches', messages.map Message.type <+: word
  sequences : (messages.map Message.sequence).IsChain fun sequence next => next = sequence + 1

private theorem mem_body {types : List MessageType} :
    types ∈ (RegularExpression.star (.plus (.char .reset) (.char .frame))).matches' ↔
      MessageType.hello ∉ types := by
  rw [RegularExpression.matches'_star, Language.mem_kstar]
  constructor
  · rintro ⟨words, rfl, hwords⟩ hhello
    obtain ⟨word, hword, hmem⟩ := List.mem_flatten.mp hhello
    rcases hwords word hword with heq | heq
    · rw [Set.mem_singleton_iff.mp heq] at hmem
      simp at hmem
    · rw [Set.mem_singleton_iff.mp heq] at hmem
      simp at hmem
  · intro hhello
    have hflatten : types = (types.map fun type => [type]).flatten := by
      rw [← List.flatMap_def, List.flatMap_singleton']
    refine ⟨types.map fun type => [type], hflatten, ?_⟩
    intro word hword
    obtain ⟨type, htype, rfl⟩ := List.mem_map.mp hword
    cases type with
    | hello => exact absurd htype hhello
    | reset => exact .inl rfl
    | frame => exact .inr rfl

theorem mem_grammar {types : List MessageType} :
    types ∈ grammar.matches' ↔
      ∃ body, types = .hello :: .reset :: body ∧ MessageType.hello ∉ body := by
  unfold grammar
  constructor
  · rintro ⟨first, hfirst, rest, ⟨second, hsecond, body, hbody, rfl⟩, rfl⟩
    rw [Set.mem_singleton_iff.mp hfirst, Set.mem_singleton_iff.mp hsecond]
    exact ⟨body, rfl, mem_body.mp hbody⟩
  · rintro ⟨body, rfl, hbody⟩
    exact ⟨[.hello], rfl, .reset :: body, ⟨[.reset], rfl, body, mem_body.mpr hbody, rfl⟩, rfl⟩

theorem begins_grammar_iff {types : List MessageType} :
    (∃ word ∈ grammar.matches', types <+: word) ↔
      types = [] ∨ types = [.hello] ∨
        ∃ body, types = .hello :: .reset :: body ∧ MessageType.hello ∉ body := by
  constructor
  · rintro ⟨word, hword, rest, rfl⟩
    obtain ⟨body, heq, hbody⟩ := mem_grammar.mp hword
    cases types with
    | nil => exact .inl rfl
    | cons first types =>
        cases types with
        | nil =>
            cases heq
            exact .inr (.inl rfl)
        | cons second types =>
            cases heq
            refine .inr (.inr ⟨types, rfl, fun hmem => hbody ?_⟩)
            exact List.mem_append_left _ hmem
  · rintro (rfl | rfl | ⟨body, rfl, hbody⟩)
    · exact ⟨[.hello, .reset], mem_grammar.mpr ⟨[], rfl, by simp⟩, by simp⟩
    · exact ⟨[.hello, .reset], mem_grammar.mpr ⟨[], rfl, by simp⟩, by simp⟩
    · exact ⟨_, mem_grammar.mpr ⟨body, rfl, hbody⟩, List.prefix_rfl⟩

/-! ## The handshake flags as an acceptor -/

def Allowed (helloSeen resetSeen : Bool) : MessageType → Prop
  | .hello => helloSeen = false ∧ resetSeen = false
  | .reset => helloSeen = true
  | .frame => helloSeen = true ∧ resetSeen = true

/-- The messages that get through from the given flags and last sequence number. -/
def Legal : Bool → Bool → Option UInt32 → List Message → Prop
  | _, _, _, [] => True
  | helloSeen, resetSeen, previous, message :: messages =>
      (∀ sequence, previous = some sequence → message.sequence = sequence + 1) ∧
        Allowed helloSeen resetSeen message.type ∧
        Legal true (message.type ≠ .hello) (some message.sequence) messages

private theorem legal_running {sequence : UInt32} {messages : List Message} :
    Legal true true (some sequence) messages ↔
      MessageType.hello ∉ messages.map Message.type ∧
        (sequence :: messages.map Message.sequence).IsChain
          fun sequence next => next = sequence + 1 := by
  induction messages generalizing sequence with
  | nil => simp [Legal]
  | cons message messages ih =>
      rw [Legal, List.map_cons, List.map_cons, List.isChain_cons_cons]
      cases htype : message.type with
      | hello => simp [Allowed]
      | reset => simp [Allowed, ih, and_left_comm]
      | frame => simp [Allowed, ih, and_left_comm]

theorem legal_iff_inOrder {messages : List Message} :
    Legal false false none messages ↔ InOrder messages := by
  have hsplit : InOrder messages ↔ (∃ word ∈ grammar.matches',
      messages.map Message.type <+: word) ∧
        (messages.map Message.sequence).IsChain fun sequence next => next = sequence + 1 :=
    ⟨fun h => ⟨h.types, h.sequences⟩, fun h => ⟨h.1, h.2⟩⟩
  rw [hsplit, begins_grammar_iff]
  cases messages with
  | nil => simp [Legal]
  | cons first messages =>
      cases messages with
      | nil => cases htype : first.type <;> simp [Legal, Allowed, htype]
      | cons second messages =>
          cases htype : first.type <;> cases htype' : second.type <;>
            simp [Legal, Allowed, htype, htype', legal_running, and_left_comm]

/-! ## The session as that acceptor -/

def SessionCall.message? : SessionCall → Option Message
  | .process message _ => some message
  | .timeout _ => none
  | .disconnect => none

namespace TouchSession

def lastSequence (session : TouchSession) : Option UInt32 :=
  if session.sequenceSeen then some session.previousSequence else none

def untilThrow (session : TouchSession) : List SessionCall → List SessionStep
  | [] => []
  | call :: calls =>
      call.step session ::
        if (call.step session).Throws then [] else untilThrow (call.run session).2 calls

def ProcessesAll (session : TouchSession) (calls : List SessionCall) : Prop :=
  ∀ step ∈ session.untilThrow calls, ¬ step.Throws

/-- No FRAME that is reached has too many contacts. -/
def FitsAll (session : TouchSession) (calls : List SessionCall) : Prop :=
  ∀ step ∈ session.untilThrow calls, step.outcome ≠ .error .moreThanFiveActive

theorem inSequence_iff {session : TouchSession} {sequence : UInt32} :
    session.InSequence sequence ↔
      ∀ previous, session.lastSequence = some previous → sequence = previous + 1 := by
  rw [InSequence, lastSequence]
  cases session.sequenceSeen <;> simp

def Emits (message : Message) : Except ProtocolError (Option IoctlFrame) → Prop
  | .error _ => False
  | .ok output =>
      if message.type = .hello then output = none
      else ∃ frame, output = some frame ∧ frame.sequence = message.sequence

/-- A message either gets through, and the flags and the last sequence number are set
as the acceptor has them, or it throws. -/
inductive Passes (session : TouchSession) (message : Message) :
    Except ProtocolError (Option IoctlFrame) × TouchSession → Prop
  | passed (outcome : Except ProtocolError (Option IoctlFrame)) (after : TouchSession)
      (hnext : session.InSequence message.sequence)
      (hallowed : Allowed session.helloSeen session.resetSeen message.type)
      (hemits : Emits message outcome) (hhello : after.helloSeen = true)
      (hreset : after.resetSeen = decide (message.type ≠ .hello))
      (hsequence : after.lastSequence = some message.sequence) :
      Passes session message (outcome, after)
  | stopped (error : ProtocolError) (after : TouchSession)
      (h : session.InSequence message.sequence →
        ¬ Allowed session.helloSeen session.resetSeen message.type) :
      Passes session message (.error error, after)

theorem process_passes {session : TouchSession} (hsound : session.Sound) (message : Message)
    (now : Time) (hdistinct : (message.contacts.map Contact.identifier).Nodup)
    (hfits : (session.process message now).1 ≠ .error .moreThanFiveActive) :
    Passes session message (session.process message now) := by
  have hprocessed := process_processed hsound message now hdistinct
  generalize session.process message now = result at hprocessed hfits
  cases hprocessed with
  | discontinuity hgap => exact .stopped _ _ fun hnext => absurd hnext hgap
  | unexpectedHello hnext htype hseen =>
      refine .stopped _ _ fun _ hallowed => ?_
      rw [htype] at hallowed
      rcases hseen with hseen | hseen
      · exact absurd (hseen.symm.trans hallowed.1) (by decide)
      · exact absurd (hseen.symm.trans hallowed.2) (by decide)
  | hello hnext htype hhello hreset =>
      refine .passed _ _ hnext ?_ ?_ rfl ?_ rfl
      · rw [htype]
        exact ⟨hhello, hreset⟩
      · simp [Emits, htype]
      · rw [htype]
        exact hreset
  | beforeHello hnext htype hhello =>
      refine .stopped _ _ fun _ hallowed => ?_
      cases hcase : message.type with
      | hello => exact htype hcase
      | reset =>
          rw [hcase] at hallowed
          exact absurd (hhello.symm.trans hallowed) (by decide)
      | frame =>
          rw [hcase] at hallowed
          exact absurd (hhello.symm.trans hallowed.1) (by decide)
  | reset hnext htype hhello =>
      refine .passed _ _ hnext ?_ ?_ hhello ?_ rfl
      · rw [htype]
        exact hhello
      · rw [Emits, if_neg (by simp [htype])]
        exact ⟨_, rfl, rfl⟩
      · simp [htype]
  | beforeReset hnext htype hhello hreset =>
      refine .stopped _ _ fun _ hallowed => ?_
      rw [htype] at hallowed
      exact absurd (hreset.symm.trans hallowed.2) (by decide)
  | frame result hnext htype hhello hreset hresult =>
      cases hresult with
      | exceeded => exact absurd rfl hfits
      | accepted registered slots stored hassigned hroom =>
          refine .passed _ _ hnext ?_ ?_ hhello ?_ rfl
          · rw [htype]
            exact ⟨hhello, hreset⟩
          · rw [Except.map, Emits, if_neg (by simp [htype])]
            exact ⟨_, rfl, rfl⟩
          · rw [htype]
            exact hreset

theorem onTimeout_handshake (session : TouchSession) (now : Time) :
    (session.onTimeout now).2.helloSeen = session.helloSeen ∧
      (session.onTimeout now).2.resetSeen = session.resetSeen ∧
      (session.onTimeout now).2.lastSequence = session.lastSequence := by
  rw [onTimeout_eq]
  split <;> exact ⟨rfl, rfl, rfl⟩

theorem untilThrow_ok {session after : TouchSession} {call : SessionCall}
    {output : Option IoctlFrame} (h : call.run session = (.ok output, after))
    (calls : List SessionCall) :
    session.untilThrow (call :: calls) =
      ⟨call, session, .ok output, after⟩ :: after.untilThrow calls := by
  have hstep : call.step session = ⟨call, session, .ok output, after⟩ := by
    rw [SessionCall.step, h]
  have hreturns : ¬ SessionStep.Throws ⟨call, session, .ok output, after⟩ := by
    intro hthrows
    cases hthrows
  rw [untilThrow, hstep, if_neg hreturns, h]

theorem untilThrow_error {session after : TouchSession} {call : SessionCall}
    {error : ProtocolError} (h : call.run session = (.error error, after))
    (calls : List SessionCall) :
    session.untilThrow (call :: calls) = [⟨call, session, .error error, after⟩] := by
  have hstep : call.step session = ⟨call, session, .error error, after⟩ := by
    rw [SessionCall.step, h]
  have hthrows : SessionStep.Throws ⟨call, session, .error error, after⟩ := rfl
  rw [untilThrow, hstep, if_pos hthrows]

theorem processesAll_ok {session after : TouchSession} {call : SessionCall}
    {output : Option IoctlFrame} (h : call.run session = (.ok output, after))
    (calls : List SessionCall) :
    session.ProcessesAll (call :: calls) ↔ after.ProcessesAll calls := by
  unfold ProcessesAll
  rw [untilThrow_ok h, List.forall_mem_cons]
  refine and_iff_right ?_
  intro hthrows
  cases hthrows

theorem FitsAll.rest {session after : TouchSession} {call : SessionCall}
    {output : Option IoctlFrame} (h : call.run session = (.ok output, after))
    {calls : List SessionCall} (hfits : session.FitsAll (call :: calls)) :
    after.FitsAll calls := by
  intro step hstep
  refine hfits step ?_
  rw [untilThrow_ok h]
  exact List.mem_cons_of_mem _ hstep

theorem FitsAll.first {session : TouchSession} {call : SessionCall}
    {calls : List SessionCall} (hfits : session.FitsAll (call :: calls)) :
    (call.run session).1 ≠ .error .moreThanFiveActive :=
  hfits (call.step session) List.mem_cons_self

theorem Sound.processesAll_iff {session : TouchSession} (hsound : session.Sound)
    (calls : List SessionCall) (hdistinct : ∀ call ∈ calls, call.Distinct)
    (hcalls : SessionCall.disconnect ∉ calls) (hfits : session.FitsAll calls) :
    session.ProcessesAll calls ↔
      Legal session.helloSeen session.resetSeen session.lastSequence
        (calls.filterMap SessionCall.message?) := by
  induction calls generalizing session with
  | nil => simp [ProcessesAll, untilThrow, Legal]
  | cons call calls ih =>
      have hcall := hdistinct call List.mem_cons_self
      have hafter := hsound.run hcall
      have hrest := fun {after : TouchSession} (hsound : after.Sound) => ih hsound
        (fun later hlater => hdistinct later (List.mem_cons_of_mem _ hlater))
        (fun hmem => hcalls (List.mem_cons_of_mem _ hmem))
      cases call with
      | process message now =>
          have hpasses := process_passes hsound message now hcall hfits.first
          have hmessages : (SessionCall.process message now :: calls).filterMap
              SessionCall.message? = message :: calls.filterMap SessionCall.message? := rfl
          rw [hmessages, Legal, ← inSequence_iff]
          cases hresult : session.process message now with
          | mk outcome after =>
              have hrun : (SessionCall.process message now).run session = (outcome, after) :=
                hresult
              rw [hresult] at hpasses
              rw [hrun] at hafter
              cases hpasses with
              | stopped error _ h =>
                  constructor
                  · intro hall
                    have hthrows := hall ⟨_, session, .error error, after⟩ (by
                      rw [untilThrow_error hrun]
                      exact List.mem_cons_self)
                    exact absurd rfl hthrows
                  · rintro ⟨hnext, hallowed, -⟩
                    exact absurd hallowed (h hnext)
              | passed _ _ hnext hallowed hemits hhello hreset hsequence =>
                  cases outcome with
                  | error error => exact hemits.elim
                  | ok output =>
                      rw [processesAll_ok hrun, hrest hafter (hfits.rest hrun), hhello, hreset,
                        hsequence]
                      simp only [hnext, hallowed, true_and]
      | timeout now =>
          obtain ⟨hhello, hreset, hsequence⟩ := onTimeout_handshake session now
          have hrun : (SessionCall.timeout now).run session =
              (.ok (session.onTimeout now).1, (session.onTimeout now).2) := rfl
          have hmessages : (SessionCall.timeout now :: calls).filterMap SessionCall.message? =
              calls.filterMap SessionCall.message? := rfl
          rw [hrun] at hafter
          rw [processesAll_ok hrun, hrest hafter (hfits.rest hrun), hmessages, hhello, hreset,
            hsequence]
      | disconnect => exact absurd List.mem_cons_self hcalls

theorem Sound.untilThrow_emits {session : TouchSession} (hsound : session.Sound)
    (calls : List SessionCall) (hdistinct : ∀ call ∈ calls, call.Distinct)
    (hall : session.ProcessesAll calls) :
    ∀ step ∈ session.untilThrow calls, ∀ message now, step.call = .process message now →
      Emits message step.outcome := by
  induction calls generalizing session with
  | nil =>
      intro step hstep
      cases hstep
  | cons call calls ih =>
      have hcall := hdistinct call List.mem_cons_self
      have hafter := hsound.run hcall
      cases hrun : call.run session with
      | mk outcome after =>
          rw [hrun] at hafter
          cases outcome with
          | error error =>
              have hthrows := hall ⟨call, session, .error error, after⟩ (by
                rw [untilThrow_error hrun]
                exact List.mem_cons_self)
              exact absurd rfl hthrows
          | ok output =>
              rw [untilThrow_ok hrun]
              intro step hstep
              rcases List.mem_cons.mp hstep with rfl | hstep
              · intro message now hprocess
                dsimp only at hprocess
                subst hprocess
                have hfits : (session.process message now).1 ≠ .error .moreThanFiveActive := by
                  rw [show session.process message now = (.ok output, after) from hrun]
                  intro heq
                  cases heq
                have hpasses := process_passes hsound message now hcall hfits
                rw [show session.process message now = (.ok output, after) from hrun] at hpasses
                cases hpasses with
                | passed _ _ hnext hallowed hemits => exact hemits
              · exact ih hafter
                  (fun later hlater => hdistinct later (List.mem_cons_of_mem _ hlater))
                  ((processesAll_ok hrun calls).mp hall) step hstep

end TouchSession

/-- A fresh session processes messages, with timeouts in between, without a throw
exactly when they are in the order of the grammar; then HELLO emits nothing and every
RESET and FRAME one frame with its sequence number.  A timeout changes nothing in
what may come after it. -/
theorem accepts_iff_grammar (calls : List SessionCall)
    (hdecoded : ∀ call ∈ calls, call.Decoded) (hcalls : SessionCall.disconnect ∉ calls)
    (hfits : ({} : TouchSession).FitsAll calls) :
    (({} : TouchSession).ProcessesAll calls ↔
      InOrder (calls.filterMap SessionCall.message?)) ∧
    (({} : TouchSession).ProcessesAll calls →
      ∀ step ∈ ({} : TouchSession).untilThrow calls, ∀ message now,
        step.call = .process message now →
          (message.type = .hello → step.frame = none) ∧
          (message.type = .reset ∨ message.type = .frame →
            ∃ frame, step.frame = some frame ∧ frame.sequence = message.sequence)) ∧
    (∀ before later now, calls = before ++ .timeout now :: later →
      ({} : TouchSession).FitsAll (before ++ later) →
        (({} : TouchSession).ProcessesAll calls ↔
          ({} : TouchSession).ProcessesAll (before ++ later))) := by
  have hdistinct : ∀ call ∈ calls, call.Distinct := fun call hcall =>
    (hdecoded call hcall).distinct
  have haccepts := TouchSession.sound_initial.processesAll_iff calls hdistinct hcalls hfits
  refine ⟨haccepts.trans legal_iff_inOrder, ?_, ?_⟩
  · intro hall step hstep message now hcall
    have hemits := TouchSession.sound_initial.untilThrow_emits calls hdistinct hall step hstep
      message now hcall
    obtain ⟨call, before, outcome, after⟩ := step
    dsimp only at hemits hcall
    cases outcome with
    | error error => exact hemits.elim
    | ok output =>
        rw [TouchSession.Emits] at hemits
        constructor
        · intro htype
          rw [if_pos htype] at hemits
          rw [hemits]
          rfl
        · intro htype
          have hother : message.type ≠ .hello := by
            rcases htype with htype | htype <;> simp [htype]
          rw [if_neg hother] at hemits
          obtain ⟨frame, rfl, hsequence⟩ := hemits
          exact ⟨frame, rfl, hsequence⟩
  · rintro before later now rfl hfits'
    have hsubset : ∀ call ∈ before ++ later, call ∈ before ++ .timeout now :: later := by
      intro call hcall
      rcases List.mem_append.mp hcall with hcall | hcall
      · exact List.mem_append_left _ hcall
      · exact List.mem_append_right _ (List.mem_cons_of_mem _ hcall)
    rw [haccepts, TouchSession.sound_initial.processesAll_iff (before ++ later)
      (fun call hcall => hdistinct call (hsubset call hcall))
      (fun hmem => hcalls (hsubset _ hmem)) hfits', List.filterMap_append,
      List.filterMap_append]
    rfl

def releasedTouch : List SessionCall :=
  firstTouch ++ [.timeout 1000000000]

theorem accepts_iff_grammar_released_touch :
    InOrder (releasedTouch.filterMap SessionCall.message?) := by
  have hdecoded : ∀ call ∈ releasedTouch, call.Decoded := by
    intro call hcall
    rcases List.mem_append.mp hcall with hcall | hcall
    · exact firstTouch_decoded call hcall
    · rw [List.mem_singleton.mp hcall]
      trivial
  have hfits : ({} : TouchSession).FitsAll releasedTouch := by
    unfold TouchSession.FitsAll
    decide +kernel
  have hall : ({} : TouchSession).ProcessesAll releasedTouch := by
    unfold TouchSession.ProcessesAll
    decide +kernel
  exact (accepts_iff_grammar releasedTouch hdecoded (by decide) hfits).1.mp hall

end Touchpad.Receiver
