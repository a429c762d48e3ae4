import Touchpad.Receiver.HostStrokes
import Touchpad.Receiver.Room

/-!
# Clients that are kept

Where the driver takes every frame, the inner loop of `main` goes on exactly as long as
the connection is open, the buffer has room for what arrives, the octets are messages, and
the messages are in the order of the grammar and fit into the slots.
-/

namespace Touchpad.Receiver

open Touchpad.Foundation
open Touchpad.Shared
open Touchpad.Driver

universe u

variable {δ : Type u} {submit : δ → IoctlFrame → Bool × δ}

def Accepting (submit : δ → IoctlFrame → Bool × δ) : Prop :=
  ∀ driver frame, Emittable frame → (submit driver frame).1 = true

/-! ## The session -/

structure TouchSession.Fit (session : TouchSession) : Prop where
  sound : session.Sound
  masked : Masked session.previousContacts

namespace TouchSession

theorem Fit.initial : ({} : TouchSession).Fit := ⟨sound_initial, by simp [Masked]⟩

theorem Fit.run {session : TouchSession} (h : session.Fit) {call : SessionCall}
    (hdecoded : call.Decoded) : (call.run session).2.Fit :=
  ⟨h.sound.run hdecoded.distinct,
    h.masked.step hdecoded (call.run_effect hdecoded.distinct h.sound)⟩

theorem Fit.after {session : TouchSession} (h : session.Fit) {calls : List SessionCall}
    (hdecoded : ∀ call ∈ calls, call.Decoded) : (session.after calls).Fit := by
  induction calls generalizing session with
  | nil => exact h
  | cons call calls ih =>
      obtain ⟨hcall, hcalls⟩ := List.forall_mem_cons.mp hdecoded
      exact ih (h.run hcall) hcalls

theorem Fit.offer (haccepting : Accepting submit) {session : TouchSession} (h : session.Fit)
    {call : SessionCall} (hdecoded : call.Decoded) (submissions : Submissions δ) :
    (submissions.offer submit (call.run session).1.toOption.join).1 = true := by
  have heffect := call.run_effect hdecoded.distinct h.sound
  cases hemitted : (call.run session).1.toOption.join with
  | none => rfl
  | some frame => exact haccepting _ frame (heffect.emittable hdecoded h.masked hemitted)

theorem ProcessesAll.append {session : TouchSession} {calls more : List SessionCall}
    (h : session.ProcessesAll calls) (hmore : (session.after calls).ProcessesAll more) :
    session.ProcessesAll (calls ++ more) := by
  induction calls generalizing session with
  | nil => exact hmore
  | cons call calls ih =>
      intro step hstep
      rw [List.cons_append, untilThrow, if_neg h.first.1] at hstep
      rcases List.mem_cons.mp hstep with rfl | hstep
      · exact h.first.1
      · exact ih h.first.2 hmore step hstep

theorem processesAll_append {session : TouchSession} {calls more : List SessionCall}
    (h : session.ProcessesAll calls) :
    session.ProcessesAll (calls ++ more) ↔ (session.after calls).ProcessesAll more := by
  refine ⟨fun hall => ?_, h.append⟩
  induction calls generalizing session with
  | nil => exact hall
  | cons call calls ih => exact ih h.first.2 (ProcessesAll.first hall).2

theorem processesAll_front {session : TouchSession} {calls more : List SessionCall}
    (h : session.ProcessesAll (calls ++ more)) : session.ProcessesAll calls := by
  induction calls generalizing session with
  | nil => exact List.forall_mem_nil _
  | cons call calls ih =>
      obtain ⟨hfirst, hrest⟩ := ProcessesAll.first h
      intro step hstep
      rw [untilThrow, if_neg hfirst] at hstep
      rcases List.mem_cons.mp hstep with rfl | hstep
      · exact hfirst
      · exact ih hrest step hstep

end TouchSession

theorem serveMessages_served_iff (haccepting : Accepting submit) {now : Time}
    {messages : List Message}
    (hdecoded : ∀ message ∈ messages, ∃ encoded, decodeMessage encoded = .ok message)
    {session : TouchSession} (h : session.Fit) (submissions : Submissions δ) :
    (serveMessages submit now messages session submissions).1 = true ↔
      session.ProcessesAll (processCalls now messages) := by
  induction messages generalizing session submissions with
  | nil => exact iff_of_true rfl (List.forall_mem_nil _)
  | cons message messages ih =>
      obtain ⟨hmessage, hmessages⟩ := List.forall_mem_cons.mp hdecoded
      have hcall : (SessionCall.process message now).Decoded := hmessage
      have htaken := h.offer haccepting hcall submissions
      have hafter := h.run hcall
      rw [serveMessages]
      cases hprocess : session.process message now with
      | mk outcome after =>
          have hrun : (SessionCall.process message now).run session = (outcome, after) := hprocess
          rw [hrun] at htaken hafter
          cases outcome with
          | error error =>
              refine iff_of_false (by simp) fun hall => ?_
              have hfirst := (TouchSession.ProcessesAll.first hall).1
              rw [SessionCall.step, hrun] at hfirst
              exact hfirst rfl
          | ok output =>
              have hoffered : (submissions.offer submit output).1 = true := htaken
              dsimp only
              rw [if_pos hoffered, ih hmessages hafter]
              exact (TouchSession.processesAll_ok hrun _).symm

/-! ## The connection -/

def Outcomes.StayOpen (outcomes : Outcomes) : Prop :=
  ∀ outcome ∈ outcomes, outcome.1 ≠ .closed ∧ outcome.1 ≠ .failed

/-- The decoder's buffer has room for what arrives, each time. -/
def Outcomes.HaveRoom (outcomes : Outcomes) : Prop :=
  ∀ before bytes now, before ++ [(.received bytes, now)] <+: outcomes →
    (referenceParse (Outcomes.octets before)).rest.length + bytes.length ≤ kMaxMessageSize * 2

structure Kept (outcomes : Outcomes) : Prop where
  opened : outcomes.StayOpen
  room : outcomes.HaveRoom
  formed : (referenceParse (Outcomes.octets outcomes)).error = none
  processed : ({} : TouchSession).ProcessesAll (callsFor [] outcomes)

def KeptAfter (outcomes : Outcomes) : RecvOutcome × Time → Prop
  | (.received bytes, now) =>
      (referenceParse (Outcomes.octets outcomes)).rest.length + bytes.length ≤
          kMaxMessageSize * 2 ∧
        (referenceParse (Outcomes.octets outcomes ++ bytes)).error = none ∧
        (({} : TouchSession).after (callsFor [] outcomes)).ProcessesAll
          (callsForOne (Outcomes.octets outcomes) (.received bytes, now))
  | (.timedOut, _) => True
  | _ => False

theorem Kept.initial : Kept [] where
  opened := List.forall_mem_nil _
  room before bytes now hfirst := by simp at hfirst
  formed := Conversation.Following.initial.parsed
  processed := List.forall_mem_nil _

theorem octets_concat (outcomes : Outcomes) (outcome : RecvOutcome × Time) :
    Outcomes.octets (outcomes ++ [outcome]) = Outcomes.octets outcomes ++ outcome.1.octets := by
  rw [Outcomes.octets_append]
  exact congrArg _ (List.append_nil _)

theorem timeout_processed (session : TouchSession) (now : Time) :
    session.ProcessesAll [.timeout now] :=
  (TouchSession.processesAll_ok rfl []).mpr (List.forall_mem_nil _)

theorem kept_concat_iff {outcomes : Outcomes} {outcome : RecvOutcome × Time} :
    Kept (outcomes ++ [outcome]) ↔ Kept outcomes ∧ KeptAfter outcomes outcome := by
  have hcalls := callsFor_concat [] outcomes outcome
  rw [List.nil_append] at hcalls
  constructor
  · rintro ⟨hopened, hroom, hformed, hprocessed⟩
    rw [octets_concat] at hformed
    rw [hcalls] at hprocessed
    have hbefore := TouchSession.processesAll_front hprocessed
    have hparsed : (referenceParse (Outcomes.octets outcomes)).error = none := by
      cases herror : (referenceParse (Outcomes.octets outcomes)).error with
      | none => rfl
      | some error =>
          have hstill := (Framing.parse_append_of_error _ outcome.1.octets error herror).2
          exact absurd (hstill.symm.trans hformed) (by simp)
    refine ⟨⟨fun other hother => hopened other (List.mem_append_left _ hother),
      fun before bytes now hfirst => hroom before bytes now (hfirst.trans (List.prefix_append _ _)),
      hparsed, hbefore⟩, ?_⟩
    have hopen := hopened outcome (by simp)
    obtain ⟨outcome, now⟩ := outcome
    cases outcome with
    | received bytes =>
        exact ⟨hroom outcomes bytes now List.prefix_rfl, hformed,
          (TouchSession.processesAll_append hbefore).mp hprocessed⟩
    | timedOut => trivial
    | closed => exact absurd rfl hopen.1
    | failed => exact absurd rfl hopen.2
  · rintro ⟨⟨hopened, hroom, hformed, hprocessed⟩, hafter⟩
    obtain ⟨outcome, now⟩ := outcome
    cases outcome with
    | closed | failed => exact hafter.elim
    | timedOut =>
        refine ⟨?_, fun before bytes time hfirst => ?_, ?_, ?_⟩
        · exact List.forall_mem_append.mpr ⟨hopened, List.forall_mem_singleton.mpr (by simp)⟩
        · rcases concat_prefix_concat hfirst with hfirst | ⟨-, heq⟩
          · exact hroom before bytes time hfirst
          · cases heq
        · rw [octets_concat]
          simpa [RecvOutcome.octets] using hformed
        · rw [hcalls]
          exact hprocessed.append (timeout_processed _ now)
    | received bytes =>
        obtain ⟨hfits, hparsed, hmore⟩ := hafter
        refine ⟨?_, fun before others time hfirst => ?_, ?_, ?_⟩
        · exact List.forall_mem_append.mpr ⟨hopened, List.forall_mem_singleton.mpr (by simp)⟩
        · rcases concat_prefix_concat hfirst with hfirst | ⟨rfl, heq⟩
          · exact hroom before others time hfirst
          · cases heq
            exact hfits
        · rw [octets_concat]
          exact hparsed
        · rw [hcalls]
          exact hprocessed.append hmore

/-- One iteration goes on exactly when its outcome is fit to follow the others. -/
theorem Conversation.Following.goesOn_iff (haccepting : Accepting submit)
    {conversation : Conversation} {connection : Connection} (h : conversation.Following connection)
    (outcome : RecvOutcome) (now : Time) (submissions : Submissions δ) :
    (connection.serve submit outcome now submissions).1 = true ↔
      KeptAfter conversation.outcomes (outcome, now) := by
  obtain ⟨hmakes, hsession, hparsed, hbuffer, hqueue⟩ := h
  have hfit : connection.session.Fit :=
    hsession ▸ TouchSession.Fit.initial.after (callsFor_decoded [] conversation.outcomes)
  cases outcome with
  | closed | failed => exact iff_of_false (by simp [Connection.serve]) id
  | timedOut =>
      have hcall : (SessionCall.timeout now).Decoded := trivial
      exact iff_of_true (hfit.offer haccepting hcall submissions) trivial
  | received bytes =>
      rw [KeptAfter, ← hbuffer]
      by_cases hlimit : connection.decoder.buffer.length + bytes.length ≤ kMaxMessageSize * 2
      case neg =>
        rw [Connection.serve, StreamDecoder.append_eq_limit (not_le.mp hlimit)]
        exact iff_of_false (by simp) fun hkept => hlimit hkept.1
      case pos =>
        have hparse := Framing.parse_append_of_ok (F := mtp1Framing) _ bytes hparsed
        have hdecoded := mtp1_parse_decoded (connection.decoder.buffer ++ bytes)
        rw [Connection.serve, StreamDecoder.append_eq_parse hlimit, hqueue, List.nil_append,
          and_iff_right hlimit, callsForOne, ← hsession]
        rw [← referenceParse, ← referenceParse, ← referenceParse, ← hbuffer] at hparse
        rw [hparse, List.drop_left]
        rw [← referenceParse] at hdecoded ⊢
        cases herror : (referenceParse (connection.decoder.buffer ++ bytes)).error with
        | some error => exact iff_of_false (by simp) fun hkept => by simp at hkept
        | none =>
            dsimp only
            rw [StreamDecoder.popAll_eq, and_iff_right rfl]
            exact serveMessages_served_iff haccepting hdecoded hfit submissions

/-! ## The process -/

def Phase.isServing (phase : Phase) : Bool := phase.casesOn false (fun _ => true) false

theorem Phase.exists_serving {phase : Phase} (h : phase.isServing = true) :
    ∃ connection, phase = .serving connection := by
  cases phase with
  | serving connection => exact ⟨connection, rfl⟩
  | accepting | exited => cases h

def receivedEvents (outcomes : Outcomes) : List ProcessEvent :=
  outcomes.map fun outcome => .received outcome.1 outcome.2

def Process.ServesOn (process : Process δ) (submissions : Submissions δ) (outcomes : Outcomes) :
    Prop :=
  ∃ connection made, process.phase = .serving connection ∧
    Conversation.Following ⟨outcomes, made⟩ connection ∧
    process.submissions.attempts = submissions.attempts ++ attemptsMade made

theorem Conversation.Following.frames {outcomes : Outcomes} {made : List Made}
    {connection : Connection} (h : Following ⟨outcomes, made⟩ connection)
    {submissions process : Submissions δ}
    (hattempts : process.attempts = submissions.attempts ++ attemptsMade made) :
    process.frames = submissions.frames ++ ({} : TouchSession).frames (callsFor [] outcomes) := by
  rw [Submissions.frames, hattempts, List.map_append, h.makes.frames_eq, h.makes.calls_eq]
  rfl

theorem Process.step_idle {process : Process δ}
    (h : ∀ connection, process.phase ≠ .serving connection) (outcome : RecvOutcome) (now : Time) :
    process.step submit (.received outcome now) = process := by
  rw [step]
  split
  case h_1 connection hphase => exact absurd hphase (h connection)
  case h_2 => rfl

theorem Process.disconnect_idle (connection : Connection) (submissions : Submissions δ) :
    ∀ other, (disconnect submit connection submissions).phase ≠ .serving other := by
  intro other hphase
  rw [disconnect] at hphase
  dsimp only at hphase
  split at hphase <;> cases hphase

theorem Process.serves_iff (haccepting : Accepting submit) (submissions : Submissions δ)
    (outcomes : Outcomes) :
    let final := Process.run submit ⟨.serving {}, submissions⟩ (receivedEvents outcomes)
    (Kept outcomes → final.ServesOn submissions outcomes) ∧
      (¬ Kept outcomes → ∀ connection, final.phase ≠ .serving connection) := by
  induction outcomes using List.reverseRecOn with
  | nil =>
      refine ⟨fun _ => ⟨{}, [], rfl, .initial, (List.append_nil _).symm⟩, fun hnot => ?_⟩
      exact absurd Kept.initial hnot
  | append_singleton outcomes outcome ih =>
      obtain ⟨outcome, now⟩ := outcome
      have hevents : receivedEvents (outcomes ++ [(outcome, now)]) =
          receivedEvents outcomes ++ [.received outcome now] := by simp [receivedEvents]
      obtain ⟨hserves, hidle⟩ := ih
      rw [hevents, Process.run_concat]
      generalize Process.run submit ⟨.serving {}, submissions⟩ (receivedEvents outcomes) =
        process at hserves hidle
      by_cases hkept : Kept outcomes
      case neg =>
        rw [Process.step_idle (hidle hkept)]
        exact ⟨fun hall => absurd (kept_concat_iff.mp hall).1 hkept, fun _ => hidle hkept⟩
      case pos =>
        obtain ⟨connection, earlier, hphase, hfollowing, hattempts⟩ := hserves hkept
        have hgoesOn := hfollowing.goesOn_iff haccepting outcome now process.submissions
        have hserve := hfollowing.serve submit outcome now process.submissions
        rw [kept_concat_iff, and_iff_right hkept, ← hgoesOn, Process.step, hphase]
        dsimp only at hserve ⊢
        generalize connection.serve submit outcome now process.submissions = result at hserve
        obtain ⟨goesOn, after, left⟩ := result
        obtain ⟨made, hoffered, -, hgoes, -⟩ := hserve
        cases goesOn with
        | false =>
            exact ⟨fun htrue => (by cases htrue), fun _ => Process.disconnect_idle after left⟩
        | true =>
            refine ⟨fun _ => ⟨after, earlier ++ made, rfl, hgoes rfl, ?_⟩,
              fun hnot => absurd rfl hnot⟩
            rw [if_pos rfl, hoffered, hattempts, List.append_assoc, ← attemptsMade_append]

/-! ## All fingers up -/

theorem TouchSession.process_empty {session after : TouchSession} (hsound : session.Sound)
    {message : Message} {now : Time} (htype : message.type = .frame)
    (hcontacts : message.contacts = []) (hbutton : message.hasButton = false)
    {output : Option IoctlFrame} (hprocess : session.process message now = (.ok output, after)) :
    after.hasActiveContacts = false := by
  have hprocessed := process_processed hsound message now (by simp [hcontacts])
  generalize session.process message now = result at hprocessed hprocess
  cases hprocessed with
  | hello _ hhello => simp [htype] at hhello
  | reset _ hreset => simp [htype] at hreset
  | frame result hnext _ hhello hreset hresult =>
      cases hresult with
      | exceeded => cases hprocess
      | accepted registered slots stored hassigned hroom =>
          cases hprocess
          have hslots : slots = [] := by simp [hassigned.slots_eq, hcontacts, tipIdentifiers]
          simp [hasActiveContacts, hslots, hbutton]
  | discontinuity | unexpectedHello | beforeHello | beforeReset => cases hprocess

theorem TouchSession.inactive_after {session : TouchSession} (hsound : session.Sound)
    {calls : List SessionCall} (hdistinct : ∀ call ∈ calls, call.Distinct)
    (hcalls : SessionCall.disconnect ∉ calls) (hall : session.ProcessesAll calls)
    {message : Message} (hlast : (calls.filterMap SessionCall.message?).getLast? = some message)
    (htype : message.type = .frame) (hcontacts : message.contacts = [])
    (hbutton : message.hasButton = false) : (session.after calls).hasActiveContacts = false := by
  induction calls using List.reverseRecOn with
  | nil => cases hlast
  | append_singleton calls call ih =>
      have hbefore := TouchSession.processesAll_front hall
      have hcall := (TouchSession.processesAll_append hbefore).mp hall
      have hfirst : ∀ call ∈ calls, call.Distinct :=
        fun call hmem => hdistinct call (List.mem_append_left _ hmem)
      have hsound' := hsound.after calls hfirst
      rw [TouchSession.after_append]
      rw [List.filterMap_append] at hlast
      cases call with
      | process last now =>
          obtain rfl : last = message := by
            simpa [SessionCall.message?] using hlast
          cases hresult : (session.after calls).process last now with
          | mk outcome after =>
              have hrun : (SessionCall.process last now).run (session.after calls) =
                  (outcome, after) := hresult
              change ((SessionCall.process last now).run
                (session.after calls)).2.hasActiveContacts = false
              rw [hrun]
              cases outcome with
              | ok output => exact process_empty hsound' htype hcontacts hbutton hresult
              | error error =>
                  have hthrows := (TouchSession.ProcessesAll.first hcall).1
                  rw [SessionCall.step, hrun] at hthrows
                  exact absurd rfl hthrows
      | timeout now =>
          have hinactive := ih hfirst (fun hmem => hcalls (List.mem_append_left _ hmem)) hbefore
            (by simpa [SessionCall.message?] using hlast)
          have htimeout := (session.after calls).onTimeout_eq now
          rw [if_neg (by simp [hinactive])] at htimeout
          change ((session.after calls).onTimeout now).2.hasActiveContacts = false
          rw [htimeout]
          exact hinactive
      | disconnect => exact absurd (List.mem_append_right _ List.mem_cons_self) hcalls

/-! ## Who is kept -/

theorem callsFor_no_disconnect (before : Bytes) (outcomes : Outcomes) :
    SessionCall.disconnect ∉ callsFor before outcomes := by
  induction outcomes generalizing before with
  | nil => exact List.not_mem_nil
  | cons outcome outcomes ih =>
      rw [callsFor, List.mem_append, not_or]
      refine ⟨?_, ih _⟩
      obtain ⟨outcome, now⟩ := outcome
      cases outcome with
      | received bytes =>
          intro hmem
          rw [callsForOne, processCalls] at hmem
          obtain ⟨message, -, hmessage⟩ := List.mem_map.mp hmem
          cases hmessage
      | timedOut | closed | failed => simp [callsForOne]

theorem fitsAll_of_processesAll {session : TouchSession} {calls : List SessionCall}
    (h : session.ProcessesAll calls) : session.FitsAll calls := by
  intro step hstep hexceeds
  refine h step hstep ?_
  rw [SessionStep.Throws, hexceeds]
  rfl

theorem callsFor_all_messages (outcomes : Outcomes) :
    (callsFor [] outcomes).filterMap SessionCall.message? =
      (referenceParse (Outcomes.octets outcomes)).messages := by
  have hmessages := callsFor_messages [] outcomes
  rwa [referenceParse, Framing.parse_incomplete mtp1Framing_nil, List.nil_append,
    List.nil_append] at hmessages

theorem callsFor_fits {outcomes : Outcomes}
    (hroom : RoomFor ∅ ((referenceParse (Outcomes.octets outcomes)).messages.map touchingIn)) :
    ({} : TouchSession).FitsAll (callsFor [] outcomes) := by
  rw [← callsFor_all_messages, roomFor_messages] at hroom
  exact fitsAll_of_room TouchSession.sound_initial
    (fun call hcall => (callsFor_decoded [] outcomes call hcall).distinct)
    (List.forall_mem_nil _) hroom

theorem processesAll_callsFor_iff (outcomes : Outcomes) :
    ({} : TouchSession).ProcessesAll (callsFor [] outcomes) ↔
      InOrder (referenceParse (Outcomes.octets outcomes)).messages ∧
        ({} : TouchSession).FitsAll (callsFor [] outcomes) := by
  have hmessages := callsFor_all_messages outcomes
  have hiff := fun hfits => TouchSession.sound_initial.processesAll_iff (callsFor [] outcomes)
    (fun call hcall => (callsFor_decoded [] outcomes call hcall).distinct)
    (callsFor_no_disconnect [] outcomes) hfits
  rw [hmessages] at hiff
  constructor
  · intro hall
    have hfits := fitsAll_of_processesAll hall
    exact ⟨legal_iff_inOrder.mp ((hiff hfits).mp hall), hfits⟩
  · rintro ⟨hinOrder, hfits⟩
    exact (hiff hfits).mpr (legal_iff_inOrder.mpr hinOrder)

theorem kept_iff (outcomes : Outcomes) :
    Kept outcomes ↔
      outcomes.StayOpen ∧ outcomes.HaveRoom ∧
        (referenceParse (Outcomes.octets outcomes)).error = none ∧
        InOrder (referenceParse (Outcomes.octets outcomes)).messages ∧
        ({} : TouchSession).FitsAll (callsFor [] outcomes) := by
  rw [← processesAll_callsFor_iff]
  exact ⟨fun h => ⟨h.opened, h.room, h.formed, h.processed⟩,
    fun ⟨hopened, hroom, hformed, hprocessed⟩ => ⟨hopened, hroom, hformed, hprocessed⟩⟩

theorem submitRequest_accepting {services : Nat → Services} (htaken : TakeEveryReport services) :
    Accepting (submitRequest services) := by
  intro driver frame hframe
  obtain ⟨completion, -, hanswer⟩ := submitRequest_completes services driver hframe
  generalize (submitRequest services driver frame).1 = taken at hanswer
  cases hanswer with
  | lost hretrieved hfailed =>
      have hretrieved' := htaken.retrieved driver.completions.length
      rw [hretrieved, hfailed] at hretrieved'
      cases hretrieved'
  | reported => exact htaken.submitted _ _

/-- A process that waits for a client accepts one, and the frameworks take what it hands
over.  It serves that client for as long, and only for as long, as the connection is open,
what arrives fits into the buffer, the octets are messages, and the messages are in the
order of the grammar and find slots.  Until then every call for them is made, and every
frame that a call emits is handed over, in order. -/
theorem client_kept_iff {services : Nat → Services} (htaken : TakeEveryReport services)
    (submissions : Submissions DriverLog) (outcomes : Outcomes) :
    let final := Process.run (submitRequest services) ⟨.accepting, submissions⟩
      (.accepted :: receivedEvents outcomes)
    let parsed := referenceParse (Outcomes.octets outcomes)
    ((∃ connection, final.phase = .serving connection) ↔
      outcomes.StayOpen ∧ outcomes.HaveRoom ∧
        parsed.error = none ∧ InOrder parsed.messages ∧
        ({} : TouchSession).FitsAll (callsFor [] outcomes)) ∧
      ∀ connection, final.phase = .serving connection →
        connection.session = ({} : TouchSession).after (callsFor [] outcomes) ∧
          connection.decoder.buffer = parsed.rest ∧
          final.submissions.frames =
            submissions.frames ++ ({} : TouchSession).frames (callsFor [] outcomes) := by
  intro final parsed
  obtain ⟨hserves, hidle⟩ :=
    Process.serves_iff (submitRequest_accepting htaken) submissions outcomes
  rw [← kept_iff]
  by_cases hkept : Kept outcomes
  case neg =>
    exact ⟨iff_of_false (fun ⟨connection, hphase⟩ => hidle hkept connection hphase) hkept,
      fun connection hphase => absurd hphase (hidle hkept connection)⟩
  case pos =>
    obtain ⟨connection, made, hphase, hfollowing, hattempts⟩ := hserves hkept
    refine ⟨iff_of_true ⟨connection, hphase⟩ hkept, fun other hother => ?_⟩
    obtain rfl : connection = other := Phase.serving.inj (hphase.symm.trans hother)
    exact ⟨hfollowing.session, hfollowing.buffer, hfollowing.frames hattempts⟩

theorem client_kept_iff_opening :
    let outcomes : Outcomes := [(.received (openingBytes.take 40), 0), (.timedOut, 1),
      (.received (openingBytes.drop 40), 2)]
    InOrder (referenceParse (Outcomes.octets outcomes)).messages ∧
      ({} : TouchSession).FitsAll (callsFor [] outcomes) ∧
      (({} : TouchSession).frames (callsFor [] outcomes)).length = 2 := by
  intro outcomes
  let services : Services :=
    { retrieveInputBuffer := fun _ _ => 0
      retrieveOutputBuffer := fun _ _ => 0
      vhfReadReportSubmit := fun _ => 0 }
  let final := Process.run (submitRequest fun _ => services)
    ⟨.accepting, { driver := { context := {} } }⟩ (.accepted :: receivedEvents outcomes)
  obtain ⟨hkept, hframes⟩ := @client_kept_iff (fun _ => services)
    ⟨fun _ => rfl, fun _ _ => rfl⟩ { driver := { context := {} } } outcomes
  have hserving : (final.phase.isServing, final.submissions.frames.length) = (true, 2) := by
    decide +kernel
  obtain ⟨hphase, hlength⟩ := Prod.mk.inj hserving
  obtain ⟨connection, hserves⟩ := Phase.exists_serving hphase
  obtain ⟨-, -, -, hinOrder, hfits⟩ := hkept.mp ⟨connection, hserves⟩
  obtain ⟨-, -, hsame⟩ := hframes connection hserves
  refine ⟨hinOrder, hfits, ?_⟩
  rw [← hlength]
  exact congrArg List.length hsame.symm

end Touchpad.Receiver
