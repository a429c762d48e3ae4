import Touchpad.Receiver.Conversations

/-!
# Strokes through the process

Clients come and go, calls throw, and the frameworks may refuse requests and reports.  The
frames that are taken still follow one another: a slot that was in use after one of them is
known before the next one, or none is in use after that.  So the host sees the strokes of
the clients over these frames, each once and with its samples.
-/

namespace Touchpad.Receiver

open Touchpad.Foundation
open Touchpad.Shared
open Touchpad.Driver

/-! ## Frames in a row -/

def Made.taken (made : Made) : Option SessionStep :=
  if made.step.frame.isSome && made.through then some made.step else none

def takenFrom (made : List Made) : List SessionStep := made.filterMap Made.taken

theorem takenFrom_append (made more : List Made) :
    takenFrom (made ++ more) = takenFrom made ++ takenFrom more := List.filterMap_append

theorem takenFrom_through (step : SessionStep) (made : List Made) :
    takenFrom (⟨step, true⟩ :: made) =
      if step.frame.isSome then step :: takenFrom made else takenFrom made := by
  rw [takenFrom, List.filterMap_cons, Made.taken, Bool.and_true]
  cases step.frame.isSome <;> rfl

theorem takenFrom_stopped (step : SessionStep) : takenFrom [⟨step, false⟩] = [] := by
  simp [takenFrom, Made.taken]

/-- Slots in use stay known from one step to the next, from `start` on, or the step clears
them. -/
def Linked : SlotMap → List SessionStep → Prop
  | _, [] => True
  | start, step :: steps =>
      (start ⊆ step.before.slots ∨ step.after.slots = []) ∧ Linked step.after.slots steps

theorem Linked.of_subset {start earlier : SlotMap} {steps : List SessionStep}
    (h : Linked start steps) (hsubset : earlier ⊆ start) : Linked earlier steps := by
  cases steps with
  | nil => trivial
  | cons step steps => exact ⟨h.1.imp_left (List.Subset.trans hsubset), h.2⟩

theorem Linked.append {start : SlotMap} {first second : List SessionStep}
    (hfirst : Linked start first) (hsecond : ∀ start, Linked start second) :
    Linked start (first ++ second) := by
  induction first generalizing start with
  | nil => exact hsecond start
  | cons step first ih => exact ⟨hfirst.1, ih hfirst.2⟩

theorem Linked.chain {start : SlotMap} {steps : List SessionStep} (h : Linked start steps) :
    steps.IsChain fun step next =>
      step.after.slots ⊆ next.before.slots ∨ next.after.slots = [] := by
  induction steps generalizing start with
  | nil => exact .nil
  | cons step steps ih =>
      have hrest := ih h.2
      cases steps with
      | nil => exact .singleton step
      | cons next steps => exact .cons_cons h.2.1 hrest

theorem SessionCall.step_quiet {call : SessionCall} (hdistinct : call.Distinct)
    {session : TouchSession} (hsound : session.Sound)
    (hnone : (call.step session).frame = none) :
    session.slots ⊆ (call.run session).2.slots := by
  have heffect := call.run_effect hdistinct hsound
  rw [SessionStep.frame, SessionCall.step] at hnone
  generalize call.run session = result at heffect hnone
  obtain ⟨outcome, after⟩ := result
  dsimp only at heffect hnone ⊢
  cases heffect with
  | quiet _ _ hslots => rw [hslots]; exact List.Subset.refl _
  | refused _ _ _ hslots => rw [hslots]; exact List.Subset.refl _
  | threw _ _ hsubset => exact hsubset
  | emitted => cases hnone

theorem SessionCall.step_before_reset {call : SessionCall} (hdistinct : call.Distinct)
    {session : TouchSession} (hsound : session.Sound) (hreset : session.resetSeen = false) :
    ((call.step session).frame = none ∧ (call.run session).2.resetSeen = false) ∨
      (call.step session).frame.isSome ∧ (call.run session).2.slots = [] := by
  rw [SessionStep.frame, SessionCall.step]
  cases call with
  | process message now =>
      have hprocessed := TouchSession.process_processed hsound message now hdistinct
      rw [SessionCall.run]
      generalize session.process message now = result at hprocessed
      cases hprocessed with
      | reset => exact .inr ⟨rfl, rfl⟩
      | frame _ _ _ _ hseen => simp [hseen] at hreset
      | discontinuity | unexpectedHello | hello | beforeHello | beforeReset =>
          exact .inl ⟨rfl, hreset⟩
  | timeout now =>
      rw [SessionCall.run, TouchSession.onTimeout_eq]
      by_cases hexpired : session.hasActiveContacts = true ∧
          kFrameTimeout ≤ now - session.lastFrameTime
      · rw [if_pos hexpired]
        exact .inr ⟨rfl, rfl⟩
      · rw [if_neg hexpired]
        exact .inl ⟨rfl, hreset⟩
  | disconnect =>
      rw [SessionCall.run, TouchSession.onDisconnect_eq]
      cases session.hasActiveContacts with
      | true => exact .inr ⟨rfl, rfl⟩
      | false => exact .inl ⟨rfl, rfl⟩

namespace Makes

variable {session : TouchSession} {calls : List SessionCall} {made : List Made} {through : Bool}

theorem linked (h : Makes session calls made through) (hsound : session.Sound)
    (hdistinct : ∀ call ∈ calls, call.Distinct) : Linked session.slots (takenFrom made) := by
  induction h with
  | done => trivial
  | stopped => rw [takenFrom_stopped]; trivial
  | @next session call calls made through hreturns hlater ih =>
      obtain ⟨hcall, hcalls⟩ := List.forall_mem_cons.mp hdistinct
      have hrest := ih (hsound.run hcall) hcalls
      rw [takenFrom_through]
      cases hframe : (call.step session).frame with
      | none => exact hrest.of_subset (call.step_quiet hcall hsound hframe)
      | some frame => exact ⟨.inl (List.Subset.refl _), hrest⟩

theorem linked_before_reset (h : Makes session calls made through) (hsound : session.Sound)
    (hdistinct : ∀ call ∈ calls, call.Distinct) (hreset : session.resetSeen = false)
    (start : SlotMap) : Linked start (takenFrom made) := by
  induction h with
  | done => trivial
  | stopped => rw [takenFrom_stopped]; trivial
  | @next session call calls made through hreturns hlater ih =>
      obtain ⟨hcall, hcalls⟩ := List.forall_mem_cons.mp hdistinct
      have hafter := hsound.run hcall
      rw [takenFrom_through]
      rcases call.step_before_reset hcall hsound hreset with ⟨hframe, hstill⟩ | ⟨hframe, hcleared⟩
      · rw [hframe]
        exact ih hafter hcalls hstill
      · rw [hframe]
        exact ⟨.inr hcleared, hlater.linked hafter hcalls⟩

end Makes

theorem emission_of_mem {calls : List SessionCall} (hdecoded : ∀ call ∈ calls, call.Decoded)
    {step : SessionStep} (hstep : step ∈ ({} : TouchSession).trace calls)
    (hemits : step.frame.isSome) : Emission step := by
  obtain ⟨⟨hsound, hmasked⟩, hcall, heq⟩ := TouchSession.trace_induction
    (fun session => session.Sound ∧ Masked session.previousContacts) calls
    (fun call hcall session hsession =>
      ⟨hsession.1.run (hdecoded call hcall).distinct,
        hsession.2.step (hdecoded call hcall)
          (call.run_effect (hdecoded call hcall).distinct hsession.1)⟩)
    ⟨TouchSession.sound_initial, by simp [Masked]⟩ hstep
  have hdistinct := (hdecoded _ hcall).distinct
  have hmade := step.call.step_effect hdistinct hsound
  have hemitted : (step.call.run step.before).1.toOption.join.isSome := by
    rwa [heq] at hemits
  have hbutton := buttonDown_of_emits hdistinct hsound hemitted
  rw [heq]
  exact ⟨hdecoded _ hcall, hsound, hmasked, hmade, hemitted, hbutton⟩

/-! ## Conversations -/

theorem callsFor_decoded (before : Bytes) (outcomes : Outcomes) :
    ∀ call ∈ callsFor before outcomes, call.Decoded := by
  induction outcomes generalizing before with
  | nil => exact List.forall_mem_nil _
  | cons outcome outcomes ih =>
      refine List.forall_mem_append.mpr ⟨?_, ih _⟩
      obtain ⟨outcome, now⟩ := outcome
      cases outcome with
      | received bytes =>
          intro call hcall
          obtain ⟨message, hmessage, rfl⟩ := List.mem_map.mp hcall
          exact mtp1_parse_decoded _ message (List.mem_of_mem_drop hmessage)
      | timedOut => exact List.forall_mem_singleton.mpr trivial
      | closed | failed => exact List.forall_mem_nil _

def Conversation.taken (conversation : Conversation) : List SessionStep :=
  takenFrom conversation.made

/-- The calls for some of the first outcomes, as far as they went through, and the
disconnect behind them where the conversation is over. -/
structure Conversation.Consists (conversation : Conversation) (before : Outcomes)
    (made release : List Made) : Prop where
  heard : before <+: conversation.outcomes
  makes : ∃ through, Makes {} (callsFor [] before) made through
  ends : release = [] ∨ ∃ through,
    Makes (({} : TouchSession).after (callsMade made)) [.disconnect] release through
  made_eq : conversation.made = made ++ release

theorem Phase.Told.consists {phase : Phase} {conversations : List Conversation}
    (h : phase.Told conversations) {conversation : Conversation}
    (hmem : conversation ∈ conversations) :
    ∃ before made release, conversation.Consists before made release := by
  rcases h.of_mem hmem with ⟨made, release, last, hleaves, hrelease, hmade⟩ |
    ⟨connection, hfollowing⟩
  · obtain ⟨before, through, hbefore, hmakes⟩ := hleaves.makes
    exact ⟨before, made, release, hbefore, ⟨through, hmakes⟩, .inr ⟨last, hrelease⟩, hmade⟩
  · exact ⟨conversation.outcomes, conversation.made, [], List.prefix_rfl,
      ⟨true, hfollowing.makes⟩, .inl rfl, (List.append_nil _).symm⟩

namespace Conversation.Consists

variable {conversation : Conversation} {before : Outcomes} {made release : List Made}
  (h : conversation.Consists before made release)
include h

theorem made_decoded : ∀ call ∈ callsMade made, call.Decoded := by
  obtain ⟨through, hmakes⟩ := h.makes
  exact fun call hcall => callsFor_decoded [] before call (hmakes.calls_prefix.subset hcall)

theorem released : ∀ call ∈ callsMade release, call = .disconnect := by
  rcases h.ends with rfl | ⟨through, hrelease⟩
  · exact List.forall_mem_nil _
  · exact fun call hcall => List.mem_singleton.mp (hrelease.calls_prefix.subset hcall)

theorem decoded : ∀ call ∈ conversation.calls, call.Decoded := by
  rw [Conversation.calls, h.made_eq, callsMade_append]
  refine List.forall_mem_append.mpr ⟨h.made_decoded, fun call hcall => ?_⟩
  rw [h.released call hcall]
  trivial

theorem trace_eq :
    conversation.made.map Made.step = ({} : TouchSession).trace conversation.calls := by
  obtain ⟨through, hmakes⟩ := h.makes
  rw [Conversation.calls, h.made_eq, callsMade_append, TouchSession.trace_append, List.map_append,
    hmakes.trace_eq]
  rcases h.ends with rfl | ⟨last, hrelease⟩
  · rfl
  · rw [hrelease.trace_eq]

theorem emission {step : SessionStep} (hstep : step ∈ conversation.taken) : Emission step := by
  obtain ⟨item, hitem, htaken⟩ := List.mem_filterMap.mp hstep
  rw [Made.taken] at htaken
  split at htaken
  case isFalse => cases htaken
  case isTrue hemits =>
    cases htaken
    refine emission_of_mem h.decoded ?_ (Bool.and_eq_true _ _ ▸ hemits).1
    rw [← h.trace_eq]
    exact List.mem_map_of_mem hitem

theorem messages : (callsMade made).filterMap SessionCall.message? <+:
    (referenceParse conversation.outcomes.octets).messages := by
  obtain ⟨through, hmakes⟩ := h.makes
  obtain ⟨later, hlater⟩ := h.heard
  have hall := callsFor_messages [] before
  rw [referenceParse, Framing.parse_incomplete mtp1Framing_nil, List.nil_append,
    List.nil_append] at hall
  refine (hmakes.calls_prefix.filterMap _).trans ?_
  rw [hall, ← hlater, Outcomes.octets_append]
  exact Framing.parse_append_messages _ _

theorem linked (start : SlotMap) : Linked start conversation.taken := by
  obtain ⟨through, hmakes⟩ := h.makes
  have hdistinct : ∀ call ∈ callsFor [] before, call.Distinct := fun call hcall =>
    (callsFor_decoded [] before call hcall).distinct
  rw [Conversation.taken, h.made_eq, takenFrom_append]
  refine (hmakes.linked_before_reset TouchSession.sound_initial hdistinct rfl start).append ?_
  intro start
  rcases h.ends with rfl | ⟨last, hrelease⟩
  · trivial
  · cases hrelease with
    | stopped => rw [takenFrom_stopped]; trivial
    | next hreturns hlater =>
        cases hlater
        rw [takenFrom_through]
        cases hframe : (SessionCall.disconnect.step
          (({} : TouchSession).after (callsMade made))).frame with
        | none => trivial
        | some frame => exact ⟨.inr (run_disconnect_cleared _).1, trivial⟩

end Conversation.Consists

def takenIn (conversations : List Conversation) : List SessionStep :=
  conversations.reverse.flatMap Conversation.taken

theorem Phase.Told.taken {phase : Phase} {conversations : List Conversation}
    (h : phase.Told conversations) :
    (∀ step ∈ takenIn conversations, Emission step) ∧ ∀ start, Linked start (takenIn conversations) := by
  have hconversations : ∀ conversation ∈ conversations.reverse,
      (∀ step ∈ conversation.taken, Emission step) ∧ ∀ start, Linked start conversation.taken := by
    intro conversation hmem
    obtain ⟨before, made, release, hconsists⟩ := h.consists (List.mem_reverse.mp hmem)
    exact ⟨fun step => hconsists.emission, hconsists.linked⟩
  rw [takenIn]
  generalize conversations.reverse = told at hconversations
  induction told with
  | nil => exact ⟨List.forall_mem_nil _, fun _ => trivial⟩
  | cons conversation told ih =>
      obtain ⟨⟨hemissions, hlinked⟩, hrest⟩ := List.forall_mem_cons.mp hconversations
      rw [List.flatMap_cons]
      exact ⟨List.forall_mem_append.mpr ⟨hemissions, (ih hrest).1⟩,
        fun start => (hlinked start).append (ih hrest).2⟩

/-! ## The reports -/

theorem reports_of_answers {services : Nat → Services} {made : List Made}
    {completions : List Completion} {number : Nat}
    (hanswers : List.Forall₂ (fun numbered completion =>
      Answers (services numbered.2) numbered.1 completion)
        ((attemptsMade made).zipIdx number) completions) :
    List.Forall₂ Reports (takenFrom made) (completions.filterMap fun completion =>
      if ntSuccess completion.status then completion.report else none) := by
  induction made generalizing completions number with
  | nil =>
      cases hanswers
      exact .nil
  | cons item made ih =>
      obtain ⟨step, through⟩ := item
      rw [takenFrom, List.filterMap_cons, Made.taken]
      rw [attemptsMade, List.filterMap_cons, Made.attempt] at hanswers
      cases hframe : step.frame with
      | none =>
          rw [hframe] at hanswers
          exact ih hanswers
      | some frame =>
          rw [hframe] at hanswers
          dsimp only [Option.map_some] at hanswers
          rw [List.zipIdx_cons] at hanswers
          obtain ⟨completion, completions, hanswer, hrest, rfl⟩ :=
            List.forall₂_cons_left_iff.mp hanswers
          replace hanswer : Answers (services number) (frame, through) completion := hanswer
          rw [List.filterMap_cons]
          cases hanswer with
          | lost hretrieved hfailed =>
              rw [hfailed]
              exact ih hrest
          | @reported _ report context hretrieved hreport =>
              dsimp only
              cases ntSuccess ((services number).vhfReadReportSubmit report) with
              | false => exact ih hrest
              | true => exact .cons ⟨frame, _, context, hframe, hreport⟩ (ih hrest)

def shownIn (conversations : List Conversation) : List (List Contact) :=
  (takenIn conversations).map fun step => step.call.shown

def pressedIn (conversations : List Conversation) : List Bool :=
  (takenIn conversations).map fun step => pressedBy step.call

/-- The framework takes one report for each frame that the driver takes, and the
identifiers of the messages go by those of the reports. -/
theorem process_renamed (services : Nat → Services) (context : DeviceContext)
    (events : List ProcessEvent) :
    let process : Process DriverLog := { submissions := { driver := { context } } }
    let final := process.run (submitRequest services) events
    let reports := final.submissions.driver.taken
    ∃ conversations : List Conversation,
      Recounted final (Process.heard (submitRequest services) process events []) conversations ∧
      reports.map PtpReport.button =
        (pressedIn conversations).map (fun pressed => if pressed then 1 else 0) ∧
      (∀ report ∈ reports, report.Numbered) ∧
      ∃ GoesAs, Renamed (onPad (shownIn conversations)) (onHost allCollections reports) GoesAs := by
  intro process final reports
  have hinitial : process.Safe fun driver attempts =>
      AllAnswered services attempts driver.completions := by
    refine Process.safe_initial ?_
    exact List.Forall₂.nil
  have hanswers := (hinitial.run (submitRequest_answers services) events).1
  have hnone : Recounted process [] [] := ⟨rfl, .accepting [] (List.forall_mem_nil _), rfl⟩
  obtain ⟨conversations, hrecounted⟩ := hnone.run (submitRequest services) events
  obtain ⟨hsteps, hlinked⟩ := hrecounted.told.taken
  have hattempts : final.submissions.attempts =
      attemptsMade (conversations.reverse.flatMap Conversation.made) := by
    rw [attemptsMade, List.filterMap_flatMap]
    exact hrecounted.attempts
  have htaken : takenFrom (conversations.reverse.flatMap Conversation.made) =
      takenIn conversations := by
    rw [takenFrom, List.filterMap_flatMap]
    rfl
  have hreports : List.Forall₂ Reports (takenIn conversations) reports := by
    rw [← htaken]
    exact reports_of_answers (hattempts ▸ hanswers)
  refine ⟨conversations, hrecounted, ?_, reports_numbered hsteps hreports, _,
    renamed hsteps (hlinked []).chain hreports⟩
  rw [reported_buttons hsteps hreports, pressedIn, List.map_map]
  rfl

/-- Whatever clients send and whatever the frameworks answer: the process makes
conversations, the framework takes one report for each frame of them that the driver takes, with
the button of its message, and a host that reads all Finger collections of these reports and
joins their entries by contact identifier sees one stroke for each stroke of a finger in the
messages, over the same reports and through the same samples, and no other.  A host that
reads as many collections as Contact Count says sees the same exactly where the active
entries of each report are among these. -/
theorem host_sees_strokes (services : Nat → Services) (context : DeviceContext)
    (events : List ProcessEvent) :
    let process : Process DriverLog := { submissions := { driver := { context } } }
    let final := process.run (submitRequest services) events
    let reports := final.submissions.driver.taken
    ∃ conversations : List Conversation,
      Recounted final (Process.heard (submitRequest services) process events []) conversations ∧
      reports.map PtpReport.button =
        (pressedIn conversations).map (fun pressed => if pressed then 1 else 0) ∧
      (∀ first last, ∃ correspond :
          { identifier // (onPad (shownIn conversations)).Stroke first last identifier } ≃
          { contactId // (onHost allCollections reports).Stroke first last contactId },
        ∀ finger index, first ≤ index → index ≤ last →
          onHost allCollections reports index (correspond finger).val =
            onPad (shownIn conversations) index finger.val) ∧
      (onHost countedCollections reports = onHost allCollections reports ↔
        ∀ report ∈ reports, report.WithinCount) := by
  intro process final reports
  obtain ⟨conversations, hrecounted, hbuttons, hnumbered, GoesAs, hrenamed⟩ :=
    process_renamed services context events
  exact ⟨conversations, hrecounted, hbuttons, hrenamed.strokes, onHost_counted_iff hnumbered⟩

end Touchpad.Receiver
