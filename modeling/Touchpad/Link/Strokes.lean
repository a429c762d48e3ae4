import Touchpad.Link.Wire
import Touchpad.Receiver.HostStrokes

/-!
# From the trackpad to the host

The agent's threads and sockets, the receiver process and the driver, all at once.  Where
the receiver's clients are connections of the agent, the strokes that the host sees are
those of the fingers on the trackpad, over the FRAMEs that got through.
-/

namespace Touchpad.Link

open Touchpad.Foundation
open Touchpad.Protocol
open Touchpad.Agent
open Touchpad.Receiver
open Touchpad.Driver
open Touchpad.Shared

/-! ## Fingers on the trackpad -/

def fingerOn (touches : List MTTouch) (identifier : UInt32) : Option Sample :=
  (touches.find? fun touch => decide (touch.state = 3 ∨ touch.state = 4) &&
    touch.identifier.toUInt32 = identifier).map fun touch =>
      { x := toLogical (Binary32.value touch.x)
        y := toLogicalY (Binary32.value touch.y)
        confidence := true }

def onTrackpad (captured : List (List MTTouch)) : Timeline UInt32 Sample :=
  fun index identifier => captured[index]?.bind fun touches => fingerOn touches identifier

theorem flagsForState_confidence (state : Int32) :
    flagsForState state &&& mtpIoctlContactConfidence ≠ 0 := by
  unfold flagsForState
  dsimp only
  split <;> split <;> decide

theorem fingerIn_received (touches : List MTTouch) (identifier : UInt32) :
    fingerIn (touches.map receivedContact) identifier = fingerOn touches identifier := by
  rw [fingerIn, fingerOn, List.find?_map, Option.map_map]
  have hfound : (fun contact : Contact => contact.hasTip && contact.identifier = identifier) ∘
      receivedContact = fun touch => decide (touch.state = 3 ∨ touch.state = 4) &&
        touch.identifier.toUInt32 = identifier := by
    funext touch
    rw [Function.comp_apply, received_hasTip]
    rfl
  rw [hfound]
  congr 1
  funext touch
  simp [contactSample, receivedContact, flagsForState_confidence]

/-! ## Frames of the receiver -/

/-- What a frame of the receiver stands for: a FRAME that the agent drew and its touches, or
nothing where it releases what was down. -/
structure Showing where
  drawn : Option Drawn := none
  touches : List MTTouch := []

def Showing.pressed (showing : Showing) : Bool :=
  showing.drawn.any fun drawn => drawn.frame.flags &&& tpFrameButton ≠ 0

structure Showing.Of (call : SessionCall) (showing : Showing) : Prop where
  shown : call.shown = showing.touches.map receivedContact
  pressed : pressedBy call = showing.pressed

def Showing.Made (called : List (List MTTouch)) (showing : Showing) : Prop :=
  match showing.drawn with
  | none => showing.touches = []
  | some drawn =>
      drawn.type = tpMessageFrame ∧ (showing.touches = [] ∨ showing.touches ∈ called) ∧
        ∃ deviceTimeUs down sequence captureTimeUs,
          drawn.frame = capturedFrame showing.touches deviceTimeUs down sequence captureTimeUs

theorem meant_frame {called : List (List MTTouch)} {item : Drawn} {message : Message}
    (hmeant : Meant item message) (hshows : item.Shows called) (htype : message.type = .frame) :
    ∃ touches, Showing.Made called { drawn := some item, touches } ∧
      ∀ now, Showing.Of (.process message now) { drawn := some item, touches } := by
  obtain ⟨type, frame⟩ := item
  obtain rfl : tpMessageFrame = type := by
    have hcode := hmeant.type
    rwa [htype] at hcode
  rcases hshows with ⟨-, touches, hcalled, hfits, deviceTimeUs, down, sequence, now, hframe⟩ |
    ⟨hcontrol, -⟩
  · dsimp only at hframe
    subst hframe
    refine ⟨touches, ⟨rfl, hcalled, deviceTimeUs, down, sequence, now, rfl⟩, fun time => ⟨?_, ?_⟩⟩
    swap
    · rw [pressedBy, htype, Message.hasButton, hmeant.flags]
      rfl
    rw [SessionCall.shown, if_pos htype]
    have hlength : message.contacts.length = touches.length :=
      hmeant.contactCount.trans (carried_count hfits deviceTimeUs down sequence now)
    apply List.ext_getElem (by simpa using hlength)
    intro i hi _
    rw [List.getElem_map]
    apply sameContact_received
    have hcontact := hmeant.contacts i _ (List.getElem?_eq_getElem hi)
    rw [carried_contactAt hfits _ _ _ _ (by omega)] at hcontact
    exact hcontact
  · rcases hcontrol with hcontrol | hcontrol <;> cases hcontrol

theorem Meant.isFrame {item : Drawn} {message : Message} (h : Meant item message) :
    Drawn.isFrame item = decide (message.type = .frame) := by
  have hcode := h.type
  rw [Drawn.isFrame, ← hcode]
  cases message.type <;> decide

theorem throws_of_quiet {session : TouchSession} (hsound : session.Sound) {message : Message}
    {now : Time} (hdistinct : (SessionCall.process message now).Distinct)
    (htype : message.type = .frame)
    (hquiet : ((SessionCall.process message now).step session).frame = none) :
    ((SessionCall.process message now).step session).Throws := by
  have heffect := SessionCall.run_effect hdistinct hsound
  rw [SessionStep.frame, SessionCall.step] at hquiet
  rw [SessionStep.Throws, SessionCall.step]
  generalize (SessionCall.process message now).run session = result at heffect hquiet
  obtain ⟨outcome, after⟩ := result
  dsimp only at heffect hquiet ⊢
  cases heffect with
  | quiet _ hcall =>
      have hhello := hcall message now rfl
      rw [htype] at hhello
      cases hhello
  | refused => rfl
  | threw => rfl
  | emitted => cases hquiet

theorem taken_showing {called : List (List MTTouch)} {session : TouchSession}
    (hsound : session.Sound) {calls : List SessionCall} {made : List Made} {through : Bool}
    (hmakes : Makes session calls made through) (hdistinct : ∀ call ∈ calls, call.Distinct)
    {items : List Drawn}
    (hmeant : List.Forall₂ Meant items ((callsMade made).filterMap SessionCall.message?))
    (hshows : ∀ item ∈ items, item.Shows called) :
    ∃ showings : List Showing, showings.filterMap Showing.drawn <+: items.filter Drawn.isFrame ∧
      (∀ showing ∈ showings, showing.Made called) ∧
      List.Forall₂ (fun step showing => Showing.Of step.call showing) (takenFrom made)
        showings := by
  induction hmakes generalizing items with
  | done =>
      cases hmeant
      exact ⟨[], List.prefix_rfl, List.forall_mem_nil _, .nil⟩
  | stopped =>
      rw [takenFrom_stopped]
      exact ⟨[], List.nil_prefix, List.forall_mem_nil _, .nil⟩
  | @next session call calls made through hreturns hlater ih =>
      obtain ⟨hcall, hcalls⟩ := List.forall_mem_cons.mp hdistinct
      replace ih := @ih (hsound.run hcall) hcalls
      rw [takenFrom_through]
      -- Without a FRAME the call shows nothing.
      have hnothing : ∀ {items : List Drawn}, Showing.Of call {} →
          List.Forall₂ Meant items ((callsMade made).filterMap SessionCall.message?) →
          (∀ item ∈ items, item.Shows called) →
          ∃ showings : List Showing,
            showings.filterMap Showing.drawn <+: items.filter Drawn.isFrame ∧
            (∀ showing ∈ showings, showing.Made called) ∧
            List.Forall₂ (fun step showing => Showing.Of step.call showing)
              (if (call.step session).frame.isSome then call.step session :: takenFrom made
                else takenFrom made) showings := by
        intro items hnone hrest hitems
        obtain ⟨showings, hfirst, hmade, hshowings⟩ := ih hrest hitems
        cases (call.step session).frame with
        | some frame =>
            exact ⟨{} :: showings, hfirst, List.forall_mem_cons.mpr ⟨rfl, hmade⟩,
              .cons hnone hshowings⟩
        | none => exact ⟨showings, hfirst, hmade, hshowings⟩
      cases call with
      | timeout now => exact hnothing ⟨rfl, rfl⟩ hmeant hshows
      | disconnect => exact hnothing ⟨rfl, rfl⟩ hmeant hshows
      | process message now =>
          obtain ⟨item, items, hitem, hrest, rfl⟩ := List.forall₂_cons_right_iff.mp hmeant
          obtain ⟨hshown, hitems⟩ := List.forall_mem_cons.mp hshows
          by_cases htype : message.type = .frame
          case neg =>
            rw [List.filter_cons_of_neg (by simp [Meant.isFrame hitem, htype])]
            exact hnothing ⟨if_neg htype, by simp [pressedBy, htype, Showing.pressed]⟩ hrest hitems
          case pos =>
            obtain ⟨touches, hmade, hof⟩ := meant_frame hitem hshown htype
            obtain ⟨showings, hfirst, hall, hshowings⟩ := ih hrest hitems
            rw [List.filter_cons_of_pos (by simp [Meant.isFrame hitem, htype])]
            cases hframe : ((SessionCall.process message now).step session).frame with
            | none => exact absurd (throws_of_quiet hsound hcall htype hframe) hreturns
            | some frame =>
                exact ⟨{ drawn := some item, touches } :: showings,
                  (List.prefix_cons_inj item).mpr hfirst, List.forall_mem_cons.mpr ⟨hmade, hall⟩,
                  .cons (hof now) hshowings⟩

theorem released_showing {called : List (List MTTouch)} {session : TouchSession}
    {release : List Made} {through : Bool}
    (hrelease : Makes session [.disconnect] release through) :
    ∃ showings : List Showing, showings.filterMap Showing.drawn = [] ∧
      (∀ showing ∈ showings, showing.Made called) ∧
      List.Forall₂ (fun step showing => Showing.Of step.call showing) (takenFrom release)
        showings := by
  cases hrelease with
  | stopped =>
      rw [takenFrom_stopped]
      exact ⟨[], rfl, List.forall_mem_nil _, .nil⟩
  | next hreturns hlater =>
      cases hlater
      rw [takenFrom_through]
      cases (SessionCall.disconnect.step session).frame with
      | none => exact ⟨[], rfl, List.forall_mem_nil _, .nil⟩
      | some frame =>
          exact ⟨[{}], rfl, List.forall_mem_singleton.mpr rfl, .cons ⟨rfl, rfl⟩ .nil⟩

/-! ## All of it -/

/-- The octets came over one of the agent's connections, and what they led to is what the
first FRAMEs sent there show, one after the other. -/
def Tells (final : Wired) (called : List (List MTTouch)) (outcomes : Outcomes)
    (showings : List Showing) : Prop :=
  ∃ (index : Nat) (wire : Bytes) (sent : List Drawn), final.wires[index]? = some wire ∧
    outcomes.octets <+: wire ∧
    final.system.connections[index]? = some (sent.map Drawn.encoded) ∧
    showings.filterMap Showing.drawn <+: sent.filter Drawn.isFrame ∧
    ∀ showing ∈ showings, showing.Made called

theorem onPad_received (captured : List (List MTTouch)) :
    onPad (captured.map fun touches => touches.map receivedContact) = onTrackpad captured := by
  funext index identifier
  simp [onPad, onTrackpad, Option.bind_map, fingerIn_received]

theorem conversation_tells {threshold : Binary32} {actions : List WiredAction} {final : Wired}
    (hrun : runFrom Wired.step (Wired.initial threshold) actions = some final)
    (hcapturable : AllCapturable (actions.flatMap WiredAction.calledWith))
    {conversation : Conversation} {before : Outcomes} {made release : List Made}
    (h : conversation.Consists before made release) {index : Nat}
    {wire : Bytes} (hwire : final.wires[index]? = some wire)
    (harrived : conversation.outcomes.octets <+: wire) :
    ∃ showings : List Showing,
      Tells final (actions.flatMap WiredAction.calledWith) conversation.outcomes showings ∧
      List.Forall₂ (fun step showing => Showing.Of step.call showing) conversation.taken
        showings := by
  obtain ⟨-, -, hwires⟩ := Wired.run_sound hrun
  obtain ⟨messages, hmessages, -⟩ := forall₂_at hwires.torn.flip hwire
  obtain ⟨sent, count, rest, decoded, rfl, -, hshown, -, -, hparse, hmeant⟩ :=
    arrived hrun hcapturable hmessages hwire harrived
  have hprocessed := h.messages
  rw [hparse] at hprocessed
  have hcut := List.forall₂_take ((callsMade made).filterMap SessionCall.message?).length hmeant
  rw [← List.prefix_iff_eq_take.mp hprocessed] at hcut
  have htaken : (sent.take count).take
      ((callsMade made).filterMap SessionCall.message?).length <+: sent :=
    (List.take_prefix _ _).trans (List.take_prefix _ _)
  obtain ⟨through, hmakes⟩ := h.makes
  obtain ⟨showings, hfirst, hmade, hshowings⟩ := taken_showing TouchSession.sound_initial hmakes
    (fun call hcall => (callsFor_decoded [] before call hcall).distinct) hcut
    fun item hitem => hshown item (htaken.subset hitem)
  obtain ⟨released, hnone, hempty, hreleased⟩ : ∃ released : List Showing,
      released.filterMap Showing.drawn = [] ∧
      (∀ showing ∈ released, showing.Made (actions.flatMap WiredAction.calledWith)) ∧
      List.Forall₂ (fun step showing => Showing.Of step.call showing) (takenFrom release)
        released := by
    rcases h.ends with rfl | ⟨last, hrelease⟩
    · exact ⟨[], rfl, List.forall_mem_nil _, .nil⟩
    · exact released_showing hrelease
  refine ⟨showings ++ released, ⟨index, wire, sent, hwire, harrived, hmessages, ?_,
    List.forall_mem_append.mpr ⟨hmade, hempty⟩⟩, ?_⟩
  · rw [List.filterMap_append, hnone, List.append_nil]
    exact hfirst.trans (htaken.filter _)
  · rw [Conversation.taken, h.made_eq, takenFrom_append]
    exact List.rel_append hshowings hreleased

/-- In every interleaving of the agent, whose touches have distinct identifiers and finite
numbers, with sends that break off anywhere, clients that come and go, calls that throw, and
requests and reports that are refused: where all that the receiver hears came over
connections of the agent, each report that was taken stands for a FRAME that was sent and has
its button, or releases what was down, and a host that reads all Finger collections of these
reports sees one stroke for each stroke of a finger on the trackpad over these FRAMEs, with
its samples, and no other.  A host that reads as many as Contact Count says sees the same
exactly where the active entries of each report are among these. -/
theorem trackpad_strokes_reach_host {threshold : Binary32} {actions : List WiredAction}
    {final : Wired} (hrun : runFrom Wired.step (Wired.initial threshold) actions = some final)
    (hcapturable : AllCapturable (actions.flatMap WiredAction.calledWith))
    (services : Nat → Services) (context : DeviceContext) (events : List ProcessEvent)
    (hclients : ∀ outcomes ∈ Process.heard (submitRequest services)
      { submissions := { driver := { context } } } events [], ∃ (index : Nat) (wire : Bytes),
        final.wires[index]? = some wire ∧ outcomes.octets <+: wire) :
    let process : Process DriverLog := { submissions := { driver := { context } } }
    let reports := (process.run (submitRequest services) events).submissions.driver.taken
    ∃ parts : List (List Showing),
      List.Forall₂ (Tells final (actions.flatMap WiredAction.calledWith))
        (Process.heard (submitRequest services) process events []).reverse parts ∧
      reports.map PtpReport.button =
        parts.flatten.map (fun showing => if showing.pressed then 1 else 0) ∧
      (∀ first last, ∃ correspond :
          { identifier //
            (onTrackpad (parts.flatten.map Showing.touches)).Stroke first last identifier } ≃
          { contactId // (onHost allCollections reports).Stroke first last contactId },
        ∀ finger index, first ≤ index → index ≤ last →
          onHost allCollections reports index (correspond finger).val =
            onTrackpad (parts.flatten.map Showing.touches) index finger.val) ∧
      (onHost countedCollections reports = onHost allCollections reports ↔
        ∀ report ∈ reports, report.WithinCount) := by
  intro process reports
  obtain ⟨conversations, hrecounted, hbuttons, hnumbered, GoesAs, hrenamed⟩ :=
    process_renamed services context events
  have hheard := hrecounted.outcomes
  have hmade : ∀ conversation ∈ conversations.reverse, ∃ showings : List Showing,
      Tells final (actions.flatMap WiredAction.calledWith) conversation.outcomes showings ∧
      List.Forall₂ (fun step showing => Showing.Of step.call showing) conversation.taken
        showings := by
    intro conversation hconversation
    have hmem := List.mem_reverse.mp hconversation
    obtain ⟨index, wire, hwire, harrived⟩ :=
      hclients conversation.outcomes (hheard ▸ List.mem_map_of_mem hmem)
    obtain ⟨before, made, release, hconsists⟩ := hrecounted.told.consists hmem
    exact conversation_tells hrun hcapturable hconsists hwire harrived
  obtain ⟨parts, hparts⟩ := exists_forall₂ hmade
  have htaken : List.Forall₂ (fun step showing => Showing.Of step.call showing)
      (takenIn conversations) parts.flatten := by
    rw [takenIn, List.flatMap_def]
    exact List.rel_flatten (List.forall₂_map_left_iff.mpr (hparts.imp fun _ _ h => h.2))
  have hshown : shownIn conversations =
      (parts.flatten.map Showing.touches).map fun touches => touches.map receivedContact := by
    rw [← List.forall₂_eq_eq_eq, shownIn, List.map_map, List.forall₂_map_left_iff,
      List.forall₂_map_right_iff]
    exact htaken.imp fun _ _ h => h.shown
  have hpressed : pressedIn conversations = parts.flatten.map Showing.pressed := by
    rw [← List.forall₂_eq_eq_eq, pressedIn, List.forall₂_map_left_iff,
      List.forall₂_map_right_iff]
    exact htaken.imp fun _ _ h => h.pressed
  refine ⟨parts, ?_, ?_, ?_, onHost_counted_iff hnumbered⟩
  · rw [← hheard, ← List.map_reverse, List.forall₂_map_left_iff]
    exact hparts.imp fun _ _ h => h.1
  · rw [hbuttons, hpressed, List.map_map]
    rfl
  · rw [hshown, onPad_received] at hrenamed
    exact hrenamed.strokes

/-! ## One finger -/

def oneTouch : MTTouch where
  identifier := 7
  state := 4
  x := 0x3f000000
  y := 0x3e800000

def oneFinger : List WiredAction :=
  List.replicate 5 (.threads (.sender true 0)) ++
    [.send [.sent 36] 0, .threads (.sender true 0), .send [.sent 36] 0] ++
    List.replicate 3 (.threads (.sender true 0)) ++
    (Action.call 0 (.contact (some [oneTouch]) 0) :: List.replicate 2 (.callback 0) ++
      passMutex 0).map .threads ++
    List.replicate 3 (.threads (.sender true 0)) ++ [.send [.sent 20, .sent 60] 0]

def oneFingerWire : Bytes :=
  ((runFrom Wired.step (Wired.initial 0) oneFinger).map fun final => final.wires.flatten).getD []

/-- These octets in two segments, and the end of the connection: the host sees the finger in
the second of three reports, and this is a stroke on the trackpad. -/
theorem trackpad_strokes_reach_host_one_finger :
    ∃ (parts : List (List Showing)) (identifier : UInt32), parts.flatten.length = 3 ∧
      (onTrackpad (parts.flatten.map Showing.touches)).Stroke 1 1 identifier ∧
      onTrackpad (parts.flatten.map Showing.touches) 1 identifier =
        some { x := 16384, y := 24575, confidence := true } := by
  let services : Nat → Services := fun _ =>
    { retrieveInputBuffer := fun _ _ => 0
      retrieveOutputBuffer := fun _ _ => 0
      vhfReadReportSubmit := fun _ => 0 }
  let outcomes : Outcomes :=
    [(.received (oneFingerWire.take 100), 0), (.received (oneFingerWire.drop 100), 0), (.closed, 0)]
  let events : List ProcessEvent :=
    .accepted :: outcomes.map fun outcome => .received outcome.1 outcome.2
  let reports := (({ submissions := { driver := { context := {} } } } : Process DriverLog).run
    (submitRequest services) events).submissions.driver.taken
  have hlast : (runFrom Wired.step (Wired.initial 0) oneFinger).map (fun final =>
      final.wires) = some [oneFingerWire] := by
    decide +kernel
  obtain ⟨final, hrun, hwires⟩ := Option.map_eq_some_iff.mp hlast
  have hcapturable : AllCapturable (oneFinger.flatMap WiredAction.calledWith) := by
    intro touches htouches _
    have hone : touches = [oneTouch] := List.mem_singleton.mp htouches
    rw [hone]
    decide
  have hheard : Process.heard (submitRequest services)
      { submissions := { driver := { context := {} } } } events [] = [outcomes] := by
    decide +kernel
  let seen := onHost allCollections reports
  have hvalues : (reports.length, seen 0 0, seen 1 0, seen 2 0) =
      (3, none, some { x := 16384, y := 24575, confidence := true }, none) := by
    decide +kernel
  simp only [Prod.mk.injEq] at hvalues
  obtain ⟨hlength, hbefore, hdown, hafter⟩ := hvalues
  obtain ⟨parts, -, hbuttons, hstrokes, -⟩ :=
    trackpad_strokes_reach_host hrun hcapturable services {} events <| by
      rw [hheard]
      refine List.forall_mem_singleton.mpr ⟨0, oneFingerWire, ?_, ?_⟩
      · rw [hwires]
        rfl
      · simp [outcomes, Outcomes.octets, RecvOutcome.octets]
  obtain ⟨correspond, hsame⟩ := hstrokes 1 1
  have hstroke : seen.Stroke 1 1 0 := by
    refine Timeline.stroke_single hdown (fun index hindex => ?_) hafter
    obtain rfl : index = 0 := by omega
    exact hbefore
  have hshown : parts.flatten.length = 3 := by
    have hcount := congrArg List.length hbuttons
    rw [List.length_map, List.length_map] at hcount
    exact hcount.symm.trans hlength
  have hfinger := hsame (correspond.symm ⟨0, hstroke⟩) 1 le_rfl le_rfl
  rw [Equiv.apply_symm_apply] at hfinger
  exact ⟨parts, _, hshown, (correspond.symm ⟨0, hstroke⟩).property, hfinger.symm.trans hdown⟩

end Touchpad.Link
