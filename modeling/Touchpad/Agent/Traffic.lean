import Touchpad.Agent.Stream
import Touchpad.Foundation.Lanes

/-!
# What is sent, over any interleaving

Callbacks may number, queue and drop frames at any time, also while the sender greets
the next receiver.  Whatever the order of the steps, each connection carries its
greeting and then FRAMEs, the FRAMEs of all connections leave in the order in which
they were numbered, and nothing is sent twice.
-/

namespace Touchpad.Agent

open Touchpad.Foundation
open Touchpad.Protocol

structure Drawn where
  type : TPMessageType
  frame : TPFrame

namespace Drawn

def encoded (drawn : Drawn) : WireMessage :=
  (tpEncodeMessage drawn.type drawn.frame tpMaxMessageSize).2

def isFrame (drawn : Drawn) : Bool := drawn.type = tpMessageFrame

end Drawn

def drawnControl (agent : AgentState) (type : TPMessageType) (now : UInt64) : Drawn :=
  ⟨type, { sequence := agent.sequence + 1, captureTimeUs := now }⟩

def drawnFrame (agent : AgentState) (frame : TPFrame) (now : UInt64) : Drawn :=
  ⟨tpMessageFrame, { frame with sequence := agent.sequence + 1, captureTimeUs := now }⟩

def controlBy (agent : AgentState) (now : UInt64) : SenderPc → List Drawn
  | .drawingHello => [drawnControl agent tpMessageHello now]
  | .drawingReset => [drawnControl agent tpMessageReset now]
  | _ => []

def frameBy (agent : AgentState) (now : UInt64) : SectionPc → List Drawn
  | .drawing frame => [drawnFrame agent frame now]
  | _ => []

def drawnBy (system : System) : Action → List Drawn
  | .frameSection now =>
      match system.frameSection with
      | some pc => frameBy system.agent now pc
      | none => []
  | .sender _ now => controlBy system.agent now system.sender
  | _ => []

/-! ## From the numbering to a connection -/

/-- What was sent on each connection, the newest first, what the sender has in hand and
what is queued. -/
structure Route where
  sent : List (List Drawn) := []
  held : List Drawn := []
  queued : List Drawn := []

def pushing : Option SectionPc → List Drawn
  | some (.pushing frame) => [⟨tpMessageFrame, frame⟩]
  | _ => []

def Route.line (route : Route) (frameSection : Option SectionPc) : List Drawn :=
  route.sent.reverse.flatten ++ route.held ++ (route.queued ++ pushing frameSection)

def greeting (count : Nat) : List TPMessageType :=
  tpMessageHello :: tpMessageReset :: List.replicate count tpMessageFrame

/-- HELLO, RESET and then FRAMEs, as far as they were sent. -/
def Greets (types : List TPMessageType) : Prop := ∃ count, types <+: greeting count

def Route.Carries (route : Route) (types : List TPMessageType) : Prop :=
  ∃ newest earlier, route.sent = newest :: earlier ∧ newest.map Drawn.type = types

def Route.InHand (route : Route) (types : List TPMessageType) (type : TPMessageType) : Prop :=
  route.Carries types ∧ ∃ item, route.held = [item] ∧ item.type = type

def Route.Stage (route : Route) : SenderPc → Prop
  | .countingReconnect | .clearingQueue | .drawingHello => route.Carries []
  | .sendingHello _ => route.InHand [] tpMessageHello
  | .drawingReset => route.Carries [tpMessageHello]
  | .sendingReset _ => route.InHand [tpMessageHello] tpMessageReset
  | .clearingRequest | .clearingLatest | .settingConnected | .testingLoop | .testingRequest
  | .popping | .countingSent => ∃ count, route.Carries (greeting count)
  | .sending _ => ∃ count, route.InHand (greeting count) tpMessageFrame
  | .testingRunning | .connecting | .abandoning | .droppingConnected | .clearingAfter
  | .closing | .exited => True

/-- The counters, up to a step that the sender has yet to take. -/
structure Tallied (agent : AgentState) (sender : SenderPc) (sent : List (List Drawn)) :
    Prop where
  reconnects : agent.reconnects + (if sender = .countingReconnect then 1 else 0) =
    UInt64.ofNat sent.length
  sent : agent.sent + (if sender = .countingSent then 1 else 0) =
    UInt64.ofNat (sent.flatten.countP Drawn.isFrame)

structure NumberedFrom (sequence : UInt32) (drawn : List Drawn) : Prop where
  next : sequence = UInt32.ofNat drawn.length
  numbers : Follows (fun index => UInt32.ofNat (index + 1))
    (drawn.map fun item => item.frame.sequence)

theorem NumberedFrom.snoc {sequence : UInt32} {drawn : List Drawn}
    (h : NumberedFrom sequence drawn) (item : Drawn) (hitem : item.frame.sequence = sequence + 1) :
    NumberedFrom (sequence + 1) (drawn ++ [item]) where
  next := by
    rw [h.next, List.length_append, List.length_singleton, UInt32.ofNat_add]
    rfl
  numbers := by
    have hsnoc := h.numbers.snoc
    rw [List.length_map, UInt32.ofNat_add, ← h.next] at hsnoc
    rw [List.map_append, List.map_singleton, hitem]
    exact hsnoc

structure Accounts (agent : AgentState) (frameSection : Option SectionPc)
    (connections : List (List WireMessage)) (sender : SenderPc) (route : Route)
    (drawn : List Drawn) : Prop where
  queue : agent.queue.Valid
  connections : connections = route.sent.map fun messages => messages.map Drawn.encoded
  held : sender.inFlight = route.held.map Drawn.encoded
  queued : agent.queue.contents = route.queued.map Drawn.encoded
  frames : ∀ item ∈ route.queued ++ pushing frameSection, item.isFrame = true
  lanes : InLanes Drawn.isFrame drawn (route.line frameSection)
  greeted : ∀ messages ∈ route.sent, Greets (messages.map Drawn.type)
  stage : route.Stage sender
  tallied : Tallied agent sender route.sent
  numbered : NumberedFrom agent.sequence drawn

theorem accounts_initial (threshold : Binary32) :
    Accounts { pressureThreshold := threshold } none [] .testingRunning {} [] where
  queue := MessageQueue.valid_initial
  connections := rfl
  held := rfl
  queued := rfl
  frames := nofun
  lanes := .nil
  greeted := nofun
  stage := trivial
  tallied := ⟨rfl, rfl⟩
  numbered := ⟨rfl, Follows.nil⟩

/-! ## Steps of the sender -/

section Sender

variable {agent next : AgentState} {frameSection : Option SectionPc}
  {connections : List (List WireMessage)} {sender after : SenderPc} {route : Route}
  {drawn : List Drawn}

theorem Accounts.held_eq_nil
    (h : Accounts agent frameSection connections sender route drawn)
    (hflight : sender.inFlight = []) : route.held = [] :=
  List.map_eq_nil_iff.mp (h.held.symm.trans hflight)

theorem Accounts.move (h : Accounts agent frameSection connections sender route drawn)
    {held queued : List Drawn} (hheld : held.Sublist route.held)
    (hqueued : queued.Sublist route.queued) (hvalid : next.queue.Valid)
    (hsequence : next.sequence = agent.sequence)
    (hflight : after.inFlight = held.map Drawn.encoded)
    (hcontents : next.queue.contents = queued.map Drawn.encoded)
    (hstage : Route.Stage { route with held, queued } after)
    (htallied : Tallied next after route.sent) :
    Accounts next frameSection connections after { route with held, queued } drawn where
  queue := hvalid
  connections := h.connections
  held := hflight
  queued := hcontents
  frames := by
    intro item hitem
    exact h.frames item ((hqueued.append_right _).subset hitem)
  lanes := h.lanes.lose (((List.Sublist.refl _).append hheld).append (hqueued.append_right _))
  greeted := h.greeted
  stage := hstage
  tallied := htallied
  numbered := hsequence ▸ h.numbered

theorem Accounts.go (h : Accounts agent frameSection connections sender route drawn)
    (hqueue : next.queue = agent.queue) (hsequence : next.sequence = agent.sequence)
    (hflight : after.inFlight = sender.inFlight) (hstage : route.Stage after)
    (htallied : Tallied next after route.sent) :
    Accounts next frameSection connections after route drawn :=
  h.move (.refl _) (.refl _) (hqueue ▸ h.queue) hsequence (hflight.trans h.held)
    (hqueue ▸ h.queued) hstage htallied

theorem Accounts.abandon (h : Accounts agent frameSection connections sender route drawn)
    (hflight : after.inFlight = []) (hstage : ∀ route : Route, route.Stage after)
    (htallied : Tallied agent after route.sent) :
    Accounts agent frameSection connections after { route with held := [] } drawn :=
  h.move (List.nil_sublist _) (.refl _) h.queue rfl hflight h.queued (hstage _) htallied

theorem Accounts.clear (h : Accounts agent frameSection connections sender route drawn)
    (hflight : after.inFlight = sender.inFlight)
    (hstage : Route.Stage { route with queued := [] } after)
    (htallied : Tallied agent after route.sent) :
    Accounts { agent with queue := queueClear agent.queue } frameSection connections after
      { route with queued := [] } drawn :=
  h.move (.refl _) (List.nil_sublist _) (MessageQueue.valid_clear _) rfl (hflight.trans h.held)
    rfl hstage ⟨htallied.reconnects, htallied.sent⟩

theorem greets_greeting (count : Nat) : Greets (greeting count) := ⟨count, List.prefix_rfl⟩

theorem Route.Carries.extend {types : List TPMessageType} (h : route.Carries types)
    (item : Drawn) :
    ∃ sent, ({ route with sent, held := [] } : Route).Carries (types ++ [item.type]) ∧
      (∀ messages ∈ sent, messages ∈ route.sent ∨
        messages.map Drawn.type = types ++ [item.type]) ∧
      (deliver item.encoded (route.sent.map fun messages => messages.map Drawn.encoded) =
        sent.map fun messages => messages.map Drawn.encoded) ∧
      sent.length = route.sent.length ∧
      sent.reverse.flatten = route.sent.reverse.flatten ++ [item] ∧
      sent.flatten.countP Drawn.isFrame =
        route.sent.flatten.countP Drawn.isFrame + if item.isFrame then 1 else 0 := by
  obtain ⟨newest, earlier, hsent, rfl⟩ := h
  rw [hsent]
  refine ⟨(newest ++ [item]) :: earlier, ⟨_, _, rfl, ?_⟩, ?_, ?_, rfl, ?_, ?_⟩
  · rw [List.map_append, List.map_singleton]
  · intro messages hmem
    rcases List.mem_cons.mp hmem with rfl | hmem
    · right
      rw [List.map_append, List.map_singleton]
    · exact .inl (List.mem_cons_of_mem _ hmem)
  · simp [deliver]
  · simp
  · simp only [List.flatten_cons, List.countP_append, List.countP_singleton]
    omega

theorem Accounts.deliver (h : Accounts agent frameSection connections sender route drawn)
    {types : List TPMessageType} {type : TPMessageType} (hhand : route.InHand types type)
    (hgreets : Greets (types ++ [type])) {message : WireMessage}
    (hmessage : sender.inFlight = [message]) (hflight : after.inFlight = [])
    (hstage : ∀ route : Route, route.Carries (types ++ [type]) → route.Stage after)
    (hreconnects : agent.reconnects + (if after = .countingReconnect then 1 else 0) =
      UInt64.ofNat route.sent.length)
    (hsent : agent.sent + (if after = .countingSent then 1 else 0) =
      UInt64.ofNat (route.sent.flatten.countP Drawn.isFrame +
        if type = tpMessageFrame then 1 else 0)) :
    ∃ route, Accounts agent frameSection (Agent.deliver message connections) after route
      drawn := by
  obtain ⟨hcarries, item, hheld, rfl⟩ := hhand
  obtain ⟨sent, hcurrent, hmem, hdelivered, hlength, hflatten, hcount⟩ := hcarries.extend item
  have hencoded : message = item.encoded := by
    have hflight := h.held
    rw [hmessage, hheld] at hflight
    exact (List.cons.inj hflight).1
  refine ⟨{ route with sent, held := [] }, h.queue, ?_, hflight, h.queued, h.frames, ?_, ?_,
    hstage _ hcurrent, ⟨?_, ?_⟩, h.numbered⟩
  · rw [hencoded, h.connections]
    exact hdelivered
  · have hlanes := h.lanes
    rw [Route.line, hheld] at hlanes
    rw [Route.line]
    dsimp only
    rw [hflatten, List.append_nil]
    exact hlanes
  · intro messages hmessages
    rcases hmem messages hmessages with hold | hnew
    · exact h.greeted messages hold
    · rw [hnew]
      exact hgreets
  · rw [hreconnects, hlength]
  · rw [hsent, hcount, Drawn.isFrame]
    simp only [decide_eq_true_eq]

theorem Accounts.drawControl (h : Accounts agent frameSection connections sender route drawn)
    (hflight : sender.inFlight = []) {types : List TPMessageType} (hcarries : route.Carries types)
    {type : TPMessageType} (htype : type ≠ tpMessageFrame) (now : UInt64)
    (hafter : after.inFlight = [(Agent.drawControl agent type now).2])
    (hstage : ∀ route : Route, route.InHand types type → route.Stage after)
    (htallied : Tallied agent after route.sent) :
    ∃ route, Accounts (Agent.drawControl agent type now).1 frameSection connections after route
      (drawn ++ [drawnControl agent type now]) := by
  let item := drawnControl agent type now
  have hcontrol : item.isFrame = false := decide_eq_false htype
  have hheld := h.held_eq_nil hflight
  refine ⟨{ route with held := [item] }, h.queue, h.connections, hafter, h.queued, h.frames, ?_,
    h.greeted, hstage _ ⟨hcarries, item, rfl, rfl⟩, ⟨htallied.reconnects, htallied.sent⟩, ?_⟩
  · have hlanes := h.lanes
    rw [Route.line, hheld, List.append_nil] at hlanes
    have hinsert := hlanes.insert item fun other hother => by
      rw [h.frames other hother, hcontrol]
      decide
    rw [Route.line, List.append_assoc, List.singleton_append]
    exact hinsert
  · exact h.numbered.snoc item rfl

theorem Accounts.connect (h : Accounts agent frameSection connections .connecting route drawn) :
    Accounts agent frameSection ([] :: connections) .countingReconnect
      { route with sent := [] :: route.sent } drawn where
  queue := h.queue
  connections := by
    rw [h.connections]
    rfl
  held := h.held
  queued := h.queued
  frames := h.frames
  lanes := by
    have hlanes := h.lanes
    rw [Route.line] at hlanes ⊢
    simpa using hlanes
  greeted := by
    intro messages hmem
    rcases List.mem_cons.mp hmem with rfl | hmem
    · exact ⟨0, List.nil_prefix⟩
    · exact h.greeted messages hmem
  stage := ⟨[], route.sent, rfl, rfl⟩
  tallied := by
    refine ⟨?_, h.tallied.sent⟩
    rw [List.length_cons, UInt64.ofNat_add, ← h.tallied.reconnects]
    exact congrArg (· + 1) (UInt64.add_zero _).symm
  numbered := h.numbered

theorem Accounts.pop (h : Accounts agent frameSection connections .popping route drawn)
    {message : WireMessage} {queue : MessageQueue}
    (hpop : queuePop agent.queue = some (message, queue)) :
    ∃ route, Accounts { agent with queue } frameSection connections (.sending message) route
      drawn := by
  obtain ⟨hvalid, hcontents⟩ := MessageQueue.queuePop_eq_some h.queue hpop
  obtain ⟨count, hcarries⟩ := h.stage
  have hqueued := h.queued
  rw [hcontents] at hqueued
  obtain ⟨item, rest, hroute, rfl, hrest⟩ := List.map_eq_cons_iff.mp hqueued.symm
  have hframes := h.frames
  have hlanes := h.lanes
  rw [hroute] at hframes
  rw [Route.line, hroute, h.held_eq_nil rfl, List.append_nil] at hlanes
  have hitem : item.type = tpMessageFrame := of_decide_eq_true (hframes item List.mem_cons_self)
  refine ⟨{ route with held := [item], queued := rest }, hvalid, h.connections, rfl, hrest.symm,
    fun other hother => hframes other (List.mem_cons_of_mem _ hother), ?_, h.greeted,
    ⟨count, hcarries, item, rfl, hitem⟩, ⟨h.tallied.reconnects, h.tallied.sent⟩, h.numbered⟩
  rw [Route.line, List.append_assoc]
  exact hlanes

theorem Accounts.delivered {message : WireMessage}
    (h : Accounts agent frameSection connections sender route drawn)
    (hdelivers : SenderPc.Delivers message sender after) :
    ∃ route, Accounts agent frameSection (Agent.deliver message connections) after route
      drawn := by
  have hstage := h.stage
  have hreconnects := h.tallied.reconnects
  have hsent := h.tallied.sent
  cases hdelivers with
  | hello =>
      exact h.deliver hstage ⟨0, by decide⟩ rfl rfl (fun _ hcarries => hcarries) hreconnects hsent
  | reset =>
      exact h.deliver hstage ⟨0, by decide⟩ rfl rfl (fun _ hcarries => ⟨0, hcarries⟩) hreconnects
        hsent
  | frame =>
      obtain ⟨count, hhand⟩ := hstage
      have hgrown : greeting count ++ [tpMessageFrame] = greeting (count + 1) := by
        rw [greeting, greeting, List.replicate_succ']
        rfl
      refine h.deliver hhand (hgrown ▸ greets_greeting _) rfl rfl
        (fun _ hcarries => ⟨count + 1, hgrown ▸ hcarries⟩) hreconnects ?_
      rw [if_pos rfl, if_pos rfl, UInt64.ofNat_add, ← hsent]
      exact congrArg (· + 1) (UInt64.add_zero _).symm

theorem Accounts.onward {mutexFree : Bool}
    (h : Accounts agent frameSection connections sender route drawn)
    (hadvances : Advances agent mutexFree sender next after) :
    Accounts next frameSection connections after route drawn := by
  have hstage := h.stage
  have hreconnects := h.tallied.reconnects
  have hsent := h.tallied.sent
  cases hadvances with
  | reconnect => exact h.go rfl rfl rfl hstage ⟨(UInt64.add_zero _).trans hreconnects, hsent⟩
  | sent => exact h.go rfl rfl rfl hstage ⟨hreconnects, (UInt64.add_zero _).trans hsent⟩
  | request | latest | online | running | unrequested =>
      exact h.go rfl rfl rfl hstage ⟨hreconnects, hsent⟩
  | offline => exact h.go rfl rfl rfl trivial ⟨hreconnects, hsent⟩

theorem senderStep_accounts (h : Accounts agent frameSection connections sender route drawn)
    {mutexFree succeeds : Bool} {now : UInt64} {sent : Sent}
    (hstep : senderStep agent mutexFree connections succeeds now sender = some sent) :
    ∃ route, Accounts sent.agent frameSection sent.connections sent.sender route
      (drawn ++ controlBy agent now sender) := by
  have hstage := h.stage
  have hreconnects := h.tallied.reconnects
  have hsent := h.tallied.sent
  cases senderStep_cases hstep with
  | connects =>
      simp only [controlBy, List.append_nil]
      exact ⟨_, h.connect⟩
  | clears =>
      simp only [controlBy, List.append_nil]
      exact ⟨_, h.clear rfl hstage ⟨hreconnects, hsent⟩⟩
  | clearsAfter =>
      simp only [controlBy, List.append_nil]
      exact ⟨_, h.clear rfl trivial ⟨hreconnects, hsent⟩⟩
  | draws hdraws =>
      cases hdraws <;>
        exact h.drawControl rfl hstage (by decide) now rfl (fun _ hhand => hhand)
          ⟨hreconnects, hsent⟩
  | delivers hsucceeds hdelivers =>
      have hdelivered := h.delivered hdelivers
      cases hdelivers <;> simpa only [controlBy, List.append_nil] using hdelivered
  | pops message queue hpop =>
      simp only [controlBy, List.append_nil]
      exact h.pop hpop
  | advances hadvances =>
      have honward := h.onward hadvances
      refine ⟨route, ?_⟩
      cases hadvances <;> simpa only [controlBy, List.append_nil] using honward
  | leaves hleaves =>
      refine ⟨{ route with held := [] }, ?_⟩
      cases hleaves <;> simp only [controlBy, List.append_nil] <;>
        exact h.abandon rfl (fun _ => trivial) ⟨hreconnects, hsent⟩

end Sender

/-! ## Steps of the callbacks -/

section Callbacks

variable {agent next : AgentState} {frameSection after : Option SectionPc}
  {connections : List (List WireMessage)} {sender : SenderPc} {route : Route}
  {drawn : List Drawn}

theorem Accounts.elsewhere
    (h : Accounts agent frameSection connections sender route drawn)
    (hqueue : next.queue = agent.queue) (hsequence : next.sequence = agent.sequence)
    (hreconnects : next.reconnects = agent.reconnects) (hsent : next.sent = agent.sent)
    (hpushing : (pushing after).Sublist (pushing frameSection)) :
    Accounts next after connections sender route drawn where
  queue := hqueue ▸ h.queue
  connections := h.connections
  held := h.held
  queued := hqueue ▸ h.queued
  frames item hitem := h.frames item ((hpushing.append_left _).subset hitem)
  lanes := h.lanes.lose ((hpushing.append_left _).append_left _)
  greeted := h.greeted
  stage := h.stage
  tallied := ⟨hreconnects ▸ h.tallied.reconnects, hsent ▸ h.tallied.sent⟩
  numbered := hsequence ▸ h.numbered

theorem sectionStep_accounts {pc : SectionPc}
    (h : Accounts agent (some pc) connections sender route drawn) (now : UInt64) :
    ∃ route, Accounts (sectionStep agent now pc).1 (sectionStep agent now pc).2 connections
      sender route (drawn ++ frameBy agent now pc) := by
  cases pc with
  | building pending =>
      simp only [frameBy, List.append_nil]
      refine ⟨route, h.elsewhere (buildFrame_queue agent pending) ?_ ?_ ?_ (.refl _)⟩ <;>
        cases pending <;> rfl
  | drawing frame =>
      let item := drawnFrame agent frame now
      refine ⟨route, h.queue, h.connections, h.held, h.queued, ?_, ?_, h.greeted, h.stage,
        ⟨h.tallied.reconnects, h.tallied.sent⟩, h.numbered.snoc item rfl⟩
      · intro other hother
        rcases List.mem_append.mp hother with hqueued | hpushing
        · exact h.frames other (List.mem_append_left _ hqueued)
        · cases List.mem_singleton.mp hpushing
          rfl
      · have hlanes := h.lanes.produce item
        simp only [Route.line, pushing, List.append_nil, List.append_assoc] at hlanes ⊢
        exact hlanes
  | pushing frame =>
      simp only [frameBy, List.append_nil]
      have hlost (pc : SectionPc) (hpc : Agent.pushing (some pc) = []) :
          Accounts agent (some pc) connections sender route drawn :=
        h.elsewhere rfl rfl rfl rfl (hpc ▸ List.nil_sublist _)
      rw [sectionStep]
      dsimp only
      split
      · exact ⟨route, hlost .droppingConnected rfl⟩
      · rcases MessageQueue.queuePush_cases h.queue
            (tpEncodeMessage tpMessageFrame frame tpMaxMessageSize).2 with
          ⟨-, hrefused⟩ | ⟨-, haccepted, hvalid, hcontents⟩
        · rw [hrefused]
          exact ⟨route, hlost .droppingConnected rfl⟩
        · rw [haccepted, if_pos rfl]
          refine ⟨{ route with queued := route.queued ++ [⟨tpMessageFrame, frame⟩] }, hvalid,
            h.connections, h.held, ?_, ?_, ?_, h.greeted, h.stage,
            ⟨h.tallied.reconnects, h.tallied.sent⟩, h.numbered⟩
          · rw [hcontents, h.queued, List.map_append, List.map_singleton]
            rfl
          · intro item hitem
            exact h.frames item (by simpa [Agent.pushing] using hitem)
          · have hlanes := h.lanes
            simp only [Route.line, Agent.pushing, List.append_nil] at hlanes ⊢
            exact hlanes
  | clearing =>
      simp only [frameBy, List.append_nil]
      have hcleared := h.clear rfl h.stage ⟨h.tallied.reconnects, h.tallied.sent⟩
      exact ⟨_, hcleared.elsewhere rfl rfl rfl rfl (.refl _)⟩
  | droppingConnected | requesting | countingDropped | leaving =>
      simp only [frameBy, List.append_nil]
      exact ⟨route, h.elsewhere rfl rfl rfl rfl (.refl _)⟩

end Callbacks

/-! ## Runs -/

def System.Accounted (system : System) (drawn : List Drawn) : Prop :=
  ∃ route, Accounts system.agent system.frameSection system.connections system.sender route drawn

theorem System.Accounted.step {system next : System} {action : Action} {drawn : List Drawn}
    (h : system.Accounted drawn) (hstep : system.step action = some next) :
    next.Accounted (drawn ++ drawnBy system action) := by
  obtain ⟨route, h⟩ := h
  cases System.step_cases hstep with
  | stop =>
      simp only [drawnBy, List.append_nil]
      exact ⟨route, h.elsewhere rfl rfl rfl rfl (.refl _)⟩
  | call =>
      simp only [drawnBy, List.append_nil]
      exact ⟨route, h⟩
  | enters thread pending hpc hfree =>
      simp only [drawnBy, List.append_nil]
      rw [hfree] at h
      exact ⟨route, h.elsewhere rfl rfl rfl rfl (.refl _)⟩
  | callback thread agent pc hcallback =>
      obtain ⟨⟨captured, dropped, physicalButtonDown, buttonEvents, rfl⟩, -⟩ :=
        callbackStep_cases hcallback
      simp only [drawnBy, List.append_nil]
      exact ⟨route, h.elsewhere rfl rfl rfl rfl (.refl _)⟩
  | frameSection now pc hsection =>
      rw [drawnBy, hsection]
      rw [hsection] at h
      exact sectionStep_accounts h now
  | sender succeeds now sent hsent => exact senderStep_accounts h hsent

theorem accounted_run {threshold : Binary32} {actions : List Action} {final : System}
    (hrun : runFrom System.step (System.initial threshold) actions = some final) :
    final.Accounted (observed System.step drawnBy (System.initial threshold) actions) := by
  have hinitial : (System.initial threshold).Accounted [] := ⟨{}, accounts_initial threshold⟩
  exact runFrom_observed (fun _ _ _ _ h _ hstep => h.step hstep) hinitial
    (along_of_forall (fun _ _ => trivial) (System.initial threshold) actions) hrun

/-- In every interleaving: each connection carries HELLO, RESET and then FRAMEs, as far as
it got.  The FRAMEs of all connections, in the order in which they were sent, are some of
the FRAMEs that were numbered, in the order of their numbers and none of them twice; and so
are HELLO and RESET.  Numbers are given out one by one from one on, and the summary's
counters are those of connections and of FRAMEs sent. -/
theorem messages_sent_once {threshold : Binary32} {actions : List Action} {final : System}
    (hrun : runFrom System.step (System.initial threshold) actions = some final) :
    let drawn := observed System.step drawnBy (System.initial threshold) actions
    ∃ sent : List (List Drawn),
      (final.connections = sent.map fun messages => messages.map Drawn.encoded) ∧
      (∀ messages ∈ sent, Greets (messages.map Drawn.type)) ∧
      InLanes Drawn.isFrame drawn sent.reverse.flatten ∧
      NumberedFrom final.agent.sequence drawn ∧
      Tallied final.agent final.sender sent := by
  intro drawn
  obtain ⟨route, h⟩ := accounted_run hrun
  refine ⟨route.sent, h.connections, h.greeted, h.lanes.lose ?_, h.numbered, h.tallied⟩
  rw [Route.line, List.append_assoc]
  exact List.sublist_append_left _ _

theorem messages_sent_once_late_callback :
    ∃ (final : System) (sent : List (List Drawn)),
      final.connections = sent.map (fun messages => messages.map Drawn.encoded) ∧
        sent.map List.length = [2, 2] ∧
        InLanes Drawn.isFrame
          (observed System.step drawnBy (System.initial 0) lateCallback) sent.reverse.flatten := by
  have hheaders : headersAfter 0 lateCallback =
      some [[some (tpMessageHello, 4), some (tpMessageReset, 6)],
        [some (tpMessageHello, 1), some (tpMessageReset, 2)]] := by
    decide +kernel
  obtain ⟨final, hrun, hconnections⟩ := Option.map_eq_some_iff.mp hheaders
  obtain ⟨sent, hsent, -, hlanes, -⟩ := messages_sent_once hrun
  refine ⟨final, sent, hsent, ?_, hlanes⟩
  have hlengths := congrArg (List.map List.length) hconnections
  rw [hsent] at hlengths
  simpa [Function.comp_def] using hlengths

end Touchpad.Agent
