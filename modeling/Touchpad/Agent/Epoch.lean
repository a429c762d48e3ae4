import Touchpad.Agent.Numbering

/-!
# Gap-free connections

A callback that has seen the agent connected may enter the frame mutex much later,
and a connection can then carry a gap.  `Orderly` collects the four places where
that does harm; in runs without them every connection is gap-free.
-/

namespace Touchpad.Agent

open Touchpad.Foundation
open Touchpad.Protocol

/-! ## Orderly steps -/

def SenderPc.opening : SenderPc → Bool
  | .drawingHello => true
  | .sendingHello _ => true
  | .drawingReset => true
  | _ => false

def progressOf : Option SectionPc → Progress
  | some (.pushing frame) => .drawn frame.sequence
  | some .droppingConnected => .overflowing
  | some .requesting => .overflowing
  | some .clearing => .requested
  | _ => .idle

/-- A callback draws no number while the sender opens an epoch, queues nothing behind
an overflow, and requests no reconnect which the sender is about to clear. -/
def OrderlySection (system : System) : SectionPc → Prop
  | .drawing _ => system.sender.opening = false
  | .pushing _ => ¬ (system.sender = .popping ∧ system.agent.reconnectRequested = true)
  | .requesting =>
      ¬ (system.agent.queue.contents.length = queueCapacity ∧ system.sender.early = true)
  | _ => True

/-- The sender clears the queue for a new epoch only when no callback is about to
queue a frame that is numbered already. -/
def Orderly (system : System) : Action → Prop
  | .frameSection _ =>
      match system.frameSection with
      | none => True
      | some pc => OrderlySection system pc
  | .sender _ _ =>
      system.sender = .clearingQueue → (progressOf system.frameSection).headers = []
  | _ => True

instance decidableOrderlySection (system : System) :
    ∀ pc, Decidable (OrderlySection system pc)
  | .building _ => .isTrue trivial
  | .drawing _ => inferInstanceAs (Decidable (_ = _))
  | .pushing _ => inferInstanceAs (Decidable (¬ _))
  | .droppingConnected => .isTrue trivial
  | .requesting => inferInstanceAs (Decidable (¬ _))
  | .clearing => .isTrue trivial
  | .countingDropped => .isTrue trivial
  | .leaving => .isTrue trivial

instance decidableOrderly (system : System) : ∀ action, Decidable (Orderly system action)
  | .stop => .isTrue trivial
  | .call _ _ => .isTrue trivial
  | .callback _ => .isTrue trivial
  | .frameSection _ =>
      match hpc : system.frameSection with
      | none => .isTrue (by rw [Orderly, hpc]; trivial)
      | some pc => decidable_of_iff (OrderlySection system pc) (by rw [Orderly, hpc])
  | .sender _ _ => inferInstanceAs (Decidable (_ → _))

/-! ## The invariant -/

def supplyOf (agent : AgentState) (frameSection : Option SectionPc) : Supply where
  queued := agent.queue.contents
  sequence := agent.sequence
  reconnectRequested := agent.reconnectRequested
  progress := progressOf frameSection

def Carries (connections : List (List WireMessage)) (inFlight taken : List WireMessage) : Prop :=
  ∃ messages earlier, connections = messages :: earlier ∧ messages ++ inFlight = taken

structure Opening (count : Nat) (supply : Supply) (taken : List WireMessage) : Prop where
  length : taken.length = count
  queued : supply.queued = []
  undrawn : supply.progress.headers = []
  intact : ∃ first, Intact first supply taken

/-- What holds of the newest connection, by the place of the sender. -/
def Line (supply : Supply) (connections : List (List WireMessage)) : SenderPc → Prop
  | .testingRunning => True
  | .connecting => True
  | .countingReconnect => Carries connections [] []
  | .clearingQueue => Carries connections [] []
  | .drawingHello => ∃ taken, Carries connections [] taken ∧ Opening 0 supply taken
  | .sendingHello message => ∃ taken, Carries connections [message] taken ∧ Opening 1 supply taken
  | .drawingReset => ∃ taken, Carries connections [] taken ∧ Opening 1 supply taken
  | .abandoning => True
  | .droppingConnected => True
  | .clearingAfter => True
  | .closing => True
  | .exited => True
  | sender =>
      ∃ taken, Carries connections sender.inFlight taken ∧ 2 ≤ taken.length ∧
        Streaming sender supply taken

def Pending.Sound : Pending → Prop
  | .contact touches _ => touches.length ≤ tpMaxContacts
  | .button => True

def CallbackPc.Sound : CallbackPc → Prop
  | .entering pending => pending.Sound
  | _ => True

def SectionSound : Option SectionPc → Prop
  | some (.building pending) => pending.Sound
  | some (.drawing frame) => Encodable frame
  | some (.pushing frame) => Encodable frame
  | _ => True

structure Flowing (agent : AgentState) (frameSection : Option SectionPc)
    (connections : List (List WireMessage)) (sender : SenderPc) : Prop where
  queue : agent.queue.Valid
  latest : Encodable agent.latestFrame
  line : Line (supplyOf agent frameSection) connections sender
  gapFree : ∀ messages ∈ connections, GapFree messages

structure Sound (system : System) : Prop where
  flowing : Flowing system.agent system.frameSection system.connections system.sender
  frameSection : SectionSound system.frameSection
  callbacks : ∀ thread, (system.callbacks thread).Sound

theorem sound_initial (threshold : Binary32) : Sound (System.initial threshold) where
  flowing := {
    queue := MessageQueue.valid_initial
    latest := encodable_empty
    line := trivial
    gapFree := by
      intro messages hmem
      cases hmem }
  frameSection := trivial
  callbacks := fun _ => trivial

/-! ## Steps of the sender -/

theorem Carries.deliver {connections : List (List WireMessage)} {message : WireMessage}
    {taken : List WireMessage} (h : Carries connections [message] taken) (hgap : GapFree taken)
    (hconnections : ∀ messages ∈ connections, GapFree messages) :
    Carries (deliver message connections) [] taken ∧
      ∀ messages ∈ deliver message connections, GapFree messages := by
  obtain ⟨messages, earlier, rfl, rfl⟩ := h
  refine ⟨⟨_, _, rfl, List.append_nil _⟩, ?_⟩
  intro other hmem
  rcases List.mem_cons.mp hmem with rfl | hmem
  · exact hgap
  · exact hconnections other (List.mem_cons_of_mem _ hmem)

theorem Carries.take {connections : List (List WireMessage)} {taken : List WireMessage}
    (h : Carries connections [] taken) (message : WireMessage) :
    Carries connections [message] (taken ++ [message]) := by
  obtain ⟨messages, earlier, rfl, rfl⟩ := h
  exact ⟨messages, earlier, rfl, by rw [List.append_nil]⟩

theorem Opening.gapFree {count : Nat} {supply : Supply} {taken : List WireMessage}
    (h : Opening count supply taken) : GapFree taken := by
  obtain ⟨first, hintact⟩ := h.intact
  exact hintact.gapFree

theorem encodable_control (sequence : UInt32) (captureTimeUs : UInt64) :
    Encodable { sequence, captureTimeUs } :=
  ⟨encodable_empty.count, encodable_empty.flags⟩

theorem Opening.drawControl {count : Nat} {supply : Supply} {taken : List WireMessage}
    (h : Opening count supply taken) (agent : AgentState)
    (hsequence : supply.sequence = agent.sequence) {type : TPMessageType}
    (htype : KnownType type) (now : UInt64)
    (hepoch : ∀ first, epoch first count = some (type, first + UInt32.ofNat count)) :
    Opening (count + 1) { supply with sequence := supply.sequence + 1 }
      (taken ++ [(drawControl agent type now).2]) := by
  obtain ⟨first, hintact⟩ := h.intact
  have hnext := hintact.next_control h.queued h.undrawn
  have hheader := (tpEncodeMessage_accepted htype (encodable_control (agent.sequence + 1) now)).2
  refine ⟨by simp [h.length], h.queued, h.undrawn, first, ?_⟩
  refine hintact.control h.queued h.undrawn (hheader.trans ?_)
  rw [← hsequence, hnext, h.length, hepoch]

theorem Line.onward {agent next : AgentState} {mutexFree : Bool}
    {frameSection : Option SectionPc} {connections : List (List WireMessage)}
    {sender after : SenderPc} (h : Line (supplyOf agent frameSection) connections sender)
    (hadvances : Advances agent mutexFree sender next after) :
    Line (supplyOf next frameSection) connections after := by
  cases hadvances with
  | reconnect => exact h
  | request =>
      obtain ⟨taken, hcarries, hlength, hstreaming⟩ := h
      exact ⟨taken, hcarries, hlength, hstreaming.clearRequest⟩
  | latest | online | running | sent =>
      obtain ⟨taken, hcarries, hlength, hstreaming⟩ := h
      exact ⟨taken, hcarries, hlength, hstreaming.move rfl fun hnext => by cases hnext⟩
  | unrequested hrequest =>
      obtain ⟨taken, hcarries, hlength, hstreaming⟩ := h
      exact ⟨taken, hcarries, hlength, hstreaming.move rfl fun _ => hrequest⟩
  | offline => trivial

theorem Line.delivered {agent : AgentState} {frameSection : Option SectionPc}
    {connections : List (List WireMessage)} {message : WireMessage} {sender after : SenderPc}
    (h : Line (supplyOf agent frameSection) connections sender)
    (hdelivers : SenderPc.Delivers message sender after) :
    ∃ taken, Carries connections [message] taken ∧ GapFree taken ∧
      ∀ connections, Carries connections [] taken →
        Line (supplyOf agent frameSection) connections after := by
  cases hdelivers with
  | hello =>
      obtain ⟨taken, hcarries, hopening⟩ := h
      exact ⟨taken, hcarries, hopening.gapFree, fun _ hnewest => ⟨taken, hnewest, hopening⟩⟩
  | reset | frame =>
      obtain ⟨taken, hcarries, hlength, hstreaming⟩ := h
      exact ⟨taken, hcarries, hstreaming.gapFree, fun _ hnewest =>
        ⟨taken, hnewest, hlength, hstreaming.move rfl fun hnext => by cases hnext⟩⟩

theorem senderStep_flowing {agent : AgentState} {frameSection : Option SectionPc}
    {connections : List (List WireMessage)} {sender : SenderPc} {mutexFree succeeds : Bool}
    {now : UInt64} {sent : Sent} (h : Flowing agent frameSection connections sender)
    (horderly : sender = .clearingQueue → (progressOf frameSection).headers = [])
    (hstep : senderStep agent mutexFree connections succeeds now sender = some sent) :
    Flowing sent.agent frameSection sent.connections sent.sender := by
  obtain ⟨hqueue, hlatest, hline, hgap⟩ := h
  cases senderStep_cases hstep with
  | connects =>
      refine ⟨hqueue, hlatest, ⟨[], connections, rfl, rfl⟩, ?_⟩
      intro messages hmem
      rcases List.mem_cons.mp hmem with rfl | hmem
      · exact gapFree_nil
      · exact hgap messages hmem
  | clears =>
      exact ⟨MessageQueue.valid_clear agent.queue, hlatest,
        ⟨[], hline, rfl, rfl, horderly rfl, _, intact_nil rfl (horderly rfl)⟩, hgap⟩
  | clearsAfter => exact ⟨MessageQueue.valid_clear agent.queue, hlatest, trivial, hgap⟩
  | draws hdraws =>
      refine ⟨hqueue, hlatest, ?_, hgap⟩
      cases hdraws with
      | hello =>
          obtain ⟨taken, hcarries, hopening⟩ := hline
          exact ⟨_, hcarries.take _, hopening.drawControl agent rfl (.inl rfl) now fun _ => rfl⟩
      | reset =>
          obtain ⟨taken, hcarries, hopening⟩ := hline
          have hnext := hopening.drawControl agent rfl (.inr (.inr rfl)) now fun _ => rfl
          obtain ⟨first, hintact⟩ := hnext.intact
          exact ⟨_, hcarries.take _, hnext.length.ge, .intact first hintact⟩
  | delivers hsucceeds hdelivers =>
      obtain ⟨taken, hcarries, hwhole, hafter⟩ := hline.delivered hdelivers
      obtain ⟨hnewest, hgapFree⟩ := hcarries.deliver hwhole hgap
      exact ⟨hqueue, hlatest, hafter _ hnewest, hgapFree⟩
  | pops message queue hpop =>
      obtain ⟨hvalid, hcontents⟩ := MessageQueue.queuePop_eq_some hqueue hpop
      obtain ⟨taken, hcarries, hlength, hstreaming⟩ := hline
      refine ⟨hvalid, hlatest, ⟨_, hcarries.take message, ?_, hstreaming.pop hcontents⟩, hgap⟩
      rw [List.length_append]
      omega
  | advances hadvances =>
      have hafter := hline.onward hadvances
      cases hadvances with
      | latest => exact ⟨hqueue, encodable_empty, hafter, hgap⟩
      | _ => exact ⟨hqueue, hlatest, hafter, hgap⟩
  | leaves hleaves =>
      refine ⟨hqueue, hlatest, ?_, hgap⟩
      cases hleaves <;> trivial

/-! ## Steps under the frame mutex -/

theorem Line.map {supply next : Supply} {connections : List (List WireMessage)}
    {sender : SenderPc} (h : Line supply connections sender)
    (hopening : sender.opening = true → ∀ count taken,
      Opening count supply taken → Opening count next taken)
    (hstreaming : ∀ taken, 2 ≤ taken.length → Streaming sender supply taken →
      Streaming sender next taken) :
    Line next connections sender := by
  cases sender with
  | drawingHello =>
      obtain ⟨taken, hcarries, hopened⟩ := h
      exact ⟨taken, hcarries, hopening rfl 0 taken hopened⟩
  | sendingHello message =>
      obtain ⟨taken, hcarries, hopened⟩ := h
      exact ⟨taken, hcarries, hopening rfl 1 taken hopened⟩
  | drawingReset =>
      obtain ⟨taken, hcarries, hopened⟩ := h
      exact ⟨taken, hcarries, hopening rfl 1 taken hopened⟩
  | testingRunning | connecting | abandoning | droppingConnected | clearingAfter | closing
  | exited => trivial
  | countingReconnect | clearingQueue => exact h
  | _ =>
      obtain ⟨taken, hcarries, hlength, hstreams⟩ := h
      exact ⟨taken, hcarries, hlength, hstreaming taken hlength hstreams⟩

theorem Opening.quiet {count : Nat} {supply next : Supply} {taken : List WireMessage}
    (h : Opening count supply taken) (hsequence : next.sequence = supply.sequence)
    (hqueued : next.queued = []) (hdrawn : next.progress.headers = []) :
    Opening count next taken := by
  obtain ⟨first, hintact⟩ := h.intact
  refine ⟨h.length, hqueued, hdrawn, first, ?_, ?_, fun _ => hqueued⟩
  · rw [hqueued, hdrawn, ← h.undrawn, ← h.queued]
    exact hintact.numbered
  · rw [hsequence, hqueued, hdrawn, ← h.undrawn, ← h.queued]
    exact hintact.next

theorem buildFrame_sound {agent : AgentState} {pending : Pending}
    (hlatest : Encodable agent.latestFrame) (hpending : pending.Sound) :
    Encodable (buildFrame agent pending).2 := by
  cases pending with
  | contact touches deviceTimeUs => exact encodable_contactFrame hpending _ _
  | button => exact encodable_buttonFrame hlatest _

theorem buildFrame_latest (agent : AgentState) (pending : Pending) :
    (buildFrame agent pending).1.latestFrame = (buildFrame agent pending).2 := by
  cases pending <;> rfl

theorem supplyOf_buildFrame (agent : AgentState) (pending : Pending)
    (frameSection : Option SectionPc) :
    supplyOf (buildFrame agent pending).1 frameSection = supplyOf agent frameSection := by
  cases pending <;> rfl

theorem buildFrame_queue (agent : AgentState) (pending : Pending) :
    (buildFrame agent pending).1.queue = agent.queue := by
  cases pending <;> rfl

theorem draw_line {agent : AgentState} {frame : TPFrame}
    {connections : List (List WireMessage)} {sender : SenderPc}
    (h : Line (supplyOf agent (some (.drawing frame))) connections sender)
    (horderly : sender.opening = false) (now : UInt64) :
    Line (supplyOf (sectionStep agent now (.drawing frame)).1
      (sectionStep agent now (.drawing frame)).2) connections sender := by
  refine h.map ?_ ?_
  · intro hopening
    rw [horderly] at hopening
    cases hopening
  · intro taken hlength hstreaming
    exact hstreaming.draw rfl hlength

theorem push_flowing {agent : AgentState} {frame : TPFrame}
    {connections : List (List WireMessage)} {sender : SenderPc}
    (h : Flowing agent (some (.pushing frame)) connections sender) (hframe : Encodable frame)
    (horderly : ¬ (sender = .popping ∧ agent.reconnectRequested = true)) (now : UInt64) :
    Flowing (sectionStep agent now (.pushing frame)).1
      (sectionStep agent now (.pushing frame)).2 connections sender := by
  obtain ⟨hqueue, hlatest, hline, hgap⟩ := h
  obtain ⟨hlength, hheader⟩ := tpEncodeMessage_accepted (.inr (.inl rfl)) hframe
  have hdrawn : ∀ count taken, ¬ Opening count (supplyOf agent (some (.pushing frame))) taken := by
    intro count taken hopening
    cases hopening.undrawn
  rw [sectionStep]
  dsimp only
  rw [if_neg hlength]
  rcases MessageQueue.queuePush_cases hqueue
      (tpEncodeMessage tpMessageFrame frame tpMaxMessageSize).2 with
    ⟨hfull, hrefused⟩ | ⟨-, haccepted, hvalid, hcontents⟩
  · rw [hrefused]
    refine ⟨hqueue, hlatest, hline.map ?_ ?_, hgap⟩
    · intro _ count taken hopening
      exact absurd hopening (hdrawn count taken)
    · intro taken _ hstreaming
      exact hstreaming.overflow rfl ((MessageQueue.contents_length _).trans hfull)
  · rw [haccepted]
    refine ⟨hvalid, hlatest, hline.map ?_ ?_, hgap⟩
    · intro _ count taken hopening
      exact absurd hopening (hdrawn count taken)
    · intro taken _ hstreaming
      have hpushed := hstreaming.push rfl hheader fun hpopping => by
        simpa [supplyOf] using fun hrequested => horderly ⟨hpopping, hrequested⟩
      simp only [supplyOf, hcontents]
      exact hpushed

theorem sectionStep_flowing {agent : AgentState} {pc : SectionPc}
    {connections : List (List WireMessage)} {sender : SenderPc}
    {callbacks : Nat → CallbackPc} (h : Flowing agent (some pc) connections sender)
    (hsound : SectionSound (some pc))
    (horderly : OrderlySection ⟨agent, sender, some pc, callbacks, connections⟩ pc)
    (now : UInt64) :
    Flowing (sectionStep agent now pc).1 (sectionStep agent now pc).2 connections sender := by
  cases pc with
  | building pending =>
      rw [sectionStep]
      refine ⟨?_, ?_, ?_, h.gapFree⟩
      · rw [buildFrame_queue]
        exact h.queue
      · rw [buildFrame_latest]
        exact buildFrame_sound h.latest hsound
      · rw [supplyOf_buildFrame]
        exact h.line
  | drawing frame => exact ⟨h.queue, h.latest, draw_line h.line horderly now, h.gapFree⟩
  | pushing frame => exact push_flowing h hsound horderly now
  | droppingConnected => exact ⟨h.queue, h.latest, h.line, h.gapFree⟩
  | requesting =>
      refine ⟨h.queue, h.latest, h.line.map ?_ ?_, h.gapFree⟩
      · intro _ count taken hopening
        exact hopening.quiet rfl hopening.queued rfl
      · intro taken _ hstreaming
        exact hstreaming.request rfl horderly
  | clearing =>
      refine ⟨MessageQueue.valid_clear agent.queue, h.latest, h.line.map ?_ ?_, h.gapFree⟩
      · intro _ count taken hopening
        exact hopening.quiet rfl rfl rfl
      · intro taken _ hstreaming
        exact hstreaming.clear rfl
  | countingDropped => exact ⟨h.queue, h.latest, h.line, h.gapFree⟩
  | leaving => exact ⟨h.queue, h.latest, h.line, h.gapFree⟩

theorem sectionStep_sound {agent : AgentState} {pc : SectionPc}
    (hlatest : Encodable agent.latestFrame) (h : SectionSound (some pc)) (now : UInt64) :
    SectionSound (sectionStep agent now pc).2 := by
  cases pc with
  | building pending => exact buildFrame_sound hlatest h
  | drawing frame => exact ⟨h.count, h.flags⟩
  | pushing frame =>
      rw [sectionStep]
      dsimp only
      split
      · trivial
      · dsimp only
        split <;> trivial
  | droppingConnected | requesting | clearing | countingDropped | leaving => trivial

/-! ## Steps of the callbacks outside of the mutex -/

theorem callbackStep_sound {agent next : AgentState} {pc after : CallbackPc}
    (hstep : callbackStep agent pc = some (next, after)) : after.Sound := by
  cases (callbackStep_cases hstep).2 with
  | captured => trivial
  | passed touches deviceTimeUs hfits => exact hfits
  | bare _ _ hbare =>
      cases after with
      | entering pending =>
          cases pending with
          | contact => cases hbare
          | button => trivial
      | _ => trivial

theorem sound_update {callbacks : Nat → CallbackPc} (h : ∀ thread, (callbacks thread).Sound)
    (thread : Nat) {pc : CallbackPc} (hpc : pc.Sound) :
    ∀ other, (Function.update callbacks thread pc other).Sound := by
  intro other
  by_cases hother : other = thread
  · rw [hother, Function.update_self]
    exact hpc
  · rw [Function.update_of_ne hother]
    exact h other

theorem Invocation.start_sound (invocation : Invocation) : invocation.start.Sound := by
  cases invocation <;> trivial

/-! ## Runs -/

theorem step_sound {system next : System} {action : Action} (h : Sound system)
    (horderly : Orderly system action) (hstep : system.step action = some next) :
    Sound next := by
  obtain ⟨hflowing, hsection, hcallbacks⟩ := h
  cases System.step_cases hstep with
  | stop =>
      obtain ⟨hqueue, hlatest, hline, hgap⟩ := hflowing
      exact ⟨⟨hqueue, hlatest, hline, hgap⟩, hsection, hcallbacks⟩
  | call thread invocation =>
      exact ⟨hflowing, hsection, sound_update hcallbacks thread invocation.start_sound⟩
  | enters thread pending hpc hfree =>
      obtain ⟨hqueue, hlatest, hline, hgap⟩ := hflowing
      rw [hfree] at hline
      have hthread := hcallbacks thread
      rw [hpc] at hthread
      exact ⟨⟨hqueue, hlatest, hline, hgap⟩, hthread, sound_update hcallbacks thread trivial⟩
  | callback thread agent pc hcallback =>
      obtain ⟨⟨captured, dropped, physicalButtonDown, buttonEvents, rfl⟩, -⟩ :=
        callbackStep_cases hcallback
      obtain ⟨hqueue, hlatest, hline, hgap⟩ := hflowing
      exact ⟨⟨hqueue, hlatest, hline, hgap⟩, hsection,
        sound_update hcallbacks thread (callbackStep_sound hcallback)⟩
  | frameSection now pc hpc =>
      obtain ⟨agent, sender, frameSection, callbacks, connections⟩ := system
      cases hpc
      exact ⟨sectionStep_flowing hflowing hsection horderly now,
        sectionStep_sound hflowing.latest hsection now, hcallbacks⟩
  | sender succeeds now sent hsent =>
      exact ⟨senderStep_flowing hflowing horderly hsent, hsection, hcallbacks⟩

/-- In every run of orderly steps, what is sent on each connection is HELLO, RESET
and frames under consecutive numbers. -/
theorem orderly_connections_gapFree {pressureThreshold : Binary32} {actions : List Action}
    {final : System}
    (horderly : Along System.step Orderly (System.initial pressureThreshold) actions)
    (hrun : runFrom System.step (System.initial pressureThreshold) actions = some final) :
    ∀ messages ∈ final.connections, GapFree messages :=
  (runFrom_induction (fun _ _ _ => step_sound) (sound_initial pressureThreshold) horderly
    hrun).flowing.gapFree

/-! ## Two runs -/

def reachMutex (thread : Nat) : List Action :=
  .call thread (.contact (some []) 0) :: List.replicate 2 (.callback thread)

def passMutex (thread : Nat) : List Action :=
  .callback thread :: List.replicate 4 (.frameSection 0)

def oneFrame : List Action :=
  List.replicate 11 (.sender true 0) ++ reachMutex 0 ++ passMutex 0 ++
    List.replicate 4 (.sender true 0)

/-- Two callbacks see the agent connected.  The first one's frame cannot be sent; the
second one numbers its frame behind the HELLO of the next connection. -/
def lateCallback : List Action :=
  List.replicate 11 (.sender true 0) ++ reachMutex 0 ++ reachMutex 1 ++ passMutex 0 ++
    List.replicate 3 (.sender true 0) ++ [.sender false 0] ++
    List.replicate 8 (.sender true 0) ++ passMutex 1 ++ List.replicate 3 (.sender true 0)

def headersAfter (pressureThreshold : Binary32) (actions : List Action) :
    Option (List (List (Option (TPMessageType × UInt32)))) :=
  (runFrom System.step (System.initial pressureThreshold) actions).map fun system =>
    system.connections.map fun messages => messages.map messageHeader

theorem orderly_connections_gapFree_one_frame :
    ∃ final, runFrom System.step (System.initial 0) oneFrame = some final ∧
      final.connections.map (fun messages => messages.map messageHeader) =
        [[some (tpMessageHello, 1), some (tpMessageReset, 2), some (tpMessageFrame, 3)]] ∧
      ∀ messages ∈ final.connections, GapFree messages := by
  have hheaders : headersAfter 0 oneFrame =
      some [[some (tpMessageHello, 1), some (tpMessageReset, 2), some (tpMessageFrame, 3)]] := by
    decide +kernel
  obtain ⟨final, hrun, hconnections⟩ := Option.map_eq_some_iff.mp hheaders
  exact ⟨final, hrun, hconnections, orderly_connections_gapFree (by decide +kernel) hrun⟩

/-- The number between HELLO and RESET went to the late callback's frame. -/
theorem late_callback_leaves_gap :
    ¬ ∀ (pressureThreshold : Binary32) (actions : List Action) (final : System),
      runFrom System.step (System.initial pressureThreshold) actions = some final →
        ∀ messages ∈ final.connections, GapFree messages := by
  intro hclaim
  have hheaders : headersAfter 0 lateCallback =
      some [[some (tpMessageHello, 4), some (tpMessageReset, 6)],
        [some (tpMessageHello, 1), some (tpMessageReset, 2)]] := by
    decide +kernel
  obtain ⟨final, hrun, hconnections⟩ := Option.map_eq_some_iff.mp hheaders
  obtain ⟨messages, earlier, hsplit, hmessages, -⟩ := List.map_eq_cons_iff.mp hconnections
  obtain ⟨first, hfollows⟩ :=
    hclaim 0 lateCallback final hrun messages (hsplit ▸ List.mem_cons_self)
  rw [hmessages] at hfollows
  have hhello : (4 : UInt32) = first + UInt32.ofNat 0 :=
    congrArg Prod.snd (Option.some.inj (hfollows 0 _ rfl))
  have hreset : (6 : UInt32) = first + UInt32.ofNat 1 :=
    congrArg Prod.snd (Option.some.inj (hfollows 1 _ rfl))
  rw [show UInt32.ofNat 0 = 0 from rfl, UInt32.add_zero] at hhello
  rw [← hhello] at hreset
  exact absurd hreset (by decide)

end Touchpad.Agent
