import Touchpad.Agent.Captures

/-!
# The octets on a socket

`send_all` of `mac/Agent/main.c`, and the threads with each send of a message made by
it.  The socket may take a message in parts; where it fails in between, the connection
carries a part of the message that nothing follows.
-/

namespace Touchpad.Agent

open Touchpad.Foundation
open Touchpad.Protocol

/-- How `send` returns: with EINTR, with another error, or with the octets it took, which
are not more than it was offered. -/
inductive SendResult where
  | interrupted
  | failed
  | sent (count : Nat)

/-- `send_all`, with the octets that the socket took; `none` where it is still to call
`send`. -/
def sendAll : List SendResult → Bytes → Option (Bool × Bytes)
  | _, [] => some (true, [])
  | [], _ :: _ => none
  | .interrupted :: results, octet :: bytes => sendAll results (octet :: bytes)
  | .failed :: _, _ :: _ => some (false, [])
  | .sent count :: results, octet :: bytes =>
      if count = 0 then some (false, [])
      else
        match sendAll results ((octet :: bytes).drop count) with
        | none => none
        | some (succeeds, taken) => some (succeeds, (octet :: bytes).take count ++ taken)

theorem sendAll_taken {results : List SendResult} {bytes taken : Bytes} {succeeds : Bool}
    (h : sendAll results bytes = some (succeeds, taken)) :
    taken <+: bytes ∧ if succeeds then taken = bytes else taken.length < bytes.length := by
  induction results generalizing bytes taken with
  | nil =>
      cases bytes with
      | nil =>
          cases h
          exact ⟨List.prefix_rfl, rfl⟩
      | cons octet bytes => cases h
  | cons result results ih =>
      cases bytes with
      | nil =>
          cases h
          exact ⟨List.prefix_rfl, rfl⟩
      | cons octet bytes =>
          cases result with
          | interrupted => exact ih h
          | failed =>
              cases h
              exact ⟨List.nil_prefix, Nat.succ_pos _⟩
          | sent count =>
              rw [sendAll] at h
              split at h
              · cases h
                exact ⟨List.nil_prefix, Nat.succ_pos _⟩
              · split at h
                case h_1 => cases h
                case h_2 rest hrest =>
                  cases h
                  obtain ⟨⟨more, hmore⟩, htaken⟩ := ih hrest
                  have hsplit := List.take_append_drop count (octet :: bytes)
                  refine ⟨⟨more, ?_⟩, ?_⟩
                  · rw [List.append_assoc, hmore, hsplit]
                  · split at htaken
                    case isTrue hall => rw [if_pos hall, htaken, hsplit]
                    case isFalse hpart =>
                      rw [if_neg hpart]
                      have hlength := congrArg List.length hsplit
                      rw [List.length_append] at hlength ⊢
                      omega

/-! ## The threads on sockets -/

/-- The threads, and the octets that the sockets took, the newest connection first. -/
structure Wired where
  system : System := {}
  wires : List Bytes := []

inductive WiredAction where
  | threads (action : Action)
  | send (results : List SendResult) (now : UInt64)

def opened (sender : SenderPc) : Action → List Bytes
  | .sender true _ => if sender = .connecting then [[]] else []
  | _ => []

def extendWire (taken : Bytes) : List Bytes → List Bytes
  | [] => []
  | wire :: earlier => (wire ++ taken) :: earlier

namespace Wired

def sending (wired : Wired) : Action → Bool
  | .sender _ _ => !wired.system.sender.inFlight.isEmpty
  | _ => false

/-- A message is sent by `send_all`; all other steps are those of the threads. -/
def step (wired : Wired) : WiredAction → Option Wired
  | .threads action =>
      if wired.sending action then none
      else
        match wired.system.step action with
        | none => none
        | some system =>
            some { system, wires := opened wired.system.sender action ++ wired.wires }
  | .send results now =>
      match wired.system.sender.inFlight with
      | [message] =>
          match sendAll results message with
          | none => none
          | some (succeeds, taken) =>
              match wired.system.step (.sender succeeds now) with
              | none => none
              | some system => some { system, wires := extendWire taken wired.wires }
      | _ => none

def initial (pressureThreshold : Binary32) : Wired :=
  { system := System.initial pressureThreshold }

end Wired

/-! ## What is on the wires -/

/-- The messages in full, and maybe a part of one more. -/
def Torn (drawn : List Drawn) (messages : List WireMessage) (wire : Bytes) : Prop :=
  wire = messages.flatten ∨
    ∃ item ∈ drawn, ∃ rest, wire = messages.flatten ++ rest ∧ rest <+: item.encoded ∧
      rest.length < item.encoded.length

theorem Torn.mono {drawn : List Drawn} {messages : List WireMessage} {wire : Bytes}
    (h : Torn drawn messages wire) (more : List Drawn) : Torn (drawn ++ more) messages wire :=
  h.imp id fun ⟨item, hitem, hrest⟩ => ⟨item, List.mem_append_left _ hitem, hrest⟩

theorem Torn.exists_prefix {drawn : List Drawn} {messages : List WireMessage} {wire : Bytes}
    (h : Torn drawn messages wire) :
    ∃ more : List Drawn, (∀ item ∈ more, item ∈ drawn) ∧
      wire <+: (messages ++ more.map Drawn.encoded).flatten ∧
      ∀ count, messages.length < count →
        count ≤ (messages ++ more.map Drawn.encoded).length →
          wire.length < ((messages ++ more.map Drawn.encoded).take count).flatten.length := by
  rcases h with rfl | ⟨item, hitem, rest, rfl, hrest, hshort⟩
  · refine ⟨[], nofun, by simp, fun count hmore hcount => ?_⟩
    rw [List.map_nil, List.append_nil] at hcount
    omega
  · refine ⟨[item], fun other hother => List.mem_singleton.mp hother ▸ hitem, ?_,
      fun count hmore hcount => ?_⟩
    · rw [List.flatten_append, List.map_singleton, List.flatten_singleton]
      exact (List.prefix_append_right_inj _).mpr hrest
    · rw [List.take_of_length_le (by simp; omega)]
      simpa using hshort

def SenderPc.whole : SenderPc → Bool
  | .testingRunning | .connecting | .abandoning | .droppingConnected | .clearingAfter
  | .closing | .exited => false
  | _ => true

def Whole (connections : List (List WireMessage)) (wires : List Bytes) : Prop :=
  ∃ messages earlier others, connections = messages :: earlier ∧
    wires = messages.flatten :: others

inductive Moves (connections : List (List WireMessage)) (sender : SenderPc) (succeeds : Bool) :
    SenderPc → List (List WireMessage) → Prop
  | quiet (after : SenderPc) (hflight : sender.inFlight = [])
      (hconnecting : sender = .connecting → succeeds = false)
      (hwhole : after.whole = true → sender.whole = true) :
      Moves connections sender succeeds after connections
  | opened (after : SenderPc) (hsender : sender = .connecting) (hsucceeds : succeeds = true) :
      Moves connections sender succeeds after ([] :: connections)
  | delivered (message : WireMessage) (after : SenderPc) (hflight : sender.inFlight = [message])
      (hsucceeds : succeeds = true) (hwhole : sender.whole = true) :
      Moves connections sender succeeds after (deliver message connections)
  | gaveUp (message : WireMessage) (after : SenderPc) (hflight : sender.inFlight = [message])
      (hlost : succeeds = true → message = []) (hgivenUp : after.whole = false) :
      Moves connections sender succeeds after connections

theorem senderStep_moves {agent : AgentState} {mutexFree succeeds : Bool}
    {connections : List (List WireMessage)} {now : UInt64} {sender : SenderPc} {sent : Sent}
    (hstep : senderStep agent mutexFree connections succeeds now sender = some sent) :
    Moves connections sender succeeds sent.sender sent.connections := by
  cases senderStep_cases hstep with
  | connects hsucceeds => exact .opened _ rfl hsucceeds
  | clears | clearsAfter | pops => exact .quiet _ rfl (fun h => by cases h) id
  | draws hdraws =>
      cases hdraws <;> exact .quiet _ rfl (fun h => by cases h) id
  | delivers hsucceeds hdelivers =>
      cases hdelivers <;> exact .delivered _ _ rfl hsucceeds rfl
  | advances hadvances =>
      cases hadvances <;> exact .quiet _ rfl (fun h => by cases h) id
  | leaves hleaves =>
      cases hleaves with
      | unreachable hfails => exact .quiet _ rfl (fun _ => hfails) fun h => by cases h
      | helloLost message hlost | resetLost message hlost | frameLost message hlost =>
          exact .gaveUp message _ rfl hlost rfl
      | _ => exact .quiet _ rfl (fun h => by cases h) fun h => by cases h

structure OnWires (connections : List (List WireMessage)) (sender : SenderPc)
    (wires : List Bytes) (drawn : List Drawn) : Prop where
  torn : List.Forall₂ (Torn drawn) connections wires
  whole : sender.whole = true → Whole connections wires

section OnWires

variable {connections next : List (List WireMessage)} {sender after : SenderPc}
  {wires : List Bytes} {drawn : List Drawn} {succeeds : Bool}

theorem OnWires.mono (h : OnWires connections sender wires drawn) (more : List Drawn) :
    OnWires connections sender wires (drawn ++ more) :=
  ⟨h.torn.imp fun _ _ htorn => htorn.mono more, h.whole⟩

theorem OnWires.rest (h : OnWires connections sender wires drawn)
    (hmoves : Moves connections sender succeeds after next) (hidle : sender.inFlight = [])
    (now : UInt64) :
    OnWires next after (opened sender (.sender succeeds now) ++ wires) drawn := by
  cases hmoves with
  | quiet after hflight hconnecting hwhole =>
      have hnone : opened sender (.sender succeeds now) = [] := by
        cases succeeds with
        | false => rfl
        | true => exact if_neg fun hsender => by cases hconnecting hsender
      rw [hnone, List.nil_append]
      exact ⟨h.torn, fun hafter => h.whole (hwhole hafter)⟩
  | opened after hsender hsucceeds =>
      have hopened : opened sender (.sender succeeds now) = [[]] := by
        rw [hsucceeds]
        exact if_pos hsender
      rw [hopened]
      exact ⟨.cons (.inl rfl) h.torn, fun _ => ⟨[], connections, wires, rfl, rfl⟩⟩
  | delivered message after hflight =>
      rw [hidle] at hflight
      cases hflight
  | gaveUp message after hflight =>
      rw [hidle] at hflight
      cases hflight

theorem OnWires.send (h : OnWires connections sender wires drawn)
    (hmoves : Moves connections sender succeeds after next) {item : Drawn} (hitem : item ∈ drawn)
    (hflight : sender.inFlight = [item.encoded]) (hsending : sender.whole = true)
    {results : List SendResult} {taken : Bytes}
    (hsent : sendAll results item.encoded = some (succeeds, taken)) :
    OnWires next after (extendWire taken wires) drawn := by
  obtain ⟨messages, earlier, others, hconnections, hwires⟩ := h.whole hsending
  obtain ⟨hbegins, htaken⟩ := sendAll_taken hsent
  have htorn := h.torn
  rw [hconnections, hwires] at htorn
  obtain ⟨-, hothers⟩ := List.forall₂_cons.mp htorn
  rw [hwires, extendWire]
  cases hmoves with
  | quiet after hidle =>
      rw [hflight] at hidle
      cases hidle
  | opened after hsender =>
      rw [hsender] at hflight
      cases hflight
  | delivered message after hmessage hsucceeds =>
      rw [hflight] at hmessage
      cases hmessage
      rw [if_pos hsucceeds] at htaken
      have hflatten : messages.flatten ++ taken = (messages ++ [item.encoded]).flatten := by
        rw [htaken, List.flatten_append, List.flatten_singleton]
      rw [hconnections, deliver, hflatten]
      exact ⟨.cons (.inl rfl) hothers, fun _ => ⟨_, _, _, rfl, rfl⟩⟩
  | gaveUp message after hmessage hlost hgivenUp =>
      rw [hconnections]
      refine ⟨.cons ?_ hothers, fun hwhole => ?_⟩
      · split at htaken
        case isTrue hsucceeds =>
          rw [hflight] at hmessage
          have hempty : item.encoded = [] := (List.cons.inj hmessage).1.trans (hlost hsucceeds)
          rw [htaken, hempty, List.append_nil]
          exact .inl rfl
        case isFalse => exact .inr ⟨item, hitem, taken, rfl, hbegins, htaken⟩
      · rw [hgivenUp] at hwhole
        cases hwhole

end OnWires

/-! ## Runs -/

namespace Wired

def drawnBy (wired : Wired) : WiredAction → List Drawn
  | .threads action => Agent.drawnBy wired.system action
  | .send _ _ => []

end Wired

def WiredAction.calledWith : WiredAction → List (List MTTouch)
  | .threads action => Agent.calledWith action
  | .send _ _ => []

structure Wired.Sound (called : List (List MTTouch)) (wired : Wired) (drawn : List Drawn) :
    Prop where
  accounted : wired.system.Accounted drawn
  sourced : Sourced called wired.system drawn
  onWires : OnWires wired.system.connections wired.system.sender wired.wires drawn

theorem Accounts.held_drawn {agent : AgentState} {frameSection : Option SectionPc}
    {connections : List (List WireMessage)} {sender : SenderPc} {route : Route}
    {drawn : List Drawn} (h : Accounts agent frameSection connections sender route drawn)
    {message : WireMessage} (hflight : sender.inFlight = [message]) :
    ∃ item ∈ drawn, item.encoded = message := by
  have hheld := h.held
  rw [hflight] at hheld
  obtain ⟨item, rest, hroute, hmessage, -⟩ := List.map_eq_cons_iff.mp hheld.symm
  exact ⟨item, h.lanes.subset (by simp [Route.line, hroute]), hmessage⟩

theorem whole_of_inFlight {sender : SenderPc} {message : WireMessage}
    (h : sender.inFlight = [message]) : sender.whole = true := by
  cases sender with
  | sendingHello | sendingReset | sending => rfl
  | _ => cases h

theorem sender_moves {system next : System} {succeeds : Bool} {now : UInt64}
    (hstep : system.step (.sender succeeds now) = some next) :
    Moves system.connections system.sender succeeds next.sender next.connections := by
  cases System.step_cases hstep with
  | sender _ _ sent hsent => exact senderStep_moves hsent

theorem step_connections {system next : System} {action : Action}
    (hstep : system.step action = some next) :
    (next.connections = system.connections ∧ next.sender = system.sender ∧
        opened system.sender action = []) ∨
      ∃ succeeds now, action = .sender succeeds now ∧
        Moves system.connections system.sender succeeds next.sender next.connections := by
  cases System.step_cases hstep with
  | sender succeeds now sent hsent => exact .inr ⟨succeeds, now, rfl, senderStep_moves hsent⟩
  | _ => exact .inl ⟨rfl, rfl, rfl⟩

inductive Wired.Steps (wired : Wired) : WiredAction → Wired → Prop
  | threads (action : Action) (system : System) (hidle : wired.sending action = false)
      (hstep : wired.system.step action = some system) :
      Steps wired (.threads action)
        { system, wires := opened wired.system.sender action ++ wired.wires }
  | send (results : List SendResult) (now : UInt64) (message : WireMessage) (succeeds : Bool)
      (taken : Bytes) (system : System) (hflight : wired.system.sender.inFlight = [message])
      (hsent : sendAll results message = some (succeeds, taken))
      (hstep : wired.system.step (.sender succeeds now) = some system) :
      Steps wired (.send results now) { system, wires := extendWire taken wired.wires }

theorem Wired.step_cases {wired next : Wired} {action : WiredAction}
    (h : wired.step action = some next) : wired.Steps action next := by
  cases action with
  | threads action =>
      rw [step] at h
      split at h
      case isTrue => cases h
      case isFalse hidle =>
        split at h
        case h_1 => cases h
        case h_2 system hsystem =>
          cases h
          exact .threads action system (Bool.not_eq_true _ ▸ hidle) hsystem
  | send results now =>
      rw [step] at h
      split at h
      case h_2 => cases h
      case h_1 message hflight =>
        split at h
        case h_1 => cases h
        case h_2 succeeds taken hsent =>
          split at h
          case h_1 => cases h
          case h_2 system hsystem =>
            cases h
            exact .send results now message succeeds taken system hflight hsent hsystem

theorem Wired.step_sound {called : List (List MTTouch)} (wired : Wired) (action : WiredAction)
    (next : Wired) (drawn : List Drawn) (h : wired.Sound called drawn)
    (hcalled : ∀ touches ∈ action.calledWith, touches ∈ called)
    (hstep : wired.step action = some next) :
    next.Sound called (drawn ++ wired.drawnBy action) := by
  obtain ⟨haccounted, hsourced, hwires⟩ := h
  cases Wired.step_cases hstep with
  | threads action system hidle hsystem =>
      refine ⟨haccounted.step hsystem, step_sourced _ _ _ _ hsourced hcalled hsystem, ?_⟩
      rcases step_connections hsystem with
        ⟨hconnections, hsender, hopened⟩ | ⟨succeeds, now, rfl, hmoves⟩
      · dsimp only
        rw [hconnections, hsender, hopened]
        exact hwires.mono _
      · have hflight : wired.system.sender.inFlight = [] := by simpa [sending] using hidle
        exact (hwires.rest hmoves hflight now).mono _
  | send results now message succeeds taken system hflight hsent hsystem =>
      have hnone : Agent.drawnBy wired.system (.sender succeeds now) = [] := by
        rw [Agent.drawnBy]
        cases hsender : wired.system.sender with
        | drawingHello | drawingReset =>
            rw [hsender] at hflight
            cases hflight
        | _ => rfl
      have haccounts := haccounted.step hsystem
      have hsources := step_sourced _ _ _ _ hsourced (fun _ htouches => by cases htouches) hsystem
      rw [hnone] at haccounts hsources
      refine ⟨haccounts, hsources, ?_⟩
      obtain ⟨route, haccount⟩ := haccounted
      obtain ⟨item, hitem, rfl⟩ := haccount.held_drawn hflight
      exact (hwires.send (sender_moves hsystem) hitem hflight
        (whole_of_inFlight hflight) hsent).mono _

/-- In every interleaving and however the sockets take what is sent, each wire carries the
messages of its connection, and maybe a part of one more. -/
theorem Wired.run_sound {threshold : Binary32} {actions : List WiredAction} {final : Wired}
    (hrun : runFrom Wired.step (Wired.initial threshold) actions = some final) :
    final.Sound (actions.flatMap WiredAction.calledWith)
      (observed Wired.step Wired.drawnBy (Wired.initial threshold) actions) := by
  have hinitial : (Wired.initial threshold).Sound (actions.flatMap WiredAction.calledWith) [] :=
    ⟨⟨{}, accounts_initial threshold⟩, sourced_initial threshold,
      .nil, fun hwhole => by cases hwhole⟩
  have hcalled : ∀ action ∈ actions, ∀ wired : Wired, ∀ touches ∈ action.calledWith,
      touches ∈ actions.flatMap WiredAction.calledWith :=
    fun action haction _ touches htouches => List.mem_flatMap.mpr ⟨action, haction, htouches⟩
  exact runFrom_observed Wired.step_sound hinitial
    (along_of_mem hcalled (Wired.initial threshold)) hrun

end Touchpad.Agent
