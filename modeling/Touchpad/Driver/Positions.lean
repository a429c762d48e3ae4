import Touchpad.Driver.Agreement
import Touchpad.Receiver.FrameStep
import Touchpad.Receiver.SessionInvariant

/-!
# Finger entries and Contact Count

The driver enters a contact at the position of its slot, and Contact Count is the
number of TIP contacts.  A host that reads only that many entries sees them all
when the slots in use are the lowest ones.  New contacts keep it so, since they
take the lowest free slots; a lifted contact keeps it so only where none stays
above it.
-/

namespace Touchpad.Driver

open Touchpad.Foundation
open Touchpad.Shared
open Touchpad.Receiver

/-- Every active entry is among the first `ContactCount` ones. -/
def PtpReport.WithinCount (report : PtpReport) : Prop :=
  ∀ i : Fin mtpHidMaxContacts, (report.contacts i).tip = true →
    i.val < report.contactCount.toNat

structure Accepts (session : TouchSession) (message : Message) : Prop where
  frame : message.type = .frame
  hello : session.helloSeen = true
  reset : session.resetSeen = true
  next : session.InSequence message.sequence
  room : session.slots.length + (newContacts session.slots message.contacts).length ≤
    mtpHidMaxContacts

/-- Wherever the FRAME lifts a contact, all contacts that touch in it have been there
before, in lower slots. -/
def LiftsFromTop (session : TouchSession) (message : Message) : Prop :=
  ∀ item ∈ session.slots, item.1 ∉ tipIdentifiers message.contacts →
    ∀ identifier ∈ tipIdentifiers message.contacts,
      ∃ slot < item.2, (identifier, slot) ∈ session.slots

/-! ## The report of a frame -/

private theorem countP_slots {slots : SlotMap} (hvalid : slots.Valid) :
    ((List.finRange mtpHidMaxContacts).countP fun i => i.val ∈ slots.map Prod.snd) =
      slots.length := by
  rw [SlotTable.countP_finRange_mem hvalid.slots_nodup
    fun slot hslot => List.mem_range.mp (hvalid.slots_subset hslot), List.length_map]

theorem transition_withinCount (vhfReadReportSubmit : PtpReport → NtStatus)
    (context : DeviceContext) {header : IoctlFrame} {session : TouchSession}
    {start registered : SlotMap} {contacts : List Contact} {before : ContactSlots}
    (hheader : Announces header session.buttonDown) (hbefore : Masked before)
    (hafter : Masked session.previousContacts)
    (hassigned : Assigned start registered contacts session.slots session.previousContacts) :
    ∃ report, (submitIoctlFrame vhfReadReportSubmit context
        (transition header before session.previousContacts)).report = some report ∧
      (report.WithinCount ↔ SlotTable.Compact session.slots) := by
  obtain ⟨report, hreport, -, -, -, hentries, hempty, hcount, -⟩ :=
    transition_report vhfReadReportSubmit context hheader hbefore hafter
  obtain ⟨htold, -⟩ := hassigned.told before hheader
  have htip : ∀ i : Fin mtpHidMaxContacts,
      (report.contacts i).tip = true ↔ i.val ∈ session.slots.map Prod.snd := by
    intro i
    rw [← htold i]
    constructor
    · intro htip
      cases hrecords : (transition header before session.previousContacts).recordsFor i with
      | nil =>
          rw [hempty i hrecords] at htip
          simp [PtpContact.tip] at htip
      | cons record records =>
          have hmem : record ∈
              (transition header before session.previousContacts).recordsFor i := by
            rw [hrecords]
            exact List.mem_cons_self
          obtain ⟨-, -, -, hrecord, -⟩ := hentries i record hmem
          exact ⟨record, List.mem_cons_self, hrecord ▸ htip⟩
    · rintro ⟨record, hmem, hrecord⟩
      obtain ⟨-, -, -, hentry, -⟩ := hentries i record hmem
      rw [hentry, hrecord]
  have hlength : report.contactCount.toNat = session.slots.length := by
    rw [hcount, ← countP_slots hassigned.valid]
    apply List.countP_congr
    intro i _
    rw [htip i, decide_eq_true_iff]
  refine ⟨report, hreport, ?_⟩
  unfold PtpReport.WithinCount SlotTable.Compact
  rw [hlength]
  constructor
  · intro hwithin item hitem
    exact hwithin ⟨item.2, hassigned.valid.slot_lt item hitem⟩
      ((htip _).mpr (List.mem_map_of_mem hitem))
  · intro hcompact i hentry
    obtain ⟨item, hitem, hslot⟩ := List.mem_map.mp ((htip i).mp hentry)
    rw [← hslot]
    exact hcompact item hitem

/-! ## One call -/

theorem accepts_iff {session : TouchSession} (hsound : session.Sound) {message : Message}
    (now : Time) (hdistinct : (message.contacts.map Contact.identifier).Nodup) :
    Accepts session message ↔ message.type = .frame ∧
      ∃ frame after, session.process message now = (.ok (some frame), after) := by
  constructor
  · intro haccepts
    have hprocess := TouchSession.process_frame hsound now haccepts.frame haccepts.hello
      haccepts.reset haccepts.next hdistinct
    rw [if_pos haccepts.room] at hprocess
    obtain ⟨frame, hframe⟩ := hprocess
    exact ⟨haccepts.frame, frame, _, Prod.ext hframe rfl⟩
  · rintro ⟨htype, frame, after, hresult⟩
    obtain ⟨arrived, haccepted⟩ :=
      TouchSession.process_frame_accepted hsound htype hdistinct hresult
    refine ⟨htype, haccepted.hello, haccepted.reset, haccepted.next, ?_⟩
    have hkeys := congrArg List.length haccepted.keys
    have hlength := haccepted.assigned.registered_valid.length_le
    simp only [List.length_map] at hkeys
    rwa [← hkeys, ← List.length_append]

theorem compact_after_frame {session after : TouchSession} {message : Message} {now : Time}
    {frame : IoctlFrame} {arrived : SlotMap} (hcompact : SlotTable.Compact session.slots)
    (h : FrameAccepted session message now frame after arrived) :
    SlotTable.Compact after.slots ↔ LiftsFromTop session message := by
  have hvalid := h.assigned.registered_valid
  have hregistered := hcompact.append h.lowest
  have harrived : ∀ item ∈ arrived, item.1 ∈ tipIdentifiers message.contacts := by
    intro item hitem
    have hkey : item.1 ∈ arrived.map Prod.fst := List.mem_map_of_mem hitem
    rw [h.keys] at hkey
    obtain ⟨contact, hcontact, hsame⟩ := List.mem_map.mp hkey
    obtain ⟨hcontact, hnew⟩ := List.mem_filter.mp hcontact
    simp only [Bool.and_eq_true] at hnew
    exact mem_tipIdentifiers.mpr ⟨contact, hcontact, hnew.1, hsame⟩
  rw [h.assigned.slots_eq, hregistered.filter_iff hvalid]
  constructor
  · intro hbelow item hitem hleaves identifier htip
    obtain ⟨slot, hslot⟩ := h.assigned.placed identifier htip
    rw [h.assigned.slots_eq] at hslot
    have hslot := List.mem_of_mem_filter hslot
    have hlt : slot < item.2 := hbelow item (List.mem_append_left _ hitem)
      (by simpa using hleaves) (identifier, slot) hslot (by simpa using htip)
    -- A slot below one that is in use belongs to an entry from before.
    have hbefore := hcompact item hitem
    have hslots : SlotMap.Valid session.slots :=
      ⟨(List.nodup_append.mp (by simpa using hvalid.keys_nodup)).1,
        (List.nodup_append.mp (by simpa using hvalid.slots_nodup)).1,
        fun other hother => hvalid.slot_lt other (List.mem_append_left _ hother)⟩
    obtain ⟨⟨other, slot'⟩, hother, rfl⟩ :=
      List.mem_map.mp (hcompact.mem_slots hslots (show slot < session.slots.length by omega))
    have hsame := hvalid.key_unique (List.mem_append_left _ hother) hslot
    exact ⟨slot', hlt, hsame ▸ hother⟩
  · intro htop item hitem hleaves other hother hstays
    have hleaves : item.1 ∉ tipIdentifiers message.contacts := by simpa using hleaves
    have hold : item ∈ session.slots :=
      (List.mem_append.mp hitem).resolve_right fun hnew => hleaves (harrived item hnew)
    obtain ⟨slot, hlt, hslot⟩ := htop item hold hleaves other.1 (by simpa using hstays)
    rw [hvalid.slot_unique hother (List.mem_append_left _ hslot)]
    exact hlt

private theorem compact_iff_of_not_accepts {call : SessionCall} {session : TouchSession}
    {slots : SlotMap} (hafter : SlotTable.Compact slots)
    (hnone : ∀ message now, call = .process message now → ¬ Accepts session message) :
    SlotTable.Compact slots ↔
      ∀ message now, call = .process message now → Accepts session message →
        LiftsFromTop session message :=
  ⟨fun _ message now hcall haccepts => absurd haccepts (hnone message now hcall),
    fun _ => hafter⟩

private theorem compact_of_shown_nil {start registered slots : SlotMap}
    {stored : ContactSlots} (h : Assigned start registered [] slots stored) :
    SlotTable.Compact slots := by
  have hempty : slots = [] := by
    rw [h.slots_eq]
    simp [tipIdentifiers]
  rw [hempty]
  exact .nil

theorem compact_after_call {call : SessionCall} (hdecoded : call.Decoded)
    {session : TouchSession} (hsound : session.Sound)
    (hcompact : SlotTable.Compact session.slots) :
    SlotTable.Compact (call.run session).2.slots ↔
      ∀ message now, call = .process message now → Accepts session message →
        LiftsFromTop session message := by
  have heffect := call.run_effect hdecoded.distinct hsound
  cases call with
  | process message now =>
      have hdistinct := hdecoded.distinct
      rw [SessionCall.run] at heffect ⊢
      cases hresult : session.process message now with
      | mk outcome after =>
          rw [hresult] at heffect
          have haccepts := accepts_iff hsound now hdistinct
          rw [hresult] at haccepts
          dsimp only at heffect ⊢
          cases outcome with
          | error error =>
              obtain ⟨arrived, hslots, hlowest⟩ :=
                TouchSession.process_error_slots hsound hdistinct hresult
              refine compact_iff_of_not_accepts (hslots ▸ hcompact.append hlowest) ?_
              rintro message' now' ⟨⟩ haccepted
              obtain ⟨-, frame, after', heq⟩ := haccepts.mp haccepted
              cases heq
          | ok output =>
              cases heffect with
              | quiet _ hcall hslots =>
                  refine compact_iff_of_not_accepts (hslots ▸ hcompact) ?_
                  rintro message' now' ⟨⟩ haccepted
                  obtain ⟨-, frame, after', heq⟩ := haccepts.mp haccepted
                  cases heq
              | emitted _ header registered hcall hheader hassigned =>
                  by_cases htype : message.type = .frame
                  · obtain ⟨arrived, hframe⟩ :=
                      TouchSession.process_frame_accepted hsound htype hdistinct hresult
                    rw [compact_after_frame hcompact hframe]
                    constructor
                    · rintro htop message' now' ⟨⟩ -
                      exact htop
                    · intro htop
                      exact htop message now rfl (haccepts.mpr ⟨htype, _, _, rfl⟩)
                  · rw [SessionCall.shown, if_neg htype] at hassigned
                    refine compact_iff_of_not_accepts (compact_of_shown_nil hassigned) ?_
                    rintro message' now' ⟨⟩ haccepted
                    exact htype haccepted.frame
  | timeout now =>
      refine compact_iff_of_not_accepts ?_ (by simp)
      rw [SessionCall.run, TouchSession.onTimeout_eq]
      by_cases hexpired : session.hasActiveContacts = true ∧
          kFrameTimeout ≤ now - session.lastFrameTime
      · rw [if_pos hexpired]
        exact SlotTable.Compact.nil
      · rw [if_neg hexpired]
        exact hcompact
  | disconnect =>
      refine compact_iff_of_not_accepts ?_ (by simp)
      rw [(run_disconnect_cleared session).1]
      exact .nil

/-! ## Runs -/

def StepLiftsFromTop (step : SessionStep) : Prop :=
  ∀ message now, step.call = .process message now → Accepts step.before message →
    LiftsFromTop step.before message

def StepWithinCount (vhfReadReportSubmit : PtpReport → NtStatus) (step : SessionStep) : Prop :=
  ∀ frame, step.frame = some frame → ∀ context, ∃ report,
    (submitIoctlFrame vhfReadReportSubmit context frame).report = some report ∧
      report.WithinCount

theorem step_report (vhfReadReportSubmit : PtpReport → NtStatus) {call : SessionCall}
    (hdecoded : call.Decoded) {session : TouchSession} (hsound : session.Sound)
    (hmasked : Masked session.previousContacts) {frame : IoctlFrame}
    (hframe : (call.step session).frame = some frame) (context : DeviceContext) :
    ∃ report, (submitIoctlFrame vhfReadReportSubmit context frame).report = some report ∧
      (report.WithinCount ↔ SlotTable.Compact (call.run session).2.slots) := by
  have heffect := call.run_effect hdecoded.distinct hsound
  have hmasked' := hmasked.step hdecoded heffect
  simp only [SessionStep.frame, SessionCall.step] at hframe
  generalize call.run session = result at heffect hmasked' hframe ⊢
  obtain ⟨outcome, after⟩ := result
  dsimp only at heffect hmasked' hframe ⊢
  cases heffect with
  | quiet => cases hframe
  | refused => cases hframe
  | threw => cases hframe
  | emitted _ header registered hcall hheader hassigned =>
      cases hframe
      exact transition_withinCount vhfReadReportSubmit context hheader hmasked hmasked' hassigned

theorem step_withinCount_iff (vhfReadReportSubmit : PtpReport → NtStatus)
    {call : SessionCall} (hdecoded : call.Decoded) {session : TouchSession}
    (hsound : session.Sound) (hmasked : Masked session.previousContacts)
    (hcompact : SlotTable.Compact session.slots) :
    (StepWithinCount vhfReadReportSubmit (call.step session) ↔
        SlotTable.Compact (call.run session).2.slots) ∧
      (StepLiftsFromTop (call.step session) ↔
        SlotTable.Compact (call.run session).2.slots) := by
  have hafter := compact_after_call hdecoded hsound hcompact
  refine ⟨⟨fun hwithin => ?_, fun hslots frame hframe context => ?_⟩, hafter.symm⟩
  · cases hframe : (call.step session).frame with
    | some frame =>
        obtain ⟨report, hreport, hiff⟩ :=
          step_report vhfReadReportSubmit hdecoded hsound hmasked hframe {}
        obtain ⟨report', hreport', hwithin⟩ := hwithin frame hframe {}
        rw [hreport, Option.some.injEq] at hreport'
        exact hiff.mp (hreport' ▸ hwithin)
    | none =>
        -- Without a frame no FRAME was accepted, so no contact was lifted.
        refine hafter.mpr fun message now hcall haccepts => ?_
        subst hcall
        obtain ⟨-, frame, after, hresult⟩ :=
          (accepts_iff hsound now hdecoded.distinct).mp haccepts
        simp only [SessionStep.frame, SessionCall.step, SessionCall.run, hresult] at hframe
        cases hframe
  · obtain ⟨report, hreport, hiff⟩ :=
      step_report vhfReadReportSubmit hdecoded hsound hmasked hframe context
    exact ⟨report, hreport, hiff.mpr hslots⟩

theorem run_withinCount_iff (vhfReadReportSubmit : PtpReport → NtStatus)
    (calls : List SessionCall) (hdecoded : ∀ call ∈ calls, call.Decoded)
    {session : TouchSession} (hsound : session.Sound)
    (hmasked : Masked session.previousContacts) (hcompact : SlotTable.Compact session.slots) :
    (∀ step ∈ session.trace calls, StepWithinCount vhfReadReportSubmit step) ↔
      ∀ step ∈ session.trace calls, StepLiftsFromTop step := by
  induction calls generalizing session with
  | nil => simp [TouchSession.trace]
  | cons call calls ih =>
      have hcall := hdecoded call List.mem_cons_self
      have heffect := call.run_effect hcall.distinct hsound
      obtain ⟨hwithin, hlifts⟩ :=
        step_withinCount_iff vhfReadReportSubmit hcall hsound hmasked hcompact
      rw [TouchSession.trace, List.forall_mem_cons, List.forall_mem_cons, hwithin, hlifts]
      apply and_congr_right
      intro hnext
      exact ih (fun later hlater => hdecoded later (List.mem_cons_of_mem _ hlater))
        (hsound.run hcall.distinct) (hmasked.step hcall heffect) hnext

/-- Over decoded messages, timeouts and disconnects, every report keeps its active
entries within Contact Count exactly when no accepted FRAME lifts a contact while
another one touches in a higher slot or newly arrives. -/
theorem active_within_count_iff (vhfReadReportSubmit : PtpReport → NtStatus)
    (calls : List SessionCall) (hdecoded : ∀ call ∈ calls, call.Decoded) :
    (∀ step ∈ ({} : TouchSession).trace calls, ∀ frame, step.frame = some frame →
      ∀ context, ∃ report,
        (submitIoctlFrame vhfReadReportSubmit context frame).report = some report ∧
          ∀ i : Fin mtpHidMaxContacts, (report.contacts i).tip = true →
            i.val < report.contactCount.toNat) ↔
    ∀ step ∈ ({} : TouchSession).trace calls, ∀ message now,
      step.call = .process message now → Accepts step.before message →
        LiftsFromTop step.before message :=
  run_withinCount_iff vhfReadReportSubmit calls hdecoded TouchSession.sound_initial
    (by simp [Masked]) SlotTable.Compact.nil

theorem active_within_count_iff_first_touch :
    (∀ call ∈ firstTouch, call.Decoded) ∧
      ∀ step ∈ ({} : TouchSession).trace firstTouch, ∀ frame, step.frame = some frame →
        ∀ context, ∃ report,
          (submitIoctlFrame (fun _ => 0) context frame).report = some report ∧
            ∀ i : Fin mtpHidMaxContacts, (report.contacts i).tip = true →
              i.val < report.contactCount.toNat := by
  refine ⟨firstTouch_decoded,
    (active_within_count_iff (fun _ => 0) firstTouch firstTouch_decoded).mpr ?_⟩
  intro step hstep message now hcall haccepts item hitem
  have hnone : ∀ step ∈ ({} : TouchSession).trace firstTouch, step.before.slots = [] := by
    decide +kernel
  rw [hnone step hstep] at hitem
  cases hitem

def liftedFirst : List SessionCall :=
  touchingCalls [1, 2] ++ [.process (touching 3 [2]) 0]

theorem liftedFirst_decoded : ∀ call ∈ liftedFirst, call.Decoded := by
  have hboth : decodeMessage (Protocol.tpEncodeMessage Protocol.tpMessageFrame {
      sequence := 2
      contactCount := 2
      contacts := fun i => { identifier := if i.val = 0 then 1 else 2, flags := 7 } } 476).2 =
      .ok (touching 2 [1, 2]) := by decide +kernel
  have hsecond : decodeMessage (Protocol.tpEncodeMessage Protocol.tpMessageFrame {
      sequence := 3
      contactCount := 1
      contacts := fun _ => { identifier := 2, flags := 7 } } 476).2 =
      .ok (touching 3 [2]) := by decide +kernel
  exact decoded_after_reset
    (List.forall_mem_cons.mpr ⟨⟨_, hboth⟩, List.forall_mem_singleton.mpr ⟨_, hsecond⟩⟩)

/-- The second finger stays in slot 1, and the count is 1. -/
theorem lifted_first_beyond_count :
    (∀ call ∈ liftedFirst, call.Decoded) ∧
      ∃ step ∈ ({} : TouchSession).trace liftedFirst, ∃ frame report,
        step.frame = some frame ∧
          (submitIoctlFrame (fun _ => 0) {} frame).report = some report ∧
          (report.contacts 1).tip = true ∧ report.contactCount = 1 := by
  let step := (SessionCall.process (touching 3 [2]) 0).step
    (({} : TouchSession).after (touchingCalls [1, 2]))
  have hmem : step ∈ ({} : TouchSession).trace liftedFirst := by
    rw [liftedFirst, TouchSession.trace_append]
    exact List.mem_append_right _ List.mem_cons_self
  have hshown : (step.frame.map fun frame =>
      (submitIoctlFrame (fun _ => 0) {} frame).report.map fun report =>
        ((report.contacts 1).tip, report.contactCount)) = some (some (true, 1)) := by
    decide +kernel
  obtain ⟨frame, hframe, hreported⟩ := Option.map_eq_some_iff.mp hshown
  obtain ⟨report, hreport, hentry⟩ := Option.map_eq_some_iff.mp hreported
  rw [Prod.mk.injEq] at hentry
  exact ⟨liftedFirst_decoded, step, hmem, frame, report, hframe, hreport, hentry⟩

end Touchpad.Driver
