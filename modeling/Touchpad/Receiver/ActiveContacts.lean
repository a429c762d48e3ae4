import Touchpad.Receiver.FrameStep

/-!
# Active contacts over one FRAME

The source keeps the active contacts in two containers and computes a frame in
five loops, two of them over a hash map.  Here the active contacts are one table
of identifier, slot and last contact, and a FRAME is one function on it: staying
contacts are replaced, new ones enter at the lowest free slots, leaving ones are
shown once more without TIP.
-/

namespace Touchpad.Receiver

open Touchpad.Foundation
open Touchpad.Shared

/-! ## The reference -/

abbrev ActiveTable := List (UInt32 × Nat × Contact)

def TouchSession.active (session : TouchSession) : ActiveTable :=
  session.slots.filterMap fun item =>
    (session.previousContacts.get item.2).map fun contact => (item.1, item.2, contact)

def tipContact (contacts : List Contact) (identifier : UInt32) : Option Contact :=
  contacts.find? fun contact => contact.hasTip && contact.identifier == identifier

/-- The contacts that the frame shows, with their slots: those active before the
message, replaced or lifted, and those that arrived. -/
def shownContacts (active : ActiveTable) (arrived : SlotMap) (contacts : List Contact) :
    List (Nat × Contact) :=
  active.map (fun item =>
    (item.2.1, (tipContact contacts item.1).getD item.2.2.lifted)) ++
  arrived.filterMap fun item =>
    (tipContact contacts item.1).map fun contact => (item.2, contact)

def nextActive (active : ActiveTable) (arrived : SlotMap) (contacts : List Contact) :
    ActiveTable :=
  (active.map (fun item => (item.1, item.2.1)) ++ arrived).filterMap fun item =>
    (tipContact contacts item.1).map fun contact => (item.1, item.2, contact)

/-! ## Sessions without half-registered contacts -/

def TouchSession.Complete (session : TouchSession) : Prop :=
  ∀ item ∈ session.slots, (session.previousContacts.get item.2).isSome = true

/-- A call that throws is followed by nothing but a disconnect, as in the receive
loop. -/
def TouchSession.Caught : TouchSession → List SessionCall → Prop
  | _, [] => True
  | session, call :: calls =>
      ((call.step session).Throws → calls.head? = some .disconnect) ∧
        Caught (call.run session).2 calls

instance TouchSession.decidableCaught :
    ∀ (session : TouchSession) (calls : List SessionCall), Decidable (session.Caught calls)
  | _, [] => .isTrue trivial
  | session, call :: calls =>
      have := decidableCaught (call.run session).2 calls
      inferInstanceAs (Decidable ((_ → _) ∧ _))

theorem Assigned.complete {start registered : SlotMap} {contacts : List Contact}
    {session : TouchSession}
    (h : Assigned start registered contacts session.slots session.previousContacts) :
    session.Complete := by
  intro item hitem
  have htip : item.1 ∈ tipIdentifiers contacts := by
    rw [h.slots_eq] at hitem
    simpa using (List.mem_filter.mp hitem).2
  obtain ⟨contact, hcontact, hflag, hsame⟩ := mem_tipIdentifiers.mp htip
  have hstored := (h.stored_iff item.2 contact).mpr ⟨hcontact, hflag, hsame ▸ hitem⟩
  rw [hstored, Option.isSome_some]

theorem Effect.complete {call : SessionCall} {before after : TouchSession}
    {outcome : Except ProtocolError (Option IoctlFrame)}
    (h : Effect call before outcome after) (hcomplete : before.Complete)
    (hreturns : outcome.toOption ≠ none) : after.Complete := by
  cases h with
  | quiet _ hcall hslots hcontacts hbutton =>
      unfold TouchSession.Complete
      rw [hslots, hcontacts]
      exact hcomplete
  | refused => exact absurd rfl hreturns
  | threw => exact absurd rfl hreturns
  | emitted _ header registered hcall hheader hassigned => exact hassigned.complete

theorem complete_disconnect (session : TouchSession) :
    (SessionCall.disconnect.run session).2.Complete := by
  intro item hitem
  rw [SessionCall.run, TouchSession.onDisconnect_eq] at hitem
  cases hitem

theorem TouchSession.Sound.complete_after {session : TouchSession} (hsound : session.Sound)
    (calls : List SessionCall) {last : SessionCall} (hlast : last ≠ .disconnect)
    (hdistinct : ∀ call ∈ calls, call.Distinct) (hcaught : session.Caught (calls ++ [last]))
    (h : session.Complete ∨ (calls ++ [last]).head? = some .disconnect) :
    (session.after calls).Complete := by
  induction calls generalizing session with
  | nil =>
      rcases h with h | h
      · exact h
      · cases h
        exact absurd rfl hlast
  | cons call calls ih =>
      have hcall := hdistinct call List.mem_cons_self
      have hnext : (call.run session).2.Complete ∨
          (calls ++ [last]).head? = some .disconnect := by
        rcases h with h | h
        · by_cases hthrows : (call.step session).Throws
          · exact .inr (hcaught.1 hthrows)
          · exact .inl ((call.run_effect hcall hsound).complete h hthrows)
        · cases h
          exact .inl (complete_disconnect session)
      exact ih (hsound.run hcall)
        (fun later hlater => hdistinct later (List.mem_cons_of_mem _ hlater)) hcaught.2 hnext

/-! ## Iteration order -/

/-- Loops two to five of the FRAME branch, with `slots_` iterated in the order that
`visit` gives. -/
def settle (visit : SlotMap → SlotMap) (contacts : List Contact)
    (previousContacts : ContactSlots) (registration : Registration) :
    ContactSlots × SlotMap × ContactSlots :=
  let leaving := ((visit registration.slots).map Prod.fst).filter (· ∉ registration.present)
  let nextContacts := carryLeaving previousContacts registration.present
    (visit registration.slots) registration.nextContacts
  let erased := eraseLeaving leaving (registration.slots, previousContacts)
  (nextContacts, erased.1, storeContacts contacts (visit erased.1) erased.2)

/-- The FRAME branch visits the list that models the map from front to back. -/
theorem processFrame_settle (session : TouchSession) (message : Message) (now : Time) :
    session.processFrame message now =
      match registerContacts { slots := session.slots } message.contacts with
      | (some error, registration) =>
          (.error error,
            { session with buttonDown := message.hasButton, slots := registration.slots })
      | (none, registration) =>
          let settled := settle id message.contacts session.previousContacts registration
          match reportContacts settled.1 (List.finRange mtpHidMaxContacts)
              (TouchSession.frameHeader message) with
          | .error error =>
              (.error error,
                { session with buttonDown := message.hasButton, slots := registration.slots })
          | .ok output =>
              (.ok output,
                { session with
                  buttonDown := message.hasButton
                  slots := settled.2.1
                  previousContacts := settled.2.2
                  lastFrameTime := now }) := by
  rfl

theorem SlotMap.Valid.perm {slots visited : SlotMap} (h : slots.Valid)
    (hperm : visited.Perm slots) : visited.Valid where
  keys_nodup := (hperm.map Prod.fst).nodup_iff.mpr h.keys_nodup
  slots_nodup := (hperm.map Prod.snd).nodup_iff.mpr h.slots_nodup
  slot_lt item hitem := h.slot_lt item (hperm.mem_iff.mp hitem)

theorem carryLeaving_perm {slots visited : SlotMap} (hvalid : slots.Valid)
    (hperm : visited.Perm slots) (previousContacts : ContactSlots) (present : List UInt32)
    (nextContacts : ContactSlots) :
    carryLeaving previousContacts present visited nextContacts =
      carryLeaving previousContacts present slots nextContacts := by
  apply ContactSlots.ext_get
  intro slot contact
  rw [carryLeaving_get (hvalid.perm hperm), carryLeaving_get hvalid]
  simp only [hperm.mem_iff]

theorem eraseLeaving_perm {slots : SlotMap} (hvalid : slots.Valid)
    {leaving visited : List UInt32} (hperm : visited.Perm leaving)
    (previousContacts : ContactSlots) :
    eraseLeaving visited (slots, previousContacts) =
      eraseLeaving leaving (slots, previousContacts) := by
  apply Prod.ext
  · rw [eraseLeaving_slots visited hvalid, eraseLeaving_slots leaving hvalid]
    simp only [hperm.mem_iff]
  · apply ContactSlots.ext_get
    intro slot contact
    rw [eraseLeaving_get visited hvalid, eraseLeaving_get leaving hvalid]
    simp only [hperm.mem_iff]

theorem storeContacts_perm {slots visited : SlotMap} (hvalid : slots.Valid)
    (hperm : visited.Perm slots) {contacts : List Contact}
    (hdistinct : (contacts.map Contact.identifier).Nodup) (previousContacts : ContactSlots) :
    storeContacts contacts visited previousContacts =
      storeContacts contacts slots previousContacts := by
  apply ContactSlots.ext_get
  intro slot contact
  rw [storeContacts_get (hvalid.perm hperm) hdistinct, storeContacts_get hvalid hdistinct]
  simp only [hperm.mem_iff]

theorem settle_visit {visit : SlotMap → SlotMap} (hvisit : ∀ slots, (visit slots).Perm slots)
    {contacts : List Contact} (hdistinct : (contacts.map Contact.identifier).Nodup)
    (previousContacts : ContactSlots) {registration : Registration}
    (hvalid : registration.slots.Valid) :
    settle visit contacts previousContacts registration =
      settle id contacts previousContacts registration := by
  have hleaving := ((hvisit registration.slots).map Prod.fst).filter (· ∉ registration.present)
  have herased := eraseLeaving_perm hvalid hleaving previousContacts
  simp only [settle, id]
  rw [herased, carryLeaving_perm hvalid (hvisit _)]
  have hremaining : SlotMap.Valid (eraseLeaving
      ((registration.slots.map Prod.fst).filter (· ∉ registration.present))
      (registration.slots, previousContacts)).1 := by
    rw [eraseLeaving_slots _ hvalid]
    exact hvalid.filter _
  rw [storeContacts_perm hremaining (hvisit _) hdistinct]

/-! ## The reference and the session -/

theorem tipContact_eq_some_iff {contacts : List Contact}
    (hdistinct : (contacts.map Contact.identifier).Nodup) {identifier : UInt32}
    {contact : Contact} :
    tipContact contacts identifier = some contact ↔
      contact ∈ contacts ∧ contact.hasTip = true ∧ contact.identifier = identifier := by
  unfold tipContact
  constructor
  · intro hfind
    have hprop := List.find?_some hfind
    simp only [Bool.and_eq_true, beq_iff_eq] at hprop
    exact ⟨List.mem_of_find?_eq_some hfind, hprop⟩
  · rintro ⟨hcontact, htip, hsame⟩
    cases hfind : contacts.find? fun item => item.hasTip && item.identifier == identifier with
    | none => simpa [htip, hsame] using List.find?_eq_none.mp hfind contact hcontact
    | some found =>
        have hprop := List.find?_some hfind
        simp only [Bool.and_eq_true, beq_iff_eq] at hprop
        rw [List.inj_on_of_nodup_map hdistinct (List.mem_of_find?_eq_some hfind) hcontact
          (hprop.2.trans hsame.symm)]

theorem tipContact_isSome_iff {contacts : List Contact} {identifier : UInt32} :
    (tipContact contacts identifier).isSome = true ↔ identifier ∈ tipIdentifiers contacts := by
  rw [mem_tipIdentifiers, tipContact, List.find?_isSome]
  simp

namespace TouchSession

variable {session : TouchSession}

theorem mem_active {identifier : UInt32} {slot : Nat} {contact : Contact} :
    (identifier, slot, contact) ∈ session.active ↔
      (identifier, slot) ∈ session.slots ∧
        session.previousContacts.get slot = some contact := by
  simp only [active, List.mem_filterMap, Option.map_eq_some_iff, Prod.mk.injEq, Prod.exists]
  constructor
  · rintro ⟨identifier', slot', hslot, contact', hcontact, rfl, rfl, rfl⟩
    exact ⟨hslot, hcontact⟩
  · rintro ⟨hslot, hcontact⟩
    exact ⟨identifier, slot, hslot, contact, hcontact, rfl, rfl, rfl⟩

theorem Complete.active_map (h : session.Complete) :
    session.active.map (fun item => (item.1, item.2.1)) = session.slots := by
  unfold Complete at h
  unfold active
  generalize session.slots = slots at h ⊢
  induction slots with
  | nil => rfl
  | cons item slots ih =>
      obtain ⟨contact, hcontact⟩ := Option.isSome_iff_exists.mp (h item List.mem_cons_self)
      have hrest := ih fun other hother => h other (List.mem_cons_of_mem _ hother)
      simp only [List.filterMap_cons, hcontact, Option.map_some, List.map_cons, hrest]

end TouchSession

section Accepted

variable {session after : TouchSession} {message : Message} {now : Time} {frame : IoctlFrame}
  {arrived : SlotMap}

theorem FrameAccepted.stored_iff (h : FrameAccepted session message now frame after arrived)
    (hdistinct : (message.contacts.map Contact.identifier).Nodup) (slot : Nat)
    (contact : Contact) :
    after.previousContacts.get slot = some contact ↔
      ∃ identifier, (identifier, slot) ∈ session.slots ++ arrived ∧
        tipContact message.contacts identifier = some contact := by
  rw [h.assigned.stored_iff, h.assigned.slots_eq]
  constructor
  · rintro ⟨hcontact, htip, hslot⟩
    exact ⟨_, List.mem_of_mem_filter hslot,
      (tipContact_eq_some_iff hdistinct).mpr ⟨hcontact, htip, rfl⟩⟩
  · rintro ⟨identifier, hslot, htipContact⟩
    obtain ⟨hcontact, htip, rfl⟩ := (tipContact_eq_some_iff hdistinct).mp htipContact
    refine ⟨hcontact, htip, List.mem_filter.mpr ⟨hslot, ?_⟩⟩
    simpa using mem_tipIdentifiers.mpr ⟨contact, hcontact, htip, rfl⟩

theorem FrameAccepted.mem_shown (h : FrameAccepted session message now frame after arrived)
    (hsound : session.Sound) (hcomplete : session.Complete)
    (hdistinct : (message.contacts.map Contact.identifier).Nodup) (slot : Nat)
    (contact : Contact) :
    (session.previousContacts.overlay after.previousContacts).get slot = some contact ↔
      (slot, contact) ∈ shownContacts session.active arrived message.contacts := by
  have hunique := h.assigned.registered_valid
  rw [ContactSlots.get_overlay, shownContacts, List.mem_append, List.mem_map,
    List.mem_filterMap]
  constructor
  · intro hshown
    cases hafter : after.previousContacts.get slot with
    | some stored =>
        rw [hafter, Option.some_or, Option.some.injEq] at hshown
        subst hshown
        obtain ⟨identifier, hslot, htip⟩ := (h.stored_iff hdistinct slot stored).mp hafter
        rcases List.mem_append.mp hslot with hslot | hslot
        · left
          obtain ⟨last, hlast⟩ := Option.isSome_iff_exists.mp (hcomplete _ hslot)
          exact ⟨(identifier, slot, last), TouchSession.mem_active.mpr ⟨hslot, hlast⟩,
            by simp [htip]⟩
        · right
          exact ⟨(identifier, slot), hslot, by simp [htip]⟩
    | none =>
        rw [hafter, Option.none_or, Option.map_eq_some_iff] at hshown
        obtain ⟨last, hlast, rfl⟩ := hshown
        obtain ⟨-, hslot⟩ := hsound.held slot last hlast
        have hgone : tipContact message.contacts last.identifier = none := by
          by_contra hpresent
          obtain ⟨stored, hstored⟩ := Option.ne_none_iff_exists'.mp hpresent
          have := (h.stored_iff hdistinct slot stored).mpr
            ⟨_, List.mem_append_left _ hslot, hstored⟩
          rw [hafter] at this
          cases this
        left
        exact ⟨(last.identifier, slot, last), TouchSession.mem_active.mpr ⟨hslot, hlast⟩,
          by simp [hgone]⟩
  · rintro (⟨⟨identifier, slot', last⟩, hactive, heq⟩ | ⟨⟨identifier, slot'⟩, hslot, heq⟩)
    · obtain ⟨hslot, hlast⟩ := TouchSession.mem_active.mp hactive
      cases htip : tipContact message.contacts identifier with
      | some stored =>
          simp only [htip, Option.getD_some, Prod.mk.injEq] at heq
          obtain ⟨rfl, rfl⟩ := heq
          have hafter := (h.stored_iff hdistinct slot' stored).mpr
            ⟨identifier, List.mem_append_left _ hslot, htip⟩
          rw [hafter, Option.some_or]
      | none =>
          simp only [htip, Option.getD_none, Prod.mk.injEq] at heq
          obtain ⟨rfl, rfl⟩ := heq
          have hafter : after.previousContacts.get slot' = none := by
            by_contra hpresent
            obtain ⟨stored, hstored⟩ := Option.ne_none_iff_exists'.mp hpresent
            obtain ⟨other, hother, htip'⟩ := (h.stored_iff hdistinct slot' stored).mp hstored
            rw [hunique.key_unique hother (List.mem_append_left _ hslot), htip] at htip'
            cases htip'
          rw [hafter, hlast, Option.none_or, Option.map_some]
    · simp only [Option.map_eq_some_iff, Prod.mk.injEq] at heq
      obtain ⟨stored, htip, rfl, rfl⟩ := heq
      have hafter := (h.stored_iff hdistinct slot' stored).mpr
        ⟨identifier, List.mem_append_right _ hslot, htip⟩
      rw [hafter, Option.some_or]

theorem FrameAccepted.active_after (h : FrameAccepted session message now frame after arrived)
    (hcomplete : session.Complete)
    (hdistinct : (message.contacts.map Contact.identifier).Nodup) :
    after.active = nextActive session.active arrived message.contacts := by
  rw [TouchSession.active, nextActive, hcomplete.active_map, h.assigned.slots_eq,
    List.filterMap_filter]
  apply List.filterMap_congr
  intro item hitem
  cases htip : tipContact message.contacts item.1 with
  | some contact =>
      have hmem : item.1 ∈ tipIdentifiers message.contacts := by
        rw [← tipContact_isSome_iff, htip, Option.isSome_some]
      have hstored := (h.stored_iff hdistinct item.2 contact).mpr ⟨item.1, hitem, htip⟩
      simp [hmem, hstored]
  | none =>
      have hmem : item.1 ∉ tipIdentifiers message.contacts := by
        rw [← tipContact_isSome_iff, htip]
        simp
      simp [hmem]

theorem FrameAccepted.arrived_tip (h : FrameAccepted session message now frame after arrived)
    {item : UInt32 × Nat} (hitem : item ∈ arrived) :
    (tipContact message.contacts item.1).isSome = true := by
  rw [tipContact_isSome_iff, mem_tipIdentifiers]
  have hkey : item.1 ∈ arrived.map Prod.fst := List.mem_map_of_mem hitem
  rw [h.keys] at hkey
  obtain ⟨contact, hcontact, hsame⟩ := List.mem_map.mp hkey
  obtain ⟨hcontact, hnew⟩ := List.mem_filter.mp hcontact
  simp only [Bool.and_eq_true] at hnew
  exact ⟨contact, hcontact, hnew.1, hsame⟩

private theorem arrived_slots {contacts : List Contact} {entries : SlotMap}
    (h : ∀ item ∈ entries, (tipContact contacts item.1).isSome = true) :
    (entries.filterMap fun item =>
      (tipContact contacts item.1).map fun contact => (item.2, contact)).map Prod.fst =
        entries.map Prod.snd := by
  induction entries with
  | nil => rfl
  | cons item entries ih =>
      obtain ⟨contact, hcontact⟩ := Option.isSome_iff_exists.mp (h item List.mem_cons_self)
      have hrest := ih fun other hother => h other (List.mem_cons_of_mem _ hother)
      simp [hcontact, hrest]

theorem FrameAccepted.shown_slots (h : FrameAccepted session message now frame after arrived)
    (hcomplete : session.Complete) :
    (shownContacts session.active arrived message.contacts).map Prod.fst =
      (session.slots ++ arrived).map Prod.snd := by
  have harrived := arrived_slots fun item hitem => h.arrived_tip hitem
  have hactive := congrArg (List.map Prod.snd) hcomplete.active_map
  rw [List.map_map] at hactive
  rw [shownContacts, List.map_append, List.map_append, harrived, List.map_map, ← hactive]
  rfl

theorem FrameAccepted.records_perm (h : FrameAccepted session message now frame after arrived)
    (hsound : session.Sound) (hcomplete : session.Complete)
    (hdistinct : (message.contacts.map Contact.identifier).Nodup) :
    (frameRecords (session.previousContacts.overlay after.previousContacts)).Perm
      ((shownContacts session.active arrived message.contacts).map fun item =>
        ioctlContact item.1 item.2) := by
  have hvalid := h.assigned.registered_valid
  have hslots := h.shown_slots hcomplete
  have hshown : ((shownContacts session.active arrived message.contacts).map
      fun item => ioctlContact item.1 item.2).Nodup := by
    have hitems : (shownContacts session.active arrived message.contacts).Nodup :=
      List.Nodup.of_map Prod.fst (hslots ▸ hvalid.slots_nodup)
    refine hitems.map_on ?_
    intro first hfirst second hsecond heq
    have hlt : ∀ item ∈ shownContacts session.active arrived message.contacts,
        item.1 < mtpHidMaxContacts := by
      intro item hitem
      have hmem : item.1 ∈ (session.slots ++ arrived).map Prod.snd :=
        hslots ▸ List.mem_map_of_mem hitem
      exact List.mem_range.mp (hvalid.slots_subset hmem)
    have hsame := congrArg (fun record => record.slot.toNat) heq
    rw [ioctlContact_slot (hlt _ hfirst), ioctlContact_slot (hlt _ hsecond)] at hsame
    exact List.inj_on_of_nodup_map (hslots ▸ hvalid.slots_nodup) hfirst hsecond hsame
  rw [List.perm_ext_iff_of_nodup (List.Nodup.of_map _ (frameRecords_slots_nodup _)) hshown]
  intro record
  rw [mem_frameRecords]
  simp only [List.mem_map, Prod.exists, h.mem_shown hsound hcomplete hdistinct]

theorem FrameAccepted.active_count (h : FrameAccepted session message now frame after arrived)
    (hcomplete : session.Complete)
    (hdistinct : (message.contacts.map Contact.identifier).Nodup) :
    ((shownContacts session.active arrived message.contacts).map fun item =>
        ioctlContact item.1 item.2).countP IoctlContact.hasTip =
      (message.contacts.filter Contact.hasTip).length := by
  have htip : ∀ identifier contact, tipContact message.contacts identifier = some contact →
      contact.hasTip = true :=
    fun identifier contact hcontact => ((tipContact_eq_some_iff hdistinct).mp hcontact).2.1
  -- TIP records are those of the identifiers that are active afterwards.
  have hrecords : ((shownContacts session.active arrived message.contacts).map fun item =>
      ioctlContact item.1 item.2).countP IoctlContact.hasTip =
        (session.slots ++ arrived).countP fun item =>
          (tipContact message.contacts item.1).isSome := by
    rw [← hcomplete.active_map, shownContacts, List.countP_map, List.countP_append,
      List.countP_append, List.countP_map, List.countP_map, List.countP_filterMap]
    congr 1
    · apply List.countP_congr
      intro item _
      cases hcontact : tipContact message.contacts item.1 with
      | some contact => simp [hcontact, htip _ _ hcontact]
      | none => simp [hcontact]
    · apply List.countP_congr
      intro item _
      cases hcontact : tipContact message.contacts item.1 with
      | some contact => simp [htip _ _ hcontact]
      | none => simp
  have hfiltered : after.slots = (session.slots ++ arrived).filter fun item =>
      (tipContact message.contacts item.1).isSome := by
    rw [h.assigned.slots_eq]
    apply List.filter_congr
    intro item _
    rw [Bool.eq_iff_iff, decide_eq_true_iff, tipContact_isSome_iff]
  have hkeys : (after.slots.map Prod.fst).Perm (tipIdentifiers message.contacts) := by
    have hnodup : (tipIdentifiers message.contacts).Nodup :=
      hdistinct.sublist (List.filter_sublist.map Contact.identifier)
    rw [List.perm_ext_iff_of_nodup h.assigned.valid.keys_nodup hnodup]
    intro identifier
    constructor
    · intro hmem
      obtain ⟨item, hitem, rfl⟩ := List.mem_map.mp hmem
      rw [h.assigned.slots_eq] at hitem
      simpa using (List.mem_filter.mp hitem).2
    · intro hmem
      obtain ⟨slot, hslot⟩ := h.assigned.placed identifier hmem
      exact List.mem_map_of_mem hslot
  have hlength := hkeys.length_eq
  rw [List.length_map, hfiltered, ← List.countP_eq_length_filter] at hlength
  rw [hrecords, hlength, tipIdentifiers, List.length_map]

theorem FrameAccepted.slots_unmoved
    (h : FrameAccepted session message now frame after arrived)
    (hknown : ∀ identifier ∈ tipIdentifiers message.contacts,
      identifier ∈ session.slots.map Prod.fst) : arrived = [] := by
  have hnone : newContacts session.slots message.contacts = [] := by
    rw [newContacts, List.filter_eq_nil_iff]
    intro contact hcontact hnew
    simp only [Bool.and_eq_true, Option.isNone_iff_eq_none] at hnew
    have hmem := hknown contact.identifier
      (mem_tipIdentifiers.mpr ⟨contact, hcontact, hnew.1, rfl⟩)
    exact SlotTable.lookup_eq_none_iff.mp hnew.2 hmem
  simpa [hnone] using h.keys

/-- A message without new identifiers may list its contacts in any order. -/
theorem FrameAccepted.reordered (h : FrameAccepted session message now frame after arrived)
    (hsound : session.Sound) (htype : message.type = .frame)
    (hdistinct : (message.contacts.map Contact.identifier).Nodup)
    (hknown : ∀ identifier ∈ tipIdentifiers message.contacts,
      identifier ∈ session.slots.map Prod.fst) {contacts : List Contact}
    (hperm : contacts.Perm message.contacts) :
    session.process { message with contacts } now = (.ok (some frame), after) := by
  have hmem : ∀ identifier, identifier ∈ tipIdentifiers contacts ↔
      identifier ∈ tipIdentifiers message.contacts := by
    intro identifier
    simp only [mem_tipIdentifiers, hperm.mem_iff]
  have hdistinct' : (contacts.map Contact.identifier).Nodup :=
    (hperm.map Contact.identifier).nodup_iff.mpr hdistinct
  have hnone : newContacts session.slots contacts = [] := by
    rw [newContacts, List.filter_eq_nil_iff]
    intro contact hcontact hnew
    simp only [Bool.and_eq_true, Option.isNone_iff_eq_none] at hnew
    have hold := hknown contact.identifier ((hmem _).mp
      (mem_tipIdentifiers.mpr ⟨contact, hcontact, hnew.1, rfl⟩))
    exact SlotTable.lookup_eq_none_iff.mp hnew.2 hold
  have hprocess : ∃ frame', (session.process { message with contacts } now).1 =
      .ok (some frame') := by
    have hroom : session.slots.length + (newContacts session.slots contacts).length ≤
        mtpHidMaxContacts := by
      rw [hnone]
      exact hsound.valid.length_le
    have hcases := @TouchSession.process_frame session hsound { message with contacts } now
      htype h.hello h.reset h.next hdistinct'
    rwa [if_pos hroom] at hcases
  obtain ⟨frame', hframe'⟩ := hprocess
  cases hresult : session.process { message with contacts } now with
  | mk outcome after' =>
      rw [hresult] at hframe'
      dsimp only at hframe'
      subst hframe'
      have haccepted : ∃ arrived',
          FrameAccepted session { message with contacts } now frame' after' arrived' :=
        TouchSession.process_frame_accepted hsound htype hdistinct' hresult
      obtain ⟨arrived', h'⟩ := haccepted
      have hslots : after'.slots = after.slots := by
        rw [h'.assigned.slots_eq, h.assigned.slots_eq, h.slots_unmoved hknown,
          h'.slots_unmoved fun identifier htip => hknown identifier ((hmem _).mp htip)]
        simp only [hmem]
      have hcontacts : after'.previousContacts = after.previousContacts := by
        apply ContactSlots.ext_get
        intro slot contact
        rw [h'.assigned.stored_iff, h.assigned.stored_iff, hslots]
        simp only [hperm.mem_iff]
      have hafter : after' = after := by
        rw [h'.after_eq, h.after_eq, hslots, hcontacts]
        rfl
      have hframe : frame' = frame := by
        rw [h'.frame_eq, h.frame_eq, hcontacts]
        rfl
      rw [hafter, hframe]

end Accepted

/-- The frame that an accepted FRAME emits and the contacts it leaves active are
those of the reference, in whichever order the map is iterated, and a message
without new identifiers may list its contacts in any order. -/
theorem frame_functional (calls : List SessionCall) (message : Message) (now : Time)
    (hdistinct : ∀ call ∈ calls, call.Distinct)
    (hcaught : ({} : TouchSession).Caught (calls ++ [.process message now]))
    (htype : message.type = .frame)
    (hmessage : (message.contacts.map Contact.identifier).Nodup) (frame : IoctlFrame)
    (after : TouchSession)
    (haccepted : (({} : TouchSession).after calls).process message now =
      (.ok (some frame), after)) :
    let session := ({} : TouchSession).after calls
    let active := session.active
    let held : SlotMap := active.map fun item => (item.1, item.2.1)
    held = session.slots ∧
    ∃ arrived : SlotMap,
      arrived.map Prod.fst = (newContacts held message.contacts).map Contact.identifier ∧
      SlotTable.LowestFirst held arrived ∧
      frame = filled (TouchSession.frameHeader message) frame.records ∧
      (frame.records.Pairwise fun record later => record.slot < later.slot) ∧
      frame.records.Perm ((shownContacts active arrived message.contacts).map fun item =>
        ioctlContact item.1 item.2) ∧
      frame.reportContactCount.toNat = active.length + arrived.length ∧
      frame.activeContactCount.toNat = (message.contacts.filter Contact.hasTip).length ∧
      frame.hasButton = message.hasButton ∧
      after.active = nextActive active arrived message.contacts ∧
      after.slots = after.active.map (fun item => (item.1, item.2.1)) ∧
      (∀ visit : SlotMap → SlotMap, (∀ slots, (visit slots).Perm slots) →
        ∀ registration,
          registerContacts { slots := session.slots } message.contacts = (none, registration) →
          settle visit message.contacts session.previousContacts registration =
            settle id message.contacts session.previousContacts registration) ∧
      ((∀ identifier ∈ tipIdentifiers message.contacts, identifier ∈ held.map Prod.fst) →
        ∀ contacts, contacts.Perm message.contacts →
          session.process { message with contacts } now = (.ok (some frame), after)) := by
  intro session active held
  have hsound : session.Sound := TouchSession.sound_initial.after calls hdistinct
  have hlast : SessionCall.process message now ≠ .disconnect := by
    intro heq
    cases heq
  have hcomplete : session.Complete := TouchSession.sound_initial.complete_after calls hlast
    hdistinct hcaught (.inl (by simp [TouchSession.Complete]))
  have hheld : held = session.slots := hcomplete.active_map
  obtain ⟨arrived, h⟩ :=
    TouchSession.process_frame_accepted hsound htype hmessage haccepted
  have hrecords : frame.records =
      frameRecords (session.previousContacts.overlay after.previousContacts) := by
    rw [h.frame_eq]
    exact filled_records _ (frameRecords_length_le _)
  have hfilled : frame = filled (TouchSession.frameHeader message) frame.records := by
    rw [hrecords]
    exact h.frame_eq
  have hfits : frame.records.length ≤ mtpHidMaxContacts := by
    rw [hrecords]
    exact frameRecords_length_le _
  have hperm := h.records_perm hsound hcomplete hmessage
  rw [← hrecords] at hperm
  refine ⟨hheld, arrived, ?_, ?_, hfilled, ?_, hperm, ?_, ?_, ?_, ?_, ?_, ?_, ?_⟩
  · rw [hheld]
    exact h.keys
  · rw [hheld]
    exact h.lowest
  · rw [hrecords]
    exact frameRecords_sorted _
  · have hslots := congrArg List.length (h.shown_slots hcomplete)
    have hlength := congrArg List.length hheld
    rw [hfilled, filled_reportContactCount _ hfits, hperm.length_eq, List.length_map]
    simp only [List.length_map, List.length_append, held] at hslots hlength
    omega
  · rw [hfilled, filled_activeContactCount _ hfits, hperm.countP_eq]
    exact h.active_count hcomplete hmessage
  · rw [hfilled]
    exact (announces_frameHeader message).button
  · exact h.active_after hcomplete hmessage
  · exact h.assigned.complete.active_map.symm
  · intro visit hvisit registration hregistered
    have hregisters := (Registers.start hsound.valid).registerContacts message.contacts hmessage
    rw [List.nil_append, hregistered] at hregisters
    cases hregisters with
    | accepted _ hregisters => exact settle_visit hvisit hmessage _ hregisters.valid
  · intro hknown contacts hreordered
    rw [hheld] at hknown
    exact h.reordered hsound htype hmessage hknown hreordered

theorem frame_functional_replaced :
    let session := ({} : TouchSession).after (touchingCalls [1, 2])
    ∃ arrived, SlotTable.LowestFirst session.slots arrived ∧ arrived.map Prod.fst = [3] ∧
      (session.process (touching 3 [2, 3]) 0).2.active.length = 2 := by
  intro session
  have haccepted : session.process (touching 3 [2, 3]) 0 =
      (.ok (some (((session.process (touching 3 [2, 3]) 0).1.toOption.join).get
        (by decide +kernel))), (session.process (touching 3 [2, 3]) 0).2) := by
    decide +kernel
  obtain ⟨hheld, arrived, hkeys, hlowest, -⟩ :=
    frame_functional (touchingCalls [1, 2]) (touching 3 [2, 3]) 0 (by decide)
      (by decide +kernel) rfl (by decide) _ _ haccepted
  rw [hheld] at hkeys hlowest
  refine ⟨arrived, hlowest, ?_, ?_⟩
  · rw [hkeys]
    decide +kernel
  · decide +kernel

end Touchpad.Receiver
