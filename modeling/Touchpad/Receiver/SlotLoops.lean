import Touchpad.Foundation.SlotTable
import Touchpad.Receiver.TouchSession

/-!
# The slot loops of a FRAME

What each loop of the FRAME branch establishes: the loop that registers the
contacts of the message, the loop that carries leaving contacts, and the two
loops that erase and store afterwards.  The loops are put together in `Assigned`
and `Overlay`, which later modules use instead of the loops themselves.
-/

namespace Touchpad.Receiver

open Touchpad.Foundation
open Touchpad.Shared

abbrev SlotMap.Valid (slots : SlotMap) : Prop := SlotTable.Valid mtpHidMaxContacts slots

theorem allocateSlot_eq (slots : SlotMap) :
    allocateSlot slots = SlotTable.lowestFree mtpHidMaxContacts slots := rfl

/-! ## Contact arrays -/

namespace ContactSlots

@[simp] theorem get_none (slot : Nat) : none.get slot = .none := by
  simp [get, none]

@[simp] theorem get_val (contacts : ContactSlots) (slot : Fin mtpHidMaxContacts) :
    contacts.get slot = contacts slot := by
  simp [get]

theorem lt_of_get (contacts : ContactSlots) {slot : Nat} {contact : Contact}
    (h : contacts.get slot = some contact) : slot < mtpHidMaxContacts := by
  by_contra hslot
  simp [get, hslot] at h

theorem get_put (contacts : ContactSlots) {slot : Nat} (h : slot < mtpHidMaxContacts)
    (contact : Option Contact) (i : Nat) :
    (contacts.put slot contact).get i = if i = slot then contact else contacts.get i := by
  by_cases hi : i < mtpHidMaxContacts
  · simp only [get, put, hi, dite_true]
  · have hne : i ≠ slot := by omega
    simp [get, hi, hne]

theorem ext_get {first second : ContactSlots}
    (h : ∀ slot contact, first.get slot = some contact ↔ second.get slot = some contact) :
    first = second := by
  funext slot
  apply Option.ext
  intro contact
  simpa using h slot contact

end ContactSlots

/-! ## Registering the contacts of a message -/

def newContacts (slots : SlotMap) (contacts : List Contact) : List Contact :=
  contacts.filter fun contact => contact.hasTip && (slots.lookup contact.identifier).isNone

structure Registers (start : SlotMap) (done : List Contact) (registration : Registration) :
    Prop where
  valid : registration.slots.Valid
  extends_start : start ⊆ registration.slots
  entry : ∀ identifier slot, (identifier, slot) ∈ registration.slots →
    (identifier, slot) ∈ start ∨ identifier ∈ registration.present
  present_iff : ∀ identifier, identifier ∈ registration.present ↔
    ∃ contact ∈ done, contact.hasTip = true ∧ contact.identifier = identifier
  placed : ∀ identifier ∈ registration.present,
    ∃ slot, (identifier, slot) ∈ registration.slots
  next_iff : ∀ slot contact, registration.nextContacts.get slot = some contact ↔
    contact ∈ done ∧ contact.hasTip = true ∧ (contact.identifier, slot) ∈ registration.slots
  count : registration.slots.length = start.length + (newContacts start done).length

theorem Registers.start {start : SlotMap} (h : start.Valid) :
    Registers start [] { slots := start } where
  valid := h
  extends_start := List.Subset.refl start
  entry _ _ hmem := .inl hmem
  present_iff := by simp
  placed := by simp
  next_iff := by simp
  count := by simp [newContacts]

inductive ContactRegistered (registration : Registration) (contact : Contact) :
    Except ProtocolError Registration → Prop
  | skipped (htip : contact.hasTip = false) :
      ContactRegistered registration contact (.ok registration)
  | known (slot : Nat) (htip : contact.hasTip = true)
      (hslot : (contact.identifier, slot) ∈ registration.slots) :
      ContactRegistered registration contact (.ok {
        registration with
        present := contact.identifier :: registration.present
        nextContacts := registration.nextContacts.put slot contact })
  | full (htip : contact.hasTip = true)
      (hnew : contact.identifier ∉ registration.slots.map Prod.fst)
      (hfull : mtpHidMaxContacts ≤ registration.slots.length) :
      ContactRegistered registration contact (.error .moreThanFiveActive)
  | allocated (slot : Nat) (htip : contact.hasTip = true)
      (hnew : contact.identifier ∉ registration.slots.map Prod.fst)
      (hroom : registration.slots.length < mtpHidMaxContacts)
      (hslot : SlotTable.lowestFree mtpHidMaxContacts registration.slots = some slot) :
      ContactRegistered registration contact (.ok {
        slots := registration.slots ++ [(contact.identifier, slot)]
        present := contact.identifier :: registration.present
        nextContacts := registration.nextContacts.put slot contact })

theorem registerContact_registered {registration : Registration}
    (hvalid : registration.slots.Valid) (contact : Contact) :
    ContactRegistered registration contact (registerContact registration contact) := by
  cases htip : contact.hasTip with
  | false =>
      simp only [registerContact, htip, if_true]
      exact .skipped htip
  | true =>
      simp only [registerContact, htip, Bool.true_eq_false, if_false]
      cases hlookup : registration.slots.lookup contact.identifier with
      | some slot => exact .known slot htip (hvalid.lookup_eq_some_iff.mp hlookup)
      | none =>
          have hnew := SlotTable.lookup_eq_none_iff.mp hlookup
          by_cases hfull : mtpHidMaxContacts ≤ registration.slots.length
          · simp only [hfull, if_true]
            exact .full htip hnew hfull
          · have hroom := not_le.mp hfull
            obtain ⟨slot, hslot⟩ :=
              Option.isSome_iff_exists.mp (SlotTable.lowestFree_isSome hroom)
            simp only [hfull, if_false, allocateSlot_eq, hslot]
            exact .allocated slot htip hnew hroom hslot

private theorem newContacts_append (slots : SlotMap) (done : List Contact) (contact : Contact) :
    newContacts slots (done ++ [contact]) = newContacts slots done ++
      if contact.hasTip && (slots.lookup contact.identifier).isNone then [contact] else [] := by
  simp [newContacts, List.filter_cons]

theorem Registers.skip {start : SlotMap} {done : List Contact} {registration : Registration}
    (h : Registers start done registration) {contact : Contact}
    (htip : contact.hasTip = false) : Registers start (done ++ [contact]) registration where
  valid := h.valid
  extends_start := h.extends_start
  entry := h.entry
  present_iff identifier := by
    rw [h.present_iff]
    simp [or_and_right, exists_or, htip]
  placed := h.placed
  next_iff slot other := by
    rw [h.next_iff]
    constructor
    · rintro ⟨hdone, hrest⟩
      exact ⟨List.mem_append_left _ hdone, hrest⟩
    · rintro ⟨hdone, htip', hmem⟩
      rcases List.mem_append.mp hdone with hdone | hdone
      · exact ⟨hdone, htip', hmem⟩
      · rw [List.mem_singleton.mp hdone, htip] at htip'
        cases htip'
  count := by simp [newContacts_append, htip, h.count]

private theorem Registers.place {start slots : SlotMap} {done : List Contact}
    {registration : Registration} (h : Registers start done registration)
    {contact : Contact} {slot : Nat} (htip : contact.hasTip = true)
    (hdistinct : contact.identifier ∉ done.map Contact.identifier)
    (hvalid : slots.Valid) (hsubset : registration.slots ⊆ slots)
    (hslot : (contact.identifier, slot) ∈ slots)
    (hentry : ∀ item ∈ slots, item ∈ registration.slots ∨ item.1 = contact.identifier)
    (hcount : slots.length =
      start.length + (newContacts start (done ++ [contact])).length) :
    Registers start (done ++ [contact])
      ⟨slots, contact.identifier :: registration.present,
        registration.nextContacts.put slot contact⟩ where
  valid := hvalid
  extends_start := List.Subset.trans h.extends_start hsubset
  entry identifier slot' hmem := by
    rcases hentry _ hmem with hmem | hmem
    · exact (h.entry _ _ hmem).imp_right (List.mem_cons_of_mem _)
    · exact .inr (by simp [show identifier = contact.identifier from hmem])
  present_iff identifier := by
    rw [List.mem_cons, h.present_iff]
    simp only [List.mem_append, List.mem_singleton, or_and_right, exists_or,
      exists_eq_left, htip, true_and]
    rw [or_comm, eq_comm]
  placed identifier hmem := by
    rcases List.mem_cons.mp hmem with rfl | hmem
    · exact ⟨slot, hslot⟩
    · obtain ⟨slot', hslot'⟩ := h.placed _ hmem
      exact ⟨slot', hsubset hslot'⟩
  next_iff slot' other := by
    have hdone : ∀ item ∈ done, item.identifier ≠ contact.identifier := by
      intro item hitem heq
      exact hdistinct (heq ▸ List.mem_map_of_mem hitem)
    rw [ContactSlots.get_put _ (hvalid.slot_lt _ hslot)]
    split
    case isTrue heq =>
      subst heq
      constructor
      · intro hother
        cases hother
        exact ⟨by simp, htip, hslot⟩
      · rintro ⟨hmem, -, hother⟩
        have hsame := hvalid.key_unique hother hslot
        rcases List.mem_append.mp hmem with hmem | hmem
        · exact absurd hsame (hdone other hmem)
        · rw [List.mem_singleton.mp hmem]
    case isFalse hne =>
      rw [h.next_iff]
      constructor
      · rintro ⟨hmem, htip', hother⟩
        exact ⟨List.mem_append_left _ hmem, htip', hsubset hother⟩
      · rintro ⟨hmem, htip', hother⟩
        rcases List.mem_append.mp hmem with hmem | hmem
        · refine ⟨hmem, htip', (hentry _ hother).resolve_right ?_⟩
          exact hdone other hmem
        · rw [List.mem_singleton.mp hmem] at hother
          exact absurd (hvalid.slot_unique hother hslot) hne
  count := hcount

theorem Registers.register {start : SlotMap} {done : List Contact}
    {registration result : Registration} (h : Registers start done registration)
    {contact : Contact} (hdistinct : contact.identifier ∉ done.map Contact.identifier)
    (hresult : registerContact registration contact = .ok result) :
    Registers start (done ++ [contact]) result := by
  have hregistered := registerContact_registered h.valid contact
  have hnotPresent : contact.identifier ∉ registration.present := by
    rw [h.present_iff]
    rintro ⟨item, hitem, -, heq⟩
    exact hdistinct (heq ▸ List.mem_map_of_mem hitem)
  rw [hresult] at hregistered
  cases hregistered with
  | skipped htip => exact h.skip htip
  | known slot htip hslot =>
      refine h.place htip hdistinct h.valid (List.Subset.refl _) hslot
        (fun item hitem => .inl hitem) ?_
      have hknown := (h.entry _ _ hslot).resolve_right hnotPresent
      have hlookup : (start.lookup contact.identifier).isNone = false := by
        cases hlookup : start.lookup contact.identifier with
        | some slot => rfl
        | none =>
            exact absurd (List.mem_map_of_mem hknown) (SlotTable.lookup_eq_none_iff.mp hlookup)
      simp [newContacts_append, hlookup, h.count]
  | allocated slot htip hnew hroom hslot =>
      obtain ⟨hlt, hfree, -⟩ := SlotTable.lowestFree_eq_some_iff.mp hslot
      refine h.place htip hdistinct (h.valid.append hnew hfree hlt)
        (List.subset_append_left _ _) (by simp) ?_ ?_
      · intro item hitem
        rcases List.mem_append.mp hitem with hitem | hitem
        · exact .inl hitem
        · exact .inr (by rw [List.mem_singleton.mp hitem])
      · have hlookup : start.lookup contact.identifier = none := by
          rw [SlotTable.lookup_eq_none_iff]
          exact fun hmem => hnew (List.map_subset _ h.extends_start hmem)
        simp [newContacts_append, hlookup, htip, h.count, Nat.add_assoc]

inductive ContactsRegistered (start : SlotMap) (contacts : List Contact) :
    Option ProtocolError × Registration → Prop
  | accepted (registration : Registration) (h : Registers start contacts registration) :
      ContactsRegistered start contacts (none, registration)
  | exceeded (registration : Registration) (done : List Contact)
      (h : Registers start done registration)
      (hfull : mtpHidMaxContacts ≤ registration.slots.length)
      (hexceeds : mtpHidMaxContacts < start.length + (newContacts start contacts).length) :
      ContactsRegistered start contacts (some .moreThanFiveActive, registration)

theorem Registers.registerContacts {start : SlotMap} {done : List Contact}
    {registration : Registration} (h : Registers start done registration)
    (contacts : List Contact)
    (hdistinct : ((done ++ contacts).map Contact.identifier).Nodup) :
    ContactsRegistered start (done ++ contacts)
      (Receiver.registerContacts registration contacts) := by
  induction contacts generalizing done registration with
  | nil =>
      rw [List.append_nil]
      exact .accepted registration h
  | cons contact contacts ih =>
      have hsplit : done ++ contact :: contacts = (done ++ [contact]) ++ contacts := by simp
      have hnew : contact.identifier ∉ done.map Contact.identifier := by
        rw [List.map_append, List.map_cons] at hdistinct
        intro hmem
        exact (List.nodup_append.mp hdistinct).2.2 _ hmem _ List.mem_cons_self rfl
      rw [Receiver.registerContacts]
      cases hresult : registerContact registration contact with
      | ok result =>
          rw [hsplit] at hdistinct ⊢
          exact ih (h.register hnew hresult) hdistinct
      | error error =>
          have hregistered := registerContact_registered h.valid contact
          rw [hresult] at hregistered
          cases hregistered with
          | full htip hfresh hfull =>
              refine .exceeded registration done h hfull ?_
              have hlookup : start.lookup contact.identifier = none := by
                rw [SlotTable.lookup_eq_none_iff]
                exact fun hmem => hfresh (List.map_subset _ h.extends_start hmem)
              have hcount := h.count
              simp only [newContacts, List.filter_append, List.length_append, htip,
                List.filter_cons, hlookup, Option.isNone_none, Bool.and_self, if_true,
                List.length_cons] at hcount ⊢
              omega

theorem registerContacts_arrived {registration registered : Registration}
    {error : Option ProtocolError} (hvalid : registration.slots.Valid)
    {contacts : List Contact} (hdistinct : (contacts.map Contact.identifier).Nodup)
    (h : registerContacts registration contacts = (error, registered)) :
    ∃ arrived, registered.slots = registration.slots ++ arrived ∧
      SlotTable.LowestFirst registration.slots arrived ∧
      (error = none → arrived.map Prod.fst =
        (newContacts registration.slots contacts).map Contact.identifier) := by
  induction contacts generalizing registration with
  | nil =>
      cases h
      exact ⟨[], by simp, .nil, by simp [newContacts]⟩
  | cons contact contacts ih =>
      rw [List.map_cons, List.nodup_cons] at hdistinct
      have hregistered := registerContact_registered hvalid contact
      rw [registerContacts] at h
      cases hresult : registerContact registration contact with
      | error thrown =>
          rw [hresult] at h
          cases h
          exact ⟨[], by simp, .nil, by simp⟩
      | ok result =>
          rw [hresult] at h hregistered
          dsimp only at h
          cases hregistered with
          | skipped htip =>
              obtain ⟨arrived, hslots, hlowest, hkeys⟩ := ih hvalid hdistinct.2 h
              refine ⟨arrived, hslots, hlowest, fun hnone => ?_⟩
              rw [hkeys hnone]
              simp [newContacts, htip]
          | known slot htip hslot =>
              obtain ⟨arrived, hslots, hlowest, hkeys⟩ := ih (by exact hvalid) hdistinct.2 h
              refine ⟨arrived, hslots, hlowest, fun hnone => ?_⟩
              rw [hkeys hnone]
              simp [newContacts, hvalid.lookup_eq_some_iff.mpr hslot]
          | allocated slot htip hnew hroom hslot =>
              obtain ⟨hlt, hfree, -⟩ := SlotTable.lowestFree_eq_some_iff.mp hslot
              obtain ⟨arrived, hslots, hlowest, hkeys⟩ :=
                ih (hvalid.append hnew hfree hlt) hdistinct.2 h
              refine ⟨(contact.identifier, slot) :: arrived, by simpa using hslots,
                .cons (SlotTable.lowestFree_isLeast hslot) hlowest, fun hnone => ?_⟩
              have hlookup := SlotTable.lookup_eq_none_iff.mpr hnew
              have hothers : newContacts (registration.slots ++ [(contact.identifier, slot)])
                  contacts = newContacts registration.slots contacts := by
                apply List.filter_congr
                intro other hother
                have hne : other.identifier ≠ contact.identifier := by
                  intro heq
                  exact hdistinct.1 (heq ▸ List.mem_map_of_mem hother)
                have hmiss : (other.identifier == contact.identifier) = false := by
                  simpa using hne
                simp [List.lookup_append, List.lookup_cons, hmiss]
              rw [List.map_cons, hkeys hnone, hothers]
              simp [newContacts, htip, hlookup]

/-! ## Leaving contacts -/

section Leaving

variable {slots : SlotMap} {previousContacts : ContactSlots} {present : List UInt32}

theorem carryLeaving_get (hvalid : slots.Valid) (nextContacts : ContactSlots)
    (slot : Nat) (contact : Contact) :
    (carryLeaving previousContacts present slots nextContacts).get slot = some contact ↔
      (∃ identifier last, (identifier, slot) ∈ slots ∧ identifier ∉ present ∧
        previousContacts.get slot = some last ∧ contact = last.lifted) ∨
      ((∀ identifier, (identifier, slot) ∈ slots → identifier ∉ present →
          previousContacts.get slot = none) ∧
        nextContacts.get slot = some contact) := by
  induction slots generalizing nextContacts with
  | nil => simp [carryLeaving]
  | cons item slots ih =>
      obtain ⟨identifier, held⟩ := item
      have hlater := ih hvalid.tail
      have hfresh : ∀ other, (other, held) ∉ slots := by
        intro other hother
        have hslots := (List.nodup_cons.mp hvalid.slots_nodup).1
        exact hslots (List.mem_map.mpr ⟨_, hother, rfl⟩)
      rw [carryLeaving]
      split
      case isTrue hpresent =>
        rw [hlater]
        grind
      case isFalse habsent =>
        cases hlast : previousContacts.get held with
        | none =>
            simp only []
            rw [hlater]
            grind
        | some last =>
            simp only []
            rw [hlater, ContactSlots.get_put _ (hvalid.slot_lt _ List.mem_cons_self)]
            grind

theorem eraseLeaving_slots (leaving : List UInt32) (hvalid : slots.Valid) :
    (eraseLeaving leaving (slots, previousContacts)).1 =
      slots.filter fun item => item.1 ∉ leaving := by
  induction leaving generalizing slots previousContacts with
  | nil => simp [eraseLeaving]
  | cons identifier leaving ih =>
      rw [eraseLeaving]
      cases hlookup : slots.lookup identifier with
      | none =>
          have habsent := SlotTable.lookup_eq_none_iff.mp hlookup
          rw [ih hvalid]
          apply List.filter_congr
          intro item hitem
          have hne : item.1 ≠ identifier := fun heq => habsent (heq ▸ List.mem_map_of_mem hitem)
          simp [hne]
      | some slot =>
          simp only []
          rw [ih (hvalid.filter _), List.filter_filter]
          apply List.filter_congr
          intro item _
          simp [Bool.and_comm]

theorem eraseLeaving_get (leaving : List UInt32) (hvalid : slots.Valid) (slot : Nat)
    (contact : Contact) :
    (eraseLeaving leaving (slots, previousContacts)).2.get slot = some contact ↔
      previousContacts.get slot = some contact ∧
        ∀ identifier, (identifier, slot) ∈ slots → identifier ∉ leaving := by
  induction leaving generalizing slots previousContacts with
  | nil => simp [eraseLeaving]
  | cons identifier leaving ih =>
      rw [eraseLeaving]
      cases hlookup : slots.lookup identifier with
      | none =>
          have habsent := SlotTable.lookup_eq_none_iff.mp hlookup
          simp only []
          rw [ih hvalid]
          grind
      | some held =>
          have hheld := hvalid.lookup_eq_some_iff.mp hlookup
          simp only []
          rw [ih (hvalid.filter _), ContactSlots.get_put _ (hvalid.slot_lt _ hheld)]
          constructor
          · rintro ⟨hget, hothers⟩
            have hne : slot ≠ held := by
              rintro rfl
              simp at hget
            refine ⟨by simpa [hne] using hget, fun other hother hleaving => ?_⟩
            rcases List.mem_cons.mp hleaving with rfl | hleaving
            · exact hne (hvalid.slot_unique hother hheld)
            · by_cases hsame : other = identifier
              · exact hne (hvalid.slot_unique (hsame ▸ hother) hheld)
              · exact hothers other (by simp [hother, hsame]) hleaving
          · rintro ⟨hget, hothers⟩
            have hne : slot ≠ held := by
              rintro rfl
              exact hothers identifier hheld List.mem_cons_self
            refine ⟨by simpa [hne] using hget, fun other hother hleaving => ?_⟩
            exact hothers other (List.mem_of_mem_filter hother)
              (List.mem_cons_of_mem _ hleaving)

end Leaving

theorem storeContacts_get {slots : SlotMap} (hvalid : slots.Valid) {contacts : List Contact}
    (hdistinct : (contacts.map Contact.identifier).Nodup)
    (previousContacts : ContactSlots) (slot : Nat) (contact : Contact) :
    (storeContacts contacts slots previousContacts).get slot = some contact ↔
      (contact ∈ contacts ∧ (contact.identifier, slot) ∈ slots) ∨
      ((∀ identifier, (identifier, slot) ∈ slots →
          identifier ∉ contacts.map Contact.identifier) ∧
        previousContacts.get slot = some contact) := by
  induction slots generalizing previousContacts with
  | nil => simp [storeContacts]
  | cons item slots ih =>
      obtain ⟨identifier, held⟩ := item
      have hlater := ih hvalid.tail
      have hfresh : ∀ other, (other, held) ∉ slots := by
        intro other hother
        have hslots := (List.nodup_cons.mp hvalid.slots_nodup).1
        exact hslots (List.mem_map.mpr ⟨_, hother, rfl⟩)
      rw [storeContacts]
      cases hfind : contacts.find? fun item => item.identifier = identifier with
      | none =>
          have habsent : identifier ∉ contacts.map Contact.identifier := by
            simpa using hfind
          simp only []
          rw [hlater]
          grind
      | some found =>
          have hfound : found ∈ contacts := List.mem_of_find?_eq_some hfind
          have hidentifier : found.identifier = identifier := by
            simpa using List.find?_some hfind
          have honly : ∀ other ∈ contacts, other.identifier = identifier → other = found :=
            fun other hother heq =>
              List.inj_on_of_nodup_map hdistinct hother hfound (heq.trans hidentifier.symm)
          simp only []
          rw [hlater, ContactSlots.get_put _ (hvalid.slot_lt _ List.mem_cons_self)]
          grind

/-! ## The loops together -/

def tipIdentifiers (contacts : List Contact) : List UInt32 :=
  (contacts.filter Contact.hasTip).map Contact.identifier

theorem mem_tipIdentifiers {contacts : List Contact} {identifier : UInt32} :
    identifier ∈ tipIdentifiers contacts ↔
      ∃ contact ∈ contacts, contact.hasTip = true ∧ contact.identifier = identifier := by
  simp [tipIdentifiers, and_assoc]

def ContactSlots.overlay (before after : ContactSlots) : ContactSlots :=
  fun slot => (after slot).or ((before slot).map Contact.lifted)

theorem ContactSlots.get_overlay (before after : ContactSlots) (slot : Nat) :
    (overlay before after).get slot =
      (after.get slot).or ((before.get slot).map Contact.lifted) := by
  by_cases hslot : slot < mtpHidMaxContacts <;> simp [get, overlay, hslot]

def Held (slots : SlotMap) (contacts : ContactSlots) : Prop :=
  ∀ slot contact, contacts.get slot = some contact →
    contact.hasTip = true ∧ (contact.identifier, slot) ∈ slots

/-- The slots and contacts after a FRAME with the given contacts over the slots
`start`: nothing in `start` moves, everything used during the FRAME is in
`registered`, and what is not a TIP identifier of the message has left. -/
structure Assigned (start registered : SlotMap) (contacts : List Contact)
    (slots : SlotMap) (stored : ContactSlots) : Prop where
  registered_valid : registered.Valid
  start_subset : start ⊆ registered
  slots_eq : slots = registered.filter fun item => item.1 ∈ tipIdentifiers contacts
  placed : ∀ identifier ∈ tipIdentifiers contacts, ∃ slot, (identifier, slot) ∈ slots
  stored_iff : ∀ slot contact, stored.get slot = some contact ↔
    contact ∈ contacts ∧ contact.hasTip = true ∧ (contact.identifier, slot) ∈ slots

namespace Registers

variable {start : SlotMap} {contacts : List Contact} {registration : Registration}
  {previousContacts : ContactSlots}

theorem present_iff_tip (h : Registers start contacts registration) (identifier : UInt32) :
    identifier ∈ registration.present ↔ identifier ∈ tipIdentifiers contacts := by
  rw [h.present_iff, mem_tipIdentifiers]

theorem assigned (h : Registers start contacts registration)
    (hdistinct : (contacts.map Contact.identifier).Nodup)
    (hheld : Held start previousContacts) :
    let leaving := (registration.slots.map Prod.fst).filter (· ∉ registration.present)
    let erased := eraseLeaving leaving (registration.slots, previousContacts)
    Assigned start registration.slots contacts erased.1
      (storeContacts contacts erased.1 erased.2) := by
  intro leaving erased
  have hslots : erased.1 =
      registration.slots.filter fun item => item.1 ∈ tipIdentifiers contacts := by
    rw [eraseLeaving_slots leaving h.valid]
    apply List.filter_congr
    intro item hitem
    have hkey : item.1 ∈ registration.slots.map Prod.fst := List.mem_map_of_mem hitem
    simp only [leaving, List.mem_filter, hkey, true_and, h.present_iff_tip, decide_not,
      Bool.not_eq_true', decide_eq_false_iff_not, not_not]
  have hmem : ∀ identifier slot, (identifier, slot) ∈ erased.1 ↔
      (identifier, slot) ∈ registration.slots ∧ identifier ∈ tipIdentifiers contacts := by
    simp [hslots]
  have hvalid : SlotMap.Valid erased.1 := hslots ▸ h.valid.filter _
  refine ⟨h.valid, h.extends_start, hslots, ?_, ?_⟩
  · intro identifier htip
    obtain ⟨slot, hslot⟩ := h.placed identifier ((h.present_iff_tip _).mpr htip)
    exact ⟨slot, (hmem _ _).mpr ⟨hslot, htip⟩⟩
  · intro slot contact
    rw [storeContacts_get hvalid hdistinct, eraseLeaving_get leaving h.valid]
    constructor
    · rintro (⟨hcontact, hslot⟩ | ⟨hunused, hprevious, hstays⟩)
      · obtain ⟨other, hother, htip, hsame⟩ := mem_tipIdentifiers.mp ((hmem _ _).mp hslot).2
        rw [List.inj_on_of_nodup_map hdistinct hother hcontact hsame] at htip
        exact ⟨hcontact, htip, hslot⟩
      · -- A contact that was kept is one of the message after all.
        exfalso
        obtain ⟨-, hslot⟩ := hheld slot contact hprevious
        have hslot := h.extends_start hslot
        have hpresent : contact.identifier ∈ registration.present := by
          by_contra habsent
          refine hstays _ hslot (List.mem_filter.mpr ⟨List.mem_map_of_mem hslot, ?_⟩)
          simpa using habsent
        have htip := (h.present_iff_tip _).mp hpresent
        obtain ⟨other, hother, -, hsame⟩ := mem_tipIdentifiers.mp htip
        exact hunused _ ((hmem _ _).mpr ⟨hslot, htip⟩)
          (List.mem_map.mpr ⟨other, hother, hsame⟩)
    · rintro ⟨hcontact, -, hslot⟩
      exact .inl ⟨hcontact, hslot⟩

theorem carried (h : Registers start contacts registration)
    (hheld : Held start previousContacts) {slots : SlotMap} {stored : ContactSlots}
    (hassigned : Assigned start registration.slots contacts slots stored) :
    carryLeaving previousContacts registration.present registration.slots
        registration.nextContacts =
      previousContacts.overlay stored := by
  have hstored : ∀ slot, stored.get slot = registration.nextContacts.get slot := by
    intro slot
    apply Option.ext
    intro contact
    rw [hassigned.stored_iff, h.next_iff, hassigned.slots_eq]
    constructor
    · rintro ⟨hcontact, htip, hslot⟩
      exact ⟨hcontact, htip, List.mem_of_mem_filter hslot⟩
    · rintro ⟨hcontact, htip, hslot⟩
      refine ⟨hcontact, htip, List.mem_filter.mpr ⟨hslot, ?_⟩⟩
      simpa using mem_tipIdentifiers.mpr ⟨contact, hcontact, htip, rfl⟩
  apply ContactSlots.ext_get
  intro slot contact
  rw [carryLeaving_get h.valid, ContactSlots.get_overlay, hstored]
  cases hnext : registration.nextContacts.get slot with
  | some shown =>
      -- The slot belongs to a TIP identifier, so nothing is carried over it.
      obtain ⟨hshown, htip, hslot⟩ := (h.next_iff slot shown).mp hnext
      have hpresent := (h.present_iff_tip _).mpr (mem_tipIdentifiers.mpr ⟨shown, hshown, htip, rfl⟩)
      constructor
      · rintro (⟨identifier, last, hother, habsent, -⟩ | ⟨-, hcontact⟩)
        · exact absurd (h.valid.key_unique hslot hother ▸ hpresent) habsent
        · simpa using hcontact
      · intro hcontact
        refine .inr ⟨fun identifier hother habsent => ?_, by simpa using hcontact⟩
        exact absurd (h.valid.key_unique hslot hother ▸ hpresent) habsent
  | none =>
      cases hlast : previousContacts.get slot with
      | none => simp
      | some last =>
          obtain ⟨-, hslot⟩ := hheld slot last hlast
          have hslot := h.extends_start hslot
          have habsent : last.identifier ∉ registration.present := by
            intro hpresent
            obtain ⟨shown, hshown, htip, hsame⟩ := (h.present_iff _).mp hpresent
            have := (h.next_iff slot shown).mpr ⟨hshown, htip, hsame ▸ hslot⟩
            rw [hnext] at this
            cases this
          constructor
          · rintro (⟨identifier, last', -, -, hlast', rfl⟩ | ⟨-, hcontact⟩)
            · cases hlast'
              rfl
            · cases hcontact
          · intro hcontact
            cases hcontact
            exact .inl ⟨last.identifier, last, hslot, habsent, rfl, rfl⟩

end Registers

end Touchpad.Receiver
