import Touchpad.Receiver.SlotLoops

/-!
# The reported frames

Both report loops fill a frame slot by slot.  Their result is `filled`: a header,
the records of the occupied slots in slot order, and zeros behind them.
-/

namespace Touchpad.Receiver

open Touchpad.Foundation
open Touchpad.Shared

/-! ## Contacts and their flags -/

@[simp] theorem Contact.lifted_hasTip (contact : Contact) : contact.lifted.hasTip = false := by
  have hmask : contact.flags &&& ~~~kTip &&& kTip = 0 := by
    rw [UInt8.and_assoc, show ~~~kTip &&& kTip = 0 by decide, UInt8.and_zero]
  simp [hasTip, lifted, hmask]

def ioctlContact (slot : Nat) (source : Contact) : IoctlContact where
  slot := UInt8.ofNat slot
  flags := source.flags
  x := toLogical (Binary32.value source.x)
  y := toLogicalY (Binary32.value source.y)

theorem ioctlContact_slot {slot : Nat} (h : slot < mtpHidMaxContacts) (source : Contact) :
    (ioctlContact slot source).slot.toNat = slot := by
  have hlt : slot < 2 ^ 8 := h.trans (by decide)
  simpa [ioctlContact] using hlt

@[simp] theorem ioctlContact_hasTip (slot : Nat) (source : Contact) :
    (ioctlContact slot source).hasTip = source.hasTip := rfl

/-! ## Filled frames -/

def filled (header : IoctlFrame) (records : List IoctlContact) : IoctlFrame :=
  { header with
    activeContactCount := UInt8.ofNat (records.countP IoctlContact.hasTip)
    reportContactCount := UInt8.ofNat records.length
    contacts := fun i => records.getD i {} }

section Filled

variable (header : IoctlFrame) {records : List IoctlContact}

theorem filled_reportContactCount (h : records.length ≤ mtpHidMaxContacts) :
    (filled header records).reportContactCount.toNat = records.length := by
  have hlt : records.length < 2 ^ 8 := by
    simp only [mtpHidMaxContacts] at h
    omega
  simpa [filled] using hlt

theorem filled_activeContactCount (h : records.length ≤ mtpHidMaxContacts) :
    (filled header records).activeContactCount.toNat =
      records.countP IoctlContact.hasTip := by
  have hcount : records.countP IoctlContact.hasTip ≤ records.length := List.countP_le_length
  have hlt : records.countP IoctlContact.hasTip < 2 ^ 8 := by
    simp only [mtpHidMaxContacts] at h
    omega
  simpa [filled] using hlt

theorem filled_records (h : records.length ≤ mtpHidMaxContacts) :
    (filled header records).records = records := by
  rw [IoctlFrame.records, filled_reportContactCount header h]
  apply List.ext_getElem
  · simpa using h
  · intro i hi hi'
    rw [List.getElem_take, List.getElem_ofFn]
    simp [filled, hi']

theorem pushContact_filled (h : records.length < mtpHidMaxContacts)
    (slot : Fin mtpHidMaxContacts) (source : Contact) :
    pushContact (filled header records) slot source.flags source =
      { filled header (records ++ [ioctlContact slot source]) with
        activeContactCount := (filled header records).activeContactCount } := by
  have hcount := filled_reportContactCount header h.le
  rw [pushContact, hcount]
  simp only [filled, List.length_append, List.length_singleton, IoctlFrame.mk.injEq,
    true_and]
  constructor
  · rw [← UInt8.ofNat_one, ← UInt8.ofNat_add]
  · funext i
    rcases Nat.lt_trichotomy i.val records.length with hi | hi | hi
    · simp [hi.ne, List.getElem?_append_left hi]
    · simp [hi, ioctlContact]
    · have hnone : records[i.val]? = none := List.getElem?_eq_none hi.le
      have hnone' : (records ++ [ioctlContact slot source])[i.val]? = none :=
        List.getElem?_eq_none (by simp; omega)
      simp [hi.ne', hnone, hnone']

end Filled

def slotRecords (contacts : ContactSlots) (slots : List (Fin mtpHidMaxContacts)) :
    List IoctlContact :=
  slots.filterMap fun slot => (contacts slot).map (ioctlContact slot)

def frameRecords (contacts : ContactSlots) : List IoctlContact :=
  slotRecords contacts (List.finRange mtpHidMaxContacts)

theorem slotRecords_length_le (contacts : ContactSlots) (slots : List (Fin mtpHidMaxContacts)) :
    (slotRecords contacts slots).length ≤ slots.length :=
  List.length_filterMap_le _ _

theorem frameRecords_length_le (contacts : ContactSlots) :
    (frameRecords contacts).length ≤ mtpHidMaxContacts := by
  simpa [frameRecords] using slotRecords_length_le contacts (List.finRange mtpHidMaxContacts)

theorem reportContacts_filled (nextContacts : ContactSlots) (header : IoctlFrame)
    (slots : List (Fin mtpHidMaxContacts)) (records : List IoctlContact)
    (h : records.length + slots.length ≤ mtpHidMaxContacts) :
    reportContacts nextContacts slots (filled header records) =
      .ok (filled header (records ++ slotRecords nextContacts slots)) := by
  induction slots generalizing records with
  | nil => simp [reportContacts, slotRecords]
  | cons slot slots ih =>
      rw [List.length_cons] at h
      cases hsource : nextContacts slot with
      | none =>
          simp only [reportContacts, hsource, slotRecords, List.filterMap_cons, Option.map_none]
          exact ih records (by omega)
      | some source =>
          have hroom : records.length < mtpHidMaxContacts := by omega
          have hcount := filled_reportContactCount header hroom.le
          have hpush := pushContact_filled header hroom slot source
          have hstep : (if source.hasTip then
                { pushContact (filled header records) slot source.flags source with
                  activeContactCount :=
                    (pushContact (filled header records) slot source.flags
                      source).activeContactCount + 1 }
              else pushContact (filled header records) slot source.flags source) =
              filled header (records ++ [ioctlContact slot source]) := by
            rw [hpush]
            cases htip : source.hasTip with
            | true =>
                simp [filled, List.countP_append, htip]
            | false => simp [filled, List.countP_append, htip]
          simp only [reportContacts, hsource, hcount, not_le.mpr hroom, if_false, hstep]
          rw [ih _ (by rw [List.length_append, List.length_singleton]; omega)]
          simp [slotRecords, hsource]

theorem releaseContacts_filled (previousContacts : ContactSlots) (header : IoctlFrame)
    (slots : List (Fin mtpHidMaxContacts)) (records : List IoctlContact)
    (h : records.length + slots.length ≤ mtpHidMaxContacts)
    (hrecords : records.countP IoctlContact.hasTip = 0) :
    releaseContacts previousContacts slots (filled header records) =
      filled header (records ++
        slotRecords (previousContacts.overlay ContactSlots.none) slots) := by
  induction slots generalizing records with
  | nil => simp [releaseContacts, slotRecords]
  | cons slot slots ih =>
      rw [List.length_cons] at h
      cases hsource : previousContacts slot with
      | none =>
          simp only [releaseContacts, hsource, slotRecords, List.filterMap_cons,
            ContactSlots.overlay, ContactSlots.none, Option.map_none, Option.or_none]
          exact ih records (by omega) hrecords
      | some source =>
          have hcount : (records ++ [ioctlContact slot source.lifted]).countP
              IoctlContact.hasTip = 0 := by
            simp [List.countP_append, hrecords]
          have hpush := pushContact_filled header
            (show records.length < mtpHidMaxContacts by omega) slot source.lifted
          have hstep : pushContact (filled header records) slot (source.flags &&& ~~~kTip) source =
              filled header (records ++ [ioctlContact slot source.lifted]) := by
            refine Eq.trans (b := pushContact (filled header records) slot
              source.lifted.flags source.lifted) rfl ?_
            rw [hpush]
            simp only [filled, hcount, hrecords]
          simp only [releaseContacts, hsource, hstep]
          rw [ih _ (by rw [List.length_append, List.length_singleton]; omega) hcount]
          simp [slotRecords, ContactSlots.overlay, ContactSlots.none, hsource]

/-! ## The records of a slot -/

theorem mem_frameRecords {contacts : ContactSlots} {record : IoctlContact} :
    record ∈ frameRecords contacts ↔
      ∃ slot source, contacts.get slot = some source ∧ ioctlContact slot source = record := by
  simp only [frameRecords, slotRecords, List.mem_filterMap, List.mem_finRange, true_and,
    Option.map_eq_some_iff]
  constructor
  · rintro ⟨slot, source, hsource, rfl⟩
    exact ⟨slot, source, by simpa using hsource, rfl⟩
  · rintro ⟨slot, source, hsource, rfl⟩
    have hslot := contacts.lt_of_get hsource
    exact ⟨⟨slot, hslot⟩, source, by simpa [ContactSlots.get, hslot] using hsource, rfl⟩

theorem frameRecords_slot_lt {contacts : ContactSlots} {record : IoctlContact}
    (h : record ∈ frameRecords contacts) : record.slot.toNat < mtpHidMaxContacts := by
  obtain ⟨slot, source, hsource, rfl⟩ := mem_frameRecords.mp h
  have hslot := contacts.lt_of_get hsource
  rwa [ioctlContact_slot hslot]

theorem frameRecords_slots_nodup (contacts : ContactSlots) :
    ((frameRecords contacts).map IoctlContact.slot).Nodup := by
  rw [frameRecords, slotRecords, List.map_filterMap]
  refine (List.nodup_finRange _).filterMap ?_
  intro first second slot hfirst hsecond
  simp only [Option.mem_def, Option.map_eq_some_iff, exists_exists_and_eq_and] at hfirst hsecond
  obtain ⟨source, -, rfl⟩ := hfirst
  obtain ⟨source', -, heq⟩ := hsecond
  apply Fin.ext
  rw [← ioctlContact_slot first.isLt source, ← ioctlContact_slot second.isLt source', heq]

theorem frameRecords_sorted (contacts : ContactSlots) :
    (frameRecords contacts).Pairwise fun record later => record.slot < later.slot := by
  unfold frameRecords slotRecords
  rw [List.pairwise_filterMap]
  refine (List.pairwise_lt_finRange mtpHidMaxContacts).imp ?_
  intro slot other hlt record hrecord later hlater
  obtain ⟨source, -, rfl⟩ := Option.map_eq_some_iff.mp hrecord
  obtain ⟨source', -, rfl⟩ := Option.map_eq_some_iff.mp hlater
  rw [UInt8.lt_iff_toNat_lt, ioctlContact_slot slot.isLt, ioctlContact_slot other.isLt]
  exact hlt

theorem toLogical_le (value : Rat) : toLogical value ≤ mtpCoordinateLogicalMax := by
  have hmax : mtpCoordinateLogicalMax.toNat = 32767 := rfl
  rw [UInt16.le_iff_toNat_le, toLogical]
  simp only [hmax]
  generalize hclamped : (if value < 0 then 0 else if 1 < value then 1 else value) = clamped
  have hbounds : 0 ≤ clamped ∧ clamped ≤ 1 := by
    rw [← hclamped]
    split_ifs with hneg hbig
    · norm_num
    · norm_num
    · exact ⟨not_lt.mp hneg, not_lt.mp hbig⟩
  have hrounded : roundHalfUp (clamped * (32767 : Nat)) ≤ 32767 := by
    apply roundHalfUp_le
    push_cast
    linarith [hbounds.2]
  rw [UInt16.toNat_ofNat']
  omega

private theorem slotRecords_filter (contacts : ContactSlots) (slot : Nat)
    (slots : List (Fin mtpHidMaxContacts)) (hnodup : slots.Nodup) :
    (slotRecords contacts slots).filter (fun record => record.slot.toNat = slot) =
      if slot ∈ slots.map Fin.val then
        ((contacts.get slot).map (ioctlContact slot)).toList else [] := by
  induction slots with
  | nil => simp [slotRecords]
  | cons other slots ih =>
      obtain ⟨hnew, hnodup⟩ := List.nodup_cons.mp hnodup
      have hlater := ih hnodup
      have hslot := fun source => ioctlContact_slot other.isLt source
      by_cases hsame : slot = other.val
      · subst hsame
        have habsent : other.val ∉ slots.map Fin.val := by
          simpa [Fin.val_inj] using hnew
        rw [if_neg habsent] at hlater
        cases hsource : contacts other <;>
          simpa [slotRecords, hsource, hslot] using hlater
      · have hskip : (slotRecords contacts (other :: slots)).filter
              (fun record => record.slot.toNat = slot) =
            (slotRecords contacts slots).filter fun record => record.slot.toNat = slot := by
          cases hsource : contacts other <;>
            simp [slotRecords, hsource, hslot, Ne.symm hsame]
        rw [hskip, hlater]
        simp [hsame]

theorem filled_recordsFor (header : IoctlFrame) (contacts : ContactSlots) (slot : Nat) :
    (filled header (frameRecords contacts)).recordsFor slot =
      ((contacts.get slot).map (ioctlContact slot)).toList := by
  rw [IoctlFrame.recordsFor, filled_records header (frameRecords_length_le contacts), frameRecords,
    slotRecords_filter contacts slot _ (List.nodup_finRange _)]
  split
  case isTrue => rfl
  case isFalse habsent =>
    have hslot : ¬ slot < mtpHidMaxContacts := by
      simpa [Fin.exists_iff] using habsent
    simp [ContactSlots.get, hslot]

end Touchpad.Receiver
