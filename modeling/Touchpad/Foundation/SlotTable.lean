import Mathlib.Data.List.Nodup
import Mathlib.Data.List.Perm.Subperm
import Mathlib.Order.Bounds.Basic

/-!
# Slot tables

An association list from keys to slot numbers below a capacity.  A valid table
gives different keys different slots, so it never holds more than `capacity`
entries, and while there is room a lowest free slot exists.  A table filled by
taking the lowest free slot each time has no gaps; entries that leave a table
without gaps leave none behind when they leave from the top.
-/

namespace Touchpad.Foundation

/-- Keys and slots occur once each, and every slot is below the capacity. -/
structure SlotTable.Valid {κ : Type*} (capacity : Nat) (table : List (κ × Nat)) : Prop where
  keys_nodup : (table.map Prod.fst).Nodup
  slots_nodup : (table.map Prod.snd).Nodup
  slot_lt : ∀ item ∈ table, item.2 < capacity

namespace SlotTable

variable {κ : Type*} {capacity : Nat} {table : List (κ × Nat)}

theorem Valid.nil : Valid capacity ([] : List (κ × Nat)) := by
  constructor <;> simp

theorem Valid.slot_unique (h : Valid capacity table) {key : κ} {slot slot' : Nat}
    (hslot : (key, slot) ∈ table) (hslot' : (key, slot') ∈ table) : slot = slot' :=
  congrArg Prod.snd (List.inj_on_of_nodup_map h.keys_nodup hslot hslot' rfl)

theorem Valid.key_unique (h : Valid capacity table) {key key' : κ} {slot : Nat}
    (hkey : (key, slot) ∈ table) (hkey' : (key', slot) ∈ table) : key = key' :=
  congrArg Prod.fst (List.inj_on_of_nodup_map h.slots_nodup hkey hkey' rfl)

theorem Valid.filter (h : Valid capacity table) (keep : κ × Nat → Bool) :
    Valid capacity (table.filter keep) where
  keys_nodup := h.keys_nodup.sublist (List.filter_sublist.map Prod.fst)
  slots_nodup := h.slots_nodup.sublist (List.filter_sublist.map Prod.snd)
  slot_lt item hitem := h.slot_lt item (List.mem_of_mem_filter hitem)

theorem Valid.tail {item : κ × Nat} (h : Valid capacity (item :: table)) :
    Valid capacity table where
  keys_nodup := (List.nodup_cons.mp h.keys_nodup).2
  slots_nodup := (List.nodup_cons.mp h.slots_nodup).2
  slot_lt other hother := h.slot_lt other (List.mem_cons_of_mem _ hother)

theorem Valid.append (h : Valid capacity table) {key : κ} {slot : Nat}
    (hkey : key ∉ table.map Prod.fst) (hslot : slot ∉ table.map Prod.snd)
    (hlt : slot < capacity) : Valid capacity (table ++ [(key, slot)]) where
  keys_nodup := by
    rw [List.map_append, List.nodup_append_comm]
    simpa using ⟨by simpa using hkey, h.keys_nodup⟩
  slots_nodup := by
    rw [List.map_append, List.nodup_append_comm]
    simpa using ⟨by simpa using hslot, h.slots_nodup⟩
  slot_lt item hitem := by
    rcases List.mem_append.mp hitem with hitem | hitem
    · exact h.slot_lt item hitem
    · rw [List.mem_singleton.mp hitem]
      exact hlt

theorem Valid.slots_subset (h : Valid capacity table) :
    table.map Prod.snd ⊆ List.range capacity := by
  intro slot hslot
  obtain ⟨item, hitem, rfl⟩ := List.mem_map.mp hslot
  exact List.mem_range.mpr (h.slot_lt item hitem)

theorem countP_finRange_mem {slots : List Nat} (hnodup : slots.Nodup)
    (hlt : ∀ slot ∈ slots, slot < capacity) :
    ((List.finRange capacity).countP fun i => i.val ∈ slots) = slots.length := by
  have hmap : ((List.finRange capacity).countP fun i => i.val ∈ slots) =
      ((List.finRange capacity).map Fin.val).countP (· ∈ slots) := by
    rw [List.countP_map]
    rfl
  have hperm : ((List.range capacity).filter (· ∈ slots)).Perm slots := by
    rw [List.perm_ext_iff_of_nodup (List.nodup_range.filter _) hnodup]
    intro slot
    rw [List.mem_filter, decide_eq_true_iff, List.mem_range]
    exact ⟨fun h => h.2, fun h => ⟨hlt slot h, h⟩⟩
  rw [hmap, List.map_coe_finRange_eq_range, List.countP_eq_length_filter, hperm.length_eq]

theorem Valid.length_le (h : Valid capacity table) : table.length ≤ capacity := by
  simpa using (List.subperm_of_subset h.slots_nodup h.slots_subset).length_le

/-! ## Looking up a key -/

variable [BEq κ] [LawfulBEq κ]

theorem Valid.lookup_eq_some_iff (h : Valid capacity table) {key : κ} {slot : Nat} :
    table.lookup key = some slot ↔ (key, slot) ∈ table := by
  constructor
  · intro hlookup
    obtain ⟨before, after, rfl, -⟩ := List.lookup_eq_some_iff.mp hlookup
    simp
  · intro hmem
    cases hlookup : table.lookup key with
    | none => simpa using List.lookup_eq_none_iff.mp hlookup _ hmem
    | some slot' =>
        obtain ⟨before, after, htable, -⟩ := List.lookup_eq_some_iff.mp hlookup
        have hmem' : (key, slot') ∈ table := by simp [htable]
        rw [h.slot_unique hmem hmem']

theorem lookup_eq_none_iff {key : κ} :
    table.lookup key = none ↔ key ∉ table.map Prod.fst := by
  rw [List.lookup_eq_none_iff]
  constructor
  · intro h hmem
    obtain ⟨item, hitem, rfl⟩ := List.mem_map.mp hmem
    simpa using h item hitem
  · intro h item hitem
    simp only [bne_iff_ne]
    rintro rfl
    exact h (List.mem_map_of_mem hitem)

/-! ## The lowest free slot -/

omit [BEq κ] [LawfulBEq κ]

def lowestFree (capacity : Nat) (table : List (κ × Nat)) : Option Nat :=
  (List.range capacity).find? fun candidate => !table.any fun item => item.2 = candidate

theorem lowestFree_eq_some_iff {slot : Nat} :
    lowestFree capacity table = some slot ↔
      slot < capacity ∧ slot ∉ table.map Prod.snd ∧
        ∀ lower < slot, lower ∈ table.map Prod.snd := by
  rw [lowestFree, List.find?_range_eq_some]
  simp only [Bool.not_eq_eq_eq_not, Bool.not_true, List.any_eq_false, decide_eq_true_eq,
    List.mem_range, List.mem_map, Bool.not_not, List.any_eq_true]
  constructor
  · rintro ⟨hfree, hlt, hlower⟩
    exact ⟨hlt, fun ⟨item, hitem, heq⟩ => hfree item hitem heq, hlower⟩
  · rintro ⟨hlt, hfree, hlower⟩
    exact ⟨fun item hitem heq => hfree ⟨item, hitem, heq⟩, hlt, hlower⟩

/-- By counting: `capacity` used slots would need as many entries. -/
theorem lowestFree_isSome (hroom : table.length < capacity) :
    (lowestFree capacity table).isSome := by
  by_contra hnone
  have hused : List.range capacity ⊆ table.map Prod.snd := by
    intro slot hslot
    rw [Option.not_isSome_iff_eq_none, lowestFree, List.find?_eq_none] at hnone
    simpa using hnone slot hslot
  have hlength := (List.subperm_of_subset List.nodup_range hused).length_le
  simp only [List.length_range, List.length_map] at hlength
  omega

theorem lowestFree_isLeast {slot : Nat} (h : lowestFree capacity table = some slot) :
    IsLeast {free | free ∉ table.map Prod.snd} slot := by
  obtain ⟨-, hfree, hlower⟩ := lowestFree_eq_some_iff.mp h
  refine ⟨hfree, fun other hother => ?_⟩
  by_contra hlt
  exact hother (hlower other (not_le.mp hlt))

/-! ## Tables filled from below -/

def LowestFirst (held added : List (κ × Nat)) : Prop :=
  ∀ earlier item later, added = earlier ++ item :: later →
    IsLeast {slot | slot ∉ (held ++ earlier).map Prod.snd} item.2

/-- The slots in use are the lowest ones. -/
def Compact (table : List (κ × Nat)) : Prop :=
  ∀ item ∈ table, item.2 < table.length

variable {held added : List (κ × Nat)}

theorem LowestFirst.nil : LowestFirst held [] := by
  intro earlier item later hsplit
  simp at hsplit

theorem LowestFirst.cons {item : κ × Nat}
    (h : IsLeast {slot | slot ∉ held.map Prod.snd} item.2)
    (hadded : LowestFirst (held ++ [item]) added) : LowestFirst held (item :: added) := by
  intro earlier other later hsplit
  cases earlier with
  | nil =>
      cases hsplit
      simpa using h
  | cons first earlier =>
      cases hsplit
      simpa using hadded earlier other later rfl

theorem Compact.nil : Compact ([] : List (κ × Nat)) := by
  simp [Compact]

theorem Compact.append (h : Compact held) (hadded : LowestFirst held added) :
    Compact (held ++ added) := by
  induction added generalizing held with
  | nil => simpa using h
  | cons item added ih =>
      -- The slot just above those in use is free, so the new one is not higher.
      have hleast : IsLeast {slot | slot ∉ held.map Prod.snd} item.2 := by
        simpa using hadded [] item added rfl
      have htop : held.length ∉ held.map Prod.snd := by
        intro hmem
        obtain ⟨other, hother, heq⟩ := List.mem_map.mp hmem
        have hlt := h other hother
        omega
      have hslot : item.2 ≤ held.length := hleast.2 htop
      have hextended : Compact (held ++ [item]) := by
        intro other hother
        rw [List.length_append, List.length_singleton]
        rcases List.mem_append.mp hother with hother | hother
        · have hlt := h other hother
          omega
        · rw [List.mem_singleton.mp hother]
          omega
      have hrest : LowestFirst (held ++ [item]) added := by
        intro earlier other later hsplit
        have hleast := hadded (item :: earlier) other later (by rw [hsplit]; rfl)
        simpa using hleast
      simpa using ih hextended hrest

theorem Compact.mem_slots (h : Compact table) (hvalid : Valid capacity table) {slot : Nat}
    (hslot : slot < table.length) : slot ∈ table.map Prod.snd := by
  have hsubset : table.map Prod.snd ⊆ List.range table.length := by
    intro other hother
    obtain ⟨item, hitem, rfl⟩ := List.mem_map.mp hother
    exact List.mem_range.mpr (h item hitem)
  have hperm := (List.subperm_of_subset hvalid.slots_nodup hsubset).perm_of_length_le (by simp)
  exact hperm.mem_iff.mpr (List.mem_range.mpr hslot)

theorem Compact.filter_iff (h : Compact table) (hvalid : Valid capacity table)
    (stays : κ × Nat → Bool) :
    Compact (table.filter stays) ↔
      ∀ item ∈ table, stays item = false → ∀ other ∈ table, stays other = true →
        other.2 < item.2 := by
  have hfiltered : Valid capacity (table.filter stays) := hvalid.filter stays
  constructor
  · intro hcompact item hitem hleaves other hother hstays
    have hlt := hcompact other (List.mem_filter.mpr ⟨hother, hstays⟩)
    by_contra hle
    have hmem := hcompact.mem_slots hfiltered
      (show item.2 < (table.filter stays).length by omega)
    obtain ⟨kept, hkept, hsame⟩ := List.mem_map.mp hmem
    obtain ⟨hkept, hstays'⟩ := List.mem_filter.mp hkept
    have heq := List.inj_on_of_nodup_map hvalid.slots_nodup hkept hitem hsame
    rw [heq, hleaves] at hstays'
    cases hstays'
  · intro hbelow item hitem
    obtain ⟨hitem, hstays⟩ := List.mem_filter.mp hitem
    -- All slots up to this one stay, so at least that many entries do.
    have hused : List.range (item.2 + 1) ⊆ (table.filter stays).map Prod.snd := by
      intro slot hslot
      have hslot : slot < item.2 + 1 := List.mem_range.mp hslot
      have hlt := h item hitem
      obtain ⟨other, hother, rfl⟩ :=
        List.mem_map.mp (h.mem_slots hvalid (show slot < table.length by omega))
      refine List.mem_map_of_mem (List.mem_filter.mpr ⟨hother, ?_⟩)
      by_contra hleaves
      have habove := hbelow other hother (by simpa using hleaves) item hitem hstays
      omega
    have hlength := (List.subperm_of_subset List.nodup_range hused).length_le
    simp only [List.length_range, List.length_map] at hlength
    omega

end SlotTable

end Touchpad.Foundation
