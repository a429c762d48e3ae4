import Mathlib.Algebra.BigOperators.Group.List.Basic
import Mathlib.Algebra.GroupWithZero.Nat
import Mathlib.Data.List.Forall2
import Mathlib.Data.List.MinMax

/-!
# Lists

Lists that are related item by item, lists that grow at their end, and sums over a part
of a list.
-/

namespace Touchpad.Foundation

universe u v

variable {α : Type u} {β : Type v} {R : α → β → Prop}

theorem forall₂_at {first : List α} {second : List β} (h : List.Forall₂ R first second)
    {index : Nat} {item : α} (hitem : first[index]? = some item) :
    ∃ other, second[index]? = some other ∧ R item other := by
  obtain ⟨hlt, rfl⟩ := List.getElem?_eq_some_iff.mp hitem
  have hlt' : index < second.length := h.length_eq ▸ hlt
  exact ⟨second[index], List.getElem?_eq_getElem hlt', (List.forall₂_iff_get.mp h).2 index hlt hlt'⟩

theorem getLast_of_forall₂ {first : List α} {second : List β} (h : List.Forall₂ R first second)
    {item : α} (hitem : first.getLast? = some item) :
    ∃ other, second.getLast? = some other ∧ R item other := by
  rw [List.getLast?_eq_getElem?] at hitem ⊢
  rw [← h.length_eq]
  exact forall₂_at h hitem

theorem exists_forall₂ {items : List α} (h : ∀ item ∈ items, ∃ other, R item other) :
    ∃ others, List.Forall₂ R items others := by
  induction items with
  | nil => exact ⟨[], .nil⟩
  | cons item items ih =>
      obtain ⟨⟨other, hother⟩, hitems⟩ := List.forall_mem_cons.mp h
      obtain ⟨others, hothers⟩ := ih hitems
      exact ⟨other :: others, .cons hother hothers⟩

theorem concat_prefix_concat {before items : List α} {item last : α}
    (h : before ++ [item] <+: items ++ [last]) :
    before ++ [item] <+: items ∨ before = items ∧ item = last := by
  rcases List.prefix_concat_iff.mp h with heq | hfirst
  · exact .inr (List.append_inj' heq rfl |>.imp_right fun hlast => (List.cons.inj hlast).1)
  · exact .inl hfirst

theorem filterMap_concat (f : α → Option β) (items : List α) (item : α) :
    (items ++ [item]).filterMap f = items.filterMap f ++ (f item).toList := by
  rw [List.filterMap_append]
  cases h : f item <;> simp [h]

theorem find?_eq_some_iff_of_unique {items : List α} {found : α → Bool}
    (hunique : ∀ first ∈ items, ∀ second ∈ items, found first → found second → first = second)
    {item : α} : items.find? found = some item ↔ item ∈ items ∧ found item := by
  constructor
  · intro hfound
    exact ⟨List.mem_of_find?_eq_some hfound, List.find?_some hfound⟩
  · rintro ⟨hmem, hitem⟩
    have hsome : (items.find? found).isSome := List.find?_isSome.mpr ⟨item, hmem, hitem⟩
    obtain ⟨other, hother⟩ := Option.isSome_iff_exists.mp hsome
    rw [hother, hunique other (List.mem_of_find?_eq_some hother) item hmem
      (List.find?_some hother) hitem]

theorem sum_filter (keep : α → Bool) (weight : α → Nat) (items : List α) :
    (items.map fun item => if keep item then weight item else 0).sum =
      ((items.filter keep).map weight).sum := by
  induction items with
  | nil => rfl
  | cons item items ih =>
      rw [List.map_cons, List.sum_cons, ih, List.filter_cons]
      cases keep item with
      | true => rfl
      | false => exact Nat.zero_add _

end Touchpad.Foundation
