import Mathlib.Data.List.Induction
import Mathlib.Logic.Function.Iterate

/-!
# Initial parts of a sequence, and numbered items

A list follows an infinite sequence when it consists of its first elements.  Items
are numbered when each is encoded under the number after that of the one before.
-/

namespace Touchpad.Foundation

universe u v w

section Follows

variable {α : Type u} {sequence : Nat → α}

def Follows (sequence : Nat → α) (items : List α) : Prop :=
  ∀ i item, items[i]? = some item → item = sequence i

theorem Follows.nil : Follows sequence [] := by
  intro i item hitem
  simp at hitem

theorem Follows.front {items rest : List α} (h : Follows sequence (items ++ rest)) :
    Follows sequence items := by
  intro i item hitem
  have hi : i < items.length := (List.getElem?_eq_some_iff.mp hitem).1
  exact h i item ((List.getElem?_append_left hi).trans hitem)

theorem Follows.snoc {items : List α} (h : Follows sequence items) :
    Follows sequence (items ++ [sequence items.length]) := by
  intro i item hitem
  rcases Nat.lt_trichotomy i items.length with hlt | rfl | hgt
  · exact h i item ((List.getElem?_append_left hlt).symm.trans hitem)
  · rw [List.getElem?_concat_length] at hitem
    exact (Option.some.inj hitem).symm
  · rw [List.getElem?_eq_none (by simp; omega)] at hitem
    cases hitem

end Follows

section Numbered

variable {ν : Type u} {ι : Type v} {μ : Type w} {succ : ν → ν} {encodes : ν → ι → μ → Prop}
  {number : ν} {items : List ι} {messages : List μ}

inductive Numbered (succ : ν → ν) (encodes : ν → ι → μ → Prop) : ν → List ι → List μ → Prop
  | nil (number : ν) : Numbered succ encodes number [] []
  | cons {number : ν} {item : ι} {message : μ} {items : List ι} {messages : List μ}
      (hitem : encodes number item message)
      (hrest : Numbered succ encodes (succ number) items messages) :
      Numbered succ encodes number (item :: items) (message :: messages)

namespace Numbered

theorem length_eq (h : Numbered succ encodes number items messages) :
    items.length = messages.length := by
  induction h with
  | nil => rfl
  | cons _ _ ih => rw [List.length_cons, List.length_cons, ih]

theorem snoc (h : Numbered succ encodes number items messages) {item : ι} {message : μ}
    (hitem : encodes (succ^[items.length] number) item message) :
    Numbered succ encodes number (items ++ [item]) (messages ++ [message]) := by
  induction h with
  | nil => exact .cons hitem (.nil _)
  | cons hfirst _ ih => exact .cons hfirst (ih hitem)

theorem front {front back : List μ} (h : Numbered succ encodes number items (front ++ back)) :
    Numbered succ encodes number (items.take front.length) front := by
  induction front generalizing number items with
  | nil => exact .nil _
  | cons message front ih =>
      cases h with
      | cons hitem hrest => exact .cons hitem (ih hrest)

theorem extend (h : Numbered succ encodes number items messages)
    (hencodes : ∀ number item, ∃ message, encodes number item message) (more : List ι) :
    ∃ rest, Numbered succ encodes number (items ++ more) (messages ++ rest) := by
  induction more using List.reverseRecOn with
  | nil => exact ⟨[], by simpa using h⟩
  | append_singleton more item ih =>
      obtain ⟨rest, hrest⟩ := ih
      obtain ⟨message, hmessage⟩ := hencodes (succ^[(items ++ more).length] number) item
      refine ⟨rest ++ [message], ?_⟩
      rw [← List.append_assoc, ← List.append_assoc]
      exact hrest.snoc hmessage

end Numbered

end Numbered

end Touchpad.Foundation
