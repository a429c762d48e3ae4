import Mathlib.Data.Nat.ModEq
import Mathlib.Logic.Function.Basic

/-!
# Rings

A ring of some capacity keeps `count` elements in an array from the index `head`
on, wrapping around at the capacity.  `ringContents` is the list it stands for.
-/

namespace Touchpad.Foundation

universe u

variable {α : Type u} {capacity head count : Nat}

def ringContents (capacity : Nat) (items : Nat → α) (head count : Nat) : List α :=
  (List.range count).map fun i => items ((head + i) % capacity)

@[simp] theorem ringContents_length (items : Nat → α) :
    (ringContents capacity items head count).length = count := by
  simp [ringContents]

theorem ring_index_ne {i : Nat} (hi : i < count) (hcount : count < capacity) :
    (head + i) % capacity ≠ (head + count) % capacity := by
  intro heq
  have hmod : i ≡ count [MOD capacity] := Nat.ModEq.add_left_cancel' head heq
  rw [Nat.ModEq, Nat.mod_eq_of_lt (hi.trans hcount), Nat.mod_eq_of_lt hcount] at hmod
  omega

theorem ringContents_push (items : Nat → α) (item : α) (hcount : count < capacity) :
    ringContents capacity (Function.update items ((head + count) % capacity) item) head
        (count + 1) =
      ringContents capacity items head count ++ [item] := by
  rw [ringContents, ringContents, List.range_succ, List.map_append]
  congr 1
  · apply List.map_congr_left
    intro i hi
    exact Function.update_of_ne (ring_index_ne (List.mem_range.mp hi) hcount) _ _
  · simp

theorem ringContents_pop (items : Nat → α) (hhead : head < capacity) :
    ringContents capacity items head (count + 1) =
      items head :: ringContents capacity items ((head + 1) % capacity) count := by
  rw [ringContents, List.range_succ_eq_map, List.map_cons, List.map_map, ringContents]
  congr 1
  · rw [Nat.add_zero, Nat.mod_eq_of_lt hhead]
  · apply List.map_congr_left
    intro i _
    simp only [Function.comp_apply]
    congr 1
    rw [Nat.mod_add_mod]
    congr 1
    omega

end Touchpad.Foundation
