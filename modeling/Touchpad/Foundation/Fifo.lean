import Touchpad.Foundation.Transition

/-!
# Bounded queues

First in, first out, as a list with the oldest element in front.  A push is taken
while there is room, a pop takes the oldest element, a clear drops them all.
Between two clears, what was there and what was taken in is what was handed out
and what is left, in this order.
-/

namespace Touchpad.Foundation

universe u

namespace Fifo

inductive Call (α : Type u) where
  | push (item : α)
  | pop
  | clear

inductive Answer (α : Type u) where
  | pushed (taken : Bool)
  | popped (item : Option α)
  | cleared

variable {α : Type u}

def step (capacity : Nat) (stored : List α) : Call α → Answer α × List α
  | .push item =>
      if stored.length < capacity then (.pushed true, stored ++ [item])
      else (.pushed false, stored)
  | .pop =>
      match stored with
      | [] => (.popped none, [])
      | item :: rest => (.popped (some item), rest)
  | .clear => (.cleared, [])

def entered : Call α × Answer α → List α
  | (.push item, .pushed true) => [item]
  | _ => []

def handed : Answer α → List α
  | .popped item => item.toList
  | _ => []

variable {capacity : Nat}

theorem step_conserved (stored : List α) {call : Call α} (h : call ≠ .clear) :
    stored ++ entered (call, (step capacity stored call).1) =
      handed (step capacity stored call).1 ++ (step capacity stored call).2 := by
  cases call with
  | push item =>
      rw [step]
      split
      · rfl
      · exact List.append_nil stored
  | pop =>
      cases stored with
      | nil => rfl
      | cons item rest => exact List.append_nil (item :: rest)
  | clear => exact absurd rfl h

/-- Nothing is lost, doubled or reordered between clears. -/
theorem conserved (stored : List α) {calls : List (Call α)} (h : .clear ∉ calls) :
    stored ++ (calls.zip (answers (step capacity) stored calls)).flatMap entered =
      (answers (step capacity) stored calls).flatMap handed ++
        afterAll (step capacity) stored calls := by
  induction calls generalizing stored with
  | nil => exact List.append_nil stored
  | cons call calls ih =>
      rw [List.mem_cons, not_or] at h
      have hcall : stored ++ entered (call, (step capacity stored call).1) =
          handed (step capacity stored call).1 ++ (step capacity stored call).2 :=
        step_conserved stored (Ne.symm h.1)
      have hrest := ih (step capacity stored call).2 h.2
      rw [answers, List.zip_cons_cons, afterAll, List.flatMap_cons, List.flatMap_cons,
        ← List.append_assoc, hcall, List.append_assoc, hrest, List.append_assoc]

end Fifo

end Touchpad.Foundation
