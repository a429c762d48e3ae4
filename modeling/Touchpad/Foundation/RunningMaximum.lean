import Mathlib.Data.List.Basic
import Mathlib.Order.Lattice
import Mathlib.Order.Nat

/-!
# A maximum that many raise at once

Updates raise a shared cell to their candidates without a lock.  Each loads the cell, and
as long as it saw less than its candidate it tries to exchange what it saw for the
candidate.  An exchange may fail for no reason.  A load may see a value that was
overwritten, but none older than what the same update saw before.  Still the cell only
rises, and no candidate is lost.
-/

namespace Touchpad.Foundation

universe u

inductive Raising where
  | loading
  | comparing (seen : Nat)
  | settled
  deriving DecidableEq, Repr

/-- An access to the cell: it sees the value at a position, or once more what the update
saw before, or it exchanges that for the candidate. -/
inductive Access where
  | sees (position : Nat)
  | repeats
  | exchanges
  deriving DecidableEq, Repr

namespace Raising

variable {α : Type u} [LinearOrder α] {values later : List α} {candidate : α}
  {stage next : Raising} {access : Access}

def look (values : List α) (candidate : α) (position : Nat) : Option Raising :=
  values[position]?.map fun value => if value < candidate then comparing position else settled

def step (values : List α) (candidate : α) : Raising → Access → Option (List α × Raising)
  | loading, .sees position => (look values candidate position).map fun next => (values, next)
  | comparing seen, .sees position =>
      if seen < position then (look values candidate position).map fun next => (values, next)
      else none
  | comparing seen, .repeats => some (values, comparing seen)
  | comparing seen, .exchanges =>
      if values.getLast? = values[seen]? then some (values ++ [candidate], settled) else none
  | _, _ => none

structure Rises (values : List α) : Prop where
  nonempty : values ≠ []
  ordered : values.Pairwise (· < ·)

def Sound (values : List α) (candidate : α) : Raising → Prop
  | loading => True
  | comparing seen => ∃ value, values[seen]? = some value ∧ value < candidate
  | settled => ∃ value ∈ values, candidate ≤ value

theorem Rises.single (value : α) : Rises [value] where
  nonempty := List.cons_ne_nil _ _
  ordered := List.pairwise_singleton _ _

theorem Rises.le_last (h : Rises values) {value last : α} (hvalue : value ∈ values)
    (hlast : values.getLast? = some last) : value ≤ last := by
  obtain ⟨front, rfl⟩ := List.getLast?_eq_some_iff.mp hlast
  rcases List.mem_append.mp hvalue with hfront | hend
  · exact ((List.pairwise_append.mp h.ordered).2.2 value hfront last (by simp)).le
  · exact (List.mem_singleton.mp hend).le

theorem Rises.store (h : Rises values) {last : α} (hlast : values.getLast? = some last)
    (habove : last < candidate) : Rises (values ++ [candidate]) where
  nonempty := by simp
  ordered := by
    refine List.pairwise_append.mpr ⟨h.ordered, List.pairwise_singleton _ _, ?_⟩
    intro value hvalue other hother
    rw [List.mem_singleton.mp hother]
    exact (h.le_last hvalue hlast).trans_lt habove

theorem Sound.extend (h : Sound values candidate stage) (hlater : values <+: later) :
    Sound later candidate stage := by
  obtain ⟨more, rfl⟩ := hlater
  cases stage with
  | loading => trivial
  | comparing seen =>
      obtain ⟨value, hseen, hbelow⟩ := h
      refine ⟨value, ?_, hbelow⟩
      rw [List.getElem?_append_left (List.getElem?_eq_some_iff.mp hseen).1]
      exact hseen
  | settled =>
      obtain ⟨value, hvalue, hle⟩ := h
      exact ⟨value, List.mem_append_left _ hvalue, hle⟩

theorem Sound.le_last (h : Sound values candidate settled) (hrises : Rises values) {last : α}
    (hlast : values.getLast? = some last) : candidate ≤ last := by
  obtain ⟨value, hvalue, hle⟩ := h
  exact hle.trans (hrises.le_last hvalue hlast)

theorem look_sound {position : Nat} (h : look values candidate position = some next) :
    Sound values candidate next := by
  obtain ⟨value, hvalue, rfl⟩ := Option.map_eq_some_iff.mp h
  split
  case isTrue hbelow => exact ⟨value, hvalue, hbelow⟩
  case isFalse habove => exact ⟨value, List.mem_of_getElem? hvalue, not_lt.mp habove⟩

theorem step_cases (h : stage.step values candidate access = some (later, next)) :
    (∃ position, access = .sees position ∧ later = values ∧
        look values candidate position = some next ∧
        (∀ seen, stage = comparing seen → seen < position)) ∨
      (access = .repeats ∧ later = values ∧ next = stage) ∨
      (∃ seen, access = .exchanges ∧ stage = comparing seen ∧
        values.getLast? = values[seen]? ∧ later = values ++ [candidate] ∧ next = settled) := by
  cases stage with
  | loading =>
      cases access with
      | sees position =>
          obtain ⟨other, hlook, heq⟩ := Option.map_eq_some_iff.mp h
          cases heq
          exact .inl ⟨position, rfl, rfl, hlook, fun seen hseen => by cases hseen⟩
      | repeats => cases h
      | exchanges => cases h
  | comparing seen =>
      cases access with
      | sees position =>
          obtain ⟨hlater, hlook⟩ := Option.ite_none_right_eq_some.mp h
          obtain ⟨other, hlook, heq⟩ := Option.map_eq_some_iff.mp hlook
          cases heq
          refine .inl ⟨position, rfl, rfl, hlook, fun other hother => ?_⟩
          cases hother
          exact hlater
      | repeats =>
          cases h
          exact .inr (.inl ⟨rfl, rfl, rfl⟩)
      | exchanges =>
          obtain ⟨hexpected, hstored⟩ := Option.ite_none_right_eq_some.mp h
          cases hstored
          exact .inr (.inr ⟨seen, rfl, rfl, hexpected, rfl, rfl⟩)
  | settled => cases access <;> cases h

theorem step_values (h : stage.step values candidate access = some (later, next)) :
    values <+: later := by
  rcases step_cases h with ⟨-, -, rfl, -⟩ | ⟨-, rfl, -⟩ | ⟨-, -, -, -, rfl, -⟩
  · exact List.prefix_rfl
  · exact List.prefix_rfl
  · exact List.prefix_append _ _

theorem step_sound (hrises : Rises values) (h : Sound values candidate stage)
    (hstep : stage.step values candidate access = some (later, next)) :
    Rises later ∧ Sound later candidate next := by
  rcases step_cases hstep with ⟨position, -, rfl, hlook, -⟩ | ⟨-, rfl, rfl⟩ |
    ⟨seen, -, rfl, hexpected, rfl, rfl⟩
  · exact ⟨hrises, look_sound hlook⟩
  · exact ⟨hrises, h⟩
  · obtain ⟨value, hseen, hbelow⟩ := h
    rw [hseen] at hexpected
    exact ⟨hrises.store hexpected hbelow, candidate, by simp, le_rfl⟩

/-! ## How long an update takes -/

section Rank

variable {values later : List Nat} {candidate : Nat}

/-- The accesses that may still come, but for those that see nothing new. -/
def rank (values : List Nat) (candidate : Nat) : Raising → Nat
  | loading => candidate + 1
  | comparing seen => candidate - values.getD seen candidate
  | settled => 0

theorem rank_comparing {seen value : Nat} (h : values[seen]? = some value) :
    rank values candidate (comparing seen) = candidate - value := by
  simp [rank, List.getD_eq_getElem?_getD, h]

theorem rank_look {position value : Nat} (h : values[position]? = some value) :
    rank values candidate (if value < candidate then comparing position else settled) ≤
      candidate - value := by
  split
  case isTrue => exact (rank_comparing h).le
  case isFalse => exact Nat.zero_le _

theorem rank_extend (h : Sound values candidate stage) (hlater : values <+: later) :
    rank later candidate stage = rank values candidate stage := by
  cases stage with
  | comparing seen =>
      obtain ⟨value, hseen, -⟩ := h
      obtain ⟨more, rfl⟩ := hlater
      have hkept : (values ++ more)[seen]? = some value := by
        rw [List.getElem?_append_left (List.getElem?_eq_some_iff.mp hseen).1]
        exact hseen
      rw [rank_comparing hseen, rank_comparing hkept]
  | loading => rfl
  | settled => rfl

theorem rank_step (hrises : Rises values) (h : Sound values candidate stage)
    (hstep : stage.step values candidate access = some (later, next)) :
    rank later candidate next + (if access = .repeats then 0 else 1) ≤
      rank values candidate stage := by
  rcases step_cases hstep with ⟨position, rfl, rfl, hlook, hfresh⟩ | ⟨rfl, rfl, rfl⟩ |
    ⟨seen, rfl, rfl, -, rfl, rfl⟩
  · obtain ⟨value, hvalue, rfl⟩ := Option.map_eq_some_iff.mp hlook
    have hlower := @rank_look _ candidate _ _ hvalue
    have hcounted : (if Access.sees position = .repeats then 0 else 1) = 1 := if_neg (by simp)
    rw [hcounted]
    cases stage with
    | loading =>
        have hloading : rank later candidate loading = candidate + 1 := rfl
        omega
    | comparing seen =>
        obtain ⟨before, hseen, hbelow⟩ := h
        obtain ⟨hlt, rfl⟩ := List.getElem?_eq_some_iff.mp hseen
        obtain ⟨hlt', rfl⟩ := List.getElem?_eq_some_iff.mp hvalue
        have hrise := List.pairwise_iff_getElem.mp hrises.ordered seen position hlt hlt'
          (hfresh seen rfl)
        rw [rank_comparing hseen]
        omega
    | settled => cases hstep
  · exact le_rfl
  · obtain ⟨value, hseen, hbelow⟩ := h
    have hsettled : rank (values ++ [candidate]) candidate settled = 0 := rfl
    rw [rank_comparing hseen, hsettled, if_neg (by simp)]
    omega

end Rank

end Raising

end Touchpad.Foundation
