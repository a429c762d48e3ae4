import Mathlib.Data.List.Basic

/-!
# Lifecycles in a trace of records

A place shows at most one record at a time, each with its owner.  A lifecycle is
a run of active records of one owner that ends in one closing record.  `SlotStep`
says what may follow an open or a closed lifecycle; a trace whose items all obey
it splits into lifecycles with gaps between them.
-/

namespace Touchpad.Foundation

universe u v

structure LifecycleRule (ρ : Type v) where
  active : ρ → Prop
  closes : ρ → ρ → Prop

structure Lifecycle (ω : Type u) (ρ : Type v) where
  owner : ω
  shown : List ρ
  closing : ρ

section

variable {ω : Type u} {ρ : Type v}

def shownTrace (owner : ω) (shown : List ρ) : List (List (ω × ρ)) :=
  shown.map fun record => [(owner, record)]

def Lifecycle.trace (lifecycle : Lifecycle ω ρ) : List (List (ω × ρ)) :=
  shownTrace lifecycle.owner lifecycle.shown ++ [[(lifecycle.owner, lifecycle.closing)]]

/-- At least one active record is shown, and the closing record, which is not
active, closes the last of them. -/
structure Lifecycle.Proper (rule : LifecycleRule ρ) (lifecycle : Lifecycle ω ρ) : Prop where
  active : ∀ record ∈ lifecycle.shown, rule.active record
  inactive : ¬ rule.active lifecycle.closing
  closes : ∃ last, lifecycle.shown.getLast? = some last ∧ rule.closes last lifecycle.closing

def pendingTrace : Option (ω × List ρ) → List (List (ω × ρ))
  | none => []
  | some (owner, shown) => shownTrace owner shown

def PendingProper (rule : LifecycleRule ρ) : Option (ω × List ρ) → Prop
  | none => True
  | some (_, shown) => shown ≠ [] ∧ ∀ record ∈ shown, rule.active record

/-- Lifecycles, each after a gap of empty items, then a last gap, then the
lifecycle that is still open if any. -/
def Decomposed (rule : LifecycleRule ρ) (trace : List (List (ω × ρ)))
    (pending : Option (ω × List ρ)) : Prop :=
  ∃ (lifecycles : List (Nat × Lifecycle ω ρ)) (gap : Nat),
    trace = (lifecycles.flatMap fun item => List.replicate item.1 [] ++ item.2.trace) ++
      List.replicate gap [] ++ pendingTrace pending ∧
    (∀ item ∈ lifecycles, item.2.Proper rule) ∧ PendingProper rule pending

def lastShown (pending : Option (ω × List ρ)) : Option (ω × ρ) :=
  pending.bind fun item => item.2.getLast?.map fun record => (item.1, record)

inductive SlotStep (rule : LifecycleRule ρ) :
    Option (ω × ρ) → List (ω × ρ) → Option (ω × ρ) → Prop
  | idle : SlotStep rule none [] none
  | opens (owner : ω) (record : ρ) (hactive : rule.active record) :
      SlotStep rule none [(owner, record)] (some (owner, record))
  | continues (owner : ω) (last record : ρ) (hactive : rule.active record) :
      SlotStep rule (some (owner, last)) [(owner, record)] (some (owner, record))
  | closes (owner : ω) (last record : ρ) (hinactive : ¬ rule.active record)
      (hcloses : rule.closes last record) :
      SlotStep rule (some (owner, last)) [(owner, record)] none

variable {rule : LifecycleRule ρ} {trace : List (List (ω × ρ))}
  {pending : Option (ω × List ρ)}

theorem Decomposed.nil : Decomposed rule ([] : List (List (ω × ρ))) none :=
  ⟨[], 0, rfl, by simp, trivial⟩

private theorem eq_none_of_lastShown (hproper : PendingProper rule pending)
    (h : lastShown pending = none) : pending = none := by
  cases pending with
  | none => rfl
  | some item =>
      obtain ⟨owner, shown⟩ := item
      exact absurd (by simpa [lastShown] using h) hproper.1

private theorem eq_some_of_lastShown {owner : ω} {last : ρ}
    (h : lastShown pending = some (owner, last)) :
    ∃ shown, pending = some (owner, shown) ∧ shown.getLast? = some last := by
  cases pending with
  | none => cases h
  | some item =>
      obtain ⟨owner', shown⟩ := item
      cases hlast : shown.getLast? with
      | none => simp [lastShown, hlast] at h
      | some last' =>
          simp only [lastShown, Option.bind_some, hlast, Option.map_some, Option.some.injEq,
            Prod.mk.injEq] at h
          obtain ⟨rfl, rfl⟩ := h
          exact ⟨shown, rfl, hlast⟩

theorem Decomposed.owner_eq (h : Decomposed rule trace pending) :
    (lastShown pending).map Prod.fst = pending.map Prod.fst := by
  obtain ⟨lifecycles, gap, -, -, hproper⟩ := h
  cases pending with
  | none => rfl
  | some item =>
      obtain ⟨owner, shown⟩ := item
      have hlast : shown.getLast? = some (shown.getLast hproper.1) :=
        List.getLast?_eq_some_getLast hproper.1
      simp [lastShown, hlast]

theorem Decomposed.snoc (h : Decomposed rule trace pending) {item : List (ω × ρ)}
    {next : Option (ω × ρ)} (hstep : SlotStep rule (lastShown pending) item next) :
    ∃ pending', Decomposed rule (trace ++ [item]) pending' ∧ lastShown pending' = next := by
  obtain ⟨lifecycles, gap, rfl, hlifecycles, hproper⟩ := h
  generalize hstate : lastShown pending = state at hstep
  cases hstep with
  | idle =>
      obtain rfl := eq_none_of_lastShown hproper hstate
      refine ⟨none, ⟨lifecycles, gap + 1, ?_, hlifecycles, trivial⟩, rfl⟩
      simp [pendingTrace, List.replicate_succ']
  | opens owner record hactive =>
      obtain rfl := eq_none_of_lastShown hproper hstate
      refine ⟨some (owner, [record]), ⟨lifecycles, gap, ?_, hlifecycles, ?_⟩, rfl⟩
      · simp [pendingTrace, shownTrace]
      · simpa [PendingProper] using hactive
  | continues owner last record hactive =>
      obtain ⟨shown, rfl, hlast⟩ := eq_some_of_lastShown hstate
      refine ⟨some (owner, shown ++ [record]), ⟨lifecycles, gap, ?_, hlifecycles, ?_⟩, ?_⟩
      · simp [pendingTrace, shownTrace]
      · refine ⟨by simp, fun other hother => ?_⟩
        rcases List.mem_append.mp hother with hother | hother
        · exact hproper.2 other hother
        · rwa [List.mem_singleton.mp hother]
      · simp [lastShown]
  | closes owner last record hinactive hcloses =>
      obtain ⟨shown, rfl, hlast⟩ := eq_some_of_lastShown hstate
      refine ⟨none, ⟨lifecycles ++ [(gap, ⟨owner, shown, record⟩)], 0, ?_, ?_, trivial⟩, rfl⟩
      · simp [pendingTrace, shownTrace, Lifecycle.trace]
      · intro other hother
        rcases List.mem_append.mp hother with hother | hother
        · exact hlifecycles other hother
        · rw [List.mem_singleton.mp hother]
          exact ⟨hproper.2, hinactive, last, hlast, hcloses⟩

end

end Touchpad.Foundation
