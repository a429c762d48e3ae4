import Mathlib.Algebra.BigOperators.Group.List.Basic
import Mathlib.Algebra.GroupWithZero.Nat
import Touchpad.Foundation.Transition

/-!
# Members that act in turn

Members join a pool and act on what they share, one access at a time and in any order.
What holds of each member, what the members add up to, and who holds a lock are
invariants of every run, as soon as the accesses of a single member keep them.
-/

namespace Touchpad.Foundation

universe u v w x

structure Pool (σ : Type u) (μ : Type v) where
  shared : σ
  members : List μ := []

inductive PoolAction (ι : Type w) (χ : Type x) where
  | joins (entry : ι)
  | acts (index : Nat) (choice : χ)

def PoolAction.entry? {ι : Type w} {χ : Type x} : PoolAction ι χ → Option ι
  | .joins entry => some entry
  | .acts _ _ => none

/-- How a member starts, and what it does next to what is shared. -/
structure PoolRules (σ : Type u) (μ : Type v) (ι : Type w) (χ : Type x) where
  fresh : ι → μ
  act : Nat → σ → μ → χ → Option (σ × μ)

namespace PoolRules

variable {σ : Type u} {μ : Type v} {ι : Type w} {χ : Type x} {rules : PoolRules σ μ ι χ}

def step (rules : PoolRules σ μ ι χ) (pool : Pool σ μ) : PoolAction ι χ → Option (Pool σ μ)
  | .joins entry => some { pool with members := pool.members ++ [rules.fresh entry] }
  | .acts index choice =>
      match pool.members[index]? with
      | none => none
      | some member =>
          match rules.act index pool.shared member choice with
          | none => none
          | some (shared, next) => some { shared, members := pool.members.set index next }

variable {pool final : Pool σ μ} {actions : List (PoolAction ι χ)}

theorem run_keeps (Keeps : Pool σ μ → Prop)
    (hstep : ∀ {pool action next}, Keeps pool → rules.step pool action = some next → Keeps next)
    (h : Keeps pool) (hrun : runFrom rules.step pool actions = some final) : Keeps final :=
  runFrom_induction (fun _ _ _ hkeeps _ hnext => hstep hkeeps hnext) h
    (along_of_forall (fun _ _ => trivial) pool actions) hrun

theorem step_acts {index : Nat} {choice : χ}
    (h : rules.step pool (.acts index choice) = some final) :
    ∃ before member after next, pool.members = before ++ member :: after ∧
      before.length = index ∧
      rules.act index pool.shared member choice = some (final.shared, next) ∧
      final.members = before ++ next :: after := by
  rw [step] at h
  split at h
  case h_1 => cases h
  case h_2 member hmember =>
    obtain ⟨hlt, rfl⟩ := List.getElem?_eq_some_iff.mp hmember
    split at h
    case h_1 => cases h
    case h_2 shared next hact =>
      cases h
      refine ⟨pool.members.take index, _, pool.members.drop (index + 1), next, ?_, ?_, hact, ?_⟩
      · simp
      · rw [List.length_take]
        omega
      · exact List.set_eq_take_append_cons_drop.trans (if_pos hlt)

/-! ## Each member -/

/-- What every member keeps, whoever acts, while the shared state is good. -/
structure Invariant (rules : PoolRules σ μ ι χ) (Good : σ → Prop) (Keeps : σ → μ → Prop) :
    Prop where
  fresh : ∀ shared entry, Keeps shared (rules.fresh entry)
  act : ∀ {index shared member choice after next}, Good shared → Keeps shared member →
    rules.act index shared member choice = some (after, next) →
      Good after ∧ Keeps after next ∧ ∀ other, Keeps shared other → Keeps after other

def Holds (Good : σ → Prop) (Keeps : σ → μ → Prop) (pool : Pool σ μ) : Prop :=
  Good pool.shared ∧ ∀ member ∈ pool.members, Keeps pool.shared member

section Invariant

variable {Good : σ → Prop} {Keeps : σ → μ → Prop} (hinv : rules.Invariant Good Keeps)
include hinv

theorem Invariant.step {action : PoolAction ι χ} {next : Pool σ μ} (h : Holds Good Keeps pool)
    (hstep : rules.step pool action = some next) : Holds Good Keeps next := by
  obtain ⟨hgood, hmembers⟩ := h
  cases action with
  | joins entry =>
      cases hstep
      refine ⟨hgood, fun member hmember => ?_⟩
      rcases List.mem_append.mp hmember with hmember | hmember
      · exact hmembers member hmember
      · rw [List.mem_singleton.mp hmember]
        exact hinv.fresh _ entry
  | acts index choice =>
      obtain ⟨before, member, after, other, hsplit, -, hacted, hnext⟩ := step_acts hstep
      rw [hsplit] at hmembers
      obtain ⟨hafter, hself, hothers⟩ := hinv.act hgood (hmembers member (by simp)) hacted
      rw [Holds, hnext]
      refine ⟨hafter, fun who hwho => ?_⟩
      rcases List.mem_append.mp hwho with hwho | hwho
      · exact hothers who (hmembers who (by simp [hwho]))
      · rcases List.mem_cons.mp hwho with rfl | hwho
        · exact hself
        · exact hothers who (hmembers who (by simp [hwho]))

theorem Invariant.run (h : Holds Good Keeps pool)
    (hrun : runFrom rules.step pool actions = some final) : Holds Good Keeps final :=
  run_keeps (Holds Good Keeps) (fun h hstep => hinv.step h hstep) h hrun

end Invariant

theorem run_entries {entryOf : μ → ι} (hfresh : ∀ entry, entryOf (rules.fresh entry) = entry)
    (hact : ∀ {index shared member choice after next},
      rules.act index shared member choice = some (after, next) → entryOf next = entryOf member)
    (hrun : runFrom rules.step pool actions = some final) :
    final.members.map entryOf =
      pool.members.map entryOf ++ actions.filterMap PoolAction.entry? := by
  induction actions generalizing pool with
  | nil =>
      cases hrun
      simp
  | cons action actions ih =>
      rw [runFrom] at hrun
      split at hrun
      case h_1 => cases hrun
      rename_i next hnext
      rw [ih hrun]
      cases action with
      | joins entry =>
          cases hnext
          simp [PoolAction.entry?, hfresh]
      | acts index choice =>
          obtain ⟨before, member, after, other, hmembers, -, hacted, hafter⟩ := step_acts hnext
          rw [hafter, hmembers, List.filterMap_cons_none rfl]
          simp [hact hacted]

/-! ## What the members add up to -/

def tally (weight : μ → Nat) (members : List μ) : Nat := (members.map weight).sum

theorem run_booked {Good : σ → Prop} {Keeps : σ → μ → Prop} (hinv : rules.Invariant Good Keeps)
    (Booked : σ → Nat → Prop) (weight : μ → Nat)
    (hfresh : ∀ entry, weight (rules.fresh entry) = 0)
    (hact : ∀ {index shared member choice after next}, Keeps shared member →
      rules.act index shared member choice = some (after, next) →
        ∀ rest, Booked shared (weight member + rest) → Booked after (weight next + rest))
    (hholds : Holds Good Keeps pool) (h : Booked pool.shared (tally weight pool.members))
    (hrun : runFrom rules.step pool actions = some final) :
    Booked final.shared (tally weight final.members) := by
  refine (run_keeps (fun pool => Holds Good Keeps pool ∧
    Booked pool.shared (tally weight pool.members)) (fun {pool action next} h hstep => ?_)
    ⟨hholds, h⟩ hrun).2
  obtain ⟨hholds, hbooked⟩ := h
  refine ⟨hinv.step hholds hstep, ?_⟩
  cases action with
  | joins entry =>
      cases hstep
      simpa [tally, hfresh] using hbooked
  | acts index choice =>
      obtain ⟨before, member, after, other, hmembers, -, hacted, hnext⟩ := step_acts hstep
      have hsplit : ∀ item : μ, tally weight (before ++ item :: after) =
          weight item + (tally weight before + tally weight after) := by
        intro item
        simp only [tally, List.map_append, List.map_cons, List.sum_append, List.sum_cons]
        omega
      have hmember := hholds.2 member (by simp [hmembers])
      rw [hmembers, hsplit] at hbooked
      rw [hnext, hsplit]
      exact hact hmember hacted _ hbooked

/-! ## Who holds the lock -/

structure HeldBy (holds : μ → Bool) (members : List μ) (owner : Option Nat) : Prop where
  inside : ∀ {index}, owner = some index → index < members.length
  held : ∀ {index member}, members[index]? = some member →
    (holds member = true ↔ owner = some index)

def Hands (holds : μ → Bool) (index : Nat) (before : Option Nat) (member : μ)
    (after : Option Nat) (next : μ) : Prop :=
  (after = before ∧ holds next = holds member) ∨
    (before = none ∧ after = some index ∧ holds next = true) ∨
    (before = some index ∧ after = none ∧ holds next = false)

theorem HeldBy.join {holds : μ → Bool} {members : List μ} {owner : Option Nat}
    (h : HeldBy holds members owner) {member : μ} (hfree : holds member = false) :
    HeldBy holds (members ++ [member]) owner where
  inside howner := by
    have hinside := h.inside howner
    rw [List.length_append]
    omega
  held {index who} hwho := by
    rw [List.getElem?_append] at hwho
    split at hwho
    case isTrue => exact h.held hwho
    case isFalse hout =>
      obtain rfl : member = who := by
        have hmem := List.mem_of_getElem? hwho
        exact (List.mem_singleton.mp hmem).symm
      rw [hfree]
      exact iff_of_false (by simp) fun howner => hout (h.inside howner)

theorem HeldBy.hand {holds : μ → Bool} {before after : List μ} {member next : μ}
    {owner later : Option Nat} (h : HeldBy holds (before ++ member :: after) owner)
    (hhands : Hands holds before.length owner member later next) :
    HeldBy holds (before ++ next :: after) later := by
  have hself : holds member = true ↔ owner = some before.length := h.held (by simp)
  have hother : ∀ {index who}, index ≠ before.length →
      (before ++ next :: after)[index]? = some who →
        (holds who = true ↔ owner = some index) := by
    intro index who hne hwho
    apply h.held
    rw [← hwho]
    simp only [List.getElem?_append, List.getElem?_cons]
    grind
  have hat : ∀ {who}, (before ++ next :: after)[before.length]? = some who → next = who := by
    intro who hwho
    simpa using hwho
  rcases hhands with ⟨rfl, hsame⟩ | ⟨rfl, rfl, hnext⟩ | ⟨rfl, rfl, hnext⟩
  · refine ⟨fun howner => by simpa using h.inside howner, fun {index who} hwho => ?_⟩
    by_cases hindex : index = before.length
    · subst hindex
      rw [← hat hwho, hsame, hself]
    · exact hother hindex hwho
  · refine ⟨fun howner => ?_, fun {index who} hwho => ?_⟩
    · cases howner
      simp
    by_cases hindex : index = before.length
    · subst hindex
      simp [← hat hwho, hnext]
    · simpa [Ne.symm hindex] using hother hindex hwho
  · refine ⟨fun howner => (by cases howner), fun {index who} hwho => ?_⟩
    by_cases hindex : index = before.length
    · subst hindex
      simp [← hat hwho, hnext]
    · simpa [Ne.symm hindex] using hother hindex hwho

section Lock

variable {holds : μ → Bool} {owner : σ → Option Nat}
  (hfresh : ∀ entry, holds (rules.fresh entry) = false)
  (hact : ∀ {index shared member choice after next},
    (holds member = true ↔ owner shared = some index) →
    rules.act index shared member choice = some (after, next) →
      Hands holds index (owner shared) member (owner after) next)
include hfresh hact

theorem HeldBy.step {action : PoolAction ι χ} {next : Pool σ μ}
    (h : HeldBy holds pool.members (owner pool.shared))
    (hstep : rules.step pool action = some next) :
    HeldBy holds next.members (owner next.shared) := by
  cases action with
  | joins entry =>
      cases hstep
      exact h.join (hfresh entry)
  | acts index choice =>
      obtain ⟨before, member, after, other, hmembers, rfl, hacted, hnext⟩ := step_acts hstep
      rw [hmembers] at h
      rw [hnext]
      exact h.hand (hact (h.held (by simp)) hacted)

end Lock

end PoolRules

end Touchpad.Foundation
