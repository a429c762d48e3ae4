import Mathlib.Data.Option.Basic

/-!
# Runs of a transition system

A system takes a step for an action where it can.  A run is a list of actions;
what every allowed step preserves holds after every run of allowed steps.  A
machine that takes every action and answers it is compared with another by a
simulation.
-/

namespace Touchpad.Foundation

universe u v w

variable {σ : Type u} {α : Type v} {β : Type w}

def runFrom (step : σ → α → Option σ) : σ → List α → Option σ
  | state, [] => some state
  | state, action :: actions =>
      match step state action with
      | none => none
      | some next => runFrom step next actions

def Along (step : σ → α → Option σ) (allowed : σ → α → Prop) : σ → List α → Prop
  | _, [] => True
  | state, action :: actions =>
      allowed state action ∧
        match step state action with
        | none => True
        | some next => Along step allowed next actions

instance decidableAlong (step : σ → α → Option σ) (allowed : σ → α → Prop)
    [∀ state action, Decidable (allowed state action)] :
    ∀ state actions, Decidable (Along step allowed state actions)
  | _, [] => .isTrue trivial
  | state, action :: actions =>
      have : Decidable
          (match step state action with
            | none => True
            | some next => Along step allowed next actions) :=
        match step state action with
        | none => .isTrue trivial
        | some next => decidableAlong step allowed next actions
      inferInstanceAs (Decidable (_ ∧ _))

theorem along_of_forall {step : σ → α → Option σ} {allowed : σ → α → Prop}
    (h : ∀ state action, allowed state action) (state : σ) (actions : List α) :
    Along step allowed state actions := by
  induction actions generalizing state with
  | nil => exact trivial
  | cons action actions ih =>
      rw [Along]
      refine ⟨h state action, ?_⟩
      cases step state action with
      | none => exact trivial
      | some next => exact ih next

theorem along_of_mem {step : σ → α → Option σ} {allowed : σ → α → Prop} {actions : List α}
    (h : ∀ action ∈ actions, ∀ state, allowed state action) (state : σ) :
    Along step allowed state actions := by
  induction actions generalizing state with
  | nil => exact trivial
  | cons action actions ih =>
      rw [Along]
      refine ⟨h action List.mem_cons_self state, ?_⟩
      cases step state action with
      | none => exact trivial
      | some next => exact ih (fun other hother => h other (List.mem_cons_of_mem _ hother)) next

theorem Along.split {step : σ → α → Option σ} {allowed : σ → α → Prop} {state middle : σ}
    {first second : List α} (h : Along step allowed state (first ++ second))
    (hrun : runFrom step state first = some middle) :
    Along step allowed state first ∧ Along step allowed middle second := by
  induction first generalizing state with
  | nil =>
      cases hrun
      exact ⟨trivial, h⟩
  | cons action first ih =>
      rw [List.cons_append, Along] at h
      rw [runFrom] at hrun
      rw [Along]
      cases hnext : step state action with
      | none =>
          rw [hnext] at hrun
          cases hrun
      | some next =>
          rw [hnext] at hrun h
          obtain ⟨hfirst, hsecond⟩ := ih h.2 hrun
          exact ⟨⟨h.1, hfirst⟩, hsecond⟩

theorem runFrom_induction {step : σ → α → Option σ} {allowed : σ → α → Prop}
    {Keeps : σ → Prop}
    (hstep : ∀ state action next, Keeps state → allowed state action →
      step state action = some next → Keeps next)
    {state final : σ} {actions : List α} (h : Keeps state)
    (hallowed : Along step allowed state actions)
    (hrun : runFrom step state actions = some final) : Keeps final := by
  induction actions generalizing state with
  | nil =>
      cases hrun
      exact h
  | cons action actions ih =>
      rw [Along] at hallowed
      rw [runFrom] at hrun
      cases hnext : step state action with
      | none =>
          rw [hnext] at hrun
          cases hrun
      | some next =>
          rw [hnext] at hrun hallowed
          exact ih (hstep state action next h hallowed.1 hnext) hallowed.2 hrun

def observed (step : σ → α → Option σ) (observe : σ → α → List β) : σ → List α → List β
  | _, [] => []
  | state, action :: actions =>
      match step state action with
      | none => []
      | some next => observe state action ++ observed step observe next actions

theorem runFrom_observed {step : σ → α → Option σ} {allowed : σ → α → Prop}
    {observe : σ → α → List β} {Keeps : σ → List β → Prop}
    (hstep : ∀ state action next seen, Keeps state seen → allowed state action →
      step state action = some next → Keeps next (seen ++ observe state action))
    {state final : σ} {actions : List α} {seen : List β} (h : Keeps state seen)
    (hallowed : Along step allowed state actions)
    (hrun : runFrom step state actions = some final) :
    Keeps final (seen ++ observed step observe state actions) := by
  induction actions generalizing state seen with
  | nil =>
      cases hrun
      rw [observed, List.append_nil]
      exact h
  | cons action actions ih =>
      rw [Along] at hallowed
      rw [runFrom] at hrun
      rw [observed]
      cases hnext : step state action with
      | none =>
          rw [hnext] at hrun
          cases hrun
      | some next =>
          rw [hnext] at hrun hallowed
          rw [← List.append_assoc]
          exact ih (hstep state action next seen h hallowed.1 hnext) hallowed.2 hrun

theorem observed_eq_flatMap {step : σ → α → Option σ} {observe : α → List β} {state final : σ}
    {actions : List α} (hrun : runFrom step state actions = some final) :
    observed step (fun _ => observe) state actions = actions.flatMap observe := by
  induction actions generalizing state with
  | nil => rfl
  | cons action actions ih =>
      rw [runFrom] at hrun
      rw [observed, List.flatMap_cons]
      cases hnext : step state action with
      | none =>
          rw [hnext] at hrun
          cases hrun
      | some next =>
          rw [hnext] at hrun
          rw [← ih hrun]

/-! ## Ranks -/

section Rank

variable {step : σ → α → Option σ} {Keeps Done : σ → Prop} {allowed : α → Prop}
  {rank : σ → Nat} {counted : α → Bool} {state final : σ} {actions : List α}

/-- Where a rank never grows and some steps lower it, a run takes no more of these than
the rank allows. -/
theorem runFrom_rank
    (hstep : ∀ state action next, Keeps state → step state action = some next →
      Keeps next ∧ rank next + (if counted action then 1 else 0) ≤ rank state)
    (h : Keeps state) (hrun : runFrom step state actions = some final) :
    Keeps final ∧ rank final + actions.countP counted ≤ rank state := by
  induction actions generalizing state with
  | nil =>
      cases hrun
      exact ⟨h, Nat.le_refl _⟩
  | cons action actions ih =>
      rw [runFrom] at hrun
      cases hnext : step state action with
      | none =>
          rw [hnext] at hrun
          cases hrun
      | some next =>
          rw [hnext] at hrun
          obtain ⟨hkeeps, hlower⟩ := hstep state action next h hnext
          obtain ⟨hfinal, hrest⟩ := ih hkeeps hrun
          refine ⟨hfinal, ?_⟩
          rw [List.countP_cons]
          omega

theorem exists_run_of_rank
    (hprogress : ∀ state, Keeps state → ¬ Done state → ∃ action next, allowed action ∧
      step state action = some next ∧ Keeps next ∧ rank next < rank state)
    (h : Keeps state) :
    ∃ actions final, (∀ action ∈ actions, allowed action) ∧ actions.length ≤ rank state ∧
      runFrom step state actions = some final ∧ Done final := by
  induction hn : rank state using Nat.strongRecOn generalizing state with
  | ind n ih =>
      by_cases hdone : Done state
      · exact ⟨[], state, fun action haction => (by cases haction), Nat.zero_le _, rfl, hdone⟩
      · obtain ⟨action, next, hallowed, hstep, hnext, hlower⟩ := hprogress state h hdone
        obtain ⟨actions, final, hall, hlength, hrun, hfinal⟩ :=
          ih (rank next) (hn ▸ hlower) hnext rfl
        refine ⟨action :: actions, final, ?_, ?_, ?_, hfinal⟩
        · intro other hother
          rcases List.mem_cons.mp hother with rfl | hother
          · exact hallowed
          · exact hall other hother
        · rw [List.length_cons]
          omega
        · rw [runFrom, hstep]
          exact hrun

end Rank

def Reaches (step : σ → α → Option σ) (state final : σ) : Prop :=
  ∃ actions, runFrom step state actions = some final

namespace Reaches

variable {step : σ → α → Option σ} {state middle final : σ}

theorem refl : Reaches step state state := ⟨[], rfl⟩

theorem head (action : α) (h : step state action = some middle)
    (hrest : Reaches step middle final) : Reaches step state final := by
  obtain ⟨actions, hactions⟩ := hrest
  refine ⟨action :: actions, ?_⟩
  rw [runFrom, h]
  exact hactions

theorem trans (h : Reaches step state middle) (hrest : Reaches step middle final) :
    Reaches step state final := by
  obtain ⟨actions, hactions⟩ := h
  induction actions generalizing state with
  | nil =>
      cases hactions
      exact hrest
  | cons action actions ih =>
      rw [runFrom] at hactions
      cases hnext : step state action with
      | none =>
          rw [hnext] at hactions
          cases hactions
      | some next =>
          rw [hnext] at hactions
          exact head action hnext (ih hactions)

end Reaches

/-! ## Machines with answers -/

def answers (step : σ → α → β × σ) : σ → List α → List β
  | _, [] => []
  | state, action :: actions =>
      (step state action).1 :: answers step (step state action).2 actions

def afterAll (step : σ → α → β × σ) : σ → List α → σ
  | state, [] => state
  | state, action :: actions => afterAll step (step state action).2 actions

section Answers

variable {step : σ → α → β × σ}

theorem answers_length (state : σ) (actions : List α) :
    (answers step state actions).length = actions.length := by
  induction actions generalizing state with
  | nil => rfl
  | cons action actions ih => simp [answers, ih]

theorem answers_append (state : σ) (first second : List α) :
    answers step state (first ++ second) =
      answers step state first ++ answers step (afterAll step state first) second := by
  induction first generalizing state with
  | nil => rfl
  | cons action first ih => simp [answers, afterAll, ih]

theorem answers_at (state : σ) (first : List α) (action : α) (rest : List α) :
    (answers step state (first ++ action :: rest))[first.length]? =
      some (step (afterAll step state first) action).1 := by
  have hlength : (answers step state first).length = first.length := answers_length state first
  rw [answers_append, List.getElem?_append_right (Nat.le_of_eq hlength), hlength, Nat.sub_self]
  rfl

/-- A machine whose states correspond to those of another, with the same answers in
every step, gives the same answers in every run. -/
theorem answers_simulated {τ : Type*} {abstractStep : τ → α → β × τ} {Simulates : σ → τ → Prop}
    (hstep : ∀ state spec action, Simulates state spec →
      (step state action).1 = (abstractStep spec action).1 ∧
        Simulates (step state action).2 (abstractStep spec action).2)
    {state : σ} {spec : τ} (h : Simulates state spec) (actions : List α) :
    answers step state actions = answers abstractStep spec actions ∧
      Simulates (afterAll step state actions) (afterAll abstractStep spec actions) := by
  induction actions generalizing state spec with
  | nil => exact ⟨rfl, h⟩
  | cons action actions ih =>
      obtain ⟨hanswer, hnext⟩ := hstep state spec action h
      obtain ⟨hanswers, hlast⟩ := ih hnext
      refine ⟨?_, hlast⟩
      rw [answers, answers, hanswer, hanswers]

end Answers

end Touchpad.Foundation
