import Mathlib.Data.List.DropRight

/-!
# Latches

A latch closes after a number of firm inputs in a row, stays closed over light and
firm inputs, and opens at the first one that breaks it.  It is closed exactly when
the inputs since the last break contain such a row.  A latch that misses inputs
still has its row to show for it, as long as it does not miss a break while it is
closed, nor anything but a firm input inside of a row.
-/

namespace Touchpad.Foundation

inductive Grip where
  | broken
  | light
  | firm
  deriving DecidableEq, Repr

structure Latch where
  down : Bool := false
  streak : Nat := 0
  deriving DecidableEq, Repr

namespace Latch

variable {limit : Nat} {latch : Latch} {inputs : List Grip}

def next (limit : Nat) (latch : Latch) : Grip → Latch
  | .broken => {}
  | .light => if latch.down then latch else { latch with streak := 0 }
  | .firm =>
      if latch.down then latch
      else { down := decide (limit ≤ latch.streak + 1), streak := latch.streak + 1 }

theorem next_closed (hdown : latch.down = true) {grip : Grip} (hgrip : grip ≠ .broken) :
    latch.next limit grip = latch := by
  cases grip with
  | broken => exact absurd rfl hgrip
  | light => exact if_pos hdown
  | firm => exact if_pos hdown

theorem next_light (hdown : latch.down = false) : latch.next limit .light = {} := by
  rw [next, if_neg (by simp [hdown]), hdown]

theorem next_firm (hdown : latch.down = false) :
    latch.next limit .firm =
      { down := decide (limit ≤ latch.streak + 1), streak := latch.streak + 1 } := by
  rw [next, if_neg (by simp [hdown])]

def after (limit : Nat) (inputs : List Grip) : Latch := inputs.foldl (next limit) {}

theorem after_append (limit : Nat) (inputs : List Grip) (grip : Grip) :
    after limit (inputs ++ [grip]) = (after limit inputs).next limit grip := by
  rw [after, List.foldl_append]
  rfl

def Held (limit : Nat) (inputs : List Grip) : Prop :=
  ∃ before rest, inputs = before ++ (List.replicate limit .firm ++ rest) ∧ Grip.broken ∉ rest

theorem Held.snoc (h : Held limit inputs) {grip : Grip} (hgrip : grip ≠ .broken) :
    Held limit (inputs ++ [grip]) := by
  obtain ⟨before, rest, rfl, hrest⟩ := h
  refine ⟨before, rest ++ [grip], by simp, ?_⟩
  intro hmem
  rcases List.mem_append.mp hmem with hmem | hmem
  · exact hrest hmem
  · exact hgrip (List.mem_singleton.mp hmem).symm

/-! ## What a latch has to show -/

structure Backed (limit : Nat) (latch : Latch) (inputs : List Grip) : Prop where
  held : latch.down = true → Held limit inputs
  streak : latch.down = false →
    latch.streak < limit ∧ List.replicate latch.streak Grip.firm <:+ inputs

theorem Backed.initial (hlimit : 0 < limit) : Backed limit {} [] where
  held hdown := by cases hdown
  streak _ := ⟨hlimit, List.suffix_rfl⟩

private theorem firm_suffix {count : Nat} (h : List.replicate count Grip.firm <:+ inputs) :
    List.replicate (count + 1) Grip.firm <:+ inputs ++ [.firm] := by
  obtain ⟨front, rfl⟩ := h
  refine ⟨front, ?_⟩
  rw [List.replicate_succ', List.append_assoc]

theorem Backed.next (hlimit : 0 < limit) (h : Backed limit latch inputs) (grip : Grip) :
    Backed limit (latch.next limit grip) (inputs ++ [grip]) := by
  cases grip with
  | broken =>
      constructor
      · intro hclosed
        cases hclosed
      · intro _
        exact ⟨hlimit, List.nil_suffix⟩
  | light =>
      cases hdown : latch.down with
      | true =>
          rw [next_closed hdown (by simp)]
          exact ⟨fun _ => (h.held hdown).snoc (by simp), fun hup => by simp [hdown] at hup⟩
      | false =>
          rw [next_light hdown]
          exact ⟨fun hclosed => by simp at hclosed, fun _ => ⟨hlimit, List.nil_suffix⟩⟩
  | firm =>
      cases hdown : latch.down with
      | true =>
          rw [next_closed hdown (by simp)]
          exact ⟨fun _ => (h.held hdown).snoc (by simp), fun hup => by simp [hdown] at hup⟩
      | false =>
          obtain ⟨hstreak, hsuffix⟩ := h.streak hdown
          have hrow := firm_suffix hsuffix
          rw [next_firm hdown]
          constructor
          · intro hclosed
            have hfull : latch.streak + 1 = limit := by
              have hlimit := of_decide_eq_true hclosed
              omega
            obtain ⟨front, hfront⟩ := hrow
            rw [hfull] at hfront
            exact ⟨front, [], by simp [hfront], by simp⟩
          · intro hopen
            exact ⟨not_le.mp (of_decide_eq_false hopen), hrow⟩

theorem Backed.missed (h : Backed limit latch inputs) {grip : Grip}
    (hclosed : latch.down = true → grip ≠ .broken)
    (hopen : latch.down = false → 0 < latch.streak → grip = .firm) :
    Backed limit latch (inputs ++ [grip]) where
  held hdown := (h.held hdown).snoc (hclosed hdown)
  streak hdown := by
    obtain ⟨hstreak, hsuffix⟩ := h.streak hdown
    refine ⟨hstreak, ?_⟩
    cases hcount : latch.streak with
    | zero => exact List.nil_suffix
    | succ count =>
        rw [hopen hdown (by omega)]
        rw [hcount] at hsuffix
        refine firm_suffix (List.IsSuffix.trans ?_ hsuffix)
        exact ⟨[.firm], rfl⟩

theorem backed_after (hlimit : 0 < limit) (inputs : List Grip) :
    Backed limit (after limit inputs) inputs := by
  induction inputs using List.reverseRecOn with
  | nil => exact .initial hlimit
  | append_singleton inputs grip ih =>
      rw [after_append]
      exact ih.next hlimit grip

/-! ## The closed form -/

private theorem foldl_firm (count : Nat)
    (hopen : latch.down = false → latch.streak < limit)
    (h : latch.down = false → limit ≤ latch.streak + count) :
    ((List.replicate count Grip.firm).foldl (next limit) latch).down = true := by
  induction count generalizing latch with
  | zero =>
      cases hdown : latch.down with
      | true => exact hdown
      | false =>
          have hstreak := hopen hdown
          have hfull := h hdown
          omega
  | succ count ih =>
      rw [List.replicate_succ, List.foldl_cons]
      cases hdown : latch.down with
      | true =>
          rw [next_closed hdown (by simp)]
          exact ih hopen fun hup => by simp [hdown] at hup
      | false =>
          have hfull := h hdown
          rw [next_firm hdown]
          apply ih
          · intro hup
            exact not_le.mp (of_decide_eq_false hup)
          · intro _
            dsimp only
            omega

private theorem foldl_closed {rest : List Grip} (hrest : Grip.broken ∉ rest)
    (hdown : latch.down = true) : rest.foldl (next limit) latch = latch := by
  induction rest with
  | nil => rfl
  | cons grip rest ih =>
      rw [List.mem_cons, not_or] at hrest
      rw [List.foldl_cons, next_closed hdown (Ne.symm hrest.1), ih hrest.2]

theorem after_down_iff_held (hlimit : 0 < limit) (inputs : List Grip) :
    (after limit inputs).down = true ↔ Held limit inputs := by
  constructor
  · exact (backed_after hlimit inputs).held
  · rintro ⟨before, rest, rfl, hrest⟩
    rw [after, List.foldl_append, List.foldl_append]
    have hbefore := backed_after hlimit before
    have hclosed : ((List.replicate limit Grip.firm).foldl (next limit)
        (after limit before)).down = true :=
      foldl_firm limit (fun hup => (hbefore.streak hup).1) fun _ => by omega
    rw [after] at hclosed
    rw [foldl_closed hrest hclosed]
    exact hclosed

private theorem rtakeWhile_append {keep : Grip → Bool} {back : List Grip}
    (h : ∀ grip ∈ back, keep grip = true) (front : List Grip) :
    (front ++ back).rtakeWhile keep = front.rtakeWhile keep ++ back := by
  induction back using List.reverseRecOn with
  | nil => simp
  | append_singleton back grip ih =>
      have hgrip := h grip (by simp)
      rw [← List.append_assoc, List.rtakeWhile_concat_pos _ _ _ hgrip,
        ih fun other hother => h other (List.mem_append_left _ hother), List.append_assoc]

theorem held_iff_infix :
    Held limit inputs ↔
      List.replicate limit Grip.firm <:+: inputs.rtakeWhile (· ≠ .broken) := by
  constructor
  · rintro ⟨before, rest, rfl, hrest⟩
    rw [rtakeWhile_append]
    · exact ⟨before.rtakeWhile (· ≠ .broken), rest, by simp⟩
    · intro grip hgrip
      rw [decide_eq_true_iff]
      rintro rfl
      rcases List.mem_append.mp hgrip with hgrip | hgrip
      · cases List.eq_of_mem_replicate hgrip
      · exact hrest hgrip
  · rintro ⟨front, rest, hsplit⟩
    have hinputs : inputs.rdropWhile (· ≠ .broken) ++ inputs.rtakeWhile (· ≠ .broken) =
        inputs := List.rdropWhile_append_rtakeWhile
    refine ⟨inputs.rdropWhile (· ≠ .broken) ++ front, rest, ?_, ?_⟩
    · rw [← hsplit] at hinputs
      rw [List.append_assoc, ← List.append_assoc front, hinputs]
    · intro hbroken
      have hmem : Grip.broken ∈ inputs.rtakeWhile (· ≠ .broken) := by
        rw [← hsplit]
        exact List.mem_append_right _ hbroken
      simpa using List.mem_rtakeWhile_imp hmem

/-- A latch that sees all inputs is closed exactly when those since the last break
contain a row of firm ones. -/
theorem after_down_iff (hlimit : 0 < limit) (inputs : List Grip) :
    (after limit inputs).down = true ↔
      List.replicate limit Grip.firm <:+: inputs.rtakeWhile (· ≠ .broken) :=
  (after_down_iff_held hlimit inputs).trans held_iff_infix

end Latch

end Touchpad.Foundation
