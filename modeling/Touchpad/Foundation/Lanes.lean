import Mathlib.Data.List.Basic

/-!
# Items that pass in lanes

Items of several kinds are produced one after the other and passed on.  Items may be
lost, and those of one kind may overtake those of another; within a kind the order
is kept and nothing is doubled.
-/

namespace Touchpad.Foundation

universe u v

variable {α : Type u} {κ : Type v} [DecidableEq κ] {kind : α → κ}

def lane (kind : α → κ) (items : List α) (key : κ) : List α :=
  items.filter fun item => kind item = key

def InLanes (kind : α → κ) (produced passed : List α) : Prop :=
  ∀ key, (lane kind passed key).Sublist (lane kind produced key)

theorem lane_append (first second : List α) (key : κ) :
    lane kind (first ++ second) key = lane kind first key ++ lane kind second key :=
  List.filter_append ..

theorem lane_eq_nil {items : List α} {key : κ} (h : ∀ item ∈ items, kind item ≠ key) :
    lane kind items key = [] := by
  rw [lane, List.filter_eq_nil_iff]
  simpa using h

namespace InLanes

variable {produced passed fewer : List α}

theorem nil : InLanes kind produced [] := fun _ => List.nil_sublist _

theorem subset (h : InLanes kind produced passed) : passed ⊆ produced := by
  intro item hitem
  have hlane : item ∈ lane kind passed (kind item) := by simpa [lane] using hitem
  exact List.mem_of_mem_filter ((h (kind item)).subset hlane)

theorem lose (h : InLanes kind produced passed) (hfewer : fewer.Sublist passed) :
    InLanes kind produced fewer :=
  fun key => (hfewer.filter _).trans (h key)

theorem insert {front back : List α} (h : InLanes kind produced (front ++ back)) (item : α)
    (hback : ∀ other ∈ back, kind other ≠ kind item) :
    InLanes kind (produced ++ [item]) (front ++ item :: back) := by
  intro key
  have hlane := h key
  rw [lane_append] at hlane
  rw [← List.singleton_append, lane_append, lane_append, lane_append]
  by_cases hkey : kind item = key
  · have hnone : lane kind back key = [] := lane_eq_nil fun other hother =>
      hkey ▸ hback other hother
    rw [hnone, List.append_nil] at hlane ⊢
    exact hlane.append_right _
  · have hnone : lane kind [item] key = [] := lane_eq_nil (by simpa using hkey)
    rw [hnone, List.nil_append, List.append_nil]
    exact hlane

theorem produce (h : InLanes kind produced passed) (item : α) :
    InLanes kind (produced ++ [item]) (passed ++ [item]) := by
  have hend : InLanes kind produced (passed ++ []) := by rwa [List.append_nil]
  exact hend.insert item nofun

end InLanes

end Touchpad.Foundation
