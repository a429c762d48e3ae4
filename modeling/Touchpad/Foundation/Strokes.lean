import Mathlib.Algebra.Order.Group.Nat
import Mathlib.Logic.Equiv.Basic
import Mathlib.Tactic.Choose

/-!
# Strokes

A stroke is a track that is down in consecutive frames, and neither before nor after
them.  Two timelines may name the tracks differently.  Where a name is kept from one
frame to the next, and is not given to another track there, each stroke of one timeline
is one stroke of the other.
-/

namespace Touchpad.Foundation

universe u v w

variable {Track : Type u} {Name : Type v} {Sample : Type w}

abbrev Timeline (Track : Type u) (Sample : Type w) := Nat → Track → Option Sample

structure Timeline.Stroke (timeline : Timeline Track Sample) (first last : Nat)
    (track : Track) : Prop where
  ordered : first ≤ last
  down : ∀ index, first ≤ index → index ≤ last → (timeline index track).isSome
  starts : ∀ index, index + 1 = first → timeline index track = none
  ends : timeline (last + 1) track = none

theorem Timeline.stroke_single {timeline : Timeline Track Sample} {index : Nat} {track : Track}
    {sample : Sample} (hdown : timeline index track = some sample)
    (hbefore : ∀ before, before + 1 = index → timeline before track = none)
    (hafter : timeline (index + 1) track = none) : timeline.Stroke index index track where
  ordered := le_rfl
  down other hfrom hto := by
    rw [le_antisymm hto hfrom, hdown]
    rfl
  starts := hbefore
  ends := hafter

/-- Both timelines show the same samples.  `GoesAs` tells the names of a frame; they
agree within a frame and from a frame to the next one. -/
structure Renamed (tracks : Timeline Track Sample) (names : Timeline Name Sample)
    (GoesAs : Nat → Track → Name → Prop) : Prop where
  same : ∀ {index track name}, GoesAs index track name → names index name = tracks index track
  down : ∀ {index track name}, GoesAs index track name → (tracks index track).isSome
  named : ∀ {index track}, (tracks index track).isSome → ∃ name, GoesAs index track name
  tracked : ∀ {index name}, (names index name).isSome → ∃ track, GoesAs index track name
  steady : ∀ {index later track name other another}, GoesAs index track name →
    GoesAs later other another → later = index ∨ later = index + 1 →
    (track = other ↔ name = another)

namespace Renamed

variable {tracks : Timeline Track Sample} {names : Timeline Name Sample}
  {GoesAs : Nat → Track → Name → Prop}

theorem symm (h : Renamed tracks names GoesAs) :
    Renamed names tracks fun index name track => GoesAs index track name where
  same hgoes := (h.same hgoes).symm
  down hgoes := by
    rw [h.same hgoes]
    exact h.down hgoes
  named := h.tracked
  tracked := h.named
  steady hgoes hother hnext := (h.steady hgoes hother hnext).symm

theorem follow (h : Renamed tracks names GoesAs) {first last : Nat} {track : Track} {name : Name}
    (hfirst : GoesAs first track name)
    (hdown : ∀ index, first ≤ index → index ≤ last → (tracks index track).isSome)
    {index : Nat} (hfrom : first ≤ index) (hto : index ≤ last) : GoesAs index track name := by
  induction index, hfrom using Nat.le_induction with
  | base => exact hfirst
  | succ index hfrom ih =>
      have hbefore := ih (by omega)
      obtain ⟨next, hnext⟩ := h.named (hdown (index + 1) (by omega) hto)
      have hsame : name = next := (h.steady hbefore hnext (.inr rfl)).mp rfl
      exact hsame ▸ hnext

theorem up_of_up (h : Renamed tracks names GoesAs) {index beside : Nat} {track : Track}
    {name : Name} (hgoes : GoesAs index track name)
    (hbeside : beside = index + 1 ∨ index = beside + 1) (hup : tracks beside track = none) :
    names beside name = none := by
  by_contra hdown
  obtain ⟨other, hother⟩ := h.tracked (Option.isSome_iff_ne_none.mpr hdown)
  have hsame : track = other := by
    rcases hbeside with hafter | hbefore
    · exact (h.steady hgoes hother (.inr hafter)).mpr rfl
    · exact ((h.steady hother hgoes (.inr hbefore)).mpr rfl).symm
  have hstill := h.down (hsame ▸ hother)
  simp [hup] at hstill

theorem stroke (h : Renamed tracks names GoesAs) {first last : Nat} {track : Track}
    (hstroke : tracks.Stroke first last track) {name : Name} (hfirst : GoesAs first track name) :
    names.Stroke first last name where
  ordered := hstroke.ordered
  down index hfrom hto := by
    have hgoes := h.follow hfirst hstroke.down hfrom hto
    rw [h.same hgoes]
    exact h.down hgoes
  starts index hindex := h.up_of_up hfirst (.inr hindex.symm) (hstroke.starts index hindex)
  ends :=
    h.up_of_up (h.follow hfirst hstroke.down hstroke.ordered le_rfl) (.inl rfl) hstroke.ends

/-- The strokes of the two timelines over the same frames correspond one to one and pass
through the same samples. -/
theorem strokes (h : Renamed tracks names GoesAs) (first last : Nat) :
    ∃ correspond : { track // tracks.Stroke first last track } ≃
        { name // names.Stroke first last name },
      ∀ track index, first ≤ index → index ≤ last →
        names index (correspond track).val = tracks index track.val := by
  have hnamed : ∀ track : { track // tracks.Stroke first last track },
      ∃ name : { name // names.Stroke first last name }, GoesAs first track.val name.val := by
    rintro ⟨track, hstroke⟩
    obtain ⟨name, hname⟩ := h.named (hstroke.down first le_rfl hstroke.ordered)
    exact ⟨⟨name, h.stroke hstroke hname⟩, hname⟩
  choose correspond hcorrespond using hnamed
  have hinjective : Function.Injective correspond := by
    intro track other heq
    apply Subtype.ext
    have hother := hcorrespond other
    rw [← heq] at hother
    exact (h.steady (hcorrespond track) hother (.inl rfl)).mpr rfl
  have hsurjective : Function.Surjective correspond := by
    rintro ⟨name, hstroke⟩
    obtain ⟨track, htrack⟩ := h.tracked (hstroke.down first le_rfl hstroke.ordered)
    refine ⟨⟨track, h.symm.stroke hstroke htrack⟩, Subtype.ext ?_⟩
    exact (h.steady (hcorrespond ⟨track, h.symm.stroke hstroke htrack⟩) htrack (.inl rfl)).mp rfl
  refine ⟨.ofBijective correspond ⟨hinjective, hsurjective⟩, ?_⟩
  intro track index hfrom hto
  exact h.same (h.follow (hcorrespond track) track.property.down hfrom hto)

end Renamed

end Touchpad.Foundation
