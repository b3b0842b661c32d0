import FigureScript.Proofs.Program.Compiled

/-!
# The secondary axis of a chart

What it means for the series of a chart that its secondary axis has been found: they use the
one direction and no other, and its settings are the first that the chart declares.

## Main Definitions

* `Plot.twinSettings` — the settings of a secondary axis, with nothing set where it is not declared

## Main Results

* `Plot.uses_iff_of_secondary` — the direction in use
* `Plot.added_iff_of_secondary` — which series use it
* `Plot.getD_settings` — its settings
* `PlotAxes.onSecondary_inj` — the axes of a drawing tell whether its series uses it
-/

namespace FigureScript

open Outcome

/-- Axes are not twins of themselves. -/
theorem Axes.twin_ne (a : Axes) (adds : Axis) : a.twin adds ≠ a := by
  intro h
  have hsize := congrArg sizeOf h
  rw [Axes.twin.sizeOf_spec] at hsize
  omega

theorem Series.onSecondary_iff {s : Series} :
    s.onSecondary = true ↔ ∃ axis, s.added axis = some 1 := by
  rw [onSecondary, Bool.or_eq_true, decide_eq_true_eq, decide_eq_true_eq]
  constructor
  · rintro (h | h)
    · exact ⟨.x, h⟩
    · exact ⟨.y, h⟩
  · rintro ⟨axis, h⟩
    cases axis with
    | x => exact .inl h
    | y => exact .inr h

namespace Plot

variable {p : Plot} {secondary : Option Secondary}

/-- **The settings of a secondary axis**; one that is not declared has none. -/
def twinSettings (p : Plot) (axis : Axis) : AddedAxis :=
  ((p.declared axis).head?).getD {}

theorem requested_of_secondary (h : p.secondary = .ok secondary) :
    p.requested = .ok secondary := by
  rw [secondary_eq, seq_eq_ok, seq_eq_ok, seq_eq_ok] at h
  exact h.2.2.2

/-- **The secondary axis in use** is that of the direction which some series asks for, with
the settings that the chart declares for it. -/
theorem secondary_eq_ok (h : p.secondary = .ok secondary) :
    (secondary = none ∧ ∀ axis, p.uses axis = false) ∨
      ∃ axis, secondary = some ⟨axis, (p.declared axis).head?⟩ ∧
        ∀ other, p.uses other = true ↔ other = axis := by
  have hrequested := requested_of_secondary h
  rw [requested] at hrequested
  split at hrequested
  next => cases hrequested
  next hx hy =>
    cases hrequested
    refine .inr ⟨.x, rfl, fun other => ?_⟩
    cases other with
    | x => exact iff_of_true hx rfl
    | y => exact iff_of_false (Bool.eq_false_iff.mp hy) (by decide)
  next hx hy =>
    cases hrequested
    refine .inr ⟨.y, rfl, fun other => ?_⟩
    cases other with
    | x => exact iff_of_false (Bool.eq_false_iff.mp hx) (by decide)
    | y => exact iff_of_true hy rfl
  next hx hy =>
    cases hrequested
    refine .inl ⟨rfl, fun axis => ?_⟩
    cases axis with
    | x => exact hx
    | y => exact hy

variable (h : p.secondary = .ok secondary)
include h

theorem uses_iff_of_secondary (axis : Axis) :
    p.uses axis = true ↔ secondary.map (·.adds) = some axis := by
  rcases secondary_eq_ok h with ⟨rfl, hnone⟩ | ⟨used, rfl, huses⟩
  · rw [hnone axis]
    simp
  · rw [huses axis]
    simp [eq_comm]

/-- **Which series use the secondary axis**, and in which direction. -/
theorem added_iff_of_secondary {s : Series} (hs : s ∈ p.series) (axis : Axis) :
    s.added axis = some 1 ↔ s.onSecondary = true ∧ secondary.map (·.adds) = some axis := by
  have hadds {used : Axis} (hused : s.added used = some 1) :
      secondary.map (·.adds) = some used :=
    (uses_iff_of_secondary h used).mp (uses_eq_true.mpr ⟨s, hs, hused⟩)
  constructor
  · intro hadded
    exact ⟨Series.onSecondary_iff.mpr ⟨axis, hadded⟩, hadds hadded⟩
  · rintro ⟨honSecondary, haxis⟩
    obtain ⟨used, hused⟩ := Series.onSecondary_iff.mp honSecondary
    rw [hadds hused] at haxis
    cases haxis
    exact hused

/-- The settings of the secondary axis in use are those that the chart declares. -/
theorem getD_settings {used : Secondary} (hused : secondary = some used) :
    used.settings.getD {} = p.twinSettings used.adds := by
  rcases secondary_eq_ok h with ⟨rfl, -⟩ | ⟨axis, rfl, -⟩
  · cases hused
  · cases hused
    rfl

end Plot

namespace PlotAxes

variable {axes axes' : PlotAxes}

/-- **The axes of a drawing tell** whether its series uses the secondary axis. -/
theorem onSecondary_inj (hprimary : axes.primary = axes'.primary) (htwin : axes.twin? = axes'.twin?)
    {s t : Series} (hs : s.onSecondary = true → axes.twin?.isSome)
    (ht : t.onSecondary = true → axes.twin?.isSome) (h : axes.ofSeries s = axes'.ofSeries t) :
    s.onSecondary = t.onSecondary := by
  rw [ofSeries, ofSeries, ← hprimary, ← htwin] at h
  have hne (hsome : axes.twin?.isSome) : axes.twin?.getD axes.primary ≠ axes.primary := by
    obtain ⟨twin, htwin⟩ := Option.isSome_iff_exists.mp hsome
    obtain ⟨used, -, hused⟩ := Option.map_eq_some_iff.mp htwin
    rw [htwin, Option.getD_some, ← hused]
    exact axes.primary.twin_ne used.adds
  -- of two series on different axes, one is on the twin and the other one is not
  cases hson : s.onSecondary <;> cases hton : t.onSecondary
  · rfl
  · rw [hson, hton] at h
    exact absurd h.symm (hne (ht hton))
  · rw [hson, hton] at h
    exact absurd h (hne (hs hson))
  · rfl

end PlotAxes

end FigureScript
