import FigureScript.Proofs.Program.Drawings

/-!
# The legends of a chart

The primary axes of a chart and its secondary axis have a legend each, where some series on
them has a label.  What the two show and where they stand is told from the chart alone.

## Main Definitions

* `Legend`, `legendsOf` — the legends that a program sets
* `Series.HasLabel` — a label that is there and not empty
* `Plot.HasLegends` — the legends that a chart ought to have

## Main Results

* `Plot.legendsOf_statements` — the legends of a chart in closed form
* `Plot.legends_behind_drawings` — no legend stands before a drawing
* `Plot.program_legends` — the legends of every program

## Design Notes

A legend is told by the axes it stands on.  Axes are no twins of themselves, so the two
legends cannot be taken for each other, whatever the target of the chart is.
-/

namespace FigureScript

open Outcome

/-- **A legend**: the axes it stands on, the corner that is asked for, and its title. -/
structure Legend where
  axes : Axes
  corner : Option LegendLoc
  title : Option String
  deriving DecidableEq

/-- The legend that a statement sets. -/
def Statement.legend? : Statement → Option Legend
  | setLegend axes loc title => some ⟨axes, loc, title⟩
  | _ => none

/-- **The legends of a program**, in the order in which they are set. -/
def legendsOf (program : List Statement) : List Legend :=
  program.filterMap Statement.legend?

/-- A label that is there and not empty. -/
def Series.HasLabel (s : Series) : Prop :=
  ∃ text ∈ s.label, text ≠ ""

theorem Series.isSome_labelText {s : Series} : s.labelText.isSome = true ↔ s.HasLabel := by
  rw [labelText, HasLabel, Option.isSome_iff_exists]
  simp only [Option.filter_eq_some_iff, decide_eq_true_eq, Option.mem_def]

namespace Plot

/-- **The legends that a chart ought to have**, drawn at a target. -/
structure HasLegends (p : Plot) (target : PlotTarget) (legends : List Legend) : Prop where
  /-- A twin has a legend when some series on it has a label. -/
  onTwin : ∀ axis, (∃ l ∈ legends, l.axes = (p.primaryAxes target).twin axis) ↔
    ∃ s ∈ p.series, s.added axis = some 1 ∧ s.HasLabel
  /-- The primary axes have one when some series that is on no twin has a label. -/
  onPrimary : (∃ l ∈ legends, l.axes = p.primaryAxes target) ↔
    ∃ s ∈ p.series, s.onSecondary = false ∧ s.HasLabel
  elsewhere : ∀ l ∈ legends, l.axes ≠ p.primaryAxes target →
    ∃ axis, l.axes = (p.primaryAxes target).twin axis
  once : (legends.map (·.axes)).Nodup
  twinFirst : legends.Pairwise fun earlier later =>
    earlier.axes ≠ p.primaryAxes target ∧ later.axes = p.primaryAxes target
  /-- The legend of a twin has the title that the settings of this axis name. -/
  twinLook : ∀ l ∈ legends, ∀ axis, l.axes = (p.primaryAxes target).twin axis →
    l.corner = some .upperRight ∧ l.title = (p.twinSettings axis).legendLabel
  primaryTitle : ∀ l ∈ legends, l.axes = p.primaryAxes target → l.title = p.legendTitle
  /-- Without a legend on a twin the primary one is left to stand where there is room. -/
  primaryAlone : ∀ l ∈ legends, l.axes = p.primaryAxes target →
    (∀ t ∈ legends, t.axes = p.primaryAxes target) → l.corner = none
  primaryBesideX : ∀ l ∈ legends, l.axes = p.primaryAxes target →
    (∃ t ∈ legends, t.axes = (p.primaryAxes target).twin .x) → l.corner = some .lowerRight
  primaryBesideY : ∀ l ∈ legends, l.axes = p.primaryAxes target →
    (∃ t ∈ legends, t.axes = (p.primaryAxes target).twin .y) → l.corner = some .lowerLeft
  apart : ∀ l ∈ legends, ∀ t ∈ legends, l.axes ≠ t.axes → l.corner ≠ t.corner

/-! ### Where legends are set -/

/-- What draws a part of a chart that is no legend sets none. -/
theorem legend?_of_part? {s : Statement} {primary : Axes} {k : ChartPart}
    (h : s.part? primary = some k) (htwin : k ≠ .twinLegend) (hprimary : k ≠ .legend) :
    s.legend? = none := by
  cases s with
  | setLegend axes loc title =>
      rw [Statement.part?, Option.some.injEq] at h
      split at h
      next => exact absurd h.symm hprimary
      next => exact absurd h.symm htwin
  | _ => rfl

theorem isDrawing_of_part? {s : Statement} {primary : Axes} {k : ChartPart}
    (h : s.part? primary = some k) (hk : k ≠ .series) : ¬ s.isDrawing := by
  cases s with
  | drawLine trace => exact absurd (Option.some.inj h).symm hk
  | drawErrorBar trace xerr yerr => exact absurd (Option.some.inj h).symm hk
  | _ => exact Bool.false_ne_true

section Statements

variable (p : Plot) (target : PlotTarget) (style : StyleCycle) (secondary : Option Secondary)

/-- A chart sets its legends in their own sections. -/
theorem legendsOf_statements_eq_append :
    legendsOf (p.statements target style secondary) =
      legendsOf (p.twinLegend (.ofTarget target secondary)) ++
        legendsOf (p.primaryLegend (.ofTarget target secondary)) := by
  have hother {k : ChartPart} (htwin : k ≠ .twinLegend) (hprimary : k ≠ .legend) :
      legendsOf (p.part target style (.ofTarget target secondary) k) = [] :=
    List.filterMap_eq_nil_iff.mpr fun s hs =>
      legend?_of_part? (p.ofPart_part target style _ k s hs) htwin hprimary
  rw [statements_eq_flatMap, legendsOf, List.filterMap_flatMap]
  change ChartPart.all.flatMap (fun k => legendsOf (p.part target style _ k)) = _
  simp only [ChartPart.all, List.flatMap_cons, List.flatMap_nil, hother, ne_eq, reduceCtorEq,
    not_false_eq_true, List.nil_append, List.append_nil]
  rfl

/-- **No legend stands before a drawing**: legends come behind the first two sections, and all
drawings in these. -/
theorem legends_behind_drawings :
    (p.statements target style secondary).Pairwise fun earlier later =>
      earlier.legend?.isSome → ¬ later.isDrawing := by
  have hpart {k : ChartPart} {s : Statement}
      (hs : s ∈ p.part target style (.ofTarget target secondary) k) :=
    p.ofPart_part target style _ k s hs
  rw [statements_eq_flatMap, ← List.take_append_drop 2 ChartPart.all, List.flatMap_append,
    List.pairwise_append]
  have hfirst : ∀ s ∈ (ChartPart.all.take 2).flatMap
      (p.part target style (.ofTarget target secondary)), s.legend? = none := by
    intro s hs
    obtain ⟨k, hk, hs⟩ := List.mem_flatMap.mp hs
    have hne : ∀ k ∈ ChartPart.all.take 2, k ≠ .twinLegend ∧ k ≠ .legend := by decide
    exact legend?_of_part? (hpart hs) (hne k hk).1 (hne k hk).2
  have hrest : ∀ s ∈ (ChartPart.all.drop 2).flatMap
      (p.part target style (.ofTarget target secondary)), ¬ s.isDrawing := by
    intro s hs
    obtain ⟨k, hk, hs⟩ := List.mem_flatMap.mp hs
    have hne : ∀ k ∈ ChartPart.all.drop 2, k ≠ .series := by decide
    exact isDrawing_of_part? (hpart hs) (hne k hk)
  have hno {s : Statement} (hs : s.legend? = none) {later : Statement} :
      s.legend?.isSome → ¬ later.isDrawing := by
    rw [hs]
    exact fun h => nomatch h
  refine ⟨List.pairwise_of_forall_mem_list fun s hs _ _ => hno (hfirst s hs),
    List.pairwise_of_forall_mem_list fun _ _ t ht _ => hrest t ht,
    fun _ _ t ht _ => hrest t ht⟩

end Statements

/-! ### The legends of a chart in closed form -/

section Closed

variable (p : Plot) (target : PlotTarget)

/-- The legend of the twin in a direction. -/
def legendOfTwin (axis : Axis) : Legend :=
  ⟨(p.primaryAxes target).twin axis, some .upperRight, (p.twinSettings axis).legendLabel⟩

/-- The legend of the primary axes, beside that of a twin if there is one. -/
def legendOfPrimary (twin : Option Axis) : Legend :=
  ⟨p.primaryAxes target, twin.map primaryCorner, p.legendTitle⟩

/-- **The legends of a chart**, where it is known which twin has one. -/
def legendsBeside (twin : Option Axis) : List Legend :=
  (twin.map (p.legendOfTwin target)).toList ++
    if p.hasPrimaryLabel then [p.legendOfPrimary target twin] else []

variable {p target} {twin : Option Axis} {l t : Legend}

theorem mem_legendsBeside :
    l ∈ p.legendsBeside target twin ↔
      (∃ axis, twin = some axis ∧ l = p.legendOfTwin target axis) ∨
        p.hasPrimaryLabel = true ∧ l = p.legendOfPrimary target twin := by
  rw [legendsBeside, List.mem_append, Option.mem_toList, Option.map_eq_some_iff,
    List.mem_ite_nil_right, List.mem_singleton]
  simp only [eq_comm]

/-- **The axes of a legend tell** which of the two it is. -/
theorem eq_legendOfTwin (hl : l ∈ p.legendsBeside target twin) {axis : Axis}
    (haxes : l.axes = (p.primaryAxes target).twin axis) :
    twin = some axis ∧ l = p.legendOfTwin target axis := by
  rcases mem_legendsBeside.mp hl with ⟨other, hother, rfl⟩ | ⟨-, rfl⟩
  · obtain rfl := (Axes.twin.inj haxes).2
    exact ⟨hother, rfl⟩
  · exact absurd haxes.symm (Axes.twin_ne _ _)

theorem eq_legendOfPrimary (hl : l ∈ p.legendsBeside target twin)
    (haxes : l.axes = p.primaryAxes target) :
    p.hasPrimaryLabel = true ∧ l = p.legendOfPrimary target twin := by
  rcases mem_legendsBeside.mp hl with ⟨axis, -, rfl⟩ | hprimary
  · exact absurd haxes (Axes.twin_ne _ _)
  · exact hprimary

/-- A chart sets one legend on the same axes, and that of the twin first. -/
theorem legendsBeside_pairwise (p : Plot) (target : PlotTarget) (twin : Option Axis) :
    (p.legendsBeside target twin).Pairwise fun earlier later =>
      earlier.axes ≠ p.primaryAxes target ∧ later.axes = p.primaryAxes target := by
  unfold legendsBeside
  cases twin <;> cases p.hasPrimaryLabel <;>
    simp [legendOfTwin, legendOfPrimary, Axes.twin_ne]

/-- The primary legend leaves the corner of the other one to it. -/
theorem corner_legendOfTwin_ne (axis : Axis) :
    (p.legendOfTwin target axis).corner ≠ (p.legendOfPrimary target twin).corner := by
  cases twin with
  | none => exact fun h => nomatch h
  | some other => cases other <;> exact fun h => nomatch h

theorem corner_ne_of_axes_ne (hl : l ∈ p.legendsBeside target twin)
    (ht : t ∈ p.legendsBeside target twin) (hne : l.axes ≠ t.axes) : l.corner ≠ t.corner := by
  rcases mem_legendsBeside.mp hl with ⟨axis, haxis, rfl⟩ | ⟨-, rfl⟩ <;>
    rcases mem_legendsBeside.mp ht with ⟨other, hother, rfl⟩ | ⟨-, rfl⟩
  · rw [haxis] at hother
    cases hother
    exact absurd rfl hne
  · exact corner_legendOfTwin_ne axis
  · exact (corner_legendOfTwin_ne other).symm
  · exact absurd rfl hne

end Closed

/-! ### Which axes have a legend -/

theorem hasPrimaryLabel_iff {p : Plot} :
    p.hasPrimaryLabel = true ↔ ∃ s ∈ p.series, s.onSecondary = false ∧ s.HasLabel := by
  simp only [hasPrimaryLabel, List.any_eq_true, Bool.and_eq_true, Bool.not_eq_true',
    Series.isSome_labelText]

/-- The direction of the twin that has a legend. -/
def labelledTwin (p : Plot) (axes : PlotAxes) : Option Axis :=
  (p.secondaryLegend axes).map (·.adds)

section Labelled

variable {p : Plot} {secondary : Option Secondary} (h : p.secondary = .ok secondary)
include h

/-- **A twin has a legend** when some series on it has a label. -/
theorem labelledTwin_eq_some {target : PlotTarget} {axis : Axis} :
    p.labelledTwin (.ofTarget target secondary) = some axis ↔
      ∃ s ∈ p.series, s.added axis = some 1 ∧ s.HasLabel := by
  rw [labelledTwin, secondaryLegend, Option.map_eq_some_iff]
  simp only [PlotAxes.ofTarget, Option.filter_eq_some_iff, List.any_eq_true, Bool.and_eq_true,
    Series.isSome_labelText]
  constructor
  · rintro ⟨used, ⟨rfl, s, hs, hon, hlabel⟩, rfl⟩
    exact ⟨s, hs, (added_iff_of_secondary h hs used.adds).mpr ⟨hon, rfl⟩, hlabel⟩
  · rintro ⟨s, hs, hadded, hlabel⟩
    obtain ⟨hon, haxis⟩ := (added_iff_of_secondary h hs axis).mp hadded
    obtain ⟨used, rfl, rfl⟩ := Option.map_eq_some_iff.mp haxis
    exact ⟨used, ⟨rfl, s, hs, hon, hlabel⟩, rfl⟩

theorem legendsOf_twinLegend (target : PlotTarget) :
    legendsOf (p.twinLegend (.ofTarget target secondary)) =
      ((p.labelledTwin (.ofTarget target secondary)).map (p.legendOfTwin target)).toList := by
  have hprimary := primary_eq_primaryAxes h target
  rw [twinLegend, labelledTwin]
  cases hused : p.secondaryLegend (.ofTarget target secondary) with
  | none => rfl
  | some used =>
      have hsecondary : secondary = some used := (Option.filter_eq_some_iff.mp hused).1
      rw [Option.map_some, Option.map_some, Option.map_some, legendOfTwin,
        ← getD_settings h hsecondary, ← bind_legendLabel, ← hprimary]
      rfl

theorem legendsOf_primaryLegend (target : PlotTarget) :
    legendsOf (p.primaryLegend (.ofTarget target secondary)) =
      if p.hasPrimaryLabel then
        [p.legendOfPrimary target (p.labelledTwin (.ofTarget target secondary))]
      else [] := by
  have hprimary := primary_eq_primaryAxes h target
  rw [primaryLegend, hprimary, legendOfPrimary, labelledTwin, Option.map_map]
  cases p.hasPrimaryLabel <;> rfl

/-- **The legends of a chart in closed form**, that of the twin first. -/
theorem legendsOf_statements (target : PlotTarget) (style : StyleCycle) :
    legendsOf (p.statements target style secondary) =
      p.legendsBeside target (p.labelledTwin (.ofTarget target secondary)) := by
  rw [legendsOf_statements_eq_append, legendsOf_twinLegend h, legendsOf_primaryLegend h]
  rfl

end Labelled

/-- **The legends in closed form** are those that the chart ought to have. -/
theorem hasLegends_legendsBeside {p : Plot} {target : PlotTarget} {twin : Option Axis}
    (htwin : ∀ axis, twin = some axis ↔ ∃ s ∈ p.series, s.added axis = some 1 ∧ s.HasLabel) :
    p.HasLegends target (p.legendsBeside target twin) where
  onTwin axis := by
    rw [← htwin]
    constructor
    · rintro ⟨l, hl, haxes⟩
      exact (eq_legendOfTwin hl haxes).1
    · intro haxis
      exact ⟨_, mem_legendsBeside.mpr (.inl ⟨axis, haxis, rfl⟩), rfl⟩
  onPrimary := by
    rw [← hasPrimaryLabel_iff]
    constructor
    · rintro ⟨l, hl, haxes⟩
      exact (eq_legendOfPrimary hl haxes).1
    · intro hlabel
      exact ⟨_, mem_legendsBeside.mpr (.inr ⟨hlabel, rfl⟩), rfl⟩
  elsewhere l hl haxes := by
    rcases mem_legendsBeside.mp hl with ⟨axis, -, rfl⟩ | ⟨-, rfl⟩
    · exact ⟨axis, rfl⟩
    · exact absurd rfl haxes
  once := by
    have hpairwise := p.legendsBeside_pairwise target twin
    exact List.pairwise_map.mpr (hpairwise.imp fun h heq => h.1 (heq.trans h.2))
  twinFirst := p.legendsBeside_pairwise target twin
  twinLook l hl axis haxes := by
    obtain ⟨-, rfl⟩ := eq_legendOfTwin hl haxes
    exact ⟨rfl, rfl⟩
  primaryTitle l hl haxes := by
    obtain ⟨-, rfl⟩ := eq_legendOfPrimary hl haxes
    rfl
  primaryAlone l hl haxes halone := by
    obtain ⟨-, rfl⟩ := eq_legendOfPrimary hl haxes
    cases twin with
    | none => rfl
    | some axis =>
        have hbeside := halone _ (mem_legendsBeside.mpr (.inl ⟨axis, rfl, rfl⟩))
        exact absurd hbeside (Axes.twin_ne _ _)
  primaryBesideX := by
    rintro l hl haxes ⟨t, ht, haxis⟩
    obtain ⟨-, rfl⟩ := eq_legendOfPrimary hl haxes
    rw [legendOfPrimary, (eq_legendOfTwin ht haxis).1]
    rfl
  primaryBesideY := by
    rintro l hl haxes ⟨t, ht, haxis⟩
    obtain ⟨-, rfl⟩ := eq_legendOfPrimary hl haxes
    rw [legendOfPrimary, (eq_legendOfTwin ht haxis).1]
    rfl
  apart _ hl _ ht hne := corner_ne_of_axes_ne hl ht hne

/-- **The legends of every program** are those that its chart ought to have, and all of them
are set behind the drawings. -/
theorem program_legends {p : Plot} {target : PlotTarget} {style : StyleCycle}
    {program : List Statement} (h : p.program target style = .ok program) :
    p.HasLegends target (legendsOf program) ∧
      program.Pairwise fun earlier later => earlier.legend?.isSome → ¬ later.isDrawing := by
  obtain ⟨secondary, hsecondary, -, rfl⟩ := program_eq_ok h
  rw [legendsOf_statements hsecondary]
  exact ⟨hasLegends_legendsBeside fun _ => labelledTwin_eq_some hsecondary,
    p.legends_behind_drawings target style secondary⟩

/-- A chart with labels on its primary axes and on a secondary x axis. -/
def twoLegends : Plot :=
  { series :=
      [{ y := [1], label := some "a", xadded := some 1 }, { y := [2], label := some "b" },
        { y := [3], label := some "" }]
    legendTitle := some "L"
    xadded := [{ legendLabel := some "R" }] }

/-- Both legends are there, the primary one below the other. -/
theorem program_legends_twoLegends :
    ∃ program, twoLegends.program .current (.resolve none {}) = .ok program ∧
      ⟨.twin (.named "ax") .x, some .upperRight, some "R"⟩ ∈ legendsOf program ∧
      ⟨.named "ax", some .lowerRight, some "L"⟩ ∈ legendsOf program := by
  have hprogram : twoLegends.program .current (.resolve none {}) = .ok _ := rfl
  obtain ⟨hlegends, -⟩ := program_legends hprogram
  obtain ⟨⟨axes, corner, title⟩, htwin, rfl⟩ :=
    (hlegends.onTwin .x).mpr ⟨_, List.mem_cons_self, rfl, _, rfl, by decide⟩
  obtain ⟨rfl, rfl⟩ := hlegends.twinLook _ htwin .x rfl
  obtain ⟨⟨axes, corner, title⟩, hown, rfl⟩ := hlegends.onPrimary.mpr
    ⟨_, List.mem_cons_of_mem _ List.mem_cons_self, rfl, _, rfl, by decide⟩
  obtain rfl := hlegends.primaryTitle _ hown rfl
  obtain rfl := hlegends.primaryBesideX _ hown rfl ⟨_, htwin, rfl⟩
  exact ⟨_, hprogram, htwin, hown⟩

end Plot

end FigureScript
