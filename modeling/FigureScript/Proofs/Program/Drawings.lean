import FigureScript.Proofs.Figure.Accepted
import FigureScript.Proofs.Program.Retained

/-!
# The drawings of a chart in closed form

Which marker, colour and line style a series is drawn with is decided series by series, with
a counter for each list.  Here it is told from the place of the series in the chart alone: a
counter has the number of earlier series that took a token from its list.

## Main Definitions

* `Cycler.after` — the counters behind some series
* `Plot.axesOf` — the axes of a series, from its chart
* `Plot.traceAt` — the trace of a series, from its chart and its place in it
* `Plot.IsDrawing` — the statement that draws a series

## Main Results

* `served_after` — what one series does to the counters
* `Plot.drawings_eq` — the drawings of a chart, each with its own counters
* `Plot.program_draws` — one drawing for each series, in closed form
-/

namespace FigureScript

open Outcome

/-! ### Counters by place -/

/-- **The counters behind some series**: a counter has the number of those that took a token
from its list. -/
def Cycler.after (style : StyleCycle) (earlier : List Series) : Cycler where
  markers := earlier.countP (·.isUnjoined)
  colors := if style.colors.supplied then earlier.countP (·.color.isNone) else 0
  lines := if style.lines.supplied then earlier.countP (·.line.isNone) else 0

theorem Cycler.after_nil (style : StyleCycle) : Cycler.after style [] = {} := by
  rw [after]
  cases style.colors.supplied <;> cases style.lines.supplied <;> rfl

/-- A list that nobody supplied keeps its counter, and any other counts the series without an
index. -/
theorem Tokens.serve_countP (t : Tokens) (earlier : List Series) (index : Series → Option Int)
    (s : Series) :
    (t.serve (index s) (if t.supplied then earlier.countP fun s => (index s).isNone else 0)).2 =
      if t.supplied then (earlier ++ [s]).countP fun s => (index s).isNone else 0 := by
  rw [serve_counter, List.countP_append, List.countP_singleton]

/-- **What one series does to the counters.** -/
theorem Plot.served_after (style : StyleCycle) (earlier : List Series) (s : Series) :
    served style (.after style earlier) s = .after style (earlier ++ [s]) := by
  have hmarkers : (earlier ++ [s]).countP (·.isUnjoined) =
      earlier.countP (·.isUnjoined) + if s.isUnjoined then 1 else 0 := by
    rw [List.countP_append, List.countP_singleton]
  rw [Cycler.after, Cycler.after, ← style.colors.serve_countP earlier (·.color) s,
    ← style.lines.serve_countP earlier (·.line) s, hmarkers]
  unfold served
  cases s.isUnjoined <;> rfl

namespace Plot

/-- **The drawings of a chart**, each with the counters behind the series before it. -/
theorem drawings_eq (style : StyleCycle) (axes : PlotAxes) (earlier rest : List Series) :
    drawings style axes (.after style earlier) earlier.length rest =
      (rest.zipIdx earlier.length).map fun entry => drawing entry.1
        (trace style axes (.after style ((earlier ++ rest).take entry.2)) entry.2 entry.1) := by
  induction rest generalizing earlier with
  | nil => rfl
  | cons s rest ih =>
      have hrest := ih (earlier ++ [s])
      rw [List.length_append, List.length_singleton, List.append_assoc, List.singleton_append]
        at hrest
      rw [drawings_cons, served_after, hrest, List.zipIdx_cons, List.map_cons]
      dsimp only
      rw [List.take_left]

/-! ### Axes of a series -/

/-- **The primary axes of a chart.**  The current axes are given a name where there is a twin
over them. -/
def primaryAxes (p : Plot) (target : PlotTarget) : Axes :=
  if p.series.any (·.onSecondary) && target.axes.isCurrent then .named PlotAxes.primaryName
  else target.axes

/-- **The axes of a series**: a twin if it asks for one, or else the primary axes. -/
def axesOf (p : Plot) (target : PlotTarget) (s : Series) : Axes :=
  if s.xadded = some 1 then (p.primaryAxes target).twin .x
  else if s.yadded = some 1 then (p.primaryAxes target).twin .y
  else p.primaryAxes target

section Axes

variable {p : Plot} {target : PlotTarget} {secondary : Option Secondary}
  (h : p.secondary = .ok secondary)
include h

theorem any_onSecondary : p.series.any (·.onSecondary) = secondary.isSome := by
  rw [Bool.eq_iff_iff, List.any_eq_true, Option.isSome_iff_exists]
  constructor
  · rintro ⟨s, hs, hon⟩
    obtain ⟨axis, hadded⟩ := Series.onSecondary_iff.mp hon
    obtain ⟨used, hused, -⟩ :=
      Option.map_eq_some_iff.mp ((added_iff_of_secondary h hs axis).mp hadded).2
    exact ⟨used, hused⟩
  · rintro ⟨used, rfl⟩
    obtain ⟨s, hs, hadded⟩ := uses_eq_true.mp ((uses_iff_of_secondary h used.adds).mpr rfl)
    exact ⟨s, hs, Series.onSecondary_iff.mpr ⟨used.adds, hadded⟩⟩

theorem primary_eq_primaryAxes (target : PlotTarget) :
    (PlotAxes.ofTarget target secondary).primary = p.primaryAxes target := by
  rw [primaryAxes, any_onSecondary h]
  rfl

/-- The axes of a series can be told from its chart. -/
theorem ofSeries_eq_axesOf {s : Series} (hs : s ∈ p.series) :
    (PlotAxes.ofTarget target secondary).ofSeries s = p.axesOf target s := by
  have hprimary := primary_eq_primaryAxes h target
  have htwin (axis : Axis) (hadded : s.added axis = some 1) :
      (PlotAxes.ofTarget target secondary).ofSeries s = (p.primaryAxes target).twin axis := by
    obtain ⟨hon, haxis⟩ := (added_iff_of_secondary h hs axis).mp hadded
    obtain ⟨used, rfl, rfl⟩ := Option.map_eq_some_iff.mp haxis
    rw [← hprimary, PlotAxes.ofSeries, if_pos hon]
    rfl
  unfold axesOf
  split
  next hx => exact htwin .x hx
  next hx =>
    split
    next hy => exact htwin .y hy
    next hy =>
      have hon : ¬ s.onSecondary = true := by
        rw [Series.onSecondary_iff]
        rintro ⟨axis, hadded⟩
        cases axis with
        | x => exact hx hadded
        | y => exact hy hadded
      rw [PlotAxes.ofSeries, if_neg hon, hprimary]

end Axes

/-! ### Drawings in closed form -/

/-- The number of series before a place that have a property. -/
def earlier (p : Plot) (i : Nat) (has : Series → Bool) : Nat :=
  (p.series.take i).countP has

/-- **The trace of a series** at a place of its chart.  It takes a token from a list behind as
many as earlier series took, and on a secondary axis it has a colour in any case. -/
def traceAt (p : Plot) (target : PlotTarget) (style : StyleCycle) (hstyle : style.Complete)
    (i : Nat) (s : Series) : Trace where
  axes := p.axesOf target s
  x := s.x.getD (indexCoordinates s.y.length)
  y := s.y
  marker :=
    if s.isUnjoined then some (style.markers.cyclic hstyle.markers (p.earlier i (·.isUnjoined)))
    else none
  style :=
    { label := s.label.filter (· ≠ "")
      color :=
        (style.colors.served hstyle.colors s.color (p.earlier i (·.color.isNone))).or
          (if s.onSecondary then some s!"C{i}" else none)
      linestyle := style.lines.served hstyle.lines s.line (p.earlier i (·.line.isNone)) }

/-- A series on a secondary axis has a colour where no token is served. -/
theorem color_or (color : Option String) (on : Bool) (own : String) :
    (if color.isNone && on then some own else color) =
      color.or (if on then some own else none) := by
  cases color <;> cases on <;> rfl

/-- The trace of a series is that of its place. -/
theorem trace_eq_traceAt {p : Plot} {target : PlotTarget} {style : StyleCycle}
    (hstyle : style.Complete) {secondary : Option Secondary} (h : p.secondary = .ok secondary)
    {s : Series} (hs : s ∈ p.series) (hvalid : s.Valid) (i : Nat) :
    trace style (.ofTarget target secondary) (.after style (p.series.take i)) i s =
      p.traceAt target style hstyle i s := by
  have hcolor : ((Cycler.after style (p.series.take i)).color style s.color).1 =
      style.colors.served hstyle.colors s.color (p.earlier i (·.color.isNone)) :=
    Tokens.serve_eq hstyle.colors hvalid.color fun hsupplied => if_pos hsupplied
  have hline (cycler : Cycler)
      (hlines : cycler.lines = (Cycler.after style (p.series.take i)).lines) :
      (cycler.line style s.line).1 =
        style.lines.served hstyle.lines s.line (p.earlier i (·.line.isNone)) :=
    Tokens.serve_eq hstyle.lines hvalid.line fun hsupplied =>
      hlines.trans (if_pos hsupplied)
  have hmarker : style.markers.get? (Cycler.after style (p.series.take i)).markers =
      some (style.markers.cyclic hstyle.markers (p.earlier i (·.isUnjoined))) :=
    Tokens.get?_natCast hstyle.markers _
  rw [traceAt, ← hcolor, ← hline ((Cycler.after style (p.series.take i)).color style s.color).2 rfl,
    ← hmarker, ← ofSeries_eq_axesOf h hs]
  rw [trace, color_or]
  rfl

end Plot

/-! ### Statements -/

namespace Statement

/-- The statement draws a series. -/
def isDrawing (s : Statement) : Bool :=
  s.trace?.isSome

/-- The bars of a drawing that has them, horizontal and vertical ones. -/
def bars? : Statement → Option (Option ErrorBounds × Option ErrorBounds)
  | drawErrorBar _ xerr yerr => some (xerr, yerr)
  | _ => none

end Statement

namespace Series

/-- Some field of the series is about its horizontal error bars. -/
def HasXField (s : Series) : Prop :=
  s.xerr.isSome ∨ s.xmin.isSome ∨ s.xmax.isSome

/-- Some field of the series is about its vertical error bars. -/
def HasYField (s : Series) : Prop :=
  s.yerr.isSome ∨ s.ymin.isSome ∨ s.ymax.isSome

theorem hasXError_iff (s : Series) : s.hasXError = true ↔ s.HasXField := by
  rw [hasXError, Bool.or_eq_true, Bool.or_eq_true, or_assoc]
  rfl

theorem hasYError_iff (s : Series) : s.hasYError = true ↔ s.HasYField := by
  rw [hasYError, Bool.or_eq_true, Bool.or_eq_true, or_assoc]
  rfl

end Series

namespace Plot

/-- **The statement that draws a series** at a place of its chart: its trace, and error bars
where the series has a field about them. -/
structure IsDrawing (p : Plot) (target : PlotTarget) (style : StyleCycle)
    (hstyle : style.Complete) (i : Nat) (s : Series) (drawing : Statement) : Prop where
  trace : drawing.trace? = some (p.traceAt target style hstyle i s)
  isBar : drawing.bars?.isSome ↔ s.HasXField ∨ s.HasYField
  bars : ∀ xerr yerr, drawing.bars? = some (xerr, yerr) →
    (xerr.isSome ↔ s.HasXField) ∧ (yerr.isSome ↔ s.HasYField)

theorem isDrawing_drawing {p : Plot} {target : PlotTarget} {style : StyleCycle}
    (hstyle : style.Complete) (i : Nat) (s : Series) :
    p.IsDrawing target style hstyle i s (drawing s (p.traceAt target style hstyle i s)) where
  trace := trace?_drawing s _
  isBar := by
    rw [← s.hasXError_iff, ← s.hasYError_iff, ← Bool.or_eq_true, drawing]
    cases s.hasXError || s.hasYError <;> simp [Statement.bars?]
  bars := by
    intro xerr yerr h
    unfold drawing at h
    split at h
    next =>
      cases h
      rw [s.isSome_xBounds, s.isSome_yBounds]
      exact ⟨s.hasXError_iff, s.hasYError_iff⟩
    next => cases h

/-- The drawings of a program are those of its series. -/
theorem filter_isDrawing (p : Plot) (target : PlotTarget) (style : StyleCycle)
    (secondary : Option Secondary) :
    (p.statements target style secondary).filter (·.isDrawing) =
      drawings style (.ofTarget target secondary) {} 0 p.series := by
  have hpart := p.filter_statements target style secondary .series
  rw [part] at hpart
  rw [← hpart]
  refine List.filter_congr fun s _ => ?_
  rw [Bool.eq_iff_iff, decide_eq_true_eq]
  cases s <;> simp [Statement.isDrawing, Statement.trace?, Statement.part?] <;> split <;> simp

/-- **One drawing for each series**, in their order and in closed form. -/
theorem program_draws {p : Plot} {target : PlotTarget} {style : StyleCycle}
    (hstyle : style.Complete) {program : List Statement}
    (h : p.program target style = .ok program) :
    List.Forall₂ (fun entry => p.IsDrawing target style hstyle entry.2 entry.1) p.series.zipIdx
      (program.filter (·.isDrawing)) := by
  obtain ⟨secondary, hsecondary, hseries, rfl⟩ := program_eq_ok h
  have hdrawings := drawings_eq style (.ofTarget target secondary) [] p.series
  rw [Cycler.after_nil, List.length_nil, List.nil_append] at hdrawings
  rw [filter_isDrawing, hdrawings, List.forall₂_map_right_iff, List.forall₂_same]
  intro entry hentry
  have hs : entry.1 ∈ p.series := List.fst_mem_of_mem_zipIdx hentry
  have hvalid := checkSeries_eq_ok.mp hseries entry.1 hs
  rw [trace_eq_traceAt hstyle hsecondary hs hvalid]
  exact isDrawing_drawing hstyle entry.2 entry.1

/-- A chart of markers and lines, one of them on a secondary axis. -/
def mixedChart : Plot :=
  { series :=
      [{ y := [1, 2], joined := some false }, { y := [3], line := some 1, color := some 2 },
        { y := [4], joined := some false, yadded := some 1, yerr := some (.scalar 1) }] }

/-- Line styles that somebody supplied. -/
def suppliedLines : StyleHint :=
  { lines := some ["-", "--"] }

/-- The third series has the second marker, the second line style and the colour of its
overall place. -/
theorem program_draws_mixedChart :
    ∃ program drawing, mixedChart.program .current (.resolve none suppliedLines) = .ok program ∧
      (program.filter (·.isDrawing)).length = 3 ∧
      drawing ∈ program.filter (·.isDrawing) ∧
      drawing.trace? = some {
        axes := .twin (.named "ax") .y, x := indexCoordinates 1, y := [4], marker := some "s"
        style := { color := some "C2", linestyle := some "--" } } ∧
      ∃ bounds, drawing.bars? = some (none, some bounds) := by
  have hstyle := StyleCycle.resolve_complete none suppliedLines
  have hprogram : mixedChart.program .current (.resolve none suppliedLines) = .ok _ := rfl
  have hdraws := program_draws hstyle hprogram
  have hlength := hdraws.length_eq.symm
  obtain ⟨htrace, hbar, hbars⟩ := hdraws.get (i := 2) (by decide) (by rw [hlength]; decide)
  obtain ⟨⟨xerr, yerr⟩, hboth⟩ := Option.isSome_iff_exists.mp (hbar.mpr (.inr (.inl rfl)))
  obtain ⟨hxerr, hyerr⟩ := hbars xerr yerr hboth
  have hnone : xerr = none := by
    rw [← Option.not_isSome_iff_eq_none, hxerr]
    rintro (hx | hx | hx) <;> cases hx
  obtain ⟨bounds, rfl⟩ := Option.isSome_iff_exists.mp (hyerr.mpr (.inl rfl))
  exact ⟨_, _, hprogram, hlength, List.get_mem _ _, htrace.trans rfl, bounds,
    hnone ▸ hboth⟩

end Plot

end FigureScript
