import FigureScript.Program.OfColorplot

/-!
# The axes of a chart

Apart from the statements that make its axes available, a chart consists of drawings
of series and of decorations, and each of them works on the primary axes or on the
twin over them.  What later on is said about charts — what they declare, in which
cell they stay — rests on this one classification.

## Main Definitions

* `Statement.chartAxes?` — the axes of a drawing of a series or a decoration
* `StaysOn` — such steps only, on some given axes
* `Plot.chartSteps` — a chart without the statements that make its axes available

## Main Results

* `Plot.statements_eq` — a chart is what makes its axes available, then its steps
* `Plot.chartSteps_staysOn` — the steps stay on the axes of the chart
* `Colorplot.statements_eq` — a scalar field is an import, the field, its decorations and
  what explains its values
-/

namespace FigureScript

/-- **The axes of a step of a chart**: a drawing of a series or a decoration. -/
def Statement.chartAxes? : Statement → Option Axes
  | drawLine trace => some trace.axes
  | drawErrorBar trace _ _ => some trace.axes
  | setLimits axes _ _ => some axes
  | setLogScale axes _ => some axes
  | setLegend axes _ _ => some axes
  | setLabel axes _ _ => some axes
  | setTitle axes _ _ => some axes
  | annotate axes _ => some axes
  | _ => none

/-- Nothing but steps of charts, on some of the given axes. -/
def StaysOn (allowed : List Axes) (statements : List Statement) : Prop :=
  ∀ s ∈ statements, ∃ axes ∈ allowed, s.chartAxes? = some axes

namespace StaysOn

variable {allowed : List Axes}

@[simp] theorem nil : StaysOn allowed [] := by
  simp [StaysOn]

@[simp] theorem append_iff {first second : List Statement} :
    StaysOn allowed (first ++ second) ↔ StaysOn allowed first ∧ StaysOn allowed second := by
  simp only [StaysOn, List.mem_append, or_imp, forall_and]

/-- One step on axes that are allowed. -/
theorem singleton {s : Statement} {axes : Axes} (hs : s.chartAxes? = some axes)
    (haxes : axes ∈ allowed) : StaysOn allowed [s] := by
  intro s' hs'
  rw [List.mem_singleton] at hs'
  exact ⟨axes, haxes, hs' ▸ hs⟩

/-- A step for each item of a list, all on the same axes. -/
theorem map {α : Type} {f : α → Statement} {axes : Axes} (haxes : axes ∈ allowed)
    (hf : ∀ a, (f a).chartAxes? = some axes) (items : List α) :
    StaysOn allowed (items.map f) := by
  intro s hs
  obtain ⟨a, -, rfl⟩ := List.mem_map.mp hs
  exact ⟨axes, haxes, hf a⟩

/-- A step for a part of a figure that may be absent. -/
theorem optional {α : Type} {f : α → Statement} {axes : Axes} (haxes : axes ∈ allowed)
    (hf : ∀ a, (f a).chartAxes? = some axes) (part : Option α) :
    StaysOn allowed (part.map f).toList := by
  cases part with
  | none => exact nil
  | some a => exact singleton (hf a) haxes

end StaysOn

/-- The axes of a chart: the primary ones, and the twin where there is one. -/
def PlotAxes.all (axes : PlotAxes) : List Axes :=
  axes.primary :: axes.twin?.toList

theorem PlotAxes.primary_mem (axes : PlotAxes) : axes.primary ∈ axes.all :=
  List.mem_cons_self

theorem PlotAxes.twin_mem {axes : PlotAxes} {s : Secondary} (h : axes.secondary = some s) :
    axes.primary.twin s.adds ∈ axes.all := by
  simp [all, twin?, h]

/-- A series is drawn on the axes of its chart. -/
theorem PlotAxes.ofSeries_mem (axes : PlotAxes) (s : Series) : axes.ofSeries s ∈ axes.all := by
  unfold ofSeries all
  cases axes.twin? with
  | none => simp
  | some twin =>
      split
      · simp
      · simp

namespace Plot

variable {allowed : List Axes} {a : Axes}

/-! ### Sections -/

theorem limits_staysOn (ha : a ∈ allowed) (axis : Axis) (range : Option Range) :
    StaysOn allowed (limits a axis range) :=
  .optional ha (fun _ => rfl) range

theorem logScale_staysOn (ha : a ∈ allowed) (axis : Axis) (log : Bool) :
    StaysOn allowed (logScale a axis log) := by
  unfold logScale
  split
  · exact .singleton rfl ha
  · exact .nil

theorem axisLabel_staysOn (ha : a ∈ allowed) (axis : Axis) (text : Option String) :
    StaysOn allowed (axisLabel a axis text) :=
  .optional ha (fun _ => rfl) text

theorem titleStatement_staysOn (ha : a ∈ allowed) (text : Option String)
    (placement : TitlePlacement) : StaysOn allowed (titleStatement a text placement) :=
  .optional ha (fun _ => rfl) (text.filter (· ≠ ""))

/-- A series is drawn on the axes of its trace, with error bars or without. -/
theorem chartAxes?_drawing (s : Series) (trace : Trace) :
    (drawing s trace).chartAxes? = some trace.axes := by
  unfold drawing
  split
  · rfl
  · rfl

/-- The trace of the series of overall place `i`, with the tokens that are next. -/
def trace (style : StyleCycle) (axes : PlotAxes) (cycler : Cycler) (i : Nat) (s : Series) :
    Trace :=
  let color := cycler.color style s.color
  let line := color.2.line style s.line
  { axes := axes.ofSeries s, x := s.xValues, y := s.y
    marker := if s.isUnjoined then (line.2.marker style).1 else none
    style :=
      { label := s.labelText
        color := if color.1.isNone && s.onSecondary then some s!"C{i}" else color.1
        linestyle := line.1 } }

/-- The place in the lists after a series has been served. -/
def served (style : StyleCycle) (cycler : Cycler) (s : Series) : Cycler :=
  let line := (cycler.color style s.color).2.line style s.line
  if s.isUnjoined then (line.2.marker style).2 else line.2

theorem drawings_cons (style : StyleCycle) (axes : PlotAxes) (cycler : Cycler) (i : Nat)
    (s : Series) (rest : List Series) :
    drawings style axes cycler i (s :: rest) =
      drawing s (trace style axes cycler i s) ::
        drawings style axes (served style cycler s) (i + 1) rest := by
  rw [drawings, trace, served]
  cases s.isUnjoined <;> rfl

theorem drawings_staysOn (style : StyleCycle) (axes : PlotAxes) (cycler : Cycler) (i : Nat)
    (series : List Series) : StaysOn axes.all (drawings style axes cycler i series) := by
  induction series generalizing cycler i with
  | nil => exact .nil
  | cons s rest ih =>
      rw [drawings_cons, ← List.singleton_append, StaysOn.append_iff]
      exact ⟨.singleton (chartAxes?_drawing s _) (axes.ofSeries_mem s), ih _ _⟩

theorem legends_staysOn (p : Plot) (axes : PlotAxes) : StaysOn axes.all (p.legends axes) := by
  rw [legends, StaysOn.append_iff]
  constructor
  · cases h : p.secondaryLegend axes with
    | none => exact .nil
    | some s =>
        have hs : axes.secondary = some s := Option.eq_some_of_filter_eq_some h
        exact .singleton rfl (PlotAxes.twin_mem hs)
  · split
    · exact .singleton rfl axes.primary_mem
    · exact .nil

theorem secondaryDecorations_staysOn (axes : PlotAxes) :
    StaysOn axes.all (secondaryDecorations axes) := by
  unfold secondaryDecorations
  split
  next adds settings h =>
    have htwin := PlotAxes.twin_mem h
    simp only [StaysOn.append_iff]
    exact ⟨⟨axisLabel_staysOn htwin adds _, limits_staysOn htwin adds _⟩,
      logScale_staysOn htwin adds _⟩
  next => exact .nil

/-! ### Charts -/

/-- **The steps of a chart** whose axes are available: its drawings and decorations. -/
def chartSteps (p : Plot) (axes : PlotAxes) (title : TitlePlacement) (style : StyleCycle) :
    List Statement :=
  drawings style axes {} 0 p.series ++
    limits axes.primary .x p.xrange ++ limits axes.primary .y p.yrange ++
    logScale axes.primary .x p.xlog ++ logScale axes.primary .y p.ylog ++
    p.legends axes ++
    axisLabel axes.primary .x p.xlabel ++ axisLabel axes.primary .y p.ylabel ++
    secondaryDecorations axes ++
    titleStatement axes.primary p.title title ++
    p.epilog.map (.annotate axes.primary)

/-- **A chart is what makes its axes available, then its steps.** -/
theorem statements_eq (p : Plot) (target : PlotTarget) (style : StyleCycle)
    (secondary : Option Secondary) :
    p.statements target style secondary =
      axesStatements target (.ofTarget target secondary) ++
        p.chartSteps (.ofTarget target secondary) target.title style := by
  simp only [statements, chartSteps, List.append_assoc]

/-- **The steps of a chart stay on its axes.** -/
theorem chartSteps_staysOn (p : Plot) (axes : PlotAxes) (title : TitlePlacement)
    (style : StyleCycle) : StaysOn axes.all (p.chartSteps axes title style) := by
  have hprimary := axes.primary_mem
  simp only [chartSteps, StaysOn.append_iff]
  refine ⟨⟨⟨⟨⟨⟨⟨⟨⟨⟨?_, ?_⟩, ?_⟩, ?_⟩, ?_⟩, ?_⟩, ?_⟩, ?_⟩, ?_⟩, ?_⟩, ?_⟩
  · exact drawings_staysOn style axes {} 0 p.series
  · exact limits_staysOn hprimary .x p.xrange
  · exact limits_staysOn hprimary .y p.yrange
  · exact logScale_staysOn hprimary .x p.xlog
  · exact logScale_staysOn hprimary .y p.ylog
  · exact legends_staysOn p axes
  · exact axisLabel_staysOn hprimary .x p.xlabel
  · exact axisLabel_staysOn hprimary .y p.ylabel
  · exact secondaryDecorations_staysOn axes
  · exact titleStatement_staysOn hprimary p.title title
  · exact .map hprimary (fun _ => rfl) p.epilog

end Plot

/-! ### Scalar fields -/

namespace Colorplot

/-- The decorations of a field. -/
def decorations (c : Colorplot) (axes : Axes) : List Statement :=
  Plot.limits axes .x c.xrange ++ Plot.limits axes .y c.yrange ++
    Plot.logScale axes .x c.xlog ++ Plot.logScale axes .y c.ylog ++
    Plot.axisLabel axes .x c.xlabel ++ Plot.axisLabel axes .y c.ylabel ++
    Plot.titleStatement axes c.title .above

theorem decorations_staysOn (c : Colorplot) (axes : Axes) :
    StaysOn [axes] (c.decorations axes) := by
  have ha : axes ∈ [axes] := List.mem_singleton_self axes
  simp only [decorations, StaysOn.append_iff]
  exact ⟨⟨⟨⟨⟨⟨Plot.limits_staysOn ha .x c.xrange, Plot.limits_staysOn ha .y c.yrange⟩,
    Plot.logScale_staysOn ha .x c.xlog⟩, Plot.logScale_staysOn ha .y c.ylog⟩,
    Plot.axisLabel_staysOn ha .x c.xlabel⟩, Plot.axisLabel_staysOn ha .y c.ylabel⟩,
    Plot.titleStatement_staysOn ha c.title .above⟩

/-- The import that a logarithmic colour scale needs. -/
def imports (c : Colorplot) : List Statement :=
  if c.zlog then [.importName "matplotlib.colors" "LogNorm"] else []

theorem statements_eq (c : Colorplot) (axes : Axes) (rows cols : Nat) :
    c.statements axes rows cols =
      c.imports ++ ([.drawField (c.field axes rows cols)] ++
        (c.decorations axes ++ [c.explanation])) := by
  simp only [statements, imports, decorations, List.append_assoc]

end Colorplot

end FigureScript
