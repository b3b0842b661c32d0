import FigureScript.Proofs.Keyed
import FigureScript.Proofs.Program.Addressing
import FigureScript.Proofs.Program.SecondaryAxis
import FigureScript.Proofs.Style.Lists

/-!
# What a program retains of its chart

Nothing that counts is lost between a chart and its program: two charts with the same program
have the same series, ranges, scales, texts and notes.

## Main Definitions

* `ChartPart`, `Statement.part?` — the parts of a chart and which of them a statement draws
* `Plot.part` — the statements of a part
* `Series.Agrees`, `Plot.Agrees` — the same in all that counts

## Main Results

* `Plot.statements_eq_flatMap` — a program is made part by part
* `Plot.filter_statements` — each part is found again in the program
* `Plot.agrees_of_drawings` — the drawings tell the series apart
* `Plot.findSome?_created?_statements` — the secondary axis is found in the program
* `Plot.agrees_of_program` — charts with the same program agree

## Design Notes

Ranges, scales, labels and legends of the primary and of the secondary axis are set by the
same kinds of statements, so a part is told by the axes that a statement addresses.  Those
axes depend on whether there is a secondary axis at all, which is found out first, from the
statement that creates it.
-/

namespace FigureScript

open Outcome

/-! ### Parts -/

/-- **A part of a chart.** -/
inductive ChartPart where
  | axes
  | series
  | range (axis : Axis)
  | scale (axis : Axis)
  | twinLegend
  | legend
  | label (axis : Axis)
  | twinLabel
  | twinRange
  | twinScale
  | title
  | notes
  deriving DecidableEq

namespace ChartPart

/-- The parts in the order in which they are drawn. -/
def all : List ChartPart :=
  [.axes, .series, .range .x, .range .y, .scale .x, .scale .y, .twinLegend, .legend, .label .x,
    .label .y, .twinLabel, .twinRange, .twinScale, .title, .notes]

theorem mem_all (part : ChartPart) : part ∈ all := by
  cases part with
  | range axis => cases axis <;> decide
  | scale axis => cases axis <;> decide
  | label axis => cases axis <;> decide
  | axes | series | twinLegend | legend | twinLabel | twinRange | twinScale | title | notes =>
      decide

theorem all_nodup : all.Nodup := by
  decide

end ChartPart

/-- **The part that a statement draws**, in a chart with given primary axes. -/
def Statement.part? (primary : Axes) : Statement → Option ChartPart
  | bindAxes _ => some .axes
  | createTwin _ _ => some .axes
  | drawLine _ => some .series
  | drawErrorBar _ _ _ => some .series
  | setLimits axes axis _ => some (if axes = primary then .range axis else .twinRange)
  | setLogScale axes axis => some (if axes = primary then .scale axis else .twinScale)
  | setLegend axes _ _ => some (if axes = primary then .legend else .twinLegend)
  | setLabel axes axis _ => some (if axes = primary then .label axis else .twinLabel)
  | setTitle _ _ _ => some .title
  | annotate _ _ => some .notes
  | _ => none

namespace Plot

/-- The statements of a setting of the secondary axis. -/
def onTwin (axes : PlotAxes) (statements : Axes → Axis → AddedAxis → List Statement) :
    List Statement :=
  axes.secondary.toList.flatMap fun s =>
    statements (axes.primary.twin s.adds) s.adds (s.settings.getD {})

/-- The legend of the secondary axis. -/
def twinLegend (p : Plot) (axes : PlotAxes) : List Statement :=
  ((p.secondaryLegend axes).map fun s =>
    Statement.setLegend (axes.primary.twin s.adds) (some .upperRight)
      (s.settings.bind (·.legendLabel))).toList

/-- Some series on the primary axes has a label. -/
def hasPrimaryLabel (p : Plot) : Bool :=
  p.series.any fun s => !s.onSecondary && s.labelText.isSome

/-- The legend of the primary axes. -/
def primaryLegend (p : Plot) (axes : PlotAxes) : List Statement :=
  if p.hasPrimaryLabel then
    [.setLegend axes.primary ((p.secondaryLegend axes).map fun s => primaryCorner s.adds)
      p.legendTitle]
  else
    []

/-- **The statements of a part** of a chart. -/
def part (p : Plot) (target : PlotTarget) (style : StyleCycle) (axes : PlotAxes) :
    ChartPart → List Statement
  | .axes => axesStatements target axes
  | .series => drawings style axes {} 0 p.series
  | .range .x => limits axes.primary .x p.xrange
  | .range .y => limits axes.primary .y p.yrange
  | .scale .x => logScale axes.primary .x p.xlog
  | .scale .y => logScale axes.primary .y p.ylog
  | .twinLegend => p.twinLegend axes
  | .legend => p.primaryLegend axes
  | .label .x => axisLabel axes.primary .x p.xlabel
  | .label .y => axisLabel axes.primary .y p.ylabel
  | .twinLabel => onTwin axes fun a axis settings => axisLabel a axis settings.label
  | .twinRange => onTwin axes fun a axis settings => limits a axis settings.range
  | .twinScale => onTwin axes fun a axis settings => logScale a axis settings.log
  | .title => titleStatement axes.primary p.title target.title
  | .notes => p.epilog.map (.annotate axes.primary)

/-- The decorations of the secondary axis are its three settings. -/
theorem secondaryDecorations_eq (axes : PlotAxes) :
    secondaryDecorations axes =
      onTwin axes (fun a axis settings => axisLabel a axis settings.label) ++
        onTwin axes (fun a axis settings => limits a axis settings.range) ++
        onTwin axes (fun a axis settings => logScale a axis settings.log) := by
  obtain ⟨primary, _ | ⟨adds, _ | settings⟩⟩ := axes
  · rfl
  · rfl
  · simp [secondaryDecorations, onTwin]

/-- **A program is made part by part.** -/
theorem statements_eq_flatMap (p : Plot) (target : PlotTarget) (style : StyleCycle)
    (secondary : Option Secondary) :
    p.statements target style secondary =
      ChartPart.all.flatMap (p.part target style (.ofTarget target secondary)) := by
  have hlegends (axes : PlotAxes) : p.legends axes = p.twinLegend axes ++ p.primaryLegend axes :=
    rfl
  simp only [statements, ChartPart.all, part, List.flatMap_cons, List.flatMap_nil, List.append_nil,
    List.append_assoc, secondaryDecorations_eq, hlegends]

/-! ### Parts found again -/

section Parts

variable {primary : Axes} {k : ChartPart}

/-- All statements are of one part. -/
def OfPart (primary : Axes) (k : ChartPart) (statements : List Statement) : Prop :=
  ∀ s ∈ statements, s.part? primary = some k

theorem ofPart_nil : OfPart primary k [] :=
  fun _ hs => nomatch hs

theorem ofPart_singleton {s : Statement} (h : s.part? primary = some k) : OfPart primary k [s] :=
  List.forall_mem_singleton.mpr h

theorem ofPart_optional {α : Type} {f : α → Statement} (hf : ∀ a, (f a).part? primary = some k)
    (value : Option α) : OfPart primary k (value.map f).toList := by
  cases value with
  | none => exact ofPart_nil
  | some a => exact ofPart_singleton (hf a)

theorem ofPart_map {α : Type} {f : α → Statement} (hf : ∀ a, (f a).part? primary = some k)
    (items : List α) : OfPart primary k (items.map f) :=
  List.forall_mem_map.mpr fun a _ => hf a

theorem ofPart_ite {condition : Bool} {s : Statement} (h : s.part? primary = some k) :
    OfPart primary k (if condition then [s] else []) := by
  cases condition with
  | true => exact ofPart_singleton h
  | false => exact ofPart_nil

theorem ofPart_onTwin {axes : PlotAxes} {statements : Axes → Axis → AddedAxis → List Statement}
    (h : ∀ twin adds settings, twin ≠ axes.primary →
      OfPart primary k (statements twin adds settings)) :
    OfPart primary k (onTwin axes statements) := by
  intro s hs
  obtain ⟨used, -, hs⟩ := List.mem_flatMap.mp hs
  exact h _ _ _ (axes.primary.twin_ne used.adds) s hs

variable (a : Axes) (axis : Axis)

theorem ofPart_limits (range : Option Range) :
    OfPart primary (if a = primary then .range axis else .twinRange) (limits a axis range) :=
  ofPart_optional (fun _ => rfl) range

theorem ofPart_logScale (log : Bool) :
    OfPart primary (if a = primary then .scale axis else .twinScale) (logScale a axis log) :=
  ofPart_ite rfl

theorem ofPart_axisLabel (text : Option String) :
    OfPart primary (if a = primary then .label axis else .twinLabel) (axisLabel a axis text) :=
  ofPart_optional (fun _ => rfl) text

end Parts

theorem ofPart_axesStatements (target : PlotTarget) (axes : PlotAxes) :
    OfPart axes.primary .axes (axesStatements target axes) := by
  unfold axesStatements
  split
  next => exact ofPart_nil
  next =>
    intro s hs
    rcases List.mem_append.mp hs with hs | hs
    · exact ofPart_ite (k := .axes) rfl s hs
    · exact ofPart_singleton (k := .axes) rfl s hs

theorem ofPart_drawings (style : StyleCycle) (axes : PlotAxes) (cycler : Cycler) (i : Nat)
    (series : List Series) :
    OfPart axes.primary .series (drawings style axes cycler i series) := by
  induction series generalizing cycler i with
  | nil => exact ofPart_nil
  | cons s rest ih =>
      rw [drawings_cons]
      refine List.forall_mem_cons.mpr ⟨?_, ih _ _⟩
      unfold drawing
      split <;> rfl

theorem ofPart_twinLegend (p : Plot) (axes : PlotAxes) :
    OfPart axes.primary .twinLegend (p.twinLegend axes) := by
  refine ofPart_optional (fun s => ?_) _
  rw [Statement.part?, if_neg (axes.primary.twin_ne s.adds)]

theorem ofPart_primaryLegend (p : Plot) (axes : PlotAxes) :
    OfPart axes.primary .legend (p.primaryLegend axes) := by
  refine ofPart_ite ?_
  rw [Statement.part?, if_pos rfl]

/-- The statements of a part draw that part. -/
theorem ofPart_part (p : Plot) (target : PlotTarget) (style : StyleCycle) (axes : PlotAxes)
    (k : ChartPart) : OfPart axes.primary k (p.part target style axes k) := by
  have hlimits := @ofPart_limits axes.primary
  have hlogScale := @ofPart_logScale axes.primary
  have haxisLabel := @ofPart_axisLabel axes.primary
  cases k with
  | axes => exact ofPart_axesStatements target axes
  | series => exact ofPart_drawings style axes {} 0 p.series
  | range axis => cases axis <;> simpa only [part, if_pos] using hlimits axes.primary _ _
  | scale axis => cases axis <;> simpa only [part, if_pos] using hlogScale axes.primary _ _
  | twinLegend => exact p.ofPart_twinLegend axes
  | legend => exact p.ofPart_primaryLegend axes
  | label axis => cases axis <;> simpa only [part, if_pos] using haxisLabel axes.primary _ _
  | twinLabel =>
      rw [part]
      refine ofPart_onTwin fun twin adds settings hne => ?_
      simpa only [if_neg hne] using haxisLabel twin adds settings.label
  | twinRange =>
      rw [part]
      refine ofPart_onTwin fun twin adds settings hne => ?_
      simpa only [if_neg hne] using hlimits twin adds settings.range
  | twinScale =>
      rw [part]
      refine ofPart_onTwin fun twin adds settings hne => ?_
      simpa only [if_neg hne] using hlogScale twin adds settings.log
  | title => exact ofPart_optional (fun _ => rfl) _
  | notes => exact ofPart_map (fun _ => rfl) _

/-- **Each part is found again in the program.** -/
theorem filter_statements (p : Plot) (target : PlotTarget) (style : StyleCycle)
    (secondary : Option Secondary) (k : ChartPart) :
    (p.statements target style secondary).filter
        (·.part? (PlotAxes.ofTarget target secondary).primary = some k) =
      p.part target style (.ofTarget target secondary) k := by
  have hpart : ∀ k' ∈ ChartPart.all,
      OfPart (PlotAxes.ofTarget target secondary).primary (id k')
        (p.part target style (.ofTarget target secondary) k') :=
    fun k' _ => p.ofPart_part target style _ k'
  have hdistinct : (ChartPart.all.map id).Nodup := ChartPart.all_nodup
  rw [statements_eq_flatMap]
  exact filter_flatMap_of_keys hpart hdistinct k.mem_all

end Plot

/-! ### Agreement -/

/-- **Two series are the same** in what is drawn of them, apart from their style tokens and
error bars. -/
structure Series.Agrees (s t : Series) : Prop where
  x : s.xValues = t.xValues
  y : s.y = t.y
  added : ∀ axis, s.added axis = some 1 ↔ t.added axis = some 1
  label : s.labelText = t.labelText
  unjoined : s.isUnjoined = t.isUnjoined

/-- **Two charts are the same** in all that is drawn of them.  The title of a legend counts
where there is something in the legend, and the settings of a secondary axis where it is in
use. -/
structure Plot.Agrees (p q : Plot) : Prop where
  series : List.Forall₂ Series.Agrees p.series q.series
  xrange : p.xrange = q.xrange
  yrange : p.yrange = q.yrange
  xlog : p.xlog = q.xlog
  ylog : p.ylog = q.ylog
  xlabel : p.xlabel = q.xlabel
  ylabel : p.ylabel = q.ylabel
  title : p.title.filter (· ≠ "") = q.title.filter (· ≠ "")
  epilog : p.epilog = q.epilog
  legendTitle : (∃ s ∈ p.series, s.onSecondary = false ∧ s.labelText.isSome = true) →
    p.legendTitle = q.legendTitle
  twinSettings : ∀ axis, (∃ s ∈ p.series, s.added axis = some 1) →
    (p.twinSettings axis).label = (q.twinSettings axis).label ∧
      (p.twinSettings axis).range = (q.twinSettings axis).range ∧
      (p.twinSettings axis).log = (q.twinSettings axis).log
  twinLegendLabel : ∀ axis, (∃ s ∈ p.series, s.added axis = some 1 ∧ s.labelText.isSome = true) →
    (p.twinSettings axis).legendLabel = (q.twinSettings axis).legendLabel

/-! ### What the drawings tell -/

/-- The trace that a statement draws. -/
def Statement.trace? : Statement → Option Trace
  | drawLine trace => some trace
  | drawErrorBar trace _ _ => some trace
  | _ => none

namespace Plot

theorem trace?_drawing (s : Series) (trace : Trace) : (drawing s trace).trace? = some trace := by
  unfold drawing
  split <;> rfl

/-- A series is drawn with a marker when its points are not connected. -/
theorem isSome_marker_trace {style : StyleCycle} (hstyle : style.Complete) (axes : PlotAxes)
    (cycler : Cycler) (i : Nat) (s : Series) :
    (trace style axes cycler i s).marker.isSome = s.isUnjoined := by
  rw [trace]
  cases s.isUnjoined with
  | false => rfl
  | true => exact Tokens.isSome_get? hstyle.markers _

section Drawings

variable {style : StyleCycle} (hstyle : style.Complete) {axes axes' : PlotAxes}
  (hprimary : axes.primary = axes'.primary)
  (hadds : axes.secondary.map (·.adds) = axes'.secondary.map (·.adds))
include hstyle hprimary hadds

/-- A series is drawn on the secondary axis that it asks for, if it asks for one. -/
def DrawnAsAsked (axes : PlotAxes) (s : Series) : Prop :=
  ∀ axis, s.added axis = some 1 ↔
    s.onSecondary = true ∧ axes.secondary.map (·.adds) = some axis

/-- Series with the same trace agree. -/
theorem agrees_of_trace {s t : Series} (hs : DrawnAsAsked axes s) (ht : DrawnAsAsked axes' t)
    {cycler cycler' : Cycler} {i : Nat}
    (h : trace style axes cycler i s = trace style axes' cycler' i t) : s.Agrees t := by
  -- the axes of a trace tell whether it is on the twin, and `hadds` which twin that is
  have htwin : axes.twin? = axes'.twin? := by
    have htwins (a : PlotAxes) : a.twin? = (a.secondary.map (·.adds)).map a.primary.twin := by
      rw [Option.map_map]
      rfl
    rw [htwins, htwins, hprimary, hadds]
  have hsome {a : PlotAxes} {s : Series} (hs : DrawnAsAsked a s) (hon : s.onSecondary = true) :
      a.twin?.isSome = true := by
    obtain ⟨axis, hadded⟩ := Series.onSecondary_iff.mp hon
    rw [PlotAxes.twin?, Option.isSome_map, ← Option.isSome_map, ((hs axis).mp hadded).2]
    rfl
  have hon : s.onSecondary = t.onSecondary :=
    PlotAxes.onSecondary_inj hprimary htwin (hsome hs) (htwin ▸ hsome ht) (congrArg Trace.axes h)
  have hmarker := congrArg (·.marker.isSome) h
  simp only [isSome_marker_trace hstyle] at hmarker
  refine ⟨congrArg Trace.x h, congrArg Trace.y h, fun axis => ?_,
    congrArg (·.style.label) h, hmarker⟩
  rw [hs axis, ht axis, hon, hadds]

/-- **The drawings tell the series apart.** -/
theorem agrees_of_drawings {series series' : List Series}
    (hseries : ∀ s ∈ series, DrawnAsAsked axes s) (hseries' : ∀ s ∈ series', DrawnAsAsked axes' s)
    {cycler cycler' : Cycler} {i : Nat}
    (h : drawings style axes cycler i series = drawings style axes' cycler' i series') :
    List.Forall₂ Series.Agrees series series' := by
  induction series generalizing series' cycler cycler' i with
  | nil =>
      cases series' with
      | nil => exact .nil
      | cons t rest' => cases h
  | cons s rest ih =>
      cases series' with
      | nil => cases h
      | cons t rest' =>
          rw [List.forall_mem_cons] at hseries hseries'
          rw [drawings_cons, drawings_cons, List.cons.injEq] at h
          have htrace := congrArg Statement.trace? h.1
          rw [trace?_drawing, trace?_drawing] at htrace
          exact .cons
            (agrees_of_trace hstyle hprimary hadds hseries.1 hseries'.1 (Option.some.inj htrace))
            (ih hseries.2 hseries'.2 h.2)

end Drawings

/-! ### What the decorations tell -/

section Decorations

variable {a : Axes} {axis : Axis}

theorem limits_inj {range range' : Option Range} (h : limits a axis range = limits a axis range') :
    range = range' := by
  cases range <;> cases range' <;> simp_all [limits]

theorem logScale_inj {log log' : Bool} (h : logScale a axis log = logScale a axis log') :
    log = log' := by
  cases log <;> cases log' <;> simp_all [logScale]

theorem axisLabel_inj {text text' : Option String}
    (h : axisLabel a axis text = axisLabel a axis text') : text = text' := by
  cases text <;> cases text' <;> simp_all [axisLabel]

/-- An empty title is none, and all others are told apart. -/
theorem titleStatement_inj {text text' : Option String} {placement : TitlePlacement}
    (h : titleStatement a text placement = titleStatement a text' placement) :
    text.filter (· ≠ "") = text'.filter (· ≠ "") := by
  unfold titleStatement at h
  revert h
  cases text.filter (· ≠ "") <;> cases text'.filter (· ≠ "") <;> simp

theorem annotate_inj {notes notes' : List Note}
    (h : notes.map (Statement.annotate a) = notes'.map (.annotate a)) : notes = notes' :=
  List.map_injective_iff.mpr (fun _ _ h => (Statement.annotate.inj h).2) h

end Decorations

end Plot

/-! ### What the secondary axis tells -/

/-- The direction of the secondary axis that a statement creates. -/
def Statement.created? : Statement → Option Axis
  | createTwin _ adds => some adds
  | _ => none

theorem Statement.created?_of_chartAxes? {s : Statement} {axes : Axes}
    (h : s.chartAxes? = some axes) : s.created? = none := by
  cases s <;> first | rfl | cases h

namespace Plot

/-- **The secondary axis is found in the program**, by the statement that creates it. -/
theorem findSome?_created?_statements (p : Plot) (target : PlotTarget) (style : StyleCycle)
    (secondary : Option Secondary) :
    (p.statements target style secondary).findSome? Statement.created? =
      secondary.map (·.adds) := by
  have hsteps (axes : PlotAxes) :
      (p.chartSteps axes target.title style).findSome? Statement.created? = none := by
    rw [List.findSome?_eq_none_iff]
    intro s hs
    obtain ⟨a, -, ha⟩ := p.chartSteps_staysOn axes target.title style s hs
    exact Statement.created?_of_chartAxes? ha
  rw [statements_eq, List.findSome?_append, hsteps, Option.or_none]
  cases secondary with
  | none => rfl
  | some used =>
      simp only [axesStatements, PlotAxes.ofTarget]
      cases target.axes.isCurrent <;> rfl

/-- The primary axes depend on the target and on whether there is a secondary axis. -/
theorem primary_ofTarget (target : PlotTarget) {secondary secondary' : Option Secondary}
    (h : secondary.map (·.adds) = secondary'.map (·.adds)) :
    (PlotAxes.ofTarget target secondary).primary =
      (PlotAxes.ofTarget target secondary').primary := by
  have hsome := congrArg Option.isSome h
  rw [Option.isSome_map, Option.isSome_map] at hsome
  rw [PlotAxes.ofTarget, PlotAxes.ofTarget, hsome]

section Charts

variable {p q : Plot} {target : PlotTarget} {a b : Option Secondary}

/-- The secondary axis in use in both of two charts. -/
theorem exists_secondary (ha : p.secondary = .ok a) (hadds : a.map (·.adds) = b.map (·.adds))
    {axis : Axis} (huses : p.uses axis = true) :
    ∃ s t, a = some ⟨axis, s⟩ ∧ b = some ⟨axis, t⟩ := by
  have haxis := (uses_iff_of_secondary ha axis).mp huses
  obtain ⟨⟨_, s⟩, rfl, rfl⟩ := Option.map_eq_some_iff.mp haxis
  rw [Option.map_some, eq_comm] at hadds
  obtain ⟨⟨_, t⟩, rfl, rfl⟩ := Option.map_eq_some_iff.mp hadds
  exact ⟨s, t, rfl, rfl⟩

/-- A part of the settings that its statements tell is the same in two charts. -/
theorem twinSettings_inj (ha : p.secondary = .ok a) (hb : q.secondary = .ok b)
    (hadds : a.map (·.adds) = b.map (·.adds)) {α : Type} {value : AddedAxis → α}
    {statements : Axes → Axis → AddedAxis → List Statement}
    (h : onTwin (.ofTarget target a) statements = onTwin (.ofTarget target b) statements)
    (hinj : ∀ twin axis settings settings',
      statements twin axis settings = statements twin axis settings' →
        value settings = value settings')
    {axis : Axis} (huses : p.uses axis = true) :
    value (p.twinSettings axis) = value (q.twinSettings axis) := by
  have hprimary := primary_ofTarget target hadds
  obtain ⟨s, t, rfl, rfl⟩ := exists_secondary ha hadds huses
  have hs := getD_settings ha rfl
  have ht := getD_settings hb rfl
  simp only [onTwin, PlotAxes.ofTarget, Option.toList_some, List.flatMap_cons, List.flatMap_nil,
    List.append_nil] at h hprimary
  rw [hprimary] at h
  rw [← hs, ← ht]
  exact hinj _ _ _ _ h

theorem bind_legendLabel (settings : Option AddedAxis) :
    settings.bind (·.legendLabel) = (settings.getD {}).legendLabel := by
  cases settings <;> rfl

/-- Charts with the same legend of the secondary axis have the same title in it. -/
theorem legendLabel_inj (ha : p.secondary = .ok a) (hb : q.secondary = .ok b)
    (hadds : a.map (·.adds) = b.map (·.adds))
    (h : p.twinLegend (.ofTarget target a) = q.twinLegend (.ofTarget target b)) {axis : Axis}
    {s : Series} (hs : s ∈ p.series) (hadded : s.added axis = some 1)
    (hlabel : s.labelText.isSome = true) :
    (p.twinSettings axis).legendLabel = (q.twinSettings axis).legendLabel := by
  obtain ⟨u, v, rfl, rfl⟩ := exists_secondary ha hadds (uses_eq_true.mpr ⟨s, hs, hadded⟩)
  have hlabelled : (p.series.any fun s => s.onSecondary && s.labelText.isSome) = true := by
    rw [List.any_eq_true]
    exact ⟨s, hs, by rw [Series.onSecondary_iff.mpr ⟨axis, hadded⟩, hlabel]; rfl⟩
  have hp := getD_settings ha rfl
  have hq := getD_settings hb rfl
  rw [← hp, ← hq, ← bind_legendLabel, ← bind_legendLabel]
  simp only [twinLegend, secondaryLegend, PlotAxes.ofTarget, Option.filter_some, hlabelled] at h
  -- the other chart has labels on the secondary axis too, or it would have no such legend
  revert h
  cases q.series.any fun s => s.onSecondary && s.labelText.isSome <;> simp

/-- Charts with the same legend have the same title in it. -/
theorem legendTitle_inj {axes axes' : PlotAxes} (h : p.primaryLegend axes = q.primaryLegend axes')
    (hlabel : p.hasPrimaryLabel = true) : p.legendTitle = q.legendTitle := by
  rw [primaryLegend, primaryLegend, if_pos hlabel] at h
  revert h
  cases q.hasPrimaryLabel <;> simp

/-- **Charts with the same program agree.** -/
theorem agrees_of_program {hint : Option StyleHint} {overrides : StyleHint}
    {program : List Statement}
    (hp : p.program target (.resolve hint overrides) = .ok program)
    (hq : q.program target (.resolve hint overrides) = .ok program) : p.Agrees q := by
  have hstyle := StyleCycle.resolve_complete hint overrides
  obtain ⟨a, ha, -, hpa⟩ := program_eq_ok hp
  obtain ⟨b, hb, -, hqb⟩ := program_eq_ok hq
  -- the secondary axis first, since what a statement draws depends on the primary axes
  have hadds : a.map (·.adds) = b.map (·.adds) := by
    rw [← findSome?_created?_statements p target, ← findSome?_created?_statements q target, ← hpa,
      ← hqb]
  have hprimary := primary_ofTarget target hadds
  have hpart (k : ChartPart) :
      p.part target (.resolve hint overrides) (.ofTarget target a) k =
        q.part target (.resolve hint overrides) (.ofTarget target b) k := by
    rw [← filter_statements, ← filter_statements, ← hpa, ← hqb, hprimary]
  have hxrange := hpart (.range .x)
  have hyrange := hpart (.range .y)
  have hxlog := hpart (.scale .x)
  have hylog := hpart (.scale .y)
  have hxlabel := hpart (.label .x)
  have hylabel := hpart (.label .y)
  have htitle := hpart .title
  have hnotes := hpart .notes
  have htwinLabel := hpart .twinLabel
  have htwinRange := hpart .twinRange
  have htwinScale := hpart .twinScale
  simp only [part, hprimary] at hxrange hyrange hxlog hylog hxlabel hylabel htitle hnotes
  simp only [part] at htwinLabel htwinRange htwinScale
  exact {
    series := agrees_of_drawings hstyle hprimary hadds
      (fun _ hs => added_iff_of_secondary ha hs) (fun _ hs => added_iff_of_secondary hb hs)
      (hpart .series)
    xrange := limits_inj hxrange
    yrange := limits_inj hyrange
    xlog := logScale_inj hxlog
    ylog := logScale_inj hylog
    xlabel := axisLabel_inj hxlabel
    ylabel := axisLabel_inj hylabel
    title := titleStatement_inj htitle
    epilog := annotate_inj hnotes
    legendTitle := by
      rintro ⟨s, hs, hon, hlabel⟩
      refine legendTitle_inj (hpart .legend) ?_
      rw [hasPrimaryLabel, List.any_eq_true]
      exact ⟨s, hs, by rw [hon, hlabel]; rfl⟩
    twinSettings := by
      intro axis huses
      rw [← uses_eq_true] at huses
      exact
        ⟨twinSettings_inj ha hb hadds htwinLabel (fun _ _ _ _ => axisLabel_inj) huses,
          twinSettings_inj ha hb hadds htwinRange (fun _ _ _ _ => limits_inj) huses,
          twinSettings_inj ha hb hadds htwinScale (fun _ _ _ _ => logScale_inj) huses⟩
    twinLegendLabel := by
      rintro axis ⟨s, hs, hadded, hlabel⟩
      exact legendLabel_inj ha hb hadds (hpart .twinLegend) hs hadded hlabel }

end Charts

/-- A chart with a secondary axis that says no more than it has to. -/
def terseChart : Plot :=
  { series := [{ y := [1, 2] }, { y := [3], yadded := some 1, label := some "b" }] }

/-- The same chart with fields that do not count. -/
def wordyChart : Plot :=
  { series :=
      [{ x := some (indexCoordinates 2), y := [1, 2], xadded := some 0, label := some "" },
        { y := [3], yadded := some 1, label := some "b", joined := some true }]
    title := some ""
    legendTitle := some "Legend"
    yadded := [{}] }

theorem agrees_of_program_terseChart :
    ∃ program, terseChart.program .current (.resolve none {}) = .ok program ∧
      wordyChart.program .current (.resolve none {}) = .ok program ∧
      terseChart ≠ wordyChart ∧ terseChart.Agrees wordyChart := by
  have hterse : terseChart.program .current (.resolve none {}) = .ok _ := rfl
  have hwordy : wordyChart.program .current (.resolve none {}) =
      terseChart.program .current (.resolve none {}) := rfl
  have hne : terseChart ≠ wordyChart := fun h => nomatch congrArg Plot.title h
  exact ⟨_, hterse, hwordy.trans hterse, hne,
    agrees_of_program hterse (hwordy.trans hterse)⟩

end Plot

end FigureScript
