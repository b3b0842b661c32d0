import FigureScript.Proofs.Figure.Accepted
import FigureScript.Proofs.Program.DeclaredBeforeUse
import FigureScript.Proofs.Program.Retained

/-!
# The shapes of what is drawn

Coordinates, error bars and fields that are drawn fit each other, whatever the figure was
like: a figure for which they would not fit has no program.

## Main Definitions

* `Trace.Aligned`, `ErrorBounds.Fits`, `FieldDrawing.Aligned` — the lengths that belong
  together
* `Statement.Aligned` — a statement that draws nothing out of shape

## Main Results

* `length_barDistances` — there is a distance for each point
* `Plot.aligned_of_mem_statements`, `Colorplot.aligned_of_mem_statements` — charts and fields
* `Figure.program_aligned` — everything that is drawn is in shape
-/

namespace FigureScript

open Outcome

/-- **A trace has points**, and as many horizontal as vertical coordinates. -/
structure Trace.Aligned (t : Trace) : Prop where
  nonempty : t.y ≠ []
  length : t.x.length = t.y.length

/-- Error bars have two distances for each of some points. -/
structure ErrorBounds.Fits (b : ErrorBounds) (count : Nat) : Prop where
  lower : b.lower.length = count
  upper : b.upper.length = count

/-- **A field is a rectangle** with at least one value, and it has coordinates for its columns
and its rows, or none at all. -/
structure FieldDrawing.Aligned (f : FieldDrawing) : Prop where
  nonempty : f.z ≠ []
  rectangle : ∃ cols, cols ≠ 0 ∧ (∀ row ∈ f.z, row.length = cols) ∧
    (f.x = none ∧ f.y = none ∨
      ∃ xs ys, f.x = some xs ∧ f.y = some ys ∧ xs.length = cols ∧ ys.length = f.z.length)

/-- **A statement draws nothing out of shape.** -/
def Statement.Aligned : Statement → Prop
  | drawLine trace => trace.Aligned
  | drawErrorBar trace xerr yerr =>
    trace.Aligned ∧ (xerr.isSome ∨ yerr.isSome) ∧
      (∀ b ∈ xerr, b.Fits trace.y.length) ∧ ∀ b ∈ yerr, b.Fits trace.y.length
  | drawField field => field.Aligned
  | _ => True

theorem Statement.aligned_of_optional {α : Type} {f : α → Statement} (hf : ∀ a, (f a).Aligned)
    (value : Option α) : ∀ s ∈ (value.map f).toList, s.Aligned := by
  cases value with
  | none => exact List.forall_mem_nil _
  | some a => exact List.forall_mem_singleton.mpr (hf a)

/-! ### Error bars -/

/-- **There is a distance for each point**, where the fields of the bars fit the points. -/
theorem length_barDistances (side : Side) {points : List Float} {limit error : Option Values}
    (hlimit : ∀ v ∈ limit, v.fits points.length = true)
    (herror : ∀ v ∈ error, v.fits points.length = true) :
    (barDistances side points limit error).length = points.length := by
  cases limit with
  | some limit =>
      cases limit with
      | scalar bound => cases side <;> exact List.length_map ..
      | points bounds =>
          have hbounds : bounds.length = points.length := of_decide_eq_true (hlimit _ rfl)
          cases side <;> rw [barDistances, List.length_zipWith, hbounds, Nat.min_self]
  | none =>
      cases error with
      | none => exact List.length_replicate
      | some error =>
          cases error with
          | scalar value => exact List.length_replicate
          | points errors => exact of_decide_eq_true (herror _ rfl)

namespace Series

variable {s : Series} (h : s.Valid)
include h

theorem Valid.length_xValues : s.xValues.length = s.y.length := by
  rw [xValues]
  cases hx : s.x with
  | none => exact length_indexCoordinates _
  | some xs => exact h.x xs hx

theorem Valid.fits_xBounds : ∀ b ∈ s.xBounds, b.Fits s.y.length := by
  have herrors := h.errors
  simp only [errorFields, List.forall_mem_cons, ← h.length_xValues] at herrors
  obtain ⟨hxerr, -, hxmin, hxmax, -⟩ := herrors
  intro b hb
  rw [xBounds, Option.mem_def, Option.ite_none_right_eq_some] at hb
  obtain ⟨-, ⟨⟩⟩ := hb
  rw [← h.length_xValues]
  exact ⟨length_barDistances .lower hxmin hxerr, length_barDistances .upper hxmax hxerr⟩

theorem Valid.fits_yBounds : ∀ b ∈ s.yBounds, b.Fits s.y.length := by
  have herrors := h.errors
  simp only [errorFields, List.forall_mem_cons] at herrors
  obtain ⟨-, hyerr, -, -, hymin, hymax, -⟩ := herrors
  intro b hb
  rw [yBounds, Option.mem_def, Option.ite_none_right_eq_some] at hb
  obtain ⟨-, ⟨⟩⟩ := hb
  exact ⟨length_barDistances .lower hymin hyerr, length_barDistances .upper hymax hyerr⟩

end Series

/-! ### Charts -/

/-- What draws a part of a chart other than its series draws no coordinates. -/
theorem Statement.aligned_of_part? {s : Statement} {primary : Axes} {k : ChartPart}
    (h : s.part? primary = some k) (hk : k ≠ .series) : s.Aligned := by
  cases s with
  | drawLine trace => exact absurd (Option.some.inj h).symm hk
  | drawErrorBar trace xerr yerr => exact absurd (Option.some.inj h).symm hk
  | drawField field => cases h
  | _ => trivial

namespace Plot

theorem aligned_drawing {s : Series} (h : s.Valid) {trace : Trace} (hx : trace.x = s.xValues)
    (hy : trace.y = s.y) : (drawing s trace).Aligned := by
  have htrace : trace.Aligned := by
    constructor
    · rw [hy]
      exact h.nonempty
    · rw [hx, hy, h.length_xValues]
  unfold drawing
  split
  next hbars =>
    have hsome : s.xBounds.isSome ∨ s.yBounds.isSome := by
      rw [s.isSome_xBounds, s.isSome_yBounds, ← Bool.or_eq_true]
      exact hbars
    refine ⟨htrace, hsome, ?_, ?_⟩
    · rw [hy]
      exact h.fits_xBounds
    · rw [hy]
      exact h.fits_yBounds
  next => exact htrace

theorem aligned_of_mem_drawings {style : StyleCycle} {axes : PlotAxes} {cycler : Cycler} {i : Nat}
    {series : List Series} (h : ∀ s ∈ series, s.Valid) :
    ∀ s ∈ drawings style axes cycler i series, s.Aligned := by
  induction series generalizing cycler i with
  | nil => exact List.forall_mem_nil _
  | cons s rest ih =>
      rw [List.forall_mem_cons] at h
      rw [drawings_cons, List.forall_mem_cons]
      exact ⟨aligned_drawing h.1 rfl rfl, ih h.2⟩

/-- **A chart of valid series** draws nothing out of shape. -/
theorem aligned_of_mem_statements {p : Plot} (h : ∀ s ∈ p.series, s.Valid) (target : PlotTarget)
    (style : StyleCycle) (secondary : Option Secondary) :
    ∀ s ∈ p.statements target style secondary, s.Aligned := by
  rw [statements_eq_flatMap, List.forall_mem_flatMap]
  intro k _ s hs
  by_cases hk : k = .series
  · rw [hk] at hs
    exact aligned_of_mem_drawings h s hs
  · exact Statement.aligned_of_part? (p.ofPart_part target style _ k s hs) hk

end Plot

/-! ### Fields -/

namespace Colorplot

theorem aligned_field {c : Colorplot} (h : c.check [] = .ok ()) (axes : Axes) :
    (c.field axes c.z.length c.cols).Aligned := by
  obtain ⟨⟨hne, hcols, hrows⟩, hx, hy⟩ := check_eq_ok.mp h
  refine ⟨hne, c.cols, hcols, hrows, ?_⟩
  unfold field
  cases c.hasCoordinates with
  | false => exact .inl ⟨rfl, rfl⟩
  | true => exact .inr ⟨_, _, rfl, rfl, length_cellCenters hx, length_cellCenters hy⟩

theorem aligned_of_mem_decorations (c : Colorplot) (axes : Axes) :
    ∀ s ∈ c.decorations axes, s.Aligned := by
  have hlogScale (axis : Axis) (log : Bool) :
      ∀ s ∈ Plot.logScale axes axis log, s.Aligned := by
    unfold Plot.logScale
    split
    next => exact List.forall_mem_singleton.mpr trivial
    next => exact List.forall_mem_nil _
  simp only [decorations, List.forall_mem_append]
  have hlimits (axis : Axis) (range : Option Range) :
      ∀ s ∈ Plot.limits axes axis range, s.Aligned :=
    Statement.aligned_of_optional (f := .setLimits axes axis) (fun _ => trivial) range
  have haxisLabel (axis : Axis) (text : Option String) :
      ∀ s ∈ Plot.axisLabel axes axis text, s.Aligned :=
    Statement.aligned_of_optional (f := .setLabel axes axis) (fun _ => trivial) text
  have htitle : ∀ s ∈ Plot.titleStatement axes c.title .above, s.Aligned :=
    Statement.aligned_of_optional (f := fun text => .setTitle axes text .above)
      (fun _ => trivial) _
  exact ⟨⟨⟨⟨⟨⟨hlimits .x c.xrange, hlimits .y c.yrange⟩, hlogScale .x c.xlog⟩,
    hlogScale .y c.ylog⟩, haxisLabel .x c.xlabel⟩, haxisLabel .y c.ylabel⟩, htitle⟩

/-- **A checked field** is drawn in shape. -/
theorem aligned_of_mem_statements {c : Colorplot} (h : c.check [] = .ok ()) (axes : Axes) :
    ∀ s ∈ c.statements axes c.z.length c.cols, s.Aligned := by
  simp only [statements_eq, List.forall_mem_append, List.forall_mem_singleton]
  refine ⟨?_, aligned_field h axes, c.aligned_of_mem_decorations axes, ?_⟩
  · unfold imports
    split
    next => exact List.forall_mem_singleton.mpr trivial
    next => exact List.forall_mem_nil _
  · unfold explanation
    split <;> trivial

end Colorplot

/-! ### Grids and figures -/

theorem Multiplot.IsBlock.aligned {style : StyleCycle} {rows cols : Nat}
    {entry : Cell × Nat × Nat} {block : List Statement} (h : IsBlock style rows cols entry block) :
    ∀ s ∈ block, s.Aligned := by
  obtain ⟨p, secondary, -, -, hseries, rfl⟩ := h
  exact Plot.aligned_of_mem_statements (Plot.checkSeries_eq_ok.mp hseries) _ style secondary

theorem Multiplot.aligned_of_mem_program {m : Multiplot} {style : StyleCycle}
    {scaled tightLayout : Bool} {program : List Statement}
    (h : m.program style scaled tightLayout = .ok program) : ∀ s ∈ program, s.Aligned := by
  obtain ⟨rows, cols, blocks, -, hblocks, rfl⟩ := program_eq_ok h
  simp only [List.forall_mem_cons, List.forall_mem_append]
  refine ⟨trivial, forall_mem_blocks hblocks fun _ _ hblock => hblock.aligned, fun s hs => ?_⟩
  obtain ⟨text, rfl⟩ | rfl | ⟨between, rfl⟩ := mem_closing hs <;> trivial

namespace Figure

theorem aligned_of_mem_drawingProgram {figure : Figure} {style : StyleCycle}
    {options : ProgramOptions} {drawing : List Statement}
    (h : figure.drawingProgram style options = .ok drawing) : ∀ s ∈ drawing, s.Aligned := by
  cases figure with
  | plot p =>
      obtain ⟨secondary, -, hseries, rfl⟩ := Plot.program_eq_ok h
      exact Plot.aligned_of_mem_statements (Plot.checkSeries_eq_ok.mp hseries) _ _ _
  | colorplot c =>
      obtain ⟨rows, cols, hcheck, hshape, rfl⟩ := Colorplot.program_eq_ok h
      obtain ⟨-, -, rfl, rfl, -⟩ := Colorplot.shape_eq_ok.mp hshape
      exact Colorplot.aligned_of_mem_statements hcheck _
  | multiplot m => exact Multiplot.aligned_of_mem_program h

/-- **Everything that is drawn is in shape**, inside style presets too. -/
theorem program_aligned {figure : Figure} {name : String} {options : ProgramOptions}
    {program : List Statement} (h : figure.program name options = .ok program) :
    ∀ s ∈ stepsOf program, s.Aligned := by
  obtain ⟨drawing, hdrawing, rfl⟩ := program_eq_ok h
  rw [stepsOf_inPresets options.presets (body_declares hdrawing).isScope_eq_false,
    List.forall_mem_append]
  refine ⟨aligned_of_mem_drawingProgram hdrawing, fun s hs => ?_⟩
  obtain rfl | rfl | ⟨title, rfl⟩ | ⟨path, rfl⟩ := mem_closing hs <;> trivial

/-- A chart whose points have an upper limit each and one lower error. -/
def limitedChart : Figure :=
  .plot
    { series :=
        [{ y := [1, 4, 9], ymax := some (.points [2, 5, 10]), yerr := some (.scalar 1) }] }

theorem program_aligned_limitedChart :
    ∃ program trace bounds,
      limitedChart.program "fig" { presets := ["bmh"], formats := ["pdf"] } = .ok program ∧
      .drawErrorBar trace none (some bounds) ∈ stepsOf program ∧
      trace.x.length = 3 ∧ bounds.lower.length = 3 ∧ bounds.upper.length = 3 := by
  have h : limitedChart.program "fig" { presets := ["bmh"], formats := ["pdf"] } = .ok _ := rfl
  refine ⟨_, _, _, h, List.mem_cons_self, ?_⟩
  obtain ⟨htrace, -, -, hbounds⟩ := program_aligned h _ List.mem_cons_self
  have hfits := hbounds _ rfl
  exact ⟨htrace.length, hfits.lower, hfits.upper⟩

end Figure

end FigureScript
