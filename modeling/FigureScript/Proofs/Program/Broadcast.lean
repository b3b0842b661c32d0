import FigureScript.Proofs.Program.Drawings
import FigureScript.Proofs.Program.Shapes

/-!
# One number for every point

A field of error bars holds one number for every point or a number for each of them.  Writing
the one number out for each point changes nothing, except that at the upper end of a bar one
number is an offset to the points, and the numbers of a list are the ends themselves.

## Main Definitions

* `BarPart` — the fields that a series has for the bars along one axis
* `Series.withBar`, `Series.broadcast` — one such field, and the same number for each point
* `Plot.MovesUpper` — outcomes that differ in the upper distances of one drawing

## Main Results

* `barDistances_lower_replicate`, `barDistances_error_replicate` — where a number and its
  copies mean the same
* `Plot.program_withBar` — how the field of a series enters the program of its chart
* `Plot.program_broadcast` — what writing a number out for each point does to the program
-/

namespace FigureScript

open Outcome

/-! ### Distances -/

section Distances

variable (values : List Float) (v : Float)

theorem zipWith_replicate_length (f : Float → Float → Float) :
    List.zipWith f values (List.replicate values.length v) = values.map (f · v) := by
  rw [← List.map_const, List.zipWith_map_right, List.zipWith_self]
  rfl

/-- An uncertainty is the same for each point. -/
theorem barDistances_error_replicate (side : Side) (limit : Option Values) :
    barDistances side values limit (some (.points (List.replicate values.length v))) =
      barDistances side values limit (some (.scalar v)) := by
  cases limit with
  | none => rfl
  | some limit => cases limit <;> rfl

/-- A number at the lower end is the end of the bar at each point. -/
theorem barDistances_lower_replicate (error : Option Values) :
    barDistances .lower values (some (.points (List.replicate values.length v))) error =
      barDistances .lower values (some (.scalar v)) error :=
  zipWith_replicate_length values v _

/-- A list at the upper end has the ends of the bars, where a number is an offset. -/
theorem barDistances_upper_replicate (error : Option Values) :
    barDistances .upper values (some (.points (List.replicate values.length v))) error =
      values.map (v - ·) :=
  zipWith_replicate_length values v _

end Distances

/-! ### The fields of error bars -/

/-- **The fields of a series for its bars along one axis**: a symmetric uncertainty, and the
two ends. -/
inductive BarPart where
  | error
  | lower
  | upper
  deriving DecidableEq

namespace Series

/-- The coordinates along an axis. -/
def points (s : Series) : Axis → List Float
  | .x => s.xValues
  | .y => s.y

/-- The bars along an axis. -/
def bounds (s : Series) : Axis → Option ErrorBounds
  | .x => s.xBounds
  | .y => s.yBounds

/-- The field of a series for a part of its bars along an axis. -/
def bar (s : Series) : Axis → BarPart → Option Values
  | .x, .error => s.xerr
  | .x, .lower => s.xmin
  | .x, .upper => s.xmax
  | .y, .error => s.yerr
  | .y, .lower => s.ymin
  | .y, .upper => s.ymax

/-- **A series with another value in one of these fields.** -/
def withBar (s : Series) (axis : Axis) (part : BarPart) (values : Values) : Series :=
  match axis, part with
  | .x, .error => { s with xerr := some values }
  | .x, .lower => { s with xmin := some values }
  | .x, .upper => { s with xmax := some values }
  | .y, .error => { s with yerr := some values }
  | .y, .lower => { s with ymin := some values }
  | .y, .upper => { s with ymax := some values }

/-- **A series with a number in one of these fields, written out** for each point. -/
def broadcast (s : Series) (axis : Axis) (part : BarPart) (v : Float) : Series :=
  s.withBar axis part (.points (List.replicate s.y.length v))

/-- A series without error bars. -/
def bare (s : Series) : Series :=
  { s with xerr := none, yerr := none, xmin := none, xmax := none, ymin := none, ymax := none }

section WithBar

variable (s : Series) (axis : Axis) (part : BarPart) (values : Values)

theorem bar_withBar (part' : BarPart) :
    (s.withBar axis part values).bar axis part' =
      if part' = part then some values else s.bar axis part' := by
  cases axis <;> cases part <;> cases part' <;> rfl

theorem bare_withBar : (s.withBar axis part values).bare = s.bare := by
  cases axis <;> cases part <;> rfl

theorem points_withBar (axis' : Axis) :
    (s.withBar axis part values).points axis' = s.points axis' := by
  cases axis <;> cases part <;> cases axis' <;> rfl

theorem y_withBar : (s.withBar axis part values).y = s.y :=
  s.points_withBar axis part values .y

theorem bounds_withBar_of_ne {axis' : Axis} (h : axis' ≠ axis) :
    (s.withBar axis part values).bounds axis' = s.bounds axis' := by
  cases axis <;> cases axis' <;> cases part <;> first | rfl | exact absurd rfl h

end WithBar

/-- A series that passes its check has a coordinate along each axis for each point. -/
theorem Valid.length_points {s : Series} (h : s.Valid) (axis : Axis) :
    (s.points axis).length = s.y.length := by
  cases axis with
  | x => exact h.length_xValues
  | y => rfl

/-- A series has bars along an axis when it has a field about them. -/
theorem bounds_of_bar {s : Series} {axis : Axis} {part : BarPart} {values : Values}
    (h : s.bar axis part = some values) :
    s.bounds axis = some
      ⟨barDistances .lower (s.points axis) (s.bar axis .lower) (s.bar axis .error),
        barDistances .upper (s.points axis) (s.bar axis .upper) (s.bar axis .error)⟩ := by
  have hsome : ((s.bar axis .error).isSome || (s.bar axis .lower).isSome ||
      (s.bar axis .upper).isSome) = true := by
    cases part <;> simp [h]
  cases axis with
  | x => exact if_pos hsome
  | y => exact if_pos hsome

theorem bounds_withBar (s : Series) (axis : Axis) (part : BarPart) (values : Values) :
    (s.withBar axis part values).bounds axis = some
      ⟨barDistances .lower (s.points axis)
          (if .lower = part then some values else s.bar axis .lower)
          (if .error = part then some values else s.bar axis .error),
        barDistances .upper (s.points axis)
          (if .upper = part then some values else s.bar axis .upper)
          (if .error = part then some values else s.bar axis .error)⟩ := by
  rw [bounds_of_bar ((s.bar_withBar axis part values part).trans (if_pos rfl))]
  simp only [bar_withBar, points_withBar]

/-- **A number written out leaves the bars as they are** unless it is at their upper end. -/
theorem bounds_broadcast {s : Series} {axis : Axis}
    (hlength : (s.points axis).length = s.y.length) {part : BarPart} (hpart : part ≠ .upper)
    (v : Float) :
    (s.broadcast axis part v).bounds axis = (s.withBar axis part (.scalar v)).bounds axis := by
  rw [broadcast, bounds_withBar, bounds_withBar, ← hlength]
  cases part with
  | error => simp only [reduceCtorEq, if_true, if_false, barDistances_error_replicate]
  | lower => simp only [reduceCtorEq, if_true, if_false, barDistances_lower_replicate]
  | upper => exact absurd rfl hpart

/-- A number for each point passes the check of a field, as one number does. -/
theorem checkValues_replicate (count : Nat) (location : Location) (v : Float) :
    checkValues count location (some (.points (List.replicate count v))) =
      checkValues count location (some (.scalar v)) := by
  have hfits : (Values.points (List.replicate count v)).fits count = true :=
    decide_eq_true List.length_replicate
  rw [checkValues, hfits]
  rfl

/-- **A series passes its check**, or fails it, whether a number is written out or not. -/
theorem check_broadcast (s : Series) (axis : Axis) (part : BarPart) (v : Float)
    (location : Location) :
    (s.broadcast axis part v).check location =
      (s.withBar axis part (.scalar v)).check location := by
  cases axis <;> cases part <;>
    simp only [check, broadcast, withBar, errorFields, forM_cons, checkValues_replicate] <;> rfl

end Series

/-! ### Drawings -/

namespace Statement

/-- The distances on the upper side of the bars of a drawing along an axis. -/
def upper? (axis : Axis) : Statement → Option (List Float)
  | drawErrorBar _ xerr yerr =>
    match axis with
    | .x => xerr.map (·.upper)
    | .y => yerr.map (·.upper)
  | _ => none

/-- **A drawing with other distances on the upper side** of its bars along an axis. -/
def withUpper (axis : Axis) (upper : List Float) : Statement → Statement
  | drawErrorBar trace xerr yerr =>
    match axis with
    | .x => drawErrorBar trace (xerr.map fun b => { b with upper }) yerr
    | .y => drawErrorBar trace xerr (yerr.map fun b => { b with upper })
  | s => s

end Statement

namespace Plot

theorem drawing_withBar (s : Series) (axis : Axis) (part : BarPart) (values : Values)
    (trace : Trace) :
    drawing (s.withBar axis part values) trace =
      .drawErrorBar trace ((s.withBar axis part values).bounds .x)
        ((s.withBar axis part values).bounds .y) := by
  refine if_pos ?_
  cases axis <;> cases part <;> simp [Series.withBar, Series.hasXError, Series.hasYError]

section Broadcast

variable {s : Series} {axis : Axis} (hlength : (s.points axis).length = s.y.length) (v : Float)
  (trace : Trace)
include hlength

theorem drawing_broadcast {part : BarPart} (hpart : part ≠ .upper) :
    drawing (s.broadcast axis part v) trace = drawing (s.withBar axis part (.scalar v)) trace := by
  have hbars (axis' : Axis) : (s.broadcast axis part v).bounds axis' =
      (s.withBar axis part (.scalar v)).bounds axis' := by
    by_cases haxis : axis' = axis
    · rw [haxis]
      exact Series.bounds_broadcast hlength hpart v
    · rw [Series.broadcast, s.bounds_withBar_of_ne axis part _ haxis,
        s.bounds_withBar_of_ne axis part _ haxis]
  rw [drawing_withBar, ← hbars, ← hbars]
  exact drawing_withBar s axis part _ trace

/-- **A number at the upper end of the bars is an offset**, and a list has the ends. -/
theorem drawing_broadcast_upper :
    (drawing (s.withBar axis .upper (.scalar v)) trace).upper? axis =
        some ((s.points axis).map (· + v)) ∧
      drawing (s.broadcast axis .upper v) trace =
        (drawing (s.withBar axis .upper (.scalar v)) trace).withUpper axis
          ((s.points axis).map (v - ·)) := by
  have hscalar := s.bounds_withBar axis .upper (.scalar v)
  have hpoints := s.bounds_withBar axis .upper (.points (List.replicate s.y.length v))
  rw [← hlength] at hpoints
  simp only [reduceCtorEq, if_true, if_false, barDistances_upper_replicate] at hscalar hpoints
  have hother (values : Values) {axis' : Axis} (h : axis' ≠ axis) :=
    s.bounds_withBar_of_ne axis .upper values h
  rw [drawing_withBar, Series.broadcast, drawing_withBar]
  cases axis <;>
    rw [← hlength, hscalar, hpoints, hother _ (by decide), hother _ (by decide)] <;>
    exact ⟨rfl, rfl⟩

end Broadcast

/-! ### Charts -/

/-- A chart with other series. -/
def withSeries (p : Plot) (series : List Series) : Plot :=
  { p with series }

theorem drawings_append (style : StyleCycle) (axes : PlotAxes) (cycler : Cycler) (i : Nat)
    (earlier later : List Series) :
    drawings style axes cycler i (earlier ++ later) =
      drawings style axes cycler i earlier ++
        drawings style axes (earlier.foldl (served style) cycler) (i + earlier.length) later := by
  induction earlier generalizing cycler i with
  | nil => rfl
  | cons s earlier ih =>
      rw [List.cons_append, drawings_cons, ih, drawings_cons, List.foldl_cons, List.length_cons,
        List.cons_append, Nat.add_right_comm, Nat.add_assoc]

theorem length_drawings (style : StyleCycle) (axes : PlotAxes) (cycler : Cycler) (i : Nat)
    (series : List Series) : (drawings style axes cycler i series).length = series.length := by
  induction series generalizing cycler i with
  | nil => rfl
  | cons s series ih => rw [drawings_cons, List.length_cons, List.length_cons, ih]

/-- A chart without error bars. -/
def bare (p : Plot) : Plot :=
  p.withSeries (p.series.map Series.bare)

theorem bare_withBar (p : Plot) (earlier later : List Series) (s : Series) (axis : Axis)
    (part : BarPart) (values : Values) :
    (p.withSeries (earlier ++ s.withBar axis part values :: later)).bare =
      (p.withSeries (earlier ++ s :: later)).bare := by
  simp only [bare, withSeries, List.map_append, List.map_cons, Series.bare_withBar]

theorem secondary_bare (p : Plot) : p.bare.secondary = p.secondary := by
  have hrequests : p.bare.checkRequests = p.checkRequests := by
    simp only [checkRequests, bare, withSeries, List.zipIdx_map, List.forM_eq_forM,
      List.forM_map]
    rfl
  have hrequested : p.bare.requested = p.requested := by
    simp only [requested, bare, withSeries, List.any_map]
    rfl
  rw [secondary_eq, secondary_eq, hrequests, hrequested]
  rfl

/-- **What stands behind the drawings** of a chart: its parts but the first two. -/
def decorations (p : Plot) (target : PlotTarget) (style : StyleCycle) (axes : PlotAxes) :
    List Statement :=
  (ChartPart.all.drop 2).flatMap (p.part target style axes)

theorem statements_eq_decorations (p : Plot) (target : PlotTarget) (style : StyleCycle)
    (secondary : Option Secondary) :
    p.statements target style secondary =
      axesStatements target (.ofTarget target secondary) ++
        (drawings style (.ofTarget target secondary) {} 0 p.series ++
          p.decorations target style (.ofTarget target secondary)) := by
  rw [statements_eq_flatMap]
  rfl

/-- Error bars enter no part of a chart but the drawings of its series. -/
theorem part_bare (p : Plot) (target : PlotTarget) (style : StyleCycle) (axes : PlotAxes)
    {k : ChartPart} (hk : k ≠ .series) :
    p.bare.part target style axes k = p.part target style axes k := by
  have htwin : p.bare.secondaryLegend axes = p.secondaryLegend axes := by
    simp only [secondaryLegend, bare, withSeries, List.any_map]
    rfl
  have hprimary : p.bare.hasPrimaryLabel = p.hasPrimaryLabel := by
    simp only [hasPrimaryLabel, bare, withSeries, List.any_map]
    rfl
  cases k with
  | series => exact absurd rfl hk
  | twinLegend => rw [part, part, twinLegend, twinLegend, htwin]
  | legend =>
      rw [part, part, primaryLegend, primaryLegend, hprimary, htwin]
      rfl
  | range axis | scale axis | label axis => cases axis <;> rfl
  | axes | twinLabel | twinRange | twinScale | title | notes => rfl

theorem decorations_bare (p : Plot) (target : PlotTarget) (style : StyleCycle)
    (axes : PlotAxes) :
    p.bare.decorations target style axes = p.decorations target style axes := by
  have hrest : ∀ k ∈ ChartPart.all.drop 2, k ≠ .series := by
    decide
  exact List.flatMap_congr fun k hk => p.part_bare target style axes (hrest k hk)

theorem trace_bare (style : StyleCycle) (axes : PlotAxes) (cycler : Cycler) (i : Nat)
    (s : Series) : trace style axes cycler i s.bare = trace style axes cycler i s :=
  rfl

theorem served_bare (style : StyleCycle) (cycler : Cycler) (s : Series) :
    served style cycler s.bare = served style cycler s :=
  rfl

theorem filter_isDrawing_axesStatements (target : PlotTarget) (axes : PlotAxes) :
    (axesStatements target axes).filter (·.isDrawing) = [] := by
  unfold axesStatements
  cases axes.secondary <;> cases target.axes.isCurrent <;> rfl

theorem filter_isDrawing_drawings (style : StyleCycle) (axes : PlotAxes) (cycler : Cycler)
    (i : Nat) (series : List Series) :
    (drawings style axes cycler i series).filter (·.isDrawing) =
      drawings style axes cycler i series := by
  induction series generalizing cycler i with
  | nil => rfl
  | cons s series ih =>
      have hdrawing (t : Trace) : (drawing s t).isDrawing = true := by
        rw [Statement.isDrawing, trace?_drawing]
        rfl
      rw [drawings_cons, List.filter_cons_of_pos (hdrawing _), ih]

section Replaced

variable (p : Plot) (earlier later : List Series) (s : Series) (axis : Axis) (part : BarPart)

theorem checkSeries_broadcast (v : Float) (location : Location) :
    (p.withSeries (earlier ++ s.broadcast axis part v :: later)).checkSeries location =
      (p.withSeries (earlier ++ s.withBar axis part (.scalar v) :: later)).checkSeries
        location := by
  simp only [checkSeries, withSeries, List.zipIdx_append, List.zipIdx_cons, List.forM_eq_forM,
    List.forM_append, List.forM_cons, Series.check_broadcast]

/-- **A field of the error bars of a series enters its drawing only**, which stands behind
those of the earlier series. -/
theorem exists_statements (target : PlotTarget) (style : StyleCycle)
    (secondary : Option Secondary) :
    ∃ before trace after, (before.filter (·.isDrawing)).length = earlier.length ∧
      ∀ values, (p.withSeries (earlier ++ s.withBar axis part values :: later)).statements target
          style secondary =
        before ++ drawing (s.withBar axis part values) trace :: after := by
  let axes := PlotAxes.ofTarget target secondary
  let cycler := earlier.foldl (served style) {}
  refine ⟨axesStatements target axes ++ drawings style axes {} 0 earlier,
    trace style axes cycler earlier.length s.bare,
    drawings style axes (served style cycler s.bare) (earlier.length + 1) later ++
      (p.withSeries (earlier ++ s :: later)).bare.decorations target style axes, ?_, ?_⟩
  · rw [List.filter_append, filter_isDrawing_axesStatements, List.nil_append,
      filter_isDrawing_drawings, length_drawings]
  · intro values
    have hdrawings := drawings_append style axes {} 0 earlier
      (s.withBar axis part values :: later)
    rw [drawings_cons, ← served_bare, ← trace_bare, Series.bare_withBar, Nat.zero_add]
      at hdrawings
    rw [statements_eq_decorations, ← decorations_bare, bare_withBar, withSeries, hdrawings]
    simp only [List.append_assoc, List.cons_append]
    rfl

theorem secondary_withBar (values : Values) :
    (p.withSeries (earlier ++ s.withBar axis part values :: later)).secondary =
      (p.withSeries (earlier ++ s :: later)).secondary := by
  rw [← secondary_bare, bare_withBar, secondary_bare]

/-- **Writing a number out cannot make a chart fail** or compile that did not; and if it
compiles, all but the drawing of the series is the same. -/
theorem program_withBar (target : PlotTarget) (style : StyleCycle) (v : Float) :
    (∃ e, (p.withSeries (earlier ++ s.withBar axis part (.scalar v) :: later)).program target
          style = .error e ∧
        (p.withSeries (earlier ++ s.broadcast axis part v :: later)).program target style =
          .error e) ∨
      ∃ before trace after, (s.points axis).length = s.y.length ∧
        (before.filter (·.isDrawing)).length = earlier.length ∧
        (p.withSeries (earlier ++ s.withBar axis part (.scalar v) :: later)).program target style =
          .ok (before ++ drawing (s.withBar axis part (.scalar v)) trace :: after) ∧
        (p.withSeries (earlier ++ s.broadcast axis part v :: later)).program target style =
          .ok (before ++ drawing (s.broadcast axis part v) trace :: after) := by
  have hchecks := p.checkSeries_broadcast earlier later s axis part v []
  have hsecondary := p.secondary_withBar earlier later s axis part
  cases h : (p.withSeries (earlier ++ s :: later)).secondary with
  | error e =>
      left
      refine ⟨e, ?_, ?_⟩
      · rw [program, hsecondary, h]
        rfl
      · rw [program, Series.broadcast, hsecondary, h]
        rfl
  | ok secondary =>
      rw [h] at hsecondary
      cases hcheck : (p.withSeries
          (earlier ++ s.withBar axis part (.scalar v) :: later)).checkSeries [] with
      | error e =>
          rw [hcheck] at hchecks
          left
          refine ⟨e, ?_, ?_⟩
          · rw [program, hsecondary, hcheck]
            rfl
          · rw [program, hchecks, Series.broadcast, hsecondary]
            rfl
      | ok =>
          rw [hcheck] at hchecks
          obtain ⟨before, trace, after, hbefore, hstatements⟩ :=
            p.exists_statements earlier later s axis part target style secondary
          have hvalid := checkSeries_eq_ok.mp hcheck _ (List.mem_append_right _ List.mem_cons_self)
          have hlength := hvalid.length_points axis
          rw [s.points_withBar, s.y_withBar] at hlength
          right
          refine ⟨before, trace, after, hlength, hbefore, ?_, ?_⟩
          · rw [program_of_secondary (hsecondary _) hcheck, hstatements]
          · exact (program_of_secondary (hsecondary _) hchecks).trans
              (congrArg Except.ok (hstatements _))

end Replaced

/-- **Outcomes that differ in the upper distances of one drawing.**  Both fail alike, or both
are programs that agree but for the bars along one axis in the drawing at a place: on their
upper side these have some distances in one program, and other ones in the other. -/
structure MovesUpper (place : Nat) (axis : Axis) (upper upper' : List Float)
    (outcome outcome' : Except Error (List Statement)) : Prop where
  error : ∀ e, outcome = .error e → outcome' = .error e
  ok : ∀ program, outcome = .ok program → ∃ before drawing after,
    program = before ++ drawing :: after ∧ (before.filter (·.isDrawing)).length = place ∧
      drawing.upper? axis = some upper ∧
      outcome' = .ok (before ++ drawing.withUpper axis upper' :: after)

/-- **What writing a number out for each point does to a program.**  It does nothing for an
uncertainty and for the lower end of a bar.  For the upper end, the number is added to the
points, and its copies have the points taken from them. -/
theorem program_broadcast (p : Plot) (target : PlotTarget) (style : StyleCycle)
    (earlier later : List Series) (s : Series) (axis : Axis) (v : Float) :
    (∀ part, part ≠ .upper →
      (p.withSeries (earlier ++ s.broadcast axis part v :: later)).program target style =
        (p.withSeries (earlier ++ s.withBar axis part (.scalar v) :: later)).program target
          style) ∧
      MovesUpper earlier.length axis ((s.points axis).map (· + v)) ((s.points axis).map (v - ·))
        ((p.withSeries (earlier ++ s.withBar axis .upper (.scalar v) :: later)).program target
          style)
        ((p.withSeries (earlier ++ s.broadcast axis .upper v :: later)).program target style) := by
  constructor
  · intro part hpart
    obtain ⟨e, hscalar, hlist⟩ | ⟨before, trace, after, hlength, -, hscalar, hlist⟩ :=
      p.program_withBar earlier later s axis part target style v
    · rw [hscalar, hlist]
    · rw [hscalar, hlist, drawing_broadcast hlength v trace hpart]
  · obtain ⟨e, hscalar, hlist⟩ | ⟨before, trace, after, hlength, hbefore, hscalar, hlist⟩ :=
      p.program_withBar earlier later s axis .upper target style v
    · rw [hscalar, hlist]
      constructor
      · exact fun _ h => h
      · intro program h
        cases h
    · obtain ⟨hupper, hdrawing⟩ := drawing_broadcast_upper hlength v trace
      rw [hscalar, hlist, hdrawing]
      constructor
      · intro e h
        cases h
      · intro program h
        obtain rfl := Except.ok.inj h
        exact ⟨before, _, after, rfl, hbefore, hupper, rfl⟩

/-- Two points with an uncertainty. -/
def uncertainPoints : Series :=
  { y := [1, 2], yerr := some (.scalar 1) }

/-- The uncertainty can be written out.  At the upper end the number 4 makes bars of lengths 5
and 6, and two copies of it bars of lengths 3 and 2. -/
theorem program_broadcast_uncertainPoints :
    BarPart.error ≠ .upper ∧
      ({ series := [uncertainPoints.broadcast .y .error 1] } : Plot).program .current
          (.resolve none {}) =
        ({ series := [uncertainPoints] } : Plot).program .current (.resolve none {}) ∧
      ∃ before drawing after,
        ({ series := [uncertainPoints.withBar .y .upper (.scalar 4)] } : Plot).program .current
            (.resolve none {}) = .ok (before ++ drawing :: after) ∧
          drawing.upper? .y = some [5, 6] ∧
          ({ series := [uncertainPoints.broadcast .y .upper 4] } : Plot).program .current
            (.resolve none {}) = .ok (before ++ drawing.withUpper .y [3, 2] :: after) := by
  have hpart : BarPart.error ≠ .upper := by decide
  have herror := (program_broadcast { series := [] } .current (.resolve none {}) [] []
    uncertainPoints .y 1).1 .error hpart
  have hupper := (program_broadcast { series := [] } .current (.resolve none {}) [] []
    uncertainPoints .y 4).2
  have hoffsets : (uncertainPoints.points .y).map (· + 4) = [5, 6] := by decide +kernel
  have hends : (uncertainPoints.points .y).map (4 - ·) = [3, 2] := by decide +kernel
  rw [hoffsets, hends] at hupper
  obtain ⟨program, hprogram⟩ : ∃ program,
      ({ series := [uncertainPoints.withBar .y .upper (.scalar 4)] } : Plot).program .current
        (.resolve none {}) = .ok program := ⟨_, rfl⟩
  obtain ⟨before, drawing, after, rfl, -, hscalar, hlist⟩ := hupper.ok program hprogram
  exact ⟨hpart, herror, before, drawing, after, hprogram, hscalar, hlist⟩

/-- **One number does not always mean that number for every point.**  A point at 1 with the
upper end 2 has a bar of length 3, or of length 1 if the end is written in a list. -/
theorem program_broadcast_ne :
    ¬ ∀ (p : Plot) (target : PlotTarget) (style : StyleCycle) (earlier later : List Series)
      (s : Series) (axis : Axis) (part : BarPart) (v : Float),
      (p.withSeries (earlier ++ s.broadcast axis part v :: later)).program target style =
        (p.withSeries (earlier ++ s.withBar axis part (.scalar v) :: later)).program target
          style := by
  intro h
  have hupper := congrArg (fun outcome => outcome.toOption.map (·.map (·.upper? .y)))
    (h { series := [] } .current (.resolve none {}) [] [] { y := [1] } .y .upper 2)
  exact absurd hupper (by decide)

end Plot

end FigureScript
