import FigureScript.Proofs.Program.Broadcast
import FigureScript.Proofs.Recorder.Kept
import Mathlib.Algebra.Ring.Rat
import Mathlib.Data.List.Zip

/-!
# Error bars from the call to the script

A call gives error bars as distances from its points.  What is recorded of them are columns,
some with distances and some with the ends of the bars, and the compiler makes distances of
these again.  Here the numbers in the script are told from those of the call, row by row.

## Main Definitions

* `pick`, `finiteIndices` — columns at some places, and the places where all are finite
* `ErrorSpec.Fits` — the columns of an uncertainty have one length
* `ErrorSpec.column?` — what is recorded of it for one part of the bars
* `ErrorSpec.bars` — the bars that are drawn for it
* `Series.ofIndices` — the series of some places

## Main Results

* `keepRows_finiteRows` — the rows that are kept, by their places
* `ErrorSpec.columns_eq_ok`, `ErrorSpec.columns_eq_error` — the columns of an uncertainty
* `Series.record_eq_ofIndices` — what is recorded of columns of one length
* `Series.bounds_ofIndices` — the bars of a recorded series
* `FigureRecorder.errorBar_kept_and_drawn` — from the call to its only drawing

## Design Notes

An end that is written down and read back is a distance again, up to rounding.  So drawn
distances are stated as `distanceBelow` and `distanceAbove` over any numbers: over floating-point
numbers they are what is drawn, over exact ones they are what was given.
-/

namespace FigureScript

open Outcome

/-! ### Rows by their places -/

/-- **The numbers of a column** at some places. -/
def pick (places : List Nat) (column : List Float) : List Float :=
  places.filterMap (column[·]?)

/-- **The places**, of so many ones, at which all columns have a finite number. -/
def finiteIndices (count : Nat) (columns : List (List Float)) : List Nat :=
  (List.range count).filter fun i => columns.all fun column => column[i]?.any Number.isFinite

/-- Rows are kept by the places that are marked. -/
theorem keepRows_eq_pick (rows : List Bool) (column : List Float) :
    keepRows rows column =
      pick ((List.range rows.length).filter fun i => rows[i]? = some true) column := by
  induction rows generalizing column with
  | nil => simp [keepRows, pick]
  | cons kept rows ih =>
      cases column with
      | nil => simp [keepRows, pick]
      | cons value column =>
          have htail := ih column
          rw [keepRows, pick] at htail
          cases kept <;>
            simp [keepRows, pick, List.range_succ_eq_map, List.filter_map, List.filterMap_map,
              Function.comp_def, htail]

/-- A row is marked when all columns have a finite number in it. -/
theorem getElem?_finiteRows {columns : List (List Float)} (hne : columns ≠ []) (i : Nat) :
    (finiteRows columns)[i]? = some true ↔
      ∀ column ∈ columns, column[i]?.any Number.isFinite = true := by
  induction columns with
  | nil => exact absurd rfl hne
  | cons first rest ih =>
      cases rest with
      | nil => simp [finiteRows, Option.any_eq_true]
      | cons second rest =>
          have hrest := ih (List.cons_ne_nil second rest)
          rw [List.forall_mem_cons, ← hrest, finiteRows, List.getElem?_zipWith]
          · cases first[i]? <;> cases (finiteRows (second :: rest))[i]? <;> simp
          · exact List.cons_ne_nil second rest

section FiniteRows

variable {count : Nat} {first : List Float} {rest : List (List Float)}
  (hlength : ∀ column ∈ first :: rest, column.length = count)
include hlength

theorem length_finiteRows : (finiteRows (first :: rest)).length = count := by
  have hkeeps := keepsFinite_finiteRows hlength first List.mem_cons_self
  rw [← hkeeps.length_eq, hlength first List.mem_cons_self]

/-- The marked rows are the places at which all columns are finite. -/
theorem filter_finiteRows :
    ((List.range (finiteRows (first :: rest)).length).filter fun i =>
      (finiteRows (first :: rest))[i]? = some true) = finiteIndices count (first :: rest) := by
  rw [length_finiteRows hlength, finiteIndices]
  refine List.filter_congr fun i _ => ?_
  rw [Bool.eq_iff_iff, decide_eq_true_eq, List.all_eq_true]
  exact getElem?_finiteRows (List.cons_ne_nil first rest) i

/-- **The rows that are kept**, by their places. -/
theorem keepRows_finiteRows (column : List Float) :
    keepRows (finiteRows (first :: rest)) column =
      pick (finiteIndices count (first :: rest)) column := by
  rw [keepRows_eq_pick, filter_finiteRows hlength]

/-- Some row is kept when there is such a place. -/
theorem any_finiteRows :
    (finiteRows (first :: rest)).any id = true ↔ finiteIndices count (first :: rest) ≠ [] := by
  have hany : (finiteRows (first :: rest)).any id = true ↔ true ∈ finiteRows (first :: rest) := by
    simp
  rw [hany, ← filter_finiteRows hlength, List.mem_iff_getElem?, ne_eq, List.filter_eq_nil_iff]
  constructor
  · rintro ⟨i, hi⟩ hnone
    have hlt : i < (finiteRows (first :: rest)).length := (List.getElem?_eq_some_iff.mp hi).1
    exact hnone i (List.mem_range.mpr hlt) (decide_eq_true hi)
  · intro hsome
    by_contra hnone
    refine hsome fun i _ hi => ?_
    exact hnone ⟨i, of_decide_eq_true hi⟩

end FiniteRows

theorem lt_of_mem_finiteIndices {count i : Nat} {columns : List (List Float)}
    (h : i ∈ finiteIndices count columns) : i < count :=
  List.mem_range.mp (List.mem_filter.mp h).1

section Pick

variable {places : List Nat}

theorem pick_replicate {count : Nat} (hplaces : ∀ i ∈ places, i < count) (value : Float) :
    pick places (List.replicate count value) = List.replicate places.length value := by
  induction places with
  | nil => rfl
  | cons i places ih =>
      rw [List.forall_mem_cons] at hplaces
      have hvalue : (List.replicate count value)[i]? = some value :=
        List.getElem?_replicate_of_lt hplaces.1
      rw [pick, List.filterMap_cons_some hvalue]
      exact congrArg (value :: ·) (ih hplaces.2)

/-- **Columns stay aligned**: a column made of two others has, at some places, what is made of
the others there. -/
theorem pick_zipWith (f : Float → Float → Float) {first second : List Float}
    (hfirst : ∀ i ∈ places, i < first.length) (hsecond : second.length = first.length) :
    pick places (List.zipWith f first second) =
      List.zipWith f (pick places first) (pick places second) := by
  induction places with
  | nil => rfl
  | cons i places ih =>
      rw [List.forall_mem_cons] at hfirst
      have hi : i < second.length := hsecond ▸ hfirst.1
      have hvalue : (List.zipWith f first second)[i]? = some (f first[i] second[i]) := by
        rw [List.getElem?_zipWith, List.getElem?_eq_getElem hfirst.1,
          List.getElem?_eq_getElem hi]
      rw [pick, pick, pick, List.filterMap_cons_some hvalue,
        List.filterMap_cons_some (List.getElem?_eq_getElem hfirst.1),
        List.filterMap_cons_some (List.getElem?_eq_getElem hi)]
      exact congrArg (f first[i] second[i] :: ·) (ih hfirst.2)

end Pick

/-! ### Uncertainties -/

/-- The parts of the bars along one axis. -/
def BarPart.all : List BarPart :=
  [.error, .lower, .upper]

/-- **The distance below a point** that is left of one after the end of the bar is written
down. -/
def distanceBelow {α : Type} [Sub α] (value distance : α) : α :=
  value - (value - distance)

/-- **The distance above a point** that is left of one after the end of the bar is written
down. -/
def distanceAbove {α : Type} [Add α] [Sub α] (value distance : α) : α :=
  (value + distance) - value

namespace ErrorSpec

/-- **The columns of an uncertainty have one length**, if it has columns. -/
def Fits (count : Nat) : ErrorSpec → Prop
  | symmetric _ => True
  | perPoint distances => distances.length = count
  | asymmetric lower upper => lower.length = count ∧ upper.length = count

/-- **What is recorded of an uncertainty** of points `values` for one part of their bars. -/
def column? (values : List Float) : ErrorSpec → BarPart → Option (List Float)
  | symmetric distance, .error => some (List.replicate values.length distance)
  | perPoint distances, .error => some distances
  | asymmetric lower _, .lower => some (List.zipWith (· - ·) values lower)
  | asymmetric _ upper, .upper => some (List.zipWith (· + ·) values upper)
  | _, _ => none

/-- All that is recorded of an uncertainty. -/
def derived (values : List Float) (spec : ErrorSpec) : List (List Float) :=
  BarPart.all.filterMap (spec.column? values)

/-- **The bars that are drawn** for an uncertainty of points `values`, at some places. -/
def bars (places : List Nat) (values : List Float) : ErrorSpec → ErrorBounds
  | symmetric distance =>
    ⟨List.replicate places.length distance, List.replicate places.length distance⟩
  | perPoint distances => ⟨pick places distances, pick places distances⟩
  | asymmetric lower upper =>
    ⟨List.zipWith distanceBelow (pick places values) (pick places lower),
      List.zipWith distanceAbove (pick places values) (pick places upper)⟩

/-- The columns of an uncertainty whose columns have the length of its points. -/
def fitted (values : List Float) : ErrorSpec → ErrorColumns
  | symmetric distance => .distances (List.replicate values.length distance)
  | perPoint distances => .distances distances
  | asymmetric lower upper =>
    .ends (List.zipWith (· - ·) values lower) (List.zipWith (· + ·) values upper)

section Columns

variable {spec : ErrorSpec} {values : List Float}

theorem columns_fitted (values : List Float) (spec : ErrorSpec) :
    (spec.fitted values).columns = spec.derived values := by
  cases spec <;> rfl

/-- **An uncertainty has columns** when they have the length of its points. -/
theorem columns_eq_ok {location : Location} {e : ErrorColumns} :
    spec.columns location values = .ok e ↔ spec.Fits values.length ∧ spec.fitted values = e := by
  have hpure (made : ErrorColumns) : (pure made : Except Error ErrorColumns) = .ok e ↔ made = e :=
    ⟨Except.ok.inj, congrArg Except.ok⟩
  cases spec with
  | symmetric distance =>
      rw [Fits, true_and]
      exact hpure _
  | perPoint distances =>
      rw [columns, seq_eq_ok, checkColumn_eq_ok, hpure]
      rfl
  | asymmetric lower upper =>
      rw [columns, seq_eq_ok, seq_eq_ok, checkColumn_eq_ok, checkColumn_eq_ok, hpure, ← and_assoc]
      rfl

theorem length_fitted (h : spec.Fits values.length) :
    ∀ column ∈ (spec.fitted values).columns, column.length = values.length := by
  have hcolumns : spec.columns [] values = .ok (spec.fitted values) :=
    columns_eq_ok.mpr ⟨h, rfl⟩
  exact length_columns hcolumns

/-- A column of another length is reported with the field that it was given as. -/
theorem checkColumn_eq_error {location : Location} {name : String} {column : List Float}
    {e : Error} (h : columns.checkColumn location values name column = .error e) :
    column.length ≠ values.length ∧
      e = .schema (location ++ [.field name]) (.wrongCount column.length values.length) := by
  unfold columns.checkColumn require at h
  split at h
  · cases h
  next hcount =>
    cases h
    exact ⟨of_decide_eq_false (Bool.not_eq_true _ ▸ hcount), rfl⟩

/-- **Without columns** one of another length is to blame. -/
theorem columns_eq_error {location : Location} {e : Error}
    (h : spec.columns location values = .error e) :
    ∃ name count, count ≠ values.length ∧
      e = .schema (location ++ [.field name]) (.wrongCount count values.length) := by
  cases spec with
  | symmetric distance => cases h
  | perPoint distances =>
      rw [columns, bind_eq_error] at h
      obtain hcheck | ⟨_, -, ⟨⟩⟩ := h
      exact ⟨_, _, checkColumn_eq_error hcheck⟩
  | asymmetric lower upper =>
      rw [columns, bind_eq_error, bind_eq_error] at h
      obtain hcheck | ⟨_, -, hcheck | ⟨_, -, ⟨⟩⟩⟩ := h
      · exact ⟨_, _, checkColumn_eq_error hcheck⟩
      · exact ⟨_, _, checkColumn_eq_error hcheck⟩

end Columns

section Optional

variable {spec : Option ErrorSpec} {values : List Float}

theorem mapM_columns_eq_ok {location : Location} {e : Option ErrorColumns} :
    spec.mapM (columns location values) = .ok e ↔
      (∀ given ∈ spec, given.Fits values.length) ∧ spec.map (fitted values) = e := by
  cases spec with
  | none =>
      change Except.ok none = .ok e ↔ _
      simp
  | some given =>
      change (given.columns location values).map some = .ok e ↔ _
      simp [map_eq_ok, columns_eq_ok]

theorem mapM_columns_eq_error {location : Location} {e : Error}
    (h : spec.mapM (columns location values) = .error e) :
    ∃ name count, count ≠ values.length ∧
      e = .schema (location ++ [.field name]) (.wrongCount count values.length) := by
  cases spec with
  | none => cases h
  | some given =>
      change (given.columns location values).map some = .error e at h
      cases hcolumns : given.columns location values with
      | ok made =>
          rw [hcolumns] at h
          cases h
      | error cause =>
          rw [hcolumns] at h
          cases h
          exact columns_eq_error hcolumns

/-- **What a series has** of an uncertainty for one part of its bars, at some places. -/
def recorded? (places : List Nat) (values : List Float) (spec : Option ErrorSpec)
    (part : BarPart) : Option Values :=
  (spec.bind (·.column? values part)).map fun column => .points (pick places column)

/-- The columns of an uncertainty are recorded as the parts of the bars. -/
theorem bind_fitted (places : List Nat) (values : List Float) (spec : Option ErrorSpec) :
    let recorded := (spec.map (fitted values)).map (·.map (pick places))
    recorded.bind (·.distances?) = recorded? places values spec .error ∧
      recorded.bind (·.lower?) = recorded? places values spec .lower ∧
      recorded.bind (·.upper?) = recorded? places values spec .upper := by
  cases spec with
  | none => exact ⟨rfl, rfl, rfl⟩
  | some given => cases given <;> exact ⟨rfl, rfl, rfl⟩

end Optional

end ErrorSpec

/-! ### Recorded series -/

/-- The columns that are recorded of points with error bars. -/
def errorBarColumns (x y : List Float) (yerr xerr : Option ErrorSpec) : List (List Float) :=
  x :: y :: (yerr.toList.flatMap (·.derived y) ++ xerr.toList.flatMap (·.derived x))

/-- **The places that are recorded** of points with error bars: those at which the points and
all that is derived of their uncertainties are finite. -/
def recordedPlaces (x y : List Float) (yerr xerr : Option ErrorSpec) : List Nat :=
  finiteIndices y.length (errorBarColumns x y yerr xerr)

namespace Series

/-- **The series of some places** of points with error bars. -/
def ofIndices (places : List Nat) (x y : List Float) (yerr xerr : Option ErrorSpec)
    (label : Option String) : Series where
  x := some (pick places x)
  y := pick places y
  label
  xerr := ErrorSpec.recorded? places x xerr .error
  xmin := ErrorSpec.recorded? places x xerr .lower
  xmax := ErrorSpec.recorded? places x xerr .upper
  yerr := ErrorSpec.recorded? places y yerr .error
  ymin := ErrorSpec.recorded? places y yerr .lower
  ymax := ErrorSpec.recorded? places y yerr .upper

theorem ofRows_eq_ofIndices {rows : List Bool} {places : List Nat} {x y : List Float}
    {yerr xerr : Option ErrorSpec} (hkeep : keepRows rows = pick places) (label : Option String) :
    ofRows rows x y (yerr.map (·.fitted y)) (xerr.map (·.fitted x)) label =
      ofIndices places x y yerr xerr label := by
  obtain ⟨hyerr, hymin, hymax⟩ := ErrorSpec.bind_fitted places y yerr
  obtain ⟨hxerr, hxmin, hxmax⟩ := ErrorSpec.bind_fitted places x xerr
  rw [ofIndices, ← hyerr, ← hymin, ← hymax, ← hxerr, ← hxmin, ← hxmax, ofRows, hkeep]

section Record

variable {x y : List Float} {yerr xerr : Option ErrorSpec} (hlength : x.length = y.length)
  (hyerr : ∀ spec ∈ yerr, spec.Fits y.length) (hxerr : ∀ spec ∈ xerr, spec.Fits x.length)
include hlength hyerr hxerr

theorem length_errorBarColumns :
    ∀ column ∈ errorBarColumns x y yerr xerr, column.length = y.length := by
  simp only [errorBarColumns, List.forall_mem_cons, List.forall_mem_append, List.mem_flatMap,
    Option.mem_toList]
  refine ⟨hlength, trivial, ?_, ?_⟩
  · rintro column ⟨spec, hspec, hcolumn⟩
    rw [← ErrorSpec.columns_fitted] at hcolumn
    exact ErrorSpec.length_fitted (hyerr spec hspec) column hcolumn
  · rintro column ⟨spec, hspec, hcolumn⟩
    rw [← ErrorSpec.columns_fitted] at hcolumn
    rw [← hlength]
    exact ErrorSpec.length_fitted (hxerr spec hspec) column hcolumn

/-- **What is recorded** of points with error bars is the series of the places at which all
columns are finite, if there is one. -/
theorem record_eq_ofIndices (location : Location) (label : Option String) :
    (record location x y (yerr.map (·.fitted y)) (xerr.map (·.fitted x)) label).1 =
      if recordedPlaces x y yerr xerr = [] then none
      else some (ofIndices (recordedPlaces x y yerr xerr) x y yerr xerr label) := by
  have hcolumns : x :: y :: ((yerr.map (·.fitted y)).toList ++
      (xerr.map (·.fitted x)).toList).flatMap ErrorColumns.columns =
        errorBarColumns x y yerr xerr := by
    rw [errorBarColumns]
    cases yerr <;> cases xerr <;> simp [ErrorSpec.columns_fitted]
  have hall := length_errorBarColumns hlength hyerr hxerr
  have hany : (finiteRows (errorBarColumns x y yerr xerr)).any id = true ↔
      recordedPlaces x y yerr xerr ≠ [] :=
    any_finiteRows hall
  have hkeep : keepRows (finiteRows (errorBarColumns x y yerr xerr)) =
      pick (recordedPlaces x y yerr xerr) :=
    funext (keepRows_finiteRows hall)
  rw [record, hcolumns]
  by_cases hempty : recordedPlaces x y yerr xerr = []
  · rw [if_pos hempty, if_neg (mt hany.mp (not_not.mpr hempty))]
  · rw [if_neg hempty, if_pos (hany.mpr hempty), ofRows_eq_ofIndices hkeep]

/-- The series of the recorded places is a recorded one. -/
theorem ofIndices_recordedHere (label : Option String)
    (hplaces : recordedPlaces x y yerr xerr ≠ []) :
    (ofIndices (recordedPlaces x y yerr xerr) x y yerr xerr label).RecordedHere := by
  have hrecorded : ∀ s ∈ (record [] x y (yerr.map (·.fitted y)) (xerr.map (·.fitted x)) label).1,
      s.RecordedHere := by
    refine record_recorded hlength (fun e he => ?_) (fun e he => ?_)
    · obtain ⟨spec, hspec, rfl⟩ := Option.map_eq_some_iff.mp he
      exact ErrorSpec.length_fitted (hyerr spec hspec)
    · obtain ⟨spec, hspec, rfl⟩ := Option.map_eq_some_iff.mp he
      rw [← hlength]
      exact ErrorSpec.length_fitted (hxerr spec hspec)
  rw [record_eq_ofIndices hlength hyerr hxerr, if_neg hplaces] at hrecorded
  exact hrecorded _ rfl

end Record

/-! ### Bars -/

theorem bounds_eq_none {s : Series} {axis : Axis} (h : ∀ part, s.bar axis part = none) :
    s.bounds axis = none := by
  have hnone : ¬ ((s.bar axis .error).isSome || (s.bar axis .lower).isSome ||
      (s.bar axis .upper).isSome) = true := by
    simp [h]
  cases axis with
  | x => exact if_neg hnone
  | y => exact if_neg hnone

/-- **The bars of a recorded series** along one axis have the distances that were given, those
of the ends up to writing an end down and reading it back. -/
theorem bounds_of_recorded {s : Series} {axis : Axis} {places : List Nat} {values : List Float}
    {spec : Option ErrorSpec} (hplaces : ∀ i ∈ places, i < values.length)
    (hfits : ∀ given ∈ spec, given.Fits values.length)
    (hpoints : s.points axis = pick places values)
    (hbar : ∀ part, s.bar axis part = ErrorSpec.recorded? places values spec part) :
    s.bounds axis = spec.map (·.bars places values) := by
  cases spec with
  | none => exact bounds_eq_none hbar
  | some given =>
      cases given with
      | symmetric distance =>
          rw [bounds_of_bar (hbar .error), hpoints, hbar, hbar, hbar]
          simp [ErrorSpec.recorded?, ErrorSpec.column?, ErrorSpec.bars, barDistances,
            pick_replicate hplaces]
      | perPoint distances =>
          rw [bounds_of_bar (hbar .error), hpoints, hbar, hbar, hbar]
          rfl
      | asymmetric lower upper =>
          obtain ⟨hlower, hupper⟩ : lower.length = values.length ∧ upper.length = values.length :=
            hfits _ rfl
          rw [bounds_of_bar (hbar .lower), hpoints, hbar, hbar, hbar]
          -- an end is made of the point, and the distance is made of the end and the point
          simp only [ErrorSpec.recorded?, ErrorSpec.column?, Option.bind_some, Option.map_some,
            barDistances, pick_zipWith _ hplaces hlower, pick_zipWith _ hplaces hupper]
          rw [List.zipWith_zipWith_right, List.zipWith_zipWith_right, List.zipWith3_same_left,
            List.zipWith3_same_left]
          rfl

variable {x y : List Float} {yerr xerr : Option ErrorSpec} in
theorem bounds_ofIndices (hlength : x.length = y.length)
    (hyerr : ∀ spec ∈ yerr, spec.Fits y.length) (hxerr : ∀ spec ∈ xerr, spec.Fits x.length)
    (label : Option String) :
    let places := recordedPlaces x y yerr xerr
    (ofIndices places x y yerr xerr label).xBounds = xerr.map (·.bars places x) ∧
      (ofIndices places x y yerr xerr label).yBounds = yerr.map (·.bars places y) := by
  intro places
  have hplaces : ∀ i ∈ places, i < y.length := fun i => lt_of_mem_finiteIndices
  constructor
  · change (ofIndices places x y yerr xerr label).bounds .x = _
    refine bounds_of_recorded (hlength ▸ hplaces) hxerr rfl fun part => ?_
    cases part <;> rfl
  · change (ofIndices places x y yerr xerr label).bounds .y = _
    refine bounds_of_recorded hplaces hyerr rfl fun part => ?_
    cases part <;> rfl

end Series

/-- **The drawing of a recorded series** is a line when no uncertainty was given, and otherwise
has the bars of those that were. -/
theorem Plot.drawing_ofIndices {x y : List Float} {yerr xerr : Option ErrorSpec}
    (hlength : x.length = y.length) (hyerr : ∀ spec ∈ yerr, spec.Fits y.length)
    (hxerr : ∀ spec ∈ xerr, spec.Fits x.length) (label : Option String) (trace : Trace) :
    let places := recordedPlaces x y yerr xerr
    drawing (.ofIndices places x y yerr xerr label) trace =
      if xerr = none ∧ yerr = none then .drawLine trace
      else .drawErrorBar trace (xerr.map (·.bars places x)) (yerr.map (·.bars places y)) := by
  intro places
  obtain ⟨hx, hy⟩ := Series.bounds_ofIndices hlength hyerr hxerr label
  rw [drawing, ← Series.isSome_xBounds, ← Series.isSome_yBounds, hx, hy]
  cases xerr <;> cases yerr <;> rfl

/-! ### What is drawn -/

/-- The statement draws a series or a field. -/
def Statement.draws : Statement → Bool
  | drawLine _ => true
  | drawErrorBar _ _ _ => true
  | drawField _ => true
  | _ => false

theorem Statement.draws_eq_isDrawing {s : Statement} {primary : Axes} {k : ChartPart}
    (h : s.part? primary = some k) : s.draws = s.isDrawing := by
  cases s with
  | drawField field => cases h
  | _ => rfl

/-- Drawings are all that the statements of a chart draw. -/
theorem Plot.filter_draws (p : Plot) (target : PlotTarget) (style : StyleCycle)
    (secondary : Option Secondary) :
    (p.statements target style secondary).filter (·.draws) =
      drawings style (.ofTarget target secondary) {} 0 p.series := by
  rw [← filter_isDrawing]
  refine List.filter_congr fun s hs => ?_
  rw [statements_eq_flatMap, List.mem_flatMap] at hs
  obtain ⟨k, -, hs⟩ := hs
  exact Statement.draws_eq_isDrawing (p.ofPart_part target style _ k s hs)

namespace Figure

theorem filter_draws_closing (figure : Figure) (name : String) (options : ProgramOptions) :
    (figure.closing name options).filter (·.draws) = [] := by
  rw [List.filter_eq_nil_iff]
  intro s hs
  obtain rfl | rfl | ⟨title, rfl⟩ | ⟨path, rfl⟩ := mem_closing hs <;> simp [Statement.draws]

/-- **A chart of one recorded series** has a program with one drawing. -/
theorem program_of_recordedHere {s : Series} (h : s.RecordedHere) (name : String)
    (options : ProgramOptions) :
    ∃ program trace, (plot { series := [s] }).program name options = .ok program ∧
      trace.axes = .current ∧ trace.x = s.xValues ∧ trace.y = s.y ∧
      (stepsOf program).filter (·.draws) = [Plot.drawing s trace] := by
  let p : Plot := { series := [s] }
  have hsecondary : p.secondary = .ok none := by
    have hadded : ∀ s' ∈ p.series, ∀ axis, ∀ k ∈ s'.added axis, k ≤ 1 := by
      intro s' hs' axis k hk
      rw [List.mem_singleton.mp hs', h.added] at hk
      cases hk
    have hdeclared (axis : Axis) : (p.declared axis).length ≤ 1 := by
      cases axis <;> exact Nat.zero_le 1
    rw [Plot.secondary_eq_requested hdeclared hadded]
    simp [Plot.requested, p, h.xadded, h.yadded]
  have hseries : p.checkSeries [] = .ok () := by
    rw [Plot.checkSeries_eq_ok]
    exact List.forall_mem_singleton.mpr h.toRecorded.valid
  have hdrawing : (plot p).drawn.drawingProgram (.resolve (plot p).drawn.style options.overrides)
      options = .ok (p.statements .current (.resolve p.style options.overrides) none) :=
    Plot.program_of_secondary hsecondary hseries
  refine ⟨_, Plot.trace (.resolve p.style options.overrides) (.ofTarget .current none) {} 0 s,
    program_of_drawing hdrawing, ?_, rfl, rfl, ?_⟩
  · have hon : ¬ s.onSecondary = true := by
      simp [Series.onSecondary, h.xadded, h.yadded]
    exact if_neg hon
  · rw [stepsOf_inPresets options.presets (body_declares hdrawing).isScope_eq_false,
      List.filter_append, filter_draws_closing, Plot.filter_draws, List.append_nil]
    exact Plot.drawings_cons ..

end Figure

/-! ### Calls -/

namespace AxesRecorder

section ErrorBar

variable {x y : List Float} {yerr xerr : Option ErrorSpec} (hlength : x.length = y.length)
  (a : AxesRecorder) (label : Option String)
include hlength

theorem pushErrorBar_of_fits (hyerr : ∀ spec ∈ yerr, spec.Fits y.length)
    (hxerr : ∀ spec ∈ xerr, spec.Fits x.length) :
    a.pushErrorBar x y yerr xerr label =
      .ok (a.pushColumns x y (yerr.map (·.fitted y)) (xerr.map (·.fitted x)) label) := by
  rw [pushErrorBar_eq_ok]
  exact ⟨_, _, ⟨hlength, ErrorSpec.mapM_columns_eq_ok.mpr ⟨hyerr, rfl⟩,
    ErrorSpec.mapM_columns_eq_ok.mpr ⟨hxerr, rfl⟩⟩, rfl⟩

/-- **A call whose columns fit** records the series of its places, if it has any. -/
theorem apply_errorBar_of_fits (hyerr : ∀ spec ∈ yerr, spec.Fits y.length)
    (hxerr : ∀ spec ∈ xerr, spec.Fits x.length) :
    ∃ log, a.apply (.errorBar x y yerr xerr label) =
      (a.addSeries (if recordedPlaces x y yerr xerr = [] then none
        else some (.ofIndices (recordedPlaces x y yerr xerr) x y yerr xerr label)), { log }) := by
  refine ⟨(Series.record a.nextSeries x y (yerr.map (·.fitted y)) (xerr.map (·.fitted x))
    label).2, ?_⟩
  rw [apply, pushErrorBar_of_fits hlength a label hyerr hxerr,
    ← Series.record_eq_ofIndices hlength hyerr hxerr a.nextSeries label]
  rfl

/-- **A column of another length** is an error at its own place. -/
theorem pushErrorBar_of_not_fits
    (h : ¬ ((∀ spec ∈ yerr, spec.Fits y.length) ∧ ∀ spec ∈ xerr, spec.Fits x.length)) :
    ∃ axis name count, count ≠ y.length ∧ a.pushErrorBar x y yerr xerr label =
      .error (.schema (a.nextSeries ++ [.field axis, .field name])
        (.wrongCount count y.length)) := by
  cases hpush : a.pushErrorBar x y yerr xerr label with
  | ok result =>
      obtain ⟨_, _, ⟨-, hycolumns, hxcolumns⟩, -⟩ := pushErrorBar_eq_ok.mp hpush
      exact absurd ⟨(ErrorSpec.mapM_columns_eq_ok.mp hycolumns).1,
        (ErrorSpec.mapM_columns_eq_ok.mp hxcolumns).1⟩ h
  | error e =>
      obtain hcoordinates | ⟨_, -, hpush⟩ := bind_eq_error.mp hpush
      · rw [checkCoordinates_eq_ok.mpr hlength] at hcoordinates
        cases hcoordinates
      obtain hcolumns | ⟨_, -, hpush⟩ := bind_eq_error.mp hpush
      · obtain ⟨name, count, hne, rfl⟩ := ErrorSpec.mapM_columns_eq_error hcolumns
        exact ⟨"y", name, count, hne, by rw [List.append_assoc]; rfl⟩
      obtain hcolumns | ⟨_, -, ⟨⟩⟩ := bind_eq_error.mp hpush
      obtain ⟨name, count, hne, rfl⟩ := ErrorSpec.mapM_columns_eq_error hcolumns
      rw [hlength] at hne
      exact ⟨"x", name, count, hne, by rw [List.append_assoc, hlength]; rfl⟩

end ErrorBar

end AxesRecorder

namespace FigureRecorder

/-- **Error bars survive** from a call on a fresh figure to the script.  Where their columns fit
the points, the places with finite numbers are recorded and nothing else, and the figure has a
program with one drawing, which has the points and the distances of these places.  Where a
column does not fit, the call fails and records nothing. -/
theorem errorBar_kept_and_drawn {x y : List Float} (hlength : x.length = y.length)
    (yerr xerr : Option ErrorSpec) (label : Option String) :
    let fits := (∀ spec ∈ yerr, spec.Fits y.length) ∧ ∀ spec ∈ xerr, spec.Fits x.length
    let places := recordedPlaces x y yerr xerr
    let step := ({} : FigureRecorder).apply (.draw (.current []) (.errorBar x y yerr xerr label))
    (fits → step.2.result = .ok () ∧ (places = [] → step.1 = {}) ∧
      (places ≠ [] → step.1.figure = .plot { series := [.ofIndices places x y yerr xerr label] } ∧
        ∀ name options, ∃ program trace, step.1.figure.program name options = .ok program ∧
          trace.axes = .current ∧ trace.x = pick places x ∧ trace.y = pick places y ∧
          (stepsOf program).filter (·.draws) =
            [if xerr = none ∧ yerr = none then .drawLine trace else
              .drawErrorBar trace (xerr.map (·.bars places x)) (yerr.map (·.bars places y))])) ∧
    (¬ fits → (∃ axis name count, count ≠ y.length ∧ step.2.result =
        .error (.schema (Location.ofSeries 0 ++ [.field axis, .field name])
          (.wrongCount count y.length))) ∧ step.1 = {}) ∧
    ∀ v d : ℚ, distanceBelow v d = d ∧ distanceAbove v d = d := by
  intro fits places step
  refine ⟨fun hfits => ?_, fun hfits => ?_, fun v d => ?_⟩
  · obtain ⟨hyerr, hxerr⟩ := hfits
    obtain ⟨log, happly⟩ := AxesRecorder.apply_errorBar_of_fits hlength {} label hyerr hxerr
    have hstep : step = ({ current := _ }, _) := congrArg
      (fun done : AxesRecorder × Reply => (({ current := done.1 } : FigureRecorder), done.2))
      happly
    rw [hstep]
    refine ⟨rfl, fun hempty => ?_, fun hplaces => ?_⟩
    · rw [if_pos hempty]
      rfl
    · rw [if_neg hplaces]
      refine ⟨rfl, fun name options => ?_⟩
      have hhere := Series.ofIndices_recordedHere hlength hyerr hxerr label hplaces
      obtain ⟨program, trace, hprogram, haxes, hx, hy, hdraws⟩ :=
        Figure.program_of_recordedHere hhere name options
      refine ⟨program, trace, hprogram, haxes, hx, hy, ?_⟩
      rw [hdraws, Plot.drawing_ofIndices hlength hyerr hxerr]
  · obtain ⟨axis, name, count, hne, hpush⟩ :=
      AxesRecorder.pushErrorBar_of_not_fits hlength {} label hfits
    have hstep : step = ({}, { result := _ }) := congrArg
      (fun result => (({ current := (AxesRecorder.attempt {} result).1 } : FigureRecorder),
        (AxesRecorder.attempt {} result).2)) hpush
    rw [hstep]
    exact ⟨⟨axis, name, count, hne, rfl⟩, rfl⟩
  · exact ⟨sub_sub_cancel v d, add_sub_cancel_left v d⟩

/-- Distances of which the second has no end above. -/
def openAbove : ErrorSpec :=
  .asymmetric [1, 1, 1, 2] [1, 1 / 0, 1, 4]

/-- Distances of which the third is no number. -/
def unknownThird : ErrorSpec :=
  .perPoint [0.5, 0.5, 0 / 0, 0.25]

/-- Of four points the first and the last are recorded and drawn, with their own distances. -/
theorem errorBar_kept_and_drawn_gappy :
    let call := .errorBar [1, 2, 3, 4] [5, 6, 7, 8] (some openAbove) (some unknownThird) none
    let step := ({} : FigureRecorder).apply (.draw (.current []) call)
    step.2.result = .ok () ∧ ∃ program trace,
      step.1.figure.program "fig" { presets := ["bmh"] } = .ok program ∧
        trace.x = [1, 4] ∧ trace.y = [5, 8] ∧
        (stepsOf program).filter (·.draws) =
          [.drawErrorBar trace (some ⟨[0.5, 0.25], [0.5, 0.25]⟩) (some ⟨[1, 2], [1, 4]⟩)] := by
  intro call step
  have hplaces : recordedPlaces [1, 2, 3, 4] [5, 6, 7, 8] (some openAbove) (some unknownThird) =
      [0, 3] := by
    decide +kernel
  have hyerr : ∀ spec ∈ some openAbove, spec.Fits 4 := by
    rintro _ ⟨⟩
    exact ⟨rfl, rfl⟩
  have hxerr : ∀ spec ∈ some unknownThird, spec.Fits 4 := by
    rintro _ ⟨⟩
    exact rfl
  obtain ⟨hfitted, -, -⟩ := errorBar_kept_and_drawn (x := [1, 2, 3, 4]) (y := [5, 6, 7, 8])
    (by simp) (some openAbove) (some unknownThird) none
  obtain ⟨hok, -, hdrawn⟩ := hfitted ⟨hyerr, hxerr⟩
  rw [hplaces] at hdrawn
  obtain ⟨-, hprogram⟩ := hdrawn (List.cons_ne_nil 0 [3])
  obtain ⟨program, trace, hprogram, -, hx, hy, hdraws⟩ := hprogram "fig" { presets := ["bmh"] }
  refine ⟨hok, program, trace, hprogram, hx, hy, hdraws.trans ?_⟩
  have hxbars : unknownThird.bars [0, 3] [1, 2, 3, 4] = ⟨[0.5, 0.25], [0.5, 0.25]⟩ := by
    decide +kernel
  have hybars : openAbove.bars [0, 3] [5, 6, 7, 8] = ⟨[1, 2], [1, 4]⟩ := by
    decide +kernel
  rw [← hxbars, ← hybars]
  rfl

end FigureRecorder

end FigureScript
