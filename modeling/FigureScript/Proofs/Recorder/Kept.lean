import FigureScript.Proofs.Recorder.Cell
import FigureScript.Proofs.Recorder.Paths
import Mathlib.Data.List.Perm.Basic

/-!
# Series that are kept

What a call records does not depend on what has been recorded before.  So a run of calls
leaves, on the axes at the end of each path, the series of the calls along that path, and
the chart can be compared with the calls alone.

## Main Definitions

* `DrawCall.recorded` — the series that a call records
* `recordedAt` — the series of the calls along one path
* `AxesRecorder.applyAll` — a run of calls along paths
* `Series.unmarked` — a series without the axes it is drawn against

## Main Results

* `AxesRecorder.series_applyAll` — a run leaves the recorded series at each path
* `AxesRecorder.series_folded_applyAll` — the series of the chart, axes by axes
* `AxesRecorder.cell_applyAll` — which runs have all their series in the chart

## Design Notes

The chart has the series of its own axes and of the secondary axes directly over them.
Series on axes further up are recorded, but no chart shows them.
-/

namespace FigureScript

open Outcome

/-! ### What a call records -/

/-- **The series that a call records**, as it does on empty axes. -/
def DrawCall.recorded (call : DrawCall) : List Series :=
  (AxesRecorder.apply {} call).1.plot.series

/-- **The series of the calls along one path**, in the order of the calls. -/
def recordedAt (calls : List (List Axis × DrawCall)) (path : List Axis) : List Series :=
  calls.flatMap fun entry => if entry.1 = path then entry.2.recorded else []

namespace AxesRecorder

variable {a : AxesRecorder}

/-- A recorded series does not depend on its place, which only the log has. -/
theorem record_eq (location location' : Location) (x y : List Float)
    (yerr xerr : Option ErrorColumns) (label : Option String) :
    (Series.record location x y yerr xerr label).1 =
      (Series.record location' x y yerr xerr label).1 := by
  simp only [Series.record]
  split <;> rfl

/-- The columns of an uncertainty do not depend on the place of the series either. -/
theorem columns_eq_ok_iff {spec : Option ErrorSpec} {location location' : Location}
    {values : List Float} {columns : Option ErrorColumns} :
    spec.mapM (ErrorSpec.columns location values) = .ok columns ↔
      spec.mapM (ErrorSpec.columns location' values) = .ok columns := by
  cases spec with
  | none => rfl
  | some spec =>
      change (spec.columns location values).map some = .ok columns ↔
        (spec.columns location' values).map some = .ok columns
      rw [map_eq_ok, map_eq_ok]
      cases spec with
      | symmetric distance => rfl
      | perPoint distances =>
          simp only [ErrorSpec.columns, seq_eq_ok, ErrorSpec.checkColumn_eq_ok]
      | asymmetric lower upper =>
          simp only [ErrorSpec.columns, seq_eq_ok, ErrorSpec.checkColumn_eq_ok]

theorem checkCoordinates_eq_ok {x y : List Float} :
    a.checkCoordinates x y = .ok () ↔ x.length = y.length := by
  rw [checkCoordinates, require_eq_ok, decide_eq_true_eq]

/-- Columns are recorded behind the series that are there. -/
theorem series_pushColumns (a : AxesRecorder) (x y : List Float) (yerr xerr : Option ErrorColumns)
    (label : Option String) :
    (a.pushColumns x y yerr xerr label).1.plot.series =
      a.plot.series ++ (Series.record [] x y yerr xerr label).1.toList := by
  rw [record_eq [] a.nextSeries]
  rfl

/-- **A step that records columns** which do not depend on the axes adds the same series
to all axes. -/
theorem exists_series_attempt {step : AxesRecorder → Except Error (AxesRecorder × Log)}
    {x y : List Float} {label : Option String}
    {Accepts : Option ErrorColumns → Option ErrorColumns → Prop}
    (hstep : ∀ a result, step a = .ok result ↔
      ∃ yerr xerr, Accepts yerr xerr ∧ a.pushColumns x y yerr xerr label = result) :
    ∃ new, ∀ a, (attempt a (step a)).1.plot.series = a.plot.series ++ new := by
  by_cases haccepts : ∃ yerr xerr, Accepts yerr xerr
  · obtain ⟨yerr, xerr, haccepts⟩ := haccepts
    refine ⟨(Series.record [] x y yerr xerr label).1.toList, fun a => ?_⟩
    rw [(hstep a _).mpr ⟨yerr, xerr, haccepts, rfl⟩]
    exact series_pushColumns a ..
  · refine ⟨[], fun a => ?_⟩
    cases ha : step a with
    | ok result =>
        obtain ⟨yerr, xerr, haccepted, -⟩ := (hstep a result).mp ha
        exact absurd ⟨yerr, xerr, haccepted⟩ haccepts
    | error e => exact (List.append_nil _).symm

theorem pushSeries_eq_ok {x : Option (List Float)} {y : List Float} {label : Option String}
    {result : AxesRecorder × Log} :
    a.pushSeries x y label = .ok result ↔
      ∃ yerr xerr, ((x.getD (indexCoordinates y.length)).length = y.length ∧ yerr = none ∧
        xerr = none) ∧
        a.pushColumns (x.getD (indexCoordinates y.length)) y yerr xerr label = result := by
  rw [pushSeries, seq_eq_ok, checkCoordinates_eq_ok]
  constructor
  · rintro ⟨hlength, hresult⟩
    exact ⟨none, none, ⟨hlength, rfl, rfl⟩, Except.ok.inj hresult⟩
  · rintro ⟨_, _, ⟨hlength, rfl, rfl⟩, rfl⟩
    exact ⟨hlength, rfl⟩

theorem pushErrorBar_eq_ok {x y : List Float} {yspec xspec : Option ErrorSpec}
    {label : Option String} {result : AxesRecorder × Log} :
    a.pushErrorBar x y yspec xspec label = .ok result ↔
      ∃ yerr xerr, (x.length = y.length ∧
        yspec.mapM (ErrorSpec.columns [] y) = .ok yerr ∧
        xspec.mapM (ErrorSpec.columns [] x) = .ok xerr) ∧
        a.pushColumns x y yerr xerr label = result := by
  rw [pushErrorBar, seq_eq_ok, checkCoordinates_eq_ok]
  simp only [bind_eq_ok]
  constructor
  · rintro ⟨hlength, yerr, hyerr, xerr, hxerr, hresult⟩
    exact ⟨yerr, xerr, ⟨hlength, columns_eq_ok_iff.mp hyerr, columns_eq_ok_iff.mp hxerr⟩,
      Except.ok.inj hresult⟩
  · rintro ⟨yerr, xerr, ⟨hlength, hyerr, hxerr⟩, rfl⟩
    exact ⟨hlength, yerr, columns_eq_ok_iff.mp hyerr, xerr, columns_eq_ok_iff.mp hxerr, rfl⟩

/-- A scalar field leaves the chart as it is. -/
theorem plot_attempt_setField (a : AxesRecorder) (kind : FieldKind) (x y : Option (List Float))
    (z : List (List Float)) (zlog : Bool) :
    (a.attempt (a.setField kind x y z zlog)).1.plot = a.plot := by
  cases hfield : Colorplot.capture kind x y z zlog with
  | error e =>
      rw [setField, hfield]
      rfl
  | ok field =>
      rw [setField, hfield]
      rfl

/-- A call adds the same series to all axes. -/
theorem exists_series_apply (call : DrawCall) :
    ∃ new, ∀ a, (AxesRecorder.apply a call).1.plot.series = a.plot.series ++ new := by
  cases call with
  | plot xlog ylog x y label =>
      have hpush : ∃ new, ∀ a, (attempt a (a.pushSeries x y label)).1.plot.series =
          a.plot.series ++ new := exists_series_attempt fun _ _ => pushSeries_eq_ok
      obtain ⟨new, hnew⟩ := hpush
      exact ⟨new, fun a => hnew (a.modifyPlot (·.setLog xlog ylog))⟩
  | errorBar x y yerr xerr label => exact exists_series_attempt fun _ _ => pushErrorBar_eq_ok
  | field kind x y z zlog =>
      refine ⟨[], fun a => ?_⟩
      rw [List.append_nil]
      exact congrArg Plot.series (plot_attempt_setField ..)
  | label axis text => exact ⟨[], fun a => by cases axis <;> exact (List.append_nil _).symm⟩
  | title text => exact ⟨[], fun a => (List.append_nil _).symm⟩
  | legend title => exact ⟨[], fun a => (List.append_nil _).symm⟩
  | limits axis range => exact ⟨[], fun a => by cases axis <;> exact (List.append_nil _).symm⟩
  | note note => exact ⟨[], fun a => (List.append_nil _).symm⟩

/-- **What a call records** does not depend on the axes, and is what it adds to empty ones. -/
theorem series_apply (a : AxesRecorder) (call : DrawCall) :
    (a.apply call).1.plot.series = a.plot.series ++ call.recorded := by
  obtain ⟨new, hnew⟩ := exists_series_apply call
  rw [DrawCall.recorded, hnew, hnew]
  rfl

theorem twins_attempt {step : Except Error (AxesRecorder × Log)}
    (hstep : ∀ result, step = .ok result → result.1.twins = a.twins) :
    (a.attempt step).1.twins = a.twins := by
  cases step with
  | error e => rfl
  | ok result => exact hstep result rfl

/-- A call leaves the secondary axes over its own alone. -/
theorem twins_apply (a : AxesRecorder) (call : DrawCall) : (a.apply call).1.twins = a.twins := by
  cases call with
  | plot xlog ylog x y label =>
      refine twins_attempt (a := a.modifyPlot (·.setLog xlog ylog)) fun result hresult => ?_
      obtain ⟨_, _, -, rfl⟩ := pushSeries_eq_ok.mp hresult
      rfl
  | errorBar x y yerr xerr label =>
      refine twins_attempt fun result hresult => ?_
      obtain ⟨_, _, -, rfl⟩ := pushErrorBar_eq_ok.mp hresult
      rfl
  | field kind x y z zlog =>
      refine twins_attempt fun result hresult => ?_
      rw [setField, bind_eq_ok] at hresult
      obtain ⟨_, -, hresult⟩ := hresult
      cases hresult
      rfl
  | label axis text => rfl
  | title text => rfl
  | legend title => rfl
  | limits axis range => rfl
  | note note => rfl

/-! ### Runs -/

/-- The state after a run of calls, each along a path of secondary axes. -/
def applyAll (a : AxesRecorder) (calls : List (List Axis × DrawCall)) : AxesRecorder :=
  calls.foldl (fun a entry => (a.applyAt entry.1 entry.2).1) a

theorem Sound.applyAll (h : a.Sound) (calls : List (List Axis × DrawCall)) :
    (a.applyAll calls).Sound := by
  induction calls generalizing a with
  | nil => exact h
  | cons entry calls ih => exact ih (h.applyAt entry.1 entry.2)

/-- A call records its series on the axes at the end of its path, and on no others. -/
theorem series_applyAt (a : AxesRecorder) (path other : List Axis) (call : DrawCall) :
    ((a.applyAt path call).1.axesAt other).plot.series =
      (a.axesAt other).plot.series ++ if path = other then call.recorded else [] := by
  rw [applyAt_eq, plot_axesAt_modifyAt fun axes => twins_apply axes call]
  by_cases hpath : path = other
  · rw [if_pos hpath, if_pos hpath.symm, series_apply, hpath]
  · rw [if_neg hpath, if_neg fun h => hpath h.symm, List.append_nil]

/-- **A run leaves, at the end of each path, the series of the calls along it**, by
induction on the run. -/
theorem series_applyAll (a : AxesRecorder) (calls : List (List Axis × DrawCall))
    (path : List Axis) :
    ((a.applyAll calls).axesAt path).plot.series =
      (a.axesAt path).plot.series ++ recordedAt calls path := by
  induction calls generalizing a with
  | nil => exact (List.append_nil _).symm
  | cons entry calls ih =>
      change (((a.applyAt entry.1 entry.2).1.applyAll calls).axesAt path).plot.series = _
      rw [ih, series_applyAt, recordedAt, recordedAt, List.flatMap_cons, List.append_assoc]

theorem axesAt_empty (path : List Axis) : axesAt path {} = {} := by
  induction path with
  | nil => rfl
  | cons adds path ih => exact ih

/-- From empty axes, these are the series of the calls along the path. -/
theorem series_axesAt_applyAll (calls : List (List Axis × DrawCall)) (path : List Axis) :
    ((applyAll {} calls).axesAt path).plot.series = recordedAt calls path := by
  rw [series_applyAll, axesAt_empty]
  rfl

theorem recordedHere_of_mem_recordedAt {calls : List (List Axis × DrawCall)} {path : List Axis}
    {s : Series} (hs : s ∈ recordedAt calls path) : s.RecordedHere := by
  obtain ⟨entry, -, hs⟩ := List.mem_flatMap.mp hs
  split at hs
  · exact (sound_empty.apply entry.2).plot.series s hs
  · cases hs

/-- **The series of the chart** after a run: those of its own axes, and behind them those of
the secondary axes directly over these, one coordinate after the other. -/
theorem series_folded_applyAll (calls : List (List Axis × DrawCall)) :
    ∃ order : List Axis, order.Nodup ∧ (∀ axis, axis ∉ order → recordedAt calls [axis] = []) ∧
      (applyAll {} calls).folded.series = recordedAt calls [] ++
        order.flatMap fun axis => (recordedAt calls [axis]).map (·.against axis) := by
  have hsound : (applyAll {} calls).Sound := sound_empty.applyAll calls
  have hseries (axis : Axis) :
      ((applyAll {} calls).twin axis).plot.series = recordedAt calls [axis] :=
    series_axesAt_applyAll calls [axis]
  refine ⟨(applyAll {} calls).twins.map (·.1), ?_, fun axis haxis => ?_, ?_⟩
  · cases hsound with
    | intro plot field distinct twins => exact distinct
  -- secondary axes with series have been created, and are in the order
  · by_contra hne
    rw [← hseries] at hne
    exact haxis (List.mem_map_of_mem (Sound.mem_twins_of_series hne))
  · rw [folded, Plot.series_addTwins, List.flatMap_map]
    refine congrArg₂ (· ++ ·) (series_axesAt_applyAll calls []) ?_
    refine List.flatMap_congr fun entry hentry => ?_
    rw [← hseries, hsound.twin_eq hentry]

end AxesRecorder

/-! ### All series of a run -/

/-- **A series without the axes it is drawn against**, as it was recorded. -/
def Series.unmarked (s : Series) : Series :=
  { s with xadded := none, yadded := none }

theorem Series.RecordedHere.unmarked {s : Series} (h : s.RecordedHere) : s.unmarked = s := by
  have hx := h.xadded
  have hy := h.yadded
  cases s
  cases hx
  cases hy
  rfl

theorem Series.RecordedHere.unmarked_against {s : Series} (h : s.RecordedHere) (axis : Axis) :
    (s.against axis).unmarked = s := by
  refine Eq.trans ?_ h.unmarked
  cases axis <;> rfl

/-- The recorded series have no marks. -/
theorem map_unmarked_recordedAt (calls : List (List Axis × DrawCall)) (path : List Axis) :
    (recordedAt calls path).map Series.unmarked = recordedAt calls path := by
  refine (List.map_congr_left fun s hs => ?_).trans (List.map_id _)
  exact (AxesRecorder.recordedHere_of_mem_recordedAt hs).unmarked

/-- Nor have they once those of secondary axes are taken off. -/
theorem map_unmarked_against_recordedAt (calls : List (List Axis × DrawCall)) (path : List Axis)
    (axis : Axis) :
    ((recordedAt calls path).map (·.against axis)).map Series.unmarked = recordedAt calls path := by
  rw [List.map_map]
  refine (List.map_congr_left fun s hs => ?_).trans (List.map_id _)
  exact (AxesRecorder.recordedHere_of_mem_recordedAt hs).unmarked_against axis

/-- A path without series has none from any call along it. -/
theorem recorded_eq_nil {calls : List (List Axis × DrawCall)} {entry : List Axis × DrawCall}
    (hentry : entry ∈ calls) (h : recordedAt calls entry.1 = []) : entry.2.recorded = [] := by
  have hseries := List.flatMap_eq_nil_iff.mp h entry hentry
  rwa [if_pos rfl] at hseries

/-- A path is one of some paths. -/
def isAmong (path : List Axis) (paths : List (List Axis)) : Bool :=
  paths.any (path = ·)

theorem isAmong_eq_true {path : List Axis} {paths : List (List Axis)} :
    isAmong path paths = true ↔ path ∈ paths := by
  simp [isAmong]

/-- Of distinct paths one at most is a given one. -/
theorem flatMap_ite_eq {paths : List (List Axis)} (hnodup : paths.Nodup) (path : List Axis)
    (items : List Series) :
    (paths.flatMap fun other => if path = other then items else []) =
      if isAmong path paths = true then items else [] := by
  induction paths with
  | nil => rfl
  | cons first paths ih =>
      rw [List.nodup_cons] at hnodup
      rw [List.flatMap_cons, ih hnodup.2]
      by_cases hfirst : path = first
      · have hrest : isAmong first paths = false :=
          Bool.eq_false_iff.mpr fun h => hnodup.1 (isAmong_eq_true.mp h)
        have hall : isAmong first (first :: paths) = true :=
          isAmong_eq_true.mpr List.mem_cons_self
        rw [hfirst, if_pos rfl, hrest, hall, if_neg Bool.false_ne_true, if_pos rfl,
          List.append_nil]
      · have hrest : isAmong path (first :: paths) = isAmong path paths := by
          simp [isAmong, hfirst]
        rw [if_neg hfirst, hrest, List.nil_append]

/-- **The series of distinct paths** are those of the calls along them. -/
theorem perm_flatMap_recordedAt (calls : List (List Axis × DrawCall)) {paths : List (List Axis)}
    (hnodup : paths.Nodup) :
    (paths.flatMap (recordedAt calls)).Perm
      ((calls.filter (isAmong ·.1 paths)).flatMap (·.2.recorded)) := by
  induction calls with
  | nil =>
      have hnil : paths.flatMap (recordedAt []) = [] := List.flatMap_eq_nil_iff.mpr fun _ _ => rfl
      rw [hnil]
      exact .nil
  | cons entry calls ih =>
      have hcons : recordedAt (entry :: calls) = fun path =>
          (if entry.1 = path then entry.2.recorded else []) ++ recordedAt calls path :=
        funext fun path => List.flatMap_cons
      rw [hcons]
      refine (List.flatMap_append_perm paths _ _).symm.trans ?_
      rw [flatMap_ite_eq hnodup, List.filter_cons]
      split
      · exact ih.append_left _
      · exact ih

/-- **All series of a run are those of some paths** when no other path has one. -/
theorem perm_flatMap_recordedAt_iff (calls : List (List Axis × DrawCall))
    {paths : List (List Axis)} (hnodup : paths.Nodup) :
    (paths.flatMap (recordedAt calls)).Perm (calls.flatMap (·.2.recorded)) ↔
      ∀ entry ∈ calls, entry.1 ∉ paths → entry.2.recorded = [] := by
  have halong := perm_flatMap_recordedAt calls hnodup
  -- the calls along the paths, and those along others
  have hsplit := (List.filter_append_perm (isAmong ·.1 paths) calls).flatMap_right (·.2.recorded)
  rw [List.flatMap_append] at hsplit
  have hothers : ((calls.filter (!isAmong ·.1 paths)).flatMap (·.2.recorded)) = [] ↔
      ∀ entry ∈ calls, entry.1 ∉ paths → entry.2.recorded = [] := by
    simp only [List.flatMap_eq_nil_iff, List.mem_filter, Bool.not_eq_true', and_imp,
      Bool.eq_false_iff, ne_eq, isAmong_eq_true]
  rw [← hothers]
  constructor
  · intro h
    have hlength := (halong.symm.trans (h.trans hsplit.symm)).length_eq
    rw [List.length_append] at hlength
    exact List.length_eq_zero_iff.mp (by omega)
  · intro h
    rw [h, List.append_nil] at hsplit
    exact halong.trans hsplit

namespace AxesRecorder

/-- **The chart after a run** in which no scalar field takes the place of the series.  It
has the series of its own axes and then, one coordinate after the other, those of the
secondary axes directly over these, all as they were recorded.  So it has every series of
the run once, exactly when none is recorded on axes over secondary axes. -/
theorem cell_applyAll {calls : List (List Axis × DrawCall)}
    (hfield : (applyAll {} calls).field = none) :
    ∃ p, (applyAll {} calls).cell = .plot p ∧
      (∃ order : List Axis, order.Nodup ∧ (∀ axis, axis ∉ order → recordedAt calls [axis] = []) ∧
        p.series = recordedAt calls [] ++
          order.flatMap fun axis => (recordedAt calls [axis]).map (·.against axis)) ∧
      ((p.series.map Series.unmarked).Perm (calls.flatMap fun entry => entry.2.recorded) ↔
        ∀ entry ∈ calls, 2 ≤ entry.1.length → entry.2.recorded = []) := by
  obtain ⟨order, hnodup, hmissing, hseries⟩ := series_folded_applyAll calls
  refine ⟨_, cell_of_field_none hfield, ⟨order, hnodup, hmissing, hseries⟩, ?_⟩
  -- without their marks these are the series of the paths that the chart looks at
  let paths : List (List Axis) := [] :: order.map fun axis => [axis]
  have hpaths : paths.Nodup := by
    refine List.nodup_cons.mpr ⟨by simp, hnodup.map fun axis other h => (List.cons.inj h).1⟩
  have hunmarked : (applyAll {} calls).folded.series.map Series.unmarked =
      paths.flatMap (recordedAt calls) := by
    rw [hseries, List.map_append, List.flatMap_cons, List.flatMap_map, List.map_flatMap]
    exact congrArg₂ (· ++ ·) (map_unmarked_recordedAt calls [])
      (List.flatMap_congr fun axis _ => map_unmarked_against_recordedAt calls [axis] axis)
  rw [hunmarked, perm_flatMap_recordedAt_iff calls hpaths]
  constructor
  · intro h entry hentry hlength
    refine h entry hentry fun hmem => ?_
    rcases List.mem_cons.mp hmem with hpath | hmem
    · rw [hpath] at hlength
      cases hlength
    · obtain ⟨axis, -, hpath⟩ := List.mem_map.mp hmem
      rw [← hpath] at hlength
      exact absurd hlength (Nat.lt_irrefl 1)
  · intro h entry hentry hmem
    obtain ⟨path, call⟩ := entry
    rcases path with _ | ⟨axis, _ | ⟨second, rest⟩⟩
    · exact absurd List.mem_cons_self hmem
    · have haxis : axis ∉ order := fun h =>
        hmem (List.mem_cons_of_mem _ (List.mem_map_of_mem h))
      exact recorded_eq_nil hentry (hmissing axis haxis)
    · exact h _ hentry (Nat.le_add_left 2 rest.length)

/-- Series on axes, on the secondary ones over them, and on secondary ones over these. -/
def threeStoreys : List (List Axis × DrawCall) :=
  [([], .plot false false none [1] none), ([.y], .plot false false none [2] none),
    ([.y, .y], .plot false false none [3] none)]

theorem cell_applyAll_threeStoreys :
    (applyAll {} threeStoreys).field = none ∧ ∃ p, (applyAll {} threeStoreys).cell = .plot p ∧
      ¬ (p.series.map Series.unmarked).Perm
        (threeStoreys.flatMap fun entry => entry.2.recorded) := by
  have hfield : (applyAll {} threeStoreys).field = none := rfl
  obtain ⟨p, hcell, -, hall⟩ := cell_applyAll hfield
  refine ⟨hfield, p, hcell, fun hperm => ?_⟩
  have hlost := hall.mp hperm ([.y, .y], .plot false false none [3] none)
    (List.mem_cons_of_mem _ (List.mem_cons_of_mem _ List.mem_cons_self)) (Nat.le_refl 2)
  have hrecorded : (DrawCall.plot false false none [3] none).recorded ≠ [] := by decide +kernel
  exact hrecorded hlost

/-- A chart can lack a series that has been recorded. -/
theorem exists_run_with_loss :
    ¬ ∀ (calls : List (List Axis × DrawCall)) (p : Plot), (applyAll {} calls).field = none →
      (applyAll {} calls).cell = .plot p →
      (p.series.map Series.unmarked).Perm (calls.flatMap fun entry => entry.2.recorded) := by
  intro h
  have hperm := h [([.y, .y], .plot false false none [1, 2] none)] _ rfl rfl
  have hlost := hperm.symm.eq_nil
  have hrecorded : ([([Axis.y, Axis.y], DrawCall.plot false false none [1, 2] none)].flatMap
      fun entry => entry.2.recorded) ≠ [] := by decide +kernel
  exact hrecorded hlost

end AxesRecorder

end FigureScript
