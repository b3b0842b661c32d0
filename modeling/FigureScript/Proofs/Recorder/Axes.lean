import FigureScript.Proofs.Recorder.Rows
import FigureScript.Recorder.Axes

/-!
# Recorded axes

An invariant of recorded axes and of all secondary axes over them, which every drawing
call keeps, whether it succeeds or not.

## Main Definitions

* `Colorplot.Recorded` — what holds of a recorded scalar field
* `AxesRecorder.Sound` — the invariant

## Main Results

* `Colorplot.capture_recorded` — a field that is captured is a recorded one
* `AxesRecorder.Sound.apply` — a call keeps the invariant
* `AxesRecorder.Sound.applyAt` — and so does one on secondary axes

## Design Notes

The invariant goes down the tree of secondary axes.  Only calls look at the axes that
they reach; all that is said about a tree on the way there is in `Sound.twin` and
`Sound.setTwin`.
-/

namespace FigureScript

open Outcome

/-! ### Scalar fields -/

/-- **What holds of a recorded scalar field**: its values are finite and fill a rectangle,
and its coordinates are absent or centres. -/
structure Colorplot.Recorded (c : Colorplot) : Prop where
  nonempty : c.z ≠ []
  cols : c.cols ≠ 0
  z : ∀ row ∈ c.z, IsColumn c.cols row
  x : ∀ xs ∈ c.x, xs.length = c.cols
  y : ∀ ys ∈ c.y, ys.length = c.z.length

theorem firstNotFinite?_eq_none {z : List (List Float)} :
    firstNotFinite? z = none ↔ ∀ row ∈ z, ∀ value ∈ row, Number.isFinite value = true := by
  rw [firstNotFinite?, List.findSome?_eq_none_iff]
  simp only [Option.map_eq_none_iff, List.findIdx?_eq_none_iff, Bool.not_eq_false']
  constructor
  · intro h row hrow
    obtain ⟨i, hi⟩ := List.mem_iff_getElem?.mp hrow
    exact h (row, i) (List.mk_mem_zipIdx_iff_getElem?.mpr hi)
  · intro h entry hentry
    exact h entry.1 (List.fst_mem_of_mem_zipIdx hentry)

/-- Captured coordinates are centres. -/
theorem length_captureCoordinates {name : String} {cells : Nat}
    {coordinates result : Option (List Float)}
    (h : captureCoordinates name cells coordinates = .ok result) :
    ∀ values ∈ result, values.length = cells := by
  cases coordinates with
  | none =>
      cases h
      exact fun values hvalues => nomatch hvalues
  | some given =>
      rw [captureCoordinates, seq_eq_ok, seq_eq_ok] at h
      obtain ⟨-, hfits, h⟩ := h
      rw [Colorplot.checkCoordinates, require_eq_ok, decide_eq_true_eq] at hfits
      cases h
      rintro values ⟨⟩
      refine length_cellCenters fun found hfound => ?_
      cases hfound
      exact hfits

namespace Colorplot

/-- **A field that is captured** is a recorded one. -/
theorem capture_recorded {kind : FieldKind} {x y : Option (List Float)} {z : List (List Float)}
    {zlog : Bool} {c : Colorplot} (h : capture kind x y z zlog = .ok c) : c.Recorded := by
  rw [capture, bind_eq_ok] at h
  obtain ⟨⟨rows, cols⟩, hshape, h⟩ := h
  obtain ⟨hne, hcols, rfl, rfl, hrows⟩ := shape_eq_ok.mp hshape
  cases hfinite : firstNotFinite? z with
  | some place =>
      rw [hfinite] at h
      cases h
  | none =>
      rw [hfinite] at h
      simp only [bind_eq_ok] at h
      obtain ⟨xs, hxs, ys, hys, h⟩ := h
      cases h
      rw [firstNotFinite?_eq_none] at hfinite
      exact ⟨hne, hcols, fun row hrow => ⟨hrows row hrow, hfinite row hrow⟩,
        length_captureCoordinates hxs, length_captureCoordinates hys⟩

end Colorplot

/-! ### The invariant -/

/-- **What holds of a recorded chart**, before secondary axes are folded into it. -/
structure Plot.Recorded (p : Plot) : Prop where
  series : ∀ s ∈ p.series, s.RecordedHere
  xadded : p.xadded = []
  yadded : p.yadded = []

/-- **The invariant of recorded axes**: the chart and the field are recorded ones, there
is one secondary axes at most for each coordinate, and all of them keep the invariant. -/
inductive AxesRecorder.Sound : AxesRecorder → Prop
  | intro {a : AxesRecorder} (plot : a.plot.Recorded) (field : ∀ c ∈ a.field, c.Recorded)
      (distinct : (a.twins.map (·.1)).Nodup) (twins : ∀ entry ∈ a.twins, entry.2.Sound) :
      a.Sound

namespace AxesRecorder

variable {a : AxesRecorder}

theorem sound_empty : Sound {} := by
  refine .intro ⟨?_, rfl, rfl⟩ ?_ .nil ?_
  · exact fun s hs => nomatch hs
  · exact fun c hc => nomatch hc
  · exact fun entry hentry => nomatch hentry

namespace Sound

/-- A decoration leaves the series and the secondary axes as they are. -/
theorem decorate (h : a.Sound) {p : Plot} (hseries : p.series = a.plot.series)
    (hxadded : p.xadded = a.plot.xadded) (hyadded : p.yadded = a.plot.yadded) :
    Sound { a with plot := p } := by
  obtain ⟨plot, field, distinct, twins⟩ := h
  refine .intro ⟨?_, ?_, ?_⟩ field distinct twins
  · rw [hseries]
    exact plot.series
  · rw [hxadded]
    exact plot.xadded
  · rw [hyadded]
    exact plot.yadded

/-- A step that fails leaves the axes as they are. -/
theorem attempt (h : a.Sound) {step : Except Error (AxesRecorder × Log)}
    (hstep : ∀ after log, step = .ok (after, log) → after.Sound) :
    (a.attempt step).1.Sound := by
  cases step with
  | error e => exact h
  | ok result => exact hstep result.1 result.2 rfl

theorem addSeries (h : a.Sound) {series : Option Series}
    (hseries : ∀ s ∈ series, s.RecordedHere) : (a.addSeries series).Sound := by
  obtain ⟨plot, field, distinct, twins⟩ := h
  refine .intro ⟨?_, plot.xadded, plot.yadded⟩ field distinct twins
  intro s hs
  rcases List.mem_append.mp hs with hs | hs
  · exact plot.series s hs
  · exact hseries s (Option.mem_toList.mp hs)

/-- Columns of one length are recorded as a series. -/
theorem pushColumns (h : a.Sound) {x y : List Float} {yerr xerr : Option ErrorColumns}
    {label : Option String} (hx : x.length = y.length)
    (hyerr : ∀ e ∈ yerr, ∀ column ∈ e.columns, column.length = y.length)
    (hxerr : ∀ e ∈ xerr, ∀ column ∈ e.columns, column.length = y.length) :
    (a.pushColumns x y yerr xerr label).1.Sound := by
  exact h.addSeries (Series.record_recorded hx hyerr hxerr)

theorem pushSeries (h : a.Sound) {x : Option (List Float)} {y : List Float}
    {label : Option String} {after : AxesRecorder} {log : Log}
    (hstep : a.pushSeries x y label = .ok (after, log)) : after.Sound := by
  rw [AxesRecorder.pushSeries, seq_eq_ok, checkCoordinates, require_eq_ok,
    decide_eq_true_eq] at hstep
  obtain ⟨hx, hstep⟩ := hstep
  have hpush : (a.pushColumns (x.getD (indexCoordinates y.length)) y none none label).1.Sound :=
    h.pushColumns hx (fun e he => nomatch he) fun e he => nomatch he
  rw [Except.ok.inj hstep] at hpush
  exact hpush

/-- The columns of an optional uncertainty of `n` points. -/
theorem length_columns_of_mapM {spec : Option ErrorSpec} {location : Location}
    {values : List Float} {errors : Option ErrorColumns}
    (h : spec.mapM (ErrorSpec.columns location values) = .ok errors) :
    ∀ e ∈ errors, ∀ column ∈ e.columns, column.length = values.length := by
  cases spec with
  | none =>
      cases h
      exact fun e he => nomatch he
  | some spec =>
      obtain ⟨e, hcolumns, he⟩ := map_eq_ok.mp h
      rw [← he]
      rintro _ ⟨⟩
      exact ErrorSpec.length_columns hcolumns

theorem pushErrorBar (h : a.Sound) {x y : List Float} {yerr xerr : Option ErrorSpec}
    {label : Option String} {after : AxesRecorder} {log : Log}
    (hstep : a.pushErrorBar x y yerr xerr label = .ok (after, log)) : after.Sound := by
  rw [AxesRecorder.pushErrorBar, seq_eq_ok, checkCoordinates, require_eq_ok,
    decide_eq_true_eq] at hstep
  simp only [bind_eq_ok] at hstep
  obtain ⟨hx, ycolumns, hycolumns, xcolumns, hxcolumns, hstep⟩ := hstep
  have hxlength := length_columns_of_mapM hxcolumns
  rw [hx] at hxlength
  have hpush : (a.pushColumns x y ycolumns xcolumns label).1.Sound :=
    h.pushColumns hx (length_columns_of_mapM hycolumns) hxlength
  rw [Except.ok.inj hstep] at hpush
  exact hpush

theorem setField (h : a.Sound) {kind : FieldKind} {x y : Option (List Float)}
    {z : List (List Float)} {zlog : Bool} {after : AxesRecorder} {log : Log}
    (hstep : a.setField kind x y z zlog = .ok (after, log)) : after.Sound := by
  rw [AxesRecorder.setField, bind_eq_ok] at hstep
  obtain ⟨c, hcapture, hstep⟩ := hstep
  cases hstep
  obtain ⟨plot, -, distinct, twins⟩ := h
  refine .intro plot ?_ distinct twins
  rintro _ ⟨⟩
  exact Colorplot.capture_recorded hcapture

/-- **A call keeps the invariant.** -/
theorem apply (h : a.Sound) (call : DrawCall) : (a.apply call).1.Sound := by
  cases call with
  | plot xlog ylog x y label =>
      -- the scale is set even when the series is refused
      have hlog : (a.modifyPlot (·.setLog xlog ylog)).Sound := h.decorate rfl rfl rfl
      exact hlog.attempt fun _ _ => hlog.pushSeries
  | errorBar x y yerr xerr label => exact h.attempt fun _ _ => h.pushErrorBar
  | field kind x y z zlog => exact h.attempt fun _ _ => h.setField
  | label axis text =>
      cases axis with
      | x => exact h.decorate rfl rfl rfl
      | y => exact h.decorate rfl rfl rfl
  | title text => exact h.decorate rfl rfl rfl
  | legend title => exact h.decorate rfl rfl rfl
  | limits axis range =>
      cases axis with
      | x => exact h.decorate rfl rfl rfl
      | y => exact h.decorate rfl rfl rfl
  | note note => exact h.decorate rfl rfl rfl

/-! ### Secondary axes -/

theorem twin (h : a.Sound) (adds : Axis) : (a.twin adds).Sound := by
  obtain ⟨-, -, -, twins⟩ := h
  unfold AxesRecorder.twin
  cases hfind : a.twins.find? (·.1 = adds) with
  | none => exact sound_empty
  | some entry => exact twins entry (List.mem_of_find?_eq_some hfind)

theorem setTwin (h : a.Sound) (adds : Axis) {twin : AxesRecorder} (htwin : twin.Sound) :
    (a.setTwin adds twin).Sound := by
  obtain ⟨plot, field, distinct, twins⟩ := h
  unfold AxesRecorder.setTwin
  split
  next =>
    refine .intro plot field ?_ ?_
    · rw [List.map_map]
      exact distinct
    · intro entry hentry
      -- the entry of the coordinate is replaced in place, the others stay
      obtain ⟨old, hold, rfl⟩ := List.mem_map.mp hentry
      change (if old.1 = adds then twin else old.2).Sound
      split
      · exact htwin
      · exact twins old hold
  next hfresh =>
    refine .intro plot field ?_ ?_
    -- an entry is added only for a coordinate that has none
    · have hnew : adds ∉ a.twins.map (·.1) := by simpa using hfresh
      rw [List.map_append]
      refine distinct.append (List.nodup_singleton adds) ?_
      exact List.disjoint_singleton.mpr hnew
    · intro entry hentry
      rcases List.mem_append.mp hentry with hentry | hentry
      · exact twins entry hentry
      · rw [List.mem_singleton.mp hentry]
        exact htwin

/-- **A call on secondary axes keeps the invariant**, by induction on the path to them. -/
theorem applyAt (h : a.Sound) (path : List Axis) (call : DrawCall) :
    (a.applyAt path call).1.Sound := by
  induction path generalizing a with
  | nil => exact h.apply call
  | cons adds path ih => exact h.setTwin adds (ih (h.twin adds))

end Sound

end AxesRecorder

end FigureScript
