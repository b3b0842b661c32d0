import FigureScript.Figure.Writing
import FigureScript.Proofs.Figure.Grid
import FigureScript.Proofs.Json.Layout

/-!
# Figures with other numbers

A figure may have each of its floating point numbers replaced by another one, as happens
where it is stored in a notation that does not keep them.  No check looks at such a number,
and the value that is written for the figure has the same numbers replaced.

## Main Definitions

* `Figure.mapReal` — a figure with other numbers

## Main Results

* `Figure.check_mapReal` — the checks of a figure do not read its numbers
* `Figure.toJson_mapReal` — replacing numbers and writing commute
-/

namespace FigureScript

open Json (Value)

/-! ### Replacing numbers -/

def Range.mapReal (f : Float → Float) (r : Range) : Range :=
  ⟨f r.first, f r.last⟩

def Values.mapReal (f : Float → Float) : Values → Values
  | scalar value => .scalar (f value)
  | points values => .points (values.map f)

def Series.mapReal (f : Float → Float) (s : Series) : Series :=
  { s with
    x := s.x.map (·.map f)
    y := s.y.map f
    xerr := s.xerr.map (·.mapReal f)
    yerr := s.yerr.map (·.mapReal f)
    xmin := s.xmin.map (·.mapReal f)
    xmax := s.xmax.map (·.mapReal f)
    ymin := s.ymin.map (·.mapReal f)
    ymax := s.ymax.map (·.mapReal f) }

def AddedAxis.mapReal (f : Float → Float) (a : AddedAxis) : AddedAxis :=
  { a with range := a.range.map (·.mapReal f) }

def Note.mapReal (f : Float → Float) (n : Note) : Note :=
  { n with x := f n.x, y := f n.y }

def Plot.mapReal (f : Float → Float) (p : Plot) : Plot :=
  { p with
    series := p.series.map (·.mapReal f)
    xrange := p.xrange.map (·.mapReal f)
    yrange := p.yrange.map (·.mapReal f)
    xadded := p.xadded.map (·.mapReal f)
    yadded := p.yadded.map (·.mapReal f)
    epilog := p.epilog.map (·.mapReal f) }

def Colorplot.mapReal (f : Float → Float) (c : Colorplot) : Colorplot :=
  { c with
    z := c.z.map (·.map f)
    x := c.x.map (·.map f)
    y := c.y.map (·.map f)
    zrange := c.zrange.map (·.mapReal f)
    levels := c.levels.map (·.map f)
    xrange := c.xrange.map (·.mapReal f)
    yrange := c.yrange.map (·.mapReal f) }

def Cell.mapReal (f : Float → Float) : Cell → Cell
  | plot p => .plot (p.mapReal f)
  | colorplot c => .colorplot (c.mapReal f)

def Multiplot.mapReal (f : Float → Float) (m : Multiplot) : Multiplot :=
  { m with plots := m.plots.map (·.map (Cell.mapReal f)) }

/-- **A figure with other numbers**: each one `x` replaced by `f x`. -/
def Figure.mapReal (f : Float → Float) : Figure → Figure
  | plot p => .plot (p.mapReal f)
  | colorplot c => .colorplot (c.mapReal f)
  | multiplot m => .multiplot (m.mapReal f)

variable {f : Float → Float}

/-! ### Checks -/

theorem Values.fits_mapReal (count : Nat) (v : Values) :
    (v.mapReal f).fits count = v.fits count := by
  cases v <;> simp [mapReal, fits]

theorem Values.count_mapReal (count : Nat) (v : Values) :
    (v.mapReal f).count count = v.count count := by
  cases v <;> simp [mapReal, Values.count]

theorem checkValues_mapReal (count : Nat) (location : Location) (values : Option Values) :
    checkValues count location (values.map (·.mapReal f)) = checkValues count location values := by
  cases values with
  | none => rfl
  | some v => simp only [checkValues, Option.map_some, Values.fits_mapReal, Values.count_mapReal]

theorem checkCoordinates_mapReal (location : Location) (cells : Nat)
    (coordinates : Option (List Float)) :
    Colorplot.checkCoordinates location cells (coordinates.map (·.map f)) =
      Colorplot.checkCoordinates location cells coordinates := by
  cases coordinates with
  | none => rfl
  | some values => simp only [Colorplot.checkCoordinates, Option.map_some, List.length_map]

/-- The conditions of a series concern how many numbers there are. -/
theorem Series.check_mapReal (location : Location) (s : Series) :
    (s.mapReal f).check location = s.check location := by
  have hx : (s.mapReal f).x.all (·.length = s.y.length) = s.x.all (·.length = s.y.length) := by
    simp only [mapReal, Option.all_map, List.length_map]
  have hxValues : (s.mapReal f).xValues.length = s.xValues.length := by
    unfold xValues mapReal
    cases s.x <;> simp [indexCoordinates]
  have hy : (s.mapReal f).y.length = s.y.length := List.length_map f
  have hempty : (s.mapReal f).y.isEmpty = s.y.isEmpty := List.isEmpty_map
  have herrors : (s.mapReal f).errorFields =
      s.errorFields.map (Prod.map id (Option.map (·.mapReal f))) := rfl
  unfold check
  rw [hxValues, hy, hempty, hx, herrors]
  simp only [List.forM_eq_forM, List.forM_map, Prod.map_fst, Prod.map_snd, id, checkValues_mapReal]
  rfl

theorem Plot.check_mapReal (location : Location) (p : Plot) :
    (p.mapReal f).check location = p.check location := by
  have hseries : (p.mapReal f).checkSeries location = p.checkSeries location := by
    simp only [checkSeries, mapReal, List.zipIdx_map, List.forM_eq_forM, List.forM_map,
      Prod.map_fst, Prod.map_snd, id, Series.check_mapReal]
  have hempty : (p.mapReal f).series.isEmpty = p.series.isEmpty := List.isEmpty_map
  unfold check
  rw [hseries, hempty]

namespace Colorplot

theorem cols_mapReal (c : Colorplot) : (c.mapReal f).cols = c.cols := by
  unfold cols mapReal
  cases c.z <;> simp

theorem shape_mapReal (location : Location) (c : Colorplot) :
    (c.mapReal f).shape location = c.shape location := by
  have hz : (c.mapReal f).z = c.z.map (·.map f) := rfl
  unfold shape
  rw [cols_mapReal, hz, firstUneven?_map, List.isEmpty_map, List.length_map]
  cases firstUneven? c.cols c.z with
  | none => rfl
  | some entry => simp

theorem check_mapReal (location : Location) (c : Colorplot) :
    (c.mapReal f).check location = c.check location := by
  unfold check
  rw [shape_mapReal]
  simp only [mapReal, checkCoordinates_mapReal]

end Colorplot

theorem Cell.check_mapReal (location : Location) (cell : Cell) :
    (cell.mapReal f).check location = cell.check location := by
  cases cell with
  | plot p => exact p.check_mapReal location
  | colorplot c => exact c.check_mapReal location

theorem Multiplot.check_mapReal (m : Multiplot) : (m.mapReal f).check = m.check := by
  have hplots : (m.mapReal f).plots = m.plots.map (·.map (Cell.mapReal f)) := rfl
  unfold check
  rw [shape_eq_of_plots hplots, cells_eq_of_plots hplots]
  simp only [List.forM_eq_forM, List.forM_map, Prod.map_fst, Prod.map_snd, id, Cell.check_mapReal]

/-- **The checks of a figure** do not read its numbers. -/
theorem Figure.check_mapReal (figure : Figure) : (figure.mapReal f).check = figure.check := by
  cases figure with
  | plot p => exact p.check_mapReal []
  | colorplot c => exact c.check_mapReal []
  | multiplot m => exact m.check_mapReal

/-! ### Written values -/

/-- The fields of a record with other numbers in their values. -/
theorem mapReal_ofPresent (fields : List (String × Option Value)) :
    (Value.ofPresent fields).mapReal f =
      .ofPresent (fields.map (Prod.map id (Option.map (Value.mapReal f)))) := by
  rw [Value.ofPresent, Value.mapReal_object, Value.ofPresent, List.map_filterMap,
    List.filterMap_map]
  congr 1
  refine List.filterMap_congr fun field _ => ?_
  obtain ⟨key, value⟩ := field
  cases value <;> rfl

theorem mapReal_int (n : Int) : (Value.int n).mapReal f = .int n :=
  Value.mapReal_integer n

theorem mapReal_flag (on : Bool) : (flag on).map (Value.mapReal f) = flag on := by
  cases on with
  | false => rfl
  | true => exact congrArg some (Value.mapReal_bool true)

theorem mapReal_nonempty {α : Type} {encode : α → Value} {g : α → α}
    (h : ∀ a, (encode a).mapReal f = encode (g a)) (items : List α) :
    (nonempty encode items).map (Value.mapReal f) = nonempty encode (items.map g) := by
  cases items with
  | nil => rfl
  | cons a rest => simp [nonempty, h]

theorem mapReal_strings (texts : List String) :
    (Value.strings texts).mapReal f = .strings texts := by
  simp [Value.strings]

theorem mapReal_style (hint : StyleHint) : hint.toJson.mapReal f = hint.toJson := by
  rw [StyleHint.toJson, mapReal_ofPresent]
  congr 1
  simp [StyleHint.written, Function.comp_def, mapReal_strings]

section Written

variable (hf : ∀ x, Number.isFinite (f x) = Number.isFinite x)
include hf

theorem mapReal_float (x : Float) : (Value.float x).mapReal f = .float (f x) := by
  unfold Value.float
  rw [hf]
  split
  · exact Value.mapReal_real x
  · exact Value.mapReal_null

theorem mapReal_floats (xs : List Float) : (Value.floats xs).mapReal f = .floats (xs.map f) := by
  simp only [Value.floats, Value.mapReal_array, List.map_map, Function.comp_def, mapReal_float hf]

theorem Range.toJson_mapReal (r : Range) : r.toJson.mapReal f = (r.mapReal f).toJson :=
  mapReal_floats hf [r.first, r.last]

theorem Values.toJson_mapReal (v : Values) : v.toJson.mapReal f = (v.mapReal f).toJson := by
  cases v with
  | scalar value => exact mapReal_float hf value
  | points values => exact mapReal_floats hf values

theorem Series.toJson_mapReal (s : Series) : s.toJson.mapReal f = (s.mapReal f).toJson := by
  rw [toJson, mapReal_ofPresent, toJson]
  congr 1
  simp [written, mapReal, Function.comp_def, mapReal_int, mapReal_floats hf,
    Values.toJson_mapReal hf]

theorem AddedAxis.toJson_mapReal (a : AddedAxis) :
    a.toJson.mapReal f = (a.mapReal f).toJson := by
  rw [toJson, mapReal_ofPresent, toJson]
  congr 1
  simp [written, mapReal, Function.comp_def, mapReal_flag, Range.toJson_mapReal hf]

theorem Note.toJson_mapReal (n : Note) : n.toJson.mapReal f = (n.mapReal f).toJson := by
  simp [toJson, mapReal, Value.mapRealEntry, mapReal_float hf]

theorem Plot.toJson_mapReal (p : Plot) : p.toJson.mapReal f = (p.mapReal f).toJson := by
  rw [toJson, mapReal_ofPresent, toJson]
  congr 1
  simp [written, mapReal, Function.comp_def, mapReal_flag, mapReal_style,
    mapReal_nonempty (Note.toJson_mapReal hf), mapReal_nonempty (AddedAxis.toJson_mapReal hf),
    Series.toJson_mapReal hf, Range.toJson_mapReal hf]

theorem Colorplot.toJson_mapReal (c : Colorplot) : c.toJson.mapReal f = (c.mapReal f).toJson := by
  rw [toJson, mapReal_ofPresent, toJson]
  congr 1
  simp [written, mapReal, Function.comp_def, mapReal_flag, mapReal_style, mapReal_floats hf,
    Range.toJson_mapReal hf]

theorem Cell.toJson_mapReal (cell : Cell) : cell.toJson.mapReal f = (cell.mapReal f).toJson := by
  cases cell with
  | plot p => exact p.toJson_mapReal hf
  | colorplot c => exact c.toJson_mapReal hf

theorem Multiplot.toJson_mapReal (m : Multiplot) : m.toJson.mapReal f = (m.mapReal f).toJson := by
  rw [toJson, mapReal_ofPresent, toJson]
  congr 1
  simp [written, mapReal, Function.comp_def, mapReal_style, Cell.toJson_mapReal hf]

/-- **Replacing numbers and writing commute**, if numbers that are not finite stay so. -/
theorem Figure.toJson_mapReal (figure : Figure) :
    figure.toJson.mapReal f = (figure.mapReal f).toJson := by
  cases figure with
  | plot p => exact p.toJson_mapReal hf
  | colorplot c => exact c.toJson_mapReal hf
  | multiplot m => exact m.toJson_mapReal hf

end Written

end FigureScript
