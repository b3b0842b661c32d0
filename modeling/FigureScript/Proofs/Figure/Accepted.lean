import FigureScript.Proofs.Figure.Grid

/-!
# Accepted figures

What the checks of a figure ask for, without the order in which they are made and
without the place of the figure.

## Main Definitions

* `Figure.series`, `Figure.colorplots` — the series and the scalar fields of all cells
* `Figure.LacksSeries` — where a chart has none
* `Series.Valid` — the conditions of a series

## Main Results

* `Series.check_eq_ok`, `Plot.check_eq_ok`, `Colorplot.check_eq_ok`,
  `Multiplot.check_eq_ok` — when the check of each part succeeds
-/

namespace FigureScript

open Outcome

def Cell.series : Cell → List Series
  | plot p => p.series
  | colorplot _ => []

def Cell.colorplots : Cell → List Colorplot
  | plot _ => []
  | colorplot c => [c]

namespace Figure

/-- The series of a figure, those of all cells. -/
def series : Figure → List Series
  | plot p => p.series
  | colorplot _ => []
  | multiplot m => m.plots.flatten.flatMap Cell.series

/-- The scalar fields of a figure, those of all cells. -/
def colorplots : Figure → List Colorplot
  | plot _ => []
  | colorplot c => [c]
  | multiplot m => m.plots.flatten.flatMap Cell.colorplots

/-- **A chart without series** stands at a location of the figure. -/
def LacksSeries : Figure → Location → Prop
  | plot p, location => p.series = [] ∧ location = []
  | colorplot _, _ => False
  | multiplot m, location =>
    ∃ p i j, (Cell.plot p, i, j) ∈ m.cells ∧ p.series = [] ∧ location = .ofCell i j

end Figure

/-! ### Series -/

theorem checkValues_eq_ok {count : Nat} {location : Location} {values : Option Values} :
    checkValues count location values = .ok () ↔ ∀ v ∈ values, v.fits count = true := by
  cases values with
  | none => simp [checkValues]
  | some v => simp [checkValues, require_eq_ok]

theorem checkIndex_eq_ok {location : Location} {index : Option Int} :
    checkIndex location index = .ok () ↔ ∀ n ∈ index, 1 ≤ n := by
  cases index with
  | none => simp [checkIndex, require_eq_ok]
  | some n => simp [checkIndex, require_eq_ok]

namespace Series

/-- **The conditions of a series**: it has a point, its coordinates and error bars fit
each other, and its style indices count from one. -/
structure Valid (s : Series) : Prop where
  nonempty : s.y ≠ []
  x : ∀ xs ∈ s.x, xs.length = s.y.length
  errors : ∀ field ∈ s.errorFields, ∀ values ∈ field.2, values.fits s.y.length = true
  color : ∀ n ∈ s.color, 1 ≤ n
  line : ∀ n ∈ s.line, 1 ≤ n

/-- **A series passes its check** when it meets the conditions, wherever it stands. -/
theorem check_eq_ok {location : Location} {s : Series} :
    s.check location = .ok () ↔ s.Valid := by
  unfold check
  simp only [seq_eq_ok, require_eq_ok, forM_eq_ok, checkValues_eq_ok, checkIndex_eq_ok]
  have hx : s.x.all (·.length = s.y.length) = true ↔ ∀ xs ∈ s.x, xs.length = s.y.length := by
    rw [Option.all_eq_true]
    simp only [decide_eq_true_eq, Option.mem_def]
  constructor
  · rintro ⟨hy, hx', herrors, hcolor, hline⟩
    exact ⟨by simpa using hy, hx.mp hx', herrors, hcolor, hline⟩
  · intro h
    exact ⟨by simpa using h.nonempty, hx.mpr h.x, h.errors, h.color, h.line⟩

end Series

/-! ### Charts, fields and grids -/

namespace Plot

theorem checkSeries_eq_ok {location : Location} {p : Plot} :
    p.checkSeries location = .ok () ↔ ∀ s ∈ p.series, s.Valid := by
  rw [checkSeries, forM_eq_ok]
  simp only [Series.check_eq_ok]
  constructor
  · intro h s hs
    obtain ⟨i, hi⟩ := List.mem_iff_getElem?.mp hs
    exact h (s, i) (List.mk_mem_zipIdx_iff_getElem?.mpr hi)
  · intro h entry hentry
    exact h entry.1 (List.fst_mem_of_mem_zipIdx hentry)

/-- A chart passes its check when it has a series, and all of them are valid. -/
theorem check_eq_ok {location : Location} {p : Plot} :
    p.check location = .ok () ↔ p.series ≠ [] ∧ ∀ s ∈ p.series, s.Valid := by
  rw [check, seq_eq_ok, require_eq_ok, checkSeries_eq_ok, Bool.not_eq_true',
    List.isEmpty_eq_false_iff]

/-- The check of a chart without series fails with the place where they are missing. -/
theorem check_of_no_series {location : Location} {p : Plot} (h : p.series = []) :
    p.check location = .error (.schema (location ++ .ofField "series") .noSeries) := by
  rw [check, h]
  rfl

end Plot

namespace Colorplot

theorem checkCoordinates_eq_ok {location : Location} {cells : Nat}
    {coordinates : Option (List Float)} :
    checkCoordinates location cells coordinates = .ok () ↔
      ∀ values ∈ coordinates, values.length = cells ∨ values.length = cells + 1 := by
  cases coordinates with
  | none => simp [checkCoordinates]
  | some values => simp [checkCoordinates, require_eq_ok]

/-- A field passes its check when it is a rectangle with coordinates that fit it. -/
theorem check_eq_ok {location : Location} {c : Colorplot} :
    c.check location = .ok () ↔
      (c.z ≠ [] ∧ c.cols ≠ 0 ∧ ∀ row ∈ c.z, row.length = c.cols) ∧
        (∀ xs ∈ c.x, xs.length = c.cols ∨ xs.length = c.cols + 1) ∧
        ∀ ys ∈ c.y, ys.length = c.z.length ∨ ys.length = c.z.length + 1 := by
  rw [check, bind_eq_ok]
  simp only [Prod.exists, shape_eq_ok, seq_eq_ok, checkCoordinates_eq_ok]
  constructor
  · rintro ⟨rows, cols, ⟨hne, hcols, rfl, rfl, hrows⟩, hx, hy⟩
    exact ⟨⟨hne, hcols, hrows⟩, hx, hy⟩
  · rintro ⟨⟨hne, hcols, hrows⟩, hx, hy⟩
    exact ⟨_, _, ⟨hne, hcols, rfl, rfl, hrows⟩, hx, hy⟩

end Colorplot

/-- A grid passes its check when it is a rectangle of cells that pass theirs. -/
theorem Multiplot.check_eq_ok {m : Multiplot} :
    m.check = .ok () ↔
      (∃ rows cols, m.shape = .ok (rows, cols)) ∧
        ∀ entry ∈ m.cells, entry.1.check (.ofCell entry.2.1 entry.2.2) = .ok () := by
  rw [check, bind_eq_ok]
  simp only [forM_eq_ok, Prod.exists, exists_and_right]

end FigureScript
