import FigureScript.Proofs.Keyed
import FigureScript.Proofs.Program.Legends
import FigureScript.Proofs.Program.Shapes
import FigureScript.Proofs.Session.Conversion

/-!
# The worksheet of a chart

The coordinates of a chart go into a worksheet, a pair of columns for each series under a row
of headers, and the curves of the chart in the workbook refer to these cells by ranges.  Both
are told from the series, and they meet when the ranges are read in the worksheet.

## Main Definitions

* `Workbook.Shows` — what stands where in the worksheet of a chart
* `Workbook.ReadsDown` — a range whose cells hold numbers from top to bottom
* `Workbook.Reproduces` — a workbook from which the series of a chart are read back

## Main Results

* `Workbook.mem_cells` — the cells of a worksheet, and no others
* `Workbook.nodup_places` — no cell is filled twice
* `Workbook.readsDown_columnRange` — a column below its header is a range
* `Workbook.writeSpreadsheet_reproduces` — the spreadsheet of a chart

## Design Notes

Which pair of columns a cell belongs to, and which row, is told from its place, so the cells of
two series and of two points never meet.
-/

namespace FigureScript.Workbook

open Outcome

/-- **The name of a series** in a worksheet: its label, or its number counted from one where it
has none. -/
inductive Names (s : Series) (i : Nat) : String → Prop where
  | label {text : String} (h : s.label = some text) (hne : text ≠ "") : Names s i text
  | number (h : ¬ s.HasLabel) : Names s i s!"Series {i + 1}"

/-- **What stands where in the worksheet of a chart**: headers in the first row, and the
coordinates of the points below them. -/
inductive Shows (p : Plot) : Place → CellValue → Prop where
  | xHeader {s : Series} {i : Nat} (hs : p.series[i]? = some s) :
      Shows p ⟨0, 2 * i⟩ (.text "x")
  | yHeader {s : Series} {i : Nat} {text : String} (hs : p.series[i]? = some s)
      (hname : Names s i text) : Shows p ⟨0, 2 * i + 1⟩ (.text text)
  | x {s : Series} {i j : Nat} {value : Float} (hs : p.series[i]? = some s)
      (hvalue : s.xValues[j]? = some value) : Shows p ⟨j + 1, 2 * i⟩ (.number value)
  | y {s : Series} {i j : Nat} {value : Float} (hs : p.series[i]? = some s)
      (hvalue : s.y[j]? = some value) : Shows p ⟨j + 1, 2 * i + 1⟩ (.number value)

/-- **A range whose cells hold numbers** from top to bottom. -/
structure ReadsDown (w : Workbook) (range : CellRange) (values : List Float) : Prop where
  sheet : range.sheet = w.sheet
  column : range.first.col = range.last.col
  cells : range.places.map w.get? = values.map fun value => some (.number value)

/-- **The series of a chart are read back** from a workbook. -/
structure Reproduces (w : Workbook) (p : Plot) : Prop where
  /-- The worksheet has the cells of the chart and no others. -/
  cells : ∀ place value, (place, value) ∈ w.cells ↔ Shows p place value
  /-- No cell is filled twice. -/
  nodup_places : (w.cells.map (·.1)).Nodup
  /-- There is a curve for each series. -/
  length_curves : w.chart.series.length = p.series.length
  /-- The ranges of a curve hold the coordinates of its series and its name. -/
  curves : ∀ i s, p.series[i]? = some s → ∃ curve, w.chart.series[i]? = some curve ∧
    w.ReadsDown curve.x s.xValues ∧ w.ReadsDown curve.y s.y ∧
    curve.name.sheet = w.sheet ∧
    ∃ text, Names s i text ∧ curve.name.places.map w.get? = [some (.text text)]

/-! ### Cells -/

/-- The header of a series is its name. -/
theorem header_eq_iff {s : Series} {i : Nat} {text : String} :
    header s i = text ↔ Names s i text := by
  have hlabel : s.labelText.isSome = true ↔ s.HasLabel := Series.isSome_labelText
  rw [header]
  cases hname : s.labelText with
  | none =>
      rw [hname] at hlabel
      have hnone : ¬ s.HasLabel := fun h => nomatch hlabel.mpr h
      constructor
      · rintro rfl
        exact .number hnone
      · rintro (⟨h, hne⟩ | _)
        · exact absurd ⟨text, h, hne⟩ hnone
        · rfl
  | some found =>
      rw [hname] at hlabel
      rw [Series.labelText, Option.filter_eq_some_iff, decide_eq_true_eq] at hname
      obtain ⟨hfound, hne⟩ := hname
      constructor
      · rintro rfl
        exact .label hfound hne
      · rintro (⟨h, -⟩ | h)
        · exact Option.some.inj (hfound.symm.trans h)
        · exact absurd (hlabel.mp rfl) h

/-- The points of a series are the pairs of its coordinates. -/
theorem mem_zipIdx_points {s : Series} {x y : Float} {j : Nat} :
    ((x, y), j) ∈ (points s).zipIdx ↔ s.xValues[j]? = some x ∧ s.y[j]? = some y := by
  rw [List.mk_mem_zipIdx_iff_getElem?, points, List.getElem?_zip_eq_some]

/-- **The cells of a series**: two headers, and a row for each point. -/
theorem mem_seriesCells {s : Series} {i : Nat} {entry : Place × CellValue} :
    entry ∈ seriesCells s i ↔ entry = (⟨0, 2 * i⟩, .text "x") ∨
      entry = (⟨0, 2 * i + 1⟩, .text (header s i)) ∨
      ∃ x y j, s.xValues[j]? = some x ∧ s.y[j]? = some y ∧
        (entry = (⟨j + 1, 2 * i⟩, .number x) ∨ entry = (⟨j + 1, 2 * i + 1⟩, .number y)) := by
  simp only [seriesCells, List.mem_cons, List.mem_flatMap, Prod.exists, mem_zipIdx_points,
    List.not_mem_nil, or_false, and_assoc]

/-- Cells of a series stand in its pair of columns. -/
theorem half_col_of_mem_seriesCells {s : Series} {i : Nat} {entry : Place × CellValue}
    (h : entry ∈ seriesCells s i) : entry.1.col / 2 = i := by
  rcases mem_seriesCells.mp h with rfl | rfl | ⟨x, y, j, -, -, rfl | rfl⟩ <;> dsimp only <;> omega

/-- The places of a series are distinct. -/
theorem nodup_places_seriesCells (s : Series) (i : Nat) :
    ((seriesCells s i).map (·.1)).Nodup := by
  simp only [seriesCells, List.map_cons, List.map_flatMap, List.map_nil]
  have hbelow : ∀ place ∈ (points s).zipIdx.flatMap fun entry =>
      [Place.mk (entry.2 + 1) (2 * i), ⟨entry.2 + 1, 2 * i + 1⟩], place.row ≠ 0 := by
    intro place hplace
    obtain ⟨entry, -, hplace⟩ := List.mem_flatMap.mp hplace
    rcases List.mem_pair.mp hplace with rfl | rfl <;> exact Nat.succ_ne_zero _
  rw [List.nodup_cons, List.nodup_cons]
  refine ⟨?_, ?_, ?_⟩
  · rw [List.mem_cons, not_or]
    exact ⟨by simp, fun h => hbelow _ h rfl⟩
  · exact fun h => hbelow _ h rfl
  · -- the row of a point is its number
    refine nodup_flatMap_zipIdx (fun place => place.row - 1) ?_ ?_
    · simp
    · simp

variable {p : Plot} {w : Workbook}

/-- **The workbook of a chart** that fits into a worksheet. -/
theorem ofPlot_eq_ok (h : ofPlot p = .ok w) :
    w = ⟨sheetName, p.series.zipIdx.flatMap fun entry => seriesCells entry.1 entry.2,
      chartOf p⟩ := by
  simp only [ofPlot, seq_eq_ok] at h
  obtain ⟨-, -, -, h⟩ := h
  exact (Except.ok.inj h).symm

section Valid

variable (hvalid : ∀ s ∈ p.series, s.Valid) (h : ofPlot p = .ok w)
include hvalid h

omit hvalid in
/-- No cell is filled twice. -/
theorem nodup_places : (w.cells.map (·.1)).Nodup := by
  rw [ofPlot_eq_ok h, List.map_flatMap]
  refine nodup_flatMap_zipIdx (fun place => place.col / 2) ?_ ?_
  · intro item place hplace
    obtain ⟨entry, hentry, rfl⟩ := List.mem_map.mp hplace
    exact half_col_of_mem_seriesCells hentry
  · exact fun item => nodup_places_seriesCells item.1 item.2

/-- **The cells of a worksheet**, and no others. -/
theorem mem_cells {place : Place} {value : CellValue} :
    (place, value) ∈ w.cells ↔ Shows p place value := by
  rw [ofPlot_eq_ok h]
  simp only [List.mem_flatMap, Prod.exists, List.mk_mem_zipIdx_iff_getElem?, mem_seriesCells,
    Prod.mk.injEq]
  constructor
  · rintro ⟨s, i, hs, ⟨rfl, rfl⟩ | ⟨rfl, rfl⟩ | ⟨x, y, j, hx, hy, ⟨rfl, rfl⟩ | ⟨rfl, rfl⟩⟩⟩
    · exact .xHeader hs
    · exact .yHeader hs (header_eq_iff.mp rfl)
    · exact .x hs hx
    · exact .y hs hy
  · have hlength {s : Series} {i : Nat} (hs : p.series[i]? = some s) :=
      (hvalid s (List.mem_of_getElem? hs)).length_xValues
    rintro (⟨hs⟩ | ⟨hs, hname⟩ | ⟨hs, hvalue⟩ | ⟨hs, hvalue⟩)
    · exact ⟨_, _, hs, .inl ⟨rfl, rfl⟩⟩
    · exact ⟨_, _, hs, .inr (.inl ⟨rfl, by rw [header_eq_iff.mpr hname]⟩)⟩
    · -- a point with one coordinate has the other one
      obtain ⟨hj, -⟩ := List.getElem?_eq_some_iff.mp hvalue
      rw [hlength hs] at hj
      exact ⟨_, _, hs, .inr (.inr ⟨_, _, _, hvalue, List.getElem?_eq_getElem hj,
        .inl ⟨rfl, rfl⟩⟩)⟩
    · obtain ⟨hj, -⟩ := List.getElem?_eq_some_iff.mp hvalue
      rw [← hlength hs] at hj
      exact ⟨_, _, hs, .inr (.inr ⟨_, _, _, List.getElem?_eq_getElem hj, hvalue,
        .inr ⟨rfl, rfl⟩⟩)⟩

/-- **What is read at a place** is what the chart has there. -/
theorem get?_of_shows {place : Place} {value : CellValue} (hshows : Shows p place value) :
    w.get? place = some value :=
  find?_of_mem (nodup_places h) ((mem_cells hvalid h).mpr hshows)

end Valid

/-! ### Ranges -/

/-- The places of a column below its header. -/
theorem places_columnRange (col rows : Nat) :
    (columnRange col rows).places = (List.range rows).map fun j => ⟨j + 1, col⟩ := by
  have hrows : List.range' 1 (rows + 1 - 1) = (List.range rows).map (· + 1) := by
    rw [List.range'_eq_map_range, Nat.add_sub_cancel]
    simp only [Nat.add_comm]
  have hcols : List.range' col (col + 1 - col) = [col] := by
    rw [Nat.add_sub_cancel_left]
    rfl
  rw [columnRange, CellRange.places, hrows, hcols, List.flatMap_map]
  exact List.map_eq_flatMap.symm

/-- **A column below its header** reads down what stands in it. -/
theorem readsDown_columnRange {col : Nat} {values : List Float} (hsheet : w.sheet = sheetName)
    (hcells : ∀ j value, values[j]? = some value → w.get? ⟨j + 1, col⟩ = some (.number value)) :
    w.ReadsDown (columnRange col values.length) values := by
  refine ⟨hsheet.symm, rfl, ?_⟩
  rw [places_columnRange, List.map_map]
  apply List.ext_getElem
  · simp
  · intro j hrange hvalues
    rw [List.length_map] at hvalues
    simpa using hcells j values[j] (List.getElem?_eq_getElem hvalues)

/-- There is a curve for each series with a point. -/
theorem curves_eq (hvalid : ∀ s ∈ p.series, s.Valid) :
    (chartOf p).series = p.series.zipIdx.map fun entry =>
      { name := .single sheetName ⟨0, 2 * entry.2 + 1⟩
        x := columnRange (2 * entry.2) entry.1.y.length
        y := columnRange (2 * entry.2 + 1) entry.1.y.length } := by
  rw [chartOf, ← List.filterMap_eq_map]
  refine List.filterMap_congr fun entry hentry => ?_
  have hpoint := (hvalid entry.1 (List.fst_mem_of_mem_zipIdx hentry)).nonempty
  change seriesCurve entry.1 entry.2 = _
  rw [seriesCurve, if_neg (by simpa using hpoint)]
  rfl

/-- **The workbook of a chart** gives back its series. -/
theorem reproduces_of_ofPlot (hvalid : ∀ s ∈ p.series, s.Valid) (h : ofPlot p = .ok w) :
    w.Reproduces p := by
  have hsheet : w.sheet = sheetName := by rw [ofPlot_eq_ok h]
  have hchart : w.chart = chartOf p := by rw [ofPlot_eq_ok h]
  refine ⟨fun place value => mem_cells hvalid h, nodup_places h, ?_, fun i s hs => ?_⟩
  · rw [hchart, curves_eq hvalid, List.length_map, List.length_zipIdx]
  · have hlength := (hvalid s (List.mem_of_getElem? hs)).length_xValues
    have hcurve : w.chart.series[i]? = some
        { name := .single sheetName ⟨0, 2 * i + 1⟩
          x := columnRange (2 * i) s.y.length
          y := columnRange (2 * i + 1) s.y.length } := by
      rw [hchart, curves_eq hvalid, List.getElem?_map, List.getElem?_zipIdx, hs]
      simp
    refine ⟨_, hcurve, ?_, ?_, hsheet.symm, header s i, header_eq_iff.mp rfl, ?_⟩
    · rw [← hlength]
      exact readsDown_columnRange hsheet fun j value hvalue => get?_of_shows hvalid h (.x hs hvalue)
    · exact readsDown_columnRange hsheet fun j value hvalue => get?_of_shows hvalid h (.y hs hvalue)
    · have hname := get?_of_shows hvalid h (.yHeader hs (header_eq_iff.mp rfl))
      simpa [CellRange.places, CellRange.single] using hname

/-- **The spreadsheet of a chart** that passes its checks: when it has been written, there is a
workbook beside the file whose worksheet holds the series of the chart and nothing else, and
whose curves refer to the cells of their series. -/
theorem writeSpreadsheet_reproduces {input : String} {written : Option String} {s s' : Session}
    (hcheck : (Figure.plot p).check = .ok ())
    (h : (writeSpreadsheet input (.plot p)).perform s = (.ok written, s')) :
    written = some (Path.withExtension input "xlsx") ∧
      ∃ w, s'.store.read (Path.withExtension input "xlsx") = .ok (.workbook w) ∧
        w.Reproduces p := by
  obtain ⟨workbook, hworkbook, -, hwritten, hread⟩ := writeSpreadsheet_plot_eq_ok h
  have hvalid := (Plot.check_eq_ok.mp hcheck).2
  exact ⟨hwritten, workbook, hread, reproduces_of_ofPlot hvalid hworkbook⟩

/-- Two series of different lengths, of which one has a label. -/
def unevenChart : Plot where
  series := [{ y := [1, 2, 3] }, { x := some [4], y := [5], label := some "b" }]

theorem writeSpreadsheet_reproduces_unevenChart :
    ∃ s', (writeSpreadsheet "a.json" (.plot unevenChart)).perform ⟨{}, []⟩ =
        (.ok (some "a.xlsx"), s') ∧
      ∃ w, s'.store.read "a.xlsx" = .ok (.workbook w) ∧ w.Reproduces unevenChart := by
  have hwrite : (writeSpreadsheet "a.json" (.plot unevenChart)).perform ⟨{}, []⟩ =
      (.ok (some "a.xlsx"), _) := rfl
  exact ⟨_, hwrite, (writeSpreadsheet_reproduces rfl hwrite).2⟩

end FigureScript.Workbook
