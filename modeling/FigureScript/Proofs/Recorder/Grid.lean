import FigureScript.Proofs.Recorder.Cell
import FigureScript.Recorder.Figure

/-!
# Recorded grids

A grid of recorded axes stays a rectangle, whatever is drawn in its cells.  The check of
the grid it gives can only miss a series in a cell.  Its program fails when a cell holds a
scalar field or has series on both of its secondary axes, and only then.

## Main Definitions

* `GridRecorder.Sound` — the invariant
* `GridRecorder.multiplot` — the grid that has been recorded
* `GridRecorder.Unsupported` — a cell cannot be drawn in a grid

## Main Results

* `GridRecorder.Sound.set` — a sound cell keeps the invariant
* `GridRecorder.Sound.check_multiplot` — what the check of the grid can say
* `GridRecorder.Sound.program_multiplot`, `GridRecorder.Sound.program_of_unsupported` —
  when the grid has a program
-/

namespace FigureScript

open Outcome

namespace GridRecorder

variable {g : GridRecorder} {title : Option String}

/-- **The invariant of a recorded grid**: it is a rectangle with at least one cell, and
all its cells keep theirs. -/
structure Sound (g : GridRecorder) : Prop where
  nonempty : g.cells ≠ []
  rectangular : ∃ cols, cols ≠ 0 ∧ ∀ row ∈ g.cells, row.length = cols
  cells : ∀ row ∈ g.cells, ∀ a ∈ row, a.Sound

/-- **A grid of empty cells** keeps the invariant. -/
theorem sound_replicate {rows cols : Nat} (hrows : rows ≠ 0) (hcols : cols ≠ 0)
    (xshared yshared : Option Sharing) :
    Sound ⟨List.replicate rows (List.replicate cols {}), xshared, yshared⟩ where
  nonempty := fun h => hrows (List.replicate_eq_nil_iff _ |>.mp h)
  rectangular := by
    refine ⟨cols, hcols, fun row hrow => ?_⟩
    rw [List.eq_of_mem_replicate hrow, List.length_replicate]
  cells := by
    intro row hrow a ha
    rw [List.eq_of_mem_replicate hrow] at ha
    rw [List.eq_of_mem_replicate ha]
    exact AxesRecorder.sound_empty

/-- A row of a grid in which a cell is replaced is an old row, or one with that cell in
it. -/
theorem exists_of_mem_set {row col : Nat} {axes : AxesRecorder} {after : List AxesRecorder}
    (h : after ∈ (g.set row col axes).cells) :
    ∃ before ∈ g.cells, after = before ∨ after = before.set col axes := by
  obtain ⟨i, hi⟩ := List.mem_iff_getElem?.mp h
  simp only [set, List.getElem?_modify, Option.map_eq_map] at hi
  obtain ⟨before, hbefore, rfl⟩ := Option.map_eq_some_iff.mp hi
  refine ⟨before, List.mem_of_getElem? hbefore, ?_⟩
  by_cases hrow : row = i
  · exact .inr (if_pos hrow)
  · exact .inl (if_neg hrow)

namespace Sound

/-- **A sound cell keeps the invariant.** -/
theorem set (h : g.Sound) (row col : Nat) {axes : AxesRecorder} (haxes : axes.Sound) :
    (g.set row col axes).Sound where
  nonempty := fun hnil => h.nonempty (List.modify_eq_nil_iff.mp hnil)
  rectangular := by
    obtain ⟨cols, hcols, hrows⟩ := h.rectangular
    refine ⟨cols, hcols, fun after hafter => ?_⟩
    obtain ⟨before, hbefore, rfl | rfl⟩ := exists_of_mem_set hafter
    · exact hrows after hbefore
    · rw [List.length_set]
      exact hrows before hbefore
  cells := by
    intro after hafter a ha
    obtain ⟨before, hbefore, rfl | rfl⟩ := exists_of_mem_set hafter
    · exact h.cells after hbefore a ha
    · rcases List.mem_or_eq_of_mem_set ha with ha | rfl
      · exact h.cells before hbefore a ha
      · exact haxes

theorem get? (h : g.Sound) {row col : Nat} {a : AxesRecorder} (ha : g.get? row col = some a) :
    a.Sound := by
  obtain ⟨cells, hcells, ha⟩ := Option.bind_eq_some_iff.mp ha
  exact h.cells cells (List.mem_of_getElem? hcells) a (List.mem_of_getElem? ha)

end Sound

/-! ### The grid that has been recorded -/

/-- **The grid that has been recorded**, under a title. -/
def multiplot (g : GridRecorder) (title : Option String) : Multiplot where
  plots := g.cells.map fun row => row.map AxesRecorder.cell
  title := title
  xshared := g.xshared
  yshared := g.yshared

theorem mem_flatten_cells {a : AxesRecorder} :
    a ∈ g.cells.flatten ↔ ∃ i j, g.get? i j = some a := by
  rw [List.mem_flatten]
  simp only [List.mem_iff_getElem?, GridRecorder.get?, Option.bind_eq_some_iff]
  constructor
  · rintro ⟨row, ⟨i, hi⟩, j, hj⟩
    exact ⟨i, j, row, hi, hj⟩
  · rintro ⟨i, j, row, hi, hj⟩
    exact ⟨row, ⟨i, hi⟩, j, hj⟩

/-- The cells of the grid are the charts of the recorded cells. -/
theorem mem_cells_multiplot {cell : Cell} {i j : Nat} :
    (cell, i, j) ∈ (g.multiplot title).cells ↔ ∃ a, g.get? i j = some a ∧ a.cell = cell := by
  rw [Multiplot.mem_cells]
  simp only [multiplot, List.getElem?_map, GridRecorder.get?, Option.bind_eq_some_iff,
    Option.map_eq_some_iff]
  constructor
  · rintro ⟨-, ⟨row, hrow, rfl⟩, hcell⟩
    rw [List.getElem?_map] at hcell
    obtain ⟨a, ha, rfl⟩ := Option.map_eq_some_iff.mp hcell
    exact ⟨a, ⟨row, hrow, ha⟩, rfl⟩
  · rintro ⟨a, ⟨row, hrow, ha⟩, rfl⟩
    exact ⟨_, ⟨row, hrow, rfl⟩, by rw [List.getElem?_map, ha]; rfl⟩

/-- A grid of more than one cell is drawn as a grid. -/
theorem drawn_multiplot (h : 1 < g.cells.flatten.length) :
    (Figure.multiplot (g.multiplot title)).drawn = .multiplot (g.multiplot title) := by
  refine Figure.drawn_of_several ?_
  change 1 < (g.cells.map (List.map AxesRecorder.cell)).flatten.length
  rw [← List.map_flatten, List.length_map]
  exact h

/-- **A cell cannot be drawn in a grid**: it is a scalar field, or a chart with series on
both secondary axes. -/
def Unsupported (g : GridRecorder) : Prop :=
  ∃ a ∈ g.cells.flatten, a.field.isSome ∨ a.Clashes

namespace Sound

theorem shape_multiplot (h : g.Sound) (title : Option String) :
    ∃ rows cols, (g.multiplot title).shape = .ok (rows, cols) := by
  obtain ⟨cols, hcols, hrows⟩ := h.rectangular
  obtain ⟨first, rest, hcells⟩ := List.exists_cons_of_ne_nil h.nonempty
  have hfirst : first.length = cols := hrows first (hcells ▸ List.mem_cons_self)
  refine ⟨_, cols, Multiplot.shape_eq_ok.mpr ⟨?_, hcols, rfl, ?_, ?_⟩⟩
  · exact fun hnil => h.nonempty (List.map_eq_nil_iff.mp hnil)
  · rw [Multiplot.cols, multiplot, hcells, ← hfirst]
    exact (List.length_map _).symm
  · intro row hrow
    obtain ⟨axes, haxes, rfl⟩ := List.mem_map.mp hrow
    rw [List.length_map]
    exact hrows axes haxes

/-- A recorded grid without a second cell has one. -/
theorem exists_cells_eq (h : g.Sound) (hlength : ¬ 1 < g.cells.flatten.length) :
    ∃ a, g.cells = [[a]] := by
  obtain ⟨cols, hcols, hrows⟩ := h.rectangular
  refine exists_eq_singleton h.nonempty (fun row hrow => ?_) hlength
  rw [hrows row hrow]
  exact Nat.pos_of_ne_zero hcols

/-- **The check of the grid** fails only where a cell has no series. -/
theorem check_multiplot (h : g.Sound) {e : Error}
    (hcheck : (g.multiplot title).check = .error e) :
    ∃ location, (Figure.multiplot (g.multiplot title)).LacksSeries location ∧
      e = .schema (location ++ .ofField "series") .noSeries := by
  obtain ⟨rows, cols, hshape⟩ := h.shape_multiplot title
  rw [Multiplot.check, hshape] at hcheck
  obtain ⟨⟨cell, i, j⟩, hentry, hcell⟩ := exists_of_forM_eq_error hcheck
  obtain ⟨a, ha, rfl⟩ := mem_cells_multiplot.mp hentry
  obtain ⟨⟨p, hplot, hseries⟩, rfl⟩ := (h.get? ha).check_cell hcell
  rw [hplot] at hentry
  exact ⟨.ofCell i j, ⟨p, i, j, hentry, hseries, rfl⟩, rfl⟩

variable {style : StyleCycle} {scaled tightLayout : Bool}

theorem partsValid_multiplot (h : g.Sound) :
    ∀ entry ∈ (g.multiplot title).cells, entry.1.PartsValid := by
  rintro ⟨cell, i, j⟩ hentry
  obtain ⟨a, ha, rfl⟩ := mem_cells_multiplot.mp hentry
  exact (h.get? ha).partsValid_cell

/-- What a compilation rejects in the grid are its unsupported cells. -/
theorem exists_rejected_iff (h : g.Sound) :
    (∃ entry ∈ (g.multiplot title).cells, entry.1.IsColorplot ∨ entry.1.Overloaded) ↔
      g.Unsupported := by
  constructor
  · rintro ⟨⟨cell, i, j⟩, hentry, hcell⟩
    obtain ⟨a, ha, rfl⟩ := mem_cells_multiplot.mp hentry
    rw [AxesRecorder.isColorplot_cell, (h.get? ha).overloaded_cell] at hcell
    exact ⟨a, mem_flatten_cells.mpr ⟨i, j, ha⟩, hcell⟩
  · rintro ⟨a, hmem, hcell⟩
    obtain ⟨i, j, ha⟩ := mem_flatten_cells.mp hmem
    rw [← AxesRecorder.isColorplot_cell, ← (h.get? ha).overloaded_cell] at hcell
    exact ⟨(a.cell, i, j), mem_cells_multiplot.mpr ⟨a, ha, rfl⟩, hcell⟩

/-- **Without an unsupported cell the grid has a program.** -/
theorem program_multiplot (h : g.Sound) (hsupported : ¬ g.Unsupported) :
    ∃ statements, (g.multiplot title).program style scaled tightLayout = .ok statements := by
  obtain ⟨rows, cols, hshape⟩ := h.shape_multiplot title
  cases hprogram : (g.multiplot title).program style scaled tightLayout with
  | ok statements => exact ⟨statements, rfl⟩
  | error e =>
      have hrejected := (Multiplot.program_fails_iff hshape h.partsValid_multiplot).mp ⟨e, hprogram⟩
      exact absurd (h.exists_rejected_iff.mp hrejected) hsupported

/-- **With an unsupported cell the program fails.** -/
theorem program_of_unsupported (h : g.Sound) (hunsupported : g.Unsupported) :
    ∃ cause, (g.multiplot title).program style scaled tightLayout =
      .error (.unsupported cause) := by
  obtain ⟨rows, cols, hshape⟩ := h.shape_multiplot title
  obtain ⟨e, he⟩ := (Multiplot.program_fails_iff hshape h.partsValid_multiplot).mpr
    (h.exists_rejected_iff.mpr hunsupported)
  obtain ⟨-, -, cause, -, rfl, -⟩ := Multiplot.program_eq_error hshape h.partsValid_multiplot he
  exact ⟨cause, he⟩

end Sound

end GridRecorder

end FigureScript
