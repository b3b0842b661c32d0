import FigureScript.Figure.Check
import FigureScript.Proofs.Outcome
import Mathlib.Data.List.Nodup

/-!
# Rectangles and their cells

What it means that the shape of a grid, or of a matrix, has been accepted, and where
the cells of a grid stand.

## Main Results

* `Multiplot.shape_eq_ok`, `Colorplot.shape_eq_ok` — the accepted shapes are the
  rectangles with at least one cell
* `exists_eq_singleton` — a rectangle of one cell
* `Multiplot.mem_cells` — a cell stands where the rows have it
* `Multiplot.lt_of_mem_cells`, `Multiplot.exists_mem_cells` — everywhere inside the accepted
  shape
* `Multiplot.cells_pairwise`, `Multiplot.places_nodup` — row by row, and nowhere else
* `Multiplot.shape_eq_of_plots`, `Multiplot.cells_eq_of_plots` — a grid with other cells
-/

namespace FigureScript

open Outcome

theorem require_eq_ok {condition : Bool} {location : Location} {problem : Problem} :
    require condition location problem = .ok () ↔ condition = true := by
  cases condition <;> simp [require]

/-- No list is uneven when all have the length. -/
theorem firstUneven?_eq_none {α : Type} {length : Nat} {lists : List (List α)} :
    firstUneven? length lists = none ↔ ∀ list ∈ lists, list.length = length := by
  rw [firstUneven?, List.find?_eq_none]
  constructor
  · intro h list hlist
    obtain ⟨i, hi⟩ := List.mem_iff_getElem?.mp hlist
    simpa using h (list, i) (List.mk_mem_zipIdx_iff_getElem?.mpr hi)
  · intro h entry hentry
    simpa using h entry.1 (List.fst_mem_of_mem_zipIdx hentry)

/-- Whether lists are even depends on their lengths only. -/
theorem firstUneven?_map {α β : Type} (f : α → β) (length : Nat) (lists : List (List α)) :
    firstUneven? length (lists.map (·.map f)) =
      (firstUneven? length lists).map (Prod.map (·.map f) id) := by
  rw [firstUneven?, firstUneven?, List.zipIdx_map, List.find?_map]
  congr 2
  funext entry
  simp

/-- **The accepted rectangles**, as grids and matrices are both checked: there is a
list, the first one is not empty, and all are as long as it. -/
private theorem rectangle_iff {α : Type} {lists : List (List α)} {first rows cols : Nat} :
    ((!lists.isEmpty && decide (first ≠ 0)) = true ∧ firstUneven? first lists = none ∧
        lists.length = rows ∧ first = cols) ↔
      lists ≠ [] ∧ cols ≠ 0 ∧ rows = lists.length ∧ cols = first ∧
        ∀ list ∈ lists, list.length = cols := by
  rw [firstUneven?_eq_none]
  simp only [Bool.and_eq_true, Bool.not_eq_true', List.isEmpty_eq_false_iff, decide_eq_true_eq]
  constructor
  · rintro ⟨⟨hne, hfirst⟩, hlists, rfl, rfl⟩
    exact ⟨hne, hfirst, rfl, rfl, hlists⟩
  · rintro ⟨hne, hfirst, rfl, rfl, hlists⟩
    exact ⟨⟨hne, hfirst⟩, hlists, rfl, rfl⟩

/-- A rectangle without a second cell has one. -/
theorem exists_eq_singleton {α : Type} {lists : List (List α)} (hne : lists ≠ [])
    (hpos : ∀ list ∈ lists, 0 < list.length) (hlength : ¬ 1 < lists.flatten.length) :
    ∃ a, lists = [[a]] := by
  obtain ⟨first, rest, rfl⟩ := List.exists_cons_of_ne_nil hne
  rw [List.forall_mem_cons] at hpos
  rw [List.flatten_cons, List.length_append] at hlength
  cases rest with
  | nil =>
      have hone : first.length = 1 := Nat.le_antisymm (Nat.le_of_not_lt hlength) hpos.1
      obtain ⟨a, rfl⟩ := List.length_eq_one_iff.mp hone
      exact ⟨a, rfl⟩
  | cons second rest =>
      -- a second row would bring a second cell
      have hsecond := hpos.2 second List.mem_cons_self
      rw [List.flatten_cons, List.length_append] at hlength
      omega

/-- Changing an item of a list leaves the indices. -/
theorem zipIdx_modify {α : Type} (items : List α) (i : Nat) (f : α → α) :
    (items.modify i f).zipIdx =
      items.zipIdx.map fun entry => if entry.2 = i then (f entry.1, entry.2) else entry := by
  apply List.ext_getElem?
  intro k
  simp only [List.getElem?_zipIdx, List.getElem?_modify, List.getElem?_map, Nat.zero_add,
    Option.map_map, Option.map_eq_map]
  refine Option.map_congr fun a _ => ?_
  by_cases hk : i = k
  · simp [hk]
  · simp [hk, Ne.symm hk]

/-- The indices of a list increase. -/
private theorem zipIdx_pairwise {α : Type} (items : List α) :
    items.zipIdx.Pairwise fun a b => a.2 < b.2 := by
  apply List.pairwise_map.mp
  rw [List.zipIdx_map_snd]
  exact List.pairwise_lt_range'

namespace Multiplot

/-- **The accepted grids** are the rectangles with at least one cell. -/
theorem shape_eq_ok {m : Multiplot} {rows cols : Nat} :
    m.shape = .ok (rows, cols) ↔
      m.plots ≠ [] ∧ cols ≠ 0 ∧ rows = m.plots.length ∧ cols = m.cols ∧
        ∀ row ∈ m.plots, row.length = cols := by
  rw [shape, seq_eq_ok, require_eq_ok, ← rectangle_iff]
  cases firstUneven? m.cols m.plots <;> simp [pure, Except.pure]

/-- A cell stands where the rows have it. -/
theorem mem_cells {m : Multiplot} {cell : Cell} {i j : Nat} :
    (cell, i, j) ∈ m.cells ↔ ∃ row, m.plots[i]? = some row ∧ row[j]? = some cell := by
  simp only [cells, List.mem_flatMap, List.mem_map, Prod.exists, Prod.mk.injEq]
  constructor
  · rintro ⟨row, i', hrow, cell', j', hcell, rfl, rfl, rfl⟩
    exact ⟨row, List.mk_mem_zipIdx_iff_getElem?.mp hrow,
      List.mk_mem_zipIdx_iff_getElem?.mp hcell⟩
  · rintro ⟨row, hrow, hcell⟩
    exact ⟨row, i, List.mk_mem_zipIdx_iff_getElem?.mpr hrow, cell, j,
      List.mk_mem_zipIdx_iff_getElem?.mpr hcell, rfl, rfl, rfl⟩

/-- An accepted grid without a second cell has one. -/
theorem exists_plots_eq {m : Multiplot} {rows cols : Nat} (hshape : m.shape = .ok (rows, cols))
    (hlength : ¬ 1 < m.plots.flatten.length) : ∃ cell, m.plots = [[cell]] := by
  obtain ⟨hne, hcols, -, -, hrows⟩ := shape_eq_ok.mp hshape
  refine exists_eq_singleton hne (fun row hrow => ?_) hlength
  rw [hrows row hrow]
  exact Nat.pos_of_ne_zero hcols

/-- Every cell of an accepted grid stands inside its shape. -/
theorem lt_of_mem_cells {m : Multiplot} {rows cols : Nat} (hshape : m.shape = .ok (rows, cols))
    {cell : Cell} {i j : Nat} (hcell : (cell, i, j) ∈ m.cells) : i < rows ∧ j < cols := by
  obtain ⟨-, -, rfl, -, hrows⟩ := shape_eq_ok.mp hshape
  obtain ⟨row, hrow, hcol⟩ := mem_cells.mp hcell
  refine ⟨(List.getElem?_eq_some_iff.mp hrow).1, ?_⟩
  rw [← hrows row (List.mem_of_getElem? hrow)]
  exact (List.getElem?_eq_some_iff.mp hcol).1

/-- There is a cell at every place inside the accepted shape. -/
theorem exists_mem_cells {m : Multiplot} {rows cols : Nat} (hshape : m.shape = .ok (rows, cols))
    {i j : Nat} (hi : i < rows) (hj : j < cols) : ∃ cell, (cell, i, j) ∈ m.cells := by
  obtain ⟨-, -, rfl, -, hrows⟩ := shape_eq_ok.mp hshape
  have hwidth := hrows _ (List.getElem_mem hi)
  have hj : j < m.plots[i].length := hwidth ▸ hj
  exact ⟨m.plots[i][j], mem_cells.mpr
    ⟨m.plots[i], List.getElem?_eq_getElem hi, List.getElem?_eq_getElem hj⟩⟩

/-- **The order of places**, row by row. -/
def Before (a b : Nat × Nat) : Prop :=
  a.1 < b.1 ∨ a.1 = b.1 ∧ a.2 < b.2

/-- The cells come in the order of their places. -/
theorem cells_pairwise (m : Multiplot) : m.cells.Pairwise fun a b => Before a.2 b.2 := by
  rw [cells, List.pairwise_flatMap]
  constructor
  · intro row _
    exact List.pairwise_map.mpr ((zipIdx_pairwise row.1).imp fun hlt => .inr ⟨rfl, hlt⟩)
  · refine (zipIdx_pairwise m.plots).imp fun hlt left hleft right hright => ?_
    obtain ⟨_, -, rfl⟩ := List.mem_map.mp hleft
    obtain ⟨_, -, rfl⟩ := List.mem_map.mp hright
    exact .inl hlt

/-- No two cells stand at the same place. -/
theorem places_nodup (m : Multiplot) : (m.cells.map (·.2)).Nodup := by
  refine List.pairwise_map.mpr (m.cells_pairwise.imp fun hbefore heq => ?_)
  rw [heq] at hbefore
  rcases hbefore with hlt | ⟨-, hlt⟩ <;> exact Nat.lt_irrefl _ hlt

section OtherCells

variable {m m' : Multiplot} {f : Cell → Cell} (h : m'.plots = m.plots.map (·.map f))
include h

theorem cols_eq_of_plots : m'.cols = m.cols := by
  unfold cols
  rw [h]
  cases m.plots <;> simp

/-- **The shape of a grid** does not depend on what is in its cells. -/
theorem shape_eq_of_plots : m'.shape = m.shape := by
  unfold shape
  rw [cols_eq_of_plots h, h, firstUneven?_map, List.isEmpty_map, List.length_map]
  cases firstUneven? m.cols m.plots with
  | none => rfl
  | some entry => simp

/-- Other cells stand at the places of the old ones. -/
theorem cells_eq_of_plots : m'.cells = m.cells.map (Prod.map f id) := by
  rw [cells, cells, h, List.zipIdx_map, List.flatMap_map, List.map_flatMap]
  congr 1
  funext entry
  simp only [Prod.map_fst, Prod.map_snd, List.zipIdx_map, List.map_map]
  rfl

/-- A grid of one cell stays one. -/
theorem singleCell?_eq_of_plots : m'.singleCell? = m.singleCell?.map f := by
  unfold singleCell?
  rw [h]
  match m.plots with
  | [] => rfl
  | [[]] => rfl
  | [[cell]] => rfl
  | [_ :: _ :: _] => rfl
  | [] :: _ :: _ => rfl
  | [_] :: _ :: _ => rfl
  | (_ :: _ :: _) :: _ :: _ => rfl

end OtherCells

end Multiplot

/-- **The accepted matrices** are the rectangles with at least one value. -/
theorem Colorplot.shape_eq_ok {c : Colorplot} {location : Location} {rows cols : Nat} :
    c.shape location = .ok (rows, cols) ↔
      c.z ≠ [] ∧ cols ≠ 0 ∧ rows = c.z.length ∧ cols = c.cols ∧
        ∀ row ∈ c.z, row.length = cols := by
  rw [shape, seq_eq_ok, require_eq_ok, ← rectangle_iff]
  cases firstUneven? c.cols c.z <;> simp [pure, Except.pure]

end FigureScript
