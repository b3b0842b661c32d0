import FigureScript.Proofs.Keyed
import FigureScript.Proofs.Program.Compiled
import FigureScript.Proofs.Program.Declaration

/-!
# The blocks of a grid

The program of a grid is made of one block for each cell.  A block stays on the axes of its
cell, and it depends on nothing but the chart that is drawn there: the tokens that are handed
out in a cell start over in the next one.

## Main Definitions

* `Statement.place?` — the cell whose axes a statement addresses
* `blockAt` — the statements of a program that address a cell
* `Multiplot.InBlocks` — a program that consists of its blocks
* `Multiplot.withPlot` — a grid with another chart in one cell

## Main Results

* `Multiplot.program_eq_ok_iff` — the accepted grids and their programs
* `Multiplot.blockAt_program` — the block of a cell is what its chart is compiled to
* `Multiplot.program_inBlocks` — cells are compiled independently

## Design Notes

A block is found in a program by the axes that its statements address, and not by counting
statements, so that the blocks of two programs can be compared.
-/

namespace FigureScript

open Outcome

/-! ### Places -/

/-- The cell that axes belong to, if they are those of a cell or of a twin over it. -/
def Axes.place? : Axes → Option (Nat × Nat)
  | current => none
  | named _ => none
  | cell row col _ _ => some (row, col)
  | twin parent _ => parent.place?

/-- **The cell whose axes a statement addresses.** -/
def Statement.place? (s : Statement) : Option (Nat × Nat) :=
  s.axes?.bind Axes.place?

/-- **The block of a cell**: the statements of a program that address it. -/
def blockAt (program : List Statement) (place : Nat × Nat) : List Statement :=
  program.filter (·.place? = some place)

/-- The statement addresses some axes or a twin of these. -/
def Statement.IsOver (a : Axes) (s : Statement) : Prop :=
  s.axes? = some a ∨ ∃ adds, s.axes? = some (a.twin adds)

theorem Statement.IsOver.place?_eq {s : Statement} {i j rows cols : Nat}
    (h : s.IsOver (.cell i j rows cols)) : s.place? = some (i, j) := by
  rcases h with h | ⟨adds, h⟩ <;> rw [place?, h] <;> rfl

/-- **The statements of a chart in a cell** address that cell or a twin of it. -/
theorem Plot.isOver_of_mem_statements {p : Plot} {i j rows cols : Nat} {style : StyleCycle}
    {secondary : Option Secondary} {s : Statement}
    (hs : s ∈ p.statements (.cell i j rows cols) style secondary) :
    s.IsOver (.cell i j rows cols) := by
  have hprimary : (PlotAxes.ofTarget (.cell i j rows cols) secondary).primary =
      .cell i j rows cols := by
    cases secondary <;> rfl
  rw [statements_eq, List.mem_append] at hs
  rcases hs with hs | hs
  · cases secondary with
    | none => cases hs
    | some used =>
        rw [List.mem_singleton.mp hs]
        exact .inl rfl
  · obtain ⟨a, ha, hchart⟩ := p.chartSteps_staysOn _ _ style s hs
    have haxes := Statement.axes?_of_chartAxes? hchart
    rcases List.mem_cons.mp ha with rfl | ha
    · exact .inl (haxes.trans (congrArg some hprimary))
    · rw [Option.mem_toList] at ha
      obtain ⟨used, -, rfl⟩ := Option.map_eq_some_iff.mp ha
      rw [hprimary] at haxes
      exact .inr ⟨used.adds, haxes⟩

namespace Multiplot

variable {m : Multiplot} {style : StyleCycle} {scaled tightLayout : Bool} {rows cols : Nat}

/-! ### Accepted grids -/

/-- The statements of a cell, if it has some. -/
def cellBlock (style : StyleCycle) (rows cols : Nat) (entry : Cell × Nat × Nat) :
    List Statement :=
  (cellProgram style rows cols entry.1 entry.2.1 entry.2.2).toOption.getD []

/-- A cell holds a chart that can be drawn there. -/
def CellAccepted (style : StyleCycle) (rows cols : Nat) (entry : Cell × Nat × Nat) : Prop :=
  ∃ p block, entry.1 = .plot p ∧
    p.program (.cell entry.2.1 entry.2.2 rows cols) style = .ok block

theorem cellProgram_plot {p : Plot} {i j : Nat} {block : List Statement} :
    cellProgram style rows cols (.plot p) i j = .ok block ↔
      p.program (.cell i j rows cols) style = .ok block :=
  mapError_eq_ok

theorem cellBlock_plot {p : Plot} {place : Nat × Nat} {block : List Statement}
    (h : p.program (.cell place.1 place.2 rows cols) style = .ok block) :
    cellBlock style rows cols (.plot p, place) = block := by
  rw [cellBlock, cellProgram_plot.mpr h]
  rfl

/-- The cells of a grid are checked and compiled when each of them is accepted. -/
theorem mapM_cellProgram_eq_ok {blocks : List (List Statement)} :
    (m.checkCells = .ok () ∧
        (m.cells.mapM fun (cell, i, j) => cellProgram style rows cols cell i j) = .ok blocks) ↔
      (∀ entry ∈ m.cells, CellAccepted style rows cols entry) ∧
        blocks = m.cells.map (cellBlock style rows cols) := by
  have hget (entry : Cell × Nat × Nat) (block : List Statement)
      (h : cellProgram style rows cols entry.1 entry.2.1 entry.2.2 = .ok block) :
      cellBlock style rows cols entry = block := by
    rw [cellBlock, h]
    rfl
  rw [checkCells_eq_ok, mapM_eq_ok_map hget, ← and_assoc, ← forall₂_and]
  refine and_congr_left fun _ => forall₂_congr fun entry _ => ?_
  obtain ⟨cell, i, j⟩ := entry
  constructor
  · rintro ⟨⟨p, rfl⟩, block, hblock⟩
    exact ⟨p, block, rfl, cellProgram_plot.mp hblock⟩
  · rintro ⟨p, block, rfl, hblock⟩
    exact ⟨⟨p, rfl⟩, block, cellProgram_plot.mpr hblock⟩

/-- **The accepted grids** are the rectangles whose cells are all accepted, and the program
of such a grid is the creation of its axes, the statements of each cell, and what stands
behind them. -/
theorem program_eq_ok_iff {program : List Statement} :
    m.program style scaled tightLayout = .ok program ↔
      ∃ rows cols, m.shape = .ok (rows, cols) ∧
        (∀ entry ∈ m.cells, CellAccepted style rows cols entry) ∧
        program = .createAxes rows cols m.xshared m.yshared scaled ::
          (m.cells.flatMap (cellBlock style rows cols) ++ m.closing tightLayout) := by
  rw [program_eq]
  simp only [bind_eq_ok]
  constructor
  · rintro ⟨⟨rows, cols⟩, hshape, ⟨⟩, hcells, blocks, hblocks, h⟩
    obtain ⟨haccepted, rfl⟩ := mapM_cellProgram_eq_ok.mp ⟨hcells, hblocks⟩
    refine ⟨rows, cols, hshape, haccepted, ?_⟩
    rw [List.flatMap_def]
    exact (Except.ok.inj h).symm
  · rintro ⟨rows, cols, hshape, haccepted, rfl⟩
    obtain ⟨hcells, hblocks⟩ := mapM_cellProgram_eq_ok.mpr ⟨haccepted, rfl⟩
    refine ⟨(rows, cols), hshape, (), hcells, _, hblocks, ?_⟩
    rw [List.flatMap_def]
    rfl

/-! ### Blocks found again -/

/-- What stands in front of the cells and behind them addresses no cell. -/
theorem blockAt_eq_filter (place : Nat × Nat) :
    blockAt (.createAxes rows cols m.xshared m.yshared scaled ::
        (m.cells.flatMap (cellBlock style rows cols) ++ m.closing tightLayout)) place =
      (m.cells.flatMap (cellBlock style rows cols)).filter (·.place? = some place) := by
  have hclosing : (m.closing tightLayout).filter (·.place? = some place) = [] := by
    rw [List.filter_eq_nil_iff]
    intro s hs
    rcases mem_closing hs with ⟨text, rfl⟩ | rfl | ⟨between, rfl⟩ <;> exact nofun
  have hcreation : ¬ Statement.place? (.createAxes rows cols m.xshared m.yshared scaled) =
      some place := nofun
  rw [blockAt, List.filter_cons_of_neg (by simpa using hcreation), List.filter_append, hclosing,
    List.append_nil]

section Blocks

variable (haccepted : ∀ entry ∈ m.cells, CellAccepted style rows cols entry)
include haccepted

/-- The statements of a cell address it. -/
theorem isOver_of_mem_cellBlock {entry : Cell × Nat × Nat} (hentry : entry ∈ m.cells)
    {s : Statement} (hs : s ∈ cellBlock style rows cols entry) :
    s.IsOver (.cell entry.2.1 entry.2.2 rows cols) := by
  obtain ⟨cell, place⟩ := entry
  obtain ⟨p, block, rfl, hblock⟩ := haccepted _ hentry
  rw [cellBlock_plot hblock] at hs
  obtain ⟨secondary, -, -, rfl⟩ := Plot.program_eq_ok hblock
  exact Plot.isOver_of_mem_statements hs

theorem place?_of_mem_cellBlock : ∀ entry ∈ m.cells, ∀ s ∈ cellBlock style rows cols entry,
    s.place? = some entry.2 :=
  fun _ hentry _ hs => (isOver_of_mem_cellBlock haccepted hentry hs).place?_eq

/-- **The block of a cell** is what its chart is compiled to. -/
theorem blockAt_program {entry : Cell × Nat × Nat} (hentry : entry ∈ m.cells) :
    blockAt (.createAxes rows cols m.xshared m.yshared scaled ::
        (m.cells.flatMap (cellBlock style rows cols) ++ m.closing tightLayout)) entry.2 =
      cellBlock style rows cols entry := by
  rw [blockAt_eq_filter]
  exact filter_flatMap_of_keys (place?_of_mem_cellBlock haccepted) m.places_nodup hentry

/-- What is in the block of a place comes from the cells at that place. -/
theorem blockAt_eq_flatMap (place : Nat × Nat) :
    blockAt (.createAxes rows cols m.xshared m.yshared scaled ::
        (m.cells.flatMap (cellBlock style rows cols) ++ m.closing tightLayout)) place =
      m.cells.flatMap fun entry =>
        if entry.2 = place then cellBlock style rows cols entry else [] := by
  rw [blockAt_eq_filter]
  exact filter_flatMap_of_label (place?_of_mem_cellBlock haccepted) place

end Blocks

/-! ### Another chart in a cell -/

/-- **A grid with another chart in one cell.** -/
def withPlot (m : Multiplot) (i j : Nat) (q : Plot) : Multiplot :=
  { m with plots := m.plots.modify i (·.modify j fun _ => .plot q) }

section WithPlot

variable {i j : Nat} {q : Plot}

/-- **The shape of a grid** does not depend on what is in a cell. -/
theorem shape_withPlot (hshape : m.shape = .ok (rows, cols)) :
    (m.withPlot i j q).shape = .ok (rows, cols) := by
  -- the shape is a matter of the lengths of the rows
  have hlengths : (m.withPlot i j q).plots.map List.length = m.plots.map List.length := by
    apply List.ext_getElem?
    intro k
    simp only [withPlot, List.getElem?_map, List.getElem?_modify]
    cases m.plots[k]? with
    | none => rfl
    | some row => by_cases hk : i = k <;> simp [hk]
  have hcols : (m.withPlot i j q).cols = m.cols := by
    rw [Multiplot.cols, Multiplot.cols, ← List.head?_map, ← List.head?_map, hlengths]
  rw [shape_eq_ok] at hshape ⊢
  obtain ⟨hne, hpos, hrows, hwidth, hrect⟩ := hshape
  refine ⟨fun hnil => hne ?_, hpos, ?_, hwidth.trans hcols.symm, ?_⟩
  · rw [hnil] at hlengths
    exact List.map_eq_nil_iff.mp hlengths.symm
  · rw [hrows, ← List.length_map List.length, ← hlengths, List.length_map]
  · rw [← List.forall_mem_map (f := List.length) (P := (· = cols)), hlengths, List.forall_mem_map]
    exact hrect

/-- The other cells stay where they are. -/
theorem cells_withPlot : (m.withPlot i j q).cells =
    m.cells.map fun entry => if entry.2 = (i, j) then (.plot q, entry.2) else entry := by
  rw [cells, cells, withPlot, zipIdx_modify, List.flatMap_map, List.map_flatMap]
  refine List.flatMap_congr fun row _ => ?_
  obtain ⟨row, k⟩ := row
  -- the other rows are left alone, and in this one the other entries
  by_cases hk : k = i
  · simp only [hk, if_pos, zipIdx_modify, List.map_map]
    refine List.map_congr_left fun entry _ => ?_
    by_cases hj : entry.2 = j <;> simp [hj]
  · simp [hk]

/-- The cells of a grid with another chart are accepted when the old ones are and the chart
is. -/
theorem accepted_withPlot (haccepted : ∀ entry ∈ m.cells, CellAccepted style rows cols entry)
    {block : List Statement} (hq : q.program (.cell i j rows cols) style = .ok block) :
    ∀ entry ∈ (m.withPlot i j q).cells, CellAccepted style rows cols entry := by
  rw [cells_withPlot, List.forall_mem_map]
  intro entry hentry
  split
  next hplace =>
    refine ⟨q, block, rfl, ?_⟩
    rw [hplace]
    exact hq
  next => exact haccepted entry hentry

end WithPlot

/-! ### Programs of grids -/

/-- **A program of a grid that consists of its blocks.** -/
structure InBlocks (m : Multiplot) (style : StyleCycle) (scaled : Bool) (rows cols : Nat)
    (program : List Statement) : Prop where
  /-- The grid is created, the blocks follow row by row, and titles and layout close it. -/
  sections : ∃ closing,
    program = .createAxes rows cols m.xshared m.yshared scaled ::
      (m.cells.flatMap (fun entry => blockAt program entry.2) ++ closing) ∧
    ∀ s ∈ closing, (∃ text, s = .supTitle text) ∨ s = .tightLayout ∨
      ∃ between, s = .collapseSpacing between
  /-- A block stays on the axes of its cell and on twins of these. -/
  addressed : ∀ i j, ∀ s ∈ blockAt program (i, j), s.IsOver (.cell i j rows cols)
  /-- A block is what the chart of its cell is compiled to. -/
  compiled : ∀ p i j, (.plot p, i, j) ∈ m.cells →
    p.program (.cell i j rows cols) style = .ok (blockAt program (i, j))

theorem inBlocks (haccepted : ∀ entry ∈ m.cells, CellAccepted style rows cols entry) :
    m.InBlocks style scaled rows cols (.createAxes rows cols m.xshared m.yshared scaled ::
      (m.cells.flatMap (cellBlock style rows cols) ++ m.closing tightLayout)) where
  sections := by
    refine ⟨m.closing tightLayout, ?_, fun _ => mem_closing⟩
    rw [List.flatMap_congr fun entry hentry => blockAt_program haccepted hentry]
  addressed := by
    intro i j s hs
    rw [blockAt_eq_filter, List.mem_filter, List.mem_flatMap] at hs
    obtain ⟨⟨entry, hentry, hs⟩, hplace⟩ := hs
    have hover := isOver_of_mem_cellBlock haccepted hentry hs
    obtain ⟨cell, i', j'⟩ := entry
    have hplace := of_decide_eq_true hplace
    rw [hover.place?_eq] at hplace
    cases hplace
    exact hover
  compiled := by
    intro p i j hentry
    obtain ⟨_, block, ⟨⟩, hblock⟩ := haccepted _ hentry
    rw [blockAt_program haccepted hentry, cellBlock_plot hblock]
    exact hblock

/-- **Cells are compiled independently.**  The program of an accepted grid consists of the
blocks of its cells, and with another chart in one cell, which only has to be accepted
there, every other block stays as it was. -/
theorem program_inBlocks {program : List Statement}
    (h : m.program style scaled tightLayout = .ok program) :
    ∃ rows cols, m.shape = .ok (rows, cols) ∧ m.InBlocks style scaled rows cols program ∧
      ∀ i j q block, i < rows → j < cols →
        q.program (.cell i j rows cols) style = .ok block →
          ∃ program', (m.withPlot i j q).program style scaled tightLayout = .ok program' ∧
            blockAt program' (i, j) = block ∧
            ∀ place, place ≠ (i, j) → blockAt program' place = blockAt program place := by
  obtain ⟨rows, cols, hshape, haccepted, rfl⟩ := program_eq_ok_iff.mp h
  refine ⟨rows, cols, hshape, inBlocks haccepted, fun i j q block hi hj hq => ?_⟩
  have haccepted' := accepted_withPlot haccepted hq
  refine ⟨_, program_eq_ok_iff.mpr ⟨rows, cols, shape_withPlot hshape, haccepted', rfl⟩, ?_, ?_⟩
  · obtain ⟨cell, hcell⟩ := exists_mem_cells hshape hi hj
    have hentry : (.plot q, i, j) ∈ (m.withPlot i j q).cells := by
      rw [cells_withPlot, List.mem_map]
      exact ⟨_, hcell, if_pos rfl⟩
    have hblock : cellBlock style rows cols (.plot q, i, j) = block := cellBlock_plot hq
    rw [← hblock]
    exact blockAt_program haccepted' hentry
  · -- both blocks are made of the cells at that place, which the two grids share
    intro place hplace
    rw [blockAt_eq_flatMap haccepted, blockAt_eq_flatMap haccepted', cells_withPlot,
      List.flatMap_map]
    refine List.flatMap_congr fun entry _ => ?_
    by_cases hentry : entry.2 = (i, j)
    · have hne : (i, j) ≠ place := fun h => hplace h.symm
      simp [hentry, hne]
    · rw [if_neg hentry]

/-- A row of two charts, the second of which is given a marker. -/
def rowWithMarker : Multiplot :=
  { plots :=
      [[.plot { series := [{ y := [1] }] },
        .plot { series := [{ y := [2], joined := some false, color := some 1 }] }]]
    title := some "T" }

/-- A chart that is given three markers. -/
def chartWithMarkers : Plot :=
  { series :=
      [{ y := [3], joined := some false }, { y := [4], joined := some false },
        { y := [5], joined := some false, yadded := some 1 }] }

theorem program_inBlocks_rowWithMarker :
    ∃ program program',
      rowWithMarker.program (.resolve none {}) false true = .ok program ∧
      (rowWithMarker.withPlot 0 0 chartWithMarkers).program (.resolve none {}) false true =
        .ok program' ∧
      (blockAt program (0, 0)).length = 1 ∧ (blockAt program' (0, 0)).length = 4 ∧
      blockAt program' (0, 1) = blockAt program (0, 1) := by
  have h : rowWithMarker.program (.resolve none {}) false true = .ok _ := rfl
  obtain ⟨rows, cols, hshape, -, hindependent⟩ := program_inBlocks h
  have hcols : rowWithMarker.shape = .ok (1, 2) := rfl
  rw [hcols] at hshape
  cases hshape
  have hchart : chartWithMarkers.program (.cell 0 0 1 2) (.resolve none {}) = .ok _ := rfl
  obtain ⟨program', h', hblock, hother⟩ :=
    hindependent 0 0 chartWithMarkers _ Nat.zero_lt_one Nat.zero_lt_two hchart
  refine ⟨_, program', h, h', rfl, ?_, hother (0, 1) nofun⟩
  rw [hblock]
  rfl

end Multiplot

end FigureScript
