import FigureScript.Proofs.Figure.Accepted
import FigureScript.Proofs.Program.Compiled

/-!
# Rejected figures

A figure that has passed its check can still ask for what cannot be drawn.  This is said
here without the order in which a compilation looks at its parts: too many secondary axes
in a chart, or a scalar field in a grid of several cells.

## Main Definitions

* `Plot.Overloaded` — a chart asks for too many secondary axes
* `Cell.PartsValid` — the series or the scalar field of a cell pass their checks
* `Figure.Rejected` — a figure cannot be drawn
* `Multiplot.RejectedAt` — the cell of a grid that is to blame
* `Unsupported.Names` — a report is about a cell

## Main Results

* `Plot.program_of_overloaded`, `Plot.program_of_not_overloaded` — when a checked chart has
  a program
* `Multiplot.program_eq_error`, `Multiplot.program_fails_iff` — the same for grids
* `Figure.program_fails_iff_rejected` — which checked figures have no program, and what is
  reported of a grid
-/

namespace FigureScript

open Outcome

/-! ### Charts -/

namespace Plot

variable {p : Plot}

/-- **A chart asks for too many secondary axes**: two of one direction are declared, a
series asks for a second one, or series ask for one in each direction. -/
def Overloaded (p : Plot) : Prop :=
  (∃ axis, 1 < (p.declared axis).length) ∨
    (∃ s ∈ p.series, ∃ axis, ∃ k ∈ s.added axis, 1 < k) ∨
    ∀ axis, ∃ s ∈ p.series, s.added axis = some 1

theorem checkDeclared_eq_ok {field : String} {axes : List AddedAxis} :
    checkDeclared field axes = .ok () ↔ axes.length ≤ 1 := by
  rw [checkDeclared]
  split
  next hlt => simp only [reduceCtorEq, false_iff, Nat.not_le, hlt]
  next hle => simp only [Nat.not_lt.mp hle]

/-- The requests of a chart are accepted when no series asks for a second axis. -/
theorem checkRequests_eq_ok :
    p.checkRequests = .ok () ↔ ∀ s ∈ p.series, ∀ axis, ∀ k ∈ s.added axis, k ≤ 1 := by
  rw [checkRequests, forM_eq_ok]
  simp only [seq_eq_ok, checkRequested_eq_ok]
  constructor
  · intro h s hs axis
    obtain ⟨i, hi⟩ := List.mem_iff_getElem?.mp hs
    have hboth := h (s, i) (List.mk_mem_zipIdx_iff_getElem?.mpr hi)
    cases axis with
    | x => exact hboth.1
    | y => exact hboth.2
  · intro h entry hentry
    have hs := h entry.1 (List.fst_mem_of_mem_zipIdx hentry)
    exact ⟨hs .x, hs .y⟩

/-- A chart that is not overloaded has the secondary axis that it uses. -/
theorem secondary_of_not_overloaded (h : ¬ p.Overloaded) :
    ∃ secondary, p.secondary = .ok secondary := by
  simp only [Overloaded, not_or, not_exists, not_and, not_forall, Nat.not_lt] at h
  obtain ⟨hdeclared, hadded, axis, huses⟩ := h
  rw [secondary_eq_requested hdeclared hadded]
  have huses : p.uses axis = false := by
    rw [← Bool.not_eq_true, uses_eq_true]
    rintro ⟨s, hs, hadded⟩
    exact huses s hs hadded
  exact requested_of_not_both huses

/-- An overloaded chart does not. -/
theorem secondary_ne_ok (h : p.Overloaded) (secondary : Option Secondary) :
    p.secondary ≠ .ok secondary := by
  rw [secondary_eq, ne_eq, seq_eq_ok, seq_eq_ok, seq_eq_ok, checkDeclared_eq_ok,
    checkDeclared_eq_ok, checkRequests_eq_ok]
  rintro ⟨hx, hy, hadded, hrequested⟩
  rcases h with ⟨axis, hmany⟩ | ⟨s, hs, axis, k, hk, hmany⟩ | hboth
  · cases axis with
    | x => exact Nat.not_lt.mpr hx hmany
    | y => exact Nat.not_lt.mpr hy hmany
  · exact Nat.not_lt.mpr (hadded s hs axis k hk) hmany
  · rw [requested_of_both fun axis => uses_eq_true.mpr (hboth axis)] at hrequested
    cases hrequested

/-- The secondary axis of a chart is only refused as not supported. -/
theorem secondary_eq_error {e : Error} (h : p.secondary = .error e) :
    ∃ cause, e = .unsupported cause := by
  have hdeclared {field : String} {axes : List AddedAxis}
      (h : checkDeclared field axes = .error e) : ∃ cause, e = .unsupported cause := by
    rw [checkDeclared] at h
    split at h <;> cases h
    exact ⟨_, rfl⟩
  have hrequested {i : Nat} {field : String} {index : Option Nat}
      (h : checkRequested i field index = .error e) : ∃ cause, e = .unsupported cause := by
    cases index with
    | none => cases h
    | some k =>
        rw [checkRequested] at h
        split at h <;> cases h
        exact ⟨_, rfl⟩
  rw [secondary_eq] at h
  -- the declarations, then the requests of each series, then the two directions
  rcases bind_eq_error.mp h with h | ⟨_, -, h⟩
  · exact hdeclared h
  rcases bind_eq_error.mp h with h | ⟨_, -, h⟩
  · exact hdeclared h
  rcases bind_eq_error.mp h with h | ⟨_, -, h⟩
  · obtain ⟨entry, -, h⟩ := exists_of_forM_eq_error h
    rcases bind_eq_error.mp h with h | ⟨_, -, h⟩ <;> exact hrequested h
  · rw [requested] at h
    split at h <;> cases h
    exact ⟨_, rfl⟩

variable {target : PlotTarget} {style : StyleCycle}

/-- **A checked chart that is not overloaded has a program.** -/
theorem program_of_not_overloaded (hseries : p.checkSeries [] = .ok ()) (h : ¬ p.Overloaded) :
    ∃ statements, p.program target style = .ok statements := by
  obtain ⟨secondary, hsecondary⟩ := secondary_of_not_overloaded h
  exact ⟨_, program_of_secondary hsecondary hseries⟩

/-- A chart with a program is not overloaded. -/
theorem not_overloaded_of_program_eq_ok {program : List Statement}
    (h : p.program target style = .ok program) : ¬ p.Overloaded := by
  obtain ⟨secondary, hsecondary, -⟩ := program_eq_ok h
  exact fun hoverloaded => secondary_ne_ok hoverloaded secondary hsecondary

/-- **An overloaded chart has none**, and is reported as not supported. -/
theorem program_of_overloaded (h : p.Overloaded) :
    ∃ cause, p.program target style = .error (.unsupported cause) := by
  cases hsecondary : p.secondary with
  | ok secondary => exact absurd hsecondary (secondary_ne_ok h secondary)
  | error e =>
      obtain ⟨cause, rfl⟩ := secondary_eq_error hsecondary
      exact ⟨cause, by rw [program, hsecondary]; rfl⟩

/-- A checked chart without a program is overloaded, and reported as not supported. -/
theorem program_eq_error (hseries : p.checkSeries [] = .ok ()) {e : Error}
    (h : p.program target style = .error e) : p.Overloaded ∧ ∃ cause, e = .unsupported cause := by
  by_cases hoverloaded : p.Overloaded
  · have hprogram : ∃ cause, p.program target style = .error (.unsupported cause) :=
      program_of_overloaded hoverloaded
    obtain ⟨cause, hcause⟩ := hprogram
    rw [hcause] at h
    exact ⟨hoverloaded, cause, (Except.error.inj h).symm⟩
  · have hprogram : ∃ statements, p.program target style = .ok statements :=
      program_of_not_overloaded hseries hoverloaded
    obtain ⟨statements, hok⟩ := hprogram
    rw [hok] at h
    cases h

end Plot

/-- A checked scalar field has a program. -/
theorem Colorplot.program_of_check {c : Colorplot} {location : Location} {axes : Axes}
    (h : c.check location = .ok ()) : ∃ statements, c.program axes = .ok statements := by
  have hcheck := Colorplot.check_eq_ok.mp h
  obtain ⟨hne, hcols, hrows⟩ := hcheck.1
  rw [Colorplot.program]
  exact ⟨_, seq_eq_ok.mpr ⟨Colorplot.check_eq_ok.mpr hcheck,
    bind_eq_ok.mpr ⟨_, Colorplot.shape_eq_ok.mpr ⟨hne, hcols, rfl, rfl, hrows⟩, rfl⟩⟩⟩

/-! ### Cells -/

namespace Cell

/-- The cell holds a scalar field. -/
def IsColorplot (cell : Cell) : Prop :=
  ∃ c, cell = .colorplot c

/-- The cell holds an overloaded chart. -/
def Overloaded (cell : Cell) : Prop :=
  ∃ p, cell = .plot p ∧ p.Overloaded

/-- **The parts of a cell are valid**: the series of a chart, which may have none, or the
scalar field. -/
def PartsValid : Cell → Prop
  | plot p => p.checkSeries [] = .ok ()
  | colorplot c => c.check [] = .ok ()

/-- A cell that has been checked, wherever it stands, has valid parts. -/
theorem partsValid_of_check {cell : Cell} {location : Location}
    (h : cell.check location = .ok ()) : cell.PartsValid := by
  cases cell with
  | plot p => exact Plot.checkSeries_eq_ok.mpr (Plot.check_eq_ok.mp h).2
  | colorplot c => exact Colorplot.check_eq_ok.mpr (Colorplot.check_eq_ok.mp h)

theorem isColorplot_iff {cell : Cell} : cell.IsColorplot ↔ cell.plot?.isNone = true := by
  cases cell with
  | plot p => simp [IsColorplot, plot?]
  | colorplot c => simp [IsColorplot, plot?]

variable {cell : Cell} {style : StyleCycle} {options : ProgramOptions}

/-- A cell with valid parts that cannot be drawn for itself is an overloaded chart, and
reported as not supported. -/
theorem drawingProgram_eq_error (hparts : cell.PartsValid) {e : Error}
    (h : cell.toFigure.drawingProgram style options = .error e) :
    cell.Overloaded ∧ ∃ cause, e = .unsupported cause := by
  cases cell with
  | plot p =>
      obtain ⟨hoverloaded, hcause⟩ := Plot.program_eq_error hparts h
      exact ⟨⟨p, rfl, hoverloaded⟩, hcause⟩
  | colorplot c =>
      have hprogram : ∃ statements, c.program .current = .ok statements :=
        Colorplot.program_of_check hparts
      have h : c.program .current = .error e := h
      obtain ⟨statements, hok⟩ := hprogram
      rw [hok] at h
      cases h

/-- **A cell with valid parts cannot be drawn for itself** exactly when it is an overloaded
chart. -/
theorem drawingProgram_fails_iff (hparts : cell.PartsValid) :
    (∃ e, cell.toFigure.drawingProgram style options = .error e) ↔ cell.Overloaded := by
  constructor
  · rintro ⟨e, h⟩
    exact (drawingProgram_eq_error hparts h).1
  · rintro ⟨p, rfl, hoverloaded⟩
    obtain ⟨cause, hcause⟩ := Plot.program_of_overloaded hoverloaded
    exact ⟨_, hcause⟩

end Cell

/-! ### Reports -/

namespace Unsupported

/-- The cell that a report is about. -/
def cell? : Unsupported → Option (Nat × Nat)
  | colorplotCell row col => some (row, col)
  | inCell row col _ => some (row, col)
  | severalAxes _ _ | axisIndex _ _ _ | bothDirections => none

/-- **A report names a cell**: it is about that cell, whose place stands in the wording. -/
structure Names (cause : Unsupported) (i j : Nat) : Prop where
  cell : cause.cell? = some (i, j)
  wording : ∃ before after, cause.message = before ++ (Location.ofCell i j).text ++ after

/-- The text of a place, with the brackets of its two indices next to each other. -/
private theorem text_ofCell (i j : Nat) :
    (Location.ofCell i j).text = "plots[" ++ i.repr ++ "][" ++ j.repr ++ "]" := by
  have htext : (Location.ofCell i j).text =
      "plots" ++ ("[" ++ i.repr ++ "]" ++ ("[" ++ j.repr ++ "]" ++ "")) := rfl
  rw [htext, ← String.toList_inj]
  simp [String.toList_append]

theorem names_of_cell? {cause : Unsupported} {i j : Nat} (h : cause.cell? = some (i, j)) :
    cause.Names i j := by
  refine ⟨h, ?_⟩
  rw [text_ofCell]
  cases cause with
  | severalAxes => cases h
  | axisIndex => cases h
  | bothDirections => cases h
  | colorplotCell row col =>
      cases h
      have hmessage : (colorplotCell i j).message =
          "colorplot cell at plots[" ++ i.repr ++ "][" ++ j.repr ++ "] of a multiplot" := rfl
      refine ⟨"colorplot cell at ", " of a multiplot", ?_⟩
      rw [hmessage, ← String.toList_inj]
      simp [String.toList_append]
  | inCell row col cause =>
      cases h
      have hmessage : (inCell i j cause).message =
          "plots[" ++ i.repr ++ "][" ++ j.repr ++ "]: " ++ cause.message := rfl
      refine ⟨"", ": " ++ cause.message, ?_⟩
      rw [hmessage, ← String.toList_inj]
      simp [String.toList_append]

end Unsupported

/-! ### Grids -/

namespace Multiplot

variable {m : Multiplot}

/-- **The first cell of a grid with a property**, row by row. -/
structure FirstCell (m : Multiplot) (P : Cell → Prop) (i j : Nat) : Prop where
  holds : ∃ cell, (cell, i, j) ∈ m.cells ∧ P cell
  first : ∀ entry ∈ m.cells, P entry.1 → entry.2 = (i, j) ∨ Before (i, j) entry.2

/-- A cell with a property is the first one when no cell listed before it has the
property. -/
theorem firstCell_of_append {P : Cell → Prop} {before after : List (Cell × Nat × Nat)}
    {cell : Cell} {i j : Nat} (hcells : m.cells = before ++ (cell, i, j) :: after)
    (hcell : P cell) (hbefore : ∀ entry ∈ before, ¬ P entry.1) : m.FirstCell P i j where
  holds := ⟨cell, hcells ▸ List.mem_append_right before List.mem_cons_self, hcell⟩
  first := by
    intro entry hentry hP
    have hordered := m.cells_pairwise
    rw [hcells] at hentry hordered
    rcases List.mem_append.mp hentry with hentry | hentry
    · exact absurd hP (hbefore entry hentry)
    rcases List.mem_cons.mp hentry with rfl | hentry
    · exact .inl rfl
    · exact .inr (List.rel_of_pairwise_cons (List.pairwise_append.mp hordered).2.1 hentry)

/-- **The cell of a grid that is to blame**: the first scalar field or, without one, the
first overloaded chart. -/
def RejectedAt (m : Multiplot) (i j : Nat) : Prop :=
  m.FirstCell Cell.IsColorplot i j ∨
    (∀ entry ∈ m.cells, ¬ entry.1.IsColorplot) ∧ m.FirstCell Cell.Overloaded i j

theorem checkCells_eq_error {e : Error} (h : m.checkCells = .error e) :
    ∃ i j, m.FirstCell Cell.IsColorplot i j ∧ e = .unsupported (.colorplotCell i j) := by
  rw [checkCells] at h
  split at h
  next cell i j hfind =>
    obtain ⟨hcell, before, after, hcells, hbefore⟩ := List.find?_eq_some_iff_append.mp hfind
    refine ⟨i, j, firstCell_of_append hcells (Cell.isColorplot_iff.mpr hcell) ?_,
      (Except.error.inj h).symm⟩
    rintro ⟨other, i', j'⟩ hentry hcolorplot
    have hplot : (!other.plot?.isNone) = true := hbefore _ hentry
    rw [Cell.isColorplot_iff.mp hcolorplot] at hplot
    cases hplot
  next => cases h

variable {style : StyleCycle} {scaled tightLayout : Bool}

/-- A cell that has a program does not hold an overloaded chart. -/
theorem not_overloaded_of_cellProgram {rows cols i j : Nat} {cell : Cell} {block : List Statement}
    (h : cellProgram style rows cols cell i j = .ok block) : ¬ cell.Overloaded := by
  rintro ⟨p, rfl, hoverloaded⟩
  exact Plot.not_overloaded_of_program_eq_ok (mapError_eq_ok.mp h) hoverloaded

/-- **A grid with a program** holds neither scalar fields nor overloaded charts. -/
theorem supported_of_program_eq_ok {program : List Statement}
    (h : m.program style scaled tightLayout = .ok program) {entry : Cell × Nat × Nat}
    (hentry : entry ∈ m.cells) : ¬ entry.1.IsColorplot ∧ ¬ entry.1.Overloaded := by
  rw [program_eq, bind_eq_ok] at h
  obtain ⟨⟨rows, cols⟩, -, h⟩ := h
  obtain ⟨hcells, h⟩ := seq_eq_ok.mp h
  obtain ⟨blocks, hblocks, -⟩ := bind_eq_ok.mp h
  rw [checkCells_eq_ok] at hcells
  constructor
  · rintro ⟨c, hc⟩
    obtain ⟨p, hp⟩ := hcells entry hentry
    rw [hc] at hp
    cases hp
  · obtain ⟨k, rfl⟩ := List.mem_iff_get.mp hentry
    have hforall := mapM_eq_ok.mp hblocks
    exact not_overloaded_of_cellProgram (hforall.get k.2 (hforall.length_eq ▸ k.2))

variable {rows cols : Nat} (hshape : m.shape = .ok (rows, cols))
  (hparts : ∀ entry ∈ m.cells, entry.1.PartsValid)
include hshape hparts

/-- **A grid without a program** is reported at the cell that is to blame. -/
theorem program_eq_error {e : Error} (h : m.program style scaled tightLayout = .error e) :
    ∃ i j cause, m.RejectedAt i j ∧ e = .unsupported cause ∧ cause.Names i j := by
  rw [program_eq] at h
  rcases bind_eq_error.mp h with hnone | ⟨_, -, h⟩
  · rw [hshape] at hnone
    cases hnone
  -- the scalar fields are looked for first, then the cells are compiled
  rcases bind_eq_error.mp h with hcells | ⟨⟨⟩, hcells, h⟩
  · obtain ⟨i, j, hfirst, rfl⟩ := checkCells_eq_error hcells
    exact ⟨i, j, _, .inl hfirst, rfl, Unsupported.names_of_cell? rfl⟩
  rw [checkCells_eq_ok] at hcells
  rcases bind_eq_error.mp h with h | ⟨_, -, h⟩
  · obtain ⟨before, ⟨cell, i, j⟩, after, hsplit, hbefore, hcell⟩ :=
      exists_append_of_mapM_eq_error h
    have hmem : (cell, i, j) ∈ m.cells := hsplit ▸ List.mem_append_right before List.mem_cons_self
    obtain ⟨p, rfl⟩ : ∃ p, cell = .plot p := hcells _ hmem
    obtain ⟨e, he, rfl⟩ := mapError_eq_error.mp hcell
    obtain ⟨hoverloaded, cause, rfl⟩ := Plot.program_eq_error (hparts _ hmem) he
    refine ⟨i, j, _, .inr ⟨?_, ?_⟩, rfl, Unsupported.names_of_cell? rfl⟩
    · rintro entry hentry ⟨c, hc⟩
      obtain ⟨p, hp⟩ := hcells entry hentry
      rw [hc] at hp
      cases hp
    · refine firstCell_of_append hsplit ⟨p, rfl, hoverloaded⟩ fun entry hentry => ?_
      obtain ⟨block, hblock⟩ := hbefore entry hentry
      exact not_overloaded_of_cellProgram hblock
  · cases h

/-- **A grid has no program** exactly when a cell holds a scalar field or an overloaded
chart. -/
theorem program_fails_iff :
    (∃ e, m.program style scaled tightLayout = .error e) ↔
      ∃ entry ∈ m.cells, entry.1.IsColorplot ∨ entry.1.Overloaded := by
  constructor
  · rintro ⟨e, h⟩
    obtain ⟨i, j, cause, hrejected, -⟩ := program_eq_error hshape hparts h
    rcases hrejected with hfirst | ⟨-, hfirst⟩
    · obtain ⟨cell, hmem, hcolorplot⟩ := hfirst.holds
      exact ⟨_, hmem, .inl hcolorplot⟩
    · obtain ⟨cell, hmem, hoverloaded⟩ := hfirst.holds
      exact ⟨_, hmem, .inr hoverloaded⟩
  · rintro ⟨entry, hentry, hcell⟩
    cases hprogram : m.program style scaled tightLayout with
    | error e => exact ⟨e, rfl⟩
    | ok program =>
        obtain ⟨hcolorplot, hoverloaded⟩ := supported_of_program_eq_ok hprogram hentry
        exact absurd hcell (not_or.mpr ⟨hcolorplot, hoverloaded⟩)

end Multiplot

/-! ### Figures -/

namespace Figure

/-- **A figure that cannot be drawn**: an overloaded chart, alone or as the only cell of a
grid, or a grid of several cells with a scalar field or an overloaded chart in it. -/
inductive Rejected : Figure → Prop where
  | plot {p : Plot} (h : p.Overloaded) : Rejected (.plot p)
  | onlyCell {m : Multiplot} {p : Plot} (hplots : m.plots = [[.plot p]]) (h : p.Overloaded) :
      Rejected (.multiplot m)
  | cell {m : Multiplot} (hseveral : 1 < m.plots.flatten.length) {entry : Cell × Nat × Nat}
      (hentry : entry ∈ m.cells) (h : entry.1.IsColorplot ∨ entry.1.Overloaded) :
      Rejected (.multiplot m)

/-- The program of a figure fails with the error of its drawing. -/
theorem program_eq_error {figure : Figure} {name : String} {options : ProgramOptions} {e : Error} :
    figure.program name options = .error e ↔
      figure.drawn.drawingProgram (.resolve figure.drawn.style options.overrides) options =
        .error e := by
  rw [program_eq, bind_eq_error]
  simp [pure, Except.pure]

/-- A figure that is a single cell cannot be drawn when that is an overloaded chart. -/
theorem rejected_toFigure (cell : Cell) : cell.toFigure.Rejected ↔ cell.Overloaded := by
  constructor
  · intro h
    cases cell with
    | plot p =>
        cases h with
        | plot hoverloaded => exact ⟨p, rfl, hoverloaded⟩
    | colorplot c => cases h
  · rintro ⟨p, rfl, hoverloaded⟩
    exact .plot hoverloaded

/-- A grid of several cells cannot be drawn when one of them is not supported. -/
theorem rejected_of_several {m : Multiplot} (hseveral : 1 < m.plots.flatten.length) :
    (multiplot m).Rejected ↔ ∃ entry ∈ m.cells, entry.1.IsColorplot ∨ entry.1.Overloaded := by
  constructor
  · intro h
    cases h with
    | onlyCell hplots _ =>
        rw [hplots] at hseveral
        exact absurd hseveral (Nat.lt_irrefl 1)
    | cell _ hentry h => exact ⟨_, hentry, h⟩
  · rintro ⟨entry, hentry, h⟩
    exact .cell hseveral hentry h

/-- A grid of one cell cannot be drawn when that cell is an overloaded chart. -/
theorem rejected_of_single {m : Multiplot} {cell : Cell} (hplots : m.plots = [[cell]]) :
    (multiplot m).Rejected ↔ cell.Overloaded := by
  constructor
  · intro h
    cases h with
    | onlyCell hplots' hoverloaded =>
        rw [hplots'] at hplots
        cases hplots
        exact ⟨_, rfl, hoverloaded⟩
    | cell hseveral _ _ =>
        rw [hplots] at hseveral
        exact absurd hseveral (Nat.lt_irrefl 1)
  · rintro ⟨p, rfl, hoverloaded⟩
    exact .onlyCell hplots hoverloaded

/-- **What is drawn of a checked figure** is a cell with valid parts, or a grid of several
cells. -/
theorem drawn_of_check {figure : Figure} (hcheck : figure.check = .ok ()) :
    (∃ cell, figure.drawn = Cell.toFigure cell ∧ cell.PartsValid ∧
      (figure.Rejected ↔ cell.Overloaded) ∧ ∀ m, figure = .multiplot m →
        ¬ 1 < m.plots.flatten.length) ∨
      ∃ m, figure = .multiplot m ∧ 1 < m.plots.flatten.length := by
  cases figure with
  | plot p =>
      exact .inl ⟨.plot p, rfl, Plot.checkSeries_eq_ok.mpr (Plot.check_eq_ok.mp hcheck).2,
        rejected_toFigure (.plot p), fun _ h => nomatch h⟩
  | colorplot c =>
      exact .inl ⟨.colorplot c, rfl, hcheck, rejected_toFigure (.colorplot c),
        fun _ h => nomatch h⟩
  | multiplot m =>
      by_cases hseveral : 1 < m.plots.flatten.length
      · exact .inr ⟨m, rfl, hseveral⟩
      · obtain ⟨⟨rows, cols, hshape⟩, hcells⟩ := Multiplot.check_eq_ok.mp hcheck
        obtain ⟨cell, hplots⟩ := Multiplot.exists_plots_eq hshape hseveral
        have hmem : (cell, 0, 0) ∈ m.cells :=
          Multiplot.mem_cells.mpr ⟨[cell], by rw [hplots]; rfl, rfl⟩
        refine .inl ⟨cell, drawn_of_single hplots, Cell.partsValid_of_check (hcells _ hmem),
          rejected_of_single hplots, ?_⟩
        rintro _ ⟨⟩
        exact hseveral

/-- **Which checked figures have no program**: those that cannot be drawn, and they are
reported as not supported.  The report of a grid of several cells names its first scalar
field or, without one, its first overloaded chart. -/
theorem program_fails_iff_rejected {figure : Figure} (hcheck : figure.check = .ok ())
    (name : String) (options : ProgramOptions) :
    (∀ e, figure.program name options = .error e → ∃ cause, e = .unsupported cause) ∧
      ((∃ e, figure.program name options = .error e) ↔ figure.Rejected) ∧
      ∀ m, figure = .multiplot m → 1 < m.plots.flatten.length →
        ∀ cause, figure.program name options = .error (.unsupported cause) →
          ∃ i j, m.RejectedAt i j ∧ cause.Names i j := by
  simp only [program_eq_error]
  rcases drawn_of_check hcheck with
    ⟨cell, hdrawn, hparts, hrejected, hsingle⟩ | ⟨m, rfl, hseveral⟩
  · rw [hdrawn, hrejected]
    refine ⟨fun e he => (Cell.drawingProgram_eq_error hparts he).2,
      Cell.drawingProgram_fails_iff hparts, fun m hm hseveral => ?_⟩
    exact absurd hseveral (hsingle m hm)
  · obtain ⟨⟨rows, cols, hshape⟩, hcells⟩ := Multiplot.check_eq_ok.mp hcheck
    have hparts : ∀ entry ∈ m.cells, entry.1.PartsValid :=
      fun entry hentry => Cell.partsValid_of_check (hcells entry hentry)
    rw [drawn_of_several hseveral, rejected_of_several hseveral]
    refine ⟨fun e he => ?_, Multiplot.program_fails_iff hshape hparts, ?_⟩
    · obtain ⟨i, j, cause, -, rfl, -⟩ := Multiplot.program_eq_error hshape hparts he
      exact ⟨cause, rfl⟩
    · rintro _ ⟨⟩ - cause he
      obtain ⟨i, j, _, hrejected, ⟨⟩, hnames⟩ := Multiplot.program_eq_error hshape hparts he
      exact ⟨i, j, hrejected, hnames⟩

/-- A grid of two charts, the second of which asks for a second secondary axis. -/
def gridWithOverload : Multiplot :=
  { plots :=
      [[.plot { series := [{ y := [1] }] },
        .plot { series := [{ y := [2], xadded := some 2 }] }]] }

theorem program_fails_iff_rejected_gridWithOverload :
    (multiplot gridWithOverload).check = .ok () ∧
      ∃ i j cause, (multiplot gridWithOverload).program "fig" {} = .error (.unsupported cause) ∧
        gridWithOverload.RejectedAt i j ∧ cause.Names i j := by
  have hcheck : (multiplot gridWithOverload).check = .ok () := rfl
  have hseveral : 1 < gridWithOverload.plots.flatten.length := Nat.lt_add_one 1
  have hrejected : (multiplot gridWithOverload).Rejected :=
    .cell hseveral (List.mem_cons_of_mem _ List.mem_cons_self)
      (.inr ⟨_, rfl, .inr (.inl ⟨_, List.mem_singleton_self _, .x, 2, rfl, Nat.lt_add_one 1⟩)⟩)
  obtain ⟨hunsupported, hfails, hnames⟩ := program_fails_iff_rejected hcheck "fig" {}
  obtain ⟨e, he⟩ := hfails.mpr hrejected
  obtain ⟨cause, rfl⟩ := hunsupported e he
  obtain ⟨i, j, hat, hname⟩ := hnames _ rfl hseveral cause he
  exact ⟨hcheck, i, j, cause, he, hat, hname⟩

end Figure

end FigureScript
