import FigureScript.Program.OfFigure
import FigureScript.Proofs.Figure.Grid

/-!
# Compiled programs

What a successful compilation has done: the checks that passed and the form of the
program that it returned.

## Main Definitions

* `Plot.checkRequests`, `Plot.requested` — what the series of a chart ask for
* `Multiplot.IsBlock` — the statements of one cell of a grid
* `Multiplot.closing`, `Figure.closing` — what stands behind the drawing

## Main Results

* `Plot.program_eq_ok`, `Colorplot.program_eq_ok`, `Multiplot.program_eq_ok` — the
  program of each kind of figure
* `Figure.program_eq_ok` — the complete program
-/

namespace FigureScript

open Outcome

/-- The secondary axis of a coordinate that a series asks for, by its index. -/
def Series.added (s : Series) : Axis → Option Nat
  | .x => s.xadded
  | .y => s.yadded

namespace Plot

/-- The checks of the axes that the series of a chart ask for. -/
def checkRequests (p : Plot) : Except Error Unit :=
  p.series.zipIdx.forM fun (s, i) => do
    checkRequested i "xadded" s.xadded
    checkRequested i "yadded" s.yadded

/-- The secondary axis of a chart that asks for supported axes only. -/
def requested (p : Plot) : Except Error (Option Secondary) :=
  match p.series.any (·.xadded = some 1), p.series.any (·.yadded = some 1) with
  | true, true => .error (.unsupported .bothDirections)
  | true, false => .ok (some ⟨.x, p.xadded.head?⟩)
  | false, true => .ok (some ⟨.y, p.yadded.head?⟩)
  | false, false => .ok none

theorem secondary_eq (p : Plot) :
    p.secondary = (do
      checkDeclared "xadded" p.xadded
      checkDeclared "yadded" p.yadded
      p.checkRequests
      p.requested) :=
  rfl

/-- The secondary axes that a chart declares for a coordinate. -/
def declared (p : Plot) : Axis → List AddedAxis
  | .x => p.xadded
  | .y => p.yadded

/-- Some series of the chart is drawn against the secondary axis of a coordinate. -/
def uses (p : Plot) (axis : Axis) : Bool :=
  p.series.any fun s => s.added axis = some 1

theorem uses_eq_true {p : Plot} {axis : Axis} :
    p.uses axis = true ↔ ∃ s ∈ p.series, s.added axis = some 1 := by
  simp only [uses, List.any_eq_true, decide_eq_true_eq]

theorem checkRequested_eq_ok {i : Nat} {field : String} {index : Option Nat} :
    checkRequested i field index = .ok () ↔ ∀ k ∈ index, k ≤ 1 := by
  cases index with
  | none => simp [checkRequested]
  | some k => simp [checkRequested]

/-- A chart that declares and asks for one axis at most in each direction has the
secondary axis that it uses. -/
theorem secondary_eq_requested {p : Plot} (hdeclared : ∀ axis, (p.declared axis).length ≤ 1)
    (hadded : ∀ s ∈ p.series, ∀ axis, ∀ k ∈ s.added axis, k ≤ 1) :
    p.secondary = p.requested := by
  have hx : checkDeclared "xadded" p.xadded = .ok () := if_neg (Nat.not_lt.mpr (hdeclared .x))
  have hy : checkDeclared "yadded" p.yadded = .ok () := if_neg (Nat.not_lt.mpr (hdeclared .y))
  have hrequests : p.checkRequests = .ok () := by
    rw [checkRequests, forM_eq_ok]
    intro entry hentry
    have hs := hadded entry.1 (List.fst_mem_of_mem_zipIdx hentry)
    exact seq_eq_ok.mpr ⟨checkRequested_eq_ok.mpr (hs .x), checkRequested_eq_ok.mpr (hs .y)⟩
  rw [secondary_eq, hx, hy, hrequests]
  rfl

theorem requested_of_both {p : Plot} (h : ∀ axis, p.uses axis = true) :
    p.requested = .error (.unsupported .bothDirections) := by
  have hx : p.series.any (·.xadded = some 1) = true := h .x
  have hy : p.series.any (·.yadded = some 1) = true := h .y
  rw [requested, hx, hy]

theorem requested_of_not_both {p : Plot} {axis : Axis} (h : p.uses axis = false) :
    ∃ secondary, p.requested = .ok secondary := by
  unfold requested
  cases axis with
  | x =>
      have hx : p.series.any (·.xadded = some 1) = false := h
      rw [hx]
      cases p.series.any (·.yadded = some 1) <;> exact ⟨_, rfl⟩
  | y =>
      have hy : p.series.any (·.yadded = some 1) = false := h
      rw [hy]
      cases p.series.any (·.xadded = some 1) <;> exact ⟨_, rfl⟩

theorem program_of_secondary {p : Plot} {target : PlotTarget} {style : StyleCycle}
    {secondary : Option Secondary} (hsecondary : p.secondary = .ok secondary)
    (hseries : p.checkSeries [] = .ok ()) :
    p.program target style = .ok (p.statements target style secondary) := by
  rw [program, hsecondary]
  exact seq_eq_ok.mpr ⟨hseries, rfl⟩

/-- The program of a chart is its statements, with the secondary axis it uses. -/
theorem program_eq_ok {p : Plot} {target : PlotTarget} {style : StyleCycle}
    {program : List Statement} (h : p.program target style = .ok program) :
    ∃ secondary, p.secondary = .ok secondary ∧ p.checkSeries [] = .ok () ∧
      program = p.statements target style secondary := by
  rw [Plot.program, bind_eq_ok] at h
  obtain ⟨secondary, hsecondary, h⟩ := h
  rw [seq_eq_ok] at h
  obtain ⟨hseries, h⟩ := h
  exact ⟨secondary, hsecondary, hseries, (Except.ok.inj h).symm⟩

end Plot

namespace Colorplot

/-- The program of a field is its statements, for the shape that has been accepted. -/
theorem program_eq_ok {c : Colorplot} {axes : Axes} {program : List Statement}
    (h : c.program axes = .ok program) :
    ∃ rows cols, c.check [] = .ok () ∧ c.shape [] = .ok (rows, cols) ∧
      program = c.statements axes rows cols := by
  rw [Colorplot.program, seq_eq_ok, bind_eq_ok] at h
  obtain ⟨hcheck, ⟨rows, cols⟩, hshape, h⟩ := h
  exact ⟨rows, cols, hcheck, hshape, (Except.ok.inj h).symm⟩

end Colorplot

namespace Multiplot

/-- No cell of a checked grid holds a scalar field. -/
theorem checkCells_eq_ok {m : Multiplot} :
    m.checkCells = .ok () ↔ ∀ entry ∈ m.cells, ∃ p, entry.1 = .plot p := by
  unfold checkCells
  split
  next cell i j h =>
    have hmem := List.mem_of_find?_eq_some h
    have hnone := List.find?_some h
    simp only [reduceCtorEq, false_iff]
    intro hall
    obtain ⟨p, hp⟩ := hall _ hmem
    simp only at hp
    simp [hp, Cell.plot?] at hnone
  next h =>
    simp only [true_iff]
    rw [List.find?_eq_none] at h
    rintro ⟨cell, i, j⟩ hmem
    have hplot := h _ hmem
    cases cell with
    | plot p => exact ⟨p, rfl⟩
    | colorplot c => simp [Cell.plot?] at hplot

/-- Where a grid holds a scalar field depends only on which of its cells are charts. -/
theorem checkCells_eq_of_plots {m m' : Multiplot} {f : Cell → Cell}
    (h : m'.plots = m.plots.map (·.map f))
    (hf : ∀ cell, (f cell).plot?.isNone = cell.plot?.isNone) :
    m'.checkCells = m.checkCells := by
  unfold checkCells
  rw [cells_eq_of_plots h, List.find?_map]
  have hfield (isField : Cell × Nat × Nat → Bool)
      (hisField : ∀ cell i j, isField (cell, i, j) = cell.plot?.isNone) :
      isField ∘ Prod.map f (id : Nat × Nat → Nat × Nat) = isField := by
    funext entry
    obtain ⟨cell, i, j⟩ := entry
    change isField (f cell, i, j) = isField (cell, i, j)
    rw [hisField, hisField, hf]
  rw [hfield _ fun _ _ _ => rfl]
  cases List.find? _ m.cells <;> rfl

/-- **The block of a cell**: the statements of its chart, addressed to that cell. -/
def IsBlock (style : StyleCycle) (rows cols : Nat) (entry : Cell × Nat × Nat)
    (block : List Statement) : Prop :=
  ∃ p secondary, entry.1 = .plot p ∧ p.secondary = .ok secondary ∧ p.checkSeries [] = .ok () ∧
    block = p.statements (.cell entry.2.1 entry.2.2 rows cols) style secondary

theorem isBlock_of_cellProgram {style : StyleCycle} {rows cols : Nat}
    {entry : Cell × Nat × Nat} {block : List Statement} (hplot : ∃ p, entry.1 = .plot p)
    (h : cellProgram style rows cols entry.1 entry.2.1 entry.2.2 = .ok block) :
    IsBlock style rows cols entry block := by
  obtain ⟨p, hp⟩ := hplot
  rw [hp] at h
  simp only [cellProgram, Cell.plot?, mapError_eq_ok] at h
  obtain ⟨secondary, hsecondary, hseries, hblock⟩ := Plot.program_eq_ok h
  exact ⟨p, secondary, hp, hsecondary, hseries, hblock⟩

/-- What holds of the statements of every block holds of all of them. -/
theorem forall_mem_blocks {style : StyleCycle} {rows cols : Nat}
    {entries : List (Cell × Nat × Nat)} {blocks : List (List Statement)}
    (h : List.Forall₂ (IsBlock style rows cols) entries blocks) {P : Statement → Prop}
    (hP : ∀ entry block, IsBlock style rows cols entry block → ∀ s ∈ block, P s) :
    ∀ s ∈ blocks.flatten, P s := by
  induction h with
  | nil => exact fun s hs => absurd hs List.not_mem_nil
  | cons hblock _ ih =>
      rw [List.flatten_cons, List.forall_mem_append]
      exact ⟨hP _ _ hblock, ih⟩

/-- What stands behind the blocks of a grid. -/
def closing (m : Multiplot) (tightLayout : Bool) : List Statement :=
  (m.title.map .supTitle).toList ++ (if tightLayout then [.tightLayout] else []) ++
    spacing m.joined

/-- What stands behind the blocks is a title, a fitted layout or a closed gap. -/
theorem mem_closing {m : Multiplot} {tightLayout : Bool} {s : Statement}
    (hs : s ∈ m.closing tightLayout) :
    (∃ text, s = .supTitle text) ∨ s = .tightLayout ∨ ∃ between, s = .collapseSpacing between := by
  simp only [closing, List.mem_append] at hs
  rcases hs with (hs | hs) | hs
  · rw [Option.mem_toList] at hs
    obtain ⟨text, -, rfl⟩ := Option.map_eq_some_iff.mp hs
    exact .inl ⟨text, rfl⟩
  · rw [List.mem_ite_nil_right, List.mem_singleton] at hs
    exact .inr (.inl hs.2)
  · cases hjoined : m.joined with
    | none => simp [spacing, hjoined] at hs
    | some joined =>
        simp only [spacing, hjoined, List.mem_append, List.mem_ite_nil_right,
          List.mem_singleton] at hs
        rcases hs with ⟨-, hs⟩ | ⟨-, hs⟩
        · exact .inr (.inr ⟨.y, hs⟩)
        · exact .inr (.inr ⟨.x, hs⟩)

theorem program_eq (m : Multiplot) (style : StyleCycle) (scaled tightLayout : Bool) :
    m.program style scaled tightLayout = (do
      let (rows, cols) ← m.shape
      m.checkCells
      let blocks ← m.cells.mapM fun (cell, i, j) => cellProgram style rows cols cell i j
      return .createAxes rows cols m.xshared m.yshared scaled ::
        (blocks.flatten ++ m.closing tightLayout)) := by
  simp only [program, closing, List.cons_append, List.append_assoc]

/-- **The program of a grid** is the creation of its axes, a block for each cell, and
what stands behind them. -/
theorem program_eq_ok {m : Multiplot} {style : StyleCycle} {scaled tightLayout : Bool}
    {program : List Statement} (h : m.program style scaled tightLayout = .ok program) :
    ∃ rows cols blocks, m.shape = .ok (rows, cols) ∧
      List.Forall₂ (IsBlock style rows cols) m.cells blocks ∧
      program = .createAxes rows cols m.xshared m.yshared scaled ::
        (blocks.flatten ++ m.closing tightLayout) := by
  rw [program_eq, bind_eq_ok] at h
  obtain ⟨⟨rows, cols⟩, hshape, h⟩ := h
  simp only [bind_eq_ok] at h
  obtain ⟨⟨⟩, hcells, blocks, hblocks, h⟩ := h
  rw [checkCells_eq_ok] at hcells
  rw [mapM_eq_ok] at hblocks
  refine ⟨rows, cols, blocks, hshape, ?_, ?_⟩
  · refine List.Forall₂.imp ?_ (List.forall₂_and_left _ _ |>.mpr ⟨hcells, hblocks⟩)
    rintro entry block ⟨hplot, hblock⟩
    exact isBlock_of_cellProgram hplot hblock
  · exact (Except.ok.inj h).symm

end Multiplot

namespace Figure

/-- A grid of several cells is drawn as it is. -/
theorem drawn_of_several {m : Multiplot} (h : 1 < m.plots.flatten.length) :
    (multiplot m).drawn = .multiplot m := by
  have hsingle : m.singleCell? = none := by
    unfold Multiplot.singleCell?
    split
    next cell hplots =>
      rw [hplots] at h
      exact absurd h (Nat.lt_irrefl 1)
    next => rfl
  rw [drawn, hsingle]
  rfl

/-- A grid of one cell is drawn as that cell. -/
theorem drawn_of_single {m : Multiplot} {cell : Cell} (h : m.plots = [[cell]]) :
    (multiplot m).drawn = cell.toFigure := by
  rw [drawn, Multiplot.singleCell?, h]
  rfl

/-- What stands behind the drawing of a figure. -/
def closing (figure : Figure) (name : String) (options : ProgramOptions) : List Statement :=
  (if options.tightLayout && !figure.isGrid then [.tightLayout] else []) ++
    output name options.formats

/-- What stands behind the drawing fits the layout, shows the picture or saves it. -/
theorem mem_closing {figure : Figure} {name : String} {options : ProgramOptions} {s : Statement}
    (hs : s ∈ figure.closing name options) :
    s = .tightLayout ∨ s = .showFigure ∨ (∃ title, s = .setWindowTitle title) ∨
      ∃ path, s = .saveFigure path := by
  rw [closing, List.mem_append, List.mem_ite_nil_right, List.mem_singleton, output] at hs
  rcases hs with ⟨-, rfl⟩ | hs
  · exact .inl rfl
  · split at hs
    · simp only [List.mem_cons, List.not_mem_nil, or_false] at hs
      rcases hs with rfl | rfl
      · exact .inr (.inr (.inl ⟨name, rfl⟩))
      · exact .inr (.inl rfl)
    · obtain ⟨format, -, rfl⟩ := List.mem_map.mp hs
      exact .inr (.inr (.inr ⟨_, rfl⟩))

theorem program_eq (figure : Figure) (name : String) (options : ProgramOptions) :
    figure.program name options = (do
      let drawing ← figure.drawn.drawingProgram
        (.resolve figure.drawn.style options.overrides) options
      return inPresets options.presets (drawing ++ figure.drawn.closing name options)) := by
  simp only [program, body, closing, map_bind, List.append_assoc]
  rfl

/-- Fields that are drawn alike have the same programs. -/
theorem program_colorplot_congr {c c' : Colorplot} (h : c.program .current = c'.program .current)
    (name : String) (options : ProgramOptions) :
    (colorplot c).program name options = (colorplot c').program name options := by
  rw [program_eq, program_eq]
  change (c.program .current >>= _) = (c'.program .current >>= _)
  rw [h]
  rfl

/-- **The complete program** is the drawing and what stands behind it, in its presets. -/
theorem program_eq_ok {figure : Figure} {name : String} {options : ProgramOptions}
    {program : List Statement} (h : figure.program name options = .ok program) :
    ∃ drawing,
      figure.drawn.drawingProgram (.resolve figure.drawn.style options.overrides) options =
        .ok drawing ∧
      program = inPresets options.presets (drawing ++ figure.drawn.closing name options) := by
  rw [program_eq, bind_eq_ok] at h
  obtain ⟨drawing, hdrawing, h⟩ := h
  exact ⟨drawing, hdrawing, (Except.ok.inj h).symm⟩

/-- A figure whose drawing can be made has a program. -/
theorem program_of_drawing {figure : Figure} {name : String} {options : ProgramOptions}
    {drawing : List Statement}
    (h : figure.drawn.drawingProgram (.resolve figure.drawn.style options.overrides) options =
      .ok drawing) :
    figure.program name options =
      .ok (inPresets options.presets (drawing ++ figure.drawn.closing name options)) := by
  rw [program_eq, h]
  rfl

end Figure

end FigureScript
