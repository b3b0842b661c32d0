import FigureScript.Proofs.Program.Compiled

/-!
# Style suggestions that count

A figure may carry style suggestions at its top and in the cells of its grid.  What is drawn
depends on the suggestions at the top of the figure that is drawn, and not on those either
when the caller has tokens for every list.

## Main Definitions

* `Multiplot.withoutCellStyles` — a grid whose cells suggest no style
* `Figure.unstyled` — a figure that suggests no style anywhere
* `StyleHint.Full` — no list is left to others

## Main Results

* `Multiplot.program_withoutCellStyles` — a grid has no use for the suggestions of its cells
* `Figure.program_unstyled` — nor has any figure when the caller has tokens for every list
* `Figure.program_eq_of_hints` — which suggestions do not count

## Design Notes

That some suggestions do not count is said of two figures which are equal once these
suggestions are taken out.  It follows from the program being that of the figure without
them.  Programs are compared as results, so a figure that cannot be drawn fails for the same
reason.
-/

namespace FigureScript

/-! ### Taking suggestions out -/

/-- The chart without its style suggestions. -/
def Plot.unstyled (p : Plot) : Plot :=
  { p with style := none }

/-- The field without its style suggestions. -/
def Colorplot.unstyled (c : Colorplot) : Colorplot :=
  { c with style := none }

/-- The cell without its style suggestions. -/
def Cell.unstyled : Cell → Cell
  | plot p => .plot p.unstyled
  | colorplot c => .colorplot c.unstyled

/-- **A grid whose cells suggest no style.** -/
def Multiplot.withoutCellStyles (m : Multiplot) : Multiplot :=
  { m with plots := m.plots.map (·.map Cell.unstyled) }

/-- **A figure that suggests no style**, neither at its top nor in a cell. -/
def Figure.unstyled : Figure → Figure
  | plot p => .plot p.unstyled
  | colorplot c => .colorplot c.unstyled
  | multiplot m => .multiplot { m.withoutCellStyles with style := none }

/-! ### Style lists -/

/-- **No list is left to others**: each one is there and has tokens. -/
structure StyleHint.Full (h : StyleHint) : Prop where
  markers : ∃ tokens ∈ h.markers, tokens ≠ []
  colors : ∃ tokens ∈ h.colors, tokens ≠ []
  lines : ∃ tokens ∈ h.lines, tokens ≠ []

/-- Behind a list with tokens the second list does not count. -/
theorem Tokens.choose_of_first {first : Option (List String)} {default : List String}
    (h : ∃ tokens ∈ first, tokens ≠ []) (second second' : Option (List String)) :
    choose first second default = choose first second' default := by
  obtain ⟨tokens, rfl, htokens⟩ := h
  have hgiven : (some tokens).filter (!·.isEmpty) = some tokens :=
    Option.filter_eq_some_iff.mpr ⟨rfl, by simpa using htokens⟩
  unfold choose
  dsimp only
  rw [hgiven, Option.some_or, Option.some_or]

/-- **A caller with tokens for every list** decides on the style alone. -/
theorem StyleCycle.resolve_of_full {overrides : StyleHint} (h : overrides.Full)
    (hint hint' : Option StyleHint) : resolve hint overrides = resolve hint' overrides := by
  simp only [resolve, Tokens.choose_of_first h.markers _ (hint'.getD {}).markers,
    Tokens.choose_of_first h.colors _ (hint'.getD {}).colors,
    Tokens.choose_of_first h.lines _ (hint'.getD {}).lines]

/-- Without such a caller the suggestions of a figure do count. -/
example : StyleCycle.resolve (some { colors := some ["red"] }) {} ≠ .resolve none {} := by
  decide

/-! ### Charts, fields and grids -/

/-- A chart is drawn in the style that is in force, whatever it suggests itself. -/
theorem Plot.program_unstyled (p : Plot) (target : PlotTarget) (style : StyleCycle) :
    p.unstyled.program target style = p.program target style :=
  rfl

/-- A field has no use for a style. -/
theorem Colorplot.program_withStyle (c : Colorplot) (style : Option StyleHint) (axes : Axes) :
    Colorplot.program { c with style } axes = c.program axes :=
  rfl

namespace Multiplot

theorem cellProgram_unstyled (style : StyleCycle) (rows cols : Nat) (cell : Cell) (i j : Nat) :
    cellProgram style rows cols cell.unstyled i j = cellProgram style rows cols cell i j := by
  cases cell with
  | plot p =>
      change (p.unstyled.program _ style).mapError _ = (p.program _ style).mapError _
      rw [p.program_unstyled]
  | colorplot c => rfl

theorem checkCells_withoutCellStyles (m : Multiplot) :
    m.withoutCellStyles.checkCells = m.checkCells :=
  checkCells_eq_of_plots rfl fun cell => by cases cell <;> rfl

theorem length_flatten_withoutCellStyles (m : Multiplot) :
    m.withoutCellStyles.plots.flatten.length = m.plots.flatten.length := by
  rw [withoutCellStyles, ← List.map_flatten, List.length_map]

/-- **A grid has no use for the suggestions of its cells.** -/
theorem program_withoutCellStyles (m : Multiplot) (style : StyleCycle)
    (scaled tightLayout : Bool) :
    m.withoutCellStyles.program style scaled tightLayout = m.program style scaled tightLayout := by
  have hshape : m.withoutCellStyles.shape = m.shape := shape_eq_of_plots rfl
  have hcells : m.withoutCellStyles.cells = m.cells.map (Prod.map Cell.unstyled id) :=
    cells_eq_of_plots rfl
  have hclosing : m.withoutCellStyles.closing tightLayout = m.closing tightLayout := rfl
  rw [program_eq, program_eq, hshape, checkCells_withoutCellStyles, hcells, hclosing]
  simp only [List.mapM_map, Function.comp_def, Prod.map_fst, Prod.map_snd, id_eq,
    cellProgram_unstyled]
  rfl

end Multiplot

/-! ### Figures -/

namespace Figure

theorem toFigure_unstyled (cell : Cell) : cell.unstyled.toFigure = cell.toFigure.unstyled := by
  cases cell <;> rfl

/-- The figure that is drawn is the same, suggestions aside. -/
theorem drawn_unstyled (figure : Figure) : figure.unstyled.drawn = figure.drawn.unstyled := by
  cases figure with
  | plot p => rfl
  | colorplot c => rfl
  | multiplot m =>
      have hsingle : Multiplot.singleCell? { m.withoutCellStyles with style := none } =
          m.singleCell?.map Cell.unstyled :=
        Multiplot.singleCell?_eq_of_plots rfl
      simp only [unstyled, drawn, hsingle]
      cases m.singleCell? with
      | none => rfl
      | some cell => exact toFigure_unstyled cell

theorem drawingProgram_unstyled (figure : Figure) (style : StyleCycle) (options : ProgramOptions) :
    figure.unstyled.drawingProgram style options = figure.drawingProgram style options := by
  cases figure with
  | plot p => exact p.program_unstyled .current style
  | colorplot c => exact c.program_withStyle none .current
  | multiplot m =>
      exact m.program_withoutCellStyles style options.scaleGrid options.tightLayout

theorem closing_unstyled (figure : Figure) (name : String) (options : ProgramOptions) :
    figure.unstyled.closing name options = figure.closing name options := by
  cases figure <;> rfl

section Options

variable (name : String) (options : ProgramOptions)

/-- **No suggestion counts** for a caller with tokens for every list. -/
theorem program_unstyled (h : options.overrides.Full) (figure : Figure) :
    figure.unstyled.program name options = figure.program name options := by
  rw [program_eq, program_eq, drawn_unstyled, drawingProgram_unstyled, closing_unstyled,
    StyleCycle.resolve_of_full h figure.drawn.unstyled.style figure.drawn.style]

/-- A grid of several cells is drawn as if its cells suggested nothing. -/
theorem program_withoutCellStyles {m : Multiplot} (h : 1 < m.plots.flatten.length) :
    (multiplot m.withoutCellStyles).program name options = (multiplot m).program name options := by
  have hseveral : 1 < m.withoutCellStyles.plots.flatten.length := by
    rwa [m.length_flatten_withoutCellStyles]
  have hdrawing (style : StyleCycle) :
      (multiplot m.withoutCellStyles).drawingProgram style options =
        (multiplot m).drawingProgram style options :=
    m.program_withoutCellStyles style options.scaleGrid options.tightLayout
  rw [program_eq, program_eq, drawn_of_several h, drawn_of_several hseveral, hdrawing]
  rfl

/-- The program depends on the figure that is drawn only. -/
theorem program_eq_of_drawn {figure figure' : Figure} (h : figure.drawn = figure'.drawn) :
    figure.program name options = figure'.program name options := by
  rw [program_eq, program_eq, h]

/-- **Which suggestions do not count**: those in the cells of a grid of several, those of a
grid around a single cell, those of a field, and all of them when the caller has tokens for
every list. -/
theorem program_eq_of_hints :
    (∀ m m' : Multiplot, 1 < m.plots.flatten.length →
      m.withoutCellStyles = m'.withoutCellStyles →
        (multiplot m).program name options = (multiplot m').program name options) ∧
    (∀ (m : Multiplot) (cell : Cell), m.plots = [[cell]] →
      (multiplot m).program name options = cell.toFigure.program name options) ∧
    (∀ (c : Colorplot) (style : Option StyleHint),
      (colorplot { c with style }).program name options = (colorplot c).program name options) ∧
    (options.overrides.Full → ∀ figure figure' : Figure, figure.unstyled = figure'.unstyled →
      figure.program name options = figure'.program name options) := by
  refine ⟨fun m m' hseveral heq => ?_, fun m cell hplots => ?_, fun c style => ?_,
    fun hfull figure figure' heq => ?_⟩
  · have hseveral' : 1 < m'.plots.flatten.length := by
      rwa [← m'.length_flatten_withoutCellStyles, ← heq, m.length_flatten_withoutCellStyles]
    rw [← program_withoutCellStyles name options hseveral, heq,
      program_withoutCellStyles name options hseveral']
  · refine program_eq_of_drawn name options ?_
    rw [drawn_of_single hplots]
    cases cell <;> rfl
  · exact program_colorplot_congr (c.program_withStyle style .current) name options
  · rw [← program_unstyled name options hfull, heq, program_unstyled name options hfull]

end Options

/-- A row of two charts, of which the first one may suggest a style. -/
def hintedRow (style : Option StyleHint) : Multiplot :=
  { plots := [[.plot { series := [{ y := [1] }], style }, .plot { series := [{ y := [2] }] }]] }

/-- The colour of a cell does not count in a row.  In a grid of its own the cell is drawn as it
is without the grid, and with lists of the caller as if it had no colour. -/
theorem program_eq_of_hints_hintedRow :
    let red : Option StyleHint := some { colors := some ["red"] }
    let chart (style : Option StyleHint) : Plot := { series := [{ y := [1] }], style }
    let lists : StyleHint := ⟨some ["--"], some ["blue"], some ["o"]⟩
    (multiplot (hintedRow red)).program "fig" {} = (multiplot (hintedRow none)).program "fig" {} ∧
      (multiplot { plots := [[.plot (chart red)]], title := some "T" }).program "fig" {} =
        (plot (chart red)).program "fig" {} ∧
      (plot (chart red)).program "fig" { overrides := lists } =
        (plot (chart none)).program "fig" { overrides := lists } := by
  intro red chart lists
  have hlists : lists.Full :=
    ⟨⟨_, rfl, List.cons_ne_nil _ _⟩, ⟨_, rfl, List.cons_ne_nil _ _⟩, ⟨_, rfl, List.cons_ne_nil _ _⟩⟩
  obtain ⟨hcells, hsingle, -, -⟩ := program_eq_of_hints "fig" {}
  obtain ⟨-, -, -, hfull⟩ := program_eq_of_hints "fig" { overrides := lists }
  exact ⟨hcells _ _ (Nat.lt_succ_self 1) rfl, hsingle _ (.plot (chart red)) rfl,
    hfull hlists _ _ rfl⟩

end Figure

end FigureScript
