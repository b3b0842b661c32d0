import FigureScript.Proofs.Figure.Skeleton
import FigureScript.Proofs.Program.Addressing
import FigureScript.Proofs.Program.Blank
import FigureScript.Proofs.Program.Compiled

/-!
# Programs of skeletons

A figure and its skeleton have the same program, texts aside: the blank forms of the two
are equal, and if one of them cannot be compiled, neither can the other, for the same
reason.

## Main Definitions

* `Tokens.Alike`, `StyleCycle.Alike` — lists of tokens that serve at the same times
* `ProgramOptions.skeleton` — what the caller decides, without characters

## Main Results

* `Plot.blanked_statements` — the statements of a chart
* `Plot.blanked_program`, `Colorplot.blanked_program`, `Multiplot.blanked_program` — one
  for each kind of figure
* `Figure.blanked_program` — the programs of all figures

## Design Notes

Which token a series gets is a text, but whether it gets one depends on the lengths of
the lists and on who supplied them.  Only that is compared between the two runs.
-/

namespace FigureScript

open Outcome

/-! ### Style cycles -/

/-- Lists of tokens that serve the same series, possibly with other tokens. -/
structure Tokens.Alike (t t' : Tokens) : Prop where
  length_eq : t.tokens.length = t'.tokens.length
  supplied_eq : t.supplied = t'.supplied

namespace Tokens

variable {t t' : Tokens}

theorem Alike.isSome_get? (h : t.Alike t') (index : Int) :
    (t.get? index).isSome = (t'.get? index).isSome := by
  rw [get?, get?, h.length_eq, Bool.eq_iff_iff, isSome_getElem?, isSome_getElem?, h.length_eq]

theorem Alike.isSome_serve (h : t.Alike t') (index : Option Int) (counter : Nat) :
    (t.serve index counter).1.isSome = (t'.serve index counter).1.isSome := by
  unfold serve
  rw [h.supplied_eq]
  cases index with
  | none =>
      dsimp only
      split
      · exact h.isSome_get? counter
      · rfl
  | some index => exact h.isSome_get? (index - 1)

theorem Alike.serve_counter (h : t.Alike t') (index : Option Int) (counter : Nat) :
    (t.serve index counter).2 = (t'.serve index counter).2 := by
  unfold serve
  rw [h.supplied_eq]
  cases index with
  | none =>
      dsimp only
      split
      · rfl
      · rfl
  | some index => rfl

/-- Lists that are there and not empty stay so, and keep their lengths. -/
theorem choose_alike (first second : Option (List String)) (default : List String) :
    (choose first second default).Alike
      (choose (first.map (·.map Text.skeleton)) (second.map (·.map Text.skeleton)) default) := by
  -- a list counts as given when it has tokens, and its skeleton has as many
  have hgiven (list : Option (List String)) :
      (list.map (·.map Text.skeleton)).filter (!·.isEmpty) =
        (list.filter (!·.isEmpty)).map (·.map Text.skeleton) := by
    cases list with
    | none => rfl
    | some list => cases list <;> rfl
  unfold choose
  dsimp only
  rw [hgiven first, hgiven second, ← Option.map_or]
  cases (first.filter (!·.isEmpty)).or (second.filter (!·.isEmpty)) with
  | none => exact ⟨rfl, rfl⟩
  | some tokens => exact ⟨(List.length_map _).symm, rfl⟩

end Tokens

/-- Style lists that serve the same series. -/
structure StyleCycle.Alike (style style' : StyleCycle) : Prop where
  markers : style.markers.Alike style'.markers
  colors : style.colors.Alike style'.colors
  lines : style.lines.Alike style'.lines

/-- **The lists that skeletons decide on** serve the same series. -/
theorem StyleCycle.resolve_alike (hint : Option StyleHint) (overrides : StyleHint) :
    (resolve hint overrides).Alike
      (resolve (hint.map StyleHint.skeleton) overrides.skeleton) := by
  have hhint : (hint.map StyleHint.skeleton).getD {} = (hint.getD {}).skeleton := by
    cases hint <;> rfl
  rw [resolve, resolve, hhint]
  exact ⟨Tokens.choose_alike _ _ _, Tokens.choose_alike _ _ _, Tokens.choose_alike _ _ _⟩

/-! ### Blank statements -/

theorem blankText_eq_of_isSome {text text' : Option String} (h : text.isSome = text'.isSome) :
    blankText text = blankText text' := by
  cases text <;> cases text' <;> first | rfl | simp at h

theorem blankText_map (f : String → String) (text : Option String) :
    blankText (text.map f) = blankText text := by
  cases text <;> rfl

theorem blankedAll_append (first second : List Statement) :
    blankedAll (first ++ second) = blankedAll first ++ blankedAll second := by
  simp only [blankedAll_eq_map, List.map_append]

theorem blankedAll_flatten (blocks : List (List Statement)) :
    blankedAll blocks.flatten = (blocks.map blankedAll).flatten := by
  induction blocks with
  | nil => rfl
  | cons block rest ih =>
      rw [List.flatten_cons, blankedAll_append, ih, List.map_cons, List.flatten_cons]

/-! ### Axes -/

def Secondary.skeleton (s : Secondary) : Secondary :=
  { s with settings := s.settings.map AddedAxis.skeleton }

def PlotAxes.skeleton (a : PlotAxes) : PlotAxes :=
  { a with secondary := a.secondary.map Secondary.skeleton }

namespace PlotAxes

theorem ofTarget_skeleton (target : PlotTarget) (secondary : Option Secondary) :
    ofTarget target (secondary.map Secondary.skeleton) = (ofTarget target secondary).skeleton := by
  unfold ofTarget skeleton
  rw [Option.isSome_map]

theorem twin?_skeleton (a : PlotAxes) : a.skeleton.twin? = a.twin? := by
  rw [twin?, twin?, skeleton, Option.map_map]
  rfl

theorem ofSeries_skeleton (a : PlotAxes) (s : Series) :
    a.skeleton.ofSeries s.skeleton = a.ofSeries s := by
  rw [ofSeries, ofSeries, twin?_skeleton]
  rfl

end PlotAxes

namespace Plot

theorem checkDeclared_map (field : String) (f : AddedAxis → AddedAxis) (axes : List AddedAxis) :
    checkDeclared field (axes.map f) = checkDeclared field axes := by
  rw [checkDeclared, checkDeclared, List.length_map]

theorem checkRequests_skeleton (p : Plot) : p.skeleton.checkRequests = p.checkRequests := by
  simp only [checkRequests, skeleton, List.zipIdx_map, List.forM_eq_forM, List.forM_map]
  rfl

theorem requested_skeleton (p : Plot) :
    p.skeleton.requested = p.requested.map (·.map Secondary.skeleton) := by
  have hx : p.skeleton.xadded.head? = p.xadded.head?.map AddedAxis.skeleton := List.head?_map
  have hy : p.skeleton.yadded.head? = p.yadded.head?.map AddedAxis.skeleton := List.head?_map
  have hanyx : p.skeleton.series.any (·.xadded = some 1) = p.series.any (·.xadded = some 1) :=
    List.any_map
  have hanyy : p.skeleton.series.any (·.yadded = some 1) = p.series.any (·.yadded = some 1) :=
    List.any_map
  rw [requested, requested, hanyx, hanyy, hx, hy]
  cases p.series.any (·.xadded = some 1) <;> cases p.series.any (·.yadded = some 1) <;> rfl

/-- Whether a chart can have its secondary axis does not depend on a text. -/
theorem secondary_skeleton (p : Plot) :
    p.skeleton.secondary = p.secondary.map (·.map Secondary.skeleton) := by
  have hx : checkDeclared "xadded" p.skeleton.xadded = checkDeclared "xadded" p.xadded :=
    checkDeclared_map "xadded" AddedAxis.skeleton p.xadded
  have hy : checkDeclared "yadded" p.skeleton.yadded = checkDeclared "yadded" p.yadded :=
    checkDeclared_map "yadded" AddedAxis.skeleton p.yadded
  rw [secondary_eq, secondary_eq, hx, hy, checkRequests_skeleton, requested_skeleton]
  simp only [map_bind]

/-! ### Sections -/

theorem blanked_axesStatements (target : PlotTarget) (axes : PlotAxes) :
    axesStatements target axes.skeleton = axesStatements target axes := by
  unfold axesStatements PlotAxes.skeleton
  cases axes.secondary <;> rfl

theorem blanked_drawing {s : Series} {trace trace' : Trace} (h : trace.blanked = trace'.blanked) :
    (drawing s trace).blanked = (drawing s.skeleton trace').blanked := by
  have hcond : (s.skeleton.hasXError || s.skeleton.hasYError) =
      (s.hasXError || s.hasYError) := rfl
  unfold drawing
  rw [hcond]
  split
  · rw [Statement.blanked, Statement.blanked, h]
    rfl
  · rw [Statement.blanked, Statement.blanked, h]

section Drawings

variable {style style' : StyleCycle} (h : style.Alike style')
include h

/-- The place in the list of colours is the same behind both. -/
theorem color_skeleton (cycler : Cycler) (index : Option Int) :
    (cycler.color style index).2 = (cycler.color style' index).2 := by
  have hcounter := h.colors.serve_counter index cycler.colors
  simp only [Cycler.color, hcounter]

theorem line_skeleton (cycler : Cycler) (index : Option Int) :
    (cycler.line style index).2 = (cycler.line style' index).2 := by
  have hcounter := h.lines.serve_counter index cycler.lines
  simp only [Cycler.line, hcounter]

/-- A series and its skeleton move the counters alike. -/
theorem served_skeleton (cycler : Cycler) (s : Series) :
    served style cycler s = served style' cycler s.skeleton := by
  change (if s.isUnjoined then _ else _) = if s.isUnjoined then _ else _
  rw [color_skeleton h, line_skeleton h]
  rfl

/-- A series gets a colour in both runs or in none, be it of its own or that of its
place. -/
theorem isSome_traceColor (axes : PlotAxes) (cycler : Cycler) (i : Nat) (s : Series) :
    (trace style axes cycler i s).style.color.isSome =
      (trace style' axes.skeleton cycler i s.skeleton).style.color.isSome := by
  have hcolor : (cycler.color style s.color).1.isSome = (cycler.color style' s.color).1.isSome :=
    h.colors.isSome_serve s.color cycler.colors
  change (if (cycler.color style s.color).1.isNone && s.onSecondary then some s!"C{i}"
      else (cycler.color style s.color).1).isSome =
    (if (cycler.color style' s.color).1.isNone && s.onSecondary then some s!"C{i}"
      else (cycler.color style' s.color).1).isSome
  -- the colour of the place stands in when the list has none, in both runs
  rw [← Option.not_isSome, ← Option.not_isSome, hcolor]
  split
  · rfl
  · exact hcolor

theorem isSome_traceLine (axes : PlotAxes) (cycler : Cycler) (i : Nat) (s : Series) :
    (trace style axes cycler i s).style.linestyle.isSome =
      (trace style' axes.skeleton cycler i s.skeleton).style.linestyle.isSome := by
  change ((cycler.color style s.color).2.line style s.line).1.isSome =
    ((cycler.color style' s.color).2.line style' s.line).1.isSome
  rw [color_skeleton h]
  exact h.lines.isSome_serve s.line _

theorem isSome_traceMarker (axes : PlotAxes) (cycler : Cycler) (i : Nat) (s : Series) :
    (trace style axes cycler i s).marker.isSome =
      (trace style' axes.skeleton cycler i s.skeleton).marker.isSome := by
  change (if s.isUnjoined then
      (((cycler.color style s.color).2.line style s.line).2.marker style).1 else none).isSome =
    (if s.isUnjoined then
      (((cycler.color style' s.color).2.line style' s.line).2.marker style').1 else none).isSome
  rw [color_skeleton h, line_skeleton h]
  split
  · exact h.markers.isSome_get? _
  · rfl

/-- **A series and its skeleton have the same trace**, texts aside. -/
theorem blanked_trace (axes : PlotAxes) (cycler : Cycler) (i : Nat) (s : Series) :
    (trace style axes cycler i s).blanked =
      (trace style' axes.skeleton cycler i s.skeleton).blanked := by
  have haxes : axes.ofSeries s = axes.skeleton.ofSeries s.skeleton :=
    (axes.ofSeries_skeleton s).symm
  have hlabel := blankText_eq_of_isSome s.isSome_labelText_skeleton.symm
  have hcolor := blankText_eq_of_isSome (isSome_traceColor h axes cycler i s)
  have hline := blankText_eq_of_isSome (isSome_traceLine h axes cycler i s)
  have hmarker := blankText_eq_of_isSome (isSome_traceMarker h axes cycler i s)
  rw [Trace.blanked, Trace.blanked, hcolor, hline, hmarker]
  change Trace.mk (axes.ofSeries s) _ _ _ (SeriesStyle.mk (blankText s.labelText) _ _) =
    Trace.mk (axes.skeleton.ofSeries s.skeleton) _ _ _
      (SeriesStyle.mk (blankText s.skeleton.labelText) _ _)
  rw [haxes, hlabel]
  rfl

/-- **The drawings of the series** of a chart and of its skeleton are the same, texts
aside. -/
theorem blanked_drawings (axes : PlotAxes) (cycler : Cycler) (i : Nat) (series : List Series) :
    blankedAll (drawings style axes cycler i series) =
      blankedAll (drawings style' axes.skeleton cycler i (series.map Series.skeleton)) := by
  induction series generalizing cycler i with
  | nil => rfl
  | cons s rest ih =>
      rw [List.map_cons, drawings_cons, drawings_cons, blankedAll, blankedAll, ih,
        served_skeleton h, blanked_drawing (blanked_trace h axes cycler i s)]

end Drawings

theorem blanked_axisLabel (axes : Axes) (axis : Axis) (text : Option String) :
    blankedAll (axisLabel axes axis text) =
      blankedAll (axisLabel axes axis (text.map Text.skeleton)) := by
  cases text <;> rfl

theorem blanked_titleStatement (axes : Axes) (text : Option String)
    (placement : TitlePlacement) :
    blankedAll (titleStatement axes text placement) =
      blankedAll (titleStatement axes (text.map Text.skeleton) placement) := by
  have hsome := Text.isSome_filter_skeleton text
  unfold titleStatement
  cases h : text.filter (· ≠ "") with
  | none =>
      rw [h, Option.isSome_none, Option.isSome_eq_false_iff, Option.isNone_iff_eq_none] at hsome
      rw [hsome]
  | some title =>
      rw [h, Option.isSome_some, Option.isSome_iff_exists] at hsome
      obtain ⟨title', h'⟩ := hsome
      rw [h']
      rfl

theorem secondaryLegend_skeleton (p : Plot) (axes : PlotAxes) :
    p.skeleton.secondaryLegend axes.skeleton =
      (p.secondaryLegend axes).map Secondary.skeleton := by
  have hany : (p.skeleton.series.any fun s => s.onSecondary && s.labelText.isSome) =
      p.series.any fun s => s.onSecondary && s.labelText.isSome := by
    simp only [skeleton, List.any_map, Function.comp_def, Series.isSome_labelText_skeleton]
    rfl
  unfold secondaryLegend
  rw [hany]
  cases hsecondary : axes.secondary with
  | none => simp only [PlotAxes.skeleton, hsecondary, Option.map_none, Option.filter_none]
  | some s =>
      simp only [PlotAxes.skeleton, hsecondary, Option.map_some]
      cases p.series.any fun s => s.onSecondary && s.labelText.isSome <;> rfl

theorem blanked_legends (p : Plot) (axes : PlotAxes) :
    blankedAll (p.legends axes) = blankedAll (p.skeleton.legends axes.skeleton) := by
  have hany : (p.skeleton.series.any fun s => !s.onSecondary && s.labelText.isSome) =
      p.series.any fun s => !s.onSecondary && s.labelText.isSome := by
    simp only [skeleton, List.any_map, Function.comp_def, Series.isSome_labelText_skeleton]
    rfl
  have hcorner (legend : Option Secondary) :
      ((legend.map Secondary.skeleton).map fun s => primaryCorner s.adds) =
        legend.map fun s => primaryCorner s.adds := by
    rw [Option.map_map]
    rfl
  unfold legends
  dsimp only
  rw [hany, secondaryLegend_skeleton, blankedAll_append, blankedAll_append, hcorner]
  congr 1
  · cases p.secondaryLegend axes with
    | none => rfl
    | some secondary =>
        obtain ⟨adds, settings⟩ := secondary
        cases settings with
        | none => rfl
        | some settings =>
            simp only [Option.map_some, Option.toList_some, blankedAll, Statement.blanked]
            exact congrArg (fun title => [Statement.setLegend (axes.primary.twin adds) _ title])
              (blankText_map Text.skeleton settings.legendLabel).symm
  · split
    · simp only [blankedAll, Statement.blanked, skeleton, blankText_map]
      rfl
    · rfl

theorem blanked_secondaryDecorations (axes : PlotAxes) :
    blankedAll (secondaryDecorations axes) = blankedAll (secondaryDecorations axes.skeleton) := by
  unfold secondaryDecorations PlotAxes.skeleton
  match axes.secondary with
  | none => rfl
  | some ⟨adds, none⟩ => rfl
  | some ⟨adds, some settings⟩ =>
      simp only [Option.map_some, Secondary.skeleton, AddedAxis.skeleton, blankedAll_append,
        ← blanked_axisLabel]

theorem blanked_epilog (axes : Axes) (notes : List Note) :
    blankedAll (notes.map (.annotate axes)) =
      blankedAll ((notes.map Note.skeleton).map (.annotate axes)) := by
  simp only [blankedAll_eq_map, List.map_map]
  rfl

/-! ### Charts -/

/-- **The statements of a chart** and those of its skeleton are the same, texts aside. -/
theorem blanked_statements {style style' : StyleCycle} (h : style.Alike style') (p : Plot)
    (target : PlotTarget) (secondary : Option Secondary) :
    blankedAll (p.statements target style secondary) =
      blankedAll (p.skeleton.statements target style' (secondary.map Secondary.skeleton)) := by
  rw [statements_eq, statements_eq, PlotAxes.ofTarget_skeleton]
  -- from here on only the axes matter, not which target they came from
  generalize PlotAxes.ofTarget target secondary = axes
  have hdrawings := blanked_drawings h axes {} 0 p.series
  have hlegends := p.blanked_legends axes
  have hsecondary := blanked_secondaryDecorations axes
  have hx := blanked_axisLabel axes.primary .x p.xlabel
  have hy := blanked_axisLabel axes.primary .y p.ylabel
  have htitle := blanked_titleStatement axes.primary p.title target.title
  have hepilog := blanked_epilog axes.primary p.epilog
  simp only [chartSteps, blankedAll_append, blanked_axesStatements, hdrawings, hlegends,
    hsecondary, hx, hy, htitle, hepilog]
  rfl

/-- **A chart and its skeleton compile alike.** -/
theorem blanked_program {style style' : StyleCycle} (h : style.Alike style') (p : Plot)
    (target : PlotTarget) :
    (p.program target style).map blankedAll =
      (p.skeleton.program target style').map blankedAll := by
  rw [program, program, secondary_skeleton, checkSeries_skeleton, bind_map_left]
  refine map_bind_right fun secondary => map_bind_right fun _ => ?_
  exact congrArg Except.ok (p.blanked_statements h target secondary)

end Plot

/-! ### Scalar fields -/

/-- **A scalar field and its skeleton compile alike.** -/
theorem Colorplot.blanked_program (c : Colorplot) (axes : Axes) :
    (c.program axes).map blankedAll = (c.skeleton.program axes).map blankedAll := by
  have hx := Plot.blanked_axisLabel axes .x c.xlabel
  have hy := Plot.blanked_axisLabel axes .y c.ylabel
  have htitle := Plot.blanked_titleStatement axes c.title .above
  rw [program, program, check_skeleton, shape_skeleton]
  refine map_bind_right fun _ => map_bind_right fun shape => congrArg Except.ok ?_
  simp only [statements_eq, decorations, blankedAll_append, hx, hy, htitle]
  rfl

/-! ### Grids -/

namespace Multiplot

theorem plot?_skeleton (cell : Cell) : cell.skeleton.plot? = cell.plot?.map Plot.skeleton := by
  cases cell <;> rfl

/-- Which cell holds a scalar field does not depend on a text. -/
theorem checkCells_skeleton (m : Multiplot) : m.skeleton.checkCells = m.checkCells :=
  checkCells_eq_of_plots rfl fun cell => by rw [plot?_skeleton, Option.isNone_map]

theorem blanked_cellProgram {style style' : StyleCycle} (h : style.Alike style')
    (rows cols : Nat) (cell : Cell) (i j : Nat) :
    (cellProgram style rows cols cell i j).map blankedAll =
      (cellProgram style' rows cols cell.skeleton i j).map blankedAll := by
  cases cell with
  | colorplot c => rfl
  | plot p =>
      have hp := p.blanked_program h (.cell i j rows cols)
      change ((p.program (.cell i j rows cols) style).mapError (Error.inCell i j)).map blankedAll =
        ((p.skeleton.program (.cell i j rows cols) style').mapError
          (Error.inCell i j)).map blankedAll
      rw [map_mapError, map_mapError, hp]

/-- The blocks of the cells of a grid and of its skeleton are made alike. -/
theorem blanked_blocks {style style' : StyleCycle} (h : style.Alike style') (m : Multiplot)
    (rows cols : Nat) :
    (m.cells.mapM fun (cell, i, j) => cellProgram style rows cols cell i j).map
        (List.map blankedAll) =
      (m.skeleton.cells.mapM fun (cell, i, j) => cellProgram style' rows cols cell i j).map
        (List.map blankedAll) := by
  rw [cells_skeleton, List.mapM_map]
  exact map_mapM_congr fun entry _ =>
    blanked_cellProgram h rows cols entry.1 entry.2.1 entry.2.2

theorem blanked_closing (m : Multiplot) (tightLayout : Bool) :
    blankedAll (m.closing tightLayout) = blankedAll (m.skeleton.closing tightLayout) := by
  have htitle : blankedAll (m.title.map .supTitle).toList =
      blankedAll (m.skeleton.title.map .supTitle).toList := by
    unfold skeleton
    cases m.title <;> rfl
  simp only [closing, blankedAll_append, htitle]
  rfl

/-- **A grid and its skeleton compile alike.** -/
theorem blanked_program {style style' : StyleCycle} (h : style.Alike style') (m : Multiplot)
    (scaled tightLayout : Bool) :
    (m.program style scaled tightLayout).map blankedAll =
      (m.skeleton.program style' scaled tightLayout).map blankedAll := by
  have hclosing := m.blanked_closing tightLayout
  rw [program_eq, program_eq, shape_skeleton, checkCells_skeleton]
  refine map_bind_right fun (rows, cols) => map_bind_right fun _ => ?_
  refine map_bind_congr (m.blanked_blocks h rows cols) fun blocks blocks' hblocks => ?_
  have hflatten : blankedAll blocks.flatten = blankedAll blocks'.flatten := by
    rw [blankedAll_flatten, blankedAll_flatten, hblocks]
  refine congrArg Except.ok ?_
  simp only [blankedAll, blankedAll_append, hflatten, hclosing]
  rfl

end Multiplot

/-! ### Figures -/

/-- What the caller decides, of whose texts only their being empty is kept. -/
def ProgramOptions.skeleton (o : ProgramOptions) : ProgramOptions :=
  { o with
    presets := o.presets.map Text.skeleton
    formats := o.formats.map Text.skeleton
    overrides := o.overrides.skeleton }

namespace Figure

theorem drawn_skeleton (figure : Figure) : figure.skeleton.drawn = figure.drawn.skeleton := by
  cases figure with
  | plot p => rfl
  | colorplot c => rfl
  | multiplot m =>
      simp only [skeleton, drawn, Multiplot.singleCell?_skeleton]
      cases m.singleCell? with
      | none => rfl
      | some cell => cases cell <;> rfl

theorem style_skeleton (figure : Figure) :
    figure.skeleton.style = figure.style.map StyleHint.skeleton := by
  cases figure <;> rfl

theorem isGrid_skeleton (figure : Figure) : figure.skeleton.isGrid = figure.isGrid := by
  cases figure <;> rfl

theorem blanked_drawingProgram {style style' : StyleCycle} (h : style.Alike style')
    (figure : Figure) (options : ProgramOptions) :
    (figure.drawingProgram style options).map blankedAll =
      (figure.skeleton.drawingProgram style' options.skeleton).map blankedAll := by
  cases figure with
  | plot p => exact p.blanked_program h .current
  | colorplot c => exact c.blanked_program .current
  | multiplot m => exact m.blanked_program h options.scaleGrid options.tightLayout

theorem blanked_output (name name' : String) (formats : List String) :
    blankedAll (output name formats) = blankedAll (output name' (formats.map Text.skeleton)) := by
  unfold output
  rw [List.isEmpty_map]
  split
  · rfl
  · simp only [blankedAll_eq_map, List.map_map]
    rfl

theorem blanked_closing (figure : Figure) (name name' : String) (options : ProgramOptions) :
    blankedAll (figure.closing name options) =
      blankedAll (figure.skeleton.closing name' options.skeleton) := by
  rw [closing, closing, isGrid_skeleton, blankedAll_append, blankedAll_append,
    blanked_output name name']
  rfl

theorem blanked_inPresets {presets : List String} {body body' : List Statement}
    (h : blankedAll body = blankedAll body') :
    blankedAll (inPresets presets body) =
      blankedAll (inPresets (presets.map Text.skeleton) body') := by
  unfold inPresets
  rw [List.isEmpty_map]
  split
  · exact h
  · simp only [blankedAll, Statement.blanked, h, List.map_map]
    rfl

/-- **A figure and its skeleton compile alike**, under any names: both fail for the same
reason, or they have the same program, texts aside. -/
theorem blanked_program (figure : Figure) (name name' : String) (options : ProgramOptions) :
    (figure.program name options).map blankedAll =
      (figure.skeleton.program name' options.skeleton).map blankedAll := by
  have hstyle := StyleCycle.resolve_alike figure.drawn.style options.overrides
  rw [← style_skeleton] at hstyle
  have hdrawing := blanked_drawingProgram hstyle figure.drawn options
  have hclosing := figure.drawn.blanked_closing name name' options
  rw [program_eq, program_eq, drawn_skeleton]
  refine map_bind_congr hdrawing fun drawing drawing' h => congrArg Except.ok ?_
  refine blanked_inPresets ?_
  rw [blankedAll_append, blankedAll_append, h, hclosing]

end Figure

end FigureScript
