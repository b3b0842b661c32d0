import FigureScript.Proofs.Figure.Grid

/-!
# Skeletons of figures

The skeleton of a figure keeps all its numbers, switches and enumerations, and which
parts are present, but of each text only whether it is empty.  Two figures with the same
skeleton differ in nothing but the characters of their texts.

## Main Definitions

* `Text.skeleton`, `Figure.skeleton` — texts and figures without their characters

## Main Results

* `Series.check_skeleton`, `Colorplot.check_skeleton`, `Multiplot.shape_skeleton` — no
  check reads a text
-/

namespace FigureScript

/-! ### Removing characters -/

/-- A text of which only its being empty is kept. -/
def Text.skeleton (text : String) : String :=
  if text = "" then "" else "x"

def StyleHint.skeleton (h : StyleHint) : StyleHint :=
  { lines := h.lines.map (·.map Text.skeleton)
    colors := h.colors.map (·.map Text.skeleton)
    markers := h.markers.map (·.map Text.skeleton) }

def Series.skeleton (s : Series) : Series :=
  { s with label := s.label.map Text.skeleton }

def AddedAxis.skeleton (a : AddedAxis) : AddedAxis :=
  { a with label := a.label.map Text.skeleton, legendLabel := a.legendLabel.map Text.skeleton }

def Note.skeleton (n : Note) : Note :=
  { n with text := Text.skeleton n.text }

def Plot.skeleton (p : Plot) : Plot :=
  { p with
    version := p.version.map Text.skeleton
    series := p.series.map Series.skeleton
    xlabel := p.xlabel.map Text.skeleton
    ylabel := p.ylabel.map Text.skeleton
    title := p.title.map Text.skeleton
    legendTitle := p.legendTitle.map Text.skeleton
    xadded := p.xadded.map AddedAxis.skeleton
    yadded := p.yadded.map AddedAxis.skeleton
    style := p.style.map StyleHint.skeleton
    epilog := p.epilog.map Note.skeleton }

def Colorplot.skeleton (c : Colorplot) : Colorplot :=
  { c with
    version := c.version.map Text.skeleton
    xlabel := c.xlabel.map Text.skeleton
    ylabel := c.ylabel.map Text.skeleton
    title := c.title.map Text.skeleton
    style := c.style.map StyleHint.skeleton }

def Cell.skeleton : Cell → Cell
  | plot p => .plot p.skeleton
  | colorplot c => .colorplot c.skeleton

def Multiplot.skeleton (m : Multiplot) : Multiplot :=
  { m with
    version := m.version.map Text.skeleton
    plots := m.plots.map (·.map Cell.skeleton)
    title := m.title.map Text.skeleton
    style := m.style.map StyleHint.skeleton }

/-- **A figure of whose texts** only their being empty is kept. -/
def Figure.skeleton : Figure → Figure
  | plot p => .plot p.skeleton
  | colorplot c => .colorplot c.skeleton
  | multiplot m => .multiplot m.skeleton

/-! ### Texts that are there and not empty -/

theorem Text.skeleton_eq_empty {text : String} : Text.skeleton text = "" ↔ text = "" := by
  unfold Text.skeleton
  split
  next h => simp [h]
  next h => simp [h]

/-- A text that is there and not empty stays so. -/
theorem Text.isSome_filter_skeleton (text : Option String) :
    ((text.map Text.skeleton).filter (· ≠ "")).isSome = (text.filter (· ≠ "")).isSome := by
  cases text with
  | none => rfl
  | some text => by_cases h : text = "" <;> simp [Text.skeleton_eq_empty, h]

theorem Series.isSome_labelText_skeleton (s : Series) :
    s.skeleton.labelText.isSome = s.labelText.isSome :=
  Text.isSome_filter_skeleton s.label

/-! ### Checks -/

/-- The conditions of a series do not concern its label. -/
theorem Series.check_skeleton (location : Location) (s : Series) :
    s.skeleton.check location = s.check location :=
  rfl

theorem Plot.checkSeries_skeleton (location : Location) (p : Plot) :
    p.skeleton.checkSeries location = p.checkSeries location := by
  simp only [checkSeries, skeleton, List.zipIdx_map, List.forM_eq_forM, List.forM_map]
  refine congrArg (forM p.series.zipIdx) (funext fun ⟨s, i⟩ => ?_)
  exact Series.check_skeleton (location ++ .ofSeries i) s

theorem Colorplot.shape_skeleton (location : Location) (c : Colorplot) :
    c.skeleton.shape location = c.shape location :=
  rfl

theorem Colorplot.check_skeleton (location : Location) (c : Colorplot) :
    c.skeleton.check location = c.check location :=
  rfl

namespace Multiplot

/-- The shape of a grid does not depend on what is in its cells. -/
theorem shape_skeleton (m : Multiplot) : m.skeleton.shape = m.shape :=
  shape_eq_of_plots rfl

/-- The cells of the skeleton are the skeletons of the cells. -/
theorem cells_skeleton (m : Multiplot) :
    m.skeleton.cells = m.cells.map (Prod.map Cell.skeleton id) :=
  cells_eq_of_plots rfl

theorem singleCell?_skeleton (m : Multiplot) :
    m.skeleton.singleCell? = m.singleCell?.map Cell.skeleton :=
  singleCell?_eq_of_plots rfl

end Multiplot

end FigureScript
