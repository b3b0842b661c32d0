import FigureScript.Log
import FigureScript.Program.OfColorplot
import FigureScript.Program.OfMultiplot
import FigureScript.Program.Source

/-!
# Programs of figures

A complete script: the statements of a figure, what is done with the picture, and the
style presets around it all.

## Main Definitions

* `ProgramOptions` — what the caller decides
* `Figure.drawn` — a figure in which a grid of one cell is that cell
* `Figure.program` — the statements of the complete script
* `Figure.script` — its text
* `Figure.programLog` — what making it reports
-/

namespace FigureScript

/-- **What the caller of a compilation decides.** -/
structure ProgramOptions where
  /-- Style presets around the whole figure. -/
  presets : List String := []
  /-- File formats to save; without any the figure is shown. -/
  formats : List String := []
  /-- Fit the layout to the figure. -/
  tightLayout : Bool := false
  /-- Enlarge the picture with its grid. -/
  scaleGrid : Bool := false
  /-- Style lists that go before those of the figure. -/
  overrides : StyleHint := {}
  deriving DecidableEq

namespace Figure

/-- **The figure that is drawn**: a grid of one cell is that cell. -/
def drawn (figure : Figure) : Figure :=
  match figure with
  | multiplot m => (m.singleCell?.map Cell.toFigure).getD figure
  | figure => figure

/-- The figure is a grid. -/
def isGrid : Figure → Bool
  | multiplot _ => true
  | _ => false

/-- The statements that draw a figure, with `style` in force. -/
def drawingProgram (figure : Figure) (style : StyleCycle) (options : ProgramOptions) :
    Except Error (List Statement) :=
  match figure with
  | plot p => p.program .current style
  | colorplot c => c.program .current
  | multiplot m => m.program style options.scaleGrid options.tightLayout

/-- What is done with the finished picture: it is saved in each format, or shown. -/
def output (name : String) (formats : List String) : List Statement :=
  if formats.isEmpty then
    [.setWindowTitle name, .showFigure]
  else
    formats.map fun format => .saveFigure (name ++ "." ++ format)

/-- The statements of a script, without the style presets. -/
def body (figure : Figure) (name : String) (options : ProgramOptions) :
    Except Error (List Statement) := do
  let drawn := figure.drawn
  let drawing ← drawn.drawingProgram (.resolve drawn.style options.overrides) options
  return drawing ++
    (if options.tightLayout && !drawn.isGrid then [.tightLayout] else []) ++
    output name options.formats

/-- Statements inside style presets, if there are any. -/
def inPresets (presets : List String) (body : List Statement) : List Statement :=
  if presets.isEmpty then body else [.styleScope presets body]

/-- **The program of a figure** under a name. -/
def program (figure : Figure) (name : String) (options : ProgramOptions) :
    Except Error (List Statement) :=
  (figure.body name options).map (inPresets options.presets)

/-- **The script of a figure** under a name. -/
def script (figure : Figure) (name : String) (options : ProgramOptions) : Except Error String :=
  (figure.program name options).map source

/-- The entries about style suggestions that do not count. -/
def styleWarnings : Figure → Log
  | multiplot m => m.ignoredStyles.map fun (i, j) =>
    ⟨.warn, "vfd::compile::multiplot",
      s!"style of plots[{i}][{j}] ignored; only the multiplot style applies"⟩
  | _ => []

/-- **What making the program of a figure reports.** -/
def programLog (figure : Figure) (name : String) (options : ProgramOptions) : Log :=
  let done := match figure.body name options with
    | .ok body =>
      [⟨.debug, "vfd::compile",
        "compiled " ++ figure.kind ++ " '" ++ name ++ s!"' into {body.length} statements"⟩]
    | .error _ => []
  figure.drawn.styleWarnings ++ done

end Figure

end FigureScript
