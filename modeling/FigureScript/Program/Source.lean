import FigureScript.Number.Notation
import FigureScript.Program.Statement
import FigureScript.Text.Quoted

/-!
# The source text of a script

Statements as Python code for matplotlib.  Steps on the implicit current axes use
the functions of the module (`plt.xlabel`), steps on axes that have an expression
use their methods (`ax.set_xlabel`).

## Main Definitions

* `Statement.code` — the lines of one statement
* `Line`, `sourceLines` — all lines with their depth of nesting
* `source` — the complete text

## Design Notes

Every text of a figure reaches the script inside a string literal and every
number through one of the two number notations.  A statement gives whole lines
without indentation; the nesting of style scopes is the only source of it.
-/

namespace FigureScript

open Text (Quoted.literal)
open Number (scriptText fixedText)

/-- **A line of a script** and how many style scopes enclose it. -/
structure Line where
  depth : Nat
  text : String
  deriving DecidableEq

/-- The line with its indentation and its line break. -/
def Line.render (line : Line) : String :=
  String.ofList (List.replicate (4 * line.depth) ' ') ++ line.text ++ "\n"

namespace Source

/-- Texts separated by a comma and a blank. -/
def commaSeparated (items : List String) : String :=
  ", ".intercalate items

/-- A function call. -/
def call (function : String) (arguments : List String) : String :=
  function ++ "(" ++ commaSeparated arguments ++ ")"

/-- A list of numbers. -/
def numbers (values : List Float) : String :=
  "[" ++ commaSeparated (values.map scriptText) ++ "]"

/-- A list of lists of numbers. -/
def matrix (rows : List (List Float)) : String :=
  "[" ++ commaSeparated (rows.map numbers) ++ "]"

/-- The distances of error bars, the lower ones first. -/
def errorBounds (bounds : ErrorBounds) : String :=
  "[" ++ numbers bounds.lower ++ ", " ++ numbers bounds.upper ++ "]"

/-- A keyword argument whose value is a text, if there is one. -/
def textArgument (keyword : String) (text : Option String) : List String :=
  (text.map fun text => keyword ++ "=" ++ Quoted.literal text).toList

/-- The presets of a style scope: a text, or a list unless there is exactly one. -/
def presets : List String → String
  | [single] => Quoted.literal single
  | many => "[" ++ commaSeparated (many.map Quoted.literal) ++ "]"

/-- A method that has the same name for the current axes and for any others. -/
def method (axes : Axes) (name : String) : String :=
  axes.expression ++ "." ++ name

/-- The function or method that sets a property. -/
def setter (axes : Axes) (property : String) : String :=
  match axes with
  | .current => "plt." ++ property
  | axes => axes.expression ++ ".set_" ++ property

/-- The attributes of a series. -/
def styleArguments (style : SeriesStyle) : List String :=
  textArgument "label" style.label ++ textArgument "color" style.color ++
    textArgument "linestyle" style.linestyle

/-- The arguments that map values to colours. -/
def normArguments : ColorNorm → List String
  | .auto => []
  | .log none => ["norm=LogNorm()"]
  | .log (some bounds) =>
    ["norm=LogNorm(vmin=" ++ scriptText bounds.first ++ ", vmax=" ++ scriptText bounds.last ++ ")"]
  | .linear bounds => ["vmin=" ++ scriptText bounds.first, "vmax=" ++ scriptText bounds.last]

/-- The coordinates of a field, given only in pairs. -/
def coordinateArguments : Option (List Float) → Option (List Float) → List String
  | some x, some y => [numbers x, numbers y]
  | _, _ => []

/-- The function that draws a kind of field. -/
def fieldFunction : FieldKind → String
  | .mesh => "pcolormesh"
  | .contour => "contour"
  | .filled => "contourf"

/-- The lines that draw a field.  Contours are bound to a name because labels and
the bitmap switch refer to them. -/
def fieldCode (field : FieldDrawing) : List String :=
  let arguments := coordinateArguments field.x field.y ++ [matrix field.z] ++
    (field.levels.map fun levels => "levels=" ++ numbers levels).toList ++
    normArguments field.norm
  let function := method field.axes (fieldFunction field.kind)
  if field.kind.isContour then
    ("cs = " ++ call function arguments) ::
      (if field.rasterized then ["cs.set_rasterized(True)"] else [])
  else
    [call function (arguments ++ if field.rasterized then ["rasterized=True"] else [])]

/-- The lines that create a grid of axes. -/
def gridCode (rows cols : Nat) (xshared yshared : Option Sharing) (scaled : Bool) : List String :=
  let arguments := [toString rows, toString cols] ++
    textArgument "sharex" (xshared.map Sharing.keyword) ++
    textArgument "sharey" (yshared.map Sharing.keyword) ++
    (if scaled then [s!"figsize=({cols} * size_x, {rows} * size_y)"] else [])
  (if scaled then ["size_x, size_y = plt.rcParams.get('figure.figsize')"] else []) ++
    ["fig, axarr = " ++ call "plt.subplots" arguments]

/-- The axes whose coordinates place a title inside a chart. -/
def titleAxes : Axes → String
  | .current => "plt.gca()"
  | axes => axes.expression

/-- The line that sets a title. -/
def titleCode (axes : Axes) (text : String) : TitlePlacement → String
  | .above => call (setter axes "title") [Quoted.literal text]
  | .inside =>
    call (method axes "text") [".5", ".95", Quoted.literal text, "horizontalalignment=\"center\"",
      "transform=" ++ titleAxes axes ++ ".transAxes"]

end Source

open Source in
/-- **The lines of one statement.**  A style scope has none of its own here: its line
and its body are laid out by `sourceLines`. -/
def Statement.code : Statement → List String
  | importName module name => ["from " ++ module ++ " import " ++ name]
  | styleScope _ _ => []
  | createAxes rows cols xshared yshared scaled => gridCode rows cols xshared yshared scaled
  | bindAxes name => [name ++ " = plt.gca()"]
  | createTwin parent adds =>
    [(parent.twin adds).expression ++ " = " ++ call (method parent (Axes.twinMethod adds)) []]
  | drawLine t =>
    [call (method t.axes "plot")
      ([numbers t.x, numbers t.y] ++ (t.marker.map Quoted.literal).toList ++
        styleArguments t.style)]
  | drawErrorBar t xerr yerr =>
    [call (method t.axes "errorbar")
      ([numbers t.x, numbers t.y] ++
        (yerr.map fun bounds => "yerr=" ++ errorBounds bounds).toList ++
        (xerr.map fun bounds => "xerr=" ++ errorBounds bounds).toList ++
        textArgument "fmt" t.marker ++ styleArguments t.style)]
  | drawField field => fieldCode field
  | setLimits axes axis range =>
    [call (setter axes (axis.name ++ "lim")) [fixedText range.first, fixedText range.last]]
  | setLogScale axes axis => [call (setter axes (axis.name ++ "scale")) [Quoted.literal "log"]]
  | setLegend axes loc title =>
    [call (method axes "legend")
      (textArgument "loc" (loc.map LegendLoc.keyword) ++ textArgument "title" title)]
  | setLabel axes axis text =>
    [call (setter axes (axis.name ++ "label")) [Quoted.literal text]]
  | setTitle axes text placement => [titleCode axes text placement]
  | annotate axes a =>
    [call (method axes "text") [fixedText a.x, fixedText a.y, Quoted.literal a.text]]
  | colorbar => ["plt.colorbar()"]
  | contourLabels => ["plt.clabel(cs)"]
  | supTitle text => [call "fig.suptitle" [Quoted.literal text]]
  | tightLayout => ["plt.tight_layout()"]
  | collapseSpacing .y => ["fig.subplots_adjust(hspace=0)"]
  | collapseSpacing .x => ["fig.subplots_adjust(wspace=0)"]
  | setWindowTitle text => [call "plt.gcf().canvas.manager.set_window_title" [Quoted.literal text]]
  | showFigure => ["plt.show()"]
  | saveFigure path => [call "plt.savefig" [Quoted.literal path]]

mutual

/-- The lines of one statement at a depth of nesting.  An empty scope holds `pass`. -/
def statementLines (depth : Nat) : Statement → List Line
  | .styleScope presets body =>
    ⟨depth, "with " ++ Source.call "plt.style.context" [Source.presets presets] ++ ":"⟩ ::
      ((if body.isEmpty then [⟨depth + 1, "pass"⟩] else []) ++ sourceLines (depth + 1) body)
  | statement => statement.code.map fun text => ⟨depth, text⟩

/-- **The lines of a list of statements** at a depth of nesting. -/
def sourceLines (depth : Nat) : List Statement → List Line
  | [] => []
  | statement :: rest => statementLines depth statement ++ sourceLines depth rest

end

/-- What every script starts with. -/
def sourceHeader : String :=
  "#!/usr/bin/env python\nimport matplotlib.pyplot as plt\n"

/-- **The complete text of a script.** -/
def source (statements : List Statement) : String :=
  sourceHeader ++ String.join ((sourceLines 0 statements).map Line.render)

end FigureScript
