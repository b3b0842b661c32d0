import FigureScript.Program.OfPlot

/-!
# Programs of scalar fields

The statements that draw a scalar field.

## Main Definitions

* `edgesToCenters` — the midpoints between edges
* `Colorplot.field` — the drawing of a field
* `Colorplot.program` — its statements, after all checks
-/

namespace FigureScript

/-- **The midpoints** of consecutive edges. -/
def edgesToCenters (edges : List Float) : List Float :=
  List.zipWith (fun a b => (a + b) / 2) edges edges.tail

/-- There is one midpoint less than there are edges. -/
theorem length_edgesToCenters (edges : List Float) :
    (edgesToCenters edges).length = edges.length - 1 := by
  rw [edgesToCenters, List.length_zipWith, List.length_tail]
  omega

/-- The centres of a dimension of `cells` cells whose coordinates may be absent, edges
or centres. -/
def cellCenters (cells : Nat) : Option (List Float) → List Float
  | none => indexCoordinates cells
  | some coordinates =>
    if coordinates.length = cells + 1 then edgesToCenters coordinates else coordinates

/-- There is a centre for each cell, whether there are coordinates or not. -/
theorem length_cellCenters {cells : Nat} {coordinates : Option (List Float)}
    (h : ∀ values ∈ coordinates, values.length = cells ∨ values.length = cells + 1) :
    (cellCenters cells coordinates).length = cells := by
  cases coordinates with
  | none => exact length_indexCoordinates cells
  | some values =>
      rw [cellCenters]
      split
      next hedges => rw [length_edgesToCenters, hedges, Nat.add_sub_cancel]
      next hedges => exact (h values rfl).resolve_right hedges

namespace Colorplot

/-- How the field is drawn. -/
def fieldKind (c : Colorplot) : FieldKind :=
  if !c.contour then .mesh else if c.fillContour then .filled else .contour

/-- How its values become colours.  Bounds of a linear scale count for contours
only. -/
def norm (c : Colorplot) : ColorNorm :=
  if c.zlog then .log c.zrange
  else if c.fieldKind.isContour then (c.zrange.map .linear).getD .auto
  else .auto

/-- Some coordinate is given. -/
def hasCoordinates (c : Colorplot) : Bool :=
  c.x.isSome || c.y.isSome

/-- **The drawing of a field** with `rows` rows and `cols` columns.  One given
coordinate brings the other one with it. -/
def field (c : Colorplot) (axes : Axes) (rows cols : Nat) : FieldDrawing where
  axes := axes
  kind := c.fieldKind
  x := if c.hasCoordinates then some (cellCenters cols c.x) else none
  y := if c.hasCoordinates then some (cellCenters rows c.y) else none
  z := c.z
  norm := c.norm
  levels := c.levels.filter fun _ => c.fieldKind.isContour
  rasterized := true

/-- What explains the values: labels on contour lines, a scale otherwise. -/
def explanation (c : Colorplot) : Statement :=
  match c.fieldKind with
  | .contour => .contourLabels
  | .mesh | .filled => .colorbar

/-- **The statements of a field** with `rows` rows and `cols` columns. -/
def statements (c : Colorplot) (axes : Axes) (rows cols : Nat) : List Statement :=
  (if c.zlog then [.importName "matplotlib.colors" "LogNorm"] else []) ++
    [.drawField (c.field axes rows cols)] ++
    Plot.limits axes .x c.xrange ++ Plot.limits axes .y c.yrange ++
    Plot.logScale axes .x c.xlog ++ Plot.logScale axes .y c.ylog ++
    Plot.axisLabel axes .x c.xlabel ++ Plot.axisLabel axes .y c.ylabel ++
    Plot.titleStatement axes c.title .above ++ [c.explanation]

/-- **The program of a field.** -/
def program (c : Colorplot) (axes : Axes) : Except Error (List Statement) := do
  c.check []
  let (rows, cols) ← c.shape []
  return c.statements axes rows cols

end Colorplot

end FigureScript
