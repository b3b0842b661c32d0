import FigureScript.Program.Statement

/-!
# Error bars

The distances that error bars reach below and above their points, from the fields of
a series.

## Main Definitions

* `barDistances` — the distances on one side
* `Series.xBounds`, `Series.yBounds` — both sides, if the series has such a bar

## Design Notes

A limit says where the bar ends and goes before a symmetric uncertainty.  A list of
limits is compared with the points; a single limit is taken as an offset to them.
-/

namespace FigureScript

/-- A side of an error bar. -/
inductive Side where
  | lower
  | upper
  deriving DecidableEq

/-- **The distances of the bars on one side** of the points `values`.  Without a limit
and an uncertainty they are zero. -/
def barDistances (side : Side) (values : List Float) (limit error : Option Values) :
    List Float :=
  match limit, error with
  | some (.points bounds), _ =>
    match side with
    | .lower => List.zipWith (fun v bound => v - bound) values bounds
    | .upper => List.zipWith (fun v bound => bound - v) values bounds
  | some (.scalar bound), _ =>
    match side with
    | .lower => values.map (· - bound)
    | .upper => values.map (· + bound)
  | none, some (.scalar error) => List.replicate values.length error
  | none, some (.points errors) => errors
  | none, none => List.replicate values.length 0

namespace Series

/-- The horizontal error bars, if any part of them is given. -/
def xBounds (s : Series) : Option ErrorBounds :=
  if s.hasXError then
    some ⟨barDistances .lower s.xValues s.xmin s.xerr, barDistances .upper s.xValues s.xmax s.xerr⟩
  else
    none

/-- The vertical error bars, if any part of them is given. -/
def yBounds (s : Series) : Option ErrorBounds :=
  if s.hasYError then
    some ⟨barDistances .lower s.y s.ymin s.yerr, barDistances .upper s.y s.ymax s.yerr⟩
  else
    none

theorem isSome_xBounds (s : Series) : s.xBounds.isSome = s.hasXError := by
  unfold xBounds
  cases s.hasXError <;> rfl

theorem isSome_yBounds (s : Series) : s.yBounds.isSome = s.hasYError := by
  unfold yBounds
  cases s.hasYError <;> rfl

end Series

end FigureScript
