/-!
# Axes

The axes that the statements of a script draw into, and the expressions that
denote them.

## Main Definitions

* `Axis` — one of the two coordinates
* `Axes` — the current axes, a bound name, a cell of a grid, or a twin of these
* `Axes.expression` — how the script denotes them

## Design Notes

The library that runs the script returns a grid without the dimensions of size
one: a single axes for one cell, a list for one row or one column, a list of
lists otherwise.  The expression of a cell follows that rule.  A twin is bound to
a name of its own, made from the expression of its parent by replacing the
opening brackets and dropping the closing ones.
-/

namespace FigureScript

/-- One of the two coordinates of a chart. -/
inductive Axis where
  | x
  | y
  deriving BEq, DecidableEq

/-- The name of a coordinate. -/
def Axis.name : Axis → String
  | x => "x"
  | y => "y"

/-- **The axes that statements draw into.** -/
inductive Axes where
  /-- The implicit current axes. -/
  | current
  /-- Axes bound to a name. -/
  | named (name : String)
  /-- A cell of a grid, counted from zero. -/
  | cell (row col rows cols : Nat)
  /-- Secondary axes over `parent` that add a second axis for one coordinate and
  share the other one. -/
  | twin (parent : Axes) (adds : Axis)
  deriving BEq, DecidableEq, Inhabited

namespace Axes

/-- The method that creates a twin.  It is named for the coordinate that is shared,
which is the other one. -/
def twinMethod : Axis → String
  | .x => "twiny"
  | .y => "twinx"

/-- The expression of a cell in a grid of the given size. -/
def cellExpression (row col rows cols : Nat) : String :=
  if rows = 1 ∧ cols = 1 then "axarr"
  else if rows = 1 then s!"axarr[{col}]"
  else if cols = 1 then s!"axarr[{row}]"
  else s!"axarr[{row}][{col}]"

/-- An expression as part of a name: `[` becomes `_` and `]` is dropped. -/
def flatten (expression : String) : String :=
  String.ofList (expression.toList.filterMap fun c =>
    if c = '[' then some '_' else if c = ']' then none else some c)

/-- **The expression that denotes axes** in a script. -/
def expression : Axes → String
  | current => "plt"
  | named name => name
  | cell row col rows cols => cellExpression row col rows cols
  | twin parent adds => flatten parent.expression ++ "_" ++ twinMethod adds

/-- The axes are the implicit current ones. -/
def isCurrent : Axes → Bool
  | current => true
  | _ => false

end Axes

end FigureScript
