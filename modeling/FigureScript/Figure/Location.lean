/-!
# Locations

Where in a figure something stands: a path of field names and indices, such as
`plots[0][1].series[2].x`.
-/

namespace FigureScript

/-- One step into a figure. -/
inductive Step where
  | field (name : String)
  | index (i : Nat)
  deriving DecidableEq

/-- **A place in a figure**, step by step from the outside. -/
abbrev Location := List Step

namespace Location

/-- The steps behind the first one: a field follows a point, an index stands in
brackets. -/
def tailText : Location → String
  | [] => ""
  | .field name :: rest => "." ++ name ++ tailText rest
  | .index i :: rest => s!"[{i}]" ++ tailText rest

/-- The text of a location. -/
def text : Location → String
  | [] => ""
  | .field name :: rest => name ++ tailText rest
  | .index i :: rest => s!"[{i}]" ++ tailText rest

/-- A single field. -/
def ofField (name : String) : Location :=
  [.field name]

/-- A cell of the grid of a multiplot. -/
def ofCell (row col : Nat) : Location :=
  [.field "plots", .index row, .index col]

/-- A series of a plot. -/
def ofSeries (i : Nat) : Location :=
  [.field "series", .index i]

end Location

end FigureScript
