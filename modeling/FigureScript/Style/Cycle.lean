import FigureScript.Figure.Basic

/-!
# Style cycles

Colours, line styles and markers are served from lists of tokens, over and over.

## Main Definitions

* `Tokens` — a list of tokens, which wraps around in both directions
* `StyleCycle` — the three lists of a figure
* `Cycler` — the place in each list that one plot has reached

## Design Notes

A list comes from the caller, else from the figure, else it is a default; an empty
list counts as absent.  A series without an index of its own takes the next colour or
line style only from a list that somebody supplied; with a default it is left to the
library that draws.  Only tokens that are taken in turn move a counter, never those
that a series asks for by index.
-/

namespace FigureScript

/-- **A list of tokens.** -/
structure Tokens where
  tokens : List String
  /-- Given by the caller or the figure. -/
  supplied : Bool
  deriving DecidableEq

namespace Tokens

/-- The token at an index counted from zero, wrapping around in both directions. -/
def get? (t : Tokens) (index : Int) : Option String :=
  t.tokens[(index % t.tokens.length).toNat]?

/-- The first of two lists that is present and not empty, or else the default. -/
def choose (first second : Option (List String)) (default : List String) : Tokens :=
  let given (list : Option (List String)) := list.filter (!·.isEmpty)
  match (given first).or (given second) with
  | some tokens => ⟨tokens, true⟩
  | none => ⟨default, false⟩

/-- The token of a series that may ask for one by an index counted from one, and the
counter after it. -/
def serve (t : Tokens) (index : Option Int) (counter : Nat) : Option String × Nat :=
  match index with
  | some index => (t.get? (index - 1), counter)
  | none => if t.supplied then (t.get? counter, counter + 1) else (none, counter)

end Tokens

/-- **The style lists of a figure.** -/
structure StyleCycle where
  markers : Tokens
  colors : Tokens
  lines : Tokens
  deriving DecidableEq

namespace StyleCycle

/-- The default colours. -/
def defaultColors : List String :=
  ["#1F77B4", "#FF7F0E", "#2CA02C", "#D62728", "#9467BD", "#8C564B", "#E377C2", "#7F7F7F"]

/-- The default line styles. -/
def defaultLines : List String :=
  ["-", "--", ":", "-."]

/-- The default markers. -/
def defaultMarkers : List String :=
  ["o", "s", "^", "p", "v", "8"]

/-- **The lists that the caller and the figure together decide on**; the caller goes
first, list by list. -/
def resolve (hint : Option StyleHint) (overrides : StyleHint) : StyleCycle :=
  let hint := hint.getD {}
  { markers := .choose overrides.markers hint.markers defaultMarkers
    colors := .choose overrides.colors hint.colors defaultColors
    lines := .choose overrides.lines hint.lines defaultLines }

end StyleCycle

/-- **The place that a plot has reached in each list.** -/
structure Cycler where
  markers : Nat := 0
  colors : Nat := 0
  lines : Nat := 0
  deriving DecidableEq

namespace Cycler

variable (style : StyleCycle) (c : Cycler)

/-- The next marker. -/
def marker : Option String × Cycler :=
  (style.markers.get? c.markers, { c with markers := c.markers + 1 })

/-- The colour of a series that may ask for one by index. -/
def color (index : Option Int) : Option String × Cycler :=
  let (token, colors) := style.colors.serve index c.colors
  (token, { c with colors })

/-- The line style of a series that may ask for one by index. -/
def line (index : Option Int) : Option String × Cycler :=
  let (token, lines) := style.lines.serve index c.lines
  (token, { c with lines })

end Cycler

end FigureScript
