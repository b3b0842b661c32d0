import FigureScript.Figure.Check
import FigureScript.Log

/-!
# Recording series

A series is recorded from columns of numbers: its coordinates and its error bars.
Rows with a number that is not finite are dropped from all columns at once.

## Main Definitions

* `ErrorSpec` — the uncertainty of points, as it is given
* `ErrorColumns` — the columns that are recorded for it
* `finiteRows` — which rows are finite in all columns
* `Series.record` — the recorded series, and what recording it reports
-/

namespace FigureScript

/-- **An uncertainty**, as distances from the points. -/
inductive ErrorSpec where
  /-- The same for every point and both sides. -/
  | symmetric (distance : Float)
  /-- One for each point, the same for both sides. -/
  | perPoint (distances : List Float)
  /-- One for each point and side. -/
  | asymmetric (lower upper : List Float)
  deriving DecidableEq

/-- **The columns that are recorded** for an uncertainty in one direction. -/
inductive ErrorColumns where
  /-- A distance for each point. -/
  | distances (values : List Float)
  /-- The ends of the bar of each point. -/
  | ends (lower upper : List Float)
  deriving DecidableEq

namespace ErrorColumns

/-- The columns as a list. -/
def columns : ErrorColumns → List (List Float)
  | distances values => [values]
  | ends lower upper => [lower, upper]

/-- The same operation on each column. -/
def map (f : List Float → List Float) : ErrorColumns → ErrorColumns
  | distances values => distances (f values)
  | ends lower upper => ends (f lower) (f upper)

/-- The distances, if it is they that are recorded. -/
def distances? : ErrorColumns → Option Values
  | distances values => some (.points values)
  | ends _ _ => none

/-- The lower ends, if ends are recorded. -/
def lower? : ErrorColumns → Option Values
  | distances _ => none
  | ends lower _ => some (.points lower)

/-- The upper ends, if ends are recorded. -/
def upper? : ErrorColumns → Option Values
  | distances _ => none
  | ends _ upper => some (.points upper)

end ErrorColumns

/-- The columns of an uncertainty of points `values`, which must have the length of
the points. -/
def ErrorSpec.columns (location : Location) (values : List Float) :
    ErrorSpec → Except Error ErrorColumns
  | symmetric distance => .ok (.distances (List.replicate values.length distance))
  | perPoint distances => do
    checkColumn "err" distances
    return .distances distances
  | asymmetric lower upper => do
    checkColumn "min" lower
    checkColumn "max" upper
    return .ends (List.zipWith (· - ·) values lower) (List.zipWith (· + ·) values upper)
where
  /-- A column must have a number for each point. -/
  checkColumn (name : String) (column : List Float) : Except Error Unit :=
    require (column.length = values.length) (location ++ [.field name])
      (.wrongCount column.length values.length)

/-- **The rows in which all columns are finite.** -/
def finiteRows : List (List Float) → List Bool
  | [] => []
  | [column] => column.map Number.isFinite
  | column :: rest =>
    List.zipWith (fun value finite => Number.isFinite value && finite) column (finiteRows rest)

/-- The values of the rows that are kept. -/
def keepRows (rows : List Bool) (column : List Float) : List Float :=
  (column.zip rows).filterMap fun (value, kept) => if kept then some value else none

/-- An entry about something that was recorded otherwise than it was given. -/
def recorderWarning (message : String) : LogEntry :=
  ⟨.warn, "vfd::builder", message⟩

/-- The series of some columns, as far as their rows are kept. -/
def Series.ofRows (rows : List Bool) (x y : List Float) (yerr xerr : Option ErrorColumns)
    (label : Option String) : Series :=
  let yerr := yerr.map (·.map (keepRows rows))
  let xerr := xerr.map (·.map (keepRows rows))
  { x := some (keepRows rows x)
    y := keepRows rows y
    label
    xerr := xerr.bind (·.distances?)
    yerr := yerr.bind (·.distances?)
    xmin := xerr.bind (·.lower?)
    xmax := xerr.bind (·.upper?)
    ymin := yerr.bind (·.lower?)
    ymax := yerr.bind (·.upper?) }

/-- **Records a series** from columns of one length.  Without a finite row nothing is
recorded. -/
def Series.record (location : Location) (x y : List Float) (yerr xerr : Option ErrorColumns)
    (label : Option String) : Option Series × Log :=
  let errors := yerr.toList ++ xerr.toList
  let rows := finiteRows (x :: y :: errors.flatMap ErrorColumns.columns)
  let dropped := rows.count false
  let warnings :=
    if 0 < dropped then
      [recorderWarning (location.text ++ s!": dropped {dropped} non-finite point(s)")]
    else []
  if rows.any id then
    (some (.ofRows rows x y yerr xerr label), warnings)
  else
    (none, warnings ++
      [recorderWarning (location.text ++ ": no finite point left, series not recorded")])

end FigureScript
