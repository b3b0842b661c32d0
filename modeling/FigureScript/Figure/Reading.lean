import FigureScript.Figure.Check
import FigureScript.Json.Writer

/-!
# Reading figures

Figures from JSON values and from texts.

## Main Definitions

* `Series.fields`, `Plot.fields`, `Colorplot.fields`, `Multiplot.fields` — the fields of
  each part, by which it is read
* `Figure.ofJson` — a figure from a value, checked
* `Figure.ofText` — a figure from a text, checked
* `Figure.ofTextUnchecked`, `Cell.ofText` — straight from a text, without the checks

## Design Notes

Reading with checks goes through the canonical form of the text's value, so the
fields of each object are visited in the order of their names, and looks at the kind
of the figure before anything else.  Reading without checks visits the fields in the
order of the text.
-/

namespace FigureScript

open Json (Value Record Decoder Tagged Failure)
open Json.Record (required optional defaulted)

/-! ### Parts -/

/-- Two numbers as a range. -/
def Range.decoder : Decoder Range :=
  .map (fun (first, last) => ⟨first, last⟩) (.pair .float)

/-- A number, or a list of numbers. -/
def Values.decoder : Decoder Values := fun origin value =>
  match value with
  | .number n => .ok (.scalar n.toFloat)
  | value =>
    match Decoder.list Decoder.float origin value with
    | .ok values => .ok (.points values)
    | .error _ => .error (.noVariant "Values")

/-- A text, or a number that is kept in its spelling. -/
def labelDecoder : Decoder String := fun _ value =>
  match value with
  | .string text => .ok text
  | .number n => .ok n.text
  | _ => .error (.noVariant "Label")

/-- A list of numbers. -/
def floatList : Decoder (List Float) :=
  .list .float

/-- A list of texts. -/
def stringList : Decoder (List String) :=
  .list .string

/-- The fields of a series. -/
def Series.fields : Record Series :=
  pure Series.mk
    <*> optional "x" floatList
    <*> required "y" floatList
    <*> optional "label" labelDecoder
    <*> optional "color" .int64
    <*> optional "line" .int64
    <*> optional "joined" .bool
    <*> optional "xerr" Values.decoder
    <*> optional "yerr" Values.decoder
    <*> optional "xmin" Values.decoder
    <*> optional "xmax" Values.decoder
    <*> optional "ymin" Values.decoder
    <*> optional "ymax" Values.decoder
    <*> optional "xadded" .nat32
    <*> optional "yadded" .nat32

/-- The fields of a secondary axis. -/
def AddedAxis.fields : Record AddedAxis :=
  pure AddedAxis.mk
    <*> optional "range" Range.decoder
    <*> defaulted "log" false .bool
    <*> optional "label" .string
    <*> optional "legendlabel" .string

/-- The fields of a note. -/
def Note.fields : Record Note :=
  pure Note.mk
    <*> required "x" .float
    <*> required "y" .float
    <*> required "text" .string

/-- A trailing note; a text is the only kind there is. -/
def Note.tagged : Tagged Note where
  type := "EpilogDirective"
  cases := [("text", Note.fields.decoder "struct variant EpilogDirective::Text")]

/-- The fields of style suggestions. -/
def StyleHint.fields : Record StyleHint :=
  pure StyleHint.mk
    <*> optional "lines" stringList
    <*> optional "colors" stringList
    <*> optional "markers" stringList

/-- Style suggestions. -/
def StyleHint.decoder : Decoder StyleHint :=
  StyleHint.fields.decoder "struct StyleHint"

/-- The fields of a chart of series. -/
def Plot.fields : Record Plot :=
  pure Plot.mk
    <*> optional "version" .string
    <*> required "series" (.list (Series.fields.decoder "struct Series"))
    <*> optional "xlabel" .string
    <*> optional "ylabel" .string
    <*> optional "title" .string
    <*> optional "legendtitle" .string
    <*> optional "xrange" Range.decoder
    <*> optional "yrange" Range.decoder
    <*> defaulted "xlog" false .bool
    <*> defaulted "ylog" false .bool
    <*> defaulted "xadded" [] (.list (AddedAxis.fields.decoder "struct AddedAxis"))
    <*> defaulted "yadded" [] (.list (AddedAxis.fields.decoder "struct AddedAxis"))
    <*> optional "style" StyleHint.decoder
    <*> defaulted "epilog" [] (.list Note.tagged.decoder)

/-- A chart of series. -/
def Plot.decoder : Decoder Plot :=
  Plot.fields.decoder "struct Plot"

/-- The fields of a scalar field. -/
def Colorplot.fields : Record Colorplot :=
  pure Colorplot.mk
    <*> optional "version" .string
    <*> required "z" (.list floatList)
    <*> optional "x" floatList
    <*> optional "y" floatList
    <*> defaulted "contour" false .bool
    <*> defaulted "fillcontour" false .bool
    <*> defaulted "zlog" false .bool
    <*> optional "zrange" Range.decoder
    <*> optional "levels" floatList
    <*> optional "xrange" Range.decoder
    <*> optional "yrange" Range.decoder
    <*> defaulted "xlog" false .bool
    <*> defaulted "ylog" false .bool
    <*> optional "xlabel" .string
    <*> optional "ylabel" .string
    <*> optional "title" .string
    <*> optional "style" StyleHint.decoder

/-- A scalar field. -/
def Colorplot.decoder : Decoder Colorplot :=
  Colorplot.fields.decoder "struct Colorplot"

/-- The kinds of cells. -/
def Cell.tagged : Tagged Cell where
  type := "Cell"
  cases := [("plot", .map .plot Plot.decoder), ("colorplot", .map .colorplot Colorplot.decoder)]

/-- A sharing policy by its keyword. -/
def Sharing.decoder : Decoder Sharing :=
  .keyword [("all", .all), ("none", .none), ("row", .row), ("col", .col)]

/-- For each direction whether cells are joined. -/
def Joined.decoder : Decoder Joined :=
  .map (fun (horizontal, vertical) => ⟨horizontal, vertical⟩) (.pair .bool)

/-- The fields of a grid. -/
def Multiplot.fields : Record Multiplot :=
  pure Multiplot.mk
    <*> optional "version" .string
    <*> required "plots" (.list (.list Cell.tagged.decoder))
    <*> optional "title" .string
    <*> optional "xshared" Sharing.decoder
    <*> optional "yshared" Sharing.decoder
    <*> optional "joined" Joined.decoder
    <*> optional "style" StyleHint.decoder

/-- A grid. -/
def Multiplot.decoder : Decoder Multiplot :=
  Multiplot.fields.decoder "struct Multiplot"

/-! ### Figures -/

/-- The kinds of figures. -/
def Figure.tagged : Tagged Figure where
  type := "Description"
  cases := [("plot", .map .plot Plot.decoder), ("colorplot", .map .colorplot Colorplot.decoder),
    ("multiplot", .map .multiplot Multiplot.decoder)]

namespace Figure

/-- The figure that a value describes, before it is checked.  The kind is looked at
first. -/
def decode (value : Value) : Except Error Figure :=
  match value with
  | .object entries =>
    match Json.Entries.get? entries "type" with
    | none => .error (.unknownKind "missing `type` field")
    | some (.string kind) =>
      match tagged.cases.find? (·.1 = kind) with
      | none => .error (.unknownKind kind)
      | some (_, decoder) =>
        (decoder .direct value).mapError fun e => .schema (.ofField kind) (.misfit e)
    | some other => .error (.unknownKind (String.ofList other.compact))
  | _ => .error (.schema (.ofField "description") .notObject)

/-- **The figure that a value describes**, checked.  The value is canonical. -/
def ofJson (value : Value) : Except Error Figure := do
  let figure ← decode value
  figure.check
  return figure

/-- **The figure that a text describes**, checked. -/
def ofText (text : String) : Except Error Figure :=
  match Json.parse text.toList with
  | .error fault => .error (.json (fault.toFailure text.toList))
  | .ok value => ofJson value.canonical

/-- The figure that a text describes, without the checks. -/
def ofTextUnchecked (text : String) : Except Error Figure :=
  (tagged.parse text.toList).mapError .json

end Figure

/-- The cell that a text describes, without the checks. -/
def Cell.ofText (text : String) : Except Error Cell :=
  (tagged.parse text.toList).mapError .json

end FigureScript
