import FigureScript.Figure.Reading
import FigureScript.Proofs.Json.Noise
import Mathlib.Logic.Relation

/-!
# Noise in descriptions

A figure does not depend on what its description holds besides the parts of the figure.  The
records of a description are its own object, those of its cells, and those of series, secondary
axes, trailing notes and style suggestions.  Any of them may have other entries, and may have
`null` for each optional part that it lacks.

## Main Definitions

* `Series.slots`, `Plot.slots`, `Colorplot.slots`, `Multiplot.slots` — the names of the fields of
  each part, and which of them may be `null`
* `Figure.shape` — where the records of a description stand

## Main Results

* `Series.tolerates`, `Plot.tolerates`, `Colorplot.tolerates`, `Multiplot.tolerates` — each part
  is read without looking at noise in it
* `Figure.ofJson_of_noise` — and so is a figure, with any number of changes at any places

## Design Notes

Optional parts may be `null`.  Switches and lists with a default may be missing too, but they are
not optional, and their `null` is refused.  Keywords, ranges and numbers hold no records.
-/

namespace FigureScript

open Json (Value Decoder Record Slot Shape)

/-! ### The fields of each part -/

/-- An optional part without records. -/
def optionSlot (name : String) : Slot Shape :=
  ⟨name, true, .plain⟩

/-- A part without records that is not optional. -/
def plainSlot (name : String) : Slot Shape :=
  ⟨name, false, .plain⟩

def Series.slots : List (Slot Shape) :=
  [optionSlot "x", plainSlot "y", optionSlot "label", optionSlot "color", optionSlot "line",
    optionSlot "joined", optionSlot "xerr", optionSlot "yerr", optionSlot "xmin",
    optionSlot "xmax", optionSlot "ymin", optionSlot "ymax", optionSlot "xadded",
    optionSlot "yadded"]

def AddedAxis.slots : List (Slot Shape) :=
  [optionSlot "range", plainSlot "log", optionSlot "label", optionSlot "legendlabel"]

def Note.slots : List (Slot Shape) :=
  [plainSlot "x", plainSlot "y", plainSlot "text"]

def StyleHint.slots : List (Slot Shape) :=
  [optionSlot "lines", optionSlot "colors", optionSlot "markers"]

/-- The suggestions of a style, which are optional. -/
def styleSlot : Slot Shape :=
  ⟨"style", true, .record StyleHint.slots⟩

def Plot.slots : List (Slot Shape) :=
  [optionSlot "version", ⟨"series", false, .list (.record Series.slots)⟩, optionSlot "xlabel",
    optionSlot "ylabel", optionSlot "title", optionSlot "legendtitle", optionSlot "xrange",
    optionSlot "yrange", plainSlot "xlog", plainSlot "ylog",
    ⟨"xadded", false, .list (.record AddedAxis.slots)⟩,
    ⟨"yadded", false, .list (.record AddedAxis.slots)⟩, styleSlot,
    ⟨"epilog", false, .list (.choice [("text", Note.slots)])⟩]

def Colorplot.slots : List (Slot Shape) :=
  [optionSlot "version", plainSlot "z", optionSlot "x", optionSlot "y", plainSlot "contour",
    plainSlot "fillcontour", plainSlot "zlog", optionSlot "zrange", optionSlot "levels",
    optionSlot "xrange", optionSlot "yrange", plainSlot "xlog", plainSlot "ylog",
    optionSlot "xlabel", optionSlot "ylabel", optionSlot "title", styleSlot]

/-- The records of a cell, by its kind. -/
def Cell.shape : Shape :=
  .choice [("plot", Plot.slots), ("colorplot", Colorplot.slots)]

def Multiplot.slots : List (Slot Shape) :=
  [optionSlot "version", ⟨"plots", false, .list (.list Cell.shape)⟩, optionSlot "title",
    optionSlot "xshared", optionSlot "yshared", optionSlot "joined", styleSlot]

/-- **The records of a description**, by its kind. -/
def Figure.shape : Shape :=
  .choice [("plot", Plot.slots), ("colorplot", Colorplot.slots), ("multiplot", Multiplot.slots)]

/-! ### Parts -/

theorem Series.tolerates : Series.fields.Tolerates Series.slots :=
  Record.Tolerates.pure Series.mk
    |>.seq (.optional (.plain floatList) "x")
    |>.seq (.required (.plain floatList) "y")
    |>.seq (.optional (.plain labelDecoder) "label")
    |>.seq (.optional (.plain .int64) "color")
    |>.seq (.optional (.plain .int64) "line")
    |>.seq (.optional (.plain .bool) "joined")
    |>.seq (.optional (.plain Values.decoder) "xerr")
    |>.seq (.optional (.plain Values.decoder) "yerr")
    |>.seq (.optional (.plain Values.decoder) "xmin")
    |>.seq (.optional (.plain Values.decoder) "xmax")
    |>.seq (.optional (.plain Values.decoder) "ymin")
    |>.seq (.optional (.plain Values.decoder) "ymax")
    |>.seq (.optional (.plain .nat32) "xadded")
    |>.seq (.optional (.plain .nat32) "yadded")

theorem AddedAxis.tolerates : AddedAxis.fields.Tolerates AddedAxis.slots :=
  Record.Tolerates.pure AddedAxis.mk
    |>.seq (.optional (.plain Range.decoder) "range")
    |>.seq (.defaulted (.plain .bool) "log" false)
    |>.seq (.optional (.plain .string) "label")
    |>.seq (.optional (.plain .string) "legendlabel")

theorem Note.tolerates : Note.fields.Tolerates Note.slots :=
  Record.Tolerates.pure Note.mk
    |>.seq (.required (.plain .float) "x")
    |>.seq (.required (.plain .float) "y")
    |>.seq (.required (.plain .string) "text")

theorem StyleHint.tolerates : StyleHint.fields.Tolerates StyleHint.slots :=
  Record.Tolerates.pure StyleHint.mk
    |>.seq (.optional (.plain stringList) "lines")
    |>.seq (.optional (.plain stringList) "colors")
    |>.seq (.optional (.plain stringList) "markers")

theorem Note.tagged_tolerates : Note.tagged.decoder.Tolerates (.choice [("text", Note.slots)]) :=
  Json.Tagged.tolerates (.cons ⟨rfl, Note.tolerates.decoder (by decide) _, by decide⟩ .nil)

theorem StyleHint.decoder_tolerates : StyleHint.decoder.Tolerates (.record StyleHint.slots) :=
  StyleHint.tolerates.decoder (by decide) _

/-- Secondary axes, in either direction. -/
theorem AddedAxis.list_tolerates :
    (Decoder.list (AddedAxis.fields.decoder "struct AddedAxis")).Tolerates
      (.list (.record AddedAxis.slots)) :=
  .list (AddedAxis.tolerates.decoder (by decide) _)

theorem Plot.tolerates : Plot.fields.Tolerates Plot.slots :=
  Record.Tolerates.pure Plot.mk
    |>.seq (.optional (.plain .string) "version")
    |>.seq (.required (.list (Series.tolerates.decoder (by decide) _)) "series")
    |>.seq (.optional (.plain .string) "xlabel")
    |>.seq (.optional (.plain .string) "ylabel")
    |>.seq (.optional (.plain .string) "title")
    |>.seq (.optional (.plain .string) "legendtitle")
    |>.seq (.optional (.plain Range.decoder) "xrange")
    |>.seq (.optional (.plain Range.decoder) "yrange")
    |>.seq (.defaulted (.plain .bool) "xlog" false)
    |>.seq (.defaulted (.plain .bool) "ylog" false)
    |>.seq (.defaulted AddedAxis.list_tolerates "xadded" [])
    |>.seq (.defaulted AddedAxis.list_tolerates "yadded" [])
    |>.seq (.optional StyleHint.decoder_tolerates "style")
    |>.seq (.defaulted (.list Note.tagged_tolerates) "epilog" [])

theorem Colorplot.tolerates : Colorplot.fields.Tolerates Colorplot.slots :=
  Record.Tolerates.pure Colorplot.mk
    |>.seq (.optional (.plain .string) "version")
    |>.seq (.required (.plain (.list floatList)) "z")
    |>.seq (.optional (.plain floatList) "x")
    |>.seq (.optional (.plain floatList) "y")
    |>.seq (.defaulted (.plain .bool) "contour" false)
    |>.seq (.defaulted (.plain .bool) "fillcontour" false)
    |>.seq (.defaulted (.plain .bool) "zlog" false)
    |>.seq (.optional (.plain Range.decoder) "zrange")
    |>.seq (.optional (.plain floatList) "levels")
    |>.seq (.optional (.plain Range.decoder) "xrange")
    |>.seq (.optional (.plain Range.decoder) "yrange")
    |>.seq (.defaulted (.plain .bool) "xlog" false)
    |>.seq (.defaulted (.plain .bool) "ylog" false)
    |>.seq (.optional (.plain .string) "xlabel")
    |>.seq (.optional (.plain .string) "ylabel")
    |>.seq (.optional (.plain .string) "title")
    |>.seq (.optional StyleHint.decoder_tolerates "style")

theorem Plot.decoder_tolerates : Plot.decoder.Tolerates (.record Plot.slots) :=
  Plot.tolerates.decoder (by decide) _

theorem Colorplot.decoder_tolerates : Colorplot.decoder.Tolerates (.record Colorplot.slots) :=
  Colorplot.tolerates.decoder (by decide) _

/-- **A cell tolerates noise** in its own object and in its parts. -/
theorem Cell.tagged_tolerates : Cell.tagged.decoder.Tolerates Cell.shape :=
  Json.Tagged.tolerates
    (.cons ⟨rfl, Plot.decoder_tolerates.map _, by decide⟩
      (.cons ⟨rfl, Colorplot.decoder_tolerates.map _, by decide⟩ .nil))

theorem Multiplot.tolerates : Multiplot.fields.Tolerates Multiplot.slots :=
  Record.Tolerates.pure Multiplot.mk
    |>.seq (.optional (.plain .string) "version")
    |>.seq (.required (.list (.list Cell.tagged_tolerates)) "plots")
    |>.seq (.optional (.plain .string) "title")
    |>.seq (.optional (.plain Sharing.decoder) "xshared")
    |>.seq (.optional (.plain Sharing.decoder) "yshared")
    |>.seq (.optional (.plain Joined.decoder) "joined")
    |>.seq (.optional StyleHint.decoder_tolerates "style")

/-! ### Figures -/

namespace Figure

/-- Each kind of figure tolerates the noise of its record. -/
theorem cases_tolerate : List.Forall₂ Json.Tagged.CaseTolerates tagged.cases
    [("plot", Plot.slots), ("colorplot", Colorplot.slots), ("multiplot", Multiplot.slots)] :=
  .cons ⟨rfl, Plot.decoder_tolerates.map _, by decide⟩
    (.cons ⟨rfl, Colorplot.decoder_tolerates.map _, by decide⟩
      (.cons ⟨rfl, Decoder.Tolerates.map (Multiplot.tolerates.decoder (by decide) _) _, by decide⟩
        .nil))

/-- **A value is decoded** as an object, by the case that its first tag names. -/
theorem decode_eq_ok_iff {value : Value} {figure : Figure} :
    decode value = .ok figure ↔ ∃ (entries : Json.Entries) (kind : String)
      (found : String × Decoder Figure), value = .object entries ∧
        Json.Entries.get? entries "type" = some (.string kind) ∧
        tagged.cases.find? (·.1 = kind) = some found ∧ found.2 .direct value = .ok figure := by
  constructor
  · intro h
    cases value with
    | object entries =>
        unfold decode at h
        cases htag : Json.Entries.get? entries "type" with
        | none => simp [htag] at h
        | some tag =>
            simp only [htag] at h
            cases tag with
            | string kind =>
                cases hfound : tagged.cases.find? (·.1 = kind) with
                | none => simp [hfound] at h
                | some found =>
                    simp only [hfound] at h
                    exact ⟨entries, kind, found, rfl, htag, hfound, Outcome.mapError_eq_ok.mp h⟩
            | null => cases h
            | bool b => cases h
            | number n => cases h
            | array items => cases h
            | object fields => cases h
    | array items => cases h
    | null => cases h
    | bool b => cases h
    | number n => cases h
    | string s => cases h
  · rintro ⟨entries, kind, found, rfl, htag, hfound, hread⟩
    unfold decode
    simp only [htag, hfound]
    exact Outcome.mapError_eq_ok.mpr hread

/-- **What a value is decoded as** does not change with noise. -/
theorem decode_of_noise {value value' : Value} {figure : Figure} (h : shape.Noise value value')
    (hfigure : decode value = .ok figure) : decode value' = .ok figure := by
  obtain ⟨entries, kind, found, rfl, hkind, hfound, hread⟩ := decode_eq_ok_iff.mp hfigure
  cases h with
  | @tagged _ slots tag _ _ htag hcase hrecord =>
      cases Option.some.inj (hkind.symm.trans htag)
      obtain ⟨case, hlisted, rfl⟩ := Option.map_eq_some_iff.mp hcase
      have hboth := Json.Tagged.CaseTolerates.of_find? cases_tolerate hfound hlisted
      obtain ⟨entries', rfl, hsame, hentries, -⟩ := hrecord.of_tagged_object hboth.name_ne
      have hkind' : Json.Entries.get? entries' "type" = some (.string kind) := by
        rw [Json.Entries.get?, ← List.head?_filter, hsame, List.head?_filter]
        exact hkind
      exact decode_eq_ok_iff.mpr
        ⟨entries', kind, found, rfl, hkind', hfound, hboth.tolerates hentries hread⟩

/-- **A figure does not depend on noise in its description.**  Whatever entries are added to the
records of a description that are none of their fields, and whichever of the optional parts that
they lack become `null`, the description is accepted as before, as the same figure. -/
theorem ofJson_of_noise {value value' : Value} {figure : Figure}
    (h : Relation.ReflTransGen shape.Noise value value') (hfigure : ofJson value = .ok figure) :
    ofJson value' = .ok figure := by
  induction h with
  | refl => exact hfigure
  | tail hchanges hlast ih =>
      obtain ⟨figure', hdecode, hcheck⟩ := Outcome.bind_eq_ok.mp ih
      exact Outcome.bind_eq_ok.mpr ⟨figure', decode_of_noise hlast hdecode, hcheck⟩

/-- A chart with a note, with more entries in its series and in the note. -/
def describedCell (series note : Json.Entries) : Value :=
  .object
    [("epilog", .array [.object (note ++ [("text", .string "peak"), ("type", .string "text"),
        ("x", .float 0.5), ("y", .float 1.5)])]),
      ("series", .array [.object (series ++ [("y", .floats [1.5])])]), ("type", .string "plot")]

/-- A grid of one cell, with more entries in its own object. -/
def describedGrid (grid : Json.Entries) (cell : Value) : Value :=
  .object (grid ++ [("plots", .array [.array [cell]]), ("type", .string "multiplot")])

theorem ofJson_of_noise_describedGrid :
    let figure := Figure.multiplot
      { plots := [[.plot { series := [{ y := [1.5] }], epilog := [⟨0.5, 1.5, "peak"⟩] }]] }
    let plain := describedGrid [] (describedCell [] [])
    let noisy := describedGrid [("joined", .null)]
      (describedCell [("label", .null)] [("font", .object [("size", .null)])])
    Relation.ReflTransGen shape.Noise plain noisy ∧ ofJson plain = .ok figure ∧
      ofJson noisy = .ok figure := by
  intro figure plain noisy
  have hgrid : shape.Noise plain (describedGrid [("joined", .null)] (describedCell [] [])) :=
    .tagged rfl rfl (@Shape.Noise.null _ (optionSlot "joined") [] _ (by simp [Multiplot.slots])
      rfl (by simp [optionSlot]))
  -- a change of the cell is one of the grid
  have hinside {cell cell' : Value} (h : Cell.shape.Noise cell cell') :
      shape.Noise (describedGrid [("joined", .null)] cell)
        (describedGrid [("joined", .null)] cell') :=
    .tagged rfl rfl (@Shape.Noise.entry _ ⟨"plots", false, .list (.list Cell.shape)⟩
      [("joined", .null)] _ _ _ (by simp [Multiplot.slots])
      (@Shape.Noise.item _ [] _ _ _ (@Shape.Noise.item _ [] _ _ _ h)))
  have hseries : Cell.shape.Noise (describedCell [] []) (describedCell [("label", .null)] []) :=
    .tagged rfl rfl (@Shape.Noise.entry _ ⟨"series", false, .list (.record Series.slots)⟩
      [("epilog", _)] _ _ _ (by simp [Plot.slots]) (@Shape.Noise.item _ [] _ _ _
        (@Shape.Noise.null _ (optionSlot "label") [] _ (by simp [Series.slots]) rfl
          (by simp [optionSlot]))))
  have hnote : Cell.shape.Noise (describedCell [("label", .null)] [])
      (describedCell [("label", .null)] [("font", .object [("size", .null)])]) :=
    .tagged rfl rfl (@Shape.Noise.entry _ ⟨"epilog", false, .list (.choice [("text", Note.slots)])⟩
      [] _ _ _ (by simp [Plot.slots]) (@Shape.Noise.item _ [] _ _ _
        (.tagged rfl rfl (@Shape.Noise.unknown _ [] _ "font" _ (by decide)))))
  have hnoise := ((Relation.ReflTransGen.single hgrid).tail (hinside hseries)).tail (hinside hnote)
  have hplain : ofJson plain = .ok figure := rfl
  exact ⟨hnoise, hplain, ofJson_of_noise hnoise hplain⟩

end Figure

end FigureScript
