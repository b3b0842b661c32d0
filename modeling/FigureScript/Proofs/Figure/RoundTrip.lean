import FigureScript.Proofs.Figure.Accepted
import FigureScript.Proofs.Figure.Parts

/-!
# Figures read back

A figure that passes its checks is read back from its own text, in both layouts.

## Main Definitions

* `Figure.numbers` — the floating point numbers of a figure
* `Figure.InWordRange` — the indices of a figure fit the words of their types

## Main Results

* `Plot.ofEntries_eq`, `Colorplot.ofEntries_eq`, `Multiplot.ofEntries_eq` — reading undoes
  writing for each kind of figure
* `Figure.storable` — a figure is written in a form that is read without change
* `Figure.ofText_toText` — figures are read back from their texts

## Design Notes

A chart is read in two ways.  On its own its tag is skipped as an unknown field; in a cell
the tag is taken out first.  So the lemmas about its fields ask only for what is held
under the other names.
-/

namespace FigureScript

open Json (Value Record Decoder Tagged Entries Fields Storable Inverts)
open Json.Record (seq_eq_ok required_eq_ok optional_eq_ok flag_eq_ok nonempty_eq_ok)

def Plot.numbers (p : Plot) : List Float :=
  p.series.flatMap Series.numbers ++ p.xrange.toList.flatMap Range.numbers ++
    p.yrange.toList.flatMap Range.numbers ++ p.xadded.flatMap AddedAxis.numbers ++
    p.yadded.flatMap AddedAxis.numbers ++ p.epilog.flatMap Note.numbers

def Colorplot.numbers (c : Colorplot) : List Float :=
  c.z.flatten ++ c.x.toList.flatten ++ c.y.toList.flatten ++
    c.zrange.toList.flatMap Range.numbers ++ c.levels.toList.flatten ++
    c.xrange.toList.flatMap Range.numbers ++ c.yrange.toList.flatMap Range.numbers

def Cell.numbers : Cell → List Float
  | plot p => p.numbers
  | colorplot c => c.numbers

/-- **The floating point numbers of a figure.** -/
def Figure.numbers : Figure → List Float
  | plot p => p.numbers
  | colorplot c => c.numbers
  | multiplot m => m.plots.flatten.flatMap Cell.numbers

/-- **The indices of a figure fit the words of their types.** -/
def Figure.InWordRange (figure : Figure) : Prop :=
  ∀ s ∈ figure.series, s.InWordRange

/-! ### Charts -/

/-- A condition on all numbers in the parts of a chart. -/
structure Plot.OnParts (on : Float → Prop) (p : Plot) : Prop where
  series : ∀ s ∈ p.series, s.OnParts on
  xrange : ∀ r ∈ p.xrange, ∀ x ∈ r.numbers, on x
  yrange : ∀ r ∈ p.yrange, ∀ x ∈ r.numbers, on x
  xadded : ∀ a ∈ p.xadded, ∀ x ∈ a.numbers, on x
  yadded : ∀ a ∈ p.yadded, ∀ x ∈ a.numbers, on x
  epilog : ∀ n ∈ p.epilog, ∀ x ∈ n.numbers, on x

namespace Plot

theorem onParts_iff {on : Float → Prop} {p : Plot} : p.OnParts on ↔ ∀ x ∈ p.numbers, on x := by
  simp only [numbers, List.mem_append, List.mem_flatMap, Option.mem_toList, or_imp, forall_and,
    forall_exists_index, and_imp]
  constructor
  · intro h
    refine ⟨⟨⟨⟨⟨?_, ?_⟩, ?_⟩, ?_⟩, ?_⟩, ?_⟩
    · exact fun x s hs hx => Series.onParts_iff.mp (h.series s hs) x hx
    · exact fun x r hr hx => h.xrange r hr x hx
    · exact fun x r hr hx => h.yrange r hr x hx
    · exact fun x a ha hx => h.xadded a ha x hx
    · exact fun x a ha hx => h.yadded a ha x hx
    · exact fun x n hn hx => h.epilog n hn x hx
  · rintro ⟨⟨⟨⟨⟨hseries, hxrange⟩, hyrange⟩, hxadded⟩, hyadded⟩, hepilog⟩
    constructor
    · exact fun s hs => Series.onParts_iff.mpr fun x hx => hseries x s hs hx
    · exact fun r hr x hx => hxrange x r hr hx
    · exact fun r hr x hx => hyrange x r hr hx
    · exact fun a ha x hx => hxadded x a ha hx
    · exact fun a ha x hx => hyadded x a ha hx
    · exact fun n hn x hx => hepilog x n hn hx

theorem sorted_written (p : Plot) : Fields.Sorted p.written := by
  change ["epilog", "legendtitle", "series", "style", "title", "type", "version", "xadded",
    "xlabel", "xlog", "xrange", "yadded", "ylabel", "ylog", "yrange"].Pairwise (· < ·)
  decide

theorem holds_written {p : Plot} {name : String} {value : Option Value}
    (hmem : (name, value) ∈ p.written) : Entries.Holds (Fields.present p.written) name value :=
  Entries.holds_present p.sorted_written hmem

theorem holds_tag (p : Plot) :
    Entries.Holds (Fields.present p.written) "type" (some (.string "plot")) :=
  holds_written (by simp [written])

/-- **A chart is storable.** -/
theorem storable {f : Float → Float} {p : Plot} {depth : Nat} (h : p.OnParts (Legible f))
    (hword : ∀ s ∈ p.series, s.InWordRange) : Storable f (depth + 4) p.toJson := by
  refine Json.storable_ofPresent p.sorted_written ?_
  simp only [written, List.forall_mem_cons]
  refine ⟨?_, ?_, ?_, ?_, ?_, ?_, ?_, ?_, ?_, ?_, ?_, ?_, ?_, ?_, ?_,
    fun field hfield => nomatch hfield⟩
  · exact storable_nonempty fun n hn => Note.storable (h.epilog n hn)
  · exact storable_texts p.legendTitle
  · rintro value ⟨⟩
    refine Json.storable_array fun item hitem => ?_
    obtain ⟨s, hs, rfl⟩ := List.mem_map.mp hitem
    exact Series.storable (h.series s hs) (hword s hs)
  · exact storable_optional fun hint _ => hint.storable
  · exact storable_texts p.title
  · rintro value ⟨⟩
    exact Json.storable_string "plot"
  · exact storable_texts p.version
  · exact storable_nonempty fun a ha => AddedAxis.storable (h.xadded a ha)
  · exact storable_texts p.xlabel
  · exact storable_flag p.xlog
  · exact storable_optional fun r hr => storable_range (h.xrange r hr)
  · exact storable_nonempty fun a ha => AddedAxis.storable (h.yadded a ha)
  · exact storable_texts p.ylabel
  · exact storable_flag p.ylog
  · exact storable_optional fun r hr => storable_range (h.yrange r hr)

/-- **A chart is read back** from entries that hold what was written, with its tag or
without. -/
theorem ofEntries_eq {p : Plot} (h : p.OnParts fun x => Number.isFinite x)
    (hword : ∀ s ∈ p.series, s.InWordRange) {origin : Json.Origin} {entries : Entries}
    (hholds : ∀ name value, name ≠ "type" ∧ (name, value) ∈ p.written →
      entries.Holds name value) :
    Plot.fields.ofEntries origin entries = .ok p := by
  change Plot.fields.ofEntries origin entries = .ok (Plot.mk p.version p.series p.xlabel p.ylabel
    p.title p.legendTitle p.xrange p.yrange p.xlog p.ylog p.xadded p.yadded p.style p.epilog)
  unfold Plot.fields
  repeat' refine seq_eq_ok ?_ ?_
  · rfl
  · exact optional_eq_ok (hholds "version" _ (by simp [written])) fun text _ =>
      inverts_string text
  · have hseries := hholds "series" (some (.array (p.series.map Series.toJson)))
      (by simp [written])
    exact required_eq_ok hseries (Decoder.list_eq_ok fun s hs =>
      (Series.inverts (h.series s hs) (hword s hs)).decode_eq origin)
  · exact optional_eq_ok (hholds "xlabel" _ (by simp [written])) fun text _ =>
      inverts_string text
  · exact optional_eq_ok (hholds "ylabel" _ (by simp [written])) fun text _ =>
      inverts_string text
  · exact optional_eq_ok (hholds "title" _ (by simp [written])) fun text _ =>
      inverts_string text
  · exact optional_eq_ok (hholds "legendtitle" _ (by simp [written])) fun text _ =>
      inverts_string text
  · exact optional_eq_ok (hholds "xrange" _ (by simp [written])) fun r hr =>
      inverts_range (h.xrange r hr)
  · exact optional_eq_ok (hholds "yrange" _ (by simp [written])) fun r hr =>
      inverts_range (h.yrange r hr)
  · exact flag_eq_ok (hholds "xlog" _ (by simp [written, flag]))
  · exact flag_eq_ok (hholds "ylog" _ (by simp [written, flag]))
  · exact nonempty_eq_ok (hholds "xadded" _ (by simp [written, nonempty])) fun a ha =>
      (AddedAxis.inverts (h.xadded a ha)).decode_eq origin
  · exact nonempty_eq_ok (hholds "yadded" _ (by simp [written, nonempty])) fun a ha =>
      (AddedAxis.inverts (h.yadded a ha)).decode_eq origin
  · exact optional_eq_ok (hholds "style" _ (by simp [written])) fun hint _ =>
      hint.inverts
  · exact nonempty_eq_ok (hholds "epilog" _ (by simp [written, nonempty])) fun n hn =>
      Note.decode_eq (h.epilog n hn) origin

end Plot

/-! ### Scalar fields -/

/-- A condition on all numbers in the parts of a scalar field. -/
structure Colorplot.OnParts (on : Float → Prop) (c : Colorplot) : Prop where
  z : ∀ row ∈ c.z, ∀ x ∈ row, on x
  x : ∀ xs ∈ c.x, ∀ x ∈ xs, on x
  y : ∀ ys ∈ c.y, ∀ y ∈ ys, on y
  zrange : ∀ r ∈ c.zrange, ∀ x ∈ r.numbers, on x
  levels : ∀ levels ∈ c.levels, ∀ x ∈ levels, on x
  xrange : ∀ r ∈ c.xrange, ∀ x ∈ r.numbers, on x
  yrange : ∀ r ∈ c.yrange, ∀ x ∈ r.numbers, on x

namespace Colorplot

theorem onParts_iff {on : Float → Prop} {c : Colorplot} :
    c.OnParts on ↔ ∀ x ∈ c.numbers, on x := by
  simp only [numbers, List.mem_append, List.mem_flatMap, List.mem_flatten, Option.mem_toList,
    or_imp, forall_and, forall_exists_index, and_imp]
  constructor
  · intro h
    refine ⟨⟨⟨⟨⟨⟨?_, ?_⟩, ?_⟩, ?_⟩, ?_⟩, ?_⟩, ?_⟩
    · exact fun x row hrow hx => h.z row hrow x hx
    · exact fun x xs hxs hx => h.x xs hxs x hx
    · exact fun x ys hys hx => h.y ys hys x hx
    · exact fun x r hr hx => h.zrange r hr x hx
    · exact fun x levels hlevels hx => h.levels levels hlevels x hx
    · exact fun x r hr hx => h.xrange r hr x hx
    · exact fun x r hr hx => h.yrange r hr x hx
  · rintro ⟨⟨⟨⟨⟨⟨hz, hx⟩, hy⟩, hzrange⟩, hlevels⟩, hxrange⟩, hyrange⟩
    constructor
    · exact fun row hrow x hx => hz x row hrow hx
    · exact fun xs hxs x hmem => hx x xs hxs hmem
    · exact fun ys hys x hmem => hy x ys hys hmem
    · exact fun r hr x hx => hzrange x r hr hx
    · exact fun levels hmem x hx => hlevels x levels hmem hx
    · exact fun r hr x hx => hxrange x r hr hx
    · exact fun r hr x hx => hyrange x r hr hx

theorem sorted_written (c : Colorplot) : Fields.Sorted c.written := by
  change ["contour", "fillcontour", "levels", "style", "title", "type", "version", "x", "xlabel",
    "xlog", "xrange", "y", "ylabel", "ylog", "yrange", "z", "zlog", "zrange"].Pairwise (· < ·)
  decide

theorem holds_written {c : Colorplot} {name : String} {value : Option Value}
    (hmem : (name, value) ∈ c.written) : Entries.Holds (Fields.present c.written) name value :=
  Entries.holds_present c.sorted_written hmem

theorem holds_tag (c : Colorplot) :
    Entries.Holds (Fields.present c.written) "type" (some (.string "colorplot")) :=
  holds_written (by simp [written])

/-- **A scalar field is storable.** -/
theorem storable {f : Float → Float} {c : Colorplot} {depth : Nat} (h : c.OnParts (Legible f)) :
    Storable f (depth + 3) c.toJson := by
  refine Json.storable_ofPresent c.sorted_written ?_
  simp only [written, List.forall_mem_cons]
  refine ⟨?_, ?_, ?_, ?_, ?_, ?_, ?_, ?_, ?_, ?_, ?_, ?_, ?_, ?_, ?_, ?_, ?_, ?_,
    fun field hfield => nomatch hfield⟩
  · exact storable_flag c.contour
  · exact storable_flag c.fillContour
  · exact storable_optional fun levels hlevels => storable_floats (h.levels levels hlevels)
  · exact storable_optional fun hint _ => hint.storable
  · exact storable_texts c.title
  · rintro value ⟨⟩
    exact Json.storable_string "colorplot"
  · exact storable_texts c.version
  · exact storable_optional fun xs hxs => storable_floats (h.x xs hxs)
  · exact storable_texts c.xlabel
  · exact storable_flag c.xlog
  · exact storable_optional fun r hr => storable_range (h.xrange r hr)
  · exact storable_optional fun ys hys => storable_floats (h.y ys hys)
  · exact storable_texts c.ylabel
  · exact storable_flag c.ylog
  · exact storable_optional fun r hr => storable_range (h.yrange r hr)
  · rintro value ⟨⟩
    refine Json.storable_array fun item hitem => ?_
    obtain ⟨row, hrow, rfl⟩ := List.mem_map.mp hitem
    exact storable_floats (h.z row hrow)
  · exact storable_flag c.zlog
  · exact storable_optional fun r hr => storable_range (h.zrange r hr)

/-- **A scalar field is read back** from entries that hold what was written, with its tag
or without. -/
theorem ofEntries_eq {c : Colorplot} (h : c.OnParts fun x => Number.isFinite x)
    {origin : Json.Origin} {entries : Entries}
    (hholds : ∀ name value, name ≠ "type" ∧ (name, value) ∈ c.written →
      entries.Holds name value) :
    Colorplot.fields.ofEntries origin entries = .ok c := by
  change Colorplot.fields.ofEntries origin entries = .ok (Colorplot.mk c.version c.z c.x c.y
    c.contour c.fillContour c.zlog c.zrange c.levels c.xrange c.yrange c.xlog c.ylog c.xlabel
    c.ylabel c.title c.style)
  unfold Colorplot.fields
  repeat' refine seq_eq_ok ?_ ?_
  · rfl
  · exact optional_eq_ok (hholds "version" _ (by simp [written])) fun text _ =>
      inverts_string text
  · have hz := hholds "z" (some (.array (c.z.map .floats))) (by simp [written])
    exact required_eq_ok hz (Decoder.list_eq_ok fun row hrow =>
      (inverts_floats (h.z row hrow)).decode_eq origin)
  · exact optional_eq_ok (hholds "x" _ (by simp [written])) fun xs hxs =>
      inverts_floats (h.x xs hxs)
  · exact optional_eq_ok (hholds "y" _ (by simp [written])) fun ys hys =>
      inverts_floats (h.y ys hys)
  · exact flag_eq_ok (hholds "contour" _ (by simp [written, flag]))
  · exact flag_eq_ok (hholds "fillcontour" _ (by simp [written, flag]))
  · exact flag_eq_ok (hholds "zlog" _ (by simp [written, flag]))
  · exact optional_eq_ok (hholds "zrange" _ (by simp [written])) fun r hr =>
      inverts_range (h.zrange r hr)
  · exact optional_eq_ok (hholds "levels" _ (by simp [written])) fun levels hlevels =>
      inverts_floats (h.levels levels hlevels)
  · exact optional_eq_ok (hholds "xrange" _ (by simp [written])) fun r hr =>
      inverts_range (h.xrange r hr)
  · exact optional_eq_ok (hholds "yrange" _ (by simp [written])) fun r hr =>
      inverts_range (h.yrange r hr)
  · exact flag_eq_ok (hholds "xlog" _ (by simp [written, flag]))
  · exact flag_eq_ok (hholds "ylog" _ (by simp [written, flag]))
  · exact optional_eq_ok (hholds "xlabel" _ (by simp [written])) fun text _ =>
      inverts_string text
  · exact optional_eq_ok (hholds "ylabel" _ (by simp [written])) fun text _ =>
      inverts_string text
  · exact optional_eq_ok (hholds "title" _ (by simp [written])) fun text _ =>
      inverts_string text
  · exact optional_eq_ok (hholds "style" _ (by simp [written])) fun hint _ =>
      hint.inverts

end Colorplot

/-! ### Grids -/

namespace Cell

variable {cell : Cell} (hword : ∀ s ∈ cell.series, s.InWordRange)
include hword

theorem storable {f : Float → Float} {depth : Nat} (h : ∀ x ∈ cell.numbers, Legible f x) :
    Storable f (depth + 4) cell.toJson := by
  cases cell with
  | plot p => exact Plot.storable (Plot.onParts_iff.mpr h) hword
  | colorplot c => exact Colorplot.storable (Colorplot.onParts_iff.mpr h)

/-- **A cell is read back** by the kind that its tag names. -/
theorem decode_eq (h : ∀ x ∈ cell.numbers, Number.isFinite x) (origin : Json.Origin) :
    Cell.tagged.decoder origin cell.toJson = .ok cell := by
  cases cell with
  | plot p =>
      refine Tagged.decoder_eq_ok p.holds_tag rfl (Decoder.map_eq_ok (Record.decoder_eq_ok ?_))
      exact Plot.ofEntries_eq (Plot.onParts_iff.mpr h) hword fun name value hmem =>
        (Plot.holds_written hmem.2).drop hmem.1
  | colorplot c =>
      refine Tagged.decoder_eq_ok c.holds_tag rfl (Decoder.map_eq_ok (Record.decoder_eq_ok ?_))
      exact Colorplot.ofEntries_eq (Colorplot.onParts_iff.mpr h) fun name value hmem =>
        (Colorplot.holds_written hmem.2).drop hmem.1

end Cell

theorem inverts_sharing (s : Sharing) : Inverts Sharing.decoder (fun s => .string s.keyword) s := by
  cases s <;> exact ⟨by simp, fun _ => rfl⟩

theorem inverts_joined (j : Joined) :
    Inverts Joined.decoder (fun j => .array [.bool j.horizontal, .bool j.vertical]) j :=
  ⟨by simp, fun _ => rfl⟩

namespace Multiplot

theorem sorted_written (m : Multiplot) : Fields.Sorted m.written := by
  change ["joined", "plots", "style", "title", "type", "version", "xshared",
    "yshared"].Pairwise (· < ·)
  decide

theorem holds_written {m : Multiplot} {name : String} {value : Option Value}
    (hmem : (name, value) ∈ m.written) : Entries.Holds (Fields.present m.written) name value :=
  Entries.holds_present m.sorted_written hmem

theorem holds_tag (m : Multiplot) :
    Entries.Holds (Fields.present m.written) "type" (some (.string "multiplot")) :=
  holds_written (by simp [written])

variable {m : Multiplot} (hword : ∀ row ∈ m.plots, ∀ cell ∈ row, ∀ s ∈ cell.series, s.InWordRange)
include hword

/-- **A grid is storable.** -/
theorem storable {f : Float → Float} {depth : Nat}
    (h : ∀ row ∈ m.plots, ∀ cell ∈ row, ∀ x ∈ cell.numbers, Legible f x) :
    Storable f (depth + 7) m.toJson := by
  refine Json.storable_ofPresent m.sorted_written ?_
  simp only [written, List.forall_mem_cons]
  refine ⟨?_, ?_, ?_, ?_, ?_, ?_, ?_, ?_, fun field hfield => nomatch hfield⟩
  · refine storable_optional fun j _ => Json.storable_array fun item hitem => ?_
    simp only [List.mem_cons, List.not_mem_nil, or_false] at hitem
    rcases hitem with rfl | rfl
    · exact Json.storable_bool j.horizontal
    · exact Json.storable_bool j.vertical
  · rintro value ⟨⟩
    refine Json.storable_array fun item hitem => ?_
    obtain ⟨row, hrow, rfl⟩ := List.mem_map.mp hitem
    refine Json.storable_array fun item hitem => ?_
    obtain ⟨cell, hcell, rfl⟩ := List.mem_map.mp hitem
    exact Cell.storable (hword row hrow cell hcell) (h row hrow cell hcell)
  · exact storable_optional fun hint _ => hint.storable
  · exact storable_texts m.title
  · rintro value ⟨⟩
    exact Json.storable_string "multiplot"
  · exact storable_texts m.version
  · exact storable_optional fun s _ => Json.storable_string s.keyword
  · exact storable_optional fun s _ => Json.storable_string s.keyword

/-- **A grid is read back** from entries that hold what was written. -/
theorem ofEntries_eq (h : ∀ row ∈ m.plots, ∀ cell ∈ row, ∀ x ∈ cell.numbers, Number.isFinite x)
    {origin : Json.Origin} {entries : Entries}
    (hholds : ∀ name value, (name, value) ∈ m.written → entries.Holds name value) :
    Multiplot.fields.ofEntries origin entries = .ok m := by
  change Multiplot.fields.ofEntries origin entries = .ok (Multiplot.mk m.version m.plots m.title
    m.xshared m.yshared m.joined m.style)
  unfold Multiplot.fields
  repeat' refine seq_eq_ok ?_ ?_
  · rfl
  · exact optional_eq_ok (hholds "version" _ (by simp [written])) fun text _ => inverts_string text
  · have hplots := hholds "plots"
      (some (.array (m.plots.map fun row => .array (row.map Cell.toJson)))) (by simp [written])
    exact required_eq_ok hplots (Decoder.list_eq_ok fun row hrow =>
      Decoder.list_eq_ok fun cell hcell =>
        Cell.decode_eq (hword row hrow cell hcell) (h row hrow cell hcell) origin)
  · exact optional_eq_ok (hholds "title" _ (by simp [written])) fun text _ => inverts_string text
  · exact optional_eq_ok (hholds "xshared" _ (by simp [written])) fun s _ => inverts_sharing s
  · exact optional_eq_ok (hholds "yshared" _ (by simp [written])) fun s _ => inverts_sharing s
  · exact optional_eq_ok (hholds "joined" _ (by simp [written])) fun j _ => inverts_joined j
  · exact optional_eq_ok (hholds "style" _ (by simp [written])) fun hint _ => hint.inverts

end Multiplot

/-! ### Figures -/

namespace Figure

/-- **A figure is decoded** by the kind that its tag names. -/
theorem decode_of_tag {entries : Entries} {kind : String} {decoder : Decoder Figure}
    (htag : entries.Holds "type" (some (.string kind)))
    (hkind : tagged.cases.find? (·.1 = kind) = some (kind, decoder)) :
    decode (.object entries) =
      (decoder .direct (.object entries)).mapError fun e =>
        .schema (.ofField kind) (.misfit e) := by
  unfold decode
  simp only [htag.get?_eq, hkind]

theorem decode_eq_ok {entries : Entries} {kind : String} {figure : Figure}
    {decoder : Decoder Figure} (htag : entries.Holds "type" (some (.string kind)))
    (hkind : tagged.cases.find? (·.1 = kind) = some (kind, decoder))
    (h : decoder .direct (.object entries) = .ok figure) :
    decode (.object entries) = .ok figure := by
  rw [decode_of_tag htag hkind, h]
  rfl

section

variable {figure : Figure} (hword : figure.InWordRange)
include hword

/-- **A figure is storable.** -/
theorem storable {f : Float → Float} {depth : Nat} (h : ∀ x ∈ figure.numbers, Legible f x) :
    Storable f (depth + 7) figure.toJson := by
  cases figure with
  | plot p => exact Plot.storable (Plot.onParts_iff.mpr h) hword
  | colorplot c => exact Colorplot.storable (Colorplot.onParts_iff.mpr h)
  | multiplot m =>
      refine Multiplot.storable (fun row hrow cell hcell s hs => ?_)
        fun row hrow cell hcell x hx => ?_
      · exact hword s (List.mem_flatMap.mpr ⟨cell, List.mem_flatten_of_mem hrow hcell, hs⟩)
      · exact h x (List.mem_flatMap.mpr ⟨cell, List.mem_flatten_of_mem hrow hcell, hx⟩)

/-- **A figure is decoded** from the value that is written for it. -/
theorem decode_toJson (h : ∀ x ∈ figure.numbers, Number.isFinite x) :
    decode figure.toJson = .ok figure := by
  cases figure with
  | plot p =>
      refine decode_eq_ok p.holds_tag rfl (Decoder.map_eq_ok (Record.decoder_eq_ok ?_))
      exact Plot.ofEntries_eq (Plot.onParts_iff.mpr h) hword fun name value hmem =>
        Plot.holds_written hmem.2
  | colorplot c =>
      refine decode_eq_ok c.holds_tag rfl (Decoder.map_eq_ok (Record.decoder_eq_ok ?_))
      exact Colorplot.ofEntries_eq (Colorplot.onParts_iff.mpr h) fun name value hmem =>
        Colorplot.holds_written hmem.2
  | multiplot m =>
      refine decode_eq_ok m.holds_tag rfl (Decoder.map_eq_ok (Record.decoder_eq_ok ?_))
      refine Multiplot.ofEntries_eq (fun row hrow cell hcell s hs => ?_)
        (fun row hrow cell hcell x hx => ?_) fun name value hmem => Multiplot.holds_written hmem
      · exact hword s (List.mem_flatMap.mpr ⟨cell, List.mem_flatten_of_mem hrow hcell, hs⟩)
      · exact h x (List.mem_flatMap.mpr ⟨cell, List.mem_flatten_of_mem hrow hcell, hx⟩)

/-- **The text of a figure** is read as the value that was written, but for the numbers
that are read as others. -/
theorem ofText_toText_eq {f : Float → Float} (h : ∀ x ∈ figure.numbers, Legible f x)
    (compact : Bool) : ofText (figure.toText compact) = ofJson (figure.toJson.mapReal f) := by
  have hstorable : Storable f Json.maxDepth figure.toJson := storable hword h
  have hparse : Json.parse (figure.toText compact).toList = .ok (figure.toJson.mapReal f) := by
    rw [toText, String.toList_ofList]
    cases compact with
    | true => exact Json.parse_compact hstorable.readable
    | false => exact Json.parse_pretty hstorable.readable
  unfold ofText
  simp only [hparse, hstorable.canonical_eq]

end

section

variable {figure : Figure} (h : ∀ x ∈ figure.numbers, Survives x)
  (hword : figure.InWordRange)
include h hword

/-- **A figure that passes its checks is read back** from its text, in both layouts.  Its
floating point numbers survive their notation, each on its own, and its indices fit the
words of their types. -/
theorem ofText_toText (hcheck : figure.check = .ok ()) (compact : Bool) :
    ofText (figure.toText compact) = .ok figure := by
  have hdecode := decode_toJson hword fun x hx => (h x hx).isFinite
  rw [ofText_toText_eq hword (fun x hx => (h x hx).legible), Value.mapReal_id]
  simp only [ofJson, hdecode, hcheck, bind, Except.bind, pure, Except.pure]

end

/-- A grid of a chart and a scalar field, with texts that need escapes. -/
def storedGrid : Figure :=
  .multiplot
    { plots :=
        [[.plot
            { series :=
                [{ x := some [-0.25, 1e300], y := [1.5, 2], label := some "\"µ\\\"", color := some 3
                   xerr := some (.scalar 0.1), ymin := some (.points [1, 2]), yadded := some 1 }]
              title := some "line\nbreak"
              ylog := true
              yadded := [{ range := some ⟨0, 5e-324⟩, log := true, label := some "" }]
              style := some {}
              epilog := [⟨1, 2, "\x01"⟩] },
          .colorplot { z := [[1, 2], [3, 4]], levels := some [], zlog := true }]]
      title := some "😀"
      xshared := some .col
      joined := some ⟨true, false⟩ }

theorem ofText_toText_storedGrid :
    storedGrid.check = .ok () ∧ (∀ x ∈ storedGrid.numbers, Survives x) ∧
      storedGrid.InWordRange ∧ ofText (storedGrid.toText true) = .ok storedGrid ∧
      ofText (storedGrid.toText false) = .ok storedGrid := by
  have hcheck : storedGrid.check = .ok () := rfl
  have hnumbers : ∀ x ∈ storedGrid.numbers, Survives x := by decide +kernel
  have hword : storedGrid.InWordRange := by
    intro s hs
    cases List.mem_singleton.mp hs
    constructor
    · rintro n ⟨⟩
      decide
    · rintro n ⟨⟩
    · rintro k ⟨⟩
    · rintro k ⟨⟩
      decide
  exact ⟨hcheck, hnumbers, hword, ofText_toText hnumbers hword hcheck true,
    ofText_toText hnumbers hword hcheck false⟩

end Figure

end FigureScript
