import FigureScript.Proofs.Figure.Reals
import FigureScript.Proofs.Figure.RoundTrip

/-!
# Figures that load again

The checks of a figure look at its shape and never at a number.  A number that is not
finite is written as `null`, and where the data of a figure are finite what decides whether
its text can be read is the rest of its numbers: ranges, levels, positions of notes and the
coordinates of scalar fields.

## Main Definitions

* `Figure.frame` — the numbers around the data of a figure

## Main Results

* `Plot.finite_of_isOk`, `Colorplot.finite_of_isOk`, `Multiplot.finite_of_isOk` — the
  numbers around the data are finite in what can be read
* `Figure.isOk_ofText_iff` — which figures load again
* `Figure.ofText_toText_mapReal` — and as what

## Design Notes

An error bar of the same length at every point is not among the numbers that decide.  The
`null` that is written for such a length is read as an absent error bar.
-/

namespace FigureScript

open Json (Value Record Decoder Tagged Entries Fields)
open Json.Record (isOk_seq isOk_field isOk_optional isOk_nonempty isOk_decoder)
open Outcome

/-! ### Numbers around the data -/

def Plot.frame (p : Plot) : List Float :=
  p.xrange.toList.flatMap Range.numbers ++ p.yrange.toList.flatMap Range.numbers ++
    p.xadded.flatMap AddedAxis.numbers ++ p.yadded.flatMap AddedAxis.numbers ++
    p.epilog.flatMap Note.numbers

def Colorplot.frame (c : Colorplot) : List Float :=
  c.x.toList.flatten ++ c.y.toList.flatten ++ c.zrange.toList.flatMap Range.numbers ++
    c.levels.toList.flatten ++ c.xrange.toList.flatMap Range.numbers ++
    c.yrange.toList.flatMap Range.numbers

def Cell.frame : Cell → List Float
  | plot p => p.frame
  | colorplot c => c.frame

/-- **The numbers around the data of a figure**: all but those of its series and those of
its matrices. -/
def Figure.frame : Figure → List Float
  | plot p => p.frame
  | colorplot c => c.frame
  | multiplot m => m.plots.flatten.flatMap Cell.frame

theorem Plot.numbers_eq (p : Plot) : p.numbers = p.series.flatMap Series.numbers ++ p.frame := by
  simp only [numbers, frame, List.append_assoc]

theorem Colorplot.numbers_eq (c : Colorplot) : c.numbers = c.z.flatten ++ c.frame := by
  simp only [numbers, frame, List.append_assoc]

theorem Plot.mem_numbers {p : Plot} {x : Float} :
    x ∈ p.numbers ↔ (∃ s ∈ p.series, x ∈ s.numbers) ∨ x ∈ p.frame := by
  rw [numbers_eq, List.mem_append, List.mem_flatMap]

theorem Colorplot.mem_numbers {c : Colorplot} {x : Float} :
    x ∈ c.numbers ↔ (∃ row ∈ c.z, x ∈ row) ∨ x ∈ c.frame := by
  rw [numbers_eq, List.mem_append, List.mem_flatten]

theorem Cell.mem_numbers {cell : Cell} {x : Float} :
    x ∈ cell.numbers ↔ (∃ s ∈ cell.series, x ∈ s.numbers) ∨
      (∃ c ∈ cell.colorplots, ∃ row ∈ c.z, x ∈ row) ∨ x ∈ cell.frame := by
  cases cell with
  | plot p => simpa [series, colorplots, numbers, frame] using p.mem_numbers
  | colorplot c => simpa [series, colorplots, numbers, frame] using c.mem_numbers

/-- **The numbers of a figure** are its data and the numbers around them. -/
theorem Figure.mem_numbers {figure : Figure} {x : Float} :
    x ∈ figure.numbers ↔ (∃ s ∈ figure.series, x ∈ s.numbers) ∨
      (∃ c ∈ figure.colorplots, ∃ row ∈ c.z, x ∈ row) ∨ x ∈ figure.frame := by
  cases figure with
  | plot p => simpa [series, colorplots, numbers, frame] using p.mem_numbers
  | colorplot c => simpa [series, colorplots, numbers, frame] using c.mem_numbers
  | multiplot m =>
      simp only [numbers, series, colorplots, frame, List.mem_flatMap, Cell.mem_numbers]
      constructor
      · rintro ⟨cell, hcell, ⟨s, hs, hx⟩ | ⟨c, hc, hx⟩ | hx⟩
        · exact .inl ⟨s, ⟨cell, hcell, hs⟩, hx⟩
        · exact .inr (.inl ⟨c, ⟨cell, hcell, hc⟩, hx⟩)
        · exact .inr (.inr ⟨cell, hcell, hx⟩)
      · rintro (⟨s, ⟨cell, hcell, hs⟩, hx⟩ | ⟨c, ⟨cell, hcell, hc⟩, hx⟩ | ⟨cell, hcell, hx⟩)
        · exact ⟨cell, hcell, .inl ⟨s, hs, hx⟩⟩
        · exact ⟨cell, hcell, .inr (.inl ⟨c, hc, hx⟩)⟩
        · exact ⟨cell, hcell, .inr (.inr hx)⟩

/-- Where the data of a figure and the numbers around them are finite, all its numbers
are. -/
theorem Figure.finite_of_frame {figure : Figure}
    (hseries : ∀ s ∈ figure.series, ∀ x ∈ s.numbers, Number.isFinite x)
    (hfields : ∀ c ∈ figure.colorplots, ∀ row ∈ c.z, ∀ x ∈ row, Number.isFinite x)
    (hframe : ∀ x ∈ figure.frame, Number.isFinite x) :
    ∀ x ∈ figure.numbers, Number.isFinite x := by
  intro x hx
  rcases mem_numbers.mp hx with ⟨s, hs, hx⟩ | ⟨c, hc, row, hrow, hx⟩ | hx
  · exact hseries s hs x hx
  · exact hfields c hc row hrow x hx
  · exact hframe x hx

/-! ### What can be read is finite -/

section Parts

variable {origin : Json.Origin} {entries : Entries}

theorem finite_of_floats {xs : List Float} (h : (floatList origin (.floats xs)).isOk) :
    ∀ x ∈ xs, Number.isFinite x := by
  intro x hx
  rw [← Decoder.isOk_float]
  exact Decoder.isOk_of_list h x hx

theorem Range.finite_of_isOk {r : Range} (h : (Range.decoder origin r.toJson).isOk) :
    ∀ x ∈ r.numbers, Number.isFinite x := by
  rw [Range.decoder, Decoder.isOk_map] at h
  have hpair := Decoder.isOk_of_pair h
  rw [Decoder.isOk_float, Decoder.isOk_float] at hpair
  simpa [Range.numbers] using hpair

theorem finite_of_optional_range {part : Option Range} {name : String}
    (hholds : entries.Holds name (part.map Range.toJson))
    (h : ((Record.optional name Range.decoder).ofEntries origin entries).isOk) :
    ∀ x ∈ part.toList.flatMap Range.numbers, Number.isFinite x := by
  intro x hx
  obtain ⟨r, hr, hx⟩ := List.mem_flatMap.mp hx
  refine Range.finite_of_isOk (isOk_optional hholds h (Option.mem_toList.mp hr) ?_) x hx
  simp [Range.toJson, Value.floats]

theorem finite_of_optional_floats {part : Option (List Float)} {name : String}
    (hholds : entries.Holds name (part.map Value.floats))
    (h : ((Record.optional name floatList).ofEntries origin entries).isOk) :
    ∀ x ∈ part.toList.flatten, Number.isFinite x := by
  intro x hx
  obtain ⟨xs, hxs, hx⟩ := List.mem_flatten.mp hx
  refine finite_of_floats (isOk_optional hholds h (Option.mem_toList.mp hxs) ?_) x hx
  simp [Value.floats]

theorem AddedAxis.finite_of_isOk {a : AddedAxis}
    (h : (AddedAxis.fields.decoder "struct AddedAxis" origin a.toJson).isOk) :
    ∀ x ∈ a.numbers, Number.isFinite x := by
  have hholds (name : String) (value : Option Value) (hmem : (name, value) ∈ a.written) :
      Entries.Holds (Fields.present a.written) name value :=
    Entries.holds_present a.sorted_written hmem
  change (AddedAxis.fields.decoder "struct AddedAxis" origin
    (.object (Fields.present a.written))).isOk at h
  rw [isOk_decoder] at h
  unfold AddedAxis.fields at h
  simp only [isOk_seq] at h
  obtain ⟨⟨⟨⟨-, hrange⟩, -⟩, -⟩, -⟩ := h
  exact finite_of_optional_range (hholds "range" _ (by simp [written])) hrange

theorem Note.finite_of_isOk {n : Note} (h : (Note.tagged.decoder origin n.toJson).isOk) :
    ∀ x ∈ n.numbers, Number.isFinite x := by
  have hholds (name : String) (value : Option Value) (hmem : (name, value) ∈ n.written) :
      Entries.Holds (Fields.present n.written) name value :=
    Entries.holds_present n.sorted_written hmem
  change (Note.tagged.decoder origin (.object (Fields.present n.written))).isOk at h
  have h := Tagged.isOk_of_decoder (hholds "type" (some (.string "text")) (by simp [written])) rfl h
  rw [isOk_decoder] at h
  unfold Note.fields at h
  simp only [isOk_seq] at h
  obtain ⟨⟨⟨-, hx⟩, hy⟩, -⟩ := h
  have hx := isOk_field ((hholds "x" (some (.float n.x)) (by simp [written])).drop (by decide)) hx
  have hy := isOk_field ((hholds "y" (some (.float n.y)) (by simp [written])).drop (by decide)) hy
  rw [Decoder.isOk_float] at hx hy
  simpa [Note.numbers] using ⟨hx, hy⟩

/-- **A chart that is read** has finite numbers around its data. -/
theorem Plot.finite_of_isOk {p : Plot}
    (hholds : ∀ name value, name ≠ "type" ∧ (name, value) ∈ p.written →
      entries.Holds name value)
    (h : (Plot.fields.ofEntries origin entries).isOk) : ∀ x ∈ p.frame, Number.isFinite x := by
  unfold Plot.fields at h
  simp only [isOk_seq] at h
  obtain ⟨⟨⟨⟨⟨⟨⟨⟨-, hxrange⟩, hyrange⟩, -⟩, -⟩, hxadded⟩, hyadded⟩, -⟩, hepilog⟩ := h
  have hxadded := isOk_nonempty
    (hholds "xadded" (nonempty AddedAxis.toJson p.xadded) (by simp [written])) hxadded
  have hyadded := isOk_nonempty
    (hholds "yadded" (nonempty AddedAxis.toJson p.yadded) (by simp [written])) hyadded
  have hepilog := isOk_nonempty
    (hholds "epilog" (nonempty Note.toJson p.epilog) (by simp [written])) hepilog
  simp only [frame, List.forall_mem_append]
  refine ⟨⟨⟨⟨?_, ?_⟩, ?_⟩, ?_⟩, ?_⟩
  · exact finite_of_optional_range (hholds "xrange" _ (by simp [written])) hxrange
  · exact finite_of_optional_range (hholds "yrange" _ (by simp [written])) hyrange
  · intro x hx
    obtain ⟨a, ha, hx⟩ := List.mem_flatMap.mp hx
    exact AddedAxis.finite_of_isOk (hxadded a ha) x hx
  · intro x hx
    obtain ⟨a, ha, hx⟩ := List.mem_flatMap.mp hx
    exact AddedAxis.finite_of_isOk (hyadded a ha) x hx
  · intro x hx
    obtain ⟨n, hn, hx⟩ := List.mem_flatMap.mp hx
    exact Note.finite_of_isOk (hepilog n hn) x hx

/-- **A scalar field that is read** has finite numbers around its data. -/
theorem Colorplot.finite_of_isOk {c : Colorplot}
    (hholds : ∀ name value, name ≠ "type" ∧ (name, value) ∈ c.written →
      entries.Holds name value)
    (h : (Colorplot.fields.ofEntries origin entries).isOk) : ∀ x ∈ c.frame, Number.isFinite x := by
  unfold Colorplot.fields at h
  simp only [isOk_seq] at h
  obtain ⟨⟨⟨⟨⟨⟨⟨⟨⟨⟨⟨⟨⟨⟨⟨-, hx⟩, hy⟩, -⟩, -⟩, -⟩, hzrange⟩, hlevels⟩, hxrange⟩, hyrange⟩, -⟩, -⟩, -⟩,
    -⟩, -⟩, -⟩ := h
  simp only [frame, List.forall_mem_append]
  refine ⟨⟨⟨⟨⟨?_, ?_⟩, ?_⟩, ?_⟩, ?_⟩, ?_⟩
  · exact finite_of_optional_floats (hholds "x" _ (by simp [written])) hx
  · exact finite_of_optional_floats (hholds "y" _ (by simp [written])) hy
  · exact finite_of_optional_range (hholds "zrange" _ (by simp [written])) hzrange
  · exact finite_of_optional_floats (hholds "levels" _ (by simp [written])) hlevels
  · exact finite_of_optional_range (hholds "xrange" _ (by simp [written])) hxrange
  · exact finite_of_optional_range (hholds "yrange" _ (by simp [written])) hyrange

theorem Cell.finite_of_isOk {cell : Cell} (h : (Cell.tagged.decoder origin cell.toJson).isOk) :
    ∀ x ∈ cell.frame, Number.isFinite x := by
  cases cell with
  | plot p =>
      have h := Tagged.isOk_of_decoder p.holds_tag rfl h
      rw [Decoder.isOk_map] at h
      change ((Plot.fields.decoder "struct Plot") _ _).isOk at h
      rw [isOk_decoder] at h
      exact Plot.finite_of_isOk
        (fun name value hmem => (Plot.holds_written hmem.2).drop hmem.1) h
  | colorplot c =>
      have h := Tagged.isOk_of_decoder c.holds_tag rfl h
      rw [Decoder.isOk_map] at h
      change ((Colorplot.fields.decoder "struct Colorplot") _ _).isOk at h
      rw [isOk_decoder] at h
      exact Colorplot.finite_of_isOk
        (fun name value hmem => (Colorplot.holds_written hmem.2).drop hmem.1) h

/-- **A grid that is read** has finite numbers around its data. -/
theorem Multiplot.finite_of_isOk {m : Multiplot}
    (hholds : ∀ name value, (name, value) ∈ m.written → entries.Holds name value)
    (h : (Multiplot.fields.ofEntries origin entries).isOk) :
    ∀ x ∈ m.plots.flatten.flatMap Cell.frame, Number.isFinite x := by
  unfold Multiplot.fields at h
  simp only [isOk_seq] at h
  obtain ⟨⟨⟨⟨⟨⟨-, hplots⟩, -⟩, -⟩, -⟩, -⟩, -⟩ := h
  have hplots := isOk_field
    (hholds "plots" (some (.array (m.plots.map fun row => .array (row.map Cell.toJson))))
      (by simp [written])) hplots
  intro x hx
  obtain ⟨cell, hcell, hx⟩ := List.mem_flatMap.mp hx
  obtain ⟨row, hrow, hcell⟩ := List.mem_flatten.mp hcell
  have hcells := Decoder.isOk_of_list hplots row hrow
  exact Cell.finite_of_isOk (Decoder.isOk_of_list hcells cell hcell) x hx

end Parts

/-- **A figure that is decoded** has finite numbers around its data. -/
theorem Figure.finite_of_decode {figure : Figure} (h : (decode figure.toJson).isOk) :
    ∀ x ∈ figure.frame, Number.isFinite x := by
  cases figure with
  | plot p =>
      change (decode (.object (Fields.present p.written))).isOk at h
      rw [decode_of_tag p.holds_tag rfl, isOk_mapError, Decoder.isOk_map, Plot.decoder,
        isOk_decoder] at h
      exact Plot.finite_of_isOk (fun name value hmem => Plot.holds_written hmem.2) h
  | colorplot c =>
      change (decode (.object (Fields.present c.written))).isOk at h
      rw [decode_of_tag c.holds_tag rfl, isOk_mapError, Decoder.isOk_map, Colorplot.decoder,
        isOk_decoder] at h
      exact Colorplot.finite_of_isOk (fun name value hmem => Colorplot.holds_written hmem.2) h
  | multiplot m =>
      change (decode (.object (Fields.present m.written))).isOk at h
      rw [decode_of_tag m.holds_tag rfl, isOk_mapError, Decoder.isOk_map, Multiplot.decoder,
        isOk_decoder] at h
      exact Multiplot.finite_of_isOk (fun name value hmem => Multiplot.holds_written hmem) h

/-! ### Numbers that are replaced -/

section MapReal

variable {f : Float → Float}

theorem Range.numbers_mapReal (r : Range) : (r.mapReal f).numbers = r.numbers.map f :=
  rfl

theorem Values.numbers_mapReal (v : Values) : (v.mapReal f).numbers = v.numbers.map f := by
  cases v <;> rfl

theorem Series.numbers_mapReal (s : Series) : (s.mapReal f).numbers = s.numbers.map f := by
  simp [numbers, mapReal, List.map_flatMap, List.map_flatten, Values.numbers_mapReal,
    Option.toList_map, List.flatMap_map]

theorem AddedAxis.numbers_mapReal (a : AddedAxis) :
    (a.mapReal f).numbers = a.numbers.map f := by
  simp [numbers, mapReal, List.map_flatMap, Range.numbers_mapReal, Option.toList_map,
    List.flatMap_map]

theorem Note.numbers_mapReal (n : Note) : (n.mapReal f).numbers = n.numbers.map f :=
  rfl

theorem Plot.frame_mapReal (p : Plot) : (p.mapReal f).frame = p.frame.map f := by
  simp [frame, mapReal, List.map_flatMap, Range.numbers_mapReal, AddedAxis.numbers_mapReal,
    Note.numbers_mapReal, Option.toList_map, List.flatMap_map]

theorem Plot.numbers_mapReal (p : Plot) : (p.mapReal f).numbers = p.numbers.map f := by
  rw [numbers_eq, numbers_eq, frame_mapReal, List.map_append]
  simp [mapReal, List.map_flatMap, List.flatMap_map, Series.numbers_mapReal]

theorem Colorplot.frame_mapReal (c : Colorplot) : (c.mapReal f).frame = c.frame.map f := by
  simp [frame, mapReal, List.map_flatMap, List.map_flatten, Range.numbers_mapReal,
    Option.toList_map, List.flatMap_map]

theorem Colorplot.numbers_mapReal (c : Colorplot) : (c.mapReal f).numbers = c.numbers.map f := by
  rw [numbers_eq, numbers_eq, frame_mapReal, List.map_append, List.map_flatten]
  rfl

namespace Cell

theorem frame_mapReal (cell : Cell) : (cell.mapReal f).frame = cell.frame.map f := by
  cases cell with
  | plot p => exact p.frame_mapReal
  | colorplot c => exact c.frame_mapReal

theorem numbers_mapReal (cell : Cell) : (cell.mapReal f).numbers = cell.numbers.map f := by
  cases cell with
  | plot p => exact p.numbers_mapReal
  | colorplot c => exact c.numbers_mapReal

theorem series_mapReal (cell : Cell) :
    (cell.mapReal f).series = cell.series.map (Series.mapReal f) := by
  cases cell <;> rfl

end Cell

namespace Figure

theorem frame_mapReal (figure : Figure) : (figure.mapReal f).frame = figure.frame.map f := by
  cases figure with
  | plot p => exact p.frame_mapReal
  | colorplot c => exact c.frame_mapReal
  | multiplot m =>
      simp [frame, mapReal, Multiplot.mapReal, List.map_flatMap, List.flatMap_map,
        Cell.frame_mapReal, ← List.map_flatten]

theorem numbers_mapReal (figure : Figure) :
    (figure.mapReal f).numbers = figure.numbers.map f := by
  cases figure with
  | plot p => exact p.numbers_mapReal
  | colorplot c => exact c.numbers_mapReal
  | multiplot m =>
      simp [numbers, mapReal, Multiplot.mapReal, List.map_flatMap, List.flatMap_map,
        Cell.numbers_mapReal, ← List.map_flatten]

theorem series_mapReal (figure : Figure) :
    (figure.mapReal f).series = figure.series.map (Series.mapReal f) := by
  cases figure with
  | plot p => rfl
  | colorplot c => rfl
  | multiplot m =>
      simp [series, mapReal, Multiplot.mapReal, List.map_flatMap, List.flatMap_map,
        Cell.series_mapReal, ← List.map_flatten]

theorem InWordRange.mapReal {figure : Figure} (h : figure.InWordRange) :
    (figure.mapReal f).InWordRange := by
  intro s hs
  rw [series_mapReal] at hs
  obtain ⟨s, hmem, rfl⟩ := List.mem_map.mp hs
  have hs := h s hmem
  exact ⟨hs.color, hs.line, hs.xadded, hs.yadded⟩

end Figure

end MapReal

/-! ### Figures that load -/

namespace Figure

variable {figure : Figure} {f : Float → Float}
  (hf : ∀ x, Number.isFinite (f x) = Number.isFinite x) (hword : figure.InWordRange)
  (hlegible : ∀ x ∈ figure.numbers, Legible f x) (hcheck : figure.check = .ok ())
include hf hword hlegible hcheck

/-- **A figure with finite numbers loads**, each number as its notation is read. -/
theorem ofText_toText_mapReal (h : ∀ x ∈ figure.numbers, Number.isFinite x) (compact : Bool) :
    ofText (figure.toText compact) = .ok (figure.mapReal f) := by
  have hfinite : ∀ x ∈ (figure.mapReal f).numbers, Number.isFinite x := by
    rw [numbers_mapReal, List.forall_mem_map]
    intro x hx
    rw [hf]
    exact h x hx
  have hdecode := decode_toJson hword.mapReal hfinite
  rw [ofText_toText_eq hword hlegible, toJson_mapReal hf]
  simp only [ofJson, hdecode, check_mapReal, hcheck, bind, Except.bind, pure, Except.pure]

/-- **Which figures load**: where the data are finite, those with finite numbers around
them. -/
theorem isOk_ofText_iff
    (hseries : ∀ s ∈ figure.series, ∀ x ∈ s.numbers, Number.isFinite x)
    (hfields : ∀ c ∈ figure.colorplots, ∀ row ∈ c.z, ∀ x ∈ row, Number.isFinite x)
    (compact : Bool) :
    (ofText (figure.toText compact)).isOk ↔ ∀ x ∈ figure.frame, Number.isFinite x := by
  constructor
  · intro h x hx
    rw [ofText_toText_eq hword hlegible, toJson_mapReal hf] at h
    obtain ⟨loaded, h⟩ := isOk_iff.mp h
    obtain ⟨decoded, hdecode, -⟩ := bind_eq_ok.mp h
    have hmem : f x ∈ (figure.mapReal f).frame := by
      rw [frame_mapReal]
      exact List.mem_map_of_mem hx
    rw [← hf]
    exact finite_of_decode (isOk_iff.mpr ⟨decoded, hdecode⟩) (f x) hmem
  · intro h
    have hnumbers := finite_of_frame hseries hfields h
    exact isOk_iff.mpr ⟨_, ofText_toText_mapReal hf hword hlegible hcheck hnumbers compact⟩

end Figure

end FigureScript
