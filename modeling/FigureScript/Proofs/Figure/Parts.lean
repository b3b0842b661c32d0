import FigureScript.Figure.Reading
import FigureScript.Figure.Writing
import FigureScript.Proofs.Json.Records

/-!
# The parts of figures read back

Series, secondary axes, notes and style suggestions are read back from what is written for
them.  The numbers in them have to survive their notation, each on its own, and their
indices have to fit the words of their types.

## Main Definitions

* `Survives` — a finite number that is read back from its notation
* `Series.numbers`, `Series.InWordRange` — what is asked of the numbers of a series

## Main Results

* `Series.inverts`, `AddedAxis.inverts`, `Note.decode_eq`, `StyleHint.inverts` — reading
  undoes writing
* `Series.storable`, `AddedAxis.storable`, `Note.storable`, `StyleHint.storable` — what is
  written can be stored

## Design Notes

Writing and reading name the fields of a record independently of each other.  The proofs
go through the fields in the order of the reader and look each of them up in what was
written, so that a field that one side forgets or names differently has no proof.
-/

namespace FigureScript

open Json (Value Record Decoder Tagged Entries Fields Storable ReadsAs ReadsBack Inverts)
open Json.Record (seq_eq_ok required_eq_ok optional_eq_ok flag_eq_ok nonempty_eq_ok)

/-! ### Numbers -/

/-- **A finite number that survives its notation** in description files. -/
def Survives (x : Float) : Prop :=
  Number.isFinite x = true ∧ ReadsBack (.real x)

/-- Whether a number survives its notation can be found out by writing and reading it. -/
theorem survives_iff {x : Float} :
    Survives x ↔ (Number.isFinite x && match Json.parse (Number.jsonText x).toList with
      | .ok (.number n) => decide (n = .real x)
      | _ => false) = true := by
  rw [Survives, ReadsBack, Bool.and_eq_true]
  refine and_congr_right fun _ => ?_
  constructor
  · intro h
    change Json.parse (Number.jsonText x).toList = _ at h
    rw [h]
    exact decide_eq_true rfl
  · intro h
    split at h
    next n hparse =>
      change Json.parse (Number.jsonText x).toList = _
      rw [hparse, of_decide_eq_true h]
    next => cases h

instance (x : Float) : Decidable (Survives x) :=
  decidable_of_iff _ survives_iff.symm

/-- **A number is read as `f x`**, if it has a notation in description files at all. -/
def Legible (f : Float → Float) (x : Float) : Prop :=
  Number.isFinite x → ReadsAs (.real x) (.real (f x))

theorem Survives.isFinite {x : Float} (h : Survives x) : Number.isFinite x :=
  h.1

theorem Survives.legible {x : Float} (h : Survives x) : Legible id x :=
  fun _ => h.2.readsAs

def Values.numbers : Values → List Float
  | scalar value => [value]
  | points values => values

def Range.numbers (r : Range) : List Float :=
  [r.first, r.last]

def Series.numbers (s : Series) : List Float :=
  s.x.toList.flatten ++ s.y ++
    [s.xerr, s.yerr, s.xmin, s.xmax, s.ymin, s.ymax].flatMap fun part =>
      part.toList.flatMap Values.numbers

def AddedAxis.numbers (a : AddedAxis) : List Float :=
  a.range.toList.flatMap Range.numbers

def Note.numbers (n : Note) : List Float :=
  [n.x, n.y]

/-- The style indices of a series are signed words of 64 bits, and those of its axes
unsigned words of 32 bits. -/
structure Series.InWordRange (s : Series) : Prop where
  color : ∀ n ∈ s.color, -2 ^ 63 ≤ n ∧ n < 2 ^ 63
  line : ∀ n ∈ s.line, -2 ^ 63 ≤ n ∧ n < 2 ^ 63
  xadded : ∀ k ∈ s.xadded, k < 2 ^ 32
  yadded : ∀ k ∈ s.yadded, k < 2 ^ 32

/-! ### Leaves -/

section Leaves

variable {f : Float → Float} {depth : Nat}

theorem float_eq {x : Float} (h : Number.isFinite x) : Value.float x = .number (.real x) := by
  rw [Value.float, if_pos h]

theorem storable_float {x : Float} (h : Legible f x) : Storable f depth (.float x) := by
  rw [Value.float]
  split
  next hx => exact Json.storable_real (h hx)
  next => exact Json.storable_null

theorem storable_floats {xs : List Float} (h : ∀ x ∈ xs, Legible f x) :
    Storable f (depth + 1) (.floats xs) := by
  refine Json.storable_array fun item hitem => ?_
  obtain ⟨x, hx, rfl⟩ := List.mem_map.mp hitem
  exact storable_float (h x hx)

theorem storable_strings (texts : List String) : Storable f (depth + 1) (.strings texts) := by
  refine Json.storable_array fun item hitem => ?_
  obtain ⟨text, -, rfl⟩ := List.mem_map.mp hitem
  exact Json.storable_string text

theorem decode_float {x : Float} (h : Number.isFinite x) (origin : Json.Origin) :
    Decoder.float origin (.float x) = .ok x := by
  rw [float_eq h]
  rfl

theorem inverts_floats {xs : List Float} (h : ∀ x ∈ xs, Number.isFinite x) :
    Inverts floatList .floats xs where
  ne_null := by simp [Value.floats]
  decode_eq origin := Decoder.list_eq_ok fun x hx => decode_float (h x hx) origin

theorem inverts_string (text : String) : Inverts .string .string text :=
  ⟨by simp, fun _ => rfl⟩

theorem inverts_label (text : String) : Inverts labelDecoder .string text :=
  ⟨by simp, fun _ => rfl⟩

theorem inverts_bool (b : Bool) : Inverts .bool .bool b :=
  ⟨by simp, fun _ => rfl⟩

theorem inverts_strings (texts : List String) : Inverts stringList .strings texts where
  ne_null := by simp [Value.strings]
  decode_eq _ := Decoder.list_eq_ok fun _ _ => rfl

theorem inverts_int64 {n : Int} (h : -2 ^ 63 ≤ n ∧ n < 2 ^ 63) : Inverts .int64 .int n where
  ne_null := by simp [Value.int]
  decode_eq origin := by
    have hbound : Int.pow 2 63 = 2 ^ 63 := rfl
    have hrange : -Int.pow 2 63 ≤ n ∧ n ≤ Int.pow 2 63 - 1 := by
      rw [hbound]
      exact ⟨h.1, by omega⟩
    rw [Decoder.int64, Value.int, Decoder.integer, if_pos hrange]

theorem inverts_nat32 {k : Nat} (h : k < 2 ^ 32) :
    Inverts .nat32 (fun k : Nat => Value.int k) k where
  ne_null := by simp [Value.int]
  decode_eq origin := by
    have hbound : Int.pow 2 32 = 2 ^ 32 := rfl
    have hrange : (0 : Int) ≤ k ∧ (k : Int) ≤ Int.pow 2 32 - 1 := by
      rw [hbound]
      exact ⟨by omega, by omega⟩
    rw [Decoder.nat32, Value.int, Decoder.integer, if_pos hrange]
    rfl

theorem storable_int {n : Int} (h : -2 ^ 63 ≤ n ∧ n < 2 ^ 63) : Storable f depth (.int n) :=
  Json.storable_integer (Json.readsBack_integer h.1 h.2)

theorem storable_nat {k : Nat} (h : k < 2 ^ 32) : Storable f depth (.int k) :=
  Json.storable_integer (Json.readsBack_nat (by omega))

/-! ### Ranges and values -/

theorem storable_range {r : Range} (h : ∀ x ∈ r.numbers, Legible f x) :
    Storable f (depth + 1) r.toJson :=
  storable_floats h

theorem inverts_range {r : Range} (h : ∀ x ∈ r.numbers, Number.isFinite x) :
    Inverts Range.decoder Range.toJson r where
  ne_null := by simp [Range.toJson, Value.floats]
  decode_eq origin := by
    have hfirst := decode_float (h r.first List.mem_cons_self) origin
    have hlast := decode_float (h r.last (List.mem_cons_of_mem _ List.mem_cons_self)) origin
    exact Decoder.map_eq_ok (Decoder.pair_eq_ok hfirst hlast)

theorem storable_values {v : Values} (h : ∀ x ∈ v.numbers, Legible f x) :
    Storable f (depth + 1) v.toJson := by
  cases v with
  | scalar value => exact storable_float (h value List.mem_cons_self)
  | points values => exact storable_floats h

theorem inverts_values {v : Values} (h : ∀ x ∈ v.numbers, Number.isFinite x) :
    Inverts Values.decoder Values.toJson v := by
  cases v with
  | scalar value =>
      have hvalue := h value List.mem_cons_self
      refine ⟨?_, fun origin => ?_⟩
      · rw [Values.toJson, float_eq hvalue]
        simp
      · rw [Values.toJson, float_eq hvalue]
        rfl
  | points values =>
      refine ⟨by simp [Values.toJson, Value.floats], fun origin => ?_⟩
      have hlist : floatList origin (Value.floats values) = .ok values :=
        (inverts_floats h).decode_eq origin
      rw [floatList, Value.floats] at hlist
      rw [Values.toJson, Value.floats, Values.decoder]
      · simp only [hlist]
      · exact fun n hn => nomatch hn

end Leaves

/-! ### Fields -/

section Fields

variable {α : Type} {f : Float → Float} {depth : Nat} {encode : α → Value}

/-- A field that is written when it is present is storable. -/
theorem storable_optional {part : Option α} (h : ∀ a ∈ part, Storable f depth (encode a)) :
    ∀ value ∈ part.map encode, Storable f depth value := by
  intro value hvalue
  obtain ⟨a, ha, rfl⟩ := Option.map_eq_some_iff.mp hvalue
  exact h a ha

theorem storable_flag (on : Bool) :
    ∀ value ∈ flag on, Storable f depth value := by
  cases on with
  | false => exact fun value hvalue => nomatch hvalue
  | true =>
      rintro value ⟨⟩
      exact Json.storable_bool true

theorem storable_nonempty {items : List α} (h : ∀ a ∈ items, Storable f depth (encode a)) :
    ∀ value ∈ nonempty encode items, Storable f (depth + 1) value := by
  intro value hvalue
  unfold nonempty at hvalue
  split at hvalue
  · cases hvalue
  · cases hvalue
    refine Json.storable_array fun item hitem => ?_
    obtain ⟨a, ha, rfl⟩ := List.mem_map.mp hitem
    exact h a ha

theorem storable_texts (text : Option String) :
    ∀ value ∈ text.map Value.string, Storable f depth value :=
  storable_optional fun text _ => Json.storable_string text

end Fields

/-! ### Series -/

/-- A condition on all numbers in the parts of a series. -/
structure Series.OnParts (p : Float → Prop) (s : Series) : Prop where
  x : ∀ xs ∈ s.x, ∀ x ∈ xs, p x
  y : ∀ y ∈ s.y, p y
  bars : ∀ part ∈ [s.xerr, s.yerr, s.xmin, s.xmax, s.ymin, s.ymax], ∀ v ∈ part, ∀ x ∈ v.numbers,
    p x

namespace Series

theorem onParts_iff {p : Float → Prop} {s : Series} : s.OnParts p ↔ ∀ x ∈ s.numbers, p x := by
  constructor
  · intro h x hx
    rcases List.mem_append.mp hx with hx | hx
    · rcases List.mem_append.mp hx with hx | hx
      · obtain ⟨xs, hxs, hx⟩ := List.mem_flatten.mp hx
        exact h.x xs (Option.mem_toList.mp hxs) x hx
      · exact h.y x hx
    · obtain ⟨part, hpart, hx⟩ := List.mem_flatMap.mp hx
      obtain ⟨v, hv, hx⟩ := List.mem_flatMap.mp hx
      exact h.bars part hpart v (Option.mem_toList.mp hv) x hx
  · intro h
    constructor
    · intro xs hxs x hx
      refine h x (List.mem_append_left _ (List.mem_append_left _ ?_))
      exact List.mem_flatten.mpr ⟨xs, Option.mem_toList.mpr hxs, hx⟩
    · exact fun y hy => h y (List.mem_append_left _ (List.mem_append_right _ hy))
    · intro part hpart v hv x hx
      refine h x (List.mem_append_right _ (List.mem_flatMap.mpr ⟨part, hpart, ?_⟩))
      exact List.mem_flatMap.mpr ⟨v, Option.mem_toList.mpr hv, hx⟩

/-- The extents of error bars are storable. -/
theorem OnParts.storable_bars {f : Float → Float} {s : Series} (h : s.OnParts (Legible f))
    {depth : Nat}
    {part : Option Values} (hpart : part ∈ [s.xerr, s.yerr, s.xmin, s.xmax, s.ymin, s.ymax]) :
    ∀ value ∈ part.map Values.toJson, Storable f (depth + 1) value :=
  storable_optional fun v hv => storable_values (h.bars part hpart v hv)

theorem sorted_written (s : Series) : Fields.Sorted s.written := by
  change ["color", "joined", "label", "line", "x", "xadded", "xerr", "xmax", "xmin", "y",
    "yadded", "yerr", "ymax", "ymin"].Pairwise (· < ·)
  decide

/-- **A series is storable.** -/
theorem storable {f : Float → Float} {s : Series} {depth : Nat} (h : s.OnParts (Legible f))
    (hword : s.InWordRange) : Storable f (depth + 2) s.toJson := by
  refine Json.storable_ofPresent s.sorted_written ?_
  simp only [written, List.forall_mem_cons]
  refine ⟨?_, ?_, ?_, ?_, ?_, ?_, ?_, ?_, ?_, ?_, ?_, ?_, ?_, ?_,
    fun field hfield => nomatch hfield⟩
  · exact storable_optional fun n hn => storable_int (hword.color n hn)
  · exact storable_optional fun b _ => Json.storable_bool b
  · exact storable_texts s.label
  · exact storable_optional fun n hn => storable_int (hword.line n hn)
  · exact storable_optional fun xs hxs => storable_floats (h.x xs hxs)
  · exact storable_optional fun k hk => storable_nat (hword.xadded k hk)
  · exact h.storable_bars (by simp)
  · exact h.storable_bars (by simp)
  · exact h.storable_bars (by simp)
  · rintro value ⟨⟩
    exact storable_floats h.y
  · exact storable_optional fun k hk => storable_nat (hword.yadded k hk)
  · exact h.storable_bars (by simp)
  · exact h.storable_bars (by simp)
  · exact h.storable_bars (by simp)

/-- **A series is read back** from entries that hold what was written. -/
theorem ofEntries_eq {s : Series} (h : s.OnParts fun x => Number.isFinite x) (hword : s.InWordRange)
    {origin : Json.Origin}
    {entries : Entries}
    (hholds : ∀ name value, (name, value) ∈ s.written → entries.Holds name value) :
    Series.fields.ofEntries origin entries = .ok s := by
  have hbars {part : Option Values}
      (hpart : part ∈ [s.xerr, s.yerr, s.xmin, s.xmax, s.ymin, s.ymax]) :
      ∀ v ∈ part, Inverts Values.decoder Values.toJson v :=
    fun v hv => inverts_values (h.bars part hpart v hv)
  change Series.fields.ofEntries origin entries = .ok (Series.mk s.x s.y s.label s.color s.line
    s.joined s.xerr s.yerr s.xmin s.xmax s.ymin s.ymax s.xadded s.yadded)
  unfold Series.fields
  repeat' refine seq_eq_ok ?_ ?_
  · rfl
  · exact optional_eq_ok (hholds "x" _ (by simp [written])) fun xs hxs =>
      inverts_floats (h.x xs hxs)
  · exact required_eq_ok (hholds "y" _ (by simp [written])) ((inverts_floats h.y).decode_eq origin)
  · exact optional_eq_ok (hholds "label" _ (by simp [written])) fun text _ => inverts_label text
  · exact optional_eq_ok (hholds "color" _ (by simp [written])) fun n hn =>
      inverts_int64 (hword.color n hn)
  · exact optional_eq_ok (hholds "line" _ (by simp [written])) fun n hn =>
      inverts_int64 (hword.line n hn)
  · exact optional_eq_ok (hholds "joined" _ (by simp [written])) fun b _ => inverts_bool b
  · exact optional_eq_ok (hholds "xerr" _ (by simp [written])) (hbars (by simp))
  · exact optional_eq_ok (hholds "yerr" _ (by simp [written])) (hbars (by simp))
  · exact optional_eq_ok (hholds "xmin" _ (by simp [written])) (hbars (by simp))
  · exact optional_eq_ok (hholds "xmax" _ (by simp [written])) (hbars (by simp))
  · exact optional_eq_ok (hholds "ymin" _ (by simp [written])) (hbars (by simp))
  · exact optional_eq_ok (hholds "ymax" _ (by simp [written])) (hbars (by simp))
  · exact optional_eq_ok (hholds "xadded" _ (by simp [written])) fun k hk =>
      inverts_nat32 (hword.xadded k hk)
  · exact optional_eq_ok (hholds "yadded" _ (by simp [written])) fun k hk =>
      inverts_nat32 (hword.yadded k hk)

theorem inverts {s : Series} (h : s.OnParts fun x => Number.isFinite x) (hword : s.InWordRange) :
    Inverts (Series.fields.decoder "struct Series") Series.toJson s :=
  Json.inverts_record s.sorted_written fun _ _ hholds => ofEntries_eq h hword hholds

end Series

/-! ### Secondary axes, notes and style suggestions -/

namespace AddedAxis

theorem sorted_written (a : AddedAxis) : Fields.Sorted a.written := by
  change ["label", "legendlabel", "log", "range"].Pairwise (· < ·)
  decide

theorem on_range {p : Float → Prop} {a : AddedAxis} (h : ∀ x ∈ a.numbers, p x) :
    ∀ r ∈ a.range, ∀ x ∈ r.numbers, p x :=
  fun r hr x hx => h x (List.mem_flatMap.mpr ⟨r, Option.mem_toList.mpr hr, hx⟩)

theorem storable {f : Float → Float} {a : AddedAxis} {depth : Nat}
    (h : ∀ x ∈ a.numbers, Legible f x) : Storable f (depth + 2) a.toJson := by
  refine Json.storable_ofPresent a.sorted_written ?_
  simp only [written, List.forall_mem_cons]
  refine ⟨?_, ?_, ?_, ?_, fun field hfield => nomatch hfield⟩
  · exact storable_texts a.label
  · exact storable_texts a.legendLabel
  · exact storable_flag a.log
  · exact storable_optional fun r hr => storable_range (on_range h r hr)

theorem inverts {a : AddedAxis} (h : ∀ x ∈ a.numbers, Number.isFinite x) :
    Inverts (AddedAxis.fields.decoder "struct AddedAxis") AddedAxis.toJson a := by
  refine Json.inverts_record a.sorted_written fun origin entries hholds => ?_
  change AddedAxis.fields.ofEntries origin entries =
    .ok (AddedAxis.mk a.range a.log a.label a.legendLabel)
  unfold AddedAxis.fields
  repeat' refine seq_eq_ok ?_ ?_
  · rfl
  · exact optional_eq_ok (hholds "range" _ (by simp [written])) fun r hr =>
      inverts_range (on_range h r hr)
  · exact flag_eq_ok (hholds "log" _ (by simp [written, flag]))
  · exact optional_eq_ok (hholds "label" _ (by simp [written])) fun text _ => inverts_string text
  · exact optional_eq_ok (hholds "legendlabel" _ (by simp [written])) fun text _ =>
      inverts_string text

end AddedAxis

namespace Note

/-- The fields of a note, its tag among them. -/
def written (n : Note) : Fields :=
  [("text", some (.string n.text)), ("type", some (.string "text")), ("x", some (.float n.x)),
    ("y", some (.float n.y))]

theorem sorted_written (n : Note) : Fields.Sorted n.written := by
  change ["text", "type", "x", "y"].Pairwise (· < ·)
  decide

theorem storable {f : Float → Float} {n : Note} {depth : Nat}
    (h : ∀ x ∈ n.numbers, Legible f x) : Storable f (depth + 1) n.toJson := by
  change Storable f (depth + 1) (.ofPresent n.written)
  refine Json.storable_ofPresent n.sorted_written ?_
  simp only [written, List.forall_mem_cons]
  refine ⟨?_, ?_, ?_, ?_, fun field hfield => nomatch hfield⟩
  · rintro value ⟨⟩
    exact Json.storable_string n.text
  · rintro value ⟨⟩
    exact Json.storable_string "text"
  · rintro value ⟨⟩
    exact storable_float (h n.x (by simp [numbers]))
  · rintro value ⟨⟩
    exact storable_float (h n.y (by simp [numbers]))

theorem decode_eq {n : Note} (h : ∀ x ∈ n.numbers, Number.isFinite x) (origin : Json.Origin) :
    Note.tagged.decoder origin n.toJson = .ok n := by
  have hholds (name : String) (value : Option Value) (hmem : (name, value) ∈ n.written) :
      Entries.Holds (Fields.present n.written) name value :=
    Entries.holds_present n.sorted_written hmem
  change Note.tagged.decoder origin (.object (Fields.present n.written)) = _
  refine Tagged.decoder_eq_ok (hholds "type" (some (.string "text")) (by simp [written])) rfl
    (Record.decoder_eq_ok ?_)
  change Note.fields.ofEntries .collected _ = .ok (Note.mk n.x n.y n.text)
  unfold Note.fields
  repeat' refine seq_eq_ok ?_ ?_
  · rfl
  · exact required_eq_ok ((hholds "x" _ (by simp [written])).drop (by decide))
      (decode_float (h n.x (by simp [numbers])) .collected)
  · exact required_eq_ok ((hholds "y" _ (by simp [written])).drop (by decide))
      (decode_float (h n.y (by simp [numbers])) .collected)
  · exact required_eq_ok ((hholds "text" (some (.string n.text)) (by simp [written])).drop
      (by decide)) rfl

end Note

namespace StyleHint

theorem sorted_written (h : StyleHint) : Fields.Sorted h.written := by
  change ["colors", "lines", "markers"].Pairwise (· < ·)
  decide

theorem storable (h : StyleHint) {f : Float → Float} {depth : Nat} :
    Storable f (depth + 2) h.toJson := by
  refine Json.storable_ofPresent h.sorted_written ?_
  simp only [written, List.forall_mem_cons]
  refine ⟨?_, ?_, ?_, fun field hfield => nomatch hfield⟩
  · exact storable_optional fun texts _ => storable_strings texts
  · exact storable_optional fun texts _ => storable_strings texts
  · exact storable_optional fun texts _ => storable_strings texts

theorem inverts (h : StyleHint) : Inverts StyleHint.decoder StyleHint.toJson h := by
  refine Json.inverts_record h.sorted_written fun origin entries hholds => ?_
  change StyleHint.fields.ofEntries origin entries = .ok (StyleHint.mk h.lines h.colors h.markers)
  unfold StyleHint.fields
  repeat' refine seq_eq_ok ?_ ?_
  · rfl
  · exact optional_eq_ok (hholds "lines" _ (by simp [written])) fun texts _ => inverts_strings texts
  · exact optional_eq_ok (hholds "colors" _ (by simp [written])) fun texts _ =>
      inverts_strings texts
  · exact optional_eq_ok (hholds "markers" _ (by simp [written])) fun texts _ =>
      inverts_strings texts

end StyleHint

end FigureScript
