import FigureScript.Json.Decode
import FigureScript.Proofs.Json.Layout

/-!
# Records read back

A record is written as an object of those fields that have a value.  It is read back when
each of its fields is, and writing it keeps the keys sorted, so that the canonical form
of the object is the object itself.

## Main Definitions

* `Entries.Holds` — what stands under a key of an object
* `Inverts` — a decoder undoes an encoding
* `Storable` — values that are written and read without change

## Main Results

* `Entries.holds_present` — an object of present fields holds each of them
* `Record.optional_eq_ok`, `Record.required_eq_ok`, `Record.flag_eq_ok`,
  `Record.nonempty_eq_ok` — how each kind of field is read back
* `Tagged.decoder_eq_ok` — how a tagged object is read back
* `storable_ofPresent` — objects of storable fields
-/

namespace FigureScript.Json

open Number Outcome

/-! ### Objects of fields that are present -/

/-- The fields of a record by name, each with its value if it is written. -/
abbrev Fields := List (String × Option Value)

/-- The entries of those fields that have a value. -/
def Fields.present (fields : Fields) : Entries :=
  fields.filterMap fun (key, value) => value.map (key, ·)

/-- The names of the fields are sorted, without repetition. -/
def Fields.Sorted (fields : Fields) : Prop :=
  (fields.map Prod.fst).Pairwise (· < ·)

namespace Entries

/-- **What an object holds under a key**: exactly one value, or none. -/
def Holds (entries : Entries) (key : String) (value : Option Value) : Prop :=
  (entries.filter (·.1 = key)).map (·.2) = value.toList

theorem map_snd_occurrences (key : String) (start : Nat) (entries : Entries) :
    (occurrences key start entries).map (·.2) = (entries.filter (·.1 = key)).map (·.2) := by
  induction entries generalizing start with
  | nil => rfl
  | cons entry rest ih =>
      obtain ⟨k, value⟩ := entry
      by_cases hk : k = key
      · simp only [occurrences, hk, if_true, List.filter_cons, decide_true, List.map_cons, ih]
      · simp only [occurrences, hk, if_false, List.filter_cons, decide_false, ih]
        rfl

theorem Holds.occurrences_eq_nil {entries : Entries} {key : String}
    (h : entries.Holds key none) : occurrences key 0 entries = [] := by
  rw [Holds, ← map_snd_occurrences key 0] at h
  exact List.map_eq_nil_iff.mp h

theorem Holds.occurrences_eq_singleton {entries : Entries} {key : String} {value : Value}
    (h : entries.Holds key (some value)) :
    ∃ place, occurrences key 0 entries = [(place, value)] := by
  rw [Holds, ← map_snd_occurrences key 0] at h
  obtain ⟨⟨place, value'⟩, hentries, rfl⟩ := List.map_eq_singleton_iff.mp h
  exact ⟨place, hentries⟩

/-- A value that is held is found by its key. -/
theorem Holds.get?_eq {entries : Entries} {key : String} {value : Value}
    (h : entries.Holds key (some value)) : entries.get? key = some value := by
  obtain ⟨entry, hentries, rfl⟩ := List.map_eq_singleton_iff.mp h
  rw [get?, ← List.head?_filter, hentries]
  rfl

/-- Dropping another key does not change what is held. -/
theorem Holds.drop {entries : Entries} {key other : String} {value : Option Value}
    (h : entries.Holds key value) (hne : key ≠ other) :
    Holds (entries.filter (·.1 ≠ other)) key value := by
  have hboth : ((fun entry : String × Value => decide (entry.1 = key)) ·) =
      fun entry : String × Value => decide (entry.1 = key) && decide (entry.1 ≠ other) := by
    funext entry
    by_cases hkey : entry.1 = key
    · simp [hkey, hne]
    · simp [hkey]
  rw [Holds, List.filter_filter, ← hboth]
  exact h

/-- Each entry comes from a field. -/
theorem mem_present {fields : Fields} {key : String} {value : Value} :
    (key, value) ∈ fields.present ↔ (key, some value) ∈ fields := by
  simp only [Fields.present, List.mem_filterMap, Prod.exists]
  constructor
  · rintro ⟨k, v, hmem, heq⟩
    obtain ⟨a, rfl, hpair⟩ := Option.map_eq_some_iff.mp heq
    obtain ⟨rfl, rfl⟩ := Prod.mk.inj hpair
    exact hmem
  · exact fun hmem => ⟨key, some value, hmem, rfl⟩

/-- An object holds nothing under a name that is no field's. -/
theorem filter_present_eq_nil {fields : Fields} {key : String}
    (h : key ∉ fields.map Prod.fst) : fields.present.filter (·.1 = key) = [] := by
  rw [List.filter_eq_nil_iff]
  rintro ⟨k, value⟩ hmem hkey
  have hk : k = key := by simpa using hkey
  exact h (List.mem_map.mpr ⟨(k, some value), mem_present.mp hmem, hk⟩)

/-- **An object of present fields holds each of them** under its name. -/
theorem holds_present {fields : Fields} (hsorted : fields.Sorted) {key : String}
    {value : Option Value} (hmem : (key, value) ∈ fields) : fields.present.Holds key value := by
  induction fields with
  | nil => cases hmem
  | cons field rest ih =>
      obtain ⟨k, v⟩ := field
      rw [Fields.Sorted, List.map_cons, List.pairwise_cons] at hsorted
      obtain ⟨hfirst, hrest⟩ := hsorted
      have hpresent : Fields.present ((k, v) :: rest) =
          (v.map (k, ·)).toList ++ Fields.present rest := by
        cases v <;> rfl
      rw [Holds, hpresent, List.filter_append, List.map_append]
      rcases List.mem_cons.mp hmem with heq | hmem
      · obtain ⟨rfl, rfl⟩ := Prod.mk.inj heq
        have hnone : key ∉ rest.map Prod.fst := fun hmem =>
          String.lt_irrefl key (hfirst key hmem)
        rw [filter_present_eq_nil hnone]
        cases value with
        | none => rfl
        | some value => simp
      · have hne : k ≠ key := by
          rintro rfl
          exact String.lt_irrefl k (hfirst k (List.mem_map.mpr ⟨_, hmem, rfl⟩))
        have hhead : (v.map (k, ·)).toList.filter (·.1 = key) = [] := by
          cases v <;> simp [hne]
        rw [hhead]
        exact ih hrest hmem

end Entries

/-! ### Fields -/

/-- **A decoder undoes an encoding** of a value, which it does not take for an absent one. -/
structure Inverts {α : Type} (decode : Decoder α) (encode : α → Value) (a : α) : Prop where
  ne_null : encode a ≠ .null
  decode_eq : ∀ origin, decode origin (encode a) = .ok a

namespace Record

variable {α β : Type} {entries : Entries} {name : String} {origin : Origin}

theorem field_absent {absent : Option α} {decode : Decoder α} {a : α}
    (h : entries.Holds name none) (habsent : absent = some a) :
    (field name absent decode).ofEntries origin entries = .ok a := by
  unfold field
  simp only [h.occurrences_eq_nil, habsent]

theorem field_present {absent : Option α} {decode : Decoder α} {value : Value} {a : α}
    (h : entries.Holds name (some value)) (ha : decode origin value = .ok a) :
    (field name absent decode).ofEntries origin entries = .ok a := by
  obtain ⟨place, hplace⟩ := h.occurrences_eq_singleton
  unfold field
  simp only [hplace, ha]

/-- **A required field** is read back. -/
theorem required_eq_ok {decode : Decoder α} {value : Value} {a : α}
    (h : entries.Holds name (some value)) (ha : decode origin value = .ok a) :
    (required name decode).ofEntries origin entries = .ok a :=
  field_present h ha

/-- **An optional field** is read back, whether it is there or not. -/
theorem optional_eq_ok {decode : Decoder α} {encode : α → Value} {a : Option α}
    (h : entries.Holds name (a.map encode)) (ha : ∀ b ∈ a, Inverts decode encode b) :
    (optional name decode).ofEntries origin entries = .ok a := by
  cases a with
  | none => exact field_absent h rfl
  | some b =>
      have hb := ha b rfl
      refine field_present h ?_
      have hne := hb.ne_null
      have hdecode := hb.decode_eq origin
      unfold Decoder.nullable
      cases hvalue : encode b <;> simp_all [Except.map]

/-- **A switch** is read back. -/
theorem flag_eq_ok {on : Bool} (h : entries.Holds name (if on then some (.bool true) else none)) :
    (defaulted name false .bool).ofEntries origin entries = .ok on := by
  cases on with
  | false => exact field_absent h rfl
  | true => exact field_present h rfl

/-- Fields one behind the other are read back together. -/
theorem seq_eq_ok {f : Record (α → β)} {r : Record α} {g : α → β} {a : α}
    (hf : f.ofEntries origin entries = .ok g) (hr : r.ofEntries origin entries = .ok a) :
    (f <*> r).ofEntries origin entries = .ok (g a) := by
  change (Record.seq f r).ofEntries origin entries = .ok (g a)
  rw [Record.seq]
  simp only [hf, hr]

theorem decoder_eq_ok {type : String} {record : Record α} {a : α}
    (h : record.ofEntries origin entries = .ok a) :
    record.decoder type origin (.object entries) = .ok a := by
  change (record.ofEntries origin entries).mapError Misfit.error = _
  rw [h]
  rfl

end Record

/-! ### Lists and tagged objects -/

namespace Decoder

variable {α : Type} {decode : Decoder α} {encode : α → Value} {origin : Origin}

/-- **A list** is read back item by item. -/
theorem list_eq_ok {items : List α} (h : ∀ a ∈ items, decode origin (encode a) = .ok a) :
    list decode origin (.array (items.map encode)) = .ok items := by
  change (items.map encode).mapM (decode origin) = _
  rw [mapM_eq_ok, List.forall₂_map_left_iff, List.forall₂_same]
  exact h

theorem map_eq_ok {β : Type} {f : α → β} {value : Value} {a : α}
    (h : decode origin value = .ok a) : map f decode origin value = .ok (f a) := by
  rw [map, h]
  rfl

theorem pair_eq_ok {first second : α} (h : decode origin (encode first) = .ok first)
    (h' : decode origin (encode second) = .ok second) :
    pair decode origin (.array [encode first, encode second]) = .ok (first, second) := by
  unfold pair
  simp only [h, h', bind, Except.bind]
  rfl

end Decoder

/-- A list that is written only when it has items is read back. -/
theorem Record.nonempty_eq_ok {α : Type} {entries : Entries} {name : String} {origin : Origin}
    {decode : Decoder α} {encode : α → Value} {items : List α}
    (h : entries.Holds name
      (if items.isEmpty then none else some (.array (items.map encode))))
    (hitems : ∀ a ∈ items, decode origin (encode a) = .ok a) :
    (defaulted name [] (.list decode)).ofEntries origin entries = .ok items := by
  cases items with
  | nil => exact field_absent h rfl
  | cons a rest => exact field_present h (Decoder.list_eq_ok hitems)

/-- **A record is read back** from the object of its fields. -/
theorem inverts_record {α : Type} {record : Record α} {type : String} {written : α → Fields}
    {a : α} (hsorted : (written a).Sorted)
    (h : ∀ (origin : Origin) (entries : Entries),
      (∀ name value, (name, value) ∈ written a → entries.Holds name value) →
        record.ofEntries origin entries = .ok a) :
    Inverts (record.decoder type) (fun a => .ofPresent (written a)) a where
  ne_null := by simp [Value.ofPresent]
  decode_eq origin := Record.decoder_eq_ok
    (h origin (written a).present fun _ _ hmem => Entries.holds_present hsorted hmem)

/-- **A tagged object** is read back by the case that its tag names. -/
theorem Tagged.decoder_eq_ok {α : Type} {t : Tagged α} {entries : Entries} {name : String}
    {decode : Decoder α} {origin : Origin} {a : α}
    (h : entries.Holds "type" (some (.string name))) (hname : t.named name = .ok decode)
    (ha : decode .collected (.object (entries.filter (·.1 ≠ "type"))) = .ok a) :
    t.decoder origin (.object entries) = .ok a := by
  have htag : t.tag origin (.string name) = .ok decode := hname
  unfold decoder
  simp only [Record.required_eq_ok h htag, Except.mapError, bind, Except.bind]
  exact ha

/-! ### What has been read -/

section IsOk

variable {α β : Type} {decode : Decoder α} {origin : Origin} {entries : Entries} {name : String}

/-- What is read as a floating point number was written as one. -/
theorem Decoder.isOk_float (x : Float) : (Decoder.float origin (.float x)).isOk = isFinite x := by
  unfold Value.float
  cases isFinite x <;> rfl

theorem Decoder.isOk_map {f : α → β} {value : Value} :
    (map f decode origin value).isOk = (decode origin value).isOk := by
  unfold map
  cases decode origin value <;> rfl

/-- The items of a list that is read are read. -/
theorem Decoder.isOk_of_list {encode : β → Value} {items : List β}
    (h : (list decode origin (.array (items.map encode))).isOk) :
    ∀ b ∈ items, (decode origin (encode b)).isOk := by
  intro b hb
  change ((items.map encode).mapM (decode origin)).isOk at h
  exact isOk_of_mapM h (encode b) (List.mem_map_of_mem hb)

theorem Decoder.isOk_of_pair {first second : Value}
    (h : (pair decode origin (.array [first, second])).isOk) :
    (decode origin first).isOk ∧ (decode origin second).isOk := by
  unfold pair at h
  cases hfirst : decode origin first with
  | error e =>
      simp only [hfirst, bind, Except.bind] at h
      cases h
  | ok a =>
      cases hsecond : decode origin second with
      | error e =>
          simp only [hfirst, hsecond, bind, Except.bind] at h
          cases h
      | ok b => exact ⟨rfl, rfl⟩

namespace Record

theorem isOk_seq {f : Record (α → β)} {r : Record α} :
    ((f <*> r).ofEntries origin entries).isOk ↔
      (f.ofEntries origin entries).isOk ∧ (r.ofEntries origin entries).isOk := by
  change ((seq f r).ofEntries origin entries).isOk ↔ _
  unfold seq
  cases hf : f.ofEntries origin entries <;> cases hr : r.ofEntries origin entries <;>
    simp [hf, hr, Except.isOk, Except.toBool]

theorem isOk_field {absent : Option α} {value : Value} (hholds : entries.Holds name (some value))
    (h : ((field name absent decode).ofEntries origin entries).isOk) :
    (decode origin value).isOk := by
  obtain ⟨place, hplace⟩ := hholds.occurrences_eq_singleton
  unfold field at h
  cases hvalue : decode origin value with
  | ok a => rfl
  | error e =>
      simp only [hplace, hvalue] at h
      cases h

/-- The value of an optional field is read unless it is `null`. -/
theorem isOk_optional {encode : β → Value} {part : Option β}
    (hholds : entries.Holds name (part.map encode))
    (h : ((optional name decode).ofEntries origin entries).isOk) {b : β} (hb : b ∈ part)
    (hne : encode b ≠ .null) : (decode origin (encode b)).isOk := by
  cases hb
  have hvalue := isOk_field hholds h
  unfold Decoder.nullable at hvalue
  cases hencode : encode b <;> cases hdecode : decode origin (encode b) <;>
    simp_all [Except.map, Except.isOk, Except.toBool]

/-- The items of a list that is written only when it has some are read. -/
theorem isOk_nonempty {encode : β → Value} {items : List β}
    (hholds : entries.Holds name
      (if items.isEmpty then none else some (.array (items.map encode))))
    (h : ((defaulted name [] (.list decode)).ofEntries origin entries).isOk) :
    ∀ b ∈ items, (decode origin (encode b)).isOk := by
  cases items with
  | nil => exact List.forall_mem_nil _
  | cons b rest => exact Decoder.isOk_of_list (isOk_field hholds h)

theorem isOk_decoder {type : String} {record : Record α} :
    (record.decoder type origin (.object entries)).isOk =
      (record.ofEntries origin entries).isOk := by
  change ((record.ofEntries origin entries).mapError Misfit.error).isOk = _
  cases record.ofEntries origin entries <;> rfl

end Record

/-- A tagged object that is read is read by the case that its tag names. -/
theorem Tagged.isOk_of_decoder {t : Tagged α} (h : entries.Holds "type" (some (.string name)))
    (hname : t.named name = .ok decode) (hok : (t.decoder origin (.object entries)).isOk) :
    (decode .collected (.object (entries.filter (·.1 ≠ "type")))).isOk := by
  have htag : t.tag origin (.string name) = .ok decode := hname
  unfold decoder at hok
  simp only [Record.required_eq_ok h htag, Except.mapError, bind, Except.bind] at hok
  exact hok

end IsOk

/-! ### Canonical objects -/

namespace Entries

/-- A key behind all others is added at the end. -/
theorem insert_last {entries : Entries} {key : String} {value : Value}
    (h : ∀ entry ∈ entries, entry.1 < key) :
    insert key value entries = entries ++ [(key, value)] := by
  induction entries with
  | nil => rfl
  | cons entry rest ih =>
      obtain ⟨k, v⟩ := entry
      rw [List.forall_mem_cons] at h
      have hlt : ¬key < k := String.lt_asymm h.1
      have hne : ¬key = k := by
        rintro rfl
        exact String.lt_irrefl key h.1
      rw [insert, if_neg hlt, if_neg hne, ih h.2, List.cons_append]

/-- Entries with sorted keys stay as they are. -/
theorem foldl_insert (done : Entries) {entries : Entries}
    (h : (done ++ entries).Pairwise fun a b => a.1 < b.1) :
    entries.foldl (fun sorted entry => insert entry.1 entry.2 sorted) done = done ++ entries := by
  induction entries generalizing done with
  | nil => rw [List.foldl_nil, List.append_nil]
  | cons entry rest ih =>
      have hlast : ∀ e ∈ done, e.1 < entry.1 := fun e he =>
        (List.pairwise_append.mp h).2.2 e he entry List.mem_cons_self
      rw [List.append_cons] at h
      have htail := ih (done ++ [entry]) h
      rw [List.append_assoc] at htail
      rw [List.foldl_cons, insert_last hlast]
      exact htail

theorem sorted_eq_self {entries : Entries} (h : entries.Pairwise fun a b => a.1 < b.1) :
    sorted entries = entries :=
  foldl_insert [] h

/-- The fields that are present are sorted like all of them. -/
theorem pairwise_present {fields : Fields} (hsorted : fields.Sorted) :
    fields.present.Pairwise fun a b => a.1 < b.1 := by
  refine List.Pairwise.filterMap _ ?_ (List.pairwise_map.mp hsorted)
  rintro ⟨k, v⟩ ⟨k', v'⟩ hlt entry hentry entry' hentry'
  obtain ⟨a, -, rfl⟩ := Option.map_eq_some_iff.mp hentry
  obtain ⟨a', -, rfl⟩ := Option.map_eq_some_iff.mp hentry'
  exact hlt

end Entries

namespace Value

theorem canonicalItems_eq_map (items : List Value) :
    canonicalItems items = items.map canonical := by
  induction items with
  | nil => rw [canonicalItems, List.map_nil]
  | cons item rest ih => rw [canonicalItems, ih, List.map_cons]

theorem canonicalEntries_eq_map (entries : Entries) :
    canonicalEntries entries = entries.map fun entry => (entry.1, entry.2.canonical) := by
  induction entries with
  | nil => rw [canonicalEntries, List.map_nil]
  | cons entry rest ih => rw [canonicalEntries, ih, List.map_cons]

end Value

/-! ### Storable values -/

/-- **A value that is written and read** inside of `depth` more containers with no other
change than that of its real numbers: it can be read, and what is read is canonical. -/
structure Storable (f : Float → Float) (depth : Nat) (value : Value) : Prop where
  readable : Readable f depth value
  canonical_eq : (value.mapReal f).canonical = value.mapReal f

variable {f : Float → Float} {depth : Nat}

theorem storable_null : Storable f depth .null :=
  ⟨by rw [Readable] <;> simp, by simp [Value.canonical]⟩

theorem storable_string (text : String) : Storable f depth (.string text) :=
  ⟨by rw [Readable] <;> simp, by simp [Value.canonical]⟩

theorem storable_bool (b : Bool) : Storable f depth (.bool b) :=
  ⟨by rw [Readable] <;> simp, by simp [Value.canonical]⟩

theorem storable_integer {n : Int} (h : ReadsBack (.integer n)) :
    Storable f depth (.number (.integer n)) :=
  ⟨by rwa [Readable], by simp [Value.canonical]⟩

theorem storable_real {x : Float} (h : ReadsAs (.real x) (.real (f x))) :
    Storable f depth (.number (.real x)) :=
  ⟨by rwa [Readable], by simp [Value.canonical]⟩

theorem storable_array {items : List Value} (h : ∀ item ∈ items, Storable f depth item) :
    Storable f (depth + 1) (.array items) := by
  constructor
  · rw [Readable]
    exact fun item hitem => (h item hitem).readable
  · rw [Value.mapReal_array, Value.canonical, Value.canonicalItems_eq_map, List.map_map]
    exact congrArg Value.array
      (List.map_congr_left fun item hitem => (h item hitem).canonical_eq)

/-- **An object of storable fields** is storable if the names are sorted. -/
theorem storable_ofPresent {fields : Fields} (hsorted : fields.Sorted)
    (h : ∀ field ∈ fields, ∀ value ∈ field.2, Storable f depth value) :
    Storable f (depth + 1) (.ofPresent fields) := by
  have hentries : ∀ entry ∈ fields.present, Storable f depth entry.2 := by
    rintro ⟨key, value⟩ hmem
    exact h (key, some value) (Entries.mem_present.mp hmem) value rfl
  have hsame : Value.canonicalEntries (fields.present.map (Value.mapRealEntry f)) =
      fields.present.map (Value.mapRealEntry f) := by
    rw [Value.canonicalEntries_eq_map, List.map_map]
    refine List.map_congr_left fun entry hentry => ?_
    exact congrArg (entry.1, ·) (hentries entry hentry).canonical_eq
  constructor
  · exact fun entry hentry => (hentries entry hentry).readable
  · change ((Value.object fields.present).mapReal f).canonical =
      (Value.object fields.present).mapReal f
    rw [Value.mapReal_object, Value.canonical, hsame, Entries.sorted_eq_self]
    exact List.pairwise_map.mpr (Entries.pairwise_present hsorted)

end FigureScript.Json
