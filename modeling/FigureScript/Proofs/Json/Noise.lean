import FigureScript.Proofs.Json.Records
import Mathlib.Data.List.Nodup

/-!
# Noise in values

A record is read from the values of its fields, and from nothing else.  So what a value holds
besides them does not matter, nor does it matter whether a part that may be missing is missing or
`null`.  A shape says where records stand in a value and what their fields are; the changes of a
value that its readers do not see are told by its shape alone.

## Main Definitions

* `Slot`, `Shape` — the records in a value, with the names of their fields
* `Shape.Noise` — one change that readers of a shape do not see, at any depth
* `Decoder.Tolerates`, `Record.Tolerates` — a reading that does not see them

## Main Results

* `Record.Tolerates.field`, `Record.Tolerates.seq` — records, field by field
* `Record.Tolerates.decoder` — a record, read from an object or from an array
* `Decoder.Tolerates.list` — lists
* `Tagged.tolerates` — choices, each of whose cases tolerates the noise of its record

## Design Notes

A change is one edit of a value, put down where it happens.  What it does to a record is told by
what the record holds under the name of each field before and after it, and this is all that the
proofs about fields look at.
-/

namespace FigureScript.Json

open Outcome

/-! ### Shapes -/

/-- **A field of a record**: its name, whether `null` may stand for a missing value, and what is
known of its value. -/
structure Slot (Inside : Type) where
  name : String
  nullable : Bool
  inside : Inside

/-- **The records in a value**, and how they are nested. -/
inductive Shape where
  /-- No record at all. -/
  | plain
  | list (item : Shape)
  | record (slots : List (Slot Shape))
  /-- The records between which a tag chooses, by their names. -/
  | choice (cases : List (String × List (Slot Shape)))

namespace Shape

/-- The field that tells the case of a choice. -/
def tagSlot : Slot Shape :=
  ⟨"type", false, .plain⟩

/-- What tells the case of a choice: an entry of an object, or the first item of an array. -/
def tag? : Value → Option Value
  | .object entries => Entries.get? entries "type"
  | .array items => items.head?
  | _ => none

/-- The fields of the case that a tag names, or whose number it is. -/
def named (cases : List (String × List (Slot Shape))) : Value → Option (List (Slot Shape))
  | .string name => (cases.find? (·.1 = name)).map (·.2)
  | .number (.integer (.ofNat n)) => cases[n]?.map (·.2)
  | _ => none

/-- **One change that readers of a shape do not see**: an entry that is no field of its record, a
`null` for a missing value, or such a change further inside. -/
inductive Noise : Shape → Value → Value → Prop where
  /-- An object gets an entry under a name that is no field's. -/
  | unknown {slots : List (Slot Shape)} {before after : Entries} {key : String} {value : Value}
      (hkey : ∀ slot ∈ slots, slot.name ≠ key) :
      Noise (.record slots) (.object (before ++ after)) (.object (before ++ (key, value) :: after))
  /-- A field that an object does not have becomes `null`. -/
  | null {slots : List (Slot Shape)} {slot : Slot Shape} {before after : Entries}
      (hslot : slot ∈ slots) (hnull : slot.nullable = true)
      (habsent : ∀ entry ∈ before ++ after, entry.1 ≠ slot.name) :
      Noise (.record slots) (.object (before ++ after))
        (.object (before ++ (slot.name, .null) :: after))
  /-- The value of a field of an object changes. -/
  | entry {slots : List (Slot Shape)} {slot : Slot Shape} {before after : Entries}
      {value value' : Value} (hslot : slot ∈ slots) (h : Noise slot.inside value value') :
      Noise (.record slots) (.object (before ++ (slot.name, value) :: after))
        (.object (before ++ (slot.name, value') :: after))
  /-- The value of a field changes where a record is an array of its fields. -/
  | place {slots : List (Slot Shape)} {slot : Slot Shape} {before after : List Value}
      {value value' : Value} (hslot : slots[before.length]? = some slot)
      (h : Noise slot.inside value value') :
      Noise (.record slots) (.array (before ++ value :: after)) (.array (before ++ value' :: after))
  /-- The first field that such an array does not reach becomes `null`. -/
  | last {slots : List (Slot Shape)} {slot : Slot Shape} {items : List Value}
      (hslot : slots[items.length]? = some slot) (hnull : slot.nullable = true) :
      Noise (.record slots) (.array items) (.array (items ++ [.null]))
  /-- An item of a list changes. -/
  | item {shape : Shape} {before after : List Value} {value value' : Value}
      (h : Noise shape value value') :
      Noise (.list shape) (.array (before ++ value :: after)) (.array (before ++ value' :: after))
  /-- The record changes that the tag has chosen, of which the tag is a field. -/
  | tagged {cases : List (String × List (Slot Shape))} {slots : List (Slot Shape)}
      {tag value value' : Value} (htag : tag? value = some tag)
      (hcase : named cases tag = some slots) (h : Noise (.record (tagSlot :: slots)) value value') :
      Noise (.choice cases) value value'

end Shape

/-! ### What records hold -/

/-- **What a change does to a field**: nothing, or a `null` stands where nothing was, or the value
changes inside. -/
inductive Slot.Noise (slot : Slot Shape) : Option Value → Option Value → Prop where
  | same (held : Option Value) : Slot.Noise slot held held
  | null (hnull : slot.nullable = true) : Slot.Noise slot none (some .null)
  | inside {value value' : Value} (h : slot.inside.Noise value value') :
      Slot.Noise slot (some value) (some value')

/-- What two objects hold under the name of a field differs by noise. -/
def Slot.NoiseIn (slot : Slot Shape) (entries entries' : Entries) : Prop :=
  ∀ held, entries.Holds slot.name held →
    ∃ held', entries'.Holds slot.name held' ∧ slot.Noise held held'

/-- Two arrays differ by noise, field by field, as far as there are fields. -/
inductive ItemsNoise : List (Slot Shape) → List Value → List Value → Prop where
  | rest (items : List Value) : ItemsNoise [] items items
  | slot {slot : Slot Shape} {slots : List (Slot Shape)} {items items' : List Value}
      (h : slot.Noise items.head? items'.head?) (htail : ItemsNoise slots items.tail items'.tail) :
      ItemsNoise (slot :: slots) items items'

namespace Entries

variable {before after : Entries} {key name : String} {value : Value} {held : Option Value}

/-- An entry under another name is none of those under a name. -/
theorem filter_insert_of_ne (hne : key ≠ name) :
    (before ++ (key, value) :: after).filter (·.1 = name) =
      (before ++ after).filter (·.1 = name) := by
  simp only [List.filter_append, List.filter_cons, hne, decide_false, Bool.false_eq_true, if_false]

/-- An entry under another name does not change what is held. -/
theorem holds_insert_of_ne (hne : key ≠ name) :
    Holds (before ++ (key, value) :: after) name held ↔ Holds (before ++ after) name held := by
  rw [Holds, Holds, filter_insert_of_ne hne]

/-- An entry under another name stays when those under a name are dropped. -/
theorem drop_insert (hne : key ≠ name) :
    (before ++ (key, value) :: after).filter (·.1 ≠ name) =
      before.filter (·.1 ≠ name) ++ (key, value) :: after.filter (·.1 ≠ name) := by
  simp only [List.filter_append, List.filter_cons, hne, ne_eq, not_false_eq_true, decide_true,
    if_true]

/-- Where an entry is held, no other one has its name. -/
theorem holds_insert_iff :
    Holds (before ++ (name, value) :: after) name held ↔
      held = some value ∧ ∀ entry ∈ before ++ after, entry.1 ≠ name := by
  have hnone (entries : Entries) : (entries.filter (·.1 = name)).map (·.2) = [] ↔
      ∀ entry ∈ entries, entry.1 ≠ name := by
    simp only [List.map_eq_nil_iff, List.filter_eq_nil_iff, decide_eq_true_eq, ne_eq]
  rw [List.forall_mem_append, ← hnone before, ← hnone after]
  simp only [Holds, List.filter_append, List.filter_cons, decide_true, if_true, List.map_append,
    List.map_cons]
  cases held with
  | none => simp
  | some a =>
      constructor
      · intro h
        rw [Option.toList_some, List.append_eq_singleton_iff] at h
        rcases h with ⟨hbefore, hafter⟩ | ⟨-, hafter⟩
        · obtain ⟨rfl, hnil⟩ := List.cons.inj hafter
          exact ⟨rfl, hbefore, hnil⟩
        · cases hafter
      · rintro ⟨heq, hbefore, hafter⟩
        cases heq
        rw [hbefore, hafter]
        rfl

/-- Nothing is held under a name that no entry has. -/
theorem Holds.eq_none {entries : Entries} (h : entries.Holds name held)
    (habsent : ∀ entry ∈ entries, entry.1 ≠ name) : held = none := by
  have hnil : entries.filter (·.1 = name) = [] := by
    simpa only [List.filter_eq_nil_iff, decide_eq_true_eq] using habsent
  rw [Holds, hnil] at h
  cases held with
  | none => rfl
  | some value => cases h

end Entries

namespace Shape.Noise

variable {slots : List (Slot Shape)} {slot : Slot Shape} {entries entries' : Entries}
  {items items' : List Value} {value value' : Value}

/-- Objects stay objects. -/
theorem exists_object (h : Noise (.record slots) (.object entries) value') :
    ∃ entries', value' = .object entries' := by
  cases h with
  | unknown hkey => exact ⟨_, rfl⟩
  | null hslot hnull habsent => exact ⟨_, rfl⟩
  | entry hslot hinside => exact ⟨_, rfl⟩

/-- Noise is in lists and records only, and `null` is neither. -/
theorem ne_null {shape : Shape} (h : shape.Noise value value') :
    value ≠ .null ∧ value' ≠ .null := by
  induction h with
  | unknown hkey => exact ⟨nofun, nofun⟩
  | null hslot hnull habsent => exact ⟨nofun, nofun⟩
  | entry hslot hinside => exact ⟨nofun, nofun⟩
  | place hslot hinside => exact ⟨nofun, nofun⟩
  | last hslot hnull => exact ⟨nofun, nofun⟩
  | item hinside => exact ⟨nofun, nofun⟩
  | tagged htag hcase hrecord ih => exact ih

/-- **What an object holds for a field** differs by noise, where the names of the fields differ
from each other. -/
theorem noiseIn (hnodup : (slots.map Slot.name).Nodup)
    (h : Noise (.record slots) (.object entries) (.object entries')) (hslot : slot ∈ slots) :
    slot.NoiseIn entries entries' := by
  have hunique {other : Slot Shape} (hother : other ∈ slots) (hname : other.name = slot.name) :
      other = slot :=
    List.inj_on_of_nodup_map hnodup hother hslot hname
  intro held hheld
  cases h with
  | unknown hkey =>
      exact ⟨held, (Entries.holds_insert_of_ne (hkey slot hslot).symm).mpr hheld, .same held⟩
  | @null _ other _ _ hother hnull habsent =>
      by_cases hname : other.name = slot.name
      · cases hunique hother hname
        cases hheld.eq_none habsent
        exact ⟨some .null, Entries.holds_insert_iff.mpr ⟨rfl, habsent⟩, .null hnull⟩
      · exact ⟨held, (Entries.holds_insert_of_ne hname).mpr hheld, .same held⟩
  | @entry _ other _ _ _ changed hother hinside =>
      by_cases hname : other.name = slot.name
      · cases hunique hother hname
        obtain ⟨rfl, habsent⟩ := Entries.holds_insert_iff.mp hheld
        exact ⟨some changed, Entries.holds_insert_iff.mpr ⟨rfl, habsent⟩, .inside hinside⟩
      · rw [Entries.holds_insert_of_ne hname] at hheld
        exact ⟨held, (Entries.holds_insert_of_ne hname).mpr hheld, .same held⟩

end Shape.Noise

namespace ItemsNoise

variable {slots : List (Slot Shape)} {slot : Slot Shape}

theorem refl (slots : List (Slot Shape)) (items : List Value) : ItemsNoise slots items items := by
  induction slots generalizing items with
  | nil => exact .rest items
  | cons slot slots ih => exact .slot (.same items.head?) (ih items.tail)

/-- A change of one item is noise for the field at its place. -/
theorem of_place {before after : List Value} {value value' : Value}
    (hslot : slots[before.length]? = some slot) (h : slot.inside.Noise value value') :
    ItemsNoise slots (before ++ value :: after) (before ++ value' :: after) := by
  induction before generalizing slots with
  | nil =>
      cases slots with
      | nil => cases hslot
      | cons first slots =>
          cases hslot
          exact .slot (.inside h) (refl slots after)
  | cons item before ih =>
      cases slots with
      | nil => cases hslot
      | cons first slots =>
          rw [List.length_cons, List.getElem?_cons_succ] at hslot
          exact .slot (.same (some item)) (ih hslot)

/-- A `null` behind the items is noise for the first field that they do not reach. -/
theorem of_last {items : List Value} (hslot : slots[items.length]? = some slot)
    (hnull : slot.nullable = true) : ItemsNoise slots items (items ++ [.null]) := by
  induction items generalizing slots with
  | nil =>
      cases slots with
      | nil => cases hslot
      | cons first slots =>
          cases hslot
          exact .slot (.null hnull) (refl slots [])
  | cons item items ih =>
      cases slots with
      | nil => cases hslot
      | cons first slots =>
          rw [List.length_cons, List.getElem?_cons_succ] at hslot
          exact .slot (.same (some item)) (ih hslot)

end ItemsNoise

/-- Arrays stay arrays, and differ by noise field by field. -/
theorem Shape.Noise.exists_array {slots : List (Slot Shape)} {items : List Value} {value' : Value}
    (h : Noise (.record slots) (.array items) value') :
    ∃ items', value' = .array items' ∧ ItemsNoise slots items items' := by
  cases h with
  | place hslot hinside => exact ⟨_, rfl, .of_place hslot hinside⟩
  | last hslot hnull => exact ⟨_, rfl, .of_last hslot hnull⟩

/-! ### Decoders -/

/-- **A decoder tolerates the noise of a shape**: what it has read it reads again. -/
def Decoder.Tolerates {α : Type} (decode : Decoder α) (shape : Shape) : Prop :=
  ∀ ⦃origin : Origin⦄ ⦃value value' : Value⦄ ⦃a : α⦄, shape.Noise value value' →
    decode origin value = .ok a → decode origin value' = .ok a

/-- **A record tolerates noise in its fields**, read from an object or from the first items of an
array.  `behind` are the fields of other records, which read the items left over. -/
structure Record.Tolerates {α : Type} (record : Record α) (slots : List (Slot Shape)) : Prop where
  entries : ∀ {origin : Origin} {entries entries' : Entries} {a : α},
    (∀ slot ∈ slots, slot.NoiseIn entries entries') →
      record.ofEntries origin entries = .ok a → record.ofEntries origin entries' = .ok a
  items : ∀ {origin : Origin} {whole : String} {index : Nat} {items items' rest : List Value}
    {a : α} (behind : List (Slot Shape)), ItemsNoise (slots ++ behind) items items' →
      record.ofItems origin whole index items = .ok (a, rest) →
        ∃ rest', record.ofItems origin whole index items' = .ok (a, rest') ∧
          ItemsNoise behind rest rest'

namespace Decoder

variable {α β : Type} {decode : Decoder α}

namespace Tolerates

/-- Where there is no record, there is no noise. -/
theorem plain (decode : Decoder α) : decode.Tolerates .plain := by
  intro origin value value' a h
  cases h

theorem map {shape : Shape} (h : decode.Tolerates shape) (f : α → β) :
    (Decoder.map f decode).Tolerates shape := by
  intro origin value value' b hnoise hread
  obtain ⟨a, ha, rfl⟩ := Outcome.map_eq_ok.mp hread
  exact Outcome.map_eq_ok.mpr ⟨a, h hnoise ha, rfl⟩

theorem nullable {shape : Shape} (h : decode.Tolerates shape) :
    (Decoder.nullable decode).Tolerates shape := by
  have hother (origin : Origin) {value : Value} (hvalue : value ≠ .null) :
      Decoder.nullable decode origin value = (decode origin value).map some := by
    cases value with
    | null => exact absurd rfl hvalue
    | bool b => rfl
    | number n => rfl
    | string s => rfl
    | array items => rfl
    | object entries => rfl
  intro origin value value' a hnoise hread
  rw [hother origin hnoise.ne_null.1] at hread
  rw [hother origin hnoise.ne_null.2]
  exact h.map some hnoise hread

/-- **A list tolerates the noise of its items.** -/
theorem list {shape : Shape} (h : decode.Tolerates shape) :
    (Decoder.list decode).Tolerates (.list shape) := by
  intro origin value value' results hnoise hread
  cases hnoise with
  | @item _ before after _ _ hitem =>
      replace hread := mapM_eq_ok.mp hread
      refine mapM_eq_ok.mpr ?_
      induction before generalizing results with
      | nil =>
          obtain ⟨b, rest, hb, hrest, rfl⟩ := List.forall₂_cons_left_iff.mp hread
          exact .cons (h hitem hb) hrest
      | cons first before ih =>
          obtain ⟨b, rest, hb, hrest, rfl⟩ := List.forall₂_cons_left_iff.mp hread
          exact .cons hb (ih hrest)

end Tolerates

end Decoder

/-! ### Fields -/

namespace Record

variable {α β : Type} {absent : Option α} {decode : Decoder α} {origin : Origin} {name : String}
  {held : Option Value} {a : α}

/-- What a field is read as, by what is held for it. -/
def FieldReads (absent : Option α) (decode : Decoder α) (origin : Origin) (held : Option Value)
    (a : α) : Prop :=
  match held with
  | none => absent = some a
  | some value => decode origin value = .ok a

/-- **A field of an object** is read from what is held under its name. -/
theorem field_ofEntries_eq_ok {entries : Entries} :
    (field name absent decode).ofEntries origin entries = .ok a ↔
      ∃ held, entries.Holds name held ∧ FieldReads absent decode origin held a := by
  constructor
  · intro h
    have hvalues := Entries.map_snd_occurrences name 0 entries
    unfold field at h
    cases hplaces : Entries.occurrences name 0 entries with
    | nil =>
        rw [hplaces] at hvalues
        simp only [hplaces] at h
        cases absent with
        | none => cases h
        | some b => exact ⟨none, hvalues.symm, congrArg some (Except.ok.inj h)⟩
    | cons first others =>
        obtain ⟨place, value⟩ := first
        simp only [hplaces] at h
        cases hdecode : decode origin value with
        | error e =>
            simp only [hdecode] at h
            cases h
        | ok b =>
            simp only [hdecode] at h
            cases others with
            | nil =>
                cases h
                rw [hplaces] at hvalues
                exact ⟨some value, hvalues.symm, hdecode⟩
            | cons again others => cases h
  · rintro ⟨held, hheld, hread⟩
    cases held with
    | none => exact field_absent hheld hread
    | some value => exact field_present hheld hread

/-- **A field of an array** is read from the first item, if there is one. -/
theorem field_ofItems_eq_ok {whole : String} {index : Nat} {items rest : List Value} :
    (field name absent decode).ofItems origin whole index items = .ok (a, rest) ↔
      FieldReads absent decode origin items.head? a ∧ rest = items.tail := by
  unfold field
  cases items with
  | nil => cases absent <;> simp [FieldReads, eq_comm]
  | cons value items =>
      simp only [map_eq_ok, Prod.mk.injEq, List.head?_cons, List.tail_cons, FieldReads]
      constructor
      · rintro ⟨b, hb, rfl, rfl⟩
        exact ⟨hb, rfl⟩
      · rintro ⟨ha, rfl⟩
        exact ⟨a, ha, rfl, rfl⟩

/-- Fields one behind the other are read together. -/
theorem seq_ofEntries_eq_ok {f : Record (α → β)} {r : Record α} {entries : Entries} {b : β} :
    (f <*> r).ofEntries origin entries = .ok b ↔
      ∃ g, f.ofEntries origin entries = .ok g ∧
        ∃ a, r.ofEntries origin entries = .ok a ∧ g a = b := by
  constructor
  · intro h
    change (seq f r).ofEntries origin entries = .ok b at h
    rw [seq] at h
    cases hf : f.ofEntries origin entries with
    | error e => cases hr : r.ofEntries origin entries <;> simp [hf, hr] at h
    | ok g =>
        cases hr : r.ofEntries origin entries with
        | error e => simp [hf, hr] at h
        | ok a =>
            simp only [hf, hr, Except.ok.injEq] at h
            exact ⟨g, rfl, a, rfl, h⟩
  · rintro ⟨g, hf, a, hr, rfl⟩
    exact seq_eq_ok hf hr

namespace Tolerates

/-- **Noise does not change what a field is read as**, if `null` reads like a missing value. -/
theorem reads {slot : Slot Shape} {held' : Option Value} (hinside : decode.Tolerates slot.inside)
    (hnull : slot.nullable = true → ∃ b, absent = some b ∧ ∀ origin, decode origin .null = .ok b)
    (h : slot.Noise held held') (hread : FieldReads absent decode origin held a) :
    FieldReads absent decode origin held' a := by
  cases h with
  | same => exact hread
  | null hnullable =>
      obtain ⟨b, hb, hdecode⟩ := hnull hnullable
      have hab : some b = some a := hb.symm.trans hread
      cases hab
      exact hdecode origin
  | inside hvalue => exact hinside hvalue hread

/-- **A field tolerates noise** when its decoder does, and reads `null` like a missing value if it
may be `null`. -/
theorem field {slot : Slot Shape} (hinside : decode.Tolerates slot.inside)
    (hnull : slot.nullable = true → ∃ b, absent = some b ∧ ∀ origin, decode origin .null = .ok b) :
    (Record.field slot.name absent decode).Tolerates [slot] where
  entries := by
    intro origin entries entries' a hnoise h
    obtain ⟨held, hheld, hread⟩ := field_ofEntries_eq_ok.mp h
    obtain ⟨held', hheld', hslot⟩ := hnoise slot List.mem_cons_self held hheld
    exact field_ofEntries_eq_ok.mpr ⟨held', hheld', reads hinside hnull hslot hread⟩
  items := by
    intro origin whole index items items' rest a behind hnoise h
    obtain ⟨hread, rfl⟩ := field_ofItems_eq_ok.mp h
    cases hnoise with
    | slot hslot htail =>
        exact ⟨items'.tail, field_ofItems_eq_ok.mpr ⟨reads hinside hnull hslot hread, rfl⟩, htail⟩

/-- A field that must be present. -/
theorem required {shape : Shape} (h : decode.Tolerates shape) (name : String) :
    (Record.required name decode).Tolerates [⟨name, false, shape⟩] :=
  @field _ _ _ ⟨name, false, shape⟩ h nofun

/-- A field with a default, which is not `null`. -/
theorem defaulted {shape : Shape} (h : decode.Tolerates shape) (name : String) (value : α) :
    (Record.defaulted name value decode).Tolerates [⟨name, false, shape⟩] :=
  @field _ _ _ ⟨name, false, shape⟩ h nofun

/-- A field that may be missing or `null`. -/
theorem optional {shape : Shape} (h : decode.Tolerates shape) (name : String) :
    (Record.optional name decode).Tolerates [⟨name, true, shape⟩] :=
  @field _ _ _ ⟨name, true, shape⟩ h.nullable fun _ => ⟨none, rfl, fun _ => rfl⟩

/-- No field at all. -/
theorem pure (a : α) : (Pure.pure a : Record α).Tolerates [] where
  entries := fun _ h => h
  items := by
    intro origin whole index items items' rest b behind hnoise h
    cases h
    exact ⟨items', rfl, hnoise⟩

/-- **Fields one behind the other** tolerate noise in each of them. -/
theorem seq {f : Record (α → β)} {r : Record α} {slots slots' : List (Slot Shape)}
    (hf : f.Tolerates slots) (hr : r.Tolerates slots') : (f <*> r).Tolerates (slots ++ slots') where
  entries := by
    intro origin entries entries' b hnoise h
    rw [List.forall_mem_append] at hnoise
    obtain ⟨g, hg, a, ha, rfl⟩ := seq_ofEntries_eq_ok.mp h
    exact seq_ofEntries_eq_ok.mpr
      ⟨g, hf.entries hnoise.1 hg, a, hr.entries hnoise.2 ha, rfl⟩
  items := by
    intro origin whole index items items' rest b behind hnoise h
    rw [List.append_assoc] at hnoise
    obtain ⟨⟨g, middle⟩, hg, h⟩ := bind_eq_ok.mp h
    obtain ⟨⟨a, left⟩, ha, h⟩ := bind_eq_ok.mp h
    cases h
    obtain ⟨middle', hg', hmiddle⟩ := hf.items (slots' ++ behind) hnoise hg
    obtain ⟨rest', ha', hrest⟩ := hr.items behind hmiddle ha
    refine ⟨rest', ?_, hrest⟩
    exact bind_eq_ok.mpr ⟨(g, middle'), hg', bind_eq_ok.mpr ⟨(a, rest'), ha', rfl⟩⟩

/-- **A record tolerates noise**, whether it is read from an object or from an array. -/
theorem decoder {record : Record α} {slots : List (Slot Shape)} (h : record.Tolerates slots)
    (hnodup : (slots.map Slot.name).Nodup) (type : String) :
    (record.decoder type).Tolerates (.record slots) := by
  intro origin value value' a hnoise hread
  cases value with
  | object entries =>
      obtain ⟨entries', rfl⟩ := hnoise.exists_object
      refine decoder_eq_ok (h.entries (fun slot hslot => hnoise.noiseIn hnodup hslot) ?_)
      exact mapError_eq_ok.mp hread
  | array items =>
      obtain ⟨items', rfl, hitems⟩ := hnoise.exists_array
      obtain ⟨⟨b, rest⟩, hb, hrest⟩ := bind_eq_ok.mp hread
      rw [← List.append_nil slots] at hitems
      obtain ⟨rest', hb', hleft⟩ := h.items [] hitems hb
      cases hleft
      refine bind_eq_ok.mpr ⟨(b, rest), hb', ?_⟩
      cases rest with
      | nil => exact hrest
      | cons item rest => cases hrest
  | null => exact absurd rfl hnoise.ne_null.1
  | bool b => cases hread
  | number n => cases hread
  | string s => cases hread

end Tolerates

end Record

/-! ### Choices -/

namespace Shape.Noise

variable {slots : List (Slot Shape)}

/-- **A change of a tagged object** does not touch its tag.  It is a change of the record, whether
the tag is among its entries or not. -/
theorem of_tagged_object (htag : ∀ slot ∈ slots, slot.name ≠ "type") {entries : Entries}
    {value' : Value} (h : Noise (.record (tagSlot :: slots)) (.object entries) value') :
    ∃ entries' : Entries, value' = .object entries' ∧
      entries'.filter (·.1 = "type") = entries.filter (·.1 = "type") ∧
      Noise (.record slots) (.object entries) (.object entries') ∧
      Noise (.record slots) (.object (entries.filter (·.1 ≠ "type")))
        (.object (entries'.filter (·.1 ≠ "type"))) := by
  cases h with
  | @unknown _ _ _ key _ hkey =>
      rw [List.forall_mem_cons] at hkey
      have hne : key ≠ "type" := hkey.1.symm
      refine ⟨_, rfl, Entries.filter_insert_of_ne hne, .unknown hkey.2, ?_⟩
      rw [List.filter_append, Entries.drop_insert hne]
      exact .unknown hkey.2
  | @null _ slot _ _ hslot hnull habsent =>
      have hmem : slot ∈ slots := (List.mem_cons.mp hslot).resolve_left (by rintro rfl; cases hnull)
      have hne := htag slot hmem
      refine ⟨_, rfl, Entries.filter_insert_of_ne hne, .null hmem hnull habsent, ?_⟩
      rw [List.filter_append, Entries.drop_insert hne]
      refine .null hmem hnull fun entry hentry => habsent entry ?_
      rw [← List.filter_append] at hentry
      exact List.mem_of_mem_filter hentry
  | @entry _ slot _ _ _ _ hslot hinside =>
      have hmem : slot ∈ slots :=
        (List.mem_cons.mp hslot).resolve_left (by rintro rfl; cases hinside)
      have hne := htag slot hmem
      refine ⟨_, rfl, ?_, .entry hmem hinside, ?_⟩
      · rw [Entries.filter_insert_of_ne hne, Entries.filter_insert_of_ne hne]
      · rw [Entries.drop_insert hne, Entries.drop_insert hne]
        exact .entry hmem hinside

/-- **A change of a tagged array** does not touch its tag, and is a change of the record behind
it. -/
theorem of_tagged_array {tag value' : Value} {items whole : List Value}
    (h : Noise (.record (tagSlot :: slots)) (.array whole) value') (hwhole : whole = tag :: items) :
    ∃ items', value' = .array (tag :: items') ∧
      Noise (.record slots) (.array items) (.array items') := by
  cases h with
  | @place _ _ before _ _ _ hslot hinside =>
      cases before with
      | nil =>
          cases hslot
          cases hinside
      | cons first before =>
          obtain ⟨rfl, rfl⟩ := List.cons.inj hwhole
          exact ⟨_, rfl, .place hslot hinside⟩
  | last hslot hnull =>
      cases hwhole
      exact ⟨_, rfl, .last hslot hnull⟩

end Shape.Noise

namespace Tagged

variable {α : Type} {known : List (String × Decoder α)} {cases : List (String × List (Slot Shape))}

/-- **A case tolerates the noise of its record**, none of whose fields is the tag. -/
structure CaseTolerates (known : String × Decoder α) (case : String × List (Slot Shape)) :
    Prop where
  name_eq : known.1 = case.1
  tolerates : known.2.Tolerates (.record case.2)
  name_ne : ∀ slot ∈ case.2, slot.name ≠ "type"

namespace CaseTolerates

variable {found : String × Decoder α} {case : String × List (Slot Shape)}

/-- Cases of one name belong together. -/
theorem of_find? (h : List.Forall₂ CaseTolerates known cases) {name : String}
    (hfound : known.find? (·.1 = name) = some found)
    (hcase : cases.find? (·.1 = name) = some case) : CaseTolerates found case := by
  induction h with
  | nil => cases hfound
  | @cons first firstCase rest restCases hfirst hrest ih =>
      have hname := hfirst.name_eq
      by_cases hfirstName : first.1 = name
      · rw [List.find?_cons_of_pos (by simpa using hfirstName)] at hfound
        rw [List.find?_cons_of_pos (by simpa [← hname] using hfirstName)] at hcase
        cases hfound
        cases hcase
        exact hfirst
      · rw [List.find?_cons_of_neg (by simpa using hfirstName)] at hfound
        rw [List.find?_cons_of_neg (by simpa [← hname] using hfirstName)] at hcase
        exact ih hfound hcase

/-- Cases of one number belong together. -/
theorem of_getElem? (h : List.Forall₂ CaseTolerates known cases) {n : Nat}
    (hfound : known[n]? = some found) (hcase : cases[n]? = some case) :
    CaseTolerates found case := by
  induction h generalizing n with
  | nil => cases hfound
  | cons hfirst hrest ih =>
      cases n with
      | zero =>
          cases hfound
          cases hcase
          exact hfirst
      | succ n =>
          rw [List.getElem?_cons_succ] at hfound hcase
          exact ih hfound hcase

/-- **The case that a tag chooses** tolerates the noise of the record that it chooses. -/
theorem of_tag {t : Tagged α} (h : List.Forall₂ CaseTolerates t.cases cases) {origin : Origin}
    {tag : Value} {decode : Decoder α} {slots : List (Slot Shape)}
    (hdecode : t.tag origin tag = .ok decode) (hcase : Shape.named cases tag = some slots) :
    decode.Tolerates (.record slots) ∧ ∀ slot ∈ slots, slot.name ≠ "type" := by
  cases tag with
  | string name =>
      obtain ⟨case, hlisted, rfl⟩ := Option.map_eq_some_iff.mp hcase
      change t.named name = .ok decode at hdecode
      rw [Tagged.named] at hdecode
      cases hfound : t.cases.find? (·.1 = name) with
      | none => simp [hfound] at hdecode
      | some found =>
          simp only [hfound, Except.ok.injEq] at hdecode
          cases hdecode
          have hboth := of_find? h hfound hlisted
          exact ⟨hboth.tolerates, hboth.name_ne⟩
  | number n =>
      cases n with
      | real x => cases hcase
      | integer n =>
          cases n with
          | negSucc n => cases hcase
          | ofNat n =>
              obtain ⟨case, hlisted, rfl⟩ := Option.map_eq_some_iff.mp hcase
              cases origin with
              | direct => cases hdecode
              | collected =>
                  unfold Tagged.tag at hdecode
                  cases hfound : t.cases[n]? with
                  | none => simp [hfound] at hdecode
                  | some found =>
                      simp only [hfound, Except.ok.injEq] at hdecode
                      cases hdecode
                      have hboth := of_getElem? h hfound hlisted
                      exact ⟨hboth.tolerates, hboth.name_ne⟩
  | null => cases hcase
  | bool b => cases hcase
  | array items => cases hcase
  | object entries => cases hcase

end CaseTolerates

/-- **A choice tolerates noise** when each of its cases does. -/
theorem tolerates {t : Tagged α} (h : List.Forall₂ CaseTolerates t.cases cases) :
    t.decoder.Tolerates (.choice cases) := by
  intro origin value value' a hnoise hread
  cases hnoise with
  | @tagged _ slots tag _ _ htag hcase hrecord =>
      cases value with
      | object entries =>
          obtain ⟨decode, hdecode, hread⟩ := bind_eq_ok.mp hread
          obtain ⟨held, hheld, htagged⟩ :=
            Record.field_ofEntries_eq_ok.mp (mapError_eq_ok.mp hdecode)
          cases held with
          | none => cases htagged
          | some tag' =>
              have htag' : tag' = tag := Option.some.inj (hheld.get?_eq.symm.trans htag)
              cases htag'
              obtain ⟨htolerates, hne⟩ := CaseTolerates.of_tag h htagged hcase
              obtain ⟨entries', rfl, hsame, -, hdropped⟩ := hrecord.of_tagged_object hne
              have hheld' : entries'.Holds "type" (some tag) := by
                rw [Entries.Holds, hsame]
                exact hheld
              refine bind_eq_ok.mpr ⟨decode, ?_, htolerates hdropped hread⟩
              exact mapError_eq_ok.mpr (Record.required_eq_ok hheld' htagged)
      | array items =>
          cases items with
          | nil => cases htag
          | cons first items =>
              cases htag
              obtain ⟨decode, hdecode, hread⟩ := bind_eq_ok.mp hread
              obtain ⟨htolerates, -⟩ := CaseTolerates.of_tag h hdecode hcase
              obtain ⟨items', rfl, hbehind⟩ := hrecord.of_tagged_array rfl
              exact bind_eq_ok.mpr ⟨decode, hdecode, htolerates hbehind hread⟩
      | null => cases htag
      | bool b => cases htag
      | number n => cases htag
      | string s => cases htag

end Tagged

end FigureScript.Json
