import FigureScript.Proofs.Json.Numbers
import FigureScript.Proofs.Json.Strings

/-!
# Layouts read back

The spellings of a JSON value differ in the blanks between their tokens and in the digits
of their numbers.  Each of them is read as the value.  Both layouts of the writer spell the
value that they were written for, but for real numbers that are read as others.

## Main Definitions

* `Listed` — a list between commas and blanks, behind its opening bracket
* `Spells` — the spellings of a value
* `Value.mapReal` — a value with other real numbers
* `Readable` — values whose numbers are read and whose containers are not nested deeper
  than allowed

## Main Results

* `readItems_listed`, `readEntries_listed` — lists and objects
* `readValue_spells` — values, in front of any text
* `parse_compact`, `parse_pretty` — what both layouts are read as

## Design Notes

Spellings are defined by recursion on the number of levels that may still be opened, as
the reader is.  A list is spelled item by item in the order in which the reader meets
its commas, blanks and brackets, for arrays and objects alike.
-/

namespace FigureScript.Json

open Number Outcome

/-! ### Blanks -/

/-- Nothing but blanks. -/
def Blanks (text : List Char) : Prop :=
  ∀ c ∈ text, isBlank c = true

theorem Blanks.nil : Blanks [] := by
  simp [Blanks]

theorem skipBlank_append {blanks : List Char} (h : Blanks blanks) (text : List Char) :
    skipBlank (blanks ++ text) = skipBlank text :=
  List.dropWhile_append_of_pos h

/-- A text that starts like a value: neither with a blank nor with a closing bracket. -/
def StartsValue (text : List Char) : Prop :=
  ∃ c rest, text = c :: rest ∧ isBlank c = false ∧ c ≠ ']'

/-! ### Lists -/

section Listed

variable {α : Type} {spells : α → List Char → Prop}

/-- **A list** behind its opening bracket, up to its closing one.  Its items are spelled in
some way, with blanks in front of them; `first` until there was an item. -/
inductive Listed (close : Char) (spells : α → List Char → Prop) :
    (first : Bool) → List α → List Char → Prop where
  | close {first : Bool} {blanks : List Char} (hblanks : Blanks blanks) :
      Listed close spells first [] (blanks ++ [close])
  | first {a : α} {rest : List α} {blanks text tail : List Char} (hblanks : Blanks blanks)
      (hitem : spells a text) (htail : Listed close spells false rest tail) :
      Listed close spells true (a :: rest) (blanks ++ (text ++ tail))
  | next {a : α} {rest : List α} {blanks text tail : List Char} (hblanks : Blanks blanks)
      (hitem : spells a text) (htail : Listed close spells false rest tail) :
      Listed close spells false (a :: rest) (',' :: (blanks ++ (text ++ tail)))

namespace Listed

variable {close : Char} {first : Bool} {items : List α} {text : List Char}

/-- No number goes on behind an item. -/
theorem stops (hclose : isNumeralChar close = false) (h : Listed close spells false items text)
    (rest : List Char) : Stops isNumeralChar (text ++ rest) := by
  cases h with
  | next hblanks hitem htail => exact stops_cons.mpr (by decide)
  | @close _ blanks hblanks =>
      cases blanks with
      | nil => exact stops_cons.mpr hclose
      | cons c blanks =>
          have hc := hblanks c List.mem_cons_self
          refine stops_cons.mpr ?_
          simp only [isBlank, Bool.or_eq_true, decide_eq_true_eq] at hc
          rcases hc with ((rfl | rfl) | rfl) | rfl <;> decide

/-- Each item takes up some space, and so does the closing bracket. -/
theorem length_lt (hspells : ∀ a text, spells a text → text ≠ [])
    (h : Listed close spells first items text) : items.length < text.length := by
  induction h with
  | close hblanks => simp
  | @first a rest blanks text tail hblanks hitem htail ih =>
      have htext := List.length_pos_iff.mpr (hspells a text hitem)
      simp only [List.length_cons, List.length_append]
      omega
  | @next a rest blanks text tail hblanks hitem htail ih =>
      simp only [List.length_cons, List.length_append]
      omega

end Listed

/-- A list with the same blanks in front of all items, behind its opening bracket. -/
def listText (close : Char) (lead last : List Char) (write : α → List Char) :
    (first : Bool) → List α → List Char
  | _, [] => last ++ [close]
  | true, a :: rest => lead ++ (write a ++ listText close lead last write false rest)
  | false, a :: rest => ',' :: (lead ++ (write a ++ listText close lead last write false rest))

/-- Items that are written spell what they stand for. -/
theorem listed_listText {β : Type} {f : β → α} {close : Char} {lead last : List Char}
    {write : β → List Char} (hlead : Blanks lead) (hlast : Blanks last) {items : List β}
    (hitems : ∀ b ∈ items, spells (f b) (write b)) (first : Bool) :
    Listed close spells first (items.map f) (listText close lead last write first items) := by
  induction items generalizing first with
  | nil => exact .close hlast
  | cons a rest ih =>
      rw [List.forall_mem_cons] at hitems
      cases first with
      | true => exact .first hlead hitems.1 (ih hitems.2 false)
      | false => exact .next hlead hitems.1 (ih hitems.2 false)

end Listed

/-! ### Reading lists -/

/-- A text is read as a value in front of any text into which no number goes on. -/
def Reads (reader : Reader Value) (value : Value) (text : List Char) : Prop :=
  ∀ rest, Stops isNumeralChar rest → reader (text ++ rest) = .ok (value, rest)

theorem StartsValue.append {text : List Char} (h : StartsValue text) (rest : List Char) :
    StartsValue (text ++ rest) := by
  obtain ⟨c, text, rfl, hc, hclose⟩ := h
  exact ⟨c, text ++ rest, rfl, hc, hclose⟩

theorem StartsValue.skipBlank_eq {text : List Char} (h : StartsValue text) :
    skipBlank text = text := by
  obtain ⟨c, text, rfl, hc, -⟩ := h
  exact skipBlank_cons hc text

/-- An end of a list is no item. -/
theorem nextItem_close {first : Bool} {blanks : List Char} (hblanks : Blanks blanks)
    (rest : List Char) : nextItem first (blanks ++ ']' :: rest) = .ok (none, rest) := by
  rw [nextItem, skipBlank_append hblanks, skipBlank_cons (by decide)]
  rfl

theorem nextItem_first {blanks text : List Char} (hblanks : Blanks blanks)
    (h : StartsValue text) : nextItem true (blanks ++ text) = .ok (some text, []) := by
  rw [nextItem, skipBlank_append hblanks, h.skipBlank_eq]
  obtain ⟨c, text, rfl, -, hclose⟩ := h
  split
  next heq => cases heq
  next heq => exact absurd (List.cons.inj heq).1 hclose
  next c' text' hne heq => rw [heq, if_pos rfl]

/-- Behind a comma the next item follows. -/
theorem nextItem_comma (text : List Char) :
    nextItem false (',' :: text) =
      match skipBlank text with
      | [] => .error (.here .endInValue [])
      | ']' :: rest => .error (.next .trailingComma (']' :: rest))
      | item => .ok (some item, []) := by
  rw [nextItem, skipBlank_cons (by decide)]
  rfl

theorem nextItem_next {blanks text : List Char} (hblanks : Blanks blanks)
    (h : StartsValue text) : nextItem false (',' :: (blanks ++ text)) = .ok (some text, []) := by
  rw [nextItem_comma, skipBlank_append hblanks, h.skipBlank_eq]
  obtain ⟨c, text, rfl, -, hclose⟩ := h
  split
  next heq => cases heq
  next heq => exact absurd (List.cons.inj heq).1 hclose
  next => rfl

/-- One item is read, and then the others. -/
theorem readItems_item {reader : Reader Value} {first : Bool} {text item after rest : List Char}
    {value : Value} {values : List Value} {fuel : Nat}
    (hnext : nextItem first text = .ok (some item, []))
    (hread : reader item = .ok (value, after))
    (hrest : readItems reader fuel false after = .ok (values, rest)) :
    readItems reader (fuel + 1) first text = .ok (value :: values, rest) := by
  rw [readItems, hnext]
  simp only [bind, Except.bind, pure, Except.pure, hread, hrest]

/-- **A list is read item by item.** -/
theorem readItems_listed {spells : Value → List Char → Prop} {reader : Reader Value}
    (hreads : ∀ value text, spells value text → Reads reader value text)
    (hstarts : ∀ value text, spells value text → StartsValue text)
    {first : Bool} {items : List Value} {text : List Char}
    (h : Listed ']' spells first items text) {fuel : Nat} (hfuel : items.length < fuel)
    (rest : List Char) : readItems reader fuel first (text ++ rest) = .ok (items, rest) := by
  induction h generalizing fuel with
  | @close first blanks hblanks =>
      obtain ⟨fuel, rfl⟩ := Nat.exists_eq_succ_of_ne_zero (Nat.ne_of_gt hfuel)
      rw [List.append_assoc, List.singleton_append, readItems, nextItem_close hblanks]
      rfl
  | @first value values blanks text tail hblanks hitem htail ih =>
      obtain ⟨fuel, rfl⟩ := Nat.exists_eq_succ_of_ne_zero (Nat.ne_of_gt (Nat.zero_lt_of_lt hfuel))
      have hstart := (hstarts value text hitem).append (tail ++ rest)
      -- what follows the item is the rest of the list, into which no number goes on
      have hread := hreads value text hitem (tail ++ rest) (htail.stops (by decide) rest)
      rw [List.append_assoc, List.append_assoc]
      exact readItems_item (nextItem_first hblanks hstart) hread (ih (Nat.lt_of_succ_lt_succ hfuel))
  | @next value values blanks text tail hblanks hitem htail ih =>
      obtain ⟨fuel, rfl⟩ := Nat.exists_eq_succ_of_ne_zero (Nat.ne_of_gt (Nat.zero_lt_of_lt hfuel))
      have hstart := (hstarts value text hitem).append (tail ++ rest)
      have hread := hreads value text hitem (tail ++ rest) (htail.stops (by decide) rest)
      rw [List.cons_append, List.append_assoc, List.append_assoc]
      exact readItems_item (nextItem_next hblanks hstart) hread (ih (Nat.lt_of_succ_lt_succ hfuel))

/-- The spelling of an entry: its key, a colon, and its value behind some blanks. -/
def SpellsEntry (spells : Value → List Char → Prop) (entry : String × Value)
    (text : List Char) : Prop :=
  ∃ gap valueText, Blanks gap ∧ spells entry.2 valueText ∧
    text = quoted entry.1 ++ ':' :: (gap ++ valueText)

theorem nextKey_close {first : Bool} {blanks : List Char} (hblanks : Blanks blanks)
    (rest : List Char) : nextKey first (blanks ++ '\x7d' :: rest) = .ok (none, rest) := by
  rw [nextKey, skipBlank_append hblanks, skipBlank_cons (by decide)]
  rfl

/-- A key is read from its opening quote on. -/
def readKey (text : List Char) : Except Fault (Option String × List Char) := do
  let (key, rest) ← readString text
  return (some key, rest)

theorem readKey_quoted (key : String) (rest : List Char) :
    readKey (key.toList.flatMap escapeChar ++ '"' :: rest) = .ok (some key, rest) := by
  rw [readKey, readString_quoted]
  rfl

theorem nextKey_first {blanks : List Char} (hblanks : Blanks blanks) (key : String)
    (rest : List Char) : nextKey true (blanks ++ (quoted key ++ rest)) = .ok (some key, rest) := by
  rw [nextKey, skipBlank_append hblanks, quoted_append, skipBlank_cons (by decide)]
  exact readKey_quoted key rest

/-- Behind a comma the next key follows. -/
theorem nextKey_comma (text : List Char) :
    nextKey false (',' :: text) =
      match skipBlank text with
      | [] => .error (.here .endInValue [])
      | '"' :: rest => readKey rest
      | '\x7d' :: rest => .error (.next .trailingComma ('\x7d' :: rest))
      | text => .error (.next .keyNotString text) := by
  rw [nextKey, skipBlank_cons (by decide)]
  rfl

theorem nextKey_next {blanks : List Char} (hblanks : Blanks blanks) (key : String)
    (rest : List Char) :
    nextKey false (',' :: (blanks ++ (quoted key ++ rest))) = .ok (some key, rest) := by
  rw [nextKey_comma, skipBlank_append hblanks, quoted_append, skipBlank_cons (by decide)]
  exact readKey_quoted key rest

theorem readColon_colon (rest : List Char) : readColon (':' :: rest) = .ok rest := by
  rw [readColon, skipBlank_cons (by decide)]
  rfl

/-- One entry is read, and then the others. -/
theorem readEntries_entry {reader : Reader Value}
    (hskip : ∀ blanks text, Blanks blanks → reader (blanks ++ text) = reader text)
    {first : Bool} {text gap valueText after rest : List Char} {key : String} {value : Value}
    {entries : Entries} {fuel : Nat} (hgap : Blanks gap)
    (hnext : nextKey first text = .ok (some key, ':' :: (gap ++ valueText)))
    (hread : reader valueText = .ok (value, after))
    (hrest : readEntries reader fuel false after = .ok (entries, rest)) :
    readEntries reader (fuel + 1) first text = .ok ((key, value) :: entries, rest) := by
  rw [readEntries, hnext]
  simp only [bind, Except.bind, pure, Except.pure, readColon_colon, hskip gap _ hgap, hread, hrest]

/-- **An object is read entry by entry.** -/
theorem readEntries_listed {spells : Value → List Char → Prop} {reader : Reader Value}
    (hreads : ∀ value text, spells value text → Reads reader value text)
    (hskip : ∀ blanks text, Blanks blanks → reader (blanks ++ text) = reader text)
    {first : Bool} {entries : Entries} {text : List Char}
    (h : Listed '\x7d' (SpellsEntry spells) first entries text) {fuel : Nat}
    (hfuel : entries.length < fuel) (rest : List Char) :
    readEntries reader fuel first (text ++ rest) = .ok (entries, rest) := by
  induction h generalizing fuel with
  | @close first blanks hblanks =>
      obtain ⟨fuel, rfl⟩ := Nat.exists_eq_succ_of_ne_zero (Nat.ne_of_gt hfuel)
      rw [List.append_assoc, List.singleton_append, readEntries, nextKey_close hblanks]
      rfl
  | @first entry entries blanks text tail hblanks hentry htail ih =>
      obtain ⟨fuel, rfl⟩ := Nat.exists_eq_succ_of_ne_zero (Nat.ne_of_gt (Nat.zero_lt_of_lt hfuel))
      obtain ⟨gap, valueText, hgap, hvalue, rfl⟩ := hentry
      have hread := hreads entry.2 valueText hvalue (tail ++ rest) (htail.stops (by decide) rest)
      simp only [List.append_assoc, List.cons_append]
      exact readEntries_entry hskip hgap (nextKey_first hblanks entry.1 _) hread
        (ih (Nat.lt_of_succ_lt_succ hfuel))
  | @next entry entries blanks text tail hblanks hentry htail ih =>
      obtain ⟨fuel, rfl⟩ := Nat.exists_eq_succ_of_ne_zero (Nat.ne_of_gt (Nat.zero_lt_of_lt hfuel))
      obtain ⟨gap, valueText, hgap, hvalue, rfl⟩ := hentry
      have hread := hreads entry.2 valueText hvalue (tail ++ rest) (htail.stops (by decide) rest)
      simp only [List.append_assoc, List.cons_append]
      exact readEntries_entry hskip hgap (nextKey_next hblanks entry.1 _) hread
        (ih (Nat.lt_of_succ_lt_succ hfuel))

/-! ### Values -/

/-- **The spellings of a value** inside which `depth` more containers may be opened. -/
def Spells : (depth : Nat) → Value → List Char → Prop
  | _, .null, text => text = Value.compact .null
  | _, .bool b, text => text = Value.compact (.bool b)
  | _, .number m, text => ∃ n, ReadsAs n m ∧ text = n.text.toList
  | _, .string s, text => text = quoted s
  | 0, .array _, _ => False
  | depth + 1, .array items, text =>
    ∃ body, Listed ']' (Spells depth) true items body ∧ text = '[' :: body
  | 0, .object _, _ => False
  | depth + 1, .object entries, text =>
    ∃ body, Listed '\x7d' (SpellsEntry (Spells depth)) true entries body ∧ text = '\x7b' :: body

theorem readValue_blanks {blanks : List Char} (h : Blanks blanks) (depth : Nat)
    (text : List Char) : readValue depth (blanks ++ text) = readValue depth text := by
  unfold readValue
  rw [skipBlank_append h]

/-- A value starts neither with a blank nor with a bracket that closes. -/
theorem Spells.startsValue {depth : Nat} {value : Value} {text : List Char}
    (h : Spells depth value text) : StartsValue text := by
  cases value with
  | null =>
      rw [Spells] at h
      exact ⟨'n', _, h, by decide, by decide⟩
  | bool b =>
      rw [Spells] at h
      cases b with
      | false => exact ⟨'f', _, h, by decide, by decide⟩
      | true => exact ⟨'t', _, h, by decide, by decide⟩
  | number n =>
      rw [Spells] at h
      obtain ⟨written, hread, rfl⟩ := h
      obtain ⟨c, rest, htext, hc⟩ := hread.startsNumber
      refine ⟨c, rest, htext, isBlank_of_isNumberChar hc, ?_⟩
      rintro rfl
      rcases hc with hc | hc
      · cases hc
      · revert hc
        decide
  | string s =>
      rw [Spells] at h
      exact ⟨'"', _, h, by decide, by decide⟩
  | array items =>
      cases depth with
      | zero => exact absurd h (by simp [Spells])
      | succ depth =>
          obtain ⟨body, -, rfl⟩ := h
          exact ⟨'[', body, rfl, by decide, by decide⟩
  | object entries =>
      cases depth with
      | zero => exact absurd h (by simp [Spells])
      | succ depth =>
          obtain ⟨body, -, rfl⟩ := h
          exact ⟨'\x7b', body, rfl, by decide, by decide⟩

/-- The items of an array are read behind its opening bracket. -/
theorem readValue_bracket (depth : Nat) (text : List Char) :
    readValue (depth + 1) ('[' :: text) = do
      let (items, rest) ← readItems (readValue depth) (text.length + 1) true text
      return (.array items, rest) := by
  rw [readValue, skipBlank_cons (by decide)]
  rfl

/-- The entries of an object are read behind its opening brace. -/
theorem readValue_brace (depth : Nat) (text : List Char) :
    readValue (depth + 1) ('\x7b' :: text) = do
      let (entries, rest) ← readEntries (readValue depth) (text.length + 1) true text
      return (.object entries, rest) := by
  rw [readValue, skipBlank_cons (by decide)]
  rfl

theorem readValue_quoted (depth : Nat) (text : String) (rest : List Char) :
    readValue depth (quoted text ++ rest) = .ok (.string text, rest) := by
  unfold readValue
  rw [quoted_append, skipBlank_cons (by decide)]
  change (readString _ >>= fun next => pure (Value.string next.1, next.2)) = _
  rw [readString_quoted]
  rfl

/-- An array is read when its items are. -/
theorem reads_array {depth : Nat}
    (hreads : ∀ value text, Spells depth value text → Reads (readValue depth) value text)
    {items : List Value} {body : List Char} (hbody : Listed ']' (Spells depth) true items body) :
    Reads (readValue (depth + 1)) (.array items) ('[' :: body) := by
  intro rest _
  -- every item takes up some space, so the length of the text is fuel enough
  have hlength := hbody.length_lt fun item itemText hitem => by
    obtain ⟨c, tail, rfl, -, -⟩ := hitem.startsValue
    exact List.cons_ne_nil c tail
  have hfuel : items.length < (body ++ rest).length + 1 := by
    rw [List.length_append]
    omega
  have hitems := readItems_listed hreads (fun item itemText hitem => hitem.startsValue) hbody
    hfuel rest
  rw [List.cons_append, readValue_bracket, hitems]
  rfl

/-- An object is read when its values are. -/
theorem reads_object {depth : Nat}
    (hreads : ∀ value text, Spells depth value text → Reads (readValue depth) value text)
    {entries : Entries} {body : List Char}
    (hbody : Listed '\x7d' (SpellsEntry (Spells depth)) true entries body) :
    Reads (readValue (depth + 1)) (.object entries) ('\x7b' :: body) := by
  intro rest _
  have hlength := hbody.length_lt fun entry entryText hentry => by
    obtain ⟨gap, valueText, -, -, rfl⟩ := hentry
    rw [quoted_append]
    exact List.cons_ne_nil _ _
  have hfuel : entries.length < (body ++ rest).length + 1 := by
    rw [List.length_append]
    omega
  have hentries := readEntries_listed hreads
    (fun blanks text hblanks => readValue_blanks hblanks depth text) hbody hfuel rest
  rw [List.cons_append, readValue_brace, hentries]
  rfl

/-- **Every spelling of a value is read as the value**, in front of any text into which no
number goes on. -/
theorem readValue_spells {depth : Nat} {value : Value} {text : List Char}
    (h : Spells depth value text) : Reads (readValue depth) value text := by
  -- only containers go down a level, so the induction is on the levels that are left
  induction depth using Nat.strongRecOn generalizing value text with
  | ind depth ih =>
      intro rest hrest
      cases value with
      | null =>
          rw [Spells] at h
          unfold readValue
          rw [h, Value.compact, List.cons_append, skipBlank_cons (by decide)]
          rfl
      | bool b =>
          rw [Spells] at h
          unfold readValue
          cases b with
          | false =>
              rw [h, Value.compact, List.cons_append, skipBlank_cons (by decide)]
              rfl
          | true =>
              rw [h, Value.compact, List.cons_append, skipBlank_cons (by decide)]
              rfl
      | number n =>
          rw [Spells] at h
          obtain ⟨written, hread, rfl⟩ := h
          exact hread.readValue depth hrest
      | string s =>
          rw [Spells] at h
          rw [h]
          exact readValue_quoted depth s rest
      | array items =>
          cases depth with
          | zero => exact absurd h (by simp [Spells])
          | succ depth =>
              obtain ⟨body, hbody, rfl⟩ := h
              exact reads_array (fun _ _ hitem => ih depth (Nat.lt_succ_self depth) hitem) hbody
                rest hrest
      | object entries =>
          cases depth with
          | zero => exact absurd h (by simp [Spells])
          | succ depth =>
              obtain ⟨body, hbody, rfl⟩ := h
              exact reads_object (fun _ _ hvalue => ih depth (Nat.lt_succ_self depth) hvalue) hbody
                rest hrest

/-- A text that spells a value is read as that value. -/
theorem parse_spells {value : Value} {text : List Char} (h : Spells maxDepth value text) :
    parse text = .ok value := by
  have hread := readValue_spells h [] Stops.nil
  rw [List.append_nil] at hread
  rw [parse, hread]
  rfl

/-! ### Values with other real numbers -/

namespace Value

mutual

/-- **A value with other real numbers**: each one `x` replaced by `f x`. -/
def mapReal (f : Float → Float) : Value → Value
  | .number (.real x) => .number (.real (f x))
  | .array items => .array (mapRealItems f items)
  | .object entries => .object (mapRealEntries f entries)
  | leaf => leaf

/-- The items of an array with other real numbers. -/
def mapRealItems (f : Float → Float) : List Value → List Value
  | [] => []
  | item :: rest => mapReal f item :: mapRealItems f rest

/-- The entries of an object with other real numbers. -/
def mapRealEntries (f : Float → Float) : List (String × Value) → List (String × Value)
  | [] => []
  | (key, value) :: rest => (key, mapReal f value) :: mapRealEntries f rest

end

/-- An entry of an object with other real numbers. -/
def mapRealEntry (f : Float → Float) (entry : String × Value) : String × Value :=
  (entry.1, entry.2.mapReal f)

variable {f : Float → Float}

@[simp]
theorem mapReal_null : mapReal f .null = .null := by
  simp [mapReal]

@[simp]
theorem mapReal_bool (b : Bool) : mapReal f (.bool b) = .bool b := by
  simp [mapReal]

@[simp]
theorem mapReal_integer (n : Int) : mapReal f (.number (.integer n)) = .number (.integer n) := by
  simp [mapReal]

@[simp]
theorem mapReal_real (x : Float) : mapReal f (.number (.real x)) = .number (.real (f x)) := by
  rw [mapReal]

@[simp]
theorem mapReal_string (s : String) : mapReal f (.string s) = .string s := by
  simp [mapReal]

@[simp]
theorem mapReal_array (items : List Value) :
    mapReal f (.array items) = .array (items.map (mapReal f)) := by
  have hitems : mapRealItems f items = items.map (mapReal f) := by
    induction items with
    | nil => rw [mapRealItems, List.map_nil]
    | cons item rest ih => rw [mapRealItems, ih, List.map_cons]
  rw [mapReal, hitems]

@[simp]
theorem mapReal_object (entries : Entries) :
    mapReal f (.object entries) = .object (entries.map (mapRealEntry f)) := by
  have hentries : mapRealEntries f entries = entries.map (mapRealEntry f) := by
    induction entries with
    | nil => rw [mapRealEntries, List.map_nil]
    | cons entry rest ih => rw [mapRealEntries, ih, List.map_cons, mapRealEntry]
  rw [mapReal, hentries]

mutual

/-- Numbers that stay as they are leave a value as it is. -/
theorem mapReal_id : (value : Value) → mapReal id value = value
  | .null => mapReal_null
  | .bool b => mapReal_bool b
  | .number (.integer n) => mapReal_integer n
  | .number (.real x) => mapReal_real x
  | .string s => mapReal_string s
  | .array items => by rw [mapReal, mapRealItems_id items]
  | .object entries => by rw [mapReal, mapRealEntries_id entries]

theorem mapRealItems_id : (items : List Value) → mapRealItems id items = items
  | [] => by rw [mapRealItems]
  | item :: rest => by rw [mapRealItems, mapReal_id item, mapRealItems_id rest]

theorem mapRealEntries_id : (entries : Entries) → mapRealEntries id entries = entries
  | [] => by rw [mapRealEntries]
  | (key, value) :: rest => by rw [mapRealEntries, mapReal_id value, mapRealEntries_id rest]

end

end Value

/-! ### The layouts of the writer -/

variable {f : Float → Float}

/-- **The values that are read** inside of `depth` more containers: their numbers are read,
each real one `x` as `f x`, and no container is nested deeper. -/
def Readable (f : Float → Float) : (depth : Nat) → Value → Prop
  | _, .number (.integer n) => ReadsBack (.integer n)
  | _, .number (.real x) => ReadsAs (.real x) (.real (f x))
  | 0, .array _ => False
  | depth + 1, .array items => ∀ item ∈ items, Readable f depth item
  | 0, .object _ => False
  | depth + 1, .object entries => ∀ entry ∈ entries, Readable f depth entry.2
  | _, _ => True

theorem blanks_indent (level : Nat) : Blanks (Value.indent level) := by
  intro c hc
  rw [List.eq_of_mem_replicate hc]
  rfl

theorem Blanks.newline {blanks : List Char} (h : Blanks blanks) : Blanks ('\n' :: blanks) := by
  rw [Blanks, List.forall_mem_cons]
  exact ⟨rfl, h⟩

namespace Value

/-- How the compact layout writes an entry. -/
def compactEntry (entry : String × Value) : List Char :=
  quoted entry.1 ++ ':' :: compact entry.2

/-- How the pretty layout writes an entry at a level of indentation. -/
def prettyEntry (level : Nat) (entry : String × Value) : List Char :=
  quoted entry.1 ++ ':' :: ' ' :: prettyAt level entry.2

theorem compactItems_eq (items : List Value) :
    compactItems items ++ [']'] = listText ']' [] [] compact true items := by
  induction items with
  | nil => rfl
  | cons item rest ih =>
      -- the writer looks ahead for the last item, which has no comma behind it
      cases rest with
      | nil => rfl
      | cons item' rest =>
          rw [compactItems, List.append_assoc, List.cons_append, ih]
          · rfl
          · exact List.cons_ne_nil item' rest

theorem compactEntries_eq (entries : Entries) :
    compactEntries entries ++ ['\x7d'] = listText '\x7d' [] [] compactEntry true entries := by
  induction entries with
  | nil => rfl
  | cons entry rest ih =>
      cases rest with
      | nil => rfl
      | cons entry' rest =>
          rw [compactEntries, List.append_assoc, List.cons_append, List.append_assoc,
            List.cons_append, ih]
          · simp only [listText, compactEntry, List.nil_append, List.append_assoc, List.cons_append]
          · exact List.cons_ne_nil entry' rest

theorem prettyItems_eq (level : Nat) (last : List Char) {items : List Value} (hne : items ≠ []) :
    '\n' :: (prettyItems level items ++ last ++ [']']) =
      listText ']' ('\n' :: indent level) ('\n' :: last) (prettyAt level) true items := by
  induction items with
  | nil => exact absurd rfl hne
  | cons item rest ih =>
      cases rest with
      | nil =>
          simp only [prettyItems, listText, List.cons_append, List.append_assoc, List.nil_append]
      | cons item' rest =>
          have htail := ih (List.cons_ne_nil item' rest)
          -- the comma stands before an item here, and behind the one before it there
          have hnext : listText ']' ('\n' :: indent level) ('\n' :: last) (prettyAt level) false
              (item' :: rest) = ',' :: listText ']' ('\n' :: indent level) ('\n' :: last)
                (prettyAt level) true (item' :: rest) := rfl
          rw [listText, hnext, ← htail, prettyItems]
          · simp only [List.cons_append, List.append_assoc]
          · exact List.cons_ne_nil item' rest

theorem prettyEntries_eq (level : Nat) (last : List Char) {entries : Entries}
    (hne : entries ≠ []) :
    '\n' :: (prettyEntries level entries ++ last ++ ['\x7d']) =
      listText '\x7d' ('\n' :: indent level) ('\n' :: last) (prettyEntry level) true entries := by
  induction entries with
  | nil => exact absurd rfl hne
  | cons entry rest ih =>
      cases rest with
      | nil =>
          simp only [prettyEntries, listText, prettyEntry, List.cons_append, List.append_assoc,
            List.nil_append]
      | cons entry' rest =>
          have htail := ih (List.cons_ne_nil entry' rest)
          have hnext : listText '\x7d' ('\n' :: indent level) ('\n' :: last) (prettyEntry level)
              false (entry' :: rest) = ',' :: listText '\x7d' ('\n' :: indent level)
                ('\n' :: last) (prettyEntry level) true (entry' :: rest) := rfl
          rw [listText, hnext, ← htail, prettyEntries]
          · simp only [prettyEntry, List.cons_append, List.append_assoc]
          · exact List.cons_ne_nil entry' rest

end Value

/-- **The compact layout** spells the value that is read. -/
theorem spells_compact {depth : Nat} {value : Value} (h : Readable f depth value) :
    Spells depth (value.mapReal f) value.compact := by
  induction depth using Nat.strongRecOn generalizing value with
  | ind depth ih =>
      cases value with
      | null => rw [Value.mapReal_null, Spells]
      | bool b => rw [Value.mapReal_bool, Spells]
      | number n =>
          cases n with
          | integer n =>
              rw [Readable] at h
              rw [Value.mapReal_integer, Spells]
              exact ⟨.integer n, h.readsAs, rfl⟩
          | real x =>
              rw [Readable] at h
              rw [Value.mapReal_real, Spells]
              exact ⟨.real x, h, rfl⟩
      | string s => rw [Value.mapReal_string, Spells, Value.compact]
      | array items =>
          rw [Value.mapReal_array]
          cases depth with
          | zero => exact absurd h (by simp [Readable])
          | succ depth =>
              refine ⟨_, ?_, rfl⟩
              rw [Value.compactItems_eq]
              exact listed_listText .nil .nil
                (fun item hitem => ih depth (Nat.lt_succ_self depth) (h item hitem)) true
      | object entries =>
          rw [Value.mapReal_object]
          cases depth with
          | zero => exact absurd h (by simp [Readable])
          | succ depth =>
              refine ⟨_, ?_, rfl⟩
              rw [Value.compactEntries_eq]
              refine listed_listText .nil .nil (fun entry hentry => ?_) true
              exact ⟨[], entry.2.compact, .nil,
                ih depth (Nat.lt_succ_self depth) (h entry hentry), rfl⟩

/-- **The pretty layout** spells the value that is read, at any level of indentation. -/
theorem spells_prettyAt {depth : Nat} {value : Value} (h : Readable f depth value) (level : Nat) :
    Spells depth (value.mapReal f) (value.prettyAt level) := by
  induction depth using Nat.strongRecOn generalizing value level with
  | ind depth ih =>
      cases value with
      | null => exact spells_compact h
      | bool b => exact spells_compact h
      | number n => exact spells_compact h
      | string s => exact spells_compact h
      | array items =>
          -- a list of numbers only stays on one line
          rw [Value.prettyAt]
          split
          · exact spells_compact h
          next hnumbers =>
            cases depth with
            | zero => exact absurd h (by simp [Readable])
            | succ depth =>
                have hne : items ≠ [] := by
                  rintro rfl
                  exact hnumbers rfl
                rw [Value.mapReal_array]
                refine ⟨_, ?_, rfl⟩
                rw [Value.prettyItems_eq (level + 1) (Value.indent level) hne]
                exact listed_listText (blanks_indent _).newline (blanks_indent _).newline
                  (fun item hitem => ih depth (Nat.lt_succ_self depth) (h item hitem) (level + 1))
                  true
      | object entries =>
          cases depth with
          | zero => exact absurd h (by simp [Readable])
          | succ depth =>
              rw [Value.mapReal_object]
              cases entries with
              | nil => exact ⟨['\x7d'], .close .nil, rfl⟩
              | cons entry rest =>
                  have hne : entry :: rest ≠ [] := List.cons_ne_nil entry rest
                  refine ⟨'\n' :: (Value.prettyEntries (level + 1) (entry :: rest) ++
                    Value.indent level ++ ['\x7d']), ?_, ?_⟩
                  · rw [Value.prettyEntries_eq (level + 1) (Value.indent level) hne]
                    refine listed_listText (blanks_indent _).newline (blanks_indent _).newline
                      (fun e he => ?_) true
                    refine ⟨[' '], e.2.prettyAt (level + 1), ?_,
                      ih depth (Nat.lt_succ_self depth) (h e he) (level + 1), rfl⟩
                    rw [Blanks, List.forall_mem_singleton]
                    rfl
                  · rw [Value.prettyAt]
                    exact hne

/-- **A value in the compact layout** is read with its real numbers as they are read. -/
theorem parse_compact {value : Value} (h : Readable f maxDepth value) :
    parse value.compact = .ok (value.mapReal f) :=
  parse_spells (spells_compact h)

/-- **A value in the pretty layout** is read with its real numbers as they are read. -/
theorem parse_pretty {value : Value} (h : Readable f maxDepth value) :
    parse value.pretty = .ok (value.mapReal f) :=
  parse_spells (spells_prettyAt h 0)

end FigureScript.Json
