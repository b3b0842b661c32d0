import FigureScript.Proofs.Json.Layout
import FigureScript.Proofs.Text.OneLine

/-!
# The pretty layout without its blanks

The pretty layout of a value has the tokens of the compact one, in the same order.  What it has
besides are blanks and line breaks, and they stand outside of strings.

## Main Definitions

* `withoutBlanks` — a text without the spaces and line breaks outside of its strings
* `Compacts` — what is left of a piece of a text that begins and ends outside of strings
* `Surroundings` — a place in a value: the containers around it with what else they hold

## Main Results

* `Value.induction` — induction on a value through its containers
* `compacts_prettyAt` — the compact layout is left of the pretty one
* `breaksLine_compact` — the compact layout is one line
* `pretty_surrounds` — where a list is printed, and how
* `pretty_compacts` — the layouts differ in blanks only, and lists of numbers stay on one line

## Design Notes

Both layouts are lists in the sense of `listText`, with other blanks in front of their items.
So their two loops are compared item by item without looking at either of them again.
-/

namespace FigureScript.Json

open Number Text

/-! ### Induction on values -/

/-- **Induction on a value** through the items of its lists and the values of its objects. -/
@[elab_as_elim]
theorem Value.induction {motive : Value → Prop} (null : motive .null)
    (bool : ∀ b, motive (.bool b)) (number : ∀ n, motive (.number n))
    (string : ∀ s, motive (.string s))
    (array : ∀ items, (∀ item ∈ items, motive item) → motive (.array items))
    (object : ∀ entries : Entries, (∀ entry ∈ entries, motive entry.2) → motive (.object entries))
    (value : Value) : motive value := by
  refine @Value.rec motive (fun items => ∀ item ∈ items, motive item)
    (fun entries => ∀ entry ∈ entries, motive entry.2) (fun entry => motive entry.2)
    null bool number string array object (List.forall_mem_nil _) ?_ (List.forall_mem_nil _) ?_ ?_
    value
  · intro item rest hitem hrest
    exact List.forall_mem_cons.mpr ⟨hitem, hrest⟩
  · intro entry rest hentry hrest
    exact List.forall_mem_cons.mpr ⟨hentry, hrest⟩
  · intro key value hvalue
    exact hvalue

/-! ### Deleting blanks -/

/-- A space or a line break. -/
def isGap (c : Char) : Bool :=
  c = ' ' || breaksLine c

/-- Spaces and line breaks are white space. -/
theorem isGap_of_solid {c : Char} (h : c.isWhitespace = false) : isGap c = false := by
  rw [← Bool.not_eq_true]
  intro hgap
  simp only [isGap, breaksLine, Bool.or_eq_true, decide_eq_true_eq] at hgap
  rcases hgap with rfl | rfl | rfl <;> cases h

/-- What is left of a text without its spaces and line breaks, for a reader who stands in a
region.  Strings are kept as they are; a backslash in a string protects the character behind
it. -/
def withoutBlanksFrom : Region → List Char → List Char
  | _, [] => []
  | .code, c :: rest =>
    if isGap c then withoutBlanksFrom .code rest
    else c :: withoutBlanksFrom (if c = '"' then .literal else .code) rest
  | .literal, c :: rest =>
    c :: withoutBlanksFrom
      (if c = '"' then .code else if c = '\\' then .escape else .literal) rest
  | .escape, c :: rest => c :: withoutBlanksFrom .literal rest

/-- **A text without the spaces and line breaks outside of its strings.** -/
def withoutBlanks (text : List Char) : List Char :=
  withoutBlanksFrom .code text

/-- **What is left of a piece of a text** without its blanks.  The piece begins and ends outside
of strings. -/
def Compacts (piece left : List Char) : Prop :=
  ∀ rest, withoutBlanksFrom .code (piece ++ rest) = left ++ withoutBlanksFrom .code rest

namespace Compacts

variable {piece piece' left left' : List Char}

theorem nil : Compacts [] [] := by
  intro rest
  rfl

theorem append (h : Compacts piece left) (h' : Compacts piece' left') :
    Compacts (piece ++ piece') (left ++ left') := by
  intro rest
  rw [List.append_assoc, h, h', List.append_assoc]

/-- A character that is neither deleted nor begins a string. -/
theorem cons {c : Char} (hgap : isGap c = false) (hquote : c ≠ '"') (h : Compacts piece left) :
    Compacts (c :: piece) (c :: left) := by
  intro rest
  rw [List.cons_append, withoutBlanksFrom, hgap, if_neg hquote, h]
  rfl

/-- Spaces and line breaks are deleted. -/
theorem gap {c : Char} (hgap : isGap c = true) (h : Compacts piece left) :
    Compacts (c :: piece) left := by
  intro rest
  rw [List.cons_append, withoutBlanksFrom, if_pos hgap, h]

/-- A line break with an indentation is deleted. -/
theorem newline (level : Nat) : Compacts ('\n' :: Value.indent level) [] := by
  have hspaces (n : Nat) : Compacts (List.replicate n ' ') [] := by
    induction n with
    | zero => exact nil
    | succ n ih =>
        rw [List.replicate_succ]
        exact ih.gap rfl
  exact (hspaces (4 * level)).gap rfl

/-- A number is kept: it has no quote and no white space. -/
theorem of_numberChars (h : NumberChars piece) : Compacts piece piece := by
  have hquote := h.quote_notMem
  have hsolid := Solid.of_numberChars h
  rw [Solid, String.toList_ofList] at hsolid
  clear h
  induction piece with
  | nil => exact nil
  | cons c piece ih =>
      rw [List.forall_mem_cons] at hsolid
      rw [List.mem_cons, not_or] at hquote
      exact (ih hquote.2 hsolid.2).cons (isGap_of_solid hsolid.1) (Ne.symm hquote.1)

end Compacts

/-! ### Strings -/

/-- A character of a string is kept, escaped or not. -/
theorem withoutBlanksFrom_escapeChar (c : Char) (rest : List Char) :
    withoutBlanksFrom .literal (escapeChar c ++ rest) =
      escapeChar c ++ withoutBlanksFrom .literal rest := by
  unfold escapeChar
  split_ifs with hquote hslash hline hreturn htab hback hfeed hcontrol
  · rfl
  · rfl
  · rfl
  · rfl
  · rfl
  · rfl
  · rfl
  · have hhigh := hexDigit_ne (n := c.toNat / 16) (by omega)
    have hlow := hexDigit_ne (n := c.toNat % 16) (by omega)
    simp [withoutBlanksFrom, hhigh, hlow]
  · simp [withoutBlanksFrom, hquote, hslash]

/-- **A string is kept**, whatever its characters are. -/
theorem Compacts.quoted (text : String) : Compacts (quoted text) (quoted text) := by
  have hbody (chars rest : List Char) :
      withoutBlanksFrom .literal (chars.flatMap escapeChar ++ '"' :: rest) =
        chars.flatMap escapeChar ++ '"' :: withoutBlanksFrom .code rest := by
    induction chars with
    | nil => rfl
    | cons c chars ih =>
        rw [List.flatMap_cons, List.append_assoc, withoutBlanksFrom_escapeChar, ih,
          List.append_assoc]
  intro rest
  rw [quoted_append, quoted_append, ← hbody]
  rfl

/-! ### Lists and values -/

/-- **A list is left item by item**, without the blanks in front of its items. -/
theorem Compacts.listText {α : Type} {close : Char} {lead last : List Char}
    {write write' : α → List Char} (hclose : Compacts [close] [close]) (hlead : Compacts lead [])
    (hlast : Compacts last []) {items : List α}
    (hitems : ∀ a ∈ items, Compacts (write a) (write' a)) (first : Bool) :
    Compacts (listText close lead last write first items)
      (listText close [] [] write' first items) := by
  induction items generalizing first with
  | nil => exact hlast.append hclose
  | cons a rest ih =>
      rw [List.forall_mem_cons] at hitems
      have hitem := hlead.append (hitems.1.append (ih hitems.2 false))
      cases first with
      | true => exact hitem
      | false => exact hitem.cons rfl (by decide)

/-- Nothing is deleted from the compact layout. -/
theorem compacts_compact (value : Value) : Compacts value.compact value.compact := by
  induction value using Value.induction with
  | null => exact fun rest => rfl
  | bool b =>
      cases b with
      | false => exact fun rest => rfl
      | true => exact fun rest => rfl
  | number n =>
      rw [Value.compact]
      exact .of_numberChars n.text_chars
  | string s =>
      rw [Value.compact]
      exact .quoted s
  | array items ih =>
      rw [Value.compact, Value.compactItems_eq]
      exact (Compacts.listText (.cons rfl (by decide) .nil) .nil .nil ih true).cons rfl (by decide)
  | object entries ih =>
      rw [Value.compact, Value.compactEntries_eq]
      refine (Compacts.listText (.cons rfl (by decide) .nil) .nil .nil (fun entry hentry => ?_)
        true).cons rfl (by decide)
      exact (Compacts.quoted entry.1).append ((ih entry hentry).cons rfl (by decide))

/-- **The compact layout is left of the pretty one**, at any level of indentation. -/
theorem compacts_prettyAt (value : Value) (level : Nat) :
    Compacts (value.prettyAt level) value.compact := by
  induction value using Value.induction generalizing level with
  | null => exact compacts_compact .null
  | bool b => exact compacts_compact (.bool b)
  | number n => exact compacts_compact (.number n)
  | string s => exact compacts_compact (.string s)
  | array items ih =>
      rw [Value.prettyAt]
      split
      next hnumbers => exact compacts_compact (.array items)
      next hnumbers =>
        have hne : items ≠ [] := by
          rintro rfl
          exact hnumbers rfl
        rw [Value.prettyItems_eq (level + 1) (Value.indent level) hne, Value.compact,
          Value.compactItems_eq]
        exact (Compacts.listText (.cons rfl (by decide) .nil) (.newline _) (.newline _)
          (fun item hitem => ih item hitem (level + 1)) true).cons rfl (by decide)
  | object entries ih =>
      cases entries with
      | nil => exact compacts_compact (.object [])
      | cons entry rest =>
          have hne : entry :: rest ≠ [] := List.cons_ne_nil entry rest
          rw [Value.prettyAt, Value.prettyEntries_eq (level + 1) (Value.indent level) hne,
            Value.compact, Value.compactEntries_eq]
          · refine (Compacts.listText (.cons rfl (by decide) .nil) (.newline _) (.newline _)
              (fun e he => ?_) true).cons rfl (by decide)
            have hvalue := (ih e he (level + 1)).gap (show isGap ' ' = true from rfl)
            exact (Compacts.quoted e.1).append (hvalue.cons rfl (by decide))
          · exact hne

/-! ### Lines -/

/-- A character of a string breaks no line, for it is escaped if it would. -/
theorem breaksLine_escapeChar (c : Char) : ∀ c' ∈ escapeChar c, breaksLine c' = false := by
  unfold escapeChar
  split_ifs with hquote hslash hline hreturn htab hback hfeed hcontrol
  · simp [breaksLine]
  · simp [breaksLine]
  · simp [breaksLine]
  · simp [breaksLine]
  · simp [breaksLine]
  · simp [breaksLine]
  · simp [breaksLine]
  · have hhigh := OneLine.breaksLine_hexDigit (n := c.toNat / 16) (by omega)
    have hlow := OneLine.breaksLine_hexDigit (n := c.toNat % 16) (by omega)
    have hmark : breaksLine '\\' = false ∧ breaksLine 'u' = false ∧ breaksLine '0' = false :=
      ⟨rfl, rfl, rfl⟩
    simp [hhigh, hlow, hmark]
  · simp [breaksLine, hline, hreturn]

theorem breaksLine_quoted (text : String) : ∀ c ∈ quoted text, breaksLine c = false := by
  have hbody : ∀ c ∈ text.toList.flatMap escapeChar, breaksLine c = false := by
    intro c hc
    obtain ⟨given, -, hc⟩ := List.mem_flatMap.mp hc
    exact breaksLine_escapeChar given c hc
  rw [quoted, List.forall_mem_cons, List.forall_mem_append, List.forall_mem_singleton]
  exact ⟨rfl, hbody, rfl⟩

/-- A list without blanks breaks no line unless one of its items does. -/
theorem breaksLine_listText {α : Type} {close : Char} {write : α → List Char}
    (hclose : breaksLine close = false) {items : List α}
    (hitems : ∀ a ∈ items, ∀ c ∈ write a, breaksLine c = false) (first : Bool) :
    ∀ c ∈ listText close [] [] write first items, breaksLine c = false := by
  induction items generalizing first with
  | nil => exact List.forall_mem_singleton.mpr hclose
  | cons a rest ih =>
      rw [List.forall_mem_cons] at hitems
      have hitem := List.forall_mem_append.mpr ⟨hitems.1, ih hitems.2 false⟩
      cases first with
      | true => exact hitem
      | false => exact List.forall_mem_cons.mpr ⟨rfl, hitem⟩

/-- **The compact layout is one line**, whatever the strings of the value hold. -/
theorem breaksLine_compact (value : Value) : ∀ c ∈ value.compact, breaksLine c = false := by
  induction value using Value.induction with
  | null => simp [Value.compact, breaksLine]
  | bool b => cases b <;> simp [Value.compact, breaksLine]
  | number n =>
      have hsolid := Solid.of_numberChars n.text_chars
      rw [String.ofList_toList] at hsolid
      exact hsolid.oneLine
  | string s =>
      rw [Value.compact]
      exact breaksLine_quoted s
  | array items ih =>
      rw [Value.compact, Value.compactItems_eq, List.forall_mem_cons]
      exact ⟨rfl, breaksLine_listText rfl ih true⟩
  | object entries ih =>
      rw [Value.compact, Value.compactEntries_eq, List.forall_mem_cons]
      refine ⟨rfl, breaksLine_listText rfl (fun entry hentry => ?_) true⟩
      rw [Value.compactEntry, List.forall_mem_append, List.forall_mem_cons]
      exact ⟨breaksLine_quoted entry.1, rfl, ih entry hentry⟩

/-! ### Places in a value -/

/-- **A place in a value**: the containers around it from the outside to the inside, with what
they hold before and after it. -/
inductive Surroundings where
  | here
  | item (before : List Value) (inside : Surroundings) (after : List Value)
  | entry (before : Entries) (key : String) (inside : Surroundings) (after : Entries)

namespace Surroundings

/-- The value with another value at the place. -/
def fill : Surroundings → Value → Value
  | here, value => value
  | item before inside after, value => .array (before ++ inside.fill value :: after)
  | entry before key inside after, value => .object (before ++ (key, inside.fill value) :: after)

/-- The number of containers around the place. -/
def depth : Surroundings → Nat
  | here => 0
  | item _ inside _ => inside.depth + 1
  | entry _ _ inside _ => inside.depth + 1

/-- A container is no number, and so no list around it has numbers only. -/
theorem isNumber_fill (place : Surroundings) {value : Value} (h : value.isNumber = false) :
    (place.fill value).isNumber = false := by
  cases place with
  | here => exact h
  | item before inside after => rfl
  | entry before key inside after => rfl

end Surroundings

/-- What stands around an item of a list does not depend on the item. -/
theorem exists_listText_eq {α : Type} (close : Char) (lead last : List Char)
    (write : α → List Char) (before after : List α) (first : Bool) :
    ∃ left right, ∀ a, listText close lead last write first (before ++ a :: after) =
      left ++ (write a ++ right) := by
  induction before generalizing first with
  | nil =>
      cases first with
      | true =>
          refine ⟨lead, listText close lead last write false after, fun a => ?_⟩
          rfl
      | false =>
          refine ⟨',' :: lead, listText close lead last write false after, fun a => ?_⟩
          rfl
  | cons b before ih =>
      obtain ⟨left, right, hrest⟩ := ih false
      cases first with
      | true =>
          refine ⟨lead ++ (write b ++ left), right, fun a => ?_⟩
          simp only [List.cons_append, listText, hrest, List.append_assoc]
      | false =>
          refine ⟨',' :: (lead ++ (write b ++ left)), right, fun a => ?_⟩
          simp only [List.cons_append, listText, hrest, List.append_assoc]

/-- **Where a value is printed**: what the pretty layout has around a place depends on the place
only, and what stands there is the layout of the value at the indentation of the place. -/
theorem pretty_surrounds (place : Surroundings) (level : Nat) :
    ∃ left right, ∀ value : Value, value.isNumber = false →
      (place.fill value).prettyAt level =
        left ++ (value.prettyAt (level + place.depth) ++ right) := by
  induction place generalizing level with
  | here =>
      refine ⟨[], [], fun value _ => ?_⟩
      rw [List.append_nil]
      rfl
  | item before inside after ih =>
      obtain ⟨left, right, hinside⟩ := ih (level + 1)
      obtain ⟨left', right', hlist⟩ := exists_listText_eq ']' ('\n' :: Value.indent (level + 1))
        ('\n' :: Value.indent level) (Value.prettyAt (level + 1)) before after true
      refine ⟨'[' :: (left' ++ left), right ++ right', fun value hvalue => ?_⟩
      have hnumbers : ¬ (before ++ inside.fill value :: after).all Value.isNumber = true := by
        rw [List.all_append, List.all_cons, inside.isNumber_fill hvalue]
        simp
      have hne : before ++ inside.fill value :: after ≠ [] := by
        simp
      have hdepth : level + 1 + inside.depth = level + (inside.depth + 1) := by
        omega
      show (Value.array (before ++ inside.fill value :: after)).prettyAt level = _
      rw [Value.prettyAt, if_neg hnumbers,
        Value.prettyItems_eq (level + 1) (Value.indent level) hne, hlist, hinside value hvalue,
        hdepth]
      simp only [Surroundings.depth, List.cons_append, List.append_assoc]
  | entry before key inside after ih =>
      obtain ⟨left, right, hinside⟩ := ih (level + 1)
      obtain ⟨left', right', hlist⟩ := exists_listText_eq '\x7d'
        ('\n' :: Value.indent (level + 1)) ('\n' :: Value.indent level)
        (Value.prettyEntry (level + 1)) before after true
      refine ⟨'\x7b' :: (left' ++ (quoted key ++ ':' :: ' ' :: left)), right ++ right',
        fun value hvalue => ?_⟩
      have hne : before ++ (key, inside.fill value) :: after ≠ [] := by
        simp
      have hdepth : level + 1 + inside.depth = level + (inside.depth + 1) := by
        omega
      show (Value.object (before ++ (key, inside.fill value) :: after)).prettyAt level = _
      rw [Value.prettyAt, Value.prettyEntries_eq (level + 1) (Value.indent level) hne, hlist,
        Value.prettyEntry, hinside value hvalue, hdepth]
      · simp only [Surroundings.depth, List.cons_append, List.append_assoc]
      · exact hne

/-- **The layouts differ in blanks only.**  What is left of the pretty layout of a value without
the spaces and line breaks outside of its strings is the compact layout.  And wherever a list of
numbers stands in a value, it is printed there as in the compact layout, without a line
break. -/
theorem pretty_compacts :
    (∀ value : Value, withoutBlanks value.pretty = value.compact) ∧
    ∀ place : Surroundings, ∃ left right, ∀ items : List Value, items.all Value.isNumber = true →
      (place.fill (.array items)).pretty = left ++ ((Value.array items).compact ++ right) ∧
      ∀ c ∈ (Value.array items).compact, breaksLine c = false := by
  refine ⟨fun value => ?_, fun place => ?_⟩
  · have hvalue := compacts_prettyAt value 0 []
    rw [List.append_nil] at hvalue
    rw [withoutBlanks, Value.pretty, hvalue]
    exact List.append_nil value.compact
  · obtain ⟨left, right, hplace⟩ := pretty_surrounds place 0
    refine ⟨left, right, fun items hitems => ⟨?_, breaksLine_compact (.array items)⟩⟩
    have harray := hplace (.array items) rfl
    rw [Value.prettyAt, if_pos hitems] at harray
    exact harray

/-- A list of numbers in an object behind a string of quotes, backslashes and line breaks. -/
theorem pretty_compacts_nestedNumbers :
    let place := Surroundings.item [.string "a \"b\\ \n"] (.entry [] "x y" .here []) []
    let items := [Value.number (.integer 1), .number (.integer (-2))]
    withoutBlanks (place.fill (.array items)).pretty = (place.fill (.array items)).compact ∧
    items.all Value.isNumber = true ∧
    ∃ left right,
      (place.fill (.array items)).pretty = left ++ ((Value.array items).compact ++ right) ∧
      ∀ c ∈ (Value.array items).compact, breaksLine c = false := by
  intro place items
  obtain ⟨left, right, hplace⟩ := pretty_compacts.2 place
  have hitems : items.all Value.isNumber = true := rfl
  exact ⟨pretty_compacts.1 _, hitems, left, right, hplace items hitems⟩

end FigureScript.Json
