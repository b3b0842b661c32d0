import FigureScript.Proofs.Number.Spelling
import FigureScript.Proofs.Text.Outline

/-!
# Texts on one line

The code of a script is laid out in lines, and its indentation carries meaning.  So a piece of
code must not break a line, and what a line begins with must not be taken for indentation.

## Main Definitions

* `OneLine` — a text without a line break
* `LineText` — a text that can be told from its indentation
* `Solid`, `IsName` — a text without white space, and a name

## Main Results

* `Solid.of_numberChars` — a finite number has no white space
* `OneLine.literal` — a literal stays on its line, whatever its text is
* `LineText.append` — code may be continued on its line
-/

namespace FigureScript.Text

/-- The character ends a line. -/
def breaksLine (c : Char) : Bool :=
  c = '\n' || c = '\r'

/-- **A text without a line break.** -/
def OneLine (text : String) : Prop :=
  ∀ c ∈ text.toList, breaksLine c = false

instance (text : String) : Decidable (OneLine text) :=
  List.decidableBAll (fun c : Char => breaksLine c = false) text.toList

/-- **A text that stands on a line of its own**: it has a character, does not break the line,
and does not begin like an indentation. -/
structure LineText (text : String) : Prop where
  nonempty : text ≠ ""
  oneLine : OneLine text
  unindented : text.toList.head? ≠ some ' '

instance (text : String) : Decidable (LineText text) :=
  decidable_of_iff (text ≠ "" ∧ OneLine text ∧ text.toList.head? ≠ some ' ')
    ⟨fun h => ⟨h.1, h.2.1, h.2.2⟩, fun h => ⟨h.1, h.2, h.3⟩⟩

/-- A text without white space. -/
def Solid (text : String) : Prop :=
  ∀ c ∈ text.toList, c.isWhitespace = false

instance (text : String) : Decidable (Solid text) :=
  List.decidableBAll (fun c : Char => c.isWhitespace = false) text.toList

/-- **A name** is not empty and has no white space. -/
structure IsName (text : String) : Prop where
  nonempty : text ≠ ""
  solid : Solid text

instance (text : String) : Decidable (IsName text) :=
  decidable_of_iff (text ≠ "" ∧ Solid text) ⟨fun h => ⟨h.1, h.2⟩, fun h => ⟨h.1, h.2⟩⟩

/-! ### White space -/

namespace Solid

variable {text text' : String}

theorem append (h : Solid text) (h' : Solid text') : Solid (text ++ text') := by
  rw [Solid, String.toList_append, List.forall_mem_append]
  exact ⟨h, h'⟩

/-- Line breaks are white space. -/
theorem oneLine (h : Solid text) : OneLine text := by
  intro c hc
  have hsolid := h c hc
  rw [← Bool.not_eq_true, breaksLine, Bool.or_eq_true, decide_eq_true_eq, decide_eq_true_eq]
  rintro (rfl | rfl) <;> cases hsolid

/-- A finite number has no white space. -/
theorem of_numberChars {chars : List Char} (h : Number.NumberChars chars) :
    Solid (String.ofList chars) := by
  rw [Solid, String.toList_ofList]
  intro c hc
  rcases h c hc with hdigit | hother
  · rw [← Bool.not_eq_true]
    intro hblank
    simp only [Char.isWhitespace, Bool.or_eq_true, decide_eq_true_eq] at hblank
    -- no blank is a digit
    rcases hblank with ((rfl | rfl) | rfl) | rfl <;> cases hdigit
  · simp only [List.mem_cons, List.not_mem_nil, or_false] at hother
    rcases hother with rfl | rfl | rfl | rfl <;> rfl

theorem toString_nat (n : Nat) : Solid (toString n) := by
  have hdigits := of_numberChars (Number.NumberChars.toDigits n)
  rw [← Nat.toList_repr, String.ofList_toList] at hdigits
  exact hdigits

end Solid

namespace IsName

variable {text text' : String}

theorem append (h : IsName text) (h' : Solid text') : IsName (text ++ text') where
  nonempty := fun hempty => h.nonempty (String.append_eq_empty_iff.mp hempty).1
  solid := h.solid.append h'

/-- A name stays one behind other characters. -/
theorem behind (h : IsName text) (h' : Solid text') : IsName (text' ++ text) where
  nonempty := fun hempty => h.nonempty (String.append_eq_empty_iff.mp hempty).2
  solid := h'.append h.solid

end IsName

/-! ### Line breaks -/

namespace OneLine

variable {text text' : String}

theorem append (h : OneLine text) (h' : OneLine text') : OneLine (text ++ text') := by
  rw [OneLine, String.toList_append, List.forall_mem_append]
  exact ⟨h, h'⟩

/-- Texts on one line stay there with a separator between them. -/
theorem intercalate {separator : String} (hseparator : OneLine separator) {texts : List String}
    (h : ∀ text ∈ texts, OneLine text) : OneLine (separator.intercalate texts) := by
  induction texts with
  | nil =>
      rw [String.intercalate_nil]
      decide
  | cons text rest ih =>
      rw [List.forall_mem_cons] at h
      cases rest with
      | nil => simpa only [String.intercalate_singleton] using h.1
      | cons next rest =>
          rw [String.intercalate_cons_cons]
          exact (h.1.append hseparator).append (ih h.2)

/-- A hexadecimal digit breaks no line. -/
theorem breaksLine_hexDigit {n : Nat} (h : n < 16) : breaksLine (hexDigit n) = false := by
  have hall : ∀ n < 16, breaksLine (hexDigit n) = false := by
    decide
  exact hall n h

/-- An escaped character breaks no line. -/
theorem breaksLine_escape (c : Char) : ∀ c' ∈ Quoted.escape c, breaksLine c' = false := by
  unfold Quoted.escape
  split_ifs with hslash hquote hline hreturn htab hcontrol
  · simp [breaksLine]
  · simp [breaksLine]
  · simp [breaksLine]
  · simp [breaksLine]
  · simp [breaksLine]
  · have hsmall := code_lt_of_isControl hcontrol
    have hhigh := breaksLine_hexDigit (n := c.toNat / 16) (by omega)
    have hlow := breaksLine_hexDigit (n := c.toNat % 16) (by omega)
    have hmark : breaksLine '\\' = false ∧ breaksLine 'x' = false := ⟨rfl, rfl⟩
    simp [hhigh, hlow, hmark]
  · simp [breaksLine, hline, hreturn]

/-- **A literal stays on its line**, whatever its text is. -/
theorem literal (text : String) : OneLine (Quoted.literal text) := by
  have hbody : ∀ c ∈ Quoted.encode text.toList, breaksLine c = false := by
    intro c hc
    obtain ⟨given, -, hc⟩ := List.mem_flatMap.mp hc
    exact breaksLine_escape given c hc
  rw [OneLine, Quoted.literal, String.toList_ofList, List.forall_mem_cons, List.forall_mem_append,
    List.forall_mem_singleton]
  exact ⟨rfl, hbody, rfl⟩

end OneLine

/-! ### Lines -/

/-- A name can begin a line. -/
theorem IsName.lineText {text : String} (h : IsName text) : LineText text where
  nonempty := h.nonempty
  oneLine := h.solid.oneLine
  unindented := by
    intro hhead
    have hblank := h.solid ' ' (List.mem_of_mem_head? hhead)
    cases hblank

/-- **Code may be continued on its line.** -/
theorem LineText.append {text text' : String} (h : LineText text) (h' : OneLine text') :
    LineText (text ++ text') := by
  have hne : text.toList ≠ [] := mt String.toList_eq_nil_iff.mp h.nonempty
  obtain ⟨first, rest, htext⟩ := List.exists_cons_of_ne_nil hne
  have hfirst := h.unindented
  rw [htext, List.head?_cons] at hfirst
  constructor
  · exact fun hempty => h.nonempty (String.append_eq_empty_iff.mp hempty).1
  · exact h.oneLine.append h'
  · rw [String.toList_append, htext, List.cons_append, List.head?_cons]
    exact hfirst

end FigureScript.Text
