import FigureScript.Text.Quoted
import Mathlib.Data.List.Forall2
import Mathlib.Tactic.SplitIfs

/-!
# Outlines

The outline of a script is what is left of its text when the contents of all string
literals are deleted.  A quoted text contributes two quotes to it, whatever its
characters are, so that texts which reach a script only through literals cannot change
its outline.

## Main Definitions

* `outline` — a text without the contents of its literals, read from left to right
* `Outlines` — a piece of a script that begins and ends outside of literals, with what
  it contributes to the outline
* `SameOutline` — two pieces that contribute the same
* `QuoteFree` — a text that no literal begins in

## Main Results

* `Outlines.literal` — a literal contributes its two quotes
* `SameOutline.append`, `SameOutline.literal` — pieces may be exchanged

## Design Notes

The contribution of a piece is stated for every continuation of it.  So pieces can be
put one behind the other without asking again where the reader stands.
-/

namespace FigureScript.Text

/-- Where a reader of a script stands. -/
inductive Region where
  | code
  /-- Inside a string literal. -/
  | literal
  /-- Inside a string literal, behind a backslash. -/
  | escape
  deriving DecidableEq

/-- What is left of a text without the contents of its literals, for a reader who
stands in a region.  A backslash inside a literal protects the character behind it. -/
def outlineFrom : Region → List Char → List Char
  | _, [] => []
  | .code, c :: rest => c :: outlineFrom (if c = '"' then .literal else .code) rest
  | .literal, c :: rest =>
    if c = '"' then '"' :: outlineFrom .code rest
    else outlineFrom (if c = '\\' then .escape else .literal) rest
  | .escape, _ :: rest => outlineFrom .literal rest

/-- **The outline of a script**: its text without the contents of string literals. -/
def outline (text : String) : String :=
  String.ofList (outlineFrom .code text.toList)

/-- **What a piece of a script contributes** to the outline.  The piece begins and ends
outside of literals. -/
def Outlines (piece : String) (contribution : List Char) : Prop :=
  ∀ rest, outlineFrom .code (piece.toList ++ rest) = contribution ++ outlineFrom .code rest

/-- A text that no literal begins in. -/
def QuoteFree (text : String) : Prop :=
  '"' ∉ text.toList

instance (text : String) : Decidable (QuoteFree text) :=
  inferInstanceAs (Decidable ('"' ∉ text.toList))

theorem QuoteFree.append {text text' : String} (h : QuoteFree text) (h' : QuoteFree text') :
    QuoteFree (text ++ text') := by
  rw [QuoteFree, String.toList_append, List.mem_append, not_or]
  exact ⟨h, h'⟩

/-! ### Literals -/

/-- The code of a control character has two hexadecimal digits. -/
theorem code_lt_of_isControl {c : Char} (h : isControl c = true) : c.toNat < 256 := by
  simp only [isControl, Bool.or_eq_true, Bool.and_eq_true, decide_eq_true_eq] at h
  omega

/-- A hexadecimal digit ends no literal and begins no escape. -/
theorem hexDigit_ne {n : Nat} (h : n < 16) : hexDigit n ≠ '"' ∧ hexDigit n ≠ '\\' := by
  have hall : ∀ n < 16, hexDigit n ≠ '"' ∧ hexDigit n ≠ '\\' := by decide
  exact hall n h

/-- An escaped character is skipped by a reader inside a literal. -/
theorem outlineFrom_escape (c : Char) (rest : List Char) :
    outlineFrom .literal (Quoted.escape c ++ rest) = outlineFrom .literal rest := by
  unfold Quoted.escape
  split_ifs with hslash hquote hline hreturn htab hcontrol
  · simp [outlineFrom]
  · simp [outlineFrom]
  · simp [outlineFrom]
  · simp [outlineFrom]
  · simp [outlineFrom]
  · have hsmall := code_lt_of_isControl hcontrol
    have hhigh := hexDigit_ne (n := c.toNat / 16) (by omega)
    have hlow := hexDigit_ne (n := c.toNat % 16) (by omega)
    simp [outlineFrom, hhigh, hlow]
  · simp [outlineFrom, hslash, hquote]

/-- The body of a literal is skipped up to the closing quote. -/
theorem outlineFrom_encode (text rest : List Char) :
    outlineFrom .literal (Quoted.encode text ++ '"' :: rest) = '"' :: outlineFrom .code rest := by
  induction text with
  | nil => simp [Quoted.encode, outlineFrom]
  | cons c text ih =>
      have hcons : Quoted.encode (c :: text) = Quoted.escape c ++ Quoted.encode text := rfl
      rw [hcons, List.append_assoc, outlineFrom_escape, ih]

/-! ### Pieces -/

namespace Outlines

variable {piece piece' : String} {o o' : List Char}

/-- Pieces one behind the other contribute one behind the other. -/
theorem append (h : Outlines piece o) (h' : Outlines piece' o') :
    Outlines (piece ++ piece') (o ++ o') := by
  intro rest
  rw [String.toList_append, List.append_assoc, h, h', List.append_assoc]

/-- A piece without a quote contributes itself. -/
theorem of_quoteFree (h : QuoteFree piece) : Outlines piece piece.toList := by
  unfold QuoteFree at h
  unfold Outlines
  generalize piece.toList = chars at h
  induction chars with
  | nil => exact fun rest => rfl
  | cons c chars ih =>
      rw [List.mem_cons, not_or] at h
      intro rest
      have hc : c ≠ '"' := fun heq => h.1 heq.symm
      rw [List.cons_append, outlineFrom, if_neg hc, ih h.2, List.cons_append]

/-- **A literal contributes its two quotes**, whatever it stands for. -/
theorem literal (text : String) : Outlines (Quoted.literal text) ['"', '"'] := by
  intro rest
  rw [Quoted.literal, String.toList_ofList, List.cons_append, List.append_assoc, outlineFrom,
    if_pos rfl, List.singleton_append, outlineFrom_encode]
  rfl

/-- The outline of a text that is one piece. -/
theorem outline_eq (h : Outlines piece o) : outline piece = String.ofList o := by
  have hnil := h []
  rw [List.append_nil] at hnil
  rw [outline, hnil, outlineFrom, List.append_nil]

example : outline "f(\"a\\\"b\", 1)" = "f(\"\", 1)" := by decide

end Outlines

/-- **Two pieces that contribute the same** to the outline. -/
def SameOutline (piece piece' : String) : Prop :=
  ∃ contribution, Outlines piece contribution ∧ Outlines piece' contribution

namespace SameOutline

variable {a a' b b' : String}

theorem of_quoteFree (h : QuoteFree a) : SameOutline a a :=
  ⟨a.toList, .of_quoteFree h, .of_quoteFree h⟩

/-- Any two literals contribute the same. -/
theorem literal (text text' : String) :
    SameOutline (Quoted.literal text) (Quoted.literal text') :=
  ⟨['"', '"'], .literal text, .literal text'⟩

theorem append (h : SameOutline a a') (h' : SameOutline b b') :
    SameOutline (a ++ b) (a' ++ b') := by
  obtain ⟨o, ha, ha'⟩ := h
  obtain ⟨p, hb, hb'⟩ := h'
  exact ⟨o ++ p, ha.append hb, ha'.append hb'⟩

theorem outline_eq (h : SameOutline a a') : outline a = outline a' := by
  obtain ⟨o, ha, ha'⟩ := h
  rw [ha.outline_eq, ha'.outline_eq]

/-- Lists of pieces that contribute the same, with the same separator between them. -/
theorem intercalate {separator : String} (hseparator : QuoteFree separator)
    {pieces pieces' : List String} (h : List.Forall₂ SameOutline pieces pieces') :
    SameOutline (separator.intercalate pieces) (separator.intercalate pieces') := by
  induction h with
  | nil =>
      rw [String.intercalate_nil]
      exact of_quoteFree (by decide)
  | @cons a a' rest rest' ha hrest ih =>
      cases hrest with
      | nil => simpa only [String.intercalate_singleton] using ha
      | cons hb hrest =>
          rw [String.intercalate_cons_cons, String.intercalate_cons_cons]
          exact (ha.append (of_quoteFree hseparator)).append ih

/-- Lists of pieces that contribute the same, joined. -/
theorem join {pieces pieces' : List String} (h : List.Forall₂ SameOutline pieces pieces') :
    SameOutline (String.join pieces) (String.join pieces') := by
  induction h with
  | nil => exact of_quoteFree (by decide)
  | cons ha _ ih =>
      rw [String.join_cons, String.join_cons]
      exact ha.append ih

end SameOutline

end FigureScript.Text
