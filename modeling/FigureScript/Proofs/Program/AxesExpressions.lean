import FigureScript.Number.Numeral
import FigureScript.Program.Axes
import FigureScript.Proofs.Number.Spelling

/-!
# What expressions of axes denote

The library that runs a script returns a grid of axes as an array without the dimensions of
size one, and the expression of a cell picks its axes from that array.  Twins over a cell are
bound to names made from that expression.

## Main Definitions

* `Squeezed`, `subplots` — a grid as it is returned
* `evaluate` — what an expression denotes in a grid
* `Axes.OfGrid` — the cells of a grid and the twins over them, and over these
* `IsIdentifier` — a name that can be assigned to

## Main Results

* `evaluate_cell` — the expression of a cell denotes the axes of the cell
* `Axes.OfGrid.eq_of_flatten` — axes are determined by their names
* `Axes.expression_denotes` — both, and that twins can be bound to their names

## Design Notes

A grid loses its dimensions of size one, one at a time, by a rule that knows nothing of cells.
That rule, not the cases of the expression, is what the expression is compared with.

The name of axes is a sequence of parts without `_`, and `_` between them.  So the parts can be
read off the name, and what is left to show is that the parts determine the axes: the last part
of the name of a twin is no numeral.
-/

namespace FigureScript

open Number (digitsValue digitsValue_toDigits)

/-! ### Grids as they are returned -/

/-- **An array of axes**, or single axes. -/
inductive Squeezed (α : Type) where
  | axes (a : α)
  | list (items : List (Squeezed α))

namespace Squeezed

variable {α : Type}

/-- One dimension of an array; a dimension of size one is left out. -/
def along (size : Nat) (item : Nat → Squeezed α) : Squeezed α :=
  if size = 1 then item 0 else .list ((List.range size).map item)

/-- The item of an array. -/
def index? : Squeezed α → Nat → Option (Squeezed α)
  | axes _, _ => none
  | list items, i => items[i]?

/-- The axes that are left, if no dimension is. -/
def axes? : Squeezed α → Option α
  | axes a => some a
  | list _ => none

end Squeezed

/-- **The grid that is returned** for a number of rows and columns, made of some axes. -/
def subplots {α : Type} (rows cols : Nat) (axes : Nat → Nat → α) : Squeezed α :=
  .along rows fun row => .along cols fun col => .axes (axes row col)

/-! ### Evaluation -/

/-- The number of a decimal numeral without leading zeros. -/
def numeral? (digits : List Char) : Option Nat :=
  if Nat.toDigits 10 (digitsValue digits) = digits then some (digitsValue digits) else none

/-- The numbers of subscripts one behind the other, such as `[1][23]`.  Inside of a subscript
the digits read so far are passed on. -/
def subscripts? : (digits : Option (List Char)) → List Char → Option (List Nat)
  | none, [] => some []
  | none, '[' :: rest => subscripts? (some []) rest
  | some digits, ']' :: rest => do
    let index ← numeral? digits
    let indices ← subscripts? none rest
    return index :: indices
  | some digits, c :: rest => subscripts? (some (digits ++ [c])) rest
  | _, _ => none

/-- **What an expression denotes**: the name of the grid with subscripts behind it. -/
def evaluate {α : Type} (grid : Squeezed α) (expression : String) : Option α :=
  match expression.toList with
  | 'a' :: 'x' :: 'a' :: 'r' :: 'r' :: rest => do
    let indices ← subscripts? none rest
    let item ← indices.foldlM Squeezed.index? grid
    item.axes?
  | _ => none

/-! ### Cells -/

section Digits

variable {n : Nat} {c : Char}

/-- A numeral has no other characters than digits. -/
theorem ne_of_mem_toDigits {other : Char} (hother : other.isDigit = false)
    (h : c ∈ Nat.toDigits 10 n) : c ≠ other := by
  rintro rfl
  rw [Nat.isDigit_of_mem_toDigits (by decide) (by decide) h] at hother
  cases hother

theorem numeral?_toDigits (n : Nat) : numeral? (Nat.toDigits 10 n) = some n := by
  rw [numeral?, digitsValue_toDigits, if_pos rfl]

/-- Different numbers have different numerals. -/
theorem toDigits_injective : Function.Injective (Nat.toDigits 10) := by
  intro n n' h
  rw [← digitsValue_toDigits n, h, digitsValue_toDigits]

end Digits

/-- How a subscript is written. -/
def subscript (index : Nat) : List Char :=
  '[' :: (Nat.toDigits 10 index ++ [']'])

/-- The digits of a subscript are collected up to its closing bracket. -/
theorem subscripts?_digits {digits collected : List Char} (hdigits : ∀ c ∈ digits, c ≠ ']')
    (rest : List Char) :
    subscripts? (some collected) (digits ++ ']' :: rest) =
      subscripts? (some (collected ++ digits)) (']' :: rest) := by
  induction digits generalizing collected with
  | nil => rw [List.nil_append, List.append_nil]
  | cons c digits ih =>
      rw [List.forall_mem_cons] at hdigits
      have hcons : subscripts? (some collected) (c :: (digits ++ ']' :: rest)) =
          subscripts? (some (collected ++ [c])) (digits ++ ']' :: rest) := by
        rw [subscripts?]
        exact hdigits.1
      rw [List.cons_append, hcons, ih hdigits.2, List.append_assoc, List.singleton_append]

/-- **Subscripts are read back.** -/
theorem subscripts?_flatMap (indices : List Nat) :
    subscripts? none (indices.flatMap subscript) = some indices := by
  induction indices with
  | nil => rfl
  | cons index indices ih =>
      have hdigits : ∀ c ∈ Nat.toDigits 10 index, c ≠ ']' := fun c hc =>
        ne_of_mem_toDigits (by decide) hc
      have hopen : subscripts? none ((index :: indices).flatMap subscript) =
          subscripts? (some []) (Nat.toDigits 10 index ++ ']' :: indices.flatMap subscript) := by
        rw [List.flatMap_cons, subscript, List.cons_append, List.append_assoc,
          List.singleton_append, subscripts?]
      rw [hopen, subscripts?_digits hdigits, List.nil_append, subscripts?, numeral?_toDigits, ih]
      rfl

/-- The subscripts of a cell: its places in the dimensions that are not left out. -/
def cellIndices (row col rows cols : Nat) : List Nat :=
  (if rows = 1 then [] else [row]) ++ if cols = 1 then [] else [col]

theorem toList_cellExpression (row col rows cols : Nat) :
    (Axes.cellExpression row col rows cols).toList =
      "axarr".toList ++ (cellIndices row col rows cols).flatMap subscript := by
  have hone (i : Nat) : s!"axarr[{i}]" = "axarr[" ++ i.repr ++ "]" := rfl
  have htwo : s!"axarr[{row}][{col}]" = "axarr[" ++ row.repr ++ "][" ++ col.repr ++ "]" := rfl
  unfold Axes.cellExpression cellIndices
  rw [hone, hone, htwo]
  by_cases hrows : rows = 1 <;> by_cases hcols : cols = 1 <;>
    simp [hrows, hcols, subscript, Nat.toList_repr]

namespace Squeezed

variable {α : Type}

/-- A dimension is entered at a place, or it is left out and has one place only. -/
theorem foldlM_along {size i : Nat} (h : i < size) (item : Nat → Squeezed α)
    (rest : List Nat) :
    ((if size = 1 then [] else [i]) ++ rest).foldlM index? (along size item) =
      rest.foldlM index? (item i) := by
  unfold along
  by_cases hsize : size = 1
  · have hfirst : i = 0 := by omega
    rw [if_pos hsize, if_pos hsize, List.nil_append, hfirst]
  · have hitem : index? (list ((List.range size).map item)) i = some (item i) := by
      show ((List.range size).map item)[i]? = some (item i)
      simp [h]
    rw [if_neg hsize, if_neg hsize, List.singleton_append, List.foldlM_cons, hitem]
    rfl

end Squeezed

/-- **The expression of a cell denotes the axes of the cell.** -/
theorem evaluate_cell {α : Type} (axes : Nat → Nat → α) {row col rows cols : Nat}
    (hrow : row < rows) (hcol : col < cols) :
    evaluate (subplots rows cols axes) (Axes.cell row col rows cols).expression =
      some (axes row col) := by
  have hitem : (cellIndices row col rows cols).foldlM Squeezed.index? (subplots rows cols axes) =
      some (.axes (axes row col)) := by
    rw [cellIndices, subplots, Squeezed.foldlM_along hrow,
      ← List.append_nil (if cols = 1 then _ else _), Squeezed.foldlM_along hcol]
    rfl
  have htext := toList_cellExpression row col rows cols
  unfold evaluate
  rw [Axes.expression, htext]
  show (subscripts? none ((cellIndices row col rows cols).flatMap subscript)).bind _ = _
  rw [subscripts?_flatMap]
  show ((cellIndices row col rows cols).foldlM Squeezed.index? (subplots rows cols axes)).bind _ = _
  rw [hitem]
  rfl

/-! ### Names of axes -/

/-- A character of a name. -/
def IsNameChar (c : Char) : Prop :=
  c.isAlphanum = true ∨ c = '_'

/-- A bracket is no character of a name. -/
theorem IsNameChar.ne_bracket {c : Char} (h : IsNameChar c) : c ≠ '[' ∧ c ≠ ']' := by
  constructor <;>
    · rintro rfl
      rcases h with h | h <;> cases h

/-- The words that a script cannot assign to. -/
def keywords : List String :=
  ["False", "None", "True", "and", "as", "assert", "async", "await", "break", "class", "continue",
    "def", "del", "elif", "else", "except", "finally", "for", "from", "global", "if", "import",
    "in", "is", "lambda", "nonlocal", "not", "or", "pass", "raise", "return", "try", "while",
    "with", "yield"]

/-- **A name that can be assigned to.** -/
structure IsIdentifier (text : String) : Prop where
  start : ∃ first rest, text.toList = first :: rest ∧ (first.isAlpha = true ∨ first = '_')
  chars : ∀ c ∈ text.toList, IsNameChar c
  notMem_keywords : text ∉ keywords

/-- The names that scripts bind to other things than twins. -/
def boundNames : List String :=
  ["plt", "fig", "axarr", "ax", "cs", "LogNorm", "size_x", "size_y"]

namespace Axes

/-- **The axes of a grid**: its cells, and twins over axes of the grid. -/
inductive OfGrid (rows cols : Nat) : Axes → Prop where
  | cell {row col : Nat} (hrow : row < rows) (hcol : col < cols) :
      OfGrid rows cols (.cell row col rows cols)
  | twin {parent : Axes} (hparent : OfGrid rows cols parent) (adds : Axis) :
      OfGrid rows cols (.twin parent adds)

/-- The methods that create twins differ. -/
theorem twinMethod_injective {adds adds' : Axis} (h : twinMethod adds = twinMethod adds') :
    adds = adds' := by
  cases adds <;> cases adds' <;> simp_all [twinMethod]

/-- The parts of the name of axes behind the name of the grid. -/
def nameParts : Axes → List (List Char)
  | cell row col rows cols => (cellIndices row col rows cols).map (Nat.toDigits 10)
  | twin parent adds => parent.nameParts ++ [(twinMethod adds).toList]
  | _ => []

/-- The name of the grid, and parts behind it. -/
def partsText (parts : List (List Char)) : List Char :=
  "axarr".toList ++ parts.flatMap ('_' :: ·)

theorem partsText_concat (parts : List (List Char)) (part : List Char) :
    partsText (parts ++ [part]) = partsText parts ++ '_' :: part := by
  simp [partsText]

/-- Parts of letters and digits. -/
def PlainParts (parts : List (List Char)) : Prop :=
  ∀ part ∈ parts, ∀ c ∈ part, c.isAlphanum = true

theorem PlainParts.isNameChar {parts : List (List Char)} (h : PlainParts parts) :
    ∀ c ∈ partsText parts, IsNameChar c := by
  intro c hc
  rcases List.mem_append.mp hc with hgrid | hparts
  · have hall : "axarr".toList.all Char.isAlphanum = true := by decide
    exact .inl (List.all_eq_true.mp hall c hgrid)
  · obtain ⟨part, hpart, hc⟩ := List.mem_flatMap.mp hparts
    rcases List.mem_cons.mp hc with rfl | hc
    · exact .inr rfl
    · exact .inl (h part hpart c hc)

/-- **Parts are read off the name** that they make up. -/
theorem PlainParts.eq_of_partsText {parts parts' : List (List Char)} (h : PlainParts parts)
    (h' : PlainParts parts') (heq : partsText parts = partsText parts') : parts = parts' := by
  have hjoin (parts : List (List Char)) (first : List Char) :
      ['_'].intercalate (first :: parts) = first ++ parts.flatMap ('_' :: ·) := by
    induction parts generalizing first with
    | nil => simp
    | cons part rest ih =>
        rw [List.intercalate_cons_cons, ih, List.flatMap_cons, List.append_assoc]
        rfl
  have hsplit {parts : List (List Char)} (h : PlainParts parts) :
      (partsText parts).splitOn '_' = "axarr".toList :: parts := by
    rw [partsText, ← hjoin]
    refine List.splitOn_intercalate '_' ?_ (List.cons_ne_nil _ _)
    rw [List.forall_mem_cons]
    refine ⟨by decide, fun part hpart hmem => ?_⟩
    have hplain := h part hpart '_' hmem
    cases hplain
  have hparts := hsplit h
  rw [heq, hsplit h'] at hparts
  exact (List.cons.inj hparts).2.symm

/-- What becomes of a character of an expression in a name. -/
def flattenChar (c : Char) : Option Char :=
  if c = '[' then some '_' else if c = ']' then none else some c

theorem toList_flatten (expression : String) :
    (flatten expression).toList = expression.toList.filterMap flattenChar :=
  String.toList_ofList

/-- Characters that are no brackets stay as they are. -/
theorem filterMap_flattenChar {text : List Char} (h : ∀ c ∈ text, c ≠ '[' ∧ c ≠ ']') :
    text.filterMap flattenChar = text := by
  induction text with
  | nil => rfl
  | cons c text ih =>
      rw [List.forall_mem_cons] at h
      have hc : flattenChar c = some c := by
        simp [flattenChar, h.1]
      rw [List.filterMap_cons, hc, ih h.2]

/-- A subscript is a part of a name. -/
theorem filterMap_subscript (index : Nat) :
    (subscript index).filterMap flattenChar = '_' :: Nat.toDigits 10 index := by
  have hdigits : (Nat.toDigits 10 index).filterMap flattenChar = Nat.toDigits 10 index :=
    filterMap_flattenChar fun c hc =>
      ⟨ne_of_mem_toDigits (by decide) hc, ne_of_mem_toDigits (by decide) hc⟩
  rw [subscript, List.filterMap_cons, List.filterMap_append, hdigits]
  show '_' :: (Nat.toDigits 10 index ++ []) = _
  rw [List.append_nil]

namespace OfGrid

variable {rows cols : Nat} {a b parent : Axes}

theorem plainParts (h : OfGrid rows cols a) : PlainParts a.nameParts := by
  induction h with
  | cell hrow hcol =>
      intro part hpart c hc
      obtain ⟨index, -, rfl⟩ := List.mem_map.mp hpart
      have hdigit := Nat.isDigit_of_mem_toDigits (by decide) (by decide) hc
      simp [Char.isAlphanum, hdigit]
  | twin hparent adds ih =>
      have hmethod : (twinMethod adds).toList.all Char.isAlphanum = true := by
        cases adds <;> decide
      intro part hpart
      rcases List.mem_append.mp hpart with hpart | hpart
      · exact ih part hpart
      · rw [List.mem_singleton.mp hpart]
        exact List.all_eq_true.mp hmethod

/-- A twin over axes with a name is bound to a name with one part more. -/
theorem toList_expression_twin (h : (flatten parent.expression).toList = partsText parent.nameParts)
    (adds : Axis) :
    (Axes.twin parent adds).expression.toList = partsText (Axes.twin parent adds).nameParts := by
  rw [expression, String.toList_append, String.toList_append, h, nameParts, partsText_concat,
    List.append_assoc]
  rfl

/-- **The name of axes** is made up of its parts. -/
theorem toList_flatten_expression (h : OfGrid rows cols a) :
    (flatten a.expression).toList = partsText a.nameParts := by
  induction h with
  | @cell row col hrow hcol =>
      have hgrid : "axarr".toList.filterMap flattenChar = "axarr".toList := by decide
      rw [toList_flatten, expression, toList_cellExpression, List.filterMap_append, hgrid,
        List.filterMap_flatMap, partsText, nameParts, List.flatMap_map]
      simp only [filterMap_subscript]
  | @twin parent hparent adds ih =>
      -- the expression of a twin is a name already, and there are no brackets in it
      rw [toList_flatten, toList_expression_twin ih]
      exact filterMap_flattenChar fun c hc =>
        ((hparent.twin adds).plainParts.isNameChar c hc).ne_bracket

/-- Cells are determined by their subscripts. -/
theorem eq_of_cellIndices {row col row' col' : Nat} (hrow : row < rows) (hcol : col < cols)
    (hrow' : row' < rows) (hcol' : col' < cols)
    (h : cellIndices row col rows cols = cellIndices row' col' rows cols) :
    row = row' ∧ col = col' := by
  unfold cellIndices at h
  by_cases hrows : rows = 1 <;> by_cases hcols : cols = 1 <;> simp [hrows, hcols] at h <;> omega

/-- The name of a cell does not end like that of a twin. -/
theorem nameParts_cell_ne_twin {row col : Nat} (parent : Axes) (adds : Axis) :
    (Axes.cell row col rows cols).nameParts ≠ (Axes.twin parent adds).nameParts := by
  intro h
  have hmem : (twinMethod adds).toList ∈ (Axes.cell row col rows cols).nameParts := by
    rw [h, nameParts]
    exact List.mem_append_right _ (List.mem_singleton_self _)
  obtain ⟨index, -, hdigits⟩ := List.mem_map.mp hmem
  have hletter : 't' ∈ (twinMethod adds).toList := by
    cases adds <;> decide
  rw [← hdigits] at hletter
  exact ne_of_mem_toDigits (by decide) hletter rfl

/-- Axes are determined by the parts of their names. -/
theorem eq_of_nameParts (ha : OfGrid rows cols a) (hb : OfGrid rows cols b)
    (h : a.nameParts = b.nameParts) : a = b := by
  induction ha generalizing b with
  | @cell row col hrow hcol =>
      cases hb with
      | @cell row' col' hrow' hcol' =>
          have hindices := (List.map_inj_right fun _ _ heq => toDigits_injective heq).mp h
          obtain ⟨rfl, rfl⟩ := eq_of_cellIndices hrow hcol hrow' hcol' hindices
          rfl
      | twin hparent adds => exact absurd h (nameParts_cell_ne_twin _ adds)
  | @twin parent hparent adds ih =>
      cases hb with
      | cell hrow hcol => exact absurd h.symm (nameParts_cell_ne_twin parent adds)
      | @twin parent' hparent' adds' =>
          obtain ⟨hparts, hmethod⟩ := List.append_inj' h rfl
          have hadds := twinMethod_injective (String.toList_inj.mp (List.singleton_inj.mp hmethod))
          rw [ih hparent' hparts, hadds]

/-- **Axes are determined by their names**, and so by their expressions. -/
theorem eq_of_flatten (ha : OfGrid rows cols a) (hb : OfGrid rows cols b)
    (h : flatten a.expression = flatten b.expression) : a = b := by
  refine ha.eq_of_nameParts hb (ha.plainParts.eq_of_partsText hb.plainParts ?_)
  rw [← ha.toList_flatten_expression, ← hb.toList_flatten_expression, h]

/-- The name of a twin goes on behind the name of the grid. -/
theorem prefix_expression_twin (h : OfGrid rows cols parent) (adds : Axis) :
    "axarr_".toList <+: (Axes.twin parent adds).expression.toList := by
  rw [toList_expression_twin h.toList_flatten_expression]
  have hparts : ∃ part rest, (Axes.twin parent adds).nameParts = part :: rest :=
    List.exists_cons_of_ne_nil (List.concat_ne_nil _ _)
  obtain ⟨part, rest, hparts⟩ := hparts
  rw [hparts]
  exact ⟨part ++ rest.flatMap ('_' :: ·), rfl⟩

/-- **A twin can be bound to its name**, and nothing else is. -/
theorem isIdentifier_twin (h : OfGrid rows cols parent) (adds : Axis) :
    IsIdentifier (Axes.twin parent adds).expression ∧
      (Axes.twin parent adds).expression ∉ boundNames := by
  have hprefix := h.prefix_expression_twin adds
  -- no keyword and no other name goes on behind the name of the grid in this way
  have hothers : ∀ name ∈ keywords ++ boundNames, ¬"axarr_".toList <+: name.toList := by
    decide
  rw [List.forall_mem_append] at hothers
  refine ⟨⟨?_, ?_, fun hmem => hothers.1 _ hmem hprefix⟩, fun hmem => hothers.2 _ hmem hprefix⟩
  · obtain ⟨rest, hrest⟩ := hprefix
    exact ⟨'a', 'x' :: 'a' :: 'r' :: 'r' :: '_' :: rest, hrest.symm, .inl rfl⟩
  · rw [toList_expression_twin h.toList_flatten_expression]
    exact (h.twin adds).plainParts.isNameChar

end OfGrid

/-- **Expressions of axes denote the right axes and never alias.**  In a grid of any size the
expression of a cell denotes the axes of the cell, two axes of the grid with the same expression
are the same, and the expression of a twin is an identifier to which scripts bind nothing
else. -/
theorem expression_denotes (rows cols : Nat) :
    (∀ (α : Type) (axes : Nat → Nat → α), ∀ row < rows, ∀ col < cols,
        evaluate (subplots rows cols axes) (cell row col rows cols).expression =
          some (axes row col)) ∧
      (∀ a b, OfGrid rows cols a → OfGrid rows cols b → a.expression = b.expression → a = b) ∧
      ∀ parent, OfGrid rows cols parent → ∀ adds,
        IsIdentifier (twin parent adds).expression ∧
          (twin parent adds).expression ∉ boundNames := by
  refine ⟨?_, ?_, ?_⟩
  · intro α axes row hrow col hcol
    exact evaluate_cell axes hrow hcol
  · intro a b ha hb heq
    exact ha.eq_of_flatten hb (congrArg flatten heq)
  · intro parent hparent adds
    exact hparent.isIdentifier_twin adds

/-- Cells whose names differ only in where the digits are parted. -/
theorem expression_denotes_partedDigits :
    evaluate (subplots 12 12 fun row col => (row, col)) (cell 1 11 12 12).expression =
        some (1, 11) ∧
      ((cell 1 11 12 12).twin .x).expression ≠ ((cell 11 1 12 12).twin .x).expression ∧
      IsIdentifier (((cell 1 11 12 12).twin .x).twin .y).expression := by
  have hfirst : OfGrid 12 12 (cell 1 11 12 12) := .cell (by decide) (by decide)
  have hsecond : OfGrid 12 12 (cell 11 1 12 12) := .cell (by decide) (by decide)
  obtain ⟨hdenotes, halias, htwins⟩ := expression_denotes 12 12
  refine ⟨hdenotes _ _ 1 (by decide) 11 (by decide), fun heq => ?_,
    (htwins _ (hfirst.twin .x) .y).1⟩
  have hsame := halias _ _ (hfirst.twin .x) (hsecond.twin .x) heq
  simp at hsame

end Axes

end FigureScript
