import FigureScript.Style.Cycle

/-!
# Tokens of style lists

An empty list counts as absent, and the defaults have tokens, so that whoever asks for a
token is given one.  Which one that is follows from the number of tokens that were taken in
turn before.

## Main Definitions

* `StyleCycle.Complete` — no list is empty
* `Tokens.cyclic`, `Tokens.served` — the token at a place, and the one that is served
* `Tokens.GivenBy` — somebody supplied a list

## Main Results

* `Tokens.isSome_get?` — a list with tokens has one at every index
* `Tokens.supplied_choose` — a list is supplied when the caller or the figure gives one
* `Tokens.serve_eq`, `Tokens.serve_counter` — what is served, and the counter behind it
* `StyleCycle.resolve_complete` — the lists that a figure is drawn with
-/

namespace FigureScript

namespace Tokens

variable {t : Tokens}

/-- A list with tokens has one at every index. -/
theorem isSome_get? (h : t.tokens ≠ []) (index : Int) : (t.get? index).isSome = true := by
  have hpos : (0 : Int) < t.tokens.length := Int.natCast_pos.mpr (List.length_pos_iff.mpr h)
  have hlt : (index % t.tokens.length).toNat < t.tokens.length := by
    have hnonneg := Int.emod_nonneg index (Int.ne_of_gt hpos)
    have hbound := Int.emod_lt_of_pos index hpos
    omega
  rw [get?, List.getElem?_eq_getElem hlt]
  rfl

/-! ### Lists that are chosen -/

/-- What is chosen is not empty when the default is not. -/
theorem choose_ne_nil (first second : Option (List String)) {default : List String}
    (h : default ≠ []) : (choose first second default).tokens ≠ [] := by
  have hgiven {list : Option (List String)} {tokens : List String}
      (hlist : list.filter (!·.isEmpty) = some tokens) : tokens ≠ [] := by
    have htokens := (Option.filter_eq_some_iff.mp hlist).2
    simpa using htokens
  rw [choose]
  split
  next tokens hchosen =>
    rcases Option.or_eq_some_iff.mp hchosen with hfirst | ⟨-, hsecond⟩
    · exact hgiven hfirst
    · exact hgiven hsecond
  next => exact h

/-- **Somebody supplied a list**: the caller gives one that has tokens, or the figure does. -/
def GivenBy (caller figure : Option (List String)) : Prop :=
  ∃ tokens, tokens ≠ [] ∧ (caller = some tokens ∨ figure = some tokens)

/-- An empty list counts as absent. -/
theorem isSome_filter_iff (list : Option (List String)) :
    (list.filter (!·.isEmpty)).isSome = true ↔ ∃ tokens, tokens ≠ [] ∧ list = some tokens := by
  cases list <;> simp [and_comm]

/-- What is chosen counts as supplied when the caller or the figure gives it. -/
theorem supplied_choose (first second : Option (List String)) (default : List String) :
    (choose first second default).supplied = true ↔ GivenBy first second := by
  have hsupplied : (choose first second default).supplied =
      ((first.filter (!·.isEmpty)).or (second.filter (!·.isEmpty))).isSome := by
    rw [choose]
    cases (first.filter (!·.isEmpty)).or (second.filter (!·.isEmpty)) <;> rfl
  rw [hsupplied, Option.isSome_or, Bool.or_eq_true, isSome_filter_iff, isSome_filter_iff,
    GivenBy, ← exists_or]
  simp only [and_or_left]

/-! ### Tokens by place -/

/-- **The token at a place**, counted from zero, of a list that starts over behind its last
one. -/
def cyclic (t : Tokens) (h : t.tokens ≠ []) (k : Nat) : String :=
  t.tokens.get ⟨k % t.tokens.length, Nat.mod_lt k (List.length_pos_iff.mpr h)⟩

theorem get?_natCast (h : t.tokens ≠ []) (k : Nat) : t.get? k = some (t.cyclic h k) := by
  rw [get?, ← Int.natCast_emod, Int.toNat_natCast, List.getElem?_eq_getElem]
  rfl

/-- An index counted from one is a place counted from zero. -/
theorem get?_index (h : t.tokens ≠ []) {index : Int} (hindex : 1 ≤ index) :
    t.get? (index - 1) = some (t.cyclic h (index - 1).toNat) := by
  have hplace : index - 1 = ((index - 1).toNat : Int) :=
    (Int.toNat_of_nonneg (by omega)).symm
  rw [← get?_natCast h, ← hplace]

/-! ### Tokens that are served -/

/-- **The token of a series** that may ask for one by an index counted from one.  Without an
index it takes one from a list that somebody supplied, behind `earlier` series that did. -/
def served (t : Tokens) (h : t.tokens ≠ []) (index : Option Int) (earlier : Nat) :
    Option String :=
  match index with
  | some index => some (t.cyclic h (index - 1).toNat)
  | none => if t.supplied then some (t.cyclic h earlier) else none

/-- What is served depends on the counter only where a token is taken in turn. -/
theorem serve_eq (h : t.tokens ≠ []) {index : Option Int} (hindex : ∀ c ∈ index, 1 ≤ c)
    {counter earlier : Nat} (hcounter : t.supplied = true → counter = earlier) :
    (t.serve index counter).1 = t.served h index earlier := by
  cases index with
  | some index => exact get?_index h (hindex index rfl)
  | none =>
      rw [serve, served]
      cases hsupplied : t.supplied with
      | false => rfl
      | true =>
          rw [hcounter hsupplied]
          exact get?_natCast h earlier

/-- A list that nobody supplied keeps its counter, and any other counts what was asked for
without an index. -/
theorem serve_counter (t : Tokens) (index : Option Int) (earlier : Nat) :
    (t.serve index (if t.supplied then earlier else 0)).2 =
      if t.supplied then earlier + (if index.isNone then 1 else 0) else 0 := by
  cases index <;> cases hsupplied : t.supplied <;> simp [serve, hsupplied]

end Tokens

namespace StyleCycle

/-- **No list is empty.** -/
structure Complete (style : StyleCycle) : Prop where
  markers : style.markers.tokens ≠ []
  colors : style.colors.tokens ≠ []
  lines : style.lines.tokens ≠ []

/-- **The lists that a figure is drawn with** are not empty. -/
theorem resolve_complete (hint : Option StyleHint) (overrides : StyleHint) :
    (resolve hint overrides).Complete where
  markers := Tokens.choose_ne_nil _ _ (List.cons_ne_nil _ _)
  colors := Tokens.choose_ne_nil _ _ (List.cons_ne_nil _ _)
  lines := Tokens.choose_ne_nil _ _ (List.cons_ne_nil _ _)

end StyleCycle

end FigureScript
