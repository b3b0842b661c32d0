import FigureScript.Proofs.Style.Words

/-!
# Tokens in turn

A list of style tokens is served round and round.  The calls for its tokens that ask for an
index, and the calls for tokens of other lists, might as well not have been made: they change
no answer to another call.

## Main Definitions

* `keptAt`, `OnlyRemoves` — a list without the items at some places
* `answersTo` — the answers to all calls that are equal to one
* `StyleCycle.ServesInTurn` — what a run of calls gets from style lists

## Main Results

* `StyleCycle.answersTo_transcript` — the answers to the calls that are served in turn
* `StyleCycle.exists_behind_of_mem` — every answer is one behind some calls
* `StyleCycle.filter_transcript_keptAt` — the answers after calls have been removed
* `StyleCycle.resolve_servesInTurn` — the lists of a figure, and any run of calls for them

## Design Notes

A removal is told by the places that are kept, so that two equal calls can have different fates.
The runs are read from their end: the last call is answered with the counters behind the others.
-/

namespace FigureScript

/-! ### Removing items -/

section Removing

variable {α : Type} {keep : Nat → Bool} {items : List α}

/-- **What is left of a list** when only the items at some places are kept. -/
def keptAt (keep : Nat → Bool) (items : List α) : List α :=
  (items.zipIdx.filter fun entry => keep entry.2).map (·.1)

/-- **Only items with a property are removed.** -/
def OnlyRemoves (keep : Nat → Bool) (items : List α) (P : α → Prop) : Prop :=
  ∀ i item, items[i]? = some item → keep i = false → P item

theorem keptAt_concat (keep : Nat → Bool) (items : List α) (item : α) :
    keptAt keep (items ++ [item]) =
      keptAt keep items ++ if keep items.length then [item] else [] := by
  rw [keptAt, keptAt, List.zipIdx_append, List.filter_append, List.map_append]
  cases hkeep : keep items.length <;> simp [hkeep]

theorem onlyRemoves_concat {P : α → Prop} {item : α} (h : OnlyRemoves keep (items ++ [item]) P) :
    OnlyRemoves keep items P ∧ (keep items.length = false → P item) := by
  refine ⟨fun i other hother hkeep => h i other ?_ hkeep, fun hkeep => ?_⟩
  · have hlt : i < items.length := (List.getElem?_eq_some_iff.mp hother).1
    rwa [List.getElem?_append_left hlt]
  · exact h items.length item List.getElem?_concat_length hkeep

/-- Items that are not removed are all there. -/
theorem filter_keptAt {p : α → Bool} (h : OnlyRemoves keep items fun item => p item = false) :
    (keptAt keep items).filter p = items.filter p := by
  induction items using List.reverseRecOn with
  | nil => rfl
  | append_singleton items item ih =>
      obtain ⟨hitems, hitem⟩ := onlyRemoves_concat h
      rw [keptAt_concat, List.filter_append, List.filter_append, ih hitems]
      cases hkeep : keep items.length with
      | true => rfl
      | false => simp [hitem hkeep]

theorem count_keptAt [DecidableEq α] {item : α}
    (h : OnlyRemoves keep items fun other => other ≠ item) :
    (keptAt keep items).count item = items.count item := by
  have hfilter : (keptAt keep items).filter (· == item) = items.filter (· == item) :=
    filter_keptAt fun i other hother hkeep => beq_false_of_ne (h i other hother hkeep)
  rw [List.count_eq_length_filter, List.count_eq_length_filter, hfilter]

end Removing

/-! ### Answers -/

open Cycler

/-- **The answers to all calls of a run that are equal to one**, in their order. -/
def answersTo (call : Call) (run : List (Call × Option String)) : List (Option String) :=
  (run.filter fun entry => entry.1 = call).map (·.2)

namespace StyleCycle

variable {style : StyleCycle} {calls : List Call}

/-- **The answers to the calls that are served in turn**: to the first one, to the second one
and so on. -/
theorem answersTo_transcript {call : Call} {token : Nat → Option String}
    (h : ∀ earlier, ((behind style earlier).serve style call).1 = token (earlier.count call))
    (calls : List Call) :
    answersTo call (style.transcript calls) = (List.range (calls.count call)).map token := by
  induction calls using List.reverseRecOn with
  | nil => rfl
  | append_singleton calls last ih =>
      rw [answersTo] at ih ⊢
      rw [transcript_concat, List.filter_append, List.map_append, ih, List.count_append]
      by_cases hlast : last = call
      · rw [hlast, List.count_singleton_self, List.range_succ]
        simp [h]
      · simp [hlast]

/-- **Every answer is one behind some calls.** -/
theorem exists_behind_of_mem {entry : Call × Option String} (h : entry ∈ style.transcript calls) :
    ∃ earlier, entry.2 = ((behind style earlier).serve style entry.1).1 := by
  induction calls using List.reverseRecOn with
  | nil => cases h
  | append_singleton calls last ih =>
      rw [transcript_concat, List.mem_append, List.mem_singleton] at h
      rcases h with hmem | rfl
      · exact ih hmem
      · exact ⟨calls, rfl⟩

/-- **The answers after calls have been removed**, to those calls that none of the removed ones
is like. -/
theorem filter_transcript_keptAt (style : StyleCycle) {keep : Nat → Bool} {p : Call → Bool}
    (h : OnlyRemoves keep calls fun call => p call = true → call.index? ≠ none) :
    (style.transcript (keptAt keep calls)).filter (fun entry => p entry.1) =
      (keptAt keep (style.transcript calls)).filter (fun entry => p entry.1) := by
  induction calls using List.reverseRecOn with
  | nil => rfl
  | append_singleton calls last ih =>
      obtain ⟨hcalls, -⟩ := onlyRemoves_concat h
      rw [transcript_concat, keptAt_concat, keptAt_concat, length_transcript, List.filter_append,
        ← ih hcalls]
      cases hkeep : keep calls.length with
      | false => simp
      | true =>
          rw [if_pos rfl, if_pos rfl, transcript_concat, List.filter_append]
          congr 1
          cases hlast : p last with
          | false => simp [hlast]
          | true =>
              -- the last call finds its counter where it was, as no call like it is removed
              have hanswer : ((behind style (keptAt keep calls)).serve style last).1 =
                  ((behind style calls).serve style last).1 := by
                refine answer_congr style fun hindex => count_keptAt ?_
                rintro i other hother hremoved rfl
                exact hcalls i other hother hremoved hlast hindex
              rw [hanswer]

/-- Removing calls that carry an index changes the answer to no other call. -/
theorem transcript_keptAt {keep : Nat → Bool}
    (h : OnlyRemoves keep calls fun call => call.index? ≠ none) :
    style.transcript (keptAt keep calls) = keptAt keep (style.transcript calls) := by
  have hfilter := filter_transcript_keptAt style (p := fun _ => true)
    fun i call hcall hremoved _ => h i call hcall hremoved
  rwa [List.filter_true, List.filter_true] at hfilter

/-- What is removed from a run is removed from its transcript. -/
theorem onlyRemoves_transcript {keep : Nat → Bool} {P : Call → Prop}
    (h : OnlyRemoves keep calls P) :
    OnlyRemoves keep (style.transcript calls) fun entry => P entry.1 := by
  intro i entry hentry hremoved
  refine h i entry.1 ?_ hremoved
  rw [← map_fst_transcript style calls, List.getElem?_map, hentry, Option.map_some]

/-- Removing calls of one kind changes the answer to no call of another kind. -/
theorem filter_kind_transcript_keptAt {keep : Nat → Bool} {kind : Kind}
    (h : OnlyRemoves keep calls fun call => call.kind = kind) :
    (style.transcript (keptAt keep calls)).filter (fun entry => entry.1.kind ≠ kind) =
      (style.transcript calls).filter fun entry => entry.1.kind ≠ kind := by
  have hkept := filter_transcript_keptAt style (p := fun call => call.kind ≠ kind)
    fun i call hcall hremoved hother => absurd (h i call hcall hremoved) (of_decide_eq_true hother)
  have hremoves : OnlyRemoves keep (style.transcript calls) fun entry => entry.1.kind = kind :=
    onlyRemoves_transcript h
  have hothers := filter_keptAt (p := fun entry => entry.1.kind ≠ kind)
    fun i entry hentry hremoved =>
      decide_eq_false (not_not_intro (hremoves i entry hentry hremoved))
  exact hkept.trans hothers

end StyleCycle

/-! ### Runs of calls -/

/-- **What a run of calls gets from style lists.**  Places are counted from zero. -/
structure StyleCycle.ServesInTurn (style : StyleCycle) (hstyle : style.Complete)
    (calls : List Call) : Prop where
  /-- Every call is answered. -/
  answered : (style.transcript calls).map (·.1) = calls
  /-- Markers are served in turn. -/
  markers : answersTo .marker (style.transcript calls) =
    (List.range (calls.count .marker)).map fun k => some (style.markers.cyclic hstyle.markers k)
  /-- Colours are served in turn where somebody supplied them. -/
  colors : answersTo (.color none) (style.transcript calls) =
    (List.range (calls.count (.color none))).map fun k =>
      if style.colors.supplied then some (style.colors.cyclic hstyle.colors k) else none
  /-- Line styles are served in turn where somebody supplied them. -/
  lines : answersTo (.line none) (style.transcript calls) =
    (List.range (calls.count (.line none))).map fun k =>
      if style.lines.supplied then some (style.lines.cyclic hstyle.lines k) else none
  /-- A colour that is asked for by its index. -/
  colorAt : ∀ index answer, (.color (some index), answer) ∈ style.transcript calls →
    answer = some (style.colors.cyclic hstyle.colors (index.toInt - 1).toNat)
  /-- A line style that is asked for by its index. -/
  lineAt : ∀ index answer, (.line (some index), answer) ∈ style.transcript calls →
    answer = some (style.lines.cyclic hstyle.lines (index.toInt - 1).toNat)
  /-- All arithmetic stays in the range of machine words. -/
  inWords : calls.length < 2 ^ 63 → ∃ run, WordCycler.transcript style {} calls = .ok run ∧
    (style.Addressable → run = style.transcript calls)
  /-- Calls that carry an index change no other answer. -/
  withoutIndexed : ∀ keep, OnlyRemoves keep calls (fun call => call.index? ≠ none) →
    style.transcript (keptAt keep calls) = keptAt keep (style.transcript calls)
  /-- Calls of one kind change no answer to calls of the others. -/
  withoutKind : ∀ keep kind, OnlyRemoves keep calls (fun call => call.kind = kind) →
    (style.transcript (keptAt keep calls)).filter (fun entry => entry.1.kind ≠ kind) =
      (style.transcript calls).filter fun entry => entry.1.kind ≠ kind

namespace StyleCycle

section Answers

variable {style : StyleCycle} (hstyle : style.Complete)
include hstyle

theorem answer_marker (earlier : List Call) :
    ((behind style earlier).serve style .marker).1 =
      some (style.markers.cyclic hstyle.markers (earlier.count .marker)) :=
  Tokens.get?_natCast hstyle.markers _

theorem answer_color (earlier : List Call) {index : Option Int64}
    (hindex : (Call.color index).FromOne) :
    ((behind style earlier).serve style (.color index)).1 =
      style.colors.served hstyle.colors (index.map Int64.toInt) (earlier.count (.color none)) :=
  Tokens.serve_eq hstyle.colors hindex.one_le_toInt fun hsupplied => if_pos hsupplied

theorem answer_line (earlier : List Call) {index : Option Int64}
    (hindex : (Call.line index).FromOne) :
    ((behind style earlier).serve style (.line index)).1 =
      style.lines.served hstyle.lines (index.map Int64.toInt) (earlier.count (.line none)) :=
  Tokens.serve_eq hstyle.lines hindex.one_le_toInt fun hsupplied => if_pos hsupplied

end Answers

/-- **Style lists serve their tokens in turn.**  Whatever the caller and the figure give, no list
of a figure is empty, and its colours and line styles count as supplied when one of the two gives
some.  And whatever lists that are not empty a plot draws with, any run of calls with indices from
one on gets its tokens from them in turn or by index, in the arithmetic of machine words if there
are fewer than `2 ^ 63` calls; and calls that carry an index, or that are for another list, may be
left out. -/
theorem resolve_servesInTurn :
    (∀ (hint : Option StyleHint) (overrides : StyleHint),
      let style := resolve hint overrides
      style.Complete ∧
        (style.colors.supplied = true ↔
          Tokens.GivenBy overrides.colors (hint.bind (·.colors))) ∧
        (style.lines.supplied = true ↔ Tokens.GivenBy overrides.lines (hint.bind (·.lines)))) ∧
    ∀ (style : StyleCycle) (hstyle : style.Complete) (calls : List Call),
      (∀ call ∈ calls, call.FromOne) → style.ServesInTurn hstyle calls := by
  refine ⟨fun hint overrides => ⟨resolve_complete hint overrides, ?_, ?_⟩,
    fun style hstyle calls hcalls => ?_⟩
  · cases hint <;> exact Tokens.supplied_choose _ _ _
  · cases hint <;> exact Tokens.supplied_choose _ _ _
  have hfromOne {entry : Call × Option String} (hentry : entry ∈ style.transcript calls) :
      entry.1.FromOne := by
    refine hcalls entry.1 ?_
    rw [← map_fst_transcript style calls]
    exact List.mem_map_of_mem hentry
  exact
    { answered := map_fst_transcript style calls
      markers := answersTo_transcript (answer_marker hstyle) calls
      colors := answersTo_transcript (fun earlier => answer_color hstyle earlier nofun) calls
      lines := answersTo_transcript (fun earlier => answer_line hstyle earlier nofun) calls
      colorAt := fun index answer hentry => by
        obtain ⟨earlier, hanswer⟩ := exists_behind_of_mem hentry
        exact hanswer.trans (answer_color hstyle earlier (hfromOne hentry))
      lineAt := fun index answer hentry => by
        obtain ⟨earlier, hanswer⟩ := exists_behind_of_mem hentry
        exact hanswer.trans (answer_line hstyle earlier (hfromOne hentry))
      inWords := fun hlength =>
        WordCycler.exists_transcript style ⟨rfl, rfl, rfl⟩
          ⟨Nat.le_refl 0, Nat.le_refl 0, Nat.le_refl 0⟩ (by rwa [Nat.zero_add]) hcalls
      withoutIndexed := fun keep => transcript_keptAt
      withoutKind := fun keep kind => filter_kind_transcript_keptAt }

/-- Lists of which the caller gives the colours, the figure the markers and nobody the line
styles, as an empty list counts as absent. -/
def mixedStyle : StyleCycle :=
  resolve (some { colors := some ["red"], markers := some ["x", "+"] })
    { colors := some ["a", "b", "c"], lines := some [] }

/-- Calls of all kinds, with and without an index. -/
def mixedCalls : List Call :=
  [.color none, .marker, .color (some 3), .line none, .color none, .marker, .color (some 5),
    .line (some 2), .marker, .color none, .color none]

/-- The colours and the markers start over.  Without the two colours by index all answers stay,
and without two of the others those to the calls for markers and line styles. -/
theorem resolve_servesInTurn_mixedCalls :
    (∀ call ∈ mixedCalls, call.FromOne) ∧
      (∃ hstyle : mixedStyle.Complete, mixedStyle.ServesInTurn hstyle mixedCalls) ∧
      (mixedStyle.transcript mixedCalls).map (·.2) =
        [some "a", some "x", some "c", none, some "b", some "+", some "b", some "--", some "x",
          some "c", some "a"] ∧
      WordCycler.transcript mixedStyle {} mixedCalls = .ok (mixedStyle.transcript mixedCalls) ∧
      mixedStyle.transcript (keptAt (fun i => i ≠ 2 && i ≠ 6) mixedCalls) =
        keptAt (fun i => i ≠ 2 && i ≠ 6) (mixedStyle.transcript mixedCalls) ∧
      (mixedStyle.transcript (keptAt (fun i => i ≠ 0 && i ≠ 4) mixedCalls)).filter
          (fun entry => entry.1.kind ≠ .color) =
        (mixedStyle.transcript mixedCalls).filter fun entry => entry.1.kind ≠ .color := by
  have hcalls : ∀ call ∈ mixedCalls, call.FromOne := by
    simp [mixedCalls, Call.FromOne, Call.index?]
  have hstyle : mixedStyle.Complete := (resolve_servesInTurn.1 _ _).1
  have hserves := resolve_servesInTurn.2 mixedStyle hstyle mixedCalls hcalls
  have hplaces {i j k : Nat} (hremoved : (k ≠ i && k ≠ j) = false) : k = i ∨ k = j := by
    simpa [or_iff_not_imp_left] using hremoved
  refine ⟨hcalls, ⟨hstyle, hserves⟩, by decide, ?_, ?_, ?_⟩
  · obtain ⟨run, hrun, hexact⟩ := hserves.inWords (by decide)
    rw [hrun, hexact ⟨by decide, by decide, by decide⟩]
  · refine hserves.withoutIndexed _ fun i call hcall hremoved => ?_
    rcases hplaces hremoved with rfl | rfl <;> cases hcall <;> decide
  · refine hserves.withoutKind _ _ fun i call hcall hremoved => ?_
    rcases hplaces hremoved with rfl | rfl <;> cases hcall <;> rfl

end StyleCycle

end FigureScript
