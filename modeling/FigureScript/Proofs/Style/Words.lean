import FigureScript.Proofs.Outcome
import FigureScript.Proofs.Style.Calls
import Mathlib.Algebra.Group.Int.Defs
import Mathlib.Algebra.Group.Nat.Defs

/-!
# Counters in machine words

The lists are served with counters of any size.  Here they are served a second time, with
counters, indices and lengths that are signed words of 64 bits, where a sum, a difference or a
remainder that no word holds stops the run.  Behind fewer than `2 ^ 63` calls nothing stops it,
and it gives the same tokens.

## Main Definitions

* `MachineWord.ofExact` — a result of arithmetic as a word
* `Tokens.serveWord`, `WordCycler.serve` — one call, in words
* `WordCycler.transcript` — a run of calls, in words
* `WordCycler.Holds` — counters that are words hold exact ones

## Main Results

* `Tokens.exists_serveWord`, `WordCycler.exists_serve` — one call stays in the range of words
* `WordCycler.exists_transcript` — so does a run, which is the exact one

## Design Notes

The length of a list is not arithmetic: a list that is longer than any word has no tokens to
give.  No list in the memory of a machine is, so tokens are compared for `Addressable` lists.
-/

namespace FigureScript

open Outcome

/-! ### Checked arithmetic -/

namespace MachineWord

/-- **A result of arithmetic that no word holds.** -/
structure Overflow where
  result : Int
  deriving DecidableEq

/-- **The word that an exact result of arithmetic is.** -/
def ofExact (n : Int) : Except Overflow Int64 :=
  if h : Int64.minValue.toInt ≤ n ∧ n ≤ Int64.maxValue.toInt then .ok (.ofIntLE n h.1 h.2)
  else .error ⟨n⟩

/-- The sum of two words. -/
def add (a b : Int64) : Except Overflow Int64 :=
  ofExact (a.toInt + b.toInt)

/-- The difference of two words. -/
def sub (a b : Int64) : Except Overflow Int64 :=
  ofExact (a.toInt - b.toInt)

/-- The remainder of two words that is not negative. -/
def remainder (a b : Int64) : Except Overflow Int64 :=
  ofExact (a.toInt % b.toInt)

theorem exists_ofExact {n : Int} (hlow : -2 ^ 63 ≤ n) (hhigh : n < 2 ^ 63) :
    ∃ w, ofExact n = .ok w ∧ w.toInt = n := by
  have hrange : Int64.minValue.toInt ≤ n ∧ n ≤ Int64.maxValue.toInt := by
    rw [Int64.toInt_minValue, Int64.toInt_maxValue]
    exact ⟨hlow, by omega⟩
  exact ⟨_, dif_pos hrange, Int64.toInt_ofIntLE⟩

theorem toInt_of_ofExact {n : Int} {w : Int64} (h : ofExact n = .ok w) : w.toInt = n := by
  rw [ofExact] at h
  split at h
  next hrange =>
    rw [← Except.ok.inj h, Int64.toInt_ofIntLE]
  next => cases h

end MachineWord

/-! ### Lists in words -/

namespace Tokens

variable (t : Tokens)

/-- A machine word holds the length of the list. -/
def Addressable : Prop :=
  t.tokens.length < 2 ^ 63

instance : Decidable t.Addressable :=
  inferInstanceAs (Decidable (t.tokens.length < 2 ^ 63))

/-- The length as a word, if there are tokens and a word holds it. -/
def length? : Option Int64 :=
  (MachineWord.ofExact t.tokens.length).toOption.filter (0 < ·.toInt)

/-- The token at an index counted from zero, wrapping around in both directions. -/
def getWord (index : Int64) : Except MachineWord.Overflow (Option String) :=
  match t.length? with
  | none => .ok none
  | some length => do
    let place ← MachineWord.remainder index length
    return t.tokens[place.toInt.toNat]?

/-- The next token, and the counter after it. -/
def takeWord (counter : Int64) : Except MachineWord.Overflow (Option String × Int64) := do
  let token ← t.getWord counter
  let counter ← MachineWord.add counter 1
  return (token, counter)

/-- The token of a call that may ask for one by an index counted from one, and the counter
after it. -/
def serveWord (index : Option Int64) (counter : Int64) :
    Except MachineWord.Overflow (Option String × Int64) :=
  match index with
  | some index => do
    let place ← MachineWord.sub index 1
    let token ← t.getWord place
    return (token, counter)
  | none => if t.supplied then t.takeWord counter else .ok (none, counter)

theorem length?_eq_some {length : Int64} (h : t.length? = some length) :
    length.toInt = t.tokens.length ∧ 0 < length.toInt := by
  obtain ⟨hlength, hpos⟩ := Option.filter_eq_some_iff.mp h
  refine ⟨?_, of_decide_eq_true hpos⟩
  cases hword : MachineWord.ofExact t.tokens.length with
  | error overflow => rw [hword] at hlength; cases hlength
  | ok word =>
      rw [hword] at hlength
      cases hlength
      exact MachineWord.toInt_of_ofExact hword

/-- A list whose length is no word, or that is empty, has no token. -/
theorem get?_of_length? (h : t.length? = none) (haddressable : t.Addressable) (index : Int) :
    t.get? index = none := by
  have hlength : ((t.tokens.length : Nat) : Int) < 2 ^ 63 := by
    rw [Addressable] at haddressable
    omega
  obtain ⟨word, hword, hexact⟩ := MachineWord.exists_ofExact (by omega) hlength
  have hempty : t.tokens = [] := by
    rw [length?, hword] at h
    have hpos := Option.filter_eq_none_iff.mp h word rfl
    rw [hexact] at hpos
    simpa using hpos
  rw [get?, hempty]
  rfl

/-- **A look into a list** stays in the range of words. -/
theorem exists_getWord (index : Int64) :
    ∃ token, t.getWord index = .ok token ∧ (t.Addressable → token = t.get? index.toInt) := by
  rw [getWord]
  cases hlength : t.length? with
  | none => exact ⟨none, rfl, fun haddressable => (t.get?_of_length? hlength haddressable _).symm⟩
  | some length =>
      obtain ⟨hexact, hpos⟩ := t.length?_eq_some hlength
      have hnonneg := Int.emod_nonneg index.toInt (Int.ne_of_gt hpos)
      have hless := Int.emod_lt_of_pos index.toInt hpos
      have hword := length.toInt_lt
      obtain ⟨place, hplace, hremainder⟩ :=
        MachineWord.exists_ofExact (n := index.toInt % length.toInt) (by omega) (by omega)
      refine ⟨t.get? index.toInt, bind_eq_ok.mpr ⟨place, hplace, ?_⟩, fun _ => rfl⟩
      rw [hremainder, hexact]
      rfl

theorem exists_takeWord {counter : Int64} {n : Nat} (hcounter : counter.toInt = n)
    (hn : n + 1 < 2 ^ 63) :
    ∃ token next, t.takeWord counter = .ok (token, next) ∧ next.toInt = (n + 1 : Nat) ∧
      (t.Addressable → token = t.get? n) := by
  obtain ⟨token, htoken, hget⟩ := t.exists_getWord counter
  have hsum : counter.toInt + (1 : Int64).toInt = (n + 1 : Nat) := by
    rw [hcounter]
    rfl
  obtain ⟨next, hnext, hexact⟩ :=
    MachineWord.exists_ofExact (n := counter.toInt + (1 : Int64).toInt) (by omega) (by omega)
  refine ⟨token, next, ?_, hexact.trans hsum, ?_⟩
  · exact bind_eq_ok.mpr ⟨token, htoken, bind_eq_ok.mpr ⟨next, hnext, rfl⟩⟩
  · rwa [hcounter] at hget

/-- **What a list serves** stays in the range of words. -/
theorem exists_serveWord {index : Option Int64} (hindex : ∀ c ∈ index, 1 ≤ c.toInt)
    {counter : Int64} {n : Nat} (hcounter : counter.toInt = n) (hn : n + 1 < 2 ^ 63) :
    ∃ token next, t.serveWord index counter = .ok (token, next) ∧
      next.toInt = (t.serve (index.map Int64.toInt) n).2 ∧
      (t.Addressable → token = (t.serve (index.map Int64.toInt) n).1) := by
  cases index with
  | some index =>
      have hone := hindex index rfl
      have hword := index.toInt_lt
      have hunit : (1 : Int64).toInt = 1 := rfl
      obtain ⟨place, hplace, hexact⟩ :=
        MachineWord.exists_ofExact (n := index.toInt - (1 : Int64).toInt) (by omega) (by omega)
      obtain ⟨token, htoken, hget⟩ := t.exists_getWord place
      refine ⟨token, counter, ?_, hcounter, ?_⟩
      · exact bind_eq_ok.mpr ⟨place, hplace, bind_eq_ok.mpr ⟨token, htoken, rfl⟩⟩
      · rwa [hexact, hunit] at hget
  | none =>
      rw [serveWord, Option.map_none, serve]
      cases hsupplied : t.supplied with
      | false => exact ⟨none, counter, rfl, hcounter, fun _ => rfl⟩
      | true => exact t.exists_takeWord hcounter hn

/-- A call moves the counter by one at most. -/
theorem serve_snd_le (index : Option Int) (n : Nat) : (t.serve index n).2 ≤ n + 1 := by
  cases index with
  | some index => exact Nat.le_succ n
  | none =>
      rw [serve]
      cases t.supplied with
      | false => exact Nat.le_succ n
      | true => exact Nat.le_refl _

end Tokens

/-- A machine word holds the lengths of all lists. -/
structure StyleCycle.Addressable (style : StyleCycle) : Prop where
  markers : style.markers.Addressable
  colors : style.colors.Addressable
  lines : style.lines.Addressable

/-! ### Runs in words -/

/-- No counter is above `n`. -/
structure Cycler.AtMost (c : Cycler) (n : Nat) : Prop where
  markers : c.markers ≤ n
  colors : c.colors ≤ n
  lines : c.lines ≤ n

theorem Cycler.AtMost.serve {style : StyleCycle} {c : Cycler} {n : Nat} (h : c.AtMost n)
    (call : Call) : (c.serve style call).2.AtMost (n + 1) := by
  obtain ⟨hmarkers, hcolors, hlines⟩ := h
  cases call with
  | marker => exact ⟨Nat.succ_le_succ hmarkers, Nat.le_succ_of_le hcolors, Nat.le_succ_of_le hlines⟩
  | color index =>
      have hserved := style.colors.serve_snd_le (index.map Int64.toInt) c.colors
      exact ⟨Nat.le_succ_of_le hmarkers, Nat.le_trans hserved (Nat.succ_le_succ hcolors),
        Nat.le_succ_of_le hlines⟩
  | line index =>
      have hserved := style.lines.serve_snd_le (index.map Int64.toInt) c.lines
      exact ⟨Nat.le_succ_of_le hmarkers, Nat.le_succ_of_le hcolors,
        Nat.le_trans hserved (Nat.succ_le_succ hlines)⟩

/-- **The place that a plot has reached in each list**, in words. -/
structure WordCycler where
  markers : Int64 := 0
  colors : Int64 := 0
  lines : Int64 := 0
  deriving DecidableEq

namespace WordCycler

open Cycler

/-- What a call is answered, and the counters behind it. -/
def serve (style : StyleCycle) (w : WordCycler) :
    Call → Except MachineWord.Overflow (Option String × WordCycler)
  | .marker => do
    let step ← style.markers.takeWord w.markers
    return (step.1, { w with markers := step.2 })
  | .color index => do
    let step ← style.colors.serveWord index w.colors
    return (step.1, { w with colors := step.2 })
  | .line index => do
    let step ← style.lines.serveWord index w.lines
    return (step.1, { w with lines := step.2 })

/-- **The transcript of a run of calls**: each call with its answer, unless a result of
arithmetic is no word. -/
def transcript (style : StyleCycle) (w : WordCycler) :
    List Call → Except MachineWord.Overflow (List (Call × Option String))
  | [] => .ok []
  | call :: rest => do
    let step ← w.serve style call
    let answers ← step.2.transcript style rest
    return (call, step.1) :: answers

/-- **The words hold the counters.** -/
structure Holds (w : WordCycler) (c : Cycler) : Prop where
  markers : w.markers.toInt = c.markers
  colors : w.colors.toInt = c.colors
  lines : w.lines.toInt = c.lines

variable {w : WordCycler} {c : Cycler} {n : Nat}

/-- **One call** stays in the range of words. -/
theorem exists_serve (style : StyleCycle) (h : w.Holds c) (hc : c.AtMost n)
    (hn : n + 1 < 2 ^ 63) {call : Call} (hcall : call.FromOne) :
    ∃ answer next, w.serve style call = .ok (answer, next) ∧ next.Holds (c.serve style call).2 ∧
      (style.Addressable → answer = (c.serve style call).1) := by
  cases call with
  | marker =>
      obtain ⟨token, next, htake, hnext, hget⟩ :=
        style.markers.exists_takeWord h.markers
          (Nat.lt_of_le_of_lt (Nat.succ_le_succ hc.markers) hn)
      exact ⟨token, _, bind_eq_ok.mpr ⟨_, htake, rfl⟩, ⟨hnext, h.colors, h.lines⟩,
        fun haddressable => hget haddressable.markers⟩
  | color index =>
      obtain ⟨token, next, hserve, hnext, hget⟩ :=
        style.colors.exists_serveWord hcall h.colors
          (Nat.lt_of_le_of_lt (Nat.succ_le_succ hc.colors) hn)
      exact ⟨token, _, bind_eq_ok.mpr ⟨_, hserve, rfl⟩, ⟨h.markers, hnext, h.lines⟩,
        fun haddressable => hget haddressable.colors⟩
  | line index =>
      obtain ⟨token, next, hserve, hnext, hget⟩ :=
        style.lines.exists_serveWord hcall h.lines
          (Nat.lt_of_le_of_lt (Nat.succ_le_succ hc.lines) hn)
      exact ⟨token, _, bind_eq_ok.mpr ⟨_, hserve, rfl⟩, ⟨h.markers, h.colors, hnext⟩,
        fun haddressable => hget haddressable.lines⟩

/-- **A run** stays in the range of words, by induction on its calls: none of them moves a
counter by more than one. -/
theorem exists_transcript (style : StyleCycle) (h : w.Holds c) (hc : c.AtMost n)
    {calls : List Call} (hn : n + calls.length < 2 ^ 63) (hcalls : ∀ call ∈ calls, call.FromOne) :
    ∃ run, w.transcript style calls = .ok run ∧
      (style.Addressable → run = c.transcript style calls) := by
  induction calls generalizing w c n with
  | nil => exact ⟨[], rfl, fun _ => rfl⟩
  | cons call rest ih =>
      rw [List.forall_mem_cons] at hcalls
      rw [List.length_cons] at hn
      obtain ⟨answer, next, hserve, hnext, hanswer⟩ :=
        exists_serve style h hc (by omega) hcalls.1
      obtain ⟨run, hrun, hrest⟩ := ih hnext (hc.serve call) (by omega) hcalls.2
      refine ⟨(call, answer) :: run, ?_, fun haddressable => ?_⟩
      · exact bind_eq_ok.mpr ⟨_, hserve, bind_eq_ok.mpr ⟨run, hrun, rfl⟩⟩
      · rw [hanswer haddressable, hrest haddressable]
        rfl

end WordCycler

end FigureScript
