import FigureScript.Proofs.Style.Lists
import Mathlib.Data.List.Induction

/-!
# Calls for tokens

Whoever draws a chart calls for markers, colours and line styles in any order.  A call is served
in turn, or it asks for a token by its index.  Here such calls are data, so that a run of them
can be compared with another one.

## Main Definitions

* `Cycler.Call` — one call for a token
* `StyleCycle.transcript` — the calls of a run, each with its answer
* `Cycler.behind` — the counters behind some calls

## Main Results

* `Cycler.serve_behind` — what one call does to the counters
* `StyleCycle.transcript_concat` — what one more call is answered
* `Cycler.answer_congr` — an answer depends on the number of earlier calls like it

## Design Notes

The three calls without an index are those that are served in turn, one for each list.  So the
place that a call takes in its list is the number of times that it was made before, and counters
can be told by `List.count`.
-/

namespace FigureScript

namespace Cycler

/-- **What a token is for**, and with it the list that it comes from. -/
inductive Kind where
  | marker
  | color
  | line
  deriving DecidableEq

/-- **A call for a token.**  An index is a word of a machine and counts from one. -/
inductive Call where
  | marker
  | color (index : Option Int64)
  | line (index : Option Int64)
  deriving DecidableEq

namespace Call

/-- What the token is for. -/
def kind : Call → Kind
  | marker => .marker
  | color _ => .color
  | line _ => .line

/-- The index that is asked for. -/
def index? : Call → Option Int64
  | marker => none
  | color index => index
  | line index => index

/-- An index, where one is asked for, is at least one. -/
def FromOne (call : Call) : Prop :=
  ∀ index ∈ call.index?, 1 ≤ index.toInt

theorem FromOne.one_le_toInt {call : Call} (h : call.FromOne) :
    ∀ index ∈ call.index?.map Int64.toInt, 1 ≤ index := by
  intro index hindex
  obtain ⟨word, hword, rfl⟩ := Option.map_eq_some_iff.mp hindex
  exact h word hword

end Call

/-! ### Runs -/

/-- What a call is answered, and the counters behind it. -/
def serve (style : StyleCycle) (c : Cycler) : Call → Option String × Cycler
  | .marker => c.marker style
  | .color index => c.color style (index.map Int64.toInt)
  | .line index => c.line style (index.map Int64.toInt)

/-- The transcript of a run with some counters. -/
def transcript (style : StyleCycle) (c : Cycler) : List Call → List (Call × Option String)
  | [] => []
  | call :: rest =>
    let step := c.serve style call
    (call, step.1) :: step.2.transcript style rest

/-! ### Counters -/

/-- **The counters behind some calls**: how often a token was taken from each list.  From one
that nobody supplied none is. -/
def behind (style : StyleCycle) (calls : List Call) : Cycler where
  markers := calls.count .marker
  colors := if style.colors.supplied then calls.count (.color none) else 0
  lines := if style.lines.supplied then calls.count (.line none) else 0

theorem behind_nil (style : StyleCycle) : behind style [] = {} := by
  rw [behind]
  cases style.colors.supplied <;> cases style.lines.supplied <;> rfl

/-- Of the calls that ask one list, those without an index are counted. -/
theorem count_concat {ask : Option Int64 → Call} (hask : Function.Injective ask)
    (calls : List Call) (index : Option Int64) :
    (calls ++ [ask index]).count (ask none) =
      calls.count (ask none) + if (index.map Int64.toInt).isNone then 1 else 0 := by
  cases index <;> simp [hask.eq_iff]

/-- **What one call does to the counters.** -/
theorem serve_behind (style : StyleCycle) (calls : List Call) (call : Call) :
    ((behind style calls).serve style call).2 = behind style (calls ++ [call]) := by
  cases call with
  | marker => simp [serve, marker, behind]
  | color index =>
      have hcount := style.colors.serve_counter (index.map Int64.toInt) (calls.count (.color none))
      rw [← count_concat fun _ _ => Call.color.inj] at hcount
      simp [serve, color, behind, hcount]
  | line index =>
      have hcount := style.lines.serve_counter (index.map Int64.toInt) (calls.count (.line none))
      rw [← count_concat fun _ _ => Call.line.inj] at hcount
      simp [serve, line, behind, hcount]

theorem transcript_behind_concat (style : StyleCycle) (earlier calls : List Call) (call : Call) :
    (behind style earlier).transcript style (calls ++ [call]) =
      (behind style earlier).transcript style calls ++
        [(call, ((behind style (earlier ++ calls)).serve style call).1)] := by
  induction calls generalizing earlier with
  | nil =>
      rw [List.append_nil]
      rfl
  | cons first rest ih =>
      have hrest := ih (earlier ++ [first])
      rw [← serve_behind, List.append_assoc, List.singleton_append] at hrest
      exact congrArg (List.cons _) hrest

/-- **An answer depends on the number of earlier calls like it**, and on nothing where an index
is asked for. -/
theorem answer_congr (style : StyleCycle) {call : Call} {calls calls' : List Call}
    (h : call.index? = none → calls.count call = calls'.count call) :
    ((behind style calls).serve style call).1 = ((behind style calls').serve style call).1 := by
  cases call with
  | marker => rw [serve, serve, marker, marker, behind, behind, h rfl]
  | color index =>
      cases index with
      | some index => rfl
      | none => rw [serve, serve, behind, behind, color, color, h rfl]
  | line index =>
      cases index with
      | some index => rfl
      | none => rw [serve, serve, behind, behind, line, line, h rfl]

end Cycler

namespace StyleCycle

open Cycler

/-- **The transcript of a run of calls** with fresh counters: each call with its answer. -/
def transcript (style : StyleCycle) (calls : List Call) : List (Call × Option String) :=
  Cycler.transcript style {} calls

/-- **One more call** is answered with the counters behind the calls before it. -/
theorem transcript_concat (style : StyleCycle) (calls : List Call) (call : Call) :
    style.transcript (calls ++ [call]) =
      style.transcript calls ++ [(call, ((behind style calls).serve style call).1)] := by
  have hconcat := transcript_behind_concat style [] calls call
  rwa [behind_nil, List.nil_append] at hconcat

/-- Every call is answered, one after the other. -/
theorem map_fst_transcript (style : StyleCycle) (calls : List Call) :
    (style.transcript calls).map (·.1) = calls := by
  induction calls using List.reverseRecOn with
  | nil => rfl
  | append_singleton calls call ih => simp [transcript_concat, ih]

theorem length_transcript (style : StyleCycle) (calls : List Call) :
    (style.transcript calls).length = calls.length := by
  rw [← List.length_map, map_fst_transcript]

end StyleCycle

end FigureScript
