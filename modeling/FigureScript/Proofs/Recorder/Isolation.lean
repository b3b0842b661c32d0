import FigureScript.Proofs.Recorder.Figure
import FigureScript.Proofs.Recorder.Kept
import Mathlib.Data.List.DropRight

/-!
# Cells of a grid on their own

A cell of a recorded grid is what the calls on it make of fresh axes.  Calls from before the
grid was started, on other cells, on the current axes or for a grid that is refused leave no
trace in it, and none in the replies to the calls on it.

## Main Definitions

* `FigureRecorder.transcript`, `AxesRecorder.transcript` — the calls of a run with their
  replies
* `gridSize?`, `sinceGrid` — the last grid that was started, and the run behind that
* `FigureCall.onCell?`, `callsOn`, `transcriptOn` — what goes to one cell

## Main Results

* `FigureRecorder.cell?_apply` — what one call does to one cell
* `FigureRecorder.cell?_applyAll` — a cell after a run, from the calls on it alone
* `FigureRecorder.transcriptOn_sinceGrid` — the replies to these calls
* `FigureRecorder.cells_isolated` — both, for the figure that has been recorded

## Design Notes

The runs are read from their end: the last call either starts a grid, which makes every cell
fresh, or it is one more call on the grid that is there.
-/

namespace FigureScript

/-! ### Transcripts -/

/-- **The transcript of a run on axes**: each call with its reply. -/
def AxesRecorder.transcript (a : AxesRecorder) :
    List (List Axis × DrawCall) → List ((List Axis × DrawCall) × Reply)
  | [] => []
  | entry :: rest =>
    let step := a.applyAt entry.1 entry.2
    (entry, step.2) :: step.1.transcript rest

/-- **The transcript of a run on a figure**: each call with its reply. -/
def FigureRecorder.transcript (f : FigureRecorder) : List FigureCall → List (FigureCall × Reply)
  | [] => []
  | call :: rest =>
    let step := f.apply call
    (call, step.2) :: step.1.transcript rest

theorem AxesRecorder.applyAll_concat (a : AxesRecorder) (calls : List (List Axis × DrawCall))
    (entry : List Axis × DrawCall) :
    a.applyAll (calls ++ [entry]) = ((a.applyAll calls).applyAt entry.1 entry.2).1 := by
  rw [applyAll, List.foldl_append]
  rfl

theorem AxesRecorder.transcript_concat (a : AxesRecorder) (calls : List (List Axis × DrawCall))
    (entry : List Axis × DrawCall) :
    a.transcript (calls ++ [entry]) =
      a.transcript calls ++ [(entry, ((a.applyAll calls).applyAt entry.1 entry.2).2)] := by
  induction calls generalizing a with
  | nil => rfl
  | cons first rest ih => exact congrArg (List.cons _) (ih _)

theorem FigureRecorder.applyAll_concat (f : FigureRecorder) (calls : List FigureCall)
    (call : FigureCall) : f.applyAll (calls ++ [call]) = ((f.applyAll calls).apply call).1 := by
  rw [applyAll, List.foldl_append]
  rfl

theorem FigureRecorder.transcript_concat (f : FigureRecorder) (calls : List FigureCall)
    (call : FigureCall) :
    f.transcript (calls ++ [call]) =
      f.transcript calls ++ [(call, ((f.applyAll calls).apply call).2)] := by
  induction calls generalizing f with
  | nil => rfl
  | cons first rest ih => exact congrArg (List.cons _) (ih _)

/-! ### The last grid -/

/-- The size of the grid that a call has started, if it was one for a grid and succeeded. -/
def startedGrid? : FigureCall × Reply → Option (Nat × Nat)
  | (.subplots rows cols _ _, reply) => if reply.result.isOk then some (rows, cols) else none
  | _ => none

/-- **The size of the last grid** that was started in a run. -/
def gridSize? (run : List (FigureCall × Reply)) : Option (Nat × Nat) :=
  (run.filterMap startedGrid?).getLast?

/-- **The run behind the call that started the last grid.** -/
def sinceGrid (run : List (FigureCall × Reply)) : List (FigureCall × Reply) :=
  run.rtakeWhile fun entry => (startedGrid? entry).isNone

section LastGrid

variable {entry : FigureCall × Reply} (run : List (FigureCall × Reply))

theorem gridSize?_concat :
    gridSize? (run ++ [entry]) = (startedGrid? entry).or (gridSize? run) := by
  rw [gridSize?, gridSize?, List.filterMap_append]
  cases h : startedGrid? entry with
  | none => simp [h]
  | some size => simp [h]

theorem sinceGrid_concat_of_started {size : Nat × Nat} (h : startedGrid? entry = some size) :
    sinceGrid (run ++ [entry]) = [] := by
  refine List.rtakeWhile_concat_neg _ _ _ ?_
  simp [h]

theorem sinceGrid_concat (h : startedGrid? entry = none) :
    sinceGrid (run ++ [entry]) = sinceGrid run ++ [entry] := by
  refine List.rtakeWhile_concat_pos _ _ _ ?_
  simp [h]

end LastGrid

/-! ### Calls on a cell -/

/-- The path of secondary axes by which a surface is reached from a cell, if it is. -/
def Surface.onCell? (i j : Nat) : Surface → Option (List Axis)
  | current _ => none
  | cell row col path => if row = i ∧ col = j then some path else none

/-- **The call on a cell**, or on secondary axes over it, that a call on a figure is. -/
def FigureCall.onCell? (i j : Nat) : FigureCall → Option (List Axis × DrawCall)
  | draw surface call => (surface.onCell? i j).map fun path => (path, call)
  | subplots .. => none
  | supTitle _ => none

/-- **The calls of a run on one cell.** -/
def callsOn (i j : Nat) (run : List (FigureCall × Reply)) : List (List Axis × DrawCall) :=
  run.filterMap fun entry => entry.1.onCell? i j

/-- **The calls of a run on one cell with their replies.** -/
def transcriptOn (i j : Nat) (run : List (FigureCall × Reply)) :
    List ((List Axis × DrawCall) × Reply) :=
  run.filterMap fun entry => (entry.1.onCell? i j).map fun call => (call, entry.2)

theorem callsOn_concat (i j : Nat) (run : List (FigureCall × Reply))
    (entry : FigureCall × Reply) :
    callsOn i j (run ++ [entry]) = callsOn i j run ++ (entry.1.onCell? i j).toList := by
  rw [callsOn, List.filterMap_append, callsOn]
  cases h : entry.1.onCell? i j <;> simp [h]

theorem transcriptOn_concat (i j : Nat) (run : List (FigureCall × Reply))
    (entry : FigureCall × Reply) :
    transcriptOn i j (run ++ [entry]) =
      transcriptOn i j run ++ ((entry.1.onCell? i j).map fun call => (call, entry.2)).toList := by
  rw [transcriptOn, List.filterMap_append, transcriptOn]
  cases h : entry.1.onCell? i j <;> simp [h]

/-! ### One call -/

/-- **Other cells stay** when one is replaced. -/
theorem GridRecorder.get?_set_of_ne {grid : GridRecorder} {row col i j : Nat}
    (h : ¬ (row = i ∧ col = j)) (axes : AxesRecorder) :
    (grid.set row col axes).get? i j = grid.get? i j := by
  rw [get?, get?, set, List.getElem?_modify]
  by_cases hrow : row = i
  · have hcol : col ≠ j := fun hcol => h ⟨hrow, hcol⟩
    cases grid.cells[i]? with
    | none => rfl
    | some cells => simp [hrow, List.getElem?_set_ne hcol]
  · cases grid.cells[i]? with
    | none => rfl
    | some cells => simp [hrow]

/-- A cell of a grid of fresh axes. -/
theorem GridRecorder.get?_replicate (rows cols i j : Nat) (xshared yshared : Option Sharing) :
    GridRecorder.get? ⟨List.replicate rows (List.replicate cols {}), xshared, yshared⟩ i j =
      if i < rows ∧ j < cols then some {} else none := by
  rw [get?, List.getElem?_replicate]
  by_cases hi : i < rows
  · simp [hi, List.getElem?_replicate]
  · simp [hi]

namespace FigureRecorder

variable {f : FigureRecorder} {i j : Nat}

/-- **What a drawing call does to a cell**: a change if it goes there, and nothing else. -/
theorem cell?_draw (f : FigureRecorder) (surface : Surface) (call : DrawCall) (i j : Nat) :
    (f.draw surface call).1.cell? i j =
      (f.cell? i j).map fun axes =>
        ((surface.onCell? i j).map fun path => (axes.applyAt path call).1).getD axes := by
  cases surface with
  | current path => exact Option.map_id'.symm
  | cell row col path =>
      rw [draw, Surface.onCell?]
      cases hgrid : f.grid with
      | none => simp [cell?, hgrid]
      | some grid =>
          cases haxes : f.cell? row col with
          | none =>
              -- there is no such cell, so the call that goes to it does nothing
              by_cases hcell : row = i ∧ col = j
              · obtain ⟨rfl, rfl⟩ := hcell
                simp [haxes]
              · simp [hcell]
          | some axes =>
              have hold : grid.get? row col = some axes := by
                rwa [cell?, hgrid] at haxes
              by_cases hcell : row = i ∧ col = j
              · obtain ⟨rfl, rfl⟩ := hcell
                simp only [cell?, hgrid, Option.bind_some, hold, GridRecorder.get?_set hold]
                simp
              · simp only [cell?, hgrid, Option.bind_some, GridRecorder.get?_set_of_ne hcell]
                simp [hcell]

/-- **A call that starts a grid** makes its cells fresh, and they are all that there are. -/
theorem cell?_apply_of_started {call : FigureCall} {rows cols : Nat}
    (h : startedGrid? (call, (f.apply call).2) = some (rows, cols)) (i j : Nat) :
    (f.apply call).1.cell? i j = if i < rows ∧ j < cols then some {} else none := by
  cases call with
  | draw surface call => cases h
  | supTitle text => cases h
  | subplots m n xshared yshared =>
      by_cases hsize : m = 0 ∨ n = 0
      · simp [startedGrid?, apply, hsize, Except.isOk, Except.toBool] at h
      · simp only [startedGrid?, apply, if_neg hsize] at h ⊢
        cases h
        exact GridRecorder.get?_replicate rows cols i j xshared yshared

/-- **Any other call** changes a cell if it goes there, and leaves it alone otherwise. -/
theorem cell?_apply {call : FigureCall} (h : startedGrid? (call, (f.apply call).2) = none)
    (i j : Nat) :
    (f.apply call).1.cell? i j =
      (f.cell? i j).map fun axes =>
        ((call.onCell? i j).map fun entry => (axes.applyAt entry.1 entry.2).1).getD axes := by
  cases call with
  | draw surface call =>
      simp only [FigureCall.onCell?, Option.map_map]
      exact cell?_draw f surface call i j
  | supTitle text => exact Option.map_id'.symm
  | subplots m n xshared yshared =>
      -- a grid that is refused is not there
      by_cases hsize : m = 0 ∨ n = 0
      · rw [apply, if_pos hsize]
        exact Option.map_id'.symm
      · simp [startedGrid?, apply, if_neg hsize, Except.isOk, Except.toBool] at h

/-- A call on a cell is answered by the axes in it. -/
theorem reply_apply_of_onCell? {call : FigureCall} {entry : List Axis × DrawCall}
    {axes : AxesRecorder} (hcell : f.cell? i j = some axes) (h : call.onCell? i j = some entry) :
    (f.apply call).2 = (axes.applyAt entry.1 entry.2).2 := by
  cases call with
  | subplots m n xshared yshared => cases h
  | supTitle text => cases h
  | draw surface call =>
      obtain ⟨path, hpath, rfl⟩ := Option.map_eq_some_iff.mp h
      cases surface with
      | current path => cases hpath
      | cell row col path =>
          by_cases hplace : row = i ∧ col = j
          · obtain ⟨rfl, rfl⟩ := hplace
            rw [Surface.onCell?, if_pos ⟨rfl, rfl⟩] at hpath
            cases hpath
            obtain ⟨grid, hgrid, hget⟩ := Option.bind_eq_some_iff.mp hcell
            rw [apply, draw, hgrid, hcell]
          · rw [Surface.onCell?, if_neg hplace] at hpath
            cases hpath

/-! ### Runs -/

/-- **A cell after a run** is what the calls on it since the last grid make of fresh axes, by
induction on the run from its end. -/
theorem cell?_applyAll (calls : List FigureCall) (i j : Nat) :
    (applyAll {} calls).cell? i j =
      (gridSize? (transcript {} calls)).bind fun size =>
        if i < size.1 ∧ j < size.2 then
          some (AxesRecorder.applyAll {} (callsOn i j (sinceGrid (transcript {} calls))))
        else none := by
  induction calls using List.reverseRecOn with
  | nil => rfl
  | append_singleton calls call ih =>
      rw [applyAll_concat, transcript_concat, gridSize?_concat]
      cases hstarted : startedGrid? (call, ((applyAll {} calls).apply call).2) with
      | some size =>
          rw [sinceGrid_concat_of_started _ hstarted, cell?_apply_of_started hstarted]
          rfl
      | none =>
          rw [sinceGrid_concat _ hstarted, callsOn_concat, cell?_apply hstarted, ih, Option.none_or]
          cases gridSize? (transcript {} calls) with
          | none => rfl
          | some size =>
              by_cases hinside : i < size.1 ∧ j < size.2
              · cases hcall : call.onCell? i j with
                | none => simp [hinside]
                | some entry =>
                    simp [hinside, AxesRecorder.applyAll_concat]
              · simp [hinside]

/-- A drawing call starts no grid. -/
theorem isSome_grid_draw (f : FigureRecorder) (surface : Surface) (call : DrawCall) :
    (f.draw surface call).1.grid.isSome = f.grid.isSome := by
  cases surface with
  | current path => rfl
  | cell row col path =>
      rw [draw]
      cases hgrid : f.grid with
      | none => rw [hgrid]
      | some grid => cases f.cell? row col <;> simp [hgrid]

/-- A grid is there when one has been started. -/
theorem isSome_grid_applyAll (calls : List FigureCall) :
    (applyAll {} calls).grid.isSome = (gridSize? (transcript {} calls)).isSome := by
  induction calls using List.reverseRecOn with
  | nil => rfl
  | append_singleton calls call ih =>
      rw [applyAll_concat, transcript_concat, gridSize?_concat, Option.isSome_or, ← ih]
      cases call with
      | supTitle text => rfl
      | draw surface call =>
          have hnone : startedGrid? (.draw surface call,
              ((applyAll {} calls).apply (.draw surface call)).2) = none := rfl
          rw [hnone]
          exact isSome_grid_draw _ surface call
      | subplots rows cols xshared yshared =>
          by_cases hsize : rows = 0 ∨ cols = 0
          · simp [apply, hsize, startedGrid?, Except.isOk, Except.toBool]
          · simp [apply, hsize, startedGrid?, Except.isOk, Except.toBool]

/-- **The replies to the calls on a cell** are those of fresh axes to these calls. -/
theorem transcriptOn_sinceGrid {calls : List FigureCall} {rows cols : Nat}
    (h : gridSize? (transcript {} calls) = some (rows, cols)) (hi : i < rows) (hj : j < cols) :
    transcriptOn i j (sinceGrid (transcript {} calls)) =
      AxesRecorder.transcript {} (callsOn i j (sinceGrid (transcript {} calls))) := by
  induction calls using List.reverseRecOn generalizing rows cols with
  | nil => rfl
  | append_singleton calls call ih =>
      rw [transcript_concat] at h ⊢
      rw [gridSize?_concat] at h
      cases hstarted : startedGrid? (call, ((applyAll {} calls).apply call).2) with
      | some size =>
          rw [sinceGrid_concat_of_started _ hstarted]
          rfl
      | none =>
          rw [hstarted, Option.none_or] at h
          rw [sinceGrid_concat _ hstarted, transcriptOn_concat, callsOn_concat, ih h hi hj]
          cases hcall : call.onCell? i j with
          | none => simp
          | some entry =>
              -- the axes that answer are those that the earlier calls have made
              have hcell := cell?_applyAll calls i j
              rw [h, Option.bind_some, if_pos ⟨hi, hj⟩] at hcell
              have hreply := reply_apply_of_onCell? hcell hcall
              simp [AxesRecorder.transcript_concat, hreply]

end FigureRecorder

/-! ### The figure -/

/-- The chart in a cell of a grid. -/
def Multiplot.cell? (m : Multiplot) (i j : Nat) : Option Cell :=
  m.plots[i]?.bind (·[j]?)

theorem GridRecorder.cell?_multiplot (grid : GridRecorder) (title : Option String) (i j : Nat) :
    (grid.multiplot title).cell? i j = (grid.get? i j).map AxesRecorder.cell := by
  rw [Multiplot.cell?, multiplot, List.getElem?_map, get?]
  cases grid.cells[i]? with
  | none => rfl
  | some row => exact List.getElem?_map

namespace FigureRecorder

/-- **The cells of a recorded grid are isolated.**  Take any run of calls that leaves a grid.
The grid is as large as the last call that started one wanted it.  The chart in each of its
cells is that of fresh axes to which the calls on this cell, and on secondary axes over it,
have been applied since then, one after the other and nothing else; and each of these calls
got the reply that it gets there. -/
theorem cells_isolated {calls : List FigureCall} (h : (applyAll {} calls).grid.isSome) :
    let since := sinceGrid (transcript {} calls)
    ∃ rows cols m, gridSize? (transcript {} calls) = some (rows, cols) ∧
      (applyAll {} calls).figure = .multiplot m ∧
      (∀ i j, m.cell? i j =
        if i < rows ∧ j < cols then some (AxesRecorder.applyAll {} (callsOn i j since)).cell
        else none) ∧
      ∀ i j, i < rows → j < cols →
        transcriptOn i j since = AxesRecorder.transcript {} (callsOn i j since) := by
  intro since
  have hsize := h
  rw [isSome_grid_applyAll] at hsize
  obtain ⟨⟨rows, cols⟩, hsize⟩ := Option.isSome_iff_exists.mp hsize
  obtain ⟨grid, hgrid⟩ := Option.isSome_iff_exists.mp h
  refine ⟨rows, cols, grid.multiplot (applyAll {} calls).title, hsize, figure_of_grid hgrid, ?_, ?_⟩
  · intro i j
    have hcell := cell?_applyAll calls i j
    rw [cell?, hgrid, Option.bind_some, hsize, Option.bind_some] at hcell
    rw [GridRecorder.cell?_multiplot, hcell]
    by_cases hinside : i < rows ∧ j < cols
    · rw [if_pos hinside, if_pos hinside]
      rfl
    · rw [if_neg hinside, if_neg hinside]
      rfl
  · intro i j hi hj
    exact transcriptOn_sinceGrid hsize hi hj

/-- A run with two grids, a third one that is refused, and calls in between on the current
axes, on both cells of the second grid and on secondary axes. -/
def busyRun : List FigureCall :=
  [.draw (.current []) (.plot false false none [1] none), .subplots 1 1 none none,
    .draw (.cell 0 0 []) (.plot false false none [2] none), .subplots 1 2 none none,
    .draw (.cell 0 1 []) (.plot false false none [3] none), .subplots 0 3 none none,
    .draw (.current [.x]) (.title "current"), .draw (.cell 0 0 []) (.title "left"),
    .draw (.cell 0 1 [.y]) (.plot false false none [4] none),
    .draw (.cell 0 1 []) (.plot false false (some [1]) [5, 6] none)]

/-- The calls of that run on its second cell. -/
def rightCellRun : List (List Axis × DrawCall) :=
  [([], .plot false false none [3] none), ([.y], .plot false false none [4] none),
    ([], .plot false false (some [1]) [5, 6] none)]

/-- The last call on the second cell fails at its second series, as it does on its own. -/
theorem cells_isolated_busyRun :
    (applyAll {} busyRun).grid.isSome ∧
      ∃ m, (applyAll {} busyRun).figure = .multiplot m ∧
        m.cell? 0 1 = some (AxesRecorder.applyAll {} rightCellRun).cell ∧
        transcriptOn 0 1 (sinceGrid (transcript {} busyRun)) =
          AxesRecorder.transcript {} rightCellRun ∧
        ((AxesRecorder.transcript {} rightCellRun).map fun entry => entry.2.result) =
          [.ok (), .ok (), .error (.schema [.field "series", .index 1, .field "x"]
            (.unevenCoordinates 1 2))] := by
  have hgrid : (applyAll {} busyRun).grid.isSome := rfl
  obtain ⟨rows, cols, m, hsize, hfigure, hcells, hreplies⟩ := cells_isolated hgrid
  have hcalls : callsOn 0 1 (sinceGrid (transcript {} busyRun)) = rightCellRun := rfl
  have hconcrete : gridSize? (transcript {} busyRun) = some (1, 2) := rfl
  rw [hconcrete] at hsize
  cases hsize
  have hcell := hcells 0 1
  have hreply := hreplies 0 1 (by decide) (by decide)
  rw [hcalls] at hcell hreply
  exact ⟨hgrid, m, hfigure, hcell, hreply, rfl⟩

end FigureRecorder

end FigureScript
