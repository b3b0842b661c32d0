import FigureScript.Proofs.Keyed
import FigureScript.Recorder.Figure

/-!
# Axes along paths

A call goes to axes that are reached by a path of coordinates, from the current axes or
from a cell of the grid.  It changes the axes at the end of the path and no others.

## Main Definitions

* `AxesRecorder.axesAt` — the axes at the end of a path
* `AxesRecorder.modifyAt` — a change of these axes
* `FigureRecorder.axes?`, `FigureRecorder.modifyOn` — the same from a surface of a figure

## Main Results

* `AxesRecorder.twin_setTwin` — secondary axes are kept by their coordinate
* `AxesRecorder.applyAt_eq`, `FigureRecorder.draw_eq` — a call is a change of the axes it
  goes to
* `AxesRecorder.plot_axesAt_modifyAt` — charts at the end of other paths stay

## Design Notes

Axes that no call has gone to so far are empty, so `axesAt` is total.  `modifyAt` creates
the axes on its path even when it changes nothing, as looking them up does.
-/

namespace FigureScript

namespace AxesRecorder

variable {a : AxesRecorder} {f g : AxesRecorder → AxesRecorder}

/-! ### Secondary axes -/

@[simp]
theorem plot_setTwin (a : AxesRecorder) (adds : Axis) (twin : AxesRecorder) :
    (a.setTwin adds twin).plot = a.plot := by
  rw [setTwin]
  split <;> rfl

theorem twins_setTwin (a : AxesRecorder) (adds : Axis) (twin : AxesRecorder) :
    (a.setTwin adds twin).twins =
      if a.twins.any (·.1 = adds) then
        a.twins.map fun (axis, old) => (axis, if axis = adds then twin else old)
      else a.twins ++ [(adds, twin)] := by
  rw [setTwin]
  split <;> rfl

/-- **Secondary axes are kept by their coordinate**: setting those of one leaves the
others. -/
theorem twin_setTwin (a : AxesRecorder) (adds axis : Axis) (twin : AxesRecorder) :
    (a.setTwin adds twin).twin axis = if axis = adds then twin else a.twin axis := by
  rw [AxesRecorder.twin, twins_setTwin, find?_replaced]
  split <;> rfl

/-! ### Paths -/

/-- **The axes at the end of a path** of secondary axes. -/
def axesAt : (path : List Axis) → AxesRecorder → AxesRecorder
  | [], a => a
  | adds :: path, a => axesAt path (a.twin adds)

/-- **A change of the axes at the end of a path**, which are created on the way. -/
def modifyAt : (path : List Axis) → AxesRecorder → (AxesRecorder → AxesRecorder) → AxesRecorder
  | [], a, f => f a
  | adds :: path, a, f => a.setTwin adds (modifyAt path (a.twin adds) f)

/-- **A call along a path** is a change of the axes at its end, and is answered there. -/
theorem applyAt_eq (path : List Axis) (a : AxesRecorder) (call : DrawCall) :
    a.applyAt path call =
      (a.modifyAt path fun axes => (axes.apply call).1, ((a.axesAt path).apply call).2) := by
  induction path generalizing a with
  | nil => rfl
  | cons adds path ih =>
      rw [applyAt, ih]
      rfl

theorem axesAt_modifyAt (path : List Axis) (a : AxesRecorder) :
    (a.modifyAt path f).axesAt path = f (a.axesAt path) := by
  induction path generalizing a with
  | nil => rfl
  | cons adds path ih =>
      change ((a.setTwin adds _).twin adds).axesAt path = _
      rw [twin_setTwin, if_pos rfl, ih]
      rfl

/-- Changes that agree on the axes at the end of a path agree along it. -/
theorem modifyAt_congr {path : List Axis} (h : f (a.axesAt path) = g (a.axesAt path)) :
    a.modifyAt path f = a.modifyAt path g := by
  induction path generalizing a with
  | nil => exact h
  | cons adds path ih => exact congrArg (a.setTwin adds) (ih h)

/-- **Charts at the end of other paths stay**, under a change that leaves secondary axes
alone. -/
theorem plot_axesAt_modifyAt (hf : ∀ axes, (f axes).twins = axes.twins) (path other : List Axis)
    (a : AxesRecorder) :
    ((a.modifyAt path f).axesAt other).plot =
      if other = path then (f (a.axesAt path)).plot else (a.axesAt other).plot := by
  induction path generalizing a other with
  | nil =>
      cases other with
      | nil => rfl
      | cons axis other =>
          have htwin : (f a).twin axis = a.twin axis := by rw [twin, twin, hf]
          change (((f a).twin axis).axesAt other).plot = _
          rw [htwin]
          rfl
  | cons adds path ih =>
      cases other with
      | nil => exact plot_setTwin a adds _
      | cons axis other =>
          change (((a.setTwin adds _).twin axis).axesAt other).plot = _
          rw [twin_setTwin]
          by_cases haxis : axis = adds
          · rw [if_pos haxis, ih, haxis]
            simp only [List.cons.injEq, true_and]
            rfl
          · rw [if_neg haxis, if_neg fun h => haxis (List.cons.inj h).1]
            rfl

end AxesRecorder

/-! ### Surfaces -/

namespace FigureRecorder

variable {g g' : AxesRecorder → AxesRecorder}

/-- The axes of a surface, unless it is on a cell that does not exist. -/
def axes? (f : FigureRecorder) : Surface → Option AxesRecorder
  | .current path => some (f.current.axesAt path)
  | .cell row col path => (f.cell? row col).map (·.axesAt path)

/-- **A change of the axes of a surface**, which are created on the way. -/
def modifyOn (f : FigureRecorder) (surface : Surface) (g : AxesRecorder → AxesRecorder) :
    FigureRecorder :=
  match surface with
  | .current path => { f with current := f.current.modifyAt path g }
  | .cell row col path =>
    match f.grid, f.cell? row col with
    | some grid, some axes => { f with grid := some (grid.set row col (axes.modifyAt path g)) }
    | _, _ => f

/-- **A drawing call** is a change of the axes of its surface, and is answered there. -/
theorem draw_eq (f : FigureRecorder) (surface : Surface) (call : DrawCall) :
    f.draw surface call =
      (f.modifyOn surface fun axes => (axes.apply call).1,
        ((f.axes? surface).map fun axes => (axes.apply call).2).getD {}) := by
  cases surface with
  | current path =>
      rw [draw, AxesRecorder.applyAt_eq]
      rfl
  | cell row col path =>
      rw [draw, modifyOn, axes?]
      cases hgrid : f.grid with
      | none =>
          rw [cell?, hgrid]
          rfl
      | some grid =>
          cases haxes : f.cell? row col with
          | none => rfl
          | some axes =>
              simp only [AxesRecorder.applyAt_eq]
              rfl

/-- Changes that agree on the axes of a surface agree there. -/
theorem modifyOn_congr {f : FigureRecorder} {surface : Surface}
    (h : ∀ axes ∈ f.axes? surface, g axes = g' axes) :
    f.modifyOn surface g = f.modifyOn surface g' := by
  cases surface with
  | current path =>
      have hcurrent := h (f.current.axesAt path) rfl
      rw [modifyOn, modifyOn, AxesRecorder.modifyAt_congr hcurrent]
  | cell row col path =>
      rw [modifyOn, modifyOn]
      split
      next grid axes hgrid haxes =>
        have hcell := h (axes.axesAt path) (by rw [axes?, haxes]; rfl)
        rw [AxesRecorder.modifyAt_congr hcell]
      next => rfl

end FigureRecorder

/-- The axes that have been put into a cell are found there. -/
theorem GridRecorder.get?_set {grid : GridRecorder} {row col : Nat} {old axes : AxesRecorder}
    (h : grid.get? row col = some old) : (grid.set row col axes).get? row col = some axes := by
  obtain ⟨cells, hcells, hold⟩ := Option.bind_eq_some_iff.mp h
  have hcol : col < cells.length := (List.getElem?_eq_some_iff.mp hold).1
  rw [get?, set, List.getElem?_modify_eq, hcells]
  exact List.getElem?_set_self hcol

/-- The axes of a surface after a change are the changed ones. -/
theorem FigureRecorder.axes?_modifyOn (f : FigureRecorder) (surface : Surface)
    (g : AxesRecorder → AxesRecorder) :
    (f.modifyOn surface g).axes? surface = (f.axes? surface).map g := by
  cases surface with
  | current path => exact congrArg some (AxesRecorder.axesAt_modifyAt path f.current)
  | cell row col path =>
      rw [modifyOn]
      split
      next grid axes hgrid haxes =>
        have hold : grid.get? row col = some axes := by
          rw [cell?, hgrid] at haxes
          exact haxes
        rw [axes?, axes?, haxes, cell?]
        change ((grid.set row col _).get? row col).map _ = _
        rw [GridRecorder.get?_set hold]
        exact congrArg some (AxesRecorder.axesAt_modifyAt path axes)
      next hmissing =>
        have hnone : f.axes? (.cell row col path) = none := by
          rw [axes?, Option.map_eq_none_iff, cell?]
          cases hgrid : f.grid with
          | none => rfl
          | some grid =>
              cases haxes : f.cell? row col with
              | none =>
                  rw [cell?, hgrid] at haxes
                  exact haxes
              | some axes => exact absurd haxes (hmissing grid axes hgrid)
        rw [hnone]
        rfl

end FigureScript
