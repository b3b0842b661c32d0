import FigureScript.Proofs.Recorder.Paths

/-!
# Calls that fail

A call that fails records nothing, but one that asks for logarithmic axes has them
already when it fails.  All other calls leave the figure as they found it.

## Main Definitions

* `DrawCall.asksLog`, `FigureCall.asksLog` — the axes that a call wants logarithmic
* `FigureRecorder.onAxesOf` — a change of the axes that a call goes to

## Main Results

* `AxesRecorder.apply_of_error` — what a failed call leaves behind on its axes
* `FigureRecorder.apply_of_failure` — what it leaves behind in a figure
* `FigureRecorder.exists_failure_with_change` — a run after which a failed call changes it

## Design Notes

The axes of a call are looked up before the call, and secondary axes on the way to them
are created by that.  So the figure in front of a call is `onAxesOf call id`.
-/

namespace FigureScript

/-! ### Logarithmic axes -/

/-- The call wants an axis to be logarithmic. -/
def DrawCall.asksLog : DrawCall → Axis → Bool
  | .plot xlog _ _ _ _, .x => xlog
  | .plot _ ylog _ _ _, .y => ylog
  | _, _ => false

namespace Plot

/-- An axis of the chart is logarithmic. -/
def isLog (p : Plot) : Axis → Bool
  | .x => p.xlog
  | .y => p.ylog

/-- Sets the logarithmic axes that a call asks for. -/
def setLogOf (p : Plot) (call : DrawCall) : Plot :=
  p.setLog (call.asksLog .x) (call.asksLog .y)

theorem isLog_setLogOf (p : Plot) (call : DrawCall) (axis : Axis) :
    (p.setLogOf call).isLog axis = (p.isLog axis || call.asksLog axis) := by
  cases axis <;> rfl

/-- A call that asks for no other logarithmic axes than there are changes none. -/
theorem setLogOf_eq_self {p : Plot} {call : DrawCall}
    (h : ∀ axis, call.asksLog axis = true → p.isLog axis = true) : p.setLogOf call = p := by
  have hx : (p.xlog || call.asksLog .x) = p.xlog := Bool.or_eq_left_iff_imp.mpr (h .x)
  have hy : (p.ylog || call.asksLog .y) = p.ylog := Bool.or_eq_left_iff_imp.mpr (h .y)
  rw [setLogOf, setLog, hx, hy]

end Plot

namespace AxesRecorder

variable {a : AxesRecorder}

theorem attempt_of_error {step : Except Error (AxesRecorder × Log)} {e : Error}
    (h : (a.attempt step).2.result = .error e) : (a.attempt step).1 = a := by
  cases step with
  | ok result => cases h
  | error _ => rfl

/-- The logarithmic axes that a call asks for are there already, or they are a change. -/
theorem modifyPlot_setLogOf_eq_self_iff {call : DrawCall} :
    a.modifyPlot (·.setLogOf call) = a ↔
      ∀ axis, call.asksLog axis = true → a.plot.isLog axis = true := by
  constructor
  · intro h axis hasks
    have hlog := congrArg (fun axes => axes.plot.isLog axis) h
    change (a.plot.setLogOf call).isLog axis = a.plot.isLog axis at hlog
    rw [Plot.isLog_setLogOf, hasks, Bool.or_true] at hlog
    exact hlog.symm
  · intro h
    cases a
    exact congrArg (mk · _ _) (Plot.setLogOf_eq_self h)

/-- **What a failed call leaves behind** are the logarithmic axes that it asked for. -/
theorem apply_of_error {call : DrawCall} {e : Error} (h : (a.apply call).2.result = .error e) :
    (a.apply call).1 = a.modifyPlot (·.setLogOf call) := by
  cases call with
  | plot xlog ylog x y label => exact attempt_of_error h
  | errorBar x y yerr xerr label =>
      have hsame : a.modifyPlot (·.setLogOf (.errorBar x y yerr xerr label)) = a :=
        modifyPlot_setLogOf_eq_self_iff.mpr fun _ hasks => nomatch hasks
      rw [hsame]
      exact attempt_of_error h
  | field kind x y z zlog =>
      have hsame : a.modifyPlot (·.setLogOf (.field kind x y z zlog)) = a :=
        modifyPlot_setLogOf_eq_self_iff.mpr fun _ hasks => nomatch hasks
      rw [hsame]
      exact attempt_of_error h
  -- decorations do not fail
  | label axis text => cases h
  | title text => cases h
  | legend title => cases h
  | limits axis range => cases h
  | note note => cases h

end AxesRecorder

/-! ### Figures -/

/-- The call wants an axis to be logarithmic. -/
def FigureCall.asksLog : FigureCall → Axis → Bool
  | .draw _ call => call.asksLog
  | .subplots .. | .supTitle _ => fun _ => false

namespace FigureRecorder

variable {f : FigureRecorder}

/-- A change of the axes that a call goes to; other calls go to none. -/
def onAxesOf (f : FigureRecorder) (call : FigureCall) (g : AxesRecorder → AxesRecorder) :
    FigureRecorder :=
  match call with
  | .draw surface _ => f.modifyOn surface g
  | .subplots .. | .supTitle _ => f

/-- The axes that a call goes to. -/
def axesOf? (f : FigureRecorder) : FigureCall → Option AxesRecorder
  | .draw surface _ => f.axes? surface
  | .subplots .. | .supTitle _ => none

/-- Sets the logarithmic axes that a call asks for. -/
def setLogOf (f : FigureRecorder) (call : FigureCall) : FigureRecorder :=
  f.onAxesOf call (·.modifyPlot (·.setLog (call.asksLog .x) (call.asksLog .y)))

/-- A call that has failed has set the logarithmic axes it asked for, and nothing else. -/
theorem apply_eq_setLogOf {call : FigureCall} {e : Error}
    (h : (f.apply call).2.result = .error e) : (f.apply call).1 = f.setLogOf call := by
  cases call with
  | draw surface call =>
      rw [apply, draw_eq] at h ⊢
      refine modifyOn_congr fun axes haxes => ?_
      rw [haxes] at h
      exact AxesRecorder.apply_of_error h
  | subplots rows cols xshared yshared =>
      rw [apply] at h ⊢
      split at h
      next hempty =>
        rw [if_pos hempty]
        rfl
      next => cases h
  | supTitle text => cases h

/-- Setting the logarithmic axes of a call changes nothing when there are no others to
set. -/
theorem setLogOf_eq_iff {call : FigureCall} :
    f.setLogOf call = f.onAxesOf call id ↔
      ∀ axes ∈ f.axesOf? call, ∀ axis, call.asksLog axis = true → axes.plot.isLog axis = true := by
  cases call with
  | draw surface call =>
      change f.modifyOn surface (·.modifyPlot (·.setLogOf call)) = f.modifyOn surface id ↔
        ∀ axes ∈ f.axes? surface, _
      constructor
      · intro h axes haxes
        -- the axes of the surface are read back from both figures
        have hback := congrArg (·.axes? surface) h
        simp only [axes?_modifyOn] at hback
        rw [haxes] at hback
        exact AxesRecorder.modifyPlot_setLogOf_eq_self_iff.mp (Option.some.inj hback)
      · intro h
        exact modifyOn_congr fun axes haxes =>
          AxesRecorder.modifyPlot_setLogOf_eq_self_iff.mpr (h axes haxes)
  -- the other calls go to no axes
  | subplots rows cols xshared yshared => simp [setLogOf, onAxesOf, axesOf?]
  | supTitle text => simp [setLogOf, onAxesOf, axesOf?]

/-- **What a failed call leaves behind**: the figure as it was in front of the call, with
the logarithmic axes set that the call asked for.  So the figure is unchanged exactly when
these axes were logarithmic before. -/
theorem apply_of_failure {call : FigureCall} {e : Error}
    (h : (f.apply call).2.result = .error e) :
    (f.apply call).1 = f.setLogOf call ∧
      ((f.apply call).1 = f.onAxesOf call id ↔
        ∀ axes ∈ f.axesOf? call, ∀ axis, call.asksLog axis = true →
          axes.plot.isLog axis = true) := by
  have hstate := apply_eq_setLogOf h
  rw [hstate]
  exact ⟨rfl, setLogOf_eq_iff⟩

/-- A series on a logarithmic axis whose coordinates do not fit each other. -/
def unevenSemilogx : FigureCall :=
  .draw (.current []) (.plot true false (some [1]) [1, 2] none)

theorem apply_of_failure_unevenSemilogx :
    (apply {} unevenSemilogx).1 = setLogOf {} unevenSemilogx ∧
      (apply {} unevenSemilogx).1 ≠ onAxesOf {} unevenSemilogx id := by
  have hfails : (apply {} unevenSemilogx).2.result =
      .error (.schema (Location.ofSeries 0 ++ [.field "x"]) (.unevenCoordinates 1 2)) := rfl
  obtain ⟨hstate, hunchanged⟩ := apply_of_failure hfails
  refine ⟨hstate, fun h => ?_⟩
  cases hunchanged.mp h _ rfl .x rfl

/-- A failed call can change a figure that has been recorded. -/
theorem exists_failure_with_change :
    ¬ ∀ (calls : List FigureCall) (call : FigureCall) (e : Error),
      ((applyAll {} calls).apply call).2.result = .error e →
        ((applyAll {} calls).apply call).1 = (applyAll {} calls).onAxesOf call id := by
  intro h
  have hfigure := h [] unevenSemilogx _ rfl
  have hlog := congrArg (fun figure => figure.current.plot.xlog) hfigure
  cases hlog

end FigureRecorder

end FigureScript
