import FigureScript.Proofs.Recorder.Grid

/-!
# Recorded figures

Every run of calls leaves a figure that keeps an invariant, so what can be said about its
check and its program is said without looking at the run again.

## Main Definitions

* `FigureRecorder.Sound` — the invariant
* `FigureRecorder.axes` — the axes whose charts make up the figure
* `FigureRecorder.Unsupported` — the figure holds what cannot be drawn

## Main Results

* `FigureRecorder.Sound.apply`, `FigureRecorder.Sound.applyAll` — a call keeps the
  invariant, and so does a run of calls
* `FigureRecorder.figure_applyAll` — what holds of the figure after any run

## Design Notes

Secondary axes that are created without a call on them need none of their own: a call on
them that changes nothing, such as `.legend none`, leaves the same state.
-/

namespace FigureScript

open Outcome

namespace Cell

theorem series_toFigure (cell : Cell) : cell.toFigure.series = cell.series := by
  cases cell <;> rfl

theorem colorplots_toFigure (cell : Cell) : cell.toFigure.colorplots = cell.colorplots := by
  cases cell <;> rfl

theorem check_toFigure (cell : Cell) : cell.toFigure.check = cell.check [] := by
  cases cell <;> rfl

theorem drawn_toFigure (cell : Cell) : cell.toFigure.drawn = cell.toFigure := by
  cases cell <;> rfl

end Cell

namespace FigureRecorder

variable {f : FigureRecorder}

/-! ### The invariant -/

/-- **The invariant of a recorded figure**: the current axes and the grid keep theirs. -/
structure Sound (f : FigureRecorder) : Prop where
  current : f.current.Sound
  grid : ∀ g ∈ f.grid, g.Sound

theorem sound_empty : Sound {} where
  current := AxesRecorder.sound_empty
  grid := fun _ hg => nomatch hg

namespace Sound

theorem draw (h : f.Sound) (surface : Surface) (call : DrawCall) :
    (f.draw surface call).1.Sound := by
  cases surface with
  | current path => exact ⟨h.current.applyAt path call, h.grid⟩
  | cell row col path =>
      simp only [FigureRecorder.draw]
      split
      next grid axes hgrid haxes =>
        -- the handle of a cell is looked up first, and a missing one changes nothing
        have hcell : axes.Sound := by
          rw [cell?, hgrid] at haxes
          exact (h.grid grid hgrid).get? haxes
        refine ⟨h.current, ?_⟩
        rintro _ ⟨⟩
        exact (h.grid grid hgrid).set row col (hcell.applyAt path call)
      next => exact h

/-- **A call keeps the invariant.** -/
theorem apply (h : f.Sound) (call : FigureCall) : (f.apply call).1.Sound := by
  cases call with
  | draw surface call => exact h.draw surface call
  | subplots rows cols xshared yshared =>
      rw [FigureRecorder.apply]
      split
      next => exact h
      next hsize =>
        rw [not_or] at hsize
        refine ⟨h.current, ?_⟩
        rintro _ ⟨⟩
        exact GridRecorder.sound_replicate hsize.1 hsize.2 xshared yshared
  | supTitle text => exact ⟨h.current, h.grid⟩

/-- **A run of calls keeps the invariant**, by induction on the run. -/
theorem applyAll (h : f.Sound) (calls : List FigureCall) : (f.applyAll calls).Sound := by
  induction calls generalizing f with
  | nil => exact h
  | cons call calls ih => exact ih (h.apply call)

end Sound

/-! ### The figure -/

/-- **The axes whose charts make up the figure**: the cells of the grid, or the current
ones without a grid. -/
def axes (f : FigureRecorder) : List AxesRecorder :=
  match f.grid with
  | none => [f.current]
  | some g => g.cells.flatten

theorem axes_of_grid {g : GridRecorder} (h : f.grid = some g) : f.axes = g.cells.flatten := by
  rw [axes, h]

theorem figure_of_grid {g : GridRecorder} (h : f.grid = some g) :
    f.figure = .multiplot (g.multiplot f.title) := by
  rw [figure, h]
  rfl

theorem axes_of_no_grid (h : f.grid = none) : f.axes = [f.current] := by
  rw [axes, h]

theorem figure_of_no_grid (h : f.grid = none) : f.figure = f.current.cell.toFigure := by
  rw [figure, h]

/-- **The figure holds what cannot be drawn**: a scalar field next to other charts, or a
chart with series on both of its secondary axes. -/
def Unsupported (f : FigureRecorder) : Prop :=
  (1 < f.axes.length ∧ ∃ a ∈ f.axes, a.field.isSome) ∨ ∃ a ∈ f.axes, a.Clashes

/-- The series of the figure are those of its charts. -/
theorem series_figure (f : FigureRecorder) :
    f.figure.series = f.axes.flatMap fun a => a.cell.series := by
  cases hgrid : f.grid with
  | none =>
      rw [figure_of_no_grid hgrid, axes_of_no_grid hgrid, Cell.series_toFigure,
        List.flatMap_singleton]
  | some g =>
      rw [figure_of_grid hgrid, axes_of_grid hgrid]
      change ((g.cells.map (List.map AxesRecorder.cell)).flatten).flatMap Cell.series = _
      rw [← List.map_flatten, List.flatMap_map]

/-- The scalar fields of the figure are those of its charts. -/
theorem colorplots_figure (f : FigureRecorder) :
    f.figure.colorplots = f.axes.flatMap fun a => a.cell.colorplots := by
  cases hgrid : f.grid with
  | none =>
      rw [figure_of_no_grid hgrid, axes_of_no_grid hgrid, Cell.colorplots_toFigure,
        List.flatMap_singleton]
  | some g =>
      rw [figure_of_grid hgrid, axes_of_grid hgrid]
      change ((g.cells.map (List.map AxesRecorder.cell)).flatten).flatMap Cell.colorplots = _
      rw [← List.map_flatten, List.flatMap_map]

namespace Sound

theorem axes (h : f.Sound) : ∀ a ∈ f.axes, a.Sound := by
  intro a ha
  cases hgrid : f.grid with
  | none =>
      rw [axes_of_no_grid hgrid, List.mem_singleton] at ha
      rw [ha]
      exact h.current
  | some g =>
      rw [axes_of_grid hgrid] at ha
      obtain ⟨row, hrow, ha⟩ := List.mem_flatten.mp ha
      exact (h.grid g hgrid).cells row hrow a ha

theorem series (h : f.Sound) : ∀ s ∈ f.figure.series, s.Recorded := by
  rw [series_figure]
  intro s hs
  obtain ⟨a, ha, hs⟩ := List.mem_flatMap.mp hs
  exact (h.axes a ha).cell_series s hs

theorem colorplots (h : f.Sound) : ∀ c ∈ f.figure.colorplots, c.Recorded := by
  rw [colorplots_figure]
  intro c hc
  obtain ⟨a, ha, hc⟩ := List.mem_flatMap.mp hc
  exact (h.axes a ha).cell_colorplots c hc

/-- **The check of the figure** fails only where a chart has no series. -/
theorem check (h : f.Sound) {e : Error} (hcheck : f.figure.check = .error e) :
    ∃ location, f.figure.LacksSeries location ∧
      e = .schema (location ++ .ofField "series") .noSeries := by
  cases hgrid : f.grid with
  | none =>
      rw [figure_of_no_grid hgrid] at hcheck ⊢
      rw [Cell.check_toFigure] at hcheck
      obtain ⟨⟨p, hplot, hseries⟩, rfl⟩ := h.current.check_cell hcheck
      rw [hplot]
      exact ⟨[], ⟨hseries, rfl⟩, rfl⟩
  | some g =>
      rw [figure_of_grid hgrid] at hcheck ⊢
      exact (h.grid g hgrid).check_multiplot hcheck

/-! ### The program -/

/-- What is drawn is the chart of single axes, or a grid of more. -/
theorem drawn (h : f.Sound) :
    (∃ a, f.axes = [a] ∧ f.figure.drawn = a.cell.toFigure) ∨
      ∃ g, f.grid = some g ∧ 1 < f.axes.length ∧
        f.figure.drawn = .multiplot (g.multiplot f.title) := by
  cases hgrid : f.grid with
  | none =>
      refine .inl ⟨f.current, axes_of_no_grid hgrid, ?_⟩
      rw [figure_of_no_grid hgrid, Cell.drawn_toFigure]
  | some g =>
      rw [axes_of_grid hgrid, figure_of_grid hgrid]
      by_cases hlength : 1 < g.cells.flatten.length
      · exact .inr ⟨g, rfl, hlength, GridRecorder.drawn_multiplot hlength⟩
      · obtain ⟨a, ha⟩ := (h.grid g hgrid).exists_cells_eq hlength
        refine .inl ⟨a, ?_, ?_⟩
        · rw [ha]
          rfl
        · rw [GridRecorder.multiplot, ha]
          rfl

variable {style : StyleCycle} {options : ProgramOptions}

/-- **A figure without what cannot be drawn is drawn.** -/
theorem drawingProgram (h : f.Sound) (hsupported : ¬ f.Unsupported) :
    ∃ statements, f.figure.drawn.drawingProgram style options = .ok statements := by
  rcases h.drawn with ⟨a, haxes, hdrawn⟩ | ⟨g, hgrid, hlength, hdrawn⟩
  · have hmem : a ∈ f.axes := haxes ▸ List.mem_singleton_self a
    have hsound : a.Sound := h.axes a hmem
    rw [hdrawn]
    cases hprogram : a.cell.toFigure.drawingProgram style options with
    | ok statements => exact ⟨statements, rfl⟩
    | error e =>
        have hoverloaded := (Cell.drawingProgram_eq_error hsound.partsValid_cell hprogram).1
        exact absurd (.inr ⟨a, hmem, hsound.overloaded_cell.mp hoverloaded⟩) hsupported
  · rw [hdrawn]
    refine (h.grid g hgrid).program_multiplot fun hunsupported => hsupported ?_
    obtain ⟨a, hmem, hcell⟩ := hunsupported
    rw [← axes_of_grid hgrid] at hmem
    rcases hcell with hfield | hclash
    · exact .inl ⟨hlength, a, hmem, hfield⟩
    · exact .inr ⟨a, hmem, hclash⟩

/-- A figure with what cannot be drawn is not. -/
theorem drawingProgram_of_unsupported (h : f.Sound) (hunsupported : f.Unsupported) :
    ∃ cause, f.figure.drawn.drawingProgram style options = .error (.unsupported cause) := by
  rcases h.drawn with ⟨a, haxes, hdrawn⟩ | ⟨g, hgrid, hlength, hdrawn⟩
  -- single axes can hold a scalar field, so only the clash is left
  · have hclash : a.Clashes := by
      rw [FigureRecorder.Unsupported, haxes] at hunsupported
      rcases hunsupported with ⟨hlength, -⟩ | ⟨b, hmem, hclash⟩
      · exact absurd hlength (Nat.lt_irrefl 1)
      · rw [List.mem_singleton.mp hmem] at hclash
        exact hclash
    have hsound : a.Sound := h.axes a (haxes ▸ List.mem_singleton_self a)
    rw [hdrawn]
    obtain ⟨e, he⟩ := (Cell.drawingProgram_fails_iff hsound.partsValid_cell).mpr
      (hsound.overloaded_cell.mpr hclash)
    obtain ⟨-, cause, rfl⟩ := Cell.drawingProgram_eq_error hsound.partsValid_cell he
    exact ⟨cause, he⟩
  · rw [hdrawn]
    refine (h.grid g hgrid).program_of_unsupported ?_
    rw [FigureRecorder.Unsupported, axes_of_grid hgrid] at hunsupported
    rcases hunsupported with ⟨-, a, hmem, hfield⟩ | ⟨a, hmem, hclash⟩
    · exact ⟨a, hmem, .inl hfield⟩
    · exact ⟨a, hmem, .inr hclash⟩

end Sound

/-- **What holds of the figure after any run of calls**, failing ones included.  Its
series and scalar fields are recorded ones.  Its check can fail only because a chart has no
series, and at the place of that chart.  Its program fails exactly when the figure holds
what cannot be drawn, and then with that reason. -/
theorem figure_applyAll (calls : List FigureCall) (name : String) (options : ProgramOptions) :
    let f := applyAll {} calls
    (∀ s ∈ f.figure.series, s.Recorded) ∧ (∀ c ∈ f.figure.colorplots, c.Recorded) ∧
      (∀ e, f.figure.check = .error e → ∃ location, f.figure.LacksSeries location ∧
        e = .schema (location ++ .ofField "series") .noSeries) ∧
      (f.Unsupported → ∃ cause, f.figure.program name options = .error (.unsupported cause)) ∧
      (¬ f.Unsupported → ∃ statements, f.figure.program name options = .ok statements) := by
  intro f
  have h : f.Sound := sound_empty.applyAll calls
  refine ⟨h.series, h.colorplots, fun e => h.check, fun hunsupported => ?_, fun hsupported => ?_⟩
  · obtain ⟨cause, hcause⟩ := h.drawingProgram_of_unsupported hunsupported
    refine ⟨cause, ?_⟩
    rw [Figure.program_eq, hcause]
    rfl
  · obtain ⟨drawing, hdrawing⟩ := h.drawingProgram hsupported
    rw [Figure.program_eq]
    exact ⟨_, bind_eq_ok.mpr ⟨drawing, hdrawing, rfl⟩⟩

/-- Series on both secondary axes, of which a figure can draw one only. -/
example : Unsupported (applyAll {}
    [.draw (.current [.x]) (.plot false false none [1] none),
      .draw (.current [.y]) (.plot false false none [2] none)]) := by
  refine .inr ⟨_, List.mem_singleton_self _, rfl, fun axis => ?_⟩
  cases axis <;> decide +kernel

end FigureRecorder

end FigureScript
