import FigureScript.Proofs.Figure.Located
import FigureScript.Proofs.Program.Compiled

/-!
# Checks made by a compilation

A compilation takes figures that nobody has checked, and makes the checks it needs on its
way: the shape of a grid, then the series of each chart.  Where nothing in a figure is
unsupported these are all the checks there are, so what is compiled and what is accepted are
the same figures, and for all others the two report the same violation.

## Main Definitions

* `Plot.Supported`, `Figure.Supported` — a figure in which nothing is unsupported

## Main Results

* `Plot.map_program_eq_check`, `Multiplot.map_program_eq_check`,
  `Figure.map_program_eq_check` — a compilation without its program is a check
* `Multiplot.exists_cell_of_check` — what the check of a grid finds beside its shape
* `Figure.program_fails_iff_check_fails` — the same figures fail, with the same report

## Design Notes

A compilation finds a violation in a chart and puts the cell in front of it on the way up;
the check of a grid hands the cell down.  That these are the same is said for a chart by
`Plot.check_inCell`.
-/

namespace FigureScript

open Outcome

/-! ### Charts -/

namespace Plot

/-- **A chart in which nothing is unsupported**: it has a series, and the secondary axis that
its series use is supported. -/
structure Supported (p : Plot) : Prop where
  series : p.series ≠ []
  secondary : ∃ secondary, p.secondary = .ok secondary

/-- **A supported chart is compiled** exactly as it is checked. -/
theorem map_program_eq_check {p : Plot} (h : p.Supported) (target : PlotTarget)
    (style : StyleCycle) : (p.program target style).map (fun _ => ()) = p.check [] := by
  obtain ⟨secondary, hsecondary⟩ := h.secondary
  have hseries : p.series.isEmpty = false := List.isEmpty_eq_false_iff.mpr h.series
  calc (p.program target style).map (fun _ => ())
      _ = (p.checkSeries [] >>= fun _ => pure (p.statements target style secondary)).map
          (fun _ => ()) := by rw [program, hsecondary]; rfl
      _ = (p.checkSeries []).map (fun _ => ()) := map_unit_bind_pure _ _
      _ = p.checkSeries [] := congrFun Except.map_id _
      _ = p.check [] := by rw [check, hseries]; rfl

end Plot

theorem Colorplot.map_program_eq_check (c : Colorplot) (axes : Axes) :
    (c.program axes).map (fun _ => ()) = c.check [] := by
  cases hcheck : c.check [] with
  | error e => rw [program, hcheck]; rfl
  | ok _ =>
      -- the shape is asked for again, and has been accepted
      obtain ⟨shape, hshape, -⟩ := bind_eq_ok.mp hcheck
      rw [program, hcheck, hshape]
      rfl

/-! ### Grids -/

namespace Multiplot

variable {m : Multiplot} (hcells : ∀ entry ∈ m.cells, ∃ p, entry.1 = .plot p ∧ p.Supported)
include hcells

/-- **A grid of supported charts is compiled** exactly as it is checked. -/
theorem map_program_eq_check (style : StyleCycle) (scaled tightLayout : Bool) :
    (m.program style scaled tightLayout).map (fun _ => ()) = m.check := by
  have hplots : m.checkCells = .ok () :=
    checkCells_eq_ok.mpr fun entry hentry => (hcells entry hentry).imp fun _ hp => hp.1
  have hcell (rows cols : Nat) : ∀ entry ∈ m.cells,
      (cellProgram style rows cols entry.1 entry.2.1 entry.2.2).map (fun _ => ()) =
        entry.1.check (.ofCell entry.2.1 entry.2.2) := by
    intro entry hentry
    obtain ⟨p, hp, hsupported⟩ := hcells entry hentry
    rw [hp]
    change ((p.program _ style).mapError _).map (fun _ => ()) = p.check (Location.ofCell _ _ ++ [])
    rw [map_mapError, Plot.map_program_eq_check hsupported, Plot.check_inCell]
  rw [program_eq, hplots, check, Outcome.map_bind]
  congr 1
  funext shape
  rw [← forM_congr (hcell shape.1 shape.2), ← map_mapM_unit]
  exact map_unit_bind_pure _ _

/-- **What the check of a grid finds** beside its shape stands in one of its charts. -/
theorem exists_cell_of_check {location : Location} {problem : Problem}
    (h : m.check = .error (.schema location problem)) :
    m.shape = .error (.schema location problem) ∨
      ∃ p i j rest, (.plot p, i, j) ∈ m.cells ∧ p.check [] = .error (.schema rest problem) ∧
        location.text = s!"plots[{i}][{j}]." ++ rest.text := by
  rcases bind_eq_error.mp h with h | ⟨_, -, h⟩
  · exact .inl h
  obtain ⟨⟨cell, i, j⟩, hmem, hcheck⟩ := exists_of_forM_eq_error h
  obtain ⟨p, rfl, -⟩ := hcells _ hmem
  have hcheck : p.check (Location.ofCell i j ++ []) = .error (.schema location problem) := hcheck
  rw [Plot.check_inCell] at hcheck
  obtain ⟨e, he, hlocated⟩ := mapError_eq_error.mp hcheck
  obtain ⟨rest, found, rfl⟩ := p.check_failsBelow [] e he
  cases hlocated
  exact .inr ⟨p, i, j, _, hmem, he, Location.text_inCell i j "series" rest⟩

end Multiplot

/-! ### Figures -/

namespace Figure

/-- **A figure in which nothing is unsupported**: a supported chart, a scalar field, or a
grid of supported charts that is not a single cell. -/
def Supported : Figure → Prop
  | plot p => p.Supported
  | colorplot _ => True
  | multiplot m =>
    m.singleCell? = none ∧ ∀ entry ∈ m.cells, ∃ p, entry.1 = .plot p ∧ p.Supported

/-- A supported figure is drawn as it is. -/
theorem Supported.drawn_eq {figure : Figure} (h : figure.Supported) : figure.drawn = figure := by
  cases figure with
  | plot p => rfl
  | colorplot c => rfl
  | multiplot m =>
      rw [drawn, h.1]
      rfl

/-- **A supported figure is compiled** exactly as it is checked. -/
theorem map_program_eq_check {figure : Figure} (h : figure.Supported) (name : String)
    (options : ProgramOptions) :
    (figure.program name options).map (fun _ => ()) = figure.check := by
  have hdrawing (style : StyleCycle) :
      (figure.drawingProgram style options).map (fun _ => ()) = figure.check := by
    cases figure with
    | plot p => exact Plot.map_program_eq_check h _ style
    | colorplot c => exact c.map_program_eq_check _
    | multiplot m => exact Multiplot.map_program_eq_check h.2 style _ _
  rw [program_eq, h.drawn_eq, ← hdrawing (.resolve figure.style options.overrides)]
  exact map_unit_bind_pure _ _

/-- **The same figures fail to be compiled and to be accepted**, of those in which nothing is
unsupported: the program has no other error than the check, and that is a violation of the
format.  In a grid whose shape is right it is one of a chart, written behind its cell. -/
theorem program_fails_iff_check_fails {figure : Figure} (h : figure.Supported) (name : String)
    (options : ProgramOptions) :
    ((∃ e, figure.program name options = .error e) ↔ ∃ e, figure.check = .error e) ∧
      (∀ e, figure.program name options = .error e →
        figure.check = .error e ∧ ∃ location problem, e = .schema location problem) ∧
      ∀ m, figure = .multiplot m → ∀ location problem,
        figure.program name options = .error (.schema location problem) →
          m.shape = .error (.schema location problem) ∨
            ∃ p i j rest, (.plot p, i, j) ∈ m.cells ∧
              p.check [] = .error (.schema rest problem) ∧
              location.text = s!"plots[{i}][{j}]." ++ rest.text := by
  have hsame : ∀ e, figure.program name options = .error e ↔ figure.check = .error e := by
    intro e
    rw [← map_program_eq_check h name options]
    cases figure.program name options <;> simp [Except.map]
  refine ⟨exists_congr hsame, fun e he => ?_, ?_⟩
  · have hcheck := (hsame e).mp he
    obtain ⟨rest, problem, rfl⟩ := figure.check_failsBelow e hcheck
    exact ⟨hcheck, _, problem, rfl⟩
  · rintro m rfl location problem he
    exact Multiplot.exists_cell_of_check h.2 ((hsame _).mp he)

/-- A grid of two charts, the second of which has coordinates that do not fit each other. -/
def gridWithUneven : Multiplot :=
  { plots :=
      [[.plot { series := [{ y := [1] }] },
        .plot { series := [{ y := [1] }, { x := some [1, 2, 3], y := [4, 5] }] }]] }

theorem program_fails_iff_check_fails_gridWithUneven :
    (multiplot gridWithUneven).Supported ∧
      ∃ location, (multiplot gridWithUneven).program "fig" {} =
          .error (.schema location (.unevenCoordinates 3 2)) ∧
        location.text = "plots[0][1].series[1].x" := by
  have hsupported : (multiplot gridWithUneven).Supported :=
    ⟨rfl, List.forall_mem_cons.mpr ⟨⟨_, rfl, List.cons_ne_nil _ _, none, rfl⟩,
      List.forall_mem_singleton.mpr ⟨_, rfl, List.cons_ne_nil _ _, none, rfl⟩⟩⟩
  have hcheck : (multiplot gridWithUneven).check = .error (.schema
      (Location.ofCell 0 1 ++ Location.ofSeries 1 ++ [.field "x"]) (.unevenCoordinates 3 2)) := rfl
  obtain ⟨hfails, hreport, -⟩ := program_fails_iff_check_fails hsupported "fig" {}
  obtain ⟨e, he⟩ := hfails.mpr ⟨_, hcheck⟩
  have hsame := (hreport e he).1
  rw [hcheck] at hsame
  cases hsame
  exact ⟨hsupported, _, he, rfl⟩

end Figure

end FigureScript
