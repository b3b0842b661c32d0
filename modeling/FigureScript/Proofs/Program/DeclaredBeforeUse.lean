import FigureScript.Proofs.Program.Compiled
import FigureScript.Proofs.Program.Declaration

/-!
# Programs declare before they use

The programs of charts, scalar fields and grids, and of figures as a whole, declare
every name, twin, grid and import before it is used, and no handle twice.

## Main Results

* `Plot.readyFrom_statements`, `Plot.handles_statements_nodup` — a chart, wherever its
  target is available
* `Colorplot.readyFrom_statements` — a scalar field
* `Multiplot.program_declares` — a grid
* `Figure.program_declaresBeforeUse` — the complete program of a figure

## Design Notes

A chart is shown to be ready behind *any* statements that make its target available.
For a grid that is what the statement in front of all cells does, so the cells need no
induction of their own beyond the one over the list of blocks.
-/

namespace FigureScript

open Outcome

/-! ### Charts -/

namespace Plot

variable {before : List Statement} {target : PlotTarget}

/-- The statements that make the axes of a chart available are ready themselves. -/
theorem readyFrom_axesStatements (secondary : Option Secondary)
    (htarget : target.axes.Available before) :
    ReadyFrom before (axesStatements target (.ofTarget target secondary)) := by
  cases secondary with
  | none => trivial
  | some s =>
      cases hcurrent : target.axes.isCurrent with
      | true =>
          -- the current axes are given a name, and the twin is one of that name
          simp only [axesStatements, PlotAxes.ofTarget, hcurrent, Option.isSome_some,
            Bool.and_true, if_true, List.singleton_append]
          refine ⟨.of_axes?_eq_none rfl trivial, ?_, trivial⟩
          refine ⟨fun a ha => ?_, trivial⟩
          cases ha
          simp [Axes.Available]
      | false =>
          simp only [axesStatements, PlotAxes.ofTarget, hcurrent, Bool.and_false,
            Bool.false_eq_true, if_false, List.nil_append]
          refine ⟨⟨fun a ha => ?_, trivial⟩, trivial⟩
          cases ha
          exact htarget

/-- Behind them all axes of the chart are available. -/
theorem available_of_mem_all (secondary : Option Secondary)
    (htarget : target.axes.Available before) :
    ∀ a ∈ (PlotAxes.ofTarget target secondary).all,
      a.Available (before ++ axesStatements target (.ofTarget target secondary)) := by
  cases secondary with
  | none =>
      intro a ha
      simp only [PlotAxes.all, PlotAxes.ofTarget, PlotAxes.twin?, Option.isSome_none,
        Bool.false_and, Bool.false_eq_true, if_false, Option.map_none, Option.toList_none,
        List.mem_singleton] at ha
      subst ha
      simpa [axesStatements, PlotAxes.ofTarget] using htarget
  | some s =>
      cases hcurrent : target.axes.isCurrent with
      | true =>
          simp [PlotAxes.all, PlotAxes.ofTarget, PlotAxes.twin?, axesStatements, hcurrent,
            Axes.Available]
      | false =>
          -- the target has been available before the twin was created
          have hmono := htarget.mono (List.subset_append_left before
            [.createTwin target.axes s.adds])
          simpa [PlotAxes.all, PlotAxes.ofTarget, PlotAxes.twin?, axesStatements, hcurrent,
            Axes.Available] using hmono

/-- **A chart is ready** behind statements that make its target available. -/
theorem readyFrom_statements (p : Plot) (style : StyleCycle) (secondary : Option Secondary)
    (htarget : target.axes.Available before) :
    ReadyFrom before (p.statements target style secondary) := by
  rw [statements_eq, readyFrom_append]
  refine ⟨readyFrom_axesStatements secondary htarget, ?_⟩
  exact (p.chartSteps_staysOn _ _ _).readyFrom (available_of_mem_all secondary htarget)

/-- A chart declares what makes its axes available. -/
theorem handles_statements (p : Plot) (style : StyleCycle) (secondary : Option Secondary) :
    handles (p.statements target style secondary) =
      handles (axesStatements target (.ofTarget target secondary)) := by
  rw [statements_eq, handles_append, (p.chartSteps_staysOn _ _ _).handles_eq_nil,
    List.append_nil]

theorem handles_statements_nodup (p : Plot) (style : StyleCycle)
    (secondary : Option Secondary) : (handles (p.statements target style secondary)).Nodup := by
  rw [handles_statements]
  cases secondary with
  | none => exact List.nodup_nil
  | some s =>
      cases hcurrent : target.axes.isCurrent with
      | true =>
          simp [axesStatements, PlotAxes.ofTarget, handles, Statement.handle?, hcurrent]
      | false =>
          simp [axesStatements, PlotAxes.ofTarget, handles, Statement.handle?, hcurrent]

/-- A chart in a cell declares at most a twin of that cell. -/
theorem mem_handles_statements_cell {p : Plot} {style : StyleCycle}
    {secondary : Option Secondary} {row col rows cols : Nat} {handle : Handle}
    (h : handle ∈ handles (p.statements (.cell row col rows cols) style secondary)) :
    ∃ adds, handle = .axes ((Axes.cell row col rows cols).twin adds) := by
  rw [handles_statements] at h
  cases secondary with
  | none => exact absurd h List.not_mem_nil
  | some s =>
      refine ⟨s.adds, ?_⟩
      simpa [axesStatements, PlotAxes.ofTarget, handles, Statement.handle?, PlotTarget.cell,
        Axes.isCurrent] using h

theorem isScope_eq_false_of_mem_statements (p : Plot) (target : PlotTarget)
    (style : StyleCycle) (secondary : Option Secondary) :
    ∀ s ∈ p.statements target style secondary, s.isScope = false := by
  rw [statements_eq, List.forall_mem_append]
  refine ⟨?_, (p.chartSteps_staysOn _ _ _).isScope_eq_false⟩
  cases secondary with
  | none => simp [axesStatements, PlotAxes.ofTarget]
  | some s => cases hcurrent : target.axes.isCurrent <;>
      simp [axesStatements, PlotAxes.ofTarget, hcurrent, Statement.isScope]

end Plot

/-! ### Scalar fields -/

namespace Colorplot

/-- A logarithmic colour scale is used only when the field asks for one. -/
theorem zlog_of_norm_eq_log {c : Colorplot} {bounds : Option Range}
    (h : c.norm = .log bounds) : c.zlog = true := by
  unfold norm at h
  split at h
  · assumption
  · split at h
    · cases hrange : c.zrange <;> simp [hrange] at h
    · cases h

/-- What explains the values of a field stands behind a field of the fitting kind. -/
theorem explanation_ready (c : Colorplot) (axes : Axes) (rows cols : Nat)
    {before : List Statement} (h : .drawField (c.field axes rows cols) ∈ before) :
    c.explanation.Ready before := by
  have hkind : (c.field axes rows cols).kind = c.fieldKind := rfl
  unfold explanation
  cases hfield : c.fieldKind with
  | mesh => exact .of_axes?_eq_none rfl ⟨_, h, .inl (hkind.trans hfield)⟩
  | contour => exact .of_axes?_eq_none rfl ⟨_, h, hkind.trans hfield⟩
  | filled =>
      exact .of_axes?_eq_none rfl ⟨_, h, .inr (hkind.trans hfield)⟩

/-- **A scalar field is ready** where its axes are available. -/
theorem readyFrom_statements (c : Colorplot) {axes : Axes} {before : List Statement}
    (haxes : axes.Available before) (rows cols : Nat) :
    ReadyFrom before (c.statements axes rows cols) := by
  rw [statements_eq, readyFrom_append, readyFrom_append, readyFrom_append]
  refine ⟨?_, ?_, ?_, ?_⟩
  · unfold imports
    split
    · exact ⟨.of_axes?_eq_none rfl trivial, trivial⟩
    · trivial
  · refine ⟨⟨fun a ha => ?_, fun bounds hnorm => ?_⟩, trivial⟩
    · cases ha
      exact haxes.mono (List.subset_append_left _ _)
    · have hzlog := zlog_of_norm_eq_log (c := c) hnorm
      simp [imports, hzlog]
  · refine (c.decorations_staysOn axes).readyFrom fun a ha => ?_
    rw [List.mem_singleton] at ha
    rw [ha, List.append_assoc]
    exact haxes.mono (List.subset_append_left _ _)
  · refine ⟨c.explanation_ready axes rows cols ?_, trivial⟩
    simp

theorem handles_statements (c : Colorplot) (axes : Axes) (rows cols : Nat) :
    handles (c.statements axes rows cols) = [] := by
  rw [statements_eq, handles_append, handles_append, handles_append,
    (c.decorations_staysOn axes).handles_eq_nil]
  cases hzlog : c.zlog <;> cases hkind : c.fieldKind <;>
    simp [imports, explanation, hzlog, hkind, handles, Statement.handle?]

theorem isScope_eq_false_of_mem_statements (c : Colorplot) (axes : Axes) (rows cols : Nat) :
    ∀ s ∈ c.statements axes rows cols, s.isScope = false := by
  rw [statements_eq]
  simp only [List.forall_mem_append]
  refine ⟨?_, by simp [Statement.isScope], (c.decorations_staysOn axes).isScope_eq_false, ?_⟩
  · cases hzlog : c.zlog <;> simp [imports, hzlog, Statement.isScope]
  · cases hkind : c.fieldKind <;> simp [explanation, hkind, Statement.isScope]

end Colorplot

/-! ### Grids -/

namespace Multiplot

variable {style : StyleCycle} {rows cols : Nat} {entry : Cell × Nat × Nat}
  {block before : List Statement}

/-- **A block is ready** once the grid has been created and its place lies inside. -/
theorem IsBlock.readyFrom (h : IsBlock style rows cols entry block)
    (hcell : (Axes.cell entry.2.1 entry.2.2 rows cols).Available before) :
    ReadyFrom before block := by
  obtain ⟨p, secondary, -, -, -, rfl⟩ := h
  exact p.readyFrom_statements style secondary hcell

theorem IsBlock.handles_nodup (h : IsBlock style rows cols entry block) :
    (handles block).Nodup := by
  obtain ⟨p, secondary, -, -, -, rfl⟩ := h
  exact p.handles_statements_nodup style secondary

/-- A block declares at most a twin of its own cell. -/
theorem IsBlock.mem_handles (h : IsBlock style rows cols entry block) {handle : Handle}
    (hmem : handle ∈ handles block) :
    ∃ adds, handle = .axes ((Axes.cell entry.2.1 entry.2.2 rows cols).twin adds) := by
  obtain ⟨p, secondary, -, -, -, rfl⟩ := h
  exact Plot.mem_handles_statements_cell hmem

theorem IsBlock.isScope_eq_false (h : IsBlock style rows cols entry block) :
    ∀ s ∈ block, s.isScope = false := by
  obtain ⟨p, secondary, -, -, -, rfl⟩ := h
  exact p.isScope_eq_false_of_mem_statements _ style secondary

section Blocks

variable {entries : List (Cell × Nat × Nat)} {blocks : List (List Statement)}

theorem readyFrom_blocks (h : List.Forall₂ (IsBlock style rows cols) entries blocks)
    (hcells : ∀ entry ∈ entries, (Axes.cell entry.2.1 entry.2.2 rows cols).Available before) :
    ReadyFrom before blocks.flatten := by
  induction h generalizing before with
  | nil => trivial
  | @cons entry block entries blocks hblock _ ih =>
      rw [List.forall_mem_cons] at hcells
      rw [List.flatten_cons, readyFrom_append]
      refine ⟨hblock.readyFrom hcells.1, ih fun entry' hentry' => ?_⟩
      exact (hcells.2 entry' hentry').mono (List.subset_append_left _ _)

/-- What blocks declare are twins of their cells. -/
theorem mem_handles_blocks (h : List.Forall₂ (IsBlock style rows cols) entries blocks)
    {handle : Handle} (hmem : handle ∈ handles blocks.flatten) :
    ∃ entry ∈ entries, ∃ adds,
      handle = .axes ((Axes.cell entry.2.1 entry.2.2 rows cols).twin adds) := by
  induction h with
  | nil => exact absurd hmem List.not_mem_nil
  | @cons entry block entries blocks hblock _ ih =>
      rw [List.flatten_cons, handles_append, List.mem_append] at hmem
      rcases hmem with hmem | hmem
      · exact ⟨entry, List.mem_cons_self, hblock.mem_handles hmem⟩
      · obtain ⟨entry', hentry', hhandle⟩ := ih hmem
        exact ⟨entry', List.mem_cons_of_mem entry hentry', hhandle⟩

/-- Since no two cells stand at one place, no two blocks declare the same twin. -/
theorem handles_blocks_nodup (h : List.Forall₂ (IsBlock style rows cols) entries blocks)
    (hplaces : (entries.map (·.2)).Nodup) : (handles blocks.flatten).Nodup := by
  induction h with
  | nil => exact List.nodup_nil
  | @cons entry block entries blocks hblock hrest ih =>
      rw [List.map_cons, List.nodup_cons] at hplaces
      rw [List.flatten_cons, handles_append, List.nodup_append]
      refine ⟨hblock.handles_nodup, ih hplaces.2, ?_⟩
      rintro handle hhead handle' htail rfl
      -- a handle of two blocks is a twin of two cells, so these stand at one place
      obtain ⟨adds, hadds⟩ := hblock.mem_handles hhead
      obtain ⟨entry', hentry', adds', hadds'⟩ := mem_handles_blocks hrest htail
      have hsame := hadds.symm.trans hadds'
      simp only [Handle.axes.injEq, Axes.twin.injEq, Axes.cell.injEq] at hsame
      obtain ⟨⟨hrow, hcol, -, -⟩, -⟩ := hsame
      have hplace : entry.2 = entry'.2 := Prod.ext hrow hcol
      exact hplaces.1 (hplace ▸ List.mem_map_of_mem hentry')

theorem isScope_eq_false_of_mem_blocks
    (h : List.Forall₂ (IsBlock style rows cols) entries blocks) :
    ∀ s ∈ blocks.flatten, s.isScope = false :=
  forall_mem_blocks h fun _ _ hblock => hblock.isScope_eq_false

end Blocks

/-- What stands behind the blocks of a grid needs the grid at most. -/
theorem closing_standalone (m : Multiplot) (tightLayout : Bool) (hgrid : GridCreated before) :
    ∀ s ∈ m.closing tightLayout, s.Ready before ∧ s.handle? = none ∧ s.isScope = false := by
  intro s hs
  obtain ⟨text, rfl⟩ | rfl | ⟨between, rfl⟩ := mem_closing hs
  · exact ⟨.of_axes?_eq_none rfl hgrid, rfl, rfl⟩
  · exact ⟨.of_axes?_eq_none rfl trivial, rfl, rfl⟩
  · exact ⟨.of_axes?_eq_none rfl hgrid, rfl, rfl⟩

end Multiplot

/-! ### Figures -/

/-- A complete list of statements outside style scopes that declares before it uses. -/
structure Declares (statements : List Statement) : Prop where
  ready : ReadyFrom [] statements
  handles_nodup : (handles statements).Nodup
  isScope_eq_false : ∀ s ∈ statements, s.isScope = false

/-- Statements that need no more than what stands before them, and declare nothing, can be
added at the end. -/
theorem Declares.append {first second : List Statement} (h : Declares first)
    (hsecond : ∀ s ∈ second, s.Ready first ∧ s.handle? = none ∧ s.isScope = false) :
    Declares (first ++ second) := by
  have hhandles : handles second = [] :=
    List.filterMap_eq_nil_iff.mpr fun s hs => (hsecond s hs).2.1
  refine ⟨?_, ?_, ?_⟩
  · rw [readyFrom_append]
    exact ⟨h.ready, readyFrom_of_forall fun s hs => (hsecond s hs).1⟩
  · rw [handles_append, hhandles, List.append_nil]
    exact h.handles_nodup
  · rw [List.forall_mem_append]
    exact ⟨h.isScope_eq_false, fun s hs => (hsecond s hs).2.2⟩

/-- **The program of a grid** declares before it uses: the axes of all cells come first. -/
theorem Multiplot.program_declares {m : Multiplot} {style : StyleCycle}
    {scaled tightLayout : Bool} {program : List Statement}
    (h : m.program style scaled tightLayout = .ok program) : Declares program := by
  obtain ⟨rows, cols, blocks, hshape, hblocks, rfl⟩ := program_eq_ok h
  rw [← List.cons_append]
  have hgrid : GridCreated
      (.createAxes rows cols m.xshared m.yshared scaled :: blocks.flatten) :=
    ⟨rows, cols, m.xshared, m.yshared, scaled, List.mem_cons_self⟩
  refine Declares.append ⟨⟨.of_axes?_eq_none rfl trivial, ?_⟩, ?_, ?_⟩
    (m.closing_standalone tightLayout hgrid)
  · refine readyFrom_blocks hblocks fun entry hentry => ?_
    exact ⟨⟨m.xshared, m.yshared, scaled, List.mem_cons_self⟩, lt_of_mem_cells hshape hentry⟩
  · change (Handle.grid :: handles blocks.flatten).Nodup
    rw [List.nodup_cons]
    refine ⟨fun hmem => ?_, handles_blocks_nodup hblocks m.places_nodup⟩
    -- the blocks declare twins, and a grid is none
    obtain ⟨entry, -, adds, hadds⟩ := mem_handles_blocks hblocks hmem
    cases hadds
  · rw [List.forall_mem_cons]
    exact ⟨rfl, isScope_eq_false_of_mem_blocks hblocks⟩

namespace Figure

theorem drawingProgram_declares {figure : Figure} {style : StyleCycle}
    {options : ProgramOptions} {drawing : List Statement}
    (h : figure.drawingProgram style options = .ok drawing) : Declares drawing := by
  cases figure with
  | plot p =>
      obtain ⟨secondary, -, -, rfl⟩ := Plot.program_eq_ok h
      exact ⟨p.readyFrom_statements style secondary trivial,
        p.handles_statements_nodup style secondary,
        p.isScope_eq_false_of_mem_statements _ style secondary⟩
  | colorplot c =>
      obtain ⟨rows, cols, -, -, rfl⟩ := Colorplot.program_eq_ok h
      have hcurrent : Axes.current.Available [] := trivial
      refine ⟨c.readyFrom_statements hcurrent rows cols, ?_,
        c.isScope_eq_false_of_mem_statements _ rows cols⟩
      rw [c.handles_statements]
      exact List.nodup_nil
  | multiplot m => exact Multiplot.program_declares h

/-- What is done with the finished picture needs nothing and declares nothing. -/
theorem closing_standalone (figure : Figure) (name : String) (options : ProgramOptions)
    (before : List Statement) :
    ∀ s ∈ figure.closing name options,
      s.Ready before ∧ s.handle? = none ∧ s.isScope = false := by
  intro s hs
  obtain rfl | rfl | ⟨title, rfl⟩ | ⟨path, rfl⟩ := mem_closing hs
  · exact ⟨.of_axes?_eq_none rfl trivial, rfl, rfl⟩
  · exact ⟨.of_axes?_eq_none rfl trivial, rfl, rfl⟩
  · exact ⟨.of_axes?_eq_none rfl trivial, rfl, rfl⟩
  · exact ⟨.of_axes?_eq_none rfl trivial, rfl, rfl⟩

/-- The statements of a script, without its style presets. -/
theorem body_declares {figure : Figure} {name : String} {options : ProgramOptions}
    {drawing : List Statement}
    (h : figure.drawn.drawingProgram (.resolve figure.drawn.style options.overrides) options =
      .ok drawing) : Declares (drawing ++ figure.drawn.closing name options) :=
  (drawingProgram_declares h).append (figure.drawn.closing_standalone name options drawing)

/-- **Every program declares before it uses.**  Whatever figure, name and options it is
made for: inside the style presets, each statement stands behind the names, twins, grid
and imports that it refers to, and no handle is declared twice. -/
theorem program_declaresBeforeUse {figure : Figure} {name : String} {options : ProgramOptions}
    {program : List Statement} (h : figure.program name options = .ok program) :
    DeclaresBeforeUse program := by
  obtain ⟨drawing, hdrawing, rfl⟩ := program_eq_ok h
  have hbody : Declares (drawing ++ figure.drawn.closing name options) :=
    body_declares hdrawing
  have hsteps := stepsOf_inPresets options.presets hbody.isScope_eq_false
  constructor
  -- the steps inside the presets are the body, and that is ready as a whole
  · intro before s after hsplit
    have hready := hbody.ready
    rw [hsteps] at hsplit
    rw [hsplit] at hready
    exact hready.ready_at
  · rw [hsteps]
    exact hbody.handles_nodup

/-- A grid of two charts under a style preset, the second one with a secondary axis. -/
def gridWithTwin : Figure :=
  .multiplot
    { plots :=
        [[.plot { series := [{ y := [1, 2] }] },
          .plot { series := [{ y := [3] }, { y := [4], yadded := some 1, label := some "b" }] }]]
      title := some "T"
      joined := some ⟨true, false⟩ }

theorem program_declaresBeforeUse_gridWithTwin :
    ∃ program, gridWithTwin.program "fig" { presets := ["bmh"], formats := ["pdf"] } = .ok program ∧
      DeclaresBeforeUse program := by
  have h : gridWithTwin.program "fig" { presets := ["bmh"], formats := ["pdf"] } = .ok _ := rfl
  exact ⟨_, h, program_declaresBeforeUse h⟩

end Figure

end FigureScript
