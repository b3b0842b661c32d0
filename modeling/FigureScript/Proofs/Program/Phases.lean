import FigureScript.Proofs.Program.DeclaredBeforeUse
import FigureScript.Proofs.Program.Retained

/-!
# The phases of a script

A script draws its picture, fits the layout, closes the gaps of a grid, and only then shows or
saves what it has drawn, all of it inside one style scope where presets are asked for.  The
name, the file formats and the presets have no part in the picture.

## Main Definitions

* `Phase`, `Statement.phase` — the phase that a statement belongs to
* `InPhases` — a picture in the order of its phases
* `Ends`, `InScope`, `ScriptOf` — what becomes of a picture under a name

## Main Results

* `Plot.phase_of_mem_statements`, `Colorplot.phase_of_mem_statements` — charts and fields are
  all drawing
* `Multiplot.inPhases_program` — a grid closes its gaps behind the fitted layout
* `Figure.program_inPhases` — the script of a figure

## Design Notes

The layout is fitted by the script of a grid before its gaps are closed, and by the complete
script for everything else.  `Figure.picture` is where the two meet: behind it there is only
what is done with the picture.
-/

namespace FigureScript

open Outcome

/-- **A phase of a script.** -/
inductive Phase where
  /-- Style presets are put in force. -/
  | scope
  /-- Axes are made, drawn into and decorated. -/
  | drawing
  | layout
  | gaps
  /-- The picture is shown or saved. -/
  | output
  deriving DecidableEq

/-- **The phase that a statement belongs to**: drawing, unless it is about the picture as a
whole. -/
def Statement.phase : Statement → Phase
  | styleScope _ _ => .scope
  | tightLayout => .layout
  | collapseSpacing _ => .gaps
  | setWindowTitle _ | showFigure | saveFigure _ => .output
  | _ => .drawing

/-- **A picture in the order of its phases**: all that is drawn, the fitted layout once if it
is asked for, then the closed gaps. -/
def InPhases (tightLayout : Bool) (picture : List Statement) : Prop :=
  ∃ drawing gaps, picture = drawing ++ (if tightLayout then [.tightLayout] else []) ++ gaps ∧
    (∀ s ∈ drawing, s.phase = .drawing) ∧ ∀ s ∈ gaps, s.phase = .gaps

/-- **What is done with a picture**: without a format it is shown under its name, otherwise it
is saved once in each. -/
inductive Ends (name : String) : List String → List Statement → Prop where
  | shown : Ends name [] [.setWindowTitle name, .showFigure]
  | saved (format : String) (formats : List String) :
      Ends name (format :: formats)
        ((format :: formats).map fun format => .saveFigure (name ++ "." ++ format))

/-- **A script around its body**: the body alone, or one scope that holds all presets. -/
inductive InScope (body : List Statement) : List String → List Statement → Prop where
  | bare : InScope body [] body
  | scoped (preset : String) (presets : List String) :
      InScope body (preset :: presets) [.styleScope (preset :: presets) body]

/-- **A script of a picture** under a name. -/
def ScriptOf (picture : List Statement) (name : String) (presets formats : List String)
    (program : List Statement) : Prop :=
  ∃ ending, Ends name formats ending ∧ InScope (picture ++ ending) presets program

namespace Statement

/-- What draws a part of a chart belongs to the drawing. -/
theorem phase_of_part? {s : Statement} {primary : Axes} {k : ChartPart}
    (h : s.part? primary = some k) : s.phase = .drawing := by
  cases s <;> first | rfl | cases h

theorem phase_of_chartAxes? {s : Statement} {axes : Axes} (h : s.chartAxes? = some axes) :
    s.phase = .drawing := by
  cases s <;> first | rfl | cases h

end Statement

/-- A picture is neither shown nor saved. -/
theorem InPhases.phase_ne_output {tightLayout : Bool} {picture : List Statement}
    (h : InPhases tightLayout picture) : ∀ s ∈ picture, s.phase ≠ .output := by
  obtain ⟨drawing, gaps, rfl, hdrawing, hgaps⟩ := h
  simp only [List.forall_mem_append]
  refine ⟨⟨fun s hs => ?_, ?_⟩, fun s hs => ?_⟩
  · rw [hdrawing s hs]
    exact nofun
  · cases tightLayout <;> simp [Statement.phase]
  · rw [hgaps s hs]
    exact nofun

/-- What is done with a picture shows it or saves it. -/
theorem Ends.phase_eq {name : String} {formats : List String} {ending : List Statement}
    (h : Ends name formats ending) : ∀ s ∈ ending, s.phase = .output := by
  cases h with
  | shown => simp [Statement.phase]
  | saved format formats =>
      rw [List.forall_mem_map]
      exact fun _ _ => rfl

/-! ### Charts and fields -/

/-- **A chart is all drawing.** -/
theorem Plot.phase_of_mem_statements (p : Plot) (target : PlotTarget) (style : StyleCycle)
    (secondary : Option Secondary) :
    ∀ s ∈ p.statements target style secondary, s.phase = .drawing := by
  rw [statements_eq_flatMap, List.forall_mem_flatMap]
  exact fun k _ s hs => Statement.phase_of_part? (p.ofPart_part target style _ k s hs)

/-- **A field is all drawing.** -/
theorem Colorplot.phase_of_mem_statements (c : Colorplot) (axes : Axes) (rows cols : Nat) :
    ∀ s ∈ c.statements axes rows cols, s.phase = .drawing := by
  simp only [statements_eq, List.forall_mem_append, List.forall_mem_singleton]
  refine ⟨?_, rfl, fun s hs => ?_, ?_⟩
  · unfold imports
    split
    next => exact List.forall_mem_singleton.mpr rfl
    next => exact List.forall_mem_nil _
  · obtain ⟨a, -, ha⟩ := c.decorations_staysOn axes s hs
    exact Statement.phase_of_chartAxes? ha
  · unfold explanation
    split <;> rfl

/-! ### Grids -/

namespace Multiplot

theorem IsBlock.phase_eq {style : StyleCycle} {rows cols : Nat} {entry : Cell × Nat × Nat}
    {block : List Statement} (h : IsBlock style rows cols entry block) :
    ∀ s ∈ block, s.phase = .drawing := by
  obtain ⟨p, secondary, -, -, -, rfl⟩ := h
  exact p.phase_of_mem_statements _ style secondary

theorem phase_of_mem_spacing (joined : Option Joined) : ∀ s ∈ spacing joined, s.phase = .gaps := by
  cases joined with
  | none => exact List.forall_mem_nil _
  | some joined =>
      simp only [spacing, List.forall_mem_append]
      constructor
      · cases joined.vertical <;> simp [Statement.phase]
      · cases joined.horizontal <;> simp [Statement.phase]

/-- **A grid closes its gaps** behind the fitted layout, and that stands behind its cells. -/
theorem inPhases_program {m : Multiplot} {style : StyleCycle} {scaled tightLayout : Bool}
    {program : List Statement} (h : m.program style scaled tightLayout = .ok program) :
    InPhases tightLayout program := by
  obtain ⟨rows, cols, blocks, -, hblocks, rfl⟩ := program_eq_ok h
  refine ⟨.createAxes rows cols m.xshared m.yshared scaled ::
    (blocks.flatten ++ (m.title.map .supTitle).toList), spacing m.joined, ?_, ?_,
    phase_of_mem_spacing m.joined⟩
  · simp only [closing, List.cons_append, List.append_assoc]
  · simp only [List.forall_mem_cons, List.forall_mem_append]
    refine ⟨rfl, forall_mem_blocks hblocks fun _ _ hblock => hblock.phase_eq, ?_⟩
    cases m.title <;> simp [Statement.phase]

end Multiplot

/-! ### Figures -/

namespace Figure

/-- A drawing without a grid leaves the layout to the complete script. -/
def picture (figure : Figure) (options : ProgramOptions) (drawing : List Statement) :
    List Statement :=
  drawing ++ if options.tightLayout && !figure.isGrid then [.tightLayout] else []

theorem inPhases_picture {figure : Figure} {style : StyleCycle} {options : ProgramOptions}
    {drawing : List Statement} (h : figure.drawingProgram style options = .ok drawing) :
    InPhases options.tightLayout (figure.picture options drawing) := by
  have halone (hgrid : figure.isGrid = false) (hdrawing : ∀ s ∈ drawing, s.phase = .drawing) :
      InPhases options.tightLayout (figure.picture options drawing) := by
    refine ⟨drawing, [], ?_, hdrawing, List.forall_mem_nil _⟩
    rw [picture, hgrid, Bool.not_false, Bool.and_true, List.append_nil]
  cases figure with
  | plot p =>
      obtain ⟨secondary, -, -, rfl⟩ := Plot.program_eq_ok h
      exact halone rfl (p.phase_of_mem_statements _ style secondary)
  | colorplot c =>
      obtain ⟨rows, cols, -, -, rfl⟩ := Colorplot.program_eq_ok h
      exact halone rfl (c.phase_of_mem_statements _ rows cols)
  | multiplot m =>
      have hpicture : (multiplot m).picture options drawing = drawing := by
        simp [picture, isGrid]
      rw [hpicture]
      exact Multiplot.inPhases_program h

theorem ends_output (name : String) (formats : List String) :
    Ends name formats (output name formats) := by
  cases formats with
  | nil => exact .shown
  | cons format formats => exact .saved format formats

theorem inScope_inPresets (presets : List String) (body : List Statement) :
    InScope body presets (inPresets presets body) := by
  cases presets with
  | nil => exact .bare
  | cons preset presets => exact .scoped preset presets

/-- **What a script does with its picture** is all that it shows or saves. -/
theorem outputs_of_program {figure : Figure} {name : String} {options : ProgramOptions}
    {program : List Statement} (h : figure.program name options = .ok program) :
    (stepsOf program).filter (·.phase = .output) = output name options.formats := by
  obtain ⟨drawing, hdrawing, rfl⟩ := program_eq_ok h
  have hpicture : (figure.drawn.picture options drawing).filter (·.phase = .output) = [] := by
    rw [List.filter_eq_nil_iff]
    exact fun s hs => by simpa using (inPhases_picture hdrawing).phase_ne_output s hs
  have houtput : (output name options.formats).filter (·.phase = .output) =
      output name options.formats := by
    rw [List.filter_eq_self]
    exact fun s hs => decide_eq_true ((ends_output name options.formats).phase_eq s hs)
  rw [stepsOf_inPresets options.presets (body_declares hdrawing).isScope_eq_false, closing,
    ← List.append_assoc, List.filter_append, houtput]
  rw [picture] at hpicture
  rw [hpicture, List.nil_append]

/-- The presets and formats of a script have no part in the drawing. -/
theorem drawingProgram_withOutput (figure : Figure) (style : StyleCycle)
    (options : ProgramOptions) (presets formats : List String) :
    figure.drawingProgram style { options with presets, formats } =
      figure.drawingProgram style options := by
  cases figure <;> rfl

/-- **The script of a figure**, in its phases: the picture, then what is done with it, in one
style scope or none.  The same picture is made under every name, for all formats and presets. -/
theorem program_inPhases {figure : Figure} {name : String} {options : ProgramOptions}
    {program : List Statement} (h : figure.program name options = .ok program) :
    ∃ picture, InPhases options.tightLayout picture ∧
      ScriptOf picture name options.presets options.formats program ∧
      ∀ name' presets formats, ∃ program',
        figure.program name' { options with presets, formats } = .ok program' ∧
          ScriptOf picture name' presets formats program' := by
  obtain ⟨drawing, hdrawing, rfl⟩ := program_eq_ok h
  have hscript (name presets formats) :
      ScriptOf (figure.drawn.picture options drawing) name presets formats (inPresets presets
        (drawing ++ figure.drawn.closing name { options with presets, formats })) := by
    refine ⟨output name formats, ends_output name formats, ?_⟩
    rw [picture, List.append_assoc]
    exact inScope_inPresets presets _
  refine ⟨_, inPhases_picture hdrawing, hscript name options.presets options.formats,
    fun name' presets formats => ⟨_, ?_, hscript name' presets formats⟩⟩
  rw [program_eq, drawingProgram_withOutput, hdrawing]
  rfl

/-- A row of two charts whose gap is closed. -/
def joinedRow : Figure :=
  .multiplot
    { plots := [[.plot { series := [{ y := [1] }] }, .plot { series := [{ y := [2] }] }]]
      title := some "T"
      joined := some ⟨true, false⟩ }

/-- The layout is fitted once, between the title and the closed gap, and with presets and
formats the picture is the same. -/
theorem program_inPhases_joinedRow :
    ∃ program, joinedRow.program "fig" { tightLayout := true } = .ok program ∧
      ∃ picture, InPhases true picture ∧ ScriptOf picture "fig" [] [] program ∧
        ∃ program', joinedRow.program "out"
            { tightLayout := true, presets := ["bmh"], formats := ["pdf", "png"] } = .ok program' ∧
          ScriptOf picture "out" ["bmh"] ["pdf", "png"] program' := by
  have hprogram : joinedRow.program "fig" { tightLayout := true } = .ok _ := rfl
  obtain ⟨picture, hphases, hscript, hother⟩ := program_inPhases hprogram
  exact ⟨_, hprogram, picture, hphases, hscript, hother "out" ["bmh"] ["pdf", "png"]⟩

end Figure

end FigureScript
