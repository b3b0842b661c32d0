import FigureScript.Proofs.Program.DeclaredBeforeUse
import FigureScript.Proofs.Program.Skeleton

/-!
# Texts stay inside literals

No text of a figure reaches the code of its script.  If two compilations agree in
everything but the characters of their texts, then their scripts agree in everything but
the contents of their string literals.

## Main Results

* `Figure.namesQuoteFree_of_program` — the names in a program are made by the compiler
* `Figure.outline_script_eq` — the outline of a script is that of its blank program
* `Figure.script_confines_texts` — scripts of figures with the same skeleton

## Design Notes

Two facts meet here.  The outline of a script depends only on the blank form of its
program, because each text stands in a literal; and the blank form of a program depends
only on the skeleton of its figure, because no decision of the compiler reads a text.
-/

namespace FigureScript

open Outcome
open Text (QuoteFree outline)

/-! ### Names -/

/-- A statement that addresses no axes needs only its own names to hold no quote. -/
theorem Statement.NamesQuoteFree.of_axes?_eq_none {s : Statement} (haxes : s.axes? = none)
    (hnames : ∀ name ∈ s.names, QuoteFree name) : s.NamesQuoteFree := by
  refine ⟨fun a ha => ?_, hnames⟩
  rw [haxes] at ha
  cases ha

theorem Statement.NamesQuoteFree.of_chartAxes? {s : Statement} {a : Axes}
    (h : s.chartAxes? = some a) (ha : QuoteFree a.expression) : s.NamesQuoteFree := by
  have hnames : s.names = [] := by
    cases s <;> first | rfl | simp [chartAxes?] at h
  refine ⟨fun b hb => ?_, fun name hname => ?_⟩
  · rw [axes?_of_chartAxes? h] at hb
    cases hb
    exact ha
  · rw [hnames] at hname
    cases hname

theorem StaysOn.namesQuoteFree {allowed : List Axes} {statements : List Statement}
    (h : StaysOn allowed statements) (hallowed : ∀ a ∈ allowed, QuoteFree a.expression) :
    ∀ s ∈ statements, s.NamesQuoteFree := by
  intro s hs
  obtain ⟨a, ha, hchart⟩ := h s hs
  exact .of_chartAxes? hchart (hallowed a ha)

namespace Plot

variable {target : PlotTarget} (htarget : QuoteFree target.axes.expression)
include htarget

theorem quoteFree_primary (secondary : Option Secondary) :
    QuoteFree (PlotAxes.ofTarget target secondary).primary.expression := by
  unfold PlotAxes.ofTarget
  dsimp only
  split
  · decide
  · exact htarget

theorem quoteFree_of_mem_all (secondary : Option Secondary) :
    ∀ a ∈ (PlotAxes.ofTarget target secondary).all, QuoteFree a.expression := by
  have hprimary := quoteFree_primary htarget secondary
  intro a ha
  rw [PlotAxes.all, List.mem_cons, Option.mem_toList, PlotAxes.twin?] at ha
  rcases ha with rfl | htwin
  · exact hprimary
  · obtain ⟨s, -, rfl⟩ := Option.map_eq_some_iff.mp htwin
    exact Axes.quoteFree_twin hprimary s.adds

theorem namesQuoteFree_axesStatements (secondary : Option Secondary) :
    ∀ s ∈ axesStatements target (.ofTarget target secondary), s.NamesQuoteFree := by
  have hprimary := quoteFree_primary htarget secondary
  unfold axesStatements
  cases hsecondary : (PlotAxes.ofTarget target secondary).secondary with
  | none => exact fun s hs => nomatch hs
  | some twin =>
      dsimp only
      rw [List.forall_mem_append]
      constructor
      · split
        · intro s hs
          rw [List.mem_singleton] at hs
          rw [hs]
          exact .of_axes?_eq_none rfl (by decide)
        · exact fun s hs => nomatch hs
      · intro s hs
        rw [List.mem_singleton] at hs
        rw [hs]
        refine ⟨fun a ha => ?_, fun name hname => nomatch hname⟩
        cases ha
        exact hprimary

theorem namesQuoteFree_statements (p : Plot) (style : StyleCycle)
    (secondary : Option Secondary) :
    ∀ s ∈ p.statements target style secondary, s.NamesQuoteFree := by
  rw [statements_eq, List.forall_mem_append]
  exact ⟨namesQuoteFree_axesStatements htarget secondary,
    (p.chartSteps_staysOn _ _ _).namesQuoteFree (quoteFree_of_mem_all htarget secondary)⟩

end Plot

theorem Colorplot.namesQuoteFree_statements (c : Colorplot) (rows cols : Nat) :
    ∀ s ∈ c.statements .current rows cols, s.NamesQuoteFree := by
  have hcurrent : QuoteFree Axes.current.expression := by decide
  rw [statements_eq]
  simp only [List.forall_mem_append, List.forall_mem_singleton]
  refine ⟨?_, ⟨fun a ha => ?_, fun name hname => nomatch hname⟩, ?_, ?_⟩
  · unfold imports
    split
    · rw [List.forall_mem_singleton]
      exact .of_axes?_eq_none rfl (by decide)
    · exact fun s hs => nomatch hs
  · cases ha
    exact hcurrent
  · refine (c.decorations_staysOn .current).namesQuoteFree fun a ha => ?_
    rw [List.mem_singleton] at ha
    rw [ha]
    exact hcurrent
  · unfold explanation
    cases c.fieldKind with
    | mesh => exact .of_axes?_eq_none rfl (by decide)
    | contour => exact .of_axes?_eq_none rfl (by decide)
    | filled => exact .of_axes?_eq_none rfl (by decide)

namespace Multiplot

theorem namesQuoteFree_closing (m : Multiplot) (tightLayout : Bool) :
    ∀ s ∈ m.closing tightLayout, s.NamesQuoteFree := by
  intro s hs
  obtain ⟨text, rfl⟩ | rfl | ⟨between, rfl⟩ := mem_closing hs
  · exact .of_axes?_eq_none rfl fun name hname => nomatch hname
  · exact .of_axes?_eq_none rfl fun name hname => nomatch hname
  · exact .of_axes?_eq_none rfl fun name hname => nomatch hname

theorem IsBlock.namesQuoteFree {style : StyleCycle} {rows cols : Nat}
    {entry : Cell × Nat × Nat} {block : List Statement}
    (h : IsBlock style rows cols entry block) : ∀ s ∈ block, s.NamesQuoteFree := by
  obtain ⟨p, secondary, -, -, -, rfl⟩ := h
  have hcell : QuoteFree (PlotTarget.cell entry.2.1 entry.2.2 rows cols).axes.expression :=
    Axes.quoteFree_cellExpression entry.2.1 entry.2.2 rows cols
  exact p.namesQuoteFree_statements hcell style secondary

theorem namesQuoteFree_blocks {style : StyleCycle} {rows cols : Nat}
    {entries : List (Cell × Nat × Nat)} {blocks : List (List Statement)}
    (h : List.Forall₂ (IsBlock style rows cols) entries blocks) :
    ∀ s ∈ blocks.flatten, s.NamesQuoteFree :=
  forall_mem_blocks h fun _ _ hblock => hblock.namesQuoteFree

theorem namesQuoteFree_of_program {m : Multiplot} {style : StyleCycle}
    {scaled tightLayout : Bool} {program : List Statement}
    (h : m.program style scaled tightLayout = .ok program) :
    ∀ s ∈ program, s.NamesQuoteFree := by
  obtain ⟨rows, cols, blocks, -, hblocks, rfl⟩ := program_eq_ok h
  rw [List.forall_mem_cons, List.forall_mem_append]
  refine ⟨.of_axes?_eq_none rfl ?_, namesQuoteFree_blocks hblocks,
    m.namesQuoteFree_closing tightLayout⟩
  exact fun name hname => nomatch hname

end Multiplot

namespace Figure

theorem namesQuoteFree_of_drawingProgram {figure : Figure} {style : StyleCycle}
    {options : ProgramOptions} {drawing : List Statement}
    (h : figure.drawingProgram style options = .ok drawing) :
    ∀ s ∈ drawing, s.NamesQuoteFree := by
  cases figure with
  | plot p =>
      obtain ⟨secondary, -, -, rfl⟩ := Plot.program_eq_ok h
      exact p.namesQuoteFree_statements (by decide) style secondary
  | colorplot c =>
      obtain ⟨rows, cols, -, -, rfl⟩ := Colorplot.program_eq_ok h
      exact c.namesQuoteFree_statements rows cols
  | multiplot m => exact Multiplot.namesQuoteFree_of_program h

theorem namesQuoteFree_closing (figure : Figure) (name : String) (options : ProgramOptions) :
    ∀ s ∈ figure.closing name options, s.NamesQuoteFree := by
  intro s hs
  obtain rfl | rfl | ⟨title, rfl⟩ | ⟨path, rfl⟩ := mem_closing hs
  · exact .of_axes?_eq_none rfl fun name hname => nomatch hname
  · exact .of_axes?_eq_none rfl fun name hname => nomatch hname
  · exact .of_axes?_eq_none rfl fun name hname => nomatch hname
  · exact .of_axes?_eq_none rfl fun name hname => nomatch hname

/-- **The names in a program** hold no quote: they are all made by the compiler. -/
theorem namesQuoteFree_of_program {figure : Figure} {name : String} {options : ProgramOptions}
    {program : List Statement} (h : figure.program name options = .ok program) :
    ∀ s ∈ stepsOf program, s.NamesQuoteFree := by
  obtain ⟨drawing, hdrawing, rfl⟩ := program_eq_ok h
  have hbody : Declares (drawing ++ figure.drawn.closing name options) :=
    body_declares hdrawing
  -- the names of presets are texts, but no step has them
  rw [stepsOf_inPresets options.presets hbody.isScope_eq_false, List.forall_mem_append]
  exact ⟨namesQuoteFree_of_drawingProgram hdrawing,
    figure.drawn.namesQuoteFree_closing name options⟩

/-! ### Two runs -/

/-- **The outline of a script** is that of the blank form of its program. -/
theorem outline_script_eq (figure : Figure) (name : String) (options : ProgramOptions) :
    (figure.script name options).map outline =
      ((figure.program name options).map blankedAll).map (outline ∘ source) := by
  rw [script]
  cases h : figure.program name options with
  | error e => rfl
  | ok program =>
      exact congrArg Except.ok (outline_source_blankedAll (namesQuoteFree_of_program h))

/-- **No text escapes into code.**  Take two figures, two names and two sets of options
that agree in everything but the characters of their texts.  Then both compilations fail,
for the same reason, or the two scripts are equal once the contents of all string literals
are deleted. -/
theorem script_confines_texts {figure figure' : Figure} {name name' : String}
    {options options' : ProgramOptions} (hfigure : figure.skeleton = figure'.skeleton)
    (hoptions : options.skeleton = options'.skeleton) :
    (∃ e, figure.script name options = .error e ∧ figure'.script name' options' = .error e) ∨
      ∃ script script', figure.script name options = .ok script ∧
        figure'.script name' options' = .ok script' ∧ outline script = outline script' := by
  -- both outlines are computed from the skeleton alone, so they are one result
  have houtline : (figure.script name options).map outline =
      (figure'.script name' options').map outline := by
    rw [outline_script_eq, outline_script_eq, blanked_program figure name "",
      blanked_program figure' name' "", hfigure, hoptions]
  cases h : figure.script name options with
  | error e =>
      cases h' : figure'.script name' options' with
      | error e' =>
          rw [h, h'] at houtline
          exact .inl ⟨e, rfl, congrArg Except.error (Except.error.inj houtline).symm⟩
      | ok script' =>
          rw [h, h'] at houtline
          cases houtline
  | ok script =>
      cases h' : figure'.script name' options' with
      | error e' =>
          rw [h, h'] at houtline
          cases houtline
      | ok script' =>
          rw [h, h'] at houtline
          exact .inr ⟨script, script', rfl, rfl, Except.ok.inj houtline⟩

/-- A chart whose texts are given by one function, so that only they can vary. -/
def chartWithTexts (text : String → String) : Figure :=
  .plot
    { series := [{ y := [1, 2], label := some (text "label") }, { y := [3], yadded := some 1 }]
      title := some (text "title")
      yadded := [{ label := some (text "right") }]
      style := some { colors := some [text "red"] }
      epilog := [⟨1, 2, text "note"⟩] }

/-- A text that tries to end its literal. -/
def withQuotes (text : String) : String :=
  text ++ "\\\"), exit()\n\""

theorem script_confines_texts_withQuotes :
    ∃ script script',
      (chartWithTexts id).script "fig" { formats := ["pdf"] } = .ok script ∧
        (chartWithTexts withQuotes).script "fig\"\\" { formats := ["\")"] } = .ok script' ∧
        outline script = outline script' := by
  have hfigure : (chartWithTexts id).skeleton = (chartWithTexts withQuotes).skeleton := by
    decide +kernel
  have hoptions : ({ formats := ["pdf"] } : ProgramOptions).skeleton =
      ({ formats := ["\")"] } : ProgramOptions).skeleton := by
    decide +kernel
  obtain ⟨e, he, -⟩ | h := script_confines_texts hfigure hoptions
  · cases he
  · exact h

end Figure

end FigureScript
