import FigureScript.Program.OfFigure
import FigureScript.Proofs.Figure.Grid
import FigureScript.Proofs.Program.Addressing

/-!
# Declaration before use

A script binds names, creates grids and twins, and imports a colour scale; everything
else refers to these.  Here it is said what a statement needs to have been declared
before it, and shown that the program of every figure declares all of that in time
and nothing twice.

## Main Definitions

* `stepsOf` — the statements of a program, looking inside its style scopes
* `Axes.Available`, `Statement.Ready` — what earlier statements have to provide
* `DeclaresBeforeUse` — every statement is ready where it stands, and no handle is
  declared twice

## Main Results

* `readyFrom_append`, `readyFrom_of_forall` — readiness of sections
* `StaysOn.readyFrom` — steps of a chart are ready where its axes are available
* `Figure.stepsOf_inPresets` — style presets add no steps

## Design Notes

Readiness only ever asks that something stands among the earlier statements, so it is
monotone in them, and a section whose statements are all ready at its start stays
ready inside.  That is why no proof below goes through a section step by step.
-/

namespace FigureScript

open Outcome

/-! ### Steps, handles, and what is addressed -/

mutual

/-- The steps that a statement takes; a style scope takes those of its body. -/
def Statement.steps : Statement → List Statement
  | .styleScope _ body => stepsOf body
  | statement => [statement]

/-- **The steps of a program**, looking inside its style scopes. -/
def stepsOf : List Statement → List Statement
  | [] => []
  | statement :: rest => statement.steps ++ stepsOf rest

end

/-- What later statements can refer to. -/
inductive Handle where
  | axes (axes : Axes)
  | grid
  deriving DecidableEq

namespace Statement

/-- The handle that a statement declares. -/
def handle? : Statement → Option Handle
  | bindAxes name => some (.axes (.named name))
  | createTwin parent adds => some (.axes (parent.twin adds))
  | createAxes _ _ _ _ _ => some .grid
  | _ => none

/-- **The axes that a statement addresses.** -/
def axes? : Statement → Option Axes
  | createTwin parent _ => some parent
  | drawField field => some field.axes
  | statement => statement.chartAxes?

/-- A style scope. -/
def isScope : Statement → Bool
  | styleScope _ _ => true
  | _ => false

end Statement

/-- The statement that creates the grid stands among earlier ones. -/
def GridCreated (before : List Statement) : Prop :=
  ∃ rows cols xshared yshared scaled,
    Statement.createAxes rows cols xshared yshared scaled ∈ before

/-- **The axes can be used** behind some statements: a name has been bound, a twin and
its parent have been created, a cell lies inside the grid that has been created. -/
def Axes.Available (before : List Statement) : Axes → Prop
  | current => True
  | named name => .bindAxes name ∈ before
  | cell row col rows cols =>
    (∃ xshared yshared scaled, .createAxes rows cols xshared yshared scaled ∈ before) ∧
      row < rows ∧ col < cols
  | twin parent adds => .createTwin parent adds ∈ before ∧ parent.Available before

namespace Statement

/-- What a statement needs besides its axes has been provided. -/
def Supplied (before : List Statement) : Statement → Prop
  | drawField field =>
    ∀ bounds, field.norm = .log bounds → .importName "matplotlib.colors" "LogNorm" ∈ before
  | contourLabels => ∃ field, .drawField field ∈ before ∧ field.kind = .contour
  | colorbar => ∃ field, .drawField field ∈ before ∧ (field.kind = .mesh ∨ field.kind = .filled)
  | supTitle _ => GridCreated before
  | collapseSpacing _ => GridCreated before
  | _ => True

/-- **A statement may stand** behind some others. -/
structure Ready (before : List Statement) (s : Statement) : Prop where
  axes : ∀ a, s.axes? = some a → a.Available before
  supplied : s.Supplied before

end Statement

/-- Statements that may stand, in their order, behind some others. -/
def ReadyFrom (before : List Statement) : List Statement → Prop
  | [] => True
  | s :: rest => s.Ready before ∧ ReadyFrom (before ++ [s]) rest

/-- The handles that statements declare. -/
def handles (statements : List Statement) : List Handle :=
  statements.filterMap Statement.handle?

/-- **A program declares before it uses**: each of its steps may stand where it does,
and no handle is declared twice. -/
structure DeclaresBeforeUse (program : List Statement) : Prop where
  ready : ∀ before s after, stepsOf program = before ++ s :: after → s.Ready before
  handles_nodup : (handles (stepsOf program)).Nodup

/-! ### Readiness is monotone -/

section Monotone

variable {before before' : List Statement}

theorem Axes.Available.mono (hsub : before ⊆ before') {axes : Axes}
    (h : axes.Available before) : axes.Available before' := by
  induction axes with
  | current => trivial
  | named name => exact hsub h
  | cell row col rows cols =>
      obtain ⟨⟨xshared, yshared, scaled, hmem⟩, hinside⟩ := h
      exact ⟨⟨xshared, yshared, scaled, hsub hmem⟩, hinside⟩
  | twin parent adds ih => exact ⟨hsub h.1, ih h.2⟩

theorem GridCreated.mono (hsub : before ⊆ before') (h : GridCreated before) :
    GridCreated before' := by
  obtain ⟨rows, cols, xshared, yshared, scaled, hmem⟩ := h
  exact ⟨rows, cols, xshared, yshared, scaled, hsub hmem⟩

theorem Statement.Supplied.mono (hsub : before ⊆ before') {s : Statement}
    (h : s.Supplied before) : s.Supplied before' := by
  cases s with
  | drawField field => exact fun bounds hnorm => hsub (h bounds hnorm)
  | contourLabels =>
      obtain ⟨field, hmem, hkind⟩ := h
      exact ⟨field, hsub hmem, hkind⟩
  | colorbar =>
      obtain ⟨field, hmem, hkind⟩ := h
      exact ⟨field, hsub hmem, hkind⟩
  | supTitle text => exact GridCreated.mono hsub h
  | collapseSpacing axis => exact GridCreated.mono hsub h
  | _ => trivial

theorem Statement.Ready.mono (hsub : before ⊆ before') {s : Statement} (h : s.Ready before) :
    s.Ready before' :=
  ⟨fun a ha => (h.axes a ha).mono hsub, h.supplied.mono hsub⟩

/-- A statement that addresses no axes needs only to be supplied. -/
theorem Statement.Ready.of_axes?_eq_none {s : Statement} (haxes : s.axes? = none)
    (hsupplied : s.Supplied before) : s.Ready before := by
  refine ⟨fun a ha => ?_, hsupplied⟩
  rw [haxes] at ha
  cases ha

end Monotone

/-! ### Sections one behind the other -/

section Sections

variable {before first second : List Statement}

theorem readyFrom_append :
    ReadyFrom before (first ++ second) ↔
      ReadyFrom before first ∧ ReadyFrom (before ++ first) second := by
  induction first generalizing before with
  | nil => simp [ReadyFrom]
  | cons s rest ih =>
      simp only [List.cons_append, ReadyFrom, ih, and_assoc, List.append_assoc,
        List.nil_append]

/-- **A section is ready** when each of its statements is ready at its start. -/
theorem readyFrom_of_forall (h : ∀ s ∈ first, s.Ready before) : ReadyFrom before first := by
  induction first generalizing before with
  | nil => trivial
  | cons s rest ih =>
      -- the rest stands behind more than `before`, and readiness is monotone
      refine ⟨h s List.mem_cons_self, ih fun s' hs' => ?_⟩
      exact (h s' (List.mem_cons_of_mem s hs')).mono (List.subset_append_left _ _)

/-- Each statement of a list that is ready as a whole is ready where it stands. -/
theorem ReadyFrom.ready_at {s : Statement} (h : ReadyFrom before (first ++ s :: second)) :
    s.Ready (before ++ first) :=
  (readyFrom_append.mp h).2.1

@[simp] theorem handles_append : handles (first ++ second) = handles first ++ handles second :=
  List.filterMap_append

end Sections

/-! ### Statements without style scopes -/

theorem Statement.steps_eq_self {s : Statement} (h : s.isScope = false) : s.steps = [s] := by
  cases s <;> simp_all [steps, isScope]

/-- Outside style scopes each statement is one step. -/
theorem stepsOf_eq_self {statements : List Statement}
    (h : ∀ s ∈ statements, s.isScope = false) : stepsOf statements = statements := by
  induction statements with
  | nil => rw [stepsOf]
  | cons s rest ih =>
      have hs := Statement.steps_eq_self (h s List.mem_cons_self)
      rw [stepsOf, hs, ih fun s' hs' => h s' (List.mem_cons_of_mem s hs')]
      rfl

/-- The steps of statements do not depend on the style presets around them. -/
theorem Figure.stepsOf_inPresets (presets : List String) {body : List Statement}
    (h : ∀ s ∈ body, s.isScope = false) : stepsOf (inPresets presets body) = body := by
  unfold inPresets
  split
  · exact stepsOf_eq_self h
  · rw [stepsOf, Statement.steps, stepsOf, stepsOf_eq_self h, List.append_nil]

/-! ### Steps of charts -/

namespace Statement

variable {s : Statement} {a : Axes}

theorem handle?_of_chartAxes? (h : s.chartAxes? = some a) : s.handle? = none := by
  cases s <;> first | rfl | simp [chartAxes?] at h

theorem isScope_of_chartAxes? (h : s.chartAxes? = some a) : s.isScope = false := by
  cases s <;> first | rfl | simp [chartAxes?] at h

theorem axes?_of_chartAxes? (h : s.chartAxes? = some a) : s.axes? = some a := by
  cases s <;> first | exact h | simp [chartAxes?] at h

/-- A step of a chart needs its axes and nothing else. -/
theorem ready_of_chartAxes? {before : List Statement} (h : s.chartAxes? = some a)
    (ha : a.Available before) : s.Ready before := by
  refine ⟨fun b hb => ?_, ?_⟩
  · rw [axes?_of_chartAxes? h] at hb
    cases hb
    exact ha
  · cases s <;> trivial

end Statement

namespace StaysOn

variable {allowed : List Axes} {statements : List Statement}

theorem handles_eq_nil (h : StaysOn allowed statements) : handles statements = [] := by
  rw [handles, List.filterMap_eq_nil_iff]
  intro s hs
  obtain ⟨a, -, ha⟩ := h s hs
  exact Statement.handle?_of_chartAxes? ha

theorem isScope_eq_false (h : StaysOn allowed statements) :
    ∀ s ∈ statements, s.isScope = false := by
  intro s hs
  obtain ⟨a, -, ha⟩ := h s hs
  exact Statement.isScope_of_chartAxes? ha

theorem readyFrom {before : List Statement} (h : StaysOn allowed statements)
    (hallowed : ∀ a ∈ allowed, a.Available before) : ReadyFrom before statements := by
  refine readyFrom_of_forall fun s hs => ?_
  obtain ⟨a, ha, hchart⟩ := h s hs
  exact Statement.ready_of_chartAxes? hchart (hallowed a ha)

end StaysOn

end FigureScript
