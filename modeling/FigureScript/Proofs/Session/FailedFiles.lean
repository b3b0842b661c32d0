import FigureScript.Proofs.Session.Batch

/-!
# Files that fail in a batch

A file that cannot be read, is no figure or has no script is reported, and that is all: the
files are as they were, and the batch goes on as if that file had not been named.

## Main Definitions

* `Action.IgnoresReports` — an action that does not look at what has been reported
* `Store.scriptOf` — the script of a file, or why it has none
* `Turn`, `Turns` — a batch turn by turn, with the files there are in between

## Main Results

* `convertFile_ignoresReports` — a conversion depends on the files only
* `convertFile_of_scriptOf_error` — a file without a script leaves the files alone
* `Turns.filter` — the turns without those that leave the files alone
* `reportFiles_without_failing` — a batch without its failing files

## Design Notes

Whether a file fails depends on the files there are when its turn comes, since a script may
have been written over it before.  Failing files are therefore told turn by turn and not by
their names.
-/

namespace FigureScript

/-! ### Actions that ignore reports -/

namespace Action

variable {α β : Type}

/-- **An action does not look at what has been reported**: from the same files it comes to
the same outcome and leaves the same files. -/
def IgnoresReports (action : Action α) : Prop :=
  ∀ s t : Session, s.store = t.store →
    (action.perform s).1 = (action.perform t).1 ∧
      (action.perform s).2.store = (action.perform t).2.store

theorem ignoresReports_pure (a : α) : IgnoresReports (pure a) :=
  fun _ _ hstore => ⟨rfl, hstore⟩

theorem ignoresReports_throw (e : Error) : IgnoresReports (throw e : Action α) :=
  fun _ _ hstore => ⟨rfl, hstore⟩

theorem ignoresReports_report (reports : List Report) : IgnoresReports (report reports) :=
  fun _ _ hstore => ⟨rfl, hstore⟩

theorem ignoresReports_setStore (store : Store) :
    IgnoresReports (modify fun s => { s with store } : Action Unit) :=
  fun _ _ _ => ⟨rfl, rfl⟩

theorem ignoresReports_onFiles (path : String) (operation : Store → Except OsError α) :
    IgnoresReports (onFiles path operation) := by
  intro s t hstore
  rw [perform_onFiles_eq, perform_onFiles_eq]
  exact ⟨by rw [hstore], hstore⟩

/-- **Two actions in a row** ignore the reports when each of them does. -/
theorem IgnoresReports.bind {action : Action α} {next : α → Action β} (h : IgnoresReports action)
    (hnext : ∀ a, IgnoresReports (next a)) : IgnoresReports (action >>= next) := by
  intro s t hstore
  obtain ⟨houtcome, hafter⟩ := h s t hstore
  rcases hs : action.perform s with ⟨_ | a, s₁⟩ <;>
    rcases ht : action.perform t with ⟨_ | b, t₁⟩ <;>
    rw [hs, ht] at houtcome hafter
  · rw [perform_bind_error hs, perform_bind_error ht, Except.error.inj houtcome]
    exact ⟨rfl, hafter⟩
  · cases houtcome
  · cases houtcome
  · rw [perform_bind_ok hs, perform_bind_ok ht, Except.ok.inj houtcome]
    exact hnext b s₁ t₁ hafter

theorem ignoresReports_write (path : String) (content : FileContent) :
    IgnoresReports (write path content) :=
  (ignoresReports_onFiles path _).bind ignoresReports_setStore

end Action

open FigureScript.Action

/-! ### Conversions ignore reports -/

theorem readFigure_ignoresReports (input : String) : IgnoresReports (readFigure input) := by
  refine (ignoresReports_onFiles input _).bind fun source => ?_
  cases Figure.ofText source with
  | ok figure => exact ignoresReports_pure figure
  | error e => exact ignoresReports_throw e

theorem writeSpreadsheet_ignoresReports (input : String) (figure : Figure) :
    IgnoresReports (writeSpreadsheet input figure) := by
  unfold writeSpreadsheet
  dsimp only
  split
  next workbook hworkbook =>
    refine (ignoresReports_write _ _).bind fun _ => ?_
    split
    next =>
      exact (ignoresReports_throw _).bind fun _ => (ignoresReports_report _).bind fun _ =>
        ignoresReports_pure _
    next =>
      exact (ignoresReports_write _ _).bind fun _ => (ignoresReports_report _).bind fun _ =>
        ignoresReports_pure _
  next => exact (ignoresReports_report _).bind fun _ => ignoresReports_pure _
  next => exact ignoresReports_throw _

/-- A script is run in the files there are. -/
theorem Runner.run_ignoresReports (host : Host) (r : Runner) (script : String) (blocking : Bool) :
    IgnoresReports (r.run host script blocking) := by
  unfold run
  refine (ignoresReports_report _).bind fun _ =>
    (ignoresReports_onFiles _ _).bind fun execution => ?_
  refine (ignoresReports_setStore _).bind fun _ => ?_
  -- how the run ended is reported behind what it printed, if it printed something
  extract_lets ended
  have hended (u : Unit) : IgnoresReports (ended u) := by
    dsimp only [ended]
    split
    next =>
      split
      next =>
        split
        next => exact ignoresReports_throw _
        next => exact ignoresReports_pure ()
      next => exact ignoresReports_pure ()
    next => exact ignoresReports_report _
  split
  next => exact (ignoresReports_report _).bind hended
  next => exact hended ()

/-- A conversion ends with a run of the script, if somebody is there to run it. -/
def runScript (host : Host) (options : BatchOptions) (script : String)
    (spreadsheet : Option String) : Action Outputs :=
  match options.runner with
  | none => return { script, spreadsheet, executed := false }
  | some runner => do
    runner.run host script options.blocking
    return { script, spreadsheet, executed := true }

theorem runScript_ignoresReports (host : Host) (options : BatchOptions) (script : String)
    (spreadsheet : Option String) : IgnoresReports (runScript host options script spreadsheet) := by
  unfold runScript
  split
  next => exact ignoresReports_pure _
  next runner _ =>
    exact (runner.run_ignoresReports host script _).bind fun _ => ignoresReports_pure _

/-- **A conversion depends on the files only.** -/
theorem convertFile_ignoresReports (host : Host) (options : BatchOptions) (input : String) :
    IgnoresReports (convertFile host options input) := by
  unfold convertFile
  refine (readFigure_ignoresReports input).bind fun figure => ?_
  cases Path.fileStem? input with
  | none => exact ignoresReports_throw _
  | some name =>
      refine (ignoresReports_report _).bind fun _ => ?_
      cases figure.script name options.program with
      | error e => exact ignoresReports_throw e
      | ok text =>
          refine (ignoresReports_write _ _).bind fun _ => (ignoresReports_report _).bind fun _ => ?_
          dsimp only
          split
          next =>
            exact (writeSpreadsheet_ignoresReports input figure).bind
              (runScript_ignoresReports host options _)
          next => exact (ignoresReports_pure _).bind (runScript_ignoresReports host options _)

/-! ### Files without a script -/

namespace Store

/-- The figure of a file, or why it has none. -/
def figureOf (s : Store) (input : String) : Except Error Figure := do
  Figure.ofText (← (s.readText input).mapError (.io input))

/-- **The script of a file**, or why it has none: the file is read, its figure is checked, and
the figure is compiled under the name of the file. -/
def scriptOf (s : Store) (options : ProgramOptions) (input : String) : Except Error String := do
  let figure ← s.figureOf input
  match Path.fileStem? input with
  | none => .error (.io input .noFileName)
  | some name => figure.script name options

end Store

/-- Reading a figure gives the figure of the file, and leaves the session alone. -/
theorem perform_readFigure_eq (input : String) (s : Session) :
    (readFigure input).perform s = (s.store.figureOf input, s) := by
  have hread := perform_onFiles_eq input (·.readText input) s
  unfold readFigure Store.figureOf
  cases hsource : s.store.readText input with
  | error cause =>
      rw [hsource] at hread
      exact perform_bind_error hread _
  | ok source =>
      rw [hsource] at hread
      refine (perform_bind_ok hread _).trans ?_
      change _ = (Figure.ofText source, s)
      cases Figure.ofText source <;> rfl

/-- **A file without a script** fails for the reason that it has none, and leaves the files
alone. -/
theorem convertFile_of_scriptOf_error (host : Host) {options : BatchOptions} {input : String}
    {s : Session} {e : Error} (h : s.store.scriptOf options.program input = .error e) :
    ∃ s₁, (convertFile host options input).perform s = (.error e, s₁) ∧ s₁.store = s.store := by
  have hread := perform_readFigure_eq input s
  unfold convertFile
  rcases Outcome.bind_eq_error.mp h with hfigure | ⟨figure, hfigure, h⟩
  · rw [hfigure] at hread
    exact ⟨s, perform_bind_error hread _, rfl⟩
  · rw [hfigure] at hread
    rw [perform_bind_ok hread]
    cases hname : Path.fileStem? input with
    | none =>
        rw [hname] at h
        cases h
        exact ⟨s, rfl, rfl⟩
    | some name =>
        rw [hname] at h
        dsimp only at h ⊢
        obtain ⟨s₁, hstore, hlog⟩ := perform_logAll (figure.programLog name options.program) s
        rw [perform_bind_ok hlog, h]
        exact ⟨s₁, rfl, hstore⟩

/-! ### Batches turn by turn -/

/-- **One file of a batch**, with the files there are before and behind its conversion. -/
structure Turn where
  before : Store
  report : FileReport
  after : Store

namespace Turn

/-- The file is converted, whatever has been reported before it. -/
def IsConversion (host : Host) (options : BatchOptions) (turn : Turn) : Prop :=
  ∀ s : Session, s.store = turn.before →
    ((convertFile host options turn.report.input).perform s).1 = turn.report.outcome ∧
      ((convertFile host options turn.report.input).perform s).2.store = turn.after

/-- **The file can be read, is a figure and has a script** when its turn comes. -/
def compiles (options : BatchOptions) (turn : Turn) : Bool :=
  (turn.before.scriptOf options.program turn.report.input).isOk

end Turn

/-- **A batch turn by turn**: each conversion starts from the files that the one before it
left. -/
inductive Turns (host : Host) (options : BatchOptions) : Store → List Turn → Store → Prop where
  | nil (s : Store) : Turns host options s [] s
  | cons {turn : Turn} {turns : List Turn} {s' : Store} (hturn : turn.IsConversion host options)
      (hrest : Turns host options turn.after turns s') :
      Turns host options turn.before (turn :: turns) s'

section Batches

variable {host : Host} {options : BatchOptions} {before after : Store} {turns : List Turn}

/-- A turn whose file has no script reports why, and leaves the files alone. -/
theorem Turn.IsConversion.of_scriptOf_error {turn : Turn} {e : Error}
    (h : turn.IsConversion host options)
    (herror : turn.before.scriptOf options.program turn.report.input = .error e) :
    turn.report.outcome = .error e ∧ turn.after = turn.before := by
  obtain ⟨houtcome, hafter⟩ := h ⟨turn.before, []⟩ rfl
  obtain ⟨s₁, hperform, hstore⟩ :=
    convertFile_of_scriptOf_error host (s := ⟨turn.before, []⟩) herror
  rw [hperform] at houtcome hafter
  exact ⟨houtcome.symm, hafter.symm.trans hstore⟩

/-- Every list of files has its turns. -/
theorem exists_turns (host : Host) (options : BatchOptions) (files : List String)
    (before : Store) :
    ∃ turns after, turns.map (·.report.input) = files ∧
      Turns host options before turns after := by
  induction files generalizing before with
  | nil => exact ⟨[], before, rfl, .nil before⟩
  | cons input rest ih =>
      obtain ⟨outcome, s₁, hconvert⟩ :
          ∃ outcome s₁, (convertFile host options input).perform ⟨before, []⟩ = (outcome, s₁) :=
        ⟨_, _, rfl⟩
      obtain ⟨turns, after, rfl, hturns⟩ := ih s₁.store
      have hturn : Turn.IsConversion host options ⟨before, ⟨input, outcome⟩, s₁.store⟩ := by
        intro s hstore
        have hsame := convertFile_ignoresReports host options input s ⟨before, []⟩ hstore
        rw [hconvert] at hsame
        exact hsame
      exact ⟨_, after, rfl, .cons hturn hturns⟩

namespace Turns

theorem isConversion (h : Turns host options before turns after) :
    ∀ turn ∈ turns, turn.IsConversion host options := by
  induction h with
  | nil => exact List.forall_mem_nil _
  | cons hturn _ ih => exact List.forall_mem_cons.mpr ⟨hturn, ih⟩

/-- **The turns without those that leave the files alone** are turns of a batch. -/
theorem filter (h : Turns host options before turns after) {keep : Turn → Bool}
    (hskip : ∀ turn ∈ turns, keep turn = false → turn.after = turn.before) :
    Turns host options before (turns.filter keep) after := by
  induction h with
  | nil s => exact .nil s
  | @cons turn turns s' hturn _ ih =>
      rw [List.forall_mem_cons] at hskip
      have hrest := ih hskip.2
      cases hkeep : keep turn with
      | true =>
          rw [List.filter_cons_of_pos hkeep]
          exact .cons hturn hrest
      | false =>
          -- the next turn starts where this one did
          rw [List.filter_cons_of_neg (by rw [hkeep]; decide), ← hskip.1 hkeep]
          exact hrest

/-- **What a batch does** is told by its turns. -/
theorem perform (h : Turns host options before turns after) (target : String) {s : Session}
    (hstore : s.store = before) :
    ∃ s', ((turns.map (·.report.input)).mapM (reportFile host options target)).perform s =
        (.ok (turns.map (·.report)), s') ∧ s'.store = after := by
  induction h generalizing s with
  | nil => exact ⟨s, rfl, hstore⟩
  | @cons turn turns _ hturn _ ih =>
      obtain ⟨report, s₁, s₂, hreport, hinput, hconvert, hreported⟩ :=
        perform_reportFile host options target turn.report.input s
      obtain ⟨houtcome, hafter⟩ := hturn s hstore
      rw [hconvert] at houtcome hafter
      obtain ⟨s', hrest, hs'⟩ := ih (hreported.trans hafter)
      have hsame : report = turn.report := by
        obtain ⟨input, outcome⟩ := report
        cases hinput
        cases houtcome
        rfl
      refine ⟨s', ?_, hs'⟩
      rw [List.map_cons, List.mapM_cons, perform_bind_ok hreport, perform_bind_ok hrest, hsame]
      rfl

end Turns

/-- **A batch without its failing files.**  Every file of a list has one report, in the order
of the list.  A file that cannot be read, is no figure or has no script when its turn comes
reports why and leaves the files alone, and without all such files the batch makes the same
reports for the others and leaves the same files. -/
theorem reportFiles_without_failing (host : Host) (options : BatchOptions) (target : String)
    (files : List String) (s : Session) :
    ∃ turns s', turns.map (·.report.input) = files ∧
      Turns host options s.store turns s'.store ∧
      (files.mapM (reportFile host options target)).perform s =
        (.ok (turns.map (·.report)), s') ∧
      (∀ turn ∈ turns, ∀ e,
        turn.before.scriptOf options.program turn.report.input = .error e →
          turn.report.outcome = .error e ∧ turn.after = turn.before) ∧
      ∃ t', (((turns.filter (·.compiles options)).map (·.report.input)).mapM
            (reportFile host options target)).perform s =
          (.ok ((turns.filter (·.compiles options)).map (·.report)), t') ∧
        t'.store = s'.store := by
  obtain ⟨turns, after, rfl, hturns⟩ := exists_turns host options files s.store
  obtain ⟨s', hperform, rfl⟩ := hturns.perform target rfl
  have hfailing : ∀ turn ∈ turns, ∀ e,
      turn.before.scriptOf options.program turn.report.input = .error e →
        turn.report.outcome = .error e ∧ turn.after = turn.before :=
    fun turn hturn _ => (hturns.isConversion turn hturn).of_scriptOf_error
  have hothers : Turns host options s.store (turns.filter (·.compiles options)) s'.store := by
    refine hturns.filter fun turn hturn hcompiles => ?_
    cases hscript : turn.before.scriptOf options.program turn.report.input with
    | error e => exact (hfailing turn hturn e hscript).2
    | ok text =>
        rw [Turn.compiles, hscript] at hcompiles
        cases hcompiles
  exact ⟨turns, s', rfl, hturns, hperform, hfailing, hothers.perform target rfl⟩

end Batches

end FigureScript
