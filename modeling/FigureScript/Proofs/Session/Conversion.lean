import FigureScript.Proofs.Files.Written
import FigureScript.Proofs.Session.Action
import FigureScript.Session.Batch

/-!
# Converting one file

What the conversion of a file writes: the script of the figure in it, and then its
spreadsheet.

## Main Definitions

* `Store.HasScript` — a file whose figure has a script
* `Store.IsOutput` — what is written for a file
* `Action.Writes` — an action that writes some outputs and nothing else

## Main Results

* `convertFile_writes` — a conversion writes the outputs of its file only
* `writeSpreadsheet_plot_eq_ok` — the spreadsheet of a chart is its workbook
* `convertFile_eq_ok` — one that succeeds writes the script and then the spreadsheet
* `convertFile_keeps`, `convertFile_leaves` — what is found in the files behind it

## Design Notes

An action that fails keeps what it did before, so that what is written is said of every
outcome.
-/

namespace FigureScript

/-! ### Outputs -/

/-- **A file whose figure has a script**, under the name of the file. -/
structure Store.HasScript (s : Store) (options : ProgramOptions) (input : String)
    (figure : Figure) (text : String) : Prop where
  read : ∃ source, s.readText input = .ok source ∧ Figure.ofText source = .ok figure
  compiled : ∃ name, Path.fileStem? input = some name ∧ figure.script name options = .ok text

/-- What is written as the spreadsheet of a figure: an empty file, and the workbook in its
place. -/
structure IsSpreadsheet (figure : Figure) (input path : String) (content : FileContent) :
    Prop where
  path : path = Path.withExtension input "xlsx"
  content : ∃ workbook, Workbook.ofFigure figure = .ok workbook ∧
    (content = .binary [] ∨ ∃ finished, workbook.finish = .ok finished ∧
      content = .workbook finished)

/-- **What is written for a file**: its script and, if asked for, its spreadsheet. -/
inductive Store.IsOutput (s : Store) (options : BatchOptions) (input : String) :
    String → FileContent → Prop where
  | script {figure : Figure} {text : String} (h : s.HasScript options.program input figure text) :
      IsOutput s options input (Path.withExtension input "py") (.text text)
  | spreadsheet {figure : Figure} {text path : String} {content : FileContent}
      (h : s.HasScript options.program input figure text) (hoption : options.spreadsheet = true)
      (hcontent : IsSpreadsheet figure input path content) : IsOutput s options input path content

/-- What is written for some file. -/
def Store.IsSomeOutput (s : Store) (options : BatchOptions) (path : String)
    (content : FileContent) : Prop :=
  ∃ input, s.IsOutput options input path content

/-! ### Actions that write -/

namespace Action

variable {α β : Type} {output : String → FileContent → Prop} {s : Session}

/-- **An action writes some outputs** and nothing else, whether it succeeds or fails. -/
def Writes (output : String → FileContent → Prop) (s : Session) (action : Action α) : Prop :=
  Store.Written output s.store (action.perform s).2.store

theorem writes_of_perform {action : Action α} (h : (action.perform s).2.store = s.store) :
    Writes output s action := by
  rw [Writes, h]
  exact .refl _

theorem writes_pure (a : α) : Writes output s (pure a) :=
  .refl _

theorem writes_throw (e : Error) : Writes output s (throw e : Action α) :=
  .refl _

theorem writes_logAll (log : Log) : Writes output s (logAll log) :=
  .refl _

theorem writes_onFiles (path : String) (operation : Store → Except OsError α) :
    Writes output s (onFiles path operation) :=
  writes_of_perform (congrArg Session.store (perform_onFiles path operation))

/-- **Two actions in a row** write what both write. -/
theorem Writes.bind {action : Action α} {next : α → Action β} (h : Writes output s action)
    (hnext : ∀ a s₁, action.perform s = (.ok a, s₁) → Writes output s₁ (next a)) :
    Writes output s (action >>= next) := by
  unfold Writes at h ⊢
  rcases haction : action.perform s with ⟨_ | a, s₁⟩
  · -- the second action is left out
    rw [haction] at h
    rw [perform_bind_error haction]
    exact h
  · rw [haction] at h
    rw [perform_bind_ok haction]
    exact h.trans (hnext a s₁ haction)

theorem writes_write {path : String} {content : FileContent} (houtput : output path content) :
    Writes output s (write path content) := by
  refine (writes_onFiles path _).bind fun store s₁ h => ?_
  obtain ⟨hwrite, rfl⟩ := onFiles_eq_ok.mp h
  exact .single houtput hwrite

end Action

open FigureScript.Action

/-! ### One file -/

variable {s s' : Session} {options : BatchOptions} {input : String} {figure : Figure}

/-- Reading a figure leaves the session alone. -/
theorem perform_readFigure (input : String) (s : Session) :
    ((readFigure input).perform s).2 = s := by
  have hsame : ((readText input).perform s).2 = s := perform_onFiles input _
  unfold readFigure
  rcases hread : (readText input).perform s with ⟨e | source, s₁⟩
  · rw [hread] at hsame
    rw [perform_bind_error hread]
    exact hsame
  · rw [hread] at hsame
    rw [perform_bind_ok hread]
    cases Figure.ofText source <;> exact hsame

/-- The figure of a file is the one that its text describes. -/
theorem readFigure_eq_ok (h : (readFigure input).perform s = (.ok figure, s')) :
    ∃ source, s.store.readText input = .ok source ∧ Figure.ofText source = .ok figure := by
  obtain ⟨source, s₁, hread, hreturn⟩ := bind_eq_ok.mp h
  obtain ⟨hread, rfl⟩ := onFiles_eq_ok.mp hread
  refine ⟨source, hread, ?_⟩
  cases hfigure : Figure.ofText source with
  | error e =>
      rw [hfigure, perform_throw] at hreturn
      cases hreturn
  | ok found =>
      rw [hfigure, perform_pure] at hreturn
      cases hreturn
      rfl

theorem writeSpreadsheet_writes :
    Writes (IsSpreadsheet figure input) s (writeSpreadsheet input figure) := by
  unfold writeSpreadsheet
  dsimp only
  split
  next workbook hworkbook =>
    -- the file is created before the workbook is finished
    refine (writes_write ⟨rfl, workbook, hworkbook, .inl rfl⟩).bind fun _ _ _ => ?_
    split
    next =>
      exact (writes_throw _).bind fun _ _ _ => (writes_logAll _).bind fun _ _ _ => writes_pure _
    next finished hfinished =>
      refine (writes_write ⟨rfl, workbook, hworkbook, .inr ⟨finished, hfinished, rfl⟩⟩).bind
        fun _ _ _ => (writes_logAll _).bind fun _ _ _ => writes_pure _
  next => exact (writes_logAll _).bind fun _ _ _ => writes_pure _
  next => exact writes_throw _

/-- A workbook that is finished is left as it is, and none of its titles refers to another
worksheet. -/
theorem Workbook.finish_eq_ok {workbook finished : Workbook}
    (h : workbook.finish = .ok finished) :
    finished = workbook ∧ ∀ title ∈ workbook.titles, workbook.foreign? title = none := by
  unfold finish at h
  split at h
  next => cases h
  next hforeign =>
    rw [List.findSome?_eq_none_iff] at hforeign
    exact ⟨(Except.ok.inj h).symm, hforeign⟩

/-- **The spreadsheet of a chart that is written** is its finished workbook, and this is what
stands beside the file. -/
theorem writeSpreadsheet_plot_eq_ok {p : Plot} {written : Option String}
    (h : (writeSpreadsheet input (.plot p)).perform s = (.ok written, s')) :
    ∃ workbook, Workbook.ofPlot p = .ok workbook ∧ workbook.finish = .ok workbook ∧
      written = some (Path.withExtension input "xlsx") ∧
      s'.store.read (Path.withExtension input "xlsx") = .ok (.workbook workbook) := by
  unfold writeSpreadsheet at h
  dsimp only at h
  generalize Path.withExtension input "xlsx" = path at h ⊢
  cases hworkbook : Workbook.ofPlot p with
  | error e =>
      rw [Workbook.ofFigure, hworkbook] at h
      cases h
  | ok workbook =>
      rw [Workbook.ofFigure, hworkbook] at h
      dsimp only [Except.mapError] at h
      obtain ⟨⟨⟩, s₁, -, h⟩ := bind_eq_ok.mp h
      cases hfinish : workbook.finish with
      | error problem =>
          rw [hfinish] at h
          cases h
      | ok finished =>
          rw [hfinish] at h
          obtain ⟨⟨⟩, s₂, hwrite, h⟩ := bind_eq_ok.mp h
          obtain ⟨⟨⟩, s₃, hlog, h⟩ := bind_eq_ok.mp h
          cases h
          obtain ⟨rfl, -⟩ := Workbook.finish_eq_ok hfinish
          refine ⟨finished, rfl, hfinish, rfl, ?_⟩
          rw [logAll_eq_ok hlog]
          exact Store.read_of_write (write_eq_ok hwrite)

/-- The spreadsheet of a figure is written if it is asked for. -/
def writeRequested (options : BatchOptions) (input : String) (figure : Figure) :
    Action (Option String) :=
  if options.spreadsheet then writeSpreadsheet input figure else pure none

/-- What is written for a figure that has a script. -/
def writeOutputs (options : BatchOptions) (input : String) (figure : Figure) (text : String) :
    Action Outputs := do
  let script := Path.withExtension input "py"
  Action.write script (.text text)
  Action.log .info "vfd::batch" ("wrote " ++ script)
  let spreadsheet ← writeRequested options input figure
  return { script, spreadsheet, executed := false }

/-- **A conversion leaves the files alone** or writes the outputs of a figure that has a
script, when scripts are not run. -/
theorem convertFile_cases (host : Host) (hrunner : options.runner = none) (input : String)
    (s : Session) :
    (∃ e s₁, (convertFile host options input).perform s = (.error e, s₁) ∧
        s₁.store = s.store) ∨
      ∃ figure text s₁, s.store.HasScript options.program input figure text ∧
        s₁.store = s.store ∧
        (convertFile host options input).perform s =
          (writeOutputs options input figure text).perform s₁ := by
  have hsame := perform_readFigure input s
  unfold convertFile
  rcases hread : (readFigure input).perform s with ⟨e | figure, s₁⟩
  · rw [hread] at hsame
    rw [perform_bind_error hread]
    exact .inl ⟨e, s₁, rfl, congrArg Session.store hsame⟩
  · have hfigure := readFigure_eq_ok hread
    rw [hread] at hsame
    rw [perform_bind_ok hread]
    cases hname : Path.fileStem? input with
    | none => exact .inl ⟨_, s₁, rfl, congrArg Session.store hsame⟩
    | some name =>
        dsimp only
        obtain ⟨s₂, hstore, hlog⟩ := perform_logAll (figure.programLog name options.program) s₁
        have hstore : s₂.store = s.store := hstore.trans (congrArg Session.store hsame)
        rw [perform_bind_ok hlog]
        cases hscript : figure.script name options.program with
        | error e => exact .inl ⟨e, s₂, rfl, hstore⟩
        | ok text =>
            -- all that is left is to write, since no script is run
            refine .inr ⟨figure, text, s₂, ⟨hfigure, name, hname, hscript⟩, hstore, ?_⟩
            unfold writeOutputs writeRequested
            rw [hrunner]
            cases options.spreadsheet <;> rfl

theorem writeRequested_writes (options : BatchOptions) (input : String) (figure : Figure)
    (s : Session) :
    Writes (fun path content => options.spreadsheet = true ∧
        IsSpreadsheet figure input path content) s (writeRequested options input figure) := by
  unfold writeRequested
  split
  next hoption => exact writeSpreadsheet_writes.mono fun _ _ hcontent => ⟨hoption, hcontent⟩
  next => exact writes_pure _

/-- **A conversion writes the outputs of its file** and nothing else, whether it succeeds or
fails. -/
theorem convertFile_writes (host : Host) (hrunner : options.runner = none) (input : String)
    (s : Session) :
    Writes (s.store.IsOutput options input) s (convertFile host options input) := by
  rcases convertFile_cases host hrunner input s with
    ⟨e, s₁, h, hstore⟩ | ⟨figure, text, s₁, hscript, hstore, h⟩
  · refine writes_of_perform ?_
    rw [h]
    exact hstore
  · rw [← hstore] at hscript ⊢
    have hwrites : Writes (s₁.store.IsOutput options input) s₁
        (writeOutputs options input figure text) := by
      refine (writes_write (.script hscript)).bind fun _ _ _ =>
        (writes_logAll _).bind fun _ _ _ => Writes.bind ?_ fun _ _ _ => writes_pure _
      exact (writeRequested_writes options input figure _).mono fun _ _ hsheet =>
        .spreadsheet hscript hsheet.1 hsheet.2
    rw [Writes, h, ← hstore]
    exact hwrites

/-- **A conversion that succeeds** writes the script, and then the spreadsheet if it is asked
for. -/
theorem convertFile_eq_ok {host : Host} (hrunner : options.runner = none) {outputs : Outputs}
    (h : (convertFile host options input).perform s = (.ok outputs, s')) :
    outputs.script = Path.withExtension input "py" ∧
      ∃ figure text stored, s.store.HasScript options.program input figure text ∧
        s.store.write outputs.script (.text text) = .ok stored ∧
        Store.Written (fun path content => options.spreadsheet = true ∧
          IsSpreadsheet figure input path content) stored s'.store := by
  rcases convertFile_cases host hrunner input s with
    ⟨e, s₁, herror, -⟩ | ⟨figure, text, s₁, hscript, hstore, hwrite⟩
  · rw [herror] at h
    cases h
  · rw [hwrite] at h
    obtain ⟨⟨⟩, s₂, hwrite, h⟩ := bind_eq_ok.mp h
    obtain ⟨⟨⟩, s₃, hlog, h⟩ := bind_eq_ok.mp h
    obtain ⟨spreadsheet, s₄, hspreadsheet, h⟩ := bind_eq_ok.mp h
    cases h
    refine ⟨rfl, figure, text, s₂.store, hscript, ?_, ?_⟩
    · rw [← hstore]
      exact write_eq_ok hwrite
    · have hwritten := writeRequested_writes options input figure s₃
      rw [Writes, hspreadsheet, logAll_eq_ok hlog] at hwritten
      exact hwritten

/-- **A file is kept** by a conversion, whatever comes of it, unless it has an extension that ends
like those of scripts and spreadsheets. -/
theorem convertFile_keeps (host : Host) (hrunner : options.runner = none) (htree : s.store.IsTree)
    {path stem ext : String} (hstem : Path.fileStem? path = some stem)
    (hext : Path.IsExtension ext) (hscript : ext.toList.getLast? ≠ some 'y')
    (hsheet : ext.toList.getLast? ≠ some 'x') {content : FileContent}
    (hread : s.store.read (Path.withExtension path ext) = .ok content) (input : String) :
    ((convertFile host options input).perform s).2.store.read (Path.withExtension path ext) =
      .ok content := by
  refine (convertFile_writes host hrunner input s).read_of_extensions htree hstem hext ?_ hread
  intro path' content' houtput
  cases houtput with
  | script hhas =>
      obtain ⟨name, hname, -⟩ := hhas.compiled
      exact ⟨input, name, "py", rfl, hname, by decide, hscript⟩
  | spreadsheet hhas _ hcontent =>
      obtain ⟨name, hname, -⟩ := hhas.compiled
      exact ⟨input, name, "xlsx", hcontent.path, hname, by decide, hsheet⟩

/-- **A conversion that succeeds** leaves the script of the figure beside its file. -/
theorem convertFile_leaves {host : Host} (hrunner : options.runner = none)
    (htree : s.store.IsTree) {outputs : Outputs}
    (h : (convertFile host options input).perform s = (.ok outputs, s')) :
    ∃ stem figure text, Path.fileStem? input = some stem ∧
      (∃ source, s.store.readText input = .ok source ∧ Figure.ofText source = .ok figure) ∧
      figure.script stem options.program = .ok text ∧
      Path.LiesBeside input (stem ++ "." ++ "py") outputs.script ∧
      s'.store.readText outputs.script = .ok text := by
  obtain ⟨hpath, figure, text, stored, ⟨hfigure, stem, hstem, hcompiled⟩, hwrite, hsheets⟩ :=
    convertFile_eq_ok hrunner h
  rw [hpath] at hwrite ⊢
  refine ⟨stem, figure, text, hstem, hfigure, hcompiled,
    htree.liesBeside_of_write hstem (by decide) hwrite, Store.readText_eq_ok.mpr ?_⟩
  refine hsheets.read_of_extensions (htree.write hwrite) hstem (by decide) ?_
    (Store.read_of_write hwrite)
  rintro path' content ⟨-, hsheet⟩
  exact ⟨input, stem, "xlsx", hsheet.path, hstem, by decide, by decide⟩

end FigureScript
