import FigureScript.Proofs.Files.Expand
import FigureScript.Proofs.Session.Conversion

/-!
# Converting many files

The files of a pattern are converted one after the other.  Scripts go beside their figures
and can meet there: figures whose names differ in their extensions have one script, and a
figure can be stored where a script goes.  What is in the files in the end is told from the
files at the start.

## Main Definitions

* `Conversions` — files converted one after the other
* `BatchKeeps` — what is kept of the files that are converted

## Main Results

* `Figure.ofText_script` — a script is not read as a figure
* `Conversions.written` — conversions write the outputs that the files had at the start
* `convertFiles_keeps` — inputs that are not in the place of an output are kept, and scripts
  that are not replaced by that of a later file
* `exists_overwritten` — an input and a script that are lost

## Design Notes

A file that has become an output of another one holds no figure any more.  Therefore a file
that is converted still has the text it had at the start.
-/

namespace FigureScript

open FigureScript.Action

/-! ### Scripts are no figures -/

/-- **A script is not read as a figure**, since it starts with a comment. -/
theorem Figure.ofText_script {figure : Figure} {name text : String} {options : ProgramOptions}
    (h : figure.script name options = .ok text) (other : Figure) :
    Figure.ofText text ≠ .ok other := by
  obtain ⟨program, -, rfl⟩ := Outcome.map_eq_ok.mp h
  intro hother
  have htext : ∃ rest, (source program).toList = '#' :: rest := by
    rw [source, String.toList_append]
    exact ⟨_, rfl⟩
  obtain ⟨rest, hrest⟩ := htext
  have hparse : Json.parse ('#' :: rest) = .error (.next .expectedValue ('#' :: rest)) := rfl
  rw [ofText, hrest, hparse] at hother
  cases hother

namespace Store

variable {s t : Store} {options : BatchOptions} {input : String} {figure : Figure} {text : String}

/-- **A file that has a script** after some outputs were written had it before. -/
theorem hasScript_of_written
    (h : Written (s.IsSomeOutput options) s t)
    (ht : t.HasScript options.program input figure text) :
    s.HasScript options.program input figure text := by
  obtain ⟨⟨source, hread, hfigure⟩, hcompiled⟩ := ht
  refine ⟨⟨source, ?_, hfigure⟩, hcompiled⟩
  rw [readText_eq_ok] at hread ⊢
  rcases h.read_cases hread with hbefore | ⟨path, ⟨other, houtput⟩, -⟩
  · exact hbefore
  · -- neither a script nor a spreadsheet holds a figure
    generalize hcontent : FileContent.text source = content at houtput
    cases houtput with
    | script hscript =>
        obtain ⟨_, _, hscript⟩ := hscript.compiled
        cases hcontent
        exact absurd hfigure (Figure.ofText_script hscript figure)
    | spreadsheet _ _ hsheet =>
        obtain ⟨workbook, -, rfl | ⟨finished, -, rfl⟩⟩ := hsheet.content <;> cases hcontent

/-- What is written for a file after some outputs were written would have been written for
it before. -/
theorem isOutput_of_written
    (h : Written (s.IsSomeOutput options) s t)
    {path : String} {content : FileContent} (ht : t.IsOutput options input path content) :
    s.IsOutput options input path content := by
  cases ht with
  | script hscript => exact .script (hasScript_of_written h hscript)
  | spreadsheet hscript hoption hsheet =>
      exact .spreadsheet (hasScript_of_written h hscript) hoption hsheet

end Store

/-! ### Conversions one after the other -/

/-- **Files converted one after the other**, with what is reported of each. -/
inductive Conversions (host : Host) (options : BatchOptions) :
    Session → List FileReport → Session → Prop where
  | nil (s : Session) : Conversions host options s [] s
  | cons {s s₁ s₂ s' : Session} {report : FileReport} {reports : List FileReport}
      (hfile : (convertFile host options report.input).perform s = (report.outcome, s₁))
      (hreported : s₂.store = s₁.store) (hrest : Conversions host options s₂ reports s') :
      Conversions host options s (report :: reports) s'

section Runs

variable {host : Host} {options : BatchOptions} {s s' : Session}

/-- A file is converted and its outcome reported, whatever it is. -/
theorem perform_reportFile (host : Host) (options : BatchOptions) (target input : String)
    (s : Session) :
    ∃ report s₁ s₂, (reportFile host options target input).perform s = (.ok report, s₂) ∧
      report.input = input ∧
      (convertFile host options input).perform s = (report.outcome, s₁) ∧
      s₂.store = s₁.store := by
  have hattempt := @perform_attempt _ s (convertFile host options input)
  rcases hconvert : (convertFile host options input).perform s with ⟨outcome, s₁⟩
  rw [hconvert] at hattempt
  unfold reportFile
  rw [perform_bind_ok hattempt]
  cases outcome with
  | ok outputs => exact ⟨⟨input, .ok outputs⟩, s₁, s₁, rfl, rfl, rfl, rfl⟩
  | error e =>
      obtain ⟨s₂, hstore, hlog⟩ := perform_log .error target (input ++ ": " ++ e.message) s₁
      refine ⟨⟨input, .error e⟩, s₁, s₂, ?_, rfl, rfl, hstore⟩
      dsimp only
      rw [perform_bind_ok hlog]
      rfl

/-- All files are converted, each with a report. -/
theorem perform_mapM_reportFile (host : Host) (options : BatchOptions) (target : String)
    (files : List String) (s : Session) :
    ∃ reports s', (files.mapM (reportFile host options target)).perform s = (.ok reports, s') ∧
      reports.map (·.input) = files ∧ Conversions host options s reports s' := by
  induction files generalizing s with
  | nil => exact ⟨[], s, rfl, rfl, .nil s⟩
  | cons input rest ih =>
      obtain ⟨report, s₁, s₂, hreport, rfl, hconvert, hstore⟩ :=
        perform_reportFile host options target input s
      obtain ⟨reports, s', hrest, rfl, hconversions⟩ := ih s₂
      refine ⟨report :: reports, s', ?_, rfl, .cons hconvert hstore hconversions⟩
      rw [List.mapM_cons, perform_bind_ok hreport, perform_bind_ok hrest]
      rfl

/-- Without a runner the files of the pattern are converted at once. -/
theorem perform_convertFiles (host : Host) (hrunner : options.runner = none) {pattern : String}
    {files : List String} (hfiles : expandFiles pattern options.expand s.store = .ok files) :
    (convertFiles host options pattern).perform s =
      (files.mapM (reportFile host options "vfd::batch")).perform s := by
  have hget : (get : Action Session).perform s = (.ok s, s) := rfl
  unfold convertFiles
  rw [perform_bind_ok hget, hfiles, hrunner]

/-- **A batch without a runner** fails before it does anything, or converts the files of the
pattern. -/
theorem convertFiles_cases (host : Host) (hrunner : options.runner = none) (pattern : String)
    (s : Session) :
    (∃ e, expandFiles pattern options.expand s.store = .error e ∧
        (convertFiles host options pattern).perform s = (.error e, s)) ∨
      ∃ reports s', expandFiles pattern options.expand s.store = .ok (reports.map (·.input)) ∧
        (convertFiles host options pattern).perform s = (.ok reports, s') ∧
        Conversions host options s reports s' := by
  cases hfiles : expandFiles pattern options.expand s.store with
  | error e =>
      have hget : (get : Action Session).perform s = (.ok s, s) := rfl
      refine .inl ⟨e, rfl, ?_⟩
      unfold convertFiles
      rw [perform_bind_ok hget, hfiles]
      rfl
  | ok files =>
      obtain ⟨reports, s', hreports, rfl, hconversions⟩ :=
        perform_mapM_reportFile host options "vfd::batch" files s
      exact .inr ⟨reports, s', rfl, (perform_convertFiles host hrunner hfiles).trans hreports,
        hconversions⟩

/-- **The conversions before and behind one of them.** -/
theorem Conversions.split {earlier later : List FileReport} {report : FileReport}
    (h : Conversions host options s (earlier ++ report :: later) s') :
    ∃ s₁ s₂ s₃, Conversions host options s earlier s₁ ∧
      (convertFile host options report.input).perform s₁ = (report.outcome, s₂) ∧
      s₃.store = s₂.store ∧ Conversions host options s₃ later s' := by
  induction earlier generalizing s with
  | nil =>
      cases h with
      | cons hfile hreported hrest => exact ⟨s, _, _, .nil s, hfile, hreported, hrest⟩
  | cons first earlier ih =>
      cases h with
      | cons hfile hreported hrest =>
          obtain ⟨s₁, s₂, s₃, hearlier, hreport, hstore, hlater⟩ := ih hrest
          exact ⟨s₁, s₂, s₃, .cons hfile hreported hearlier, hreport, hstore, hlater⟩

/-- **Conversions write the outputs that their files had at the start.** -/
theorem Conversions.written {start : Store} {reports : List FileReport}
    (hrunner : options.runner = none)
    (hstart : Store.Written (start.IsSomeOutput options) start s.store)
    (h : Conversions host options s reports s') :
    Store.Written (fun path content => ∃ report ∈ reports,
      start.IsOutput options report.input path content) s.store s'.store := by
  induction h with
  | nil => exact .refl _
  | @cons s s₁ s₂ s' report reports hfile hreported _ ih =>
      have hwrites := convertFile_writes host hrunner report.input s
      rw [Writes, hfile] at hwrites
      -- what the first file has in this session it had at the start
      have hfirst : Store.Written (fun path content =>
          start.IsOutput options report.input path content) s.store s₂.store := by
        rw [hreported]
        exact hwrites.mono fun _ _ => Store.isOutput_of_written hstart
      have hrest := ih (hstart.trans (hfirst.mono fun _ _ h => ⟨_, h⟩))
      refine (hfirst.mono fun _ _ h => ?_).trans (hrest.mono fun _ _ h => ?_)
      · exact ⟨report, List.mem_cons_self, h⟩
      · obtain ⟨other, hother, houtput⟩ := h
        exact ⟨other, List.mem_cons_of_mem report hother, houtput⟩

end Runs

/-! ### What is kept -/

/-- **What is kept of the files that are converted.** -/
structure BatchKeeps (options : BatchOptions) (before after : Store)
    (reports : List FileReport) : Prop where
  /-- An input stays as it is unless it is in the place of an output. -/
  inputs : ∀ report ∈ reports, ∀ content, before.read report.input = .ok content →
    (∀ other ∈ reports, ∀ path output, before.IsOutput options other.input path output →
      before.resolve path ≠ before.resolve report.input) →
    after.read report.input = .ok content
  /-- The script of an input is that of the figure it held at the start, unless a later input
  has another script at the same place. -/
  scripts : before.IsTree → ∀ earlier report later outputs,
    reports = earlier ++ report :: later → report.outcome = .ok outputs →
      outputs.script = Path.withExtension report.input "py" ∧
      ∃ figure text, before.HasScript options.program report.input figure text ∧
        (after.readText outputs.script = .ok text ∨
          ∃ other ∈ later, ∃ figure' text',
            before.HasScript options.program other.input figure' text' ∧ text' ≠ text ∧
            before.resolve (Path.withExtension other.input "py") =
              before.resolve outputs.script ∧
            after.readText outputs.script = .ok text')

section Keeps

variable {host : Host} {options : BatchOptions} {s s' : Session} {reports : List FileReport}
  (hrunner : options.runner = none) (h : Conversions host options s reports s')
include hrunner h

/-- An input that is not in the place of an output is kept. -/
theorem Conversions.keeps_input {input : String} {content : FileContent}
    (hread : s.store.read input = .ok content)
    (hplaces : ∀ other ∈ reports, ∀ path output,
      s.store.IsOutput options other.input path output →
        s.store.resolve path ≠ s.store.resolve input) :
    s'.store.read input = .ok content := by
  have hwritten := h.written hrunner (.refl s.store)
  rcases hwritten.read_of_read hread with
    hkept | ⟨path, output, ⟨other, hother, houtput⟩, -, place, hpath, hinput⟩
  · exact hkept
  · exact absurd (hpath.trans hinput.symm) (hplaces other hother path output houtput)

end Keeps

/-- **What replaces a script** that has been written is the script of another file, since no
spreadsheet has its place. -/
theorem Store.Written.script_cases {options : BatchOptions} {start stored t : Store}
    {later : List FileReport} {figure : Figure} {input name text : String}
    (h : Store.Written (fun path content => IsSpreadsheet figure input path content ∨
      ∃ other ∈ later, start.IsOutput options other.input path content) stored t)
    (htree : stored.IsTree) (hname : Path.fileStem? input = some name)
    (hread : stored.readText (Path.withExtension input "py") = .ok text) :
    t.readText (Path.withExtension input "py") = .ok text ∨
      ∃ other ∈ later, ∃ figure' text',
        start.HasScript options.program other.input figure' text' ∧
        (∃ place, stored.resolve (Path.withExtension other.input "py") = .ok place ∧
          stored.resolve (Path.withExtension input "py") = .ok place) ∧
        t.readText (Path.withExtension input "py") = .ok text' := by
  have hread := Store.readText_eq_ok.mp hread
  rcases h.read_of_read hread with
    hkept | ⟨path, content, houtput, hread', place, hplace, hplace'⟩
  · exact .inl (Store.readText_eq_ok.mpr hkept)
  -- the script can be read, so its place is no directory and no spreadsheet goes there
  have hfile : stored.get? place ≠ some .directory := by
    obtain ⟨found, executable, hfound, hget⟩ := Store.read_eq_ok.mp hread
    rw [hplace', Except.ok.injEq] at hfound
    rw [hfound, hget]
    exact nofun
  have hsheet {other stem : String} (hstem : Path.fileStem? other = some stem) :
      stored.resolve (Path.withExtension other "xlsx") ≠ .ok place :=
    htree.resolve_ne_of_extensions hname hstem (by decide) (by decide) (by decide) hfile hplace'
  rcases houtput with hown | ⟨other, hother, houtput⟩
  · exact absurd (hown.path ▸ hplace) (hsheet hname)
  cases houtput with
  | spreadsheet hscript _ hown =>
      obtain ⟨stem, hstem, -⟩ := hscript.compiled
      exact absurd (hown.path ▸ hplace) (hsheet hstem)
  | @script figure' text' hscript =>
      exact .inr ⟨other, hother, figure', text', hscript, ⟨place, hplace, hplace'⟩,
        Store.readText_eq_ok.mpr hread'⟩

/-- **A conversion among others** that succeeds writes the script of the figure that its file
held at the start; behind it come its spreadsheet and the outputs of later files. -/
theorem Conversions.script_written {host : Host} {options : BatchOptions}
    (hrunner : options.runner = none) {s s' : Session} {earlier later : List FileReport}
    {report : FileReport} {outputs : Outputs}
    (h : Conversions host options s (earlier ++ report :: later) s')
    (hok : report.outcome = .ok outputs) :
    outputs.script = Path.withExtension report.input "py" ∧
      ∃ figure text stored, s.store.HasScript options.program report.input figure text ∧
        Store.Written (s.store.IsSomeOutput options) s.store stored ∧
        stored.readText outputs.script = .ok text ∧
        Store.Written (fun path content => IsSpreadsheet figure report.input path content ∨
          ∃ other ∈ later, s.store.IsOutput options other.input path content) stored s'.store := by
  obtain ⟨s₁, s₂, s₃, hearlier, hfile, hreported, hlater⟩ := h.split
  rw [hok] at hfile
  obtain ⟨hpath, figure, text, stored, hscript, hwrite, hsheets⟩ :=
    convertFile_eq_ok hrunner hfile
  have hbefore : Store.Written (s.store.IsSomeOutput options) s.store s₁.store := by
    refine (hearlier.written hrunner (.refl _)).mono fun path content houtput => ?_
    obtain ⟨other, -, houtput⟩ := houtput
    exact ⟨other.input, houtput⟩
  have hscript := Store.hasScript_of_written hbefore hscript
  have hstored := hbefore.trans (.single ⟨report.input, .script hscript⟩ (hpath ▸ hwrite))
  have hconverted := hstored.trans
    (hsheets.mono fun _ _ hsheet => ⟨report.input, .spreadsheet hscript hsheet.1 hsheet.2⟩)
  rw [← hreported] at hconverted hsheets
  refine ⟨hpath, figure, text, stored, hscript, hstored, Store.readText_of_write hwrite, ?_⟩
  exact (hsheets.mono fun _ _ hsheet => .inl hsheet.2).trans
    ((hlater.written hrunner hconverted).mono fun _ _ => .inr)

/-- **A script is kept** unless a later input has another one at the same place. -/
theorem Conversions.keeps_script {host : Host} {options : BatchOptions}
    (hrunner : options.runner = none) {s s' : Session} {earlier later : List FileReport}
    {report : FileReport} {outputs : Outputs} (htree : s.store.IsTree)
    (h : Conversions host options s (earlier ++ report :: later) s')
    (hok : report.outcome = .ok outputs) :
    outputs.script = Path.withExtension report.input "py" ∧
      ∃ figure text, s.store.HasScript options.program report.input figure text ∧
        (s'.store.readText outputs.script = .ok text ∨
          ∃ other ∈ later, ∃ figure' text',
            s.store.HasScript options.program other.input figure' text' ∧ text' ≠ text ∧
            s.store.resolve (Path.withExtension other.input "py") =
              s.store.resolve outputs.script ∧
            s'.store.readText outputs.script = .ok text') := by
  obtain ⟨hpath, figure, text, stored, hscript, hstored, hread, hrest⟩ :=
    h.script_written hrunner hok
  obtain ⟨name, hname, -⟩ := hscript.compiled
  refine ⟨hpath, figure, text, hscript, ?_⟩
  rw [hpath] at hread ⊢
  rcases hrest.script_cases (hstored.isTree htree) hname hread with
    hkept | ⟨other, hother, figure', text', hscript', ⟨place, hplace, hplace'⟩, hread'⟩
  · exact .inl hkept
  · -- a later file may have the same script
    by_cases htext : text' = text
    · exact .inl (htext ▸ hread')
    · have hback := hstored.sameDirectories.symm
      exact .inr ⟨other, hother, figure', text', hscript', htext,
        (hback.resolve hplace).trans (hback.resolve hplace').symm, hread'⟩

/-- **A batch without a runner** that fails leaves the files alone, and one that converts the
files of its pattern keeps every input that is not in the place of an output and every script
that is not replaced by that of a later file. -/
theorem convertFiles_keeps {host : Host} {options : BatchOptions} {pattern : String}
    {s s' : Session} {outcome : Except Error (List FileReport)} (hrunner : options.runner = none)
    (h : (convertFiles host options pattern).perform s = (outcome, s')) :
    (∀ e, outcome = .error e → s'.store = s.store) ∧
      ∀ reports, outcome = .ok reports →
        expandFiles pattern options.expand s.store = .ok (reports.map (·.input)) ∧
          BatchKeeps options s.store s'.store reports := by
  rcases convertFiles_cases host hrunner pattern s with
    ⟨e, -, hperform⟩ | ⟨reports, s₁, hfiles, hperform, hconversions⟩
  · rw [hperform] at h
    cases h
    exact ⟨fun _ _ => rfl, nofun⟩
  · rw [hperform] at h
    cases h
    refine ⟨nofun, ?_⟩
    rintro reports' ⟨⟩
    refine ⟨hfiles, fun report _ content hread hplaces => ?_, ?_⟩
    · exact hconversions.keeps_input hrunner hread hplaces
    · rintro htree earlier report later outputs rfl hok
      exact hconversions.keeps_script hrunner htree hok

/-! ### Scripts that meet -/

/-- A chart of one point. -/
def onePointText : String :=
  "\x7b\"type\":\"plot\",\"series\":[\x7b\"y\":[1]\x7d]\x7d"

/-- A chart of two points. -/
def twoPointsText : String :=
  "\x7b\"type\":\"plot\",\"series\":[\x7b\"y\":[1,2]\x7d]\x7d"

/-- **Three figures with one script**, one of which is stored where this goes. -/
def meetingScripts : Store where
  entries := [(["a.json"], .file (.text onePointText) false),
    (["a.py"], .file (.text onePointText) false), (["a.vfd"], .file (.text twoPointsText) false)]

theorem isTree_meetingScripts : meetingScripts.IsTree :=
  Store.isTree_of_entries (by decide)

theorem expandFiles_meetingScripts :
    expandFiles "*" true meetingScripts = .ok ["a.json", "a.py", "a.vfd"] := by
  have hlist : meetingScripts.list "." = ["a.json", "a.py", "a.vfd"] :=
    List.mergeSort_of_pairwise (by decide)
  rw [expandFiles, Store.expand_star _ (by decide), hlist]
  rfl

/-- Two of the three are converted, and both have the script in the place of the third. -/
theorem perform_meetingScripts :
    ∃ s' second, (convertFiles Host.bare {} "*").perform ⟨meetingScripts, []⟩ =
        (.ok [⟨"a.json", .ok ⟨"a.py", none, false⟩⟩, ⟨"a.py", second⟩,
          ⟨"a.vfd", .ok ⟨"a.py", none, false⟩⟩], s') ∧
      s'.store.read "a.py" ≠ .ok (.text onePointText) ∧
      (s'.store.readText "a.py").toOption ≠
        (Figure.ofText onePointText).toOption.bind fun figure =>
          (figure.script "a" {}).toOption := by
  have hperform : (convertFiles Host.bare {} "*").perform ⟨meetingScripts, []⟩ =
      (["a.json", "a.py", "a.vfd"].mapM (reportFile Host.bare {} "vfd::batch")).perform
        ⟨meetingScripts, []⟩ :=
    perform_convertFiles Host.bare rfl expandFiles_meetingScripts
  obtain ⟨reports, s', hreports, hinputs, -⟩ := perform_mapM_reportFile Host.bare {} "vfd::batch"
    ["a.json", "a.py", "a.vfd"] ⟨meetingScripts, []⟩
  -- the run is evaluated once, for everything that is said of it
  have hrun (run : Except Error (List FileReport) × Session)
      (hsame : (["a.json", "a.py", "a.vfd"].mapM (reportFile Host.bare {} "vfd::batch")).perform
        ⟨meetingScripts, []⟩ = run) :
      run.1.toOption.map (·.map (·.outcome.toOption)) =
          some [some ⟨"a.py", none, false⟩, none, some ⟨"a.py", none, false⟩] ∧
        run.2.store.read "a.py" ≠ .ok (.text onePointText) ∧
        (run.2.store.readText "a.py").toOption ≠
          (Figure.ofText onePointText).toOption.bind fun figure =>
            (figure.script "a" {}).toOption := by
    rw [← hsame]
    decide +kernel
  obtain ⟨houtcomes, hinput, hscript⟩ := hrun _ hreports
  have hlength : reports.length = 3 := by
    rw [← List.length_map, hinputs]
    rfl
  obtain ⟨⟨_, first⟩, ⟨_, second⟩, ⟨_, third⟩, rfl⟩ := List.length_eq_three.mp hlength
  cases hinputs
  have houtcomes := Option.some.inj houtcomes
  simp only [List.map_cons, List.map_nil, List.cons.injEq, Outcome.toOption_eq_some, and_true]
    at houtcomes
  obtain ⟨rfl, -, rfl⟩ := houtcomes
  exact ⟨s', second, hperform.trans hreports, hinput, hscript⟩

/-- **An input and a script are lost**: the chart that is stored as `a.py` is overwritten, and
the script that was made for `a.json` is not what there is in the end. -/
theorem exists_overwritten :
    ∃ (s s' : Session) (reports : List FileReport), s.store.IsTree ∧
      (convertFiles Host.bare {} "*").perform s = (.ok reports, s') ∧
      (∃ report ∈ reports, ∃ content, s.store.read report.input = .ok content ∧
        s'.store.read report.input ≠ .ok content) ∧
      ∃ report ∈ reports, ∃ outputs, report.outcome = .ok outputs ∧
        ∀ figure text, s.store.HasScript {} report.input figure text →
          s'.store.readText outputs.script ≠ .ok text := by
  obtain ⟨s', second, hperform, hinput, hscript⟩ := perform_meetingScripts
  have hstored : meetingScripts.read "a.py" = .ok (.text onePointText) := by decide +kernel
  refine ⟨⟨meetingScripts, []⟩, s', _, isTree_meetingScripts, hperform,
    ⟨⟨"a.py", second⟩, by simp, .text onePointText, hstored, hinput⟩,
    _, List.mem_cons_self, _, rfl, fun figure text hhas hfinal => hscript ?_⟩
  obtain ⟨⟨source, hread, hfigure⟩, name, hname, hcompiled⟩ := hhas
  have hsource : meetingScripts.readText "a.json" = .ok onePointText := by decide +kernel
  have hstem : Path.fileStem? "a.json" = some "a" := by decide +kernel
  cases hread.symm.trans hsource
  cases hname.symm.trans hstem
  rw [hfinal, hfigure]
  exact (congrArg Except.toOption hcompiled).symm

/-- The last of the three figures is kept, and so is its script. -/
theorem convertFiles_keeps_meetingScripts :
    ∃ (s' : Session) (reports : List FileReport),
      (convertFiles Host.bare {} "*").perform ⟨meetingScripts, []⟩ = (.ok reports, s') ∧
      s'.store.read "a.vfd" = .ok (.text twoPointsText) ∧
      ∃ figure text, meetingScripts.HasScript {} "a.vfd" figure text ∧
        s'.store.readText "a.py" = .ok text := by
  obtain ⟨s', second, hperform, -⟩ := perform_meetingScripts
  obtain ⟨-, hkeeps⟩ := convertFiles_keeps rfl hperform
  obtain ⟨-, hkeeps⟩ := hkeeps _ rfl
  have hstored : meetingScripts.read "a.vfd" = .ok (.text twoPointsText) := by decide +kernel
  refine ⟨s', _, hperform, ?_, ?_⟩
  · refine hkeeps.inputs ⟨"a.vfd", .ok ⟨"a.py", none, false⟩⟩ (by simp) _ hstored ?_
    have hplaces : ∀ input ∈ ["a.json", "a.py", "a.vfd"],
        meetingScripts.resolve (Path.withExtension input "py") ≠
          meetingScripts.resolve "a.vfd" := by
      decide +kernel
    intro other hother path output houtput
    have hinput : other.input ∈ ["a.json", "a.py", "a.vfd"] := List.mem_map_of_mem hother
    cases houtput with
    | spreadsheet _ hoption _ => cases hoption
    | script _ => exact hplaces _ hinput
  · obtain ⟨-, figure, text, hhas, hfinal | ⟨_, hlater, -⟩⟩ :=
      hkeeps.scripts isTree_meetingScripts [_, _] _ [] _ rfl rfl
    · exact ⟨figure, text, hhas, hfinal⟩
    · cases hlater

end FigureScript
