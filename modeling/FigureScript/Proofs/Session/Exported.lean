import FigureScript.Proofs.Program.Phases
import FigureScript.Proofs.Recorder.Saved
import FigureScript.Proofs.Session.Conversion

/-!
# Exported figures

A recorded figure that is exported to a path is saved beside it, and a script that lies there
too saves the picture.  The name of the picture is put together from the stem of the saved
figure and the format that the path names, and this gives the last name of the path again.

## Main Definitions

* `FigureRecorder.ExportsTo` — what a script does with its picture for a path
* `FigureRecorder.Exported` — what an exported figure leaves behind

## Main Results

* `FigureRecorder.exportsTo_output` — the options for a path make its script export to it
* `FigureRecorder.exportTo_exported` — a figure that is exported

## Design Notes

The two files have the stem of the path and extensions of their own, so neither of them and no
spreadsheet is in the place of another one, as long as every file lies in a directory.
-/

namespace FigureScript.FigureRecorder

open FigureScript.Action

/-- **What a script does with its picture for a path.** -/
structure ExportsTo (path stem : String) (formats : List String) (outputs : List Statement) :
    Prop where
  /-- A path with an extension is where the picture is saved, and nowhere else. -/
  named : ∀ ext, Path.extension? path = some ext → ext ≠ "vfd" →
    ∃ name, Path.fileName? path = some name ∧ outputs = [.saveFigure name]
  /-- Otherwise it is saved in each of the formats, or shown if there is none. -/
  unnamed : Path.extension? path = none ∨ Path.extension? path = some "vfd" →
    Ends stem formats outputs

/-- **What an exported figure leaves behind**: itself, and the script of the figure that is read
from its text. -/
structure Exported (f : FigureRecorder) (path stem : String) (options : BatchOptions)
    (files : Store) (script : String) : Prop where
  saved : ∃ file, Path.LiesBeside path (stem ++ "." ++ "vfd") file ∧
    files.readText file = .ok (f.figure.toText false)
  beside : Path.LiesBeside path (stem ++ "." ++ "py") script
  exports : ∃ figure program, Figure.ofText (f.figure.toText false) = .ok figure ∧
    figure.program stem (optionsFor path options).program = .ok program ∧
    files.readText script = .ok (source program) ∧
    ExportsTo path stem options.program.formats
      ((stepsOf program).filter (·.phase = .output))

/-- **The options for a path** make a script export to it. -/
theorem exportsTo_output {path stem : String} (hstem : Path.fileStem? path = some stem)
    (options : BatchOptions) :
    ExportsTo path stem options.program.formats
      (Figure.output stem (optionsFor path options).program.formats) := by
  constructor
  · intro ext hext hne
    have hformat : format? path = some ext := by
      rw [format?, hext]
      simp [hne]
    refine ⟨_, Path.fileName?_of_extension? hstem hext, ?_⟩
    rw [optionsFor, hformat]
    rfl
  · intro hext
    have hformat : format? path = none := by
      rw [format?]
      rcases hext with hext | hext <;> rw [hext] <;> rfl
    rw [optionsFor, hformat]
    exact Figure.ends_output stem options.program.formats

theorem runner_optionsFor (path : String) (options : BatchOptions) :
    (optionsFor path options).runner = options.runner := by
  rw [optionsFor]
  split <;> rfl

/-- **A figure that is exported** without being run leaves its text and a script that exports it
to the path. -/
theorem exportTo_exported {f : FigureRecorder} {host : Host} {path : String}
    {options : BatchOptions} {outputs : Outputs} {s s' : Session} (htree : s.store.IsTree)
    (hrunner : options.runner = none)
    (h : (f.exportTo host path options).perform s = (.ok outputs, s')) :
    ∃ stem, Path.fileStem? path = some stem ∧
      Exported f path stem options s'.store outputs.script := by
  unfold exportTo at h
  obtain ⟨input, s₁, hsave, h⟩ := bind_eq_ok.mp h
  rw [hrunner] at h
  obtain ⟨-, hinput, hwrite⟩ := save_writes hsave
  have htree₁ := htree.write hwrite
  have hrunner := (runner_optionsFor path options).trans hrunner
  obtain ⟨name, figure, text, hname, ⟨_, hread, hfigure⟩, hcompiled, hscript, hleft⟩ :=
    convertFile_leaves hrunner htree₁ h
  obtain ⟨program, hprogram, rfl⟩ := Outcome.map_eq_ok.mp hcompiled
  have hsaved := Store.readText_of_write hwrite
  obtain rfl := Except.ok.inj (hsaved.symm.trans hread)
  -- the script has the stem of the saved figure, and this has the one of the path
  obtain ⟨stem, hstem⟩ := Path.exists_fileStem? (hinput ▸ hname)
  have hbeside : Path.LiesBeside path (stem ++ "." ++ "vfd") input := by
    rw [hinput] at hwrite ⊢
    exact htree.liesBeside_of_write hstem (by decide) hwrite
  obtain rfl : stem = name :=
    Option.some.inj ((hbeside.fileStem? hstem (by decide)).symm.trans hname)
  refine ⟨stem, hstem, ⟨input, hbeside, ?_⟩, hbeside.trans hscript, figure, program, hfigure,
    hprogram, hleft, ?_⟩
  · rw [Store.readText_eq_ok, hinput] at hsaved
    have hkept := convertFile_keeps host hrunner htree₁ hstem (by decide) (by decide) (by decide)
      hsaved input
    rw [h, ← hinput] at hkept
    exact Store.readText_eq_ok.mpr hkept
  · rw [Figure.outputs_of_program hprogram]
    exact exportsTo_output hstem options

/-- The formats of the options do not count for a path with an extension, and the dots before
the last one belong to the stem. -/
theorem exportTo_exported_dottedPath :
    ∃ s', ((applyAll {} [onePoint]).exportTo Host.bare "a.b.png"
        { program := { formats := ["pdf"] } }).perform ⟨{}, []⟩ =
        (.ok ⟨"a.b.py", none, false⟩, s') ∧
      ∃ program, s'.store.readText "a.b.py" = .ok (source program) ∧
        (stepsOf program).filter (·.phase = .output) = [.saveFigure "a.b.png"] := by
  have htree : Store.IsTree {} := Store.isTree_of_entries (List.forall_mem_nil _)
  have hname : Path.fileName? "a.b.png" = some "a.b.png" := by decide +kernel
  have hext : Path.extension? "a.b.png" = some "png" := by decide +kernel
  have hrun (run : Except Error Outputs × Session)
      (hsame : ((applyAll {} [onePoint]).exportTo Host.bare "a.b.png"
        { program := { formats := ["pdf"] } }).perform ⟨{}, []⟩ = run) :
      run.1.toOption = some ⟨"a.b.py", none, false⟩ := by
    rw [← hsame]
    decide +kernel
  rcases hperform : ((applyAll {} [onePoint]).exportTo Host.bare "a.b.png"
    { program := { formats := ["pdf"] } }).perform ⟨{}, []⟩ with ⟨outcome, s'⟩
  obtain rfl := Outcome.toOption_eq_some.mp (hrun _ hperform)
  obtain ⟨stem, -, -, -, figure, program, -, -, hread, hexports⟩ :=
    exportTo_exported htree rfl hperform
  obtain ⟨name, hname', houtputs⟩ := hexports.named "png" hext (by decide)
  cases hname.symm.trans hname'
  exact ⟨s', rfl, program, hread, houtputs⟩

end FigureScript.FigureRecorder
