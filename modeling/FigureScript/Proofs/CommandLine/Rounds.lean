import FigureScript.CommandLine.Run
import FigureScript.Proofs.Session.Batch

/-!
# Rounds of the command line

The command line goes through its patterns in rounds: it expands a pattern, and converts the
files that this names.  A round that fails does not stop the others.  The interpreter is probed
in the middle of the first round with a file, and only a probe that fails stops everything.

## Main Definitions

* `CommandLine.Event`, `CommandLine.Steps` — what happens in a session, and what it does there
* `CommandLine.Round` — a pattern, and what came of it
* `CommandLine.Probing` — where the interpreter is probed
* `CommandLine.RunsThrough` — what happens when all files are converted

## Main Results

* `CommandLine.yields_convertInput` — one file
* `CommandLine.yields_convertPattern` — one round
* `CommandLine.convertAll_runsThrough` — all of them

## Design Notes

The loops carry what has happened so far.  As long as the interpreter has not been probed these
are expansions alone, so that a probe that fails has nothing behind it but them.
-/

namespace FigureScript.CommandLine

open FigureScript.Action

/-! ### Events -/

/-- **What happens on the command line** while files are converted. -/
inductive Event where
  /-- A pattern names these files, or cannot be expanded. -/
  | expanded (pattern : String) (files : Except Error (List String))
  | probed (outcome : Except Error Unit)
  /-- A file is converted, and its script is run if there is a runner. -/
  | converted (runner : Option Runner) (report : FileReport)

namespace Event

def isExpansion : Event → Bool
  | expanded .. => true
  | _ => false

def isProbe : Event → Bool
  | probed _ => true
  | _ => false

end Event

/-- **One event** and what it does to the files.  What is reported of it is left open. -/
inductive Step (host : Host) (options : BatchOptions) : Session → Event → Session → Prop where
  | expanded {s s' : Session} {pattern : String} {files : Except Error (List String)}
      (hfiles : expandFiles pattern options.expand s.store = files)
      (hstore : s'.store = s.store) : Step host options s (.expanded pattern files) s'
  | probed {s s' : Session} {runner : Runner} {outcome : Except Error Unit}
      (hrunner : options.runner = some runner)
      (hprobe : (runner.probe host).perform s = (outcome, s')) :
      Step host options s (.probed outcome) s'
  | converted {s s₁ s' : Session} {runner : Option Runner} {report : FileReport}
      (hfile : (convertFile host { options with runner } report.input).perform s =
        (report.outcome, s₁))
      (hreported : s'.store = s₁.store) : Step host options s (.converted runner report) s'

/-- **Events one after the other**, each in the session that the ones before it left. -/
inductive Steps (host : Host) (options : BatchOptions) (start : Session) :
    List Event → Session → Prop where
  | nil : Steps host options start [] start
  | snoc {events : List Event} {event : Event} {s s' : Session}
      (h : Steps host options start events s) (hlast : Step host options s event s') :
      Steps host options start (events ++ [event]) s'

/-- A pattern names a file. -/
def NamesFile (events : List Event) : Prop :=
  ∃ pattern file files, .expanded pattern (.ok (file :: files)) ∈ events

/-- **Where the interpreter is probed.** -/
inductive Probing (enabled : Bool) : List Event → Prop where
  /-- It is not probed.  If scripts are to be run, there is no file to be converted. -/
  | never {events : List Event} (hnever : ∀ event ∈ events, event.isProbe = false)
      (hfiles : enabled = true → ∀ event ∈ events, event.isExpansion = true) :
      Probing enabled events
  /-- It is probed once, when a pattern has named a file and none has been converted, and
  nothing happens behind a probe that fails. -/
  | once {before after : List Event} {outcome : Except Error Unit} (henabled : enabled = true)
      (hbefore : ∀ event ∈ before, event.isExpansion = true) (hfile : NamesFile before)
      (hafter : ∀ event ∈ after, event.isProbe = false)
      (hfailed : ∀ e, outcome = .error e → after = []) :
      Probing enabled (before ++ .probed outcome :: after)

/-! ### Rounds -/

/-- **A pattern, and what came of it**: a report for each file that it names, if it can be
expanded. -/
structure Round where
  pattern : String
  outcome : Except Error (List FileReport)

namespace Round

/-- What happens in a round, a probe apart: the files that the pattern names are converted, each
of them once and in their order. -/
def events (runner : Option Runner) (r : Round) : List Event :=
  .expanded r.pattern (r.outcome.map fun reports => reports.map (·.input)) ::
    (r.outcome.toOption.getD []).map (.converted runner)

/-- The pattern can be expanded, and all its files are converted. -/
def succeeded (r : Round) : Bool :=
  match r.outcome with
  | .ok reports => reports.all fun report => report.outcome.isOk
  | .error _ => false

end Round

/-- Scripts are to be run. -/
def runsScripts (a : Arguments) (settings : Settings) : Bool :=
  settings.runner.run && !a.has .scriptsOnly

/-- **What happens when all files are converted**, and the outcome. -/
structure RunsThrough (host : Host) (a : Arguments) (settings : Settings) (s : Session)
    (events : List Event) (outcome : Except Error Bool) (s' : Session) : Prop where
  steps : Steps host (batchOptions a settings) s events s'
  probing : Probing (runsScripts a settings) events
  runner : ∀ runner report, .converted runner report ∈ events →
    runner.isSome = runsScripts a settings
  /-- Unless a probe fails, each pattern has its round, whatever came of the ones before it, and
  the answer tells whether all of them succeeded. -/
  rounds : (∀ e, .probed (.error e) ∉ events) →
    ∃ rounds : List Round, rounds.map (·.pattern) = a.files ∧
      events.filter (!·.isProbe) =
        rounds.flatMap (Round.events (batchOptions a settings).runner) ∧
      outcome = .ok (rounds.all Round.succeeded)
  /-- When a probe fails, no file has been converted, and the files are as the interpreter found
  and left them. -/
  stopped : ∀ e, .probed (.error e) ∈ events →
    outcome = .error e ∧ (∀ runner report, .converted runner report ∉ events) ∧
      ∃ runner s₁, (batchOptions a settings).runner = some runner ∧ s₁.store = s.store ∧
        (runner.probe host).perform s₁ = (.error e, s')

/-- A file is converted with the runner of its round. -/
theorem Round.runner_eq_of_mem {runner runner' : Option Runner} {r : Round} {report : FileReport}
    (h : .converted runner' report ∈ r.events runner) : runner' = runner := by
  rcases List.mem_cons.mp h with h | h
  · cases h
  · obtain ⟨_, -, h⟩ := List.mem_map.mp h
    cases h
    rfl

section Runs

variable {host : Host} {options : BatchOptions} {start s s' : Session} {events : List Event}
  {progress : Progress}

/-- Expansions leave the files alone. -/
theorem Steps.store_eq (h : Steps host options start events s)
    (hevents : ∀ event ∈ events, event.isExpansion = true) : s.store = start.store := by
  induction h with
  | nil => rfl
  | snoc _ hlast ih =>
      rw [List.forall_mem_append, List.forall_mem_singleton] at hevents
      cases hlast with
      | expanded _ hstore => rw [hstore, ih hevents.1]
      | probed => cases hevents.2
      | converted => cases hevents.2

theorem NamesFile.append (h : NamesFile events) (later : List Event) :
    NamesFile (events ++ later) := by
  obtain ⟨pattern, file, files, hmem⟩ := h
  exact ⟨pattern, file, files, List.mem_append_left _ hmem⟩

/-- **Something else than a probe** happens: a file is converted without a runner, or behind a
probe. -/
theorem Probing.snoc {enabled : Bool} {event : Event} (h : Probing enabled events)
    (hevent : event.isProbe = false) (hunfailed : ∀ e, .probed (.error e) ∉ events)
    (hready : enabled = true → event.isExpansion = true ∨ .probed (.ok ()) ∈ events) :
    Probing enabled (events ++ [event]) := by
  cases h with
  | never hnever hfiles =>
      refine .never (List.forall_mem_append.mpr ⟨hnever, List.forall_mem_singleton.mpr hevent⟩)
        fun henabled => List.forall_mem_append.mpr
          ⟨hfiles henabled, List.forall_mem_singleton.mpr ?_⟩
      rcases hready henabled with hexpansion | hprobe
      · exact hexpansion
      · exact absurd (hnever _ hprobe) Bool.noConfusion
  | @once before after outcome henabled hbefore hfile hafter hfailed =>
      rw [List.append_assoc, List.cons_append]
      refine .once henabled hbefore hfile
        (List.forall_mem_append.mpr ⟨hafter, List.forall_mem_singleton.mpr hevent⟩) ?_
      rintro e rfl
      exact absurd (List.mem_append_right before List.mem_cons_self) (hunfailed e)

/-- **How far the command line has come**, with what has happened. -/
structure Reached (host : Host) (options : BatchOptions) (start : Session) (events : List Event)
    (progress : Progress) (s : Session) : Prop where
  steps : Steps host options start events s
  probing : Probing options.runner.isSome events
  unfailed : ∀ e, .probed (.error e) ∉ events
  waiting : progress.probed = false → ∀ event ∈ events, event.isExpansion = true
  ready : progress.probed = true → options.runner.isSome = true → .probed (.ok ()) ∈ events

/-- **A probe has failed**, and nothing but expansions has happened before it. -/
def Stopped (host : Host) (options : BatchOptions) (start : Session) (e : Error) (s' : Session) :
    Prop :=
  ∃ events s runner, options.runner = some runner ∧ Steps host options start events s ∧
    (∀ event ∈ events, event.isExpansion = true) ∧ NamesFile events ∧
    (runner.probe host).perform s = (.error e, s')

namespace Reached

variable (h : Reached host options start events progress s)
include h

/-- A pattern has been expanded. -/
theorem expanded {pattern : String} {files : Except Error (List String)} {succeeded : Bool}
    (hfiles : expandFiles pattern options.expand s.store = files) (hstore : s'.store = s.store) :
    Reached host options start (events ++ [.expanded pattern files])
      { progress with succeeded } s' where
  steps := h.steps.snoc (.expanded hfiles hstore)
  probing := h.probing.snoc rfl h.unfailed fun _ => .inl rfl
  unfailed e := by simpa using h.unfailed e
  waiting hprobed :=
    List.forall_mem_append.mpr ⟨h.waiting hprobed, List.forall_mem_singleton.mpr rfl⟩
  ready hprobed hrunner := List.mem_append_left _ (h.ready hprobed hrunner)

/-- The interpreter can draw. -/
theorem probed {runner : Runner} (hrunner : options.runner = some runner)
    (hwaiting : progress.probed = false) (hfile : NamesFile events)
    (hprobe : (runner.probe host).perform s = (.ok (), s')) :
    Reached host options start (events ++ [.probed (.ok ())]) { progress with probed := true }
      s' where
  steps := h.steps.snoc (.probed hrunner hprobe)
  probing := by
    rw [hrunner]
    exact .once rfl (h.waiting hwaiting) hfile (List.forall_mem_nil _) fun _ h => nomatch h
  unfailed e := by simpa using h.unfailed e
  waiting := nofun
  ready _ _ := List.mem_append_right _ List.mem_cons_self

/-- A file has been converted, at a time when the interpreter need not be probed any more. -/
theorem converted {report : FileReport} {succeeded : Bool} {s₁ : Session}
    (hready : options.runner.isSome = true → progress.probed = true)
    (hfile : (convertFile host options report.input).perform s = (report.outcome, s₁))
    (hreported : s'.store = s₁.store) :
    Reached host options start (events ++ [.converted options.runner report]) ⟨true, succeeded⟩
      s' where
  steps := h.steps.snoc (.converted hfile hreported)
  probing := h.probing.snoc rfl h.unfailed fun henabled =>
    .inr (h.ready (hready henabled) henabled)
  unfailed e := by simpa using h.unfailed e
  waiting := nofun
  ready _ hrunner := List.mem_append_left _ (h.ready (hready hrunner) hrunner)

end Reached

/-! ### One file -/

/-- A file waits for the interpreter to be probed. -/
theorem convertInput_waiting {runner : Runner} (hrunner : options.runner = some runner)
    (hwaiting : progress.probed = false) (input : String) :
    convertInput host options progress input = runner.probe host >>= fun _ =>
      convertInput host options { progress with probed := true } input := by
  unfold convertInput
  rw [hrunner, hwaiting]
  rfl

/-- **A file that need not wait** is converted, whatever comes of it. -/
theorem perform_convertInput (hready : options.runner.isSome = true → progress.probed = true)
    (input : String) (s : Session) :
    ∃ (report : FileReport) (s₁ s' : Session),
      (convertInput host options progress input).perform s =
        (.ok ⟨true, progress.succeeded && report.outcome.isOk⟩, s') ∧
      report.input = input ∧ (convertFile host options input).perform s = (report.outcome, s₁) ∧
      s'.store = s₁.store := by
  have hinput : ∃ next : FileReport → Action Progress,
      convertInput host options progress input = reportFile host options target input >>= next ∧
      (∀ outputs, next ⟨input, .ok outputs⟩ =
        (log .debug target (input ++ ": " ++ outputs.text) >>= fun _ =>
          pure { progress with probed := true })) ∧
      ∀ e, next ⟨input, .error e⟩ = pure { probed := true, succeeded := false } := by
    unfold convertInput
    cases hrunner : options.runner with
    | none => exact ⟨_, rfl, fun _ => rfl, fun _ => rfl⟩
    | some runner =>
        rw [hready (hrunner ▸ rfl)]
        exact ⟨_, rfl, fun _ => rfl, fun _ => rfl⟩
  obtain ⟨next, hinput, hok, herror⟩ := hinput
  obtain ⟨⟨_, outcome⟩, s₁, s₂, hreport, rfl, hfile, hstore⟩ :=
    perform_reportFile host options target input s
  rw [hinput, perform_bind_ok hreport]
  cases outcome with
  | ok outputs =>
      obtain ⟨s', hlogged, hlog⟩ := perform_log .debug target _ s₂
      refine ⟨⟨_, .ok outputs⟩, s₁, s', ?_, rfl, hfile, hlogged.trans hstore⟩
      rw [hok, Except.isOk, Except.toBool, Bool.and_true]
      exact perform_bind_ok hlog _
  | error e =>
      refine ⟨⟨_, .error e⟩, s₁, s₂, ?_, rfl, hfile, hstore⟩
      rw [herror, Except.isOk, Except.toBool, Bool.and_false]
      rfl

/-- What has happened once some more files have been converted. -/
def Converted (host : Host) (options : BatchOptions) (start : Session) (events : List Event)
    (succeeded : Bool) (inputs : List String) (progress : Progress) (s : Session) : Prop :=
  ∃ (later : List Event) (reports : List FileReport),
    Reached host options start (events ++ later) progress s ∧
    later.filter (!·.isProbe) = reports.map (.converted options.runner) ∧
    reports.map (·.input) = inputs ∧
    progress.succeeded = (succeeded && reports.all fun report => report.outcome.isOk)

/-- One more file that need not wait is converted. -/
theorem yields_convertInput_of_ready {succeeded : Bool} {inputs : List String}
    (h : Converted host options start events succeeded inputs progress s)
    (hready : options.runner.isSome = true → progress.probed = true) (input : String) :
    Yields (convertInput host options progress input) s
      (Converted host options start events succeeded (inputs ++ [input]))
      (Stopped host options start) := by
  obtain ⟨later, reports, hreached, hlater, rfl, hsucceeded⟩ := h
  obtain ⟨report, s₁, s', hperform, rfl, hfile, hstore⟩ := perform_convertInput hready input s
  refine .of_perform_ok hperform ⟨later ++ [.converted options.runner report],
    reports ++ [report], ?_, ?_, ?_, ?_⟩
  · rw [← List.append_assoc]
    exact hreached.converted hready hfile hstore
  · rw [List.filter_append, hlater, List.map_append]
    rfl
  · rw [List.map_append]
    rfl
  · simp [hsucceeded, Bool.and_assoc]

/-- **One more file**: it is converted, unless the interpreter is probed for it and cannot
draw. -/
theorem yields_convertInput {succeeded : Bool} {inputs : List String}
    (h : Converted host options start events succeeded inputs progress s)
    (hnamed : NamesFile events) (input : String) :
    Yields (convertInput host options progress input) s
      (Converted host options start events succeeded (inputs ++ [input]))
      (Stopped host options start) := by
  cases hrunner : options.runner with
  | none => exact yields_convertInput_of_ready h (by simp [hrunner]) input
  | some runner =>
      cases hwaiting : progress.probed with
      | true => exact yields_convertInput_of_ready h (fun _ => hwaiting) input
      | false =>
          obtain ⟨later, reports, hreached, hlater, hinputs, hsucceeded⟩ := h
          have hnamed := hnamed.append later
          have hprobe : Yields (runner.probe host) s
              (fun _ => Converted host options start events succeeded inputs
                { progress with probed := true }) (Stopped host options start) := by
            constructor
            · rintro ⟨⟩ s₁ hprobe
              refine ⟨later ++ [.probed (.ok ())], reports, ?_, ?_, hinputs, hsucceeded⟩
              · rw [← List.append_assoc]
                exact hreached.probed hrunner hwaiting hnamed hprobe
              · rw [List.filter_append, hlater]
                simp [Event.isProbe]
            · intro e s₁ hprobe
              exact ⟨_, _, runner, hrunner, hreached.steps, hreached.waiting hwaiting, hnamed,
                hprobe⟩
          rw [convertInput_waiting hrunner hwaiting]
          exact hprobe.bind fun _ s₁ h => yields_convertInput_of_ready h (fun _ => rfl) input

/-! ### One round -/

/-- What has happened once some patterns have had their rounds. -/
def Finished (host : Host) (options : BatchOptions) (start : Session) (patterns : List String)
    (progress : Progress) (s : Session) : Prop :=
  ∃ (events : List Event) (rounds : List Round), Reached host options start events progress s ∧
    events.filter (!·.isProbe) = rounds.flatMap (Round.events options.runner) ∧
    rounds.map (·.pattern) = patterns ∧ progress.succeeded = rounds.all Round.succeeded

/-- **One more round**: its files are converted, unless a probe fails. -/
theorem yields_convertPattern {patterns : List String}
    (h : Finished host options start patterns progress s) (pattern : String) :
    Yields (convertPattern host options progress pattern) s
      (Finished host options start (patterns ++ [pattern])) (Stopped host options start) := by
  obtain ⟨events, rounds, hreached, hevents, rfl, hsucceeded⟩ := h
  have hget : (get : Action Session).perform s = (.ok s, s) := rfl
  cases hfiles : expandFiles pattern options.expand s.store with
  | error e =>
      obtain ⟨s', hstore, hlog⟩ := perform_log .error target e.message s
      have hperform : (convertPattern host options progress pattern).perform s =
          (.ok { progress with succeeded := false }, s') := by
        unfold convertPattern
        rw [perform_bind_ok hget, hfiles]
        exact perform_bind_ok hlog _
      refine .of_perform_ok hperform ⟨_, rounds ++ [⟨pattern, .error e⟩],
        hreached.expanded hfiles hstore, ?_, ?_, ?_⟩
      · rw [List.filter_append, hevents, List.flatMap_append]
        rfl
      · rw [List.map_append]
        rfl
      · simp [Round.succeeded]
  | ok files =>
      have hperform : (convertPattern host options progress pattern).perform s =
          (files.foldlM (convertInput host options) progress).perform s := by
        unfold convertPattern
        rw [perform_bind_ok hget, hfiles]
      -- the files of the pattern are named before the first of them is converted
      have hstart : Converted host options start (events ++ [.expanded pattern (.ok files)])
          progress.succeeded [] progress s :=
        ⟨[], [], by simpa using hreached.expanded hfiles rfl, rfl, rfl, by simp⟩
      have hloop : Yields (files.foldlM (convertInput host options) progress) s
          (Converted host options start (events ++ [.expanded pattern (.ok files)])
            progress.succeeded ([] ++ files)) (Stopped host options start) := by
        refine .foldlM (fun done input progress s hinput h => ?_) hstart
        refine yields_convertInput h ⟨pattern, ?_⟩ input
        obtain ⟨file, rest, rfl⟩ := List.exists_cons_of_ne_nil (List.ne_nil_of_mem hinput)
        exact ⟨file, rest, List.mem_append_right _ List.mem_cons_self⟩
      rw [List.nil_append] at hloop
      refine ⟨fun progress' s' h => ?_, fun e s' h => hloop.error e s' (hperform.symm.trans h)⟩
      obtain ⟨later, reports, hreached, hlater, rfl, hsucceeded'⟩ :=
        hloop.ok progress' s' (hperform.symm.trans h)
      refine ⟨_, rounds ++ [⟨pattern, .ok reports⟩], hreached, ?_, ?_, ?_⟩
      · rw [List.filter_append, List.filter_append, hevents, hlater, List.flatMap_append,
          List.append_assoc]
        simp [Round.events, Event.isProbe, Except.map, Except.toOption]
      · rw [List.map_append]
        rfl
      · simp [hsucceeded', hsucceeded, Round.succeeded]

/-! ### All rounds -/

/-- All patterns have their rounds, unless a probe fails. -/
theorem yields_convertPatterns (host : Host) (options : BatchOptions) (patterns : List String)
    (s : Session) :
    Yields (patterns.foldlM (convertPattern host options) {}) s
      (Finished host options s patterns) (Stopped host options s) := by
  have hstart : Finished host options s [] {} s := by
    have hreached : Reached host options s [] {} s :=
      { steps := .nil
        probing := .never (List.forall_mem_nil _) fun _ => List.forall_mem_nil _
        unfailed := fun _ => List.not_mem_nil
        waiting := fun _ => List.forall_mem_nil _
        ready := fun h => absurd h Bool.false_ne_true }
    exact ⟨[], [], hreached, rfl, rfl, rfl⟩
  have hloop : Yields (patterns.foldlM (convertPattern host options) {}) s
      (Finished host options s ([] ++ patterns)) (Stopped host options s) := by
    refine .foldlM (fun done pattern progress s _ h => ?_) hstart
    exact yields_convertPattern h pattern
  rwa [List.nil_append] at hloop

end Runs

/-- A file is converted with a runner if scripts are to be run. -/
theorem isSome_runner (a : Arguments) (settings : Settings) :
    (batchOptions a settings).runner.isSome = runsScripts a settings := by
  rw [batchOptions, runsScripts]
  split
  next h => rw [h, Option.isSome_some]
  next h => rw [Bool.eq_false_iff.mpr h, Option.isSome_none]

/-- **All files are converted**, in rounds. -/
theorem convertAll_runsThrough (host : Host) (a : Arguments) (settings : Settings)
    (s : Session) :
    ∃ events outcome s', (convertAll host a settings).perform s = (outcome, s') ∧
      RunsThrough host a settings s events outcome s' := by
  have hloop := yields_convertPatterns host (batchOptions a settings) a.files s
  unfold convertAll
  rcases hperform : (a.files.foldlM (convertPattern host (batchOptions a settings)) {}).perform s
    with ⟨e | progress, s'⟩
  · obtain ⟨events, s₁, runner, hrunner, hsteps, hbefore, hnamed, hprobe⟩ :=
      hloop.error e s' hperform
    have hunconverted (runner : Option Runner) (report : FileReport) :
        .converted runner report ∉ events ++ [.probed (.error e)] := by
      intro hmem
      rcases List.mem_append.mp hmem with hmem | hmem
      · cases hbefore _ hmem
      · cases List.mem_singleton.mp hmem
    refine ⟨events ++ [.probed (.error e)], .error e, s', perform_bind_error hperform _,
      hsteps.snoc (.probed hrunner hprobe), ?_, ?_, ?_, ?_⟩
    · refine .once ?_ hbefore hnamed (List.forall_mem_nil _) fun _ _ => rfl
      rw [← isSome_runner, hrunner, Option.isSome_some]
    · exact fun runner report hmem => absurd hmem (hunconverted runner report)
    · intro hunfailed
      exact absurd (List.mem_append_right _ List.mem_cons_self) (hunfailed e)
    · intro e' hmem
      obtain rfl : e' = e := by
        rcases List.mem_append.mp hmem with hmem | hmem
        · cases hbefore _ hmem
        · cases List.mem_singleton.mp hmem
          rfl
      exact ⟨rfl, hunconverted, runner, s₁, hrunner, hsteps.store_eq hbefore, hprobe⟩
  · obtain ⟨events, rounds, hreached, hevents, hrounds, hsucceeded⟩ :=
      hloop.ok progress s' hperform
    refine ⟨events, .ok progress.succeeded, s', (perform_bind_ok hperform _).trans rfl,
      hreached.steps, ?_, ?_, ?_, ?_⟩
    · rw [← isSome_runner]
      exact hreached.probing
    · intro runner report hmem
      have hmem : .converted runner report ∈ events.filter (!·.isProbe) :=
        List.mem_filter.mpr ⟨hmem, rfl⟩
      rw [hevents] at hmem
      obtain ⟨round, -, hmem⟩ := List.mem_flatMap.mp hmem
      rw [Round.runner_eq_of_mem hmem, isSome_runner]
    · exact fun _ => ⟨rounds, hrounds, hevents, by rw [hsucceeded]⟩
    · exact fun e hfailed => absurd hfailed (hreached.unfailed e)

end FigureScript.CommandLine
