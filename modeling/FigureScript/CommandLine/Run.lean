import FigureScript.CommandLine.Arguments
import FigureScript.Session.Batch
import FigureScript.Settings.Discover

/-!
# The command line

## Main Definitions

* `CommandLine.run` — what the command line does with its arguments
* `CommandLine.Outcome` — its status and its outputs
* `LogEntry.line` — an entry of the log as it is shown

## Design Notes

Flags go before settings.  A file or a pattern that fails does not stop the others, but
settings that cannot be read and an interpreter that cannot draw stop everything.  The
interpreter is probed once, before the first file.
-/

namespace FigureScript

/-- What was made of a file, as the log shows it. -/
def Outputs.text (o : Outputs) : String :=
  let spreadsheet := match o.spreadsheet with
    | none => "None"
    | some path => "Some(" ++ Text.displayed path ++ ")"
  "Outputs \x7b script: " ++ Text.displayed o.script ++ ", spreadsheet: " ++ spreadsheet ++
    ", executed: " ++ toString o.executed ++ " \x7d"

namespace LogLevel

/-- The colour of a level, as a terminal is told it. -/
def color : LogLevel → String
  | debug => "\x1b[36m"
  | info => "\x1b[32m"
  | warn => "\x1b[33m"
  | error => "\x1b[31m"

/-- The name of a level with five letters or blanks. -/
def paddedName (level : LogLevel) : String :=
  level.name ++ String.ofList (List.replicate (5 - level.name.length) ' ')

end LogLevel

/-- **The line of a log entry**, with a text for the milliseconds since the start. -/
def LogEntry.line (elapsed : String) (entry : LogEntry) : String :=
  "[+" ++ elapsed ++ "ms] " ++ entry.level.color ++ "[" ++ entry.level.paddedName ++
    "]\x1b[0m [" ++ entry.target ++ "] " ++ entry.message

namespace CommandLine

/-! ### Options -/

/-- The part of the program that the command line reports as. -/
def target : String := "vfd"

/-- The options of scripts: those of the settings, unless flags say otherwise. -/
def programOptions (a : Arguments) (s : Settings) : ProgramOptions :=
  let options := s.programOptions
  { options with
    formats := if a.formats.isEmpty then options.formats else a.formats.filter (· ≠ "")
    presets := match a.style with
      | some style => (style.splitOn "/").filter (· ≠ "")
      | none => options.presets
    tightLayout := a.has .tightLayout || options.tightLayout
    scaleGrid := a.has .scaleGrid || options.scaleGrid }

/-- The options of conversions. -/
def batchOptions (a : Arguments) (s : Settings) : BatchOptions where
  program := programOptions a s
  expand := !a.has .literalNames
  spreadsheet := a.has .spreadsheet
  runner :=
    if s.runner.run && !a.has .scriptsOnly then some ⟨s.runner.interpreter, s.runner.patience⟩
    else none
  blocking := s.runner.blocking

/-- The environment asks for debug output. -/
def isDebugRequested (env : Environment) : Bool :=
  (env.get? "VFD_DEBUG").any fun value => value = "1" || value.toLower = "true"

/-! ### Conversions -/

/-- How far the conversions have come. -/
structure Progress where
  /-- The interpreter has been probed. -/
  probed : Bool := false
  /-- Nothing has failed. -/
  succeeded : Bool := true

/-- Converts a file, once the interpreter is known to draw. -/
def convertInput (host : Host) (options : BatchOptions) (progress : Progress) (input : String) :
    Action Progress := do
  if let some runner := options.runner then
    if !progress.probed then runner.probe host
  let report ← reportFile host options target input
  match report.outcome with
  | .ok outputs =>
    Action.log .debug target (input ++ ": " ++ outputs.text)
    return { progress with probed := true }
  | .error _ => return { probed := true, succeeded := false }

/-- Converts the files that an argument names. -/
def convertPattern (host : Host) (options : BatchOptions) (progress : Progress)
    (pattern : String) : Action Progress := do
  match expandFiles pattern options.expand (← get).store with
  | .error e =>
    Action.log .error target e.message
    return { progress with succeeded := false }
  | .ok files => files.foldlM (convertInput host options) progress

/-- Converts all files with the settings; the answer tells that nothing failed. -/
def convertAll (host : Host) (a : Arguments) (s : Settings) : Action Bool := do
  let progress ← a.files.foldlM (convertPattern host (batchOptions a s)) {}
  return progress.succeeded

/-! ### Outcomes -/

/-- **The status of the command line and its outputs.** -/
structure Outcome where
  status : Nat
  /-- What is printed. -/
  output : String := ""
  /-- The reports that are shown. -/
  reports : List Report := []
  /-- The last line, if everything was stopped. -/
  failure : Option String := none

/-- A report is shown. -/
def isShown (debug : Bool) : Report → Bool
  | .entry entry => debug || entry.level.isSerious
  | .output _ => true

/-- The error output, with a text for the milliseconds in front of each entry. -/
def Outcome.errorOutput (o : Outcome) (elapsed : String) : List UInt8 :=
  (o.reports.flatMap fun
    | .entry entry => Utf8.encode (entry.line elapsed ++ "\n")
    | .output bytes => bytes) ++
    match o.failure with
    | some failure => Utf8.encode (failure ++ "\n")
    | none => []

/-- How the command line is used. -/
def usage : String :=
  "\n".intercalate
    ["Usage: vfd [OPTIONS] [FILES]...", "",
      "Create scripts from figure descriptions", "",
      "  -f, --format <FORMATS>  File formats to save, separated by commas",
      "  -s, --style <STYLE>     Style presets, separated by slashes",
      "      --tight-layout      Fit the layout to the figure",
      "      --scale-multiplot   Enlarge grids of figures with their size",
      "      --xlsx              Also write a spreadsheet for each plot",
      "      --no-run            Only write the scripts",
      "      --no-glob           Take file names literally",
      "  -c, --config <CONFIG>   File of settings",
      "      --debug             Show debug output",
      "  -h, --help              Print help",
      "  -V, --version           Print version", ""]

/-- The entry with which debug output starts. -/
def debugEntry : LogEntry :=
  ⟨.debug, "vfd::debug", "debug output enabled"⟩

/-- Reads the settings and converts the files. -/
def convert (host : Host) (env : Environment) (a : Arguments) : Action (Nat × Option String) := do
  match ← Action.attempt (Settings.discover env a.settingsFile) with
  | .error e => return (1, some ("Error: loading configuration: " ++ e.chain))
  | .ok settings =>
    match ← Action.attempt (convertAll host a settings) with
    | .error e => return (1, some ("Error: " ++ e.chain))
    | .ok succeeded => return (if succeeded then 0 else 1, none)

/-- **What the command line does**: its outcome, and the files afterwards.  Without a file
it only shows its help. -/
def run (host : Host) (env : Environment) (arguments : List String) (store : Store) :
    Outcome × Store :=
  match Invocation.ofArguments arguments with
  | .help => ({ status := 0, output := usage }, store)
  | .version => ({ status := 0, output := "vfd 0.4.0\n" }, store)
  | .misuse => ({ status := 2, failure := some "error: wrong arguments, see --help" }, store)
  | .convert a =>
    let debug := a.has .debug || isDebugRequested env
    let action : Action (Nat × Option String) := do
      Action.logAll [debugEntry]
      if a.files.isEmpty then return (0, none) else convert host env a
    let (outcome, session) := Action.perform action { store }
    let (status, failure) := outcome.toOption.getD (1, none)
    ({ status, output := if a.files.isEmpty then usage else ""
       reports := session.reports.filter (isShown debug), failure }, session.store)

end CommandLine

end FigureScript
