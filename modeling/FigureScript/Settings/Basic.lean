import FigureScript.Program.OfFigure
import FigureScript.Text.Lines
import FigureScript.Yaml.Decode

/-!
# Settings

What a user sets once for all conversions, in a YAML file.

## Main Definitions

* `Settings` — the settings, each with a value for when it is not given
* `Settings.ofText` — the settings of a text
* `Settings.programOptions` — what they say about scripts
-/

namespace FigureScript

/-- What is written. -/
structure OutputSettings where
  /-- The file formats to save; without any the figure is shown. -/
  formats : List String := []
  tightLayout : Bool := false
  scaleGrid : Bool := false
  deriving DecidableEq

/-- What figures look like. -/
structure StyleSettings where
  /-- Style presets around each figure. -/
  presets : List String := []
  /-- Style lists that go before those of figures. -/
  overrides : StyleHint := {}
  deriving DecidableEq

/-- How scripts are run. -/
structure RunnerSettings where
  interpreter : String := "python"
  /-- Scripts are run once they are written. -/
  run : Bool := true
  /-- The end of each script is waited for. -/
  blocking : Bool := true
  /-- How long a probe may take, in milliseconds. -/
  patience : Nat := 5000
  deriving DecidableEq

/-- **The settings of a user.** -/
structure Settings where
  version : Nat := 1
  output : OutputSettings := {}
  style : StyleSettings := {}
  runner : RunnerSettings := {}
  deriving DecidableEq

/-! ### Reading -/

open Yaml Decoder

/-- The settings of outputs. -/
def OutputSettings.decoder : Decoder OutputSettings :=
  record "OutputConfig" {}
    [ field "formats" (list string) fun formats o => { o with formats },
      field "tight_layout" bool fun tightLayout o => { o with tightLayout },
      field "scale_multiplot" bool fun scaleGrid o => { o with scaleGrid } ]

/-- A list that overrides the one of figures. -/
def StyleSettings.override (name : String) (set : Option (List String) → StyleHint → StyleHint) :
    RecordField StyleSettings :=
  field name (optional (list string)) fun tokens s =>
    { s with overrides := set tokens s.overrides }

/-- The settings of styles. -/
def StyleSettings.decoder : Decoder StyleSettings :=
  record "StyleConfig" {}
    [ field "context" (list string) fun presets s => { s with presets },
      override "colors" fun colors h => { h with colors },
      override "lines" fun lines h => { h with lines },
      override "markers" fun markers h => { h with markers } ]

/-- The settings of runs. -/
def RunnerSettings.decoder : Decoder RunnerSettings :=
  record "RunnerConfig" {}
    [ field "interpreter" string fun interpreter r => { r with interpreter },
      field "run" bool fun run r => { r with run },
      field "blocking" bool fun blocking r => { r with blocking },
      field "probe_timeout_ms" nat64 fun patience r => { r with patience } ]

namespace Settings

/-- All settings. -/
def decoder : Decoder Settings :=
  record "Config" {}
    [ field "version" nat32 fun version s => { s with version },
      field "output" OutputSettings.decoder fun output s => { s with output },
      field "style" StyleSettings.decoder fun style s => { s with style },
      field "runner" RunnerSettings.decoder fun runner s => { s with runner } ]

/-- **The settings of a text.**  A blank text sets nothing. -/
def ofText (text : String) : Except Error Settings :=
  if Text.isAllBlank text.toList then .ok {}
  else (parse decoder text).mapError fun failure => .config failure.line failure.message

/-! ### Use -/

/-- **What the settings say about scripts.** -/
def programOptions (s : Settings) : ProgramOptions where
  presets := s.style.presets
  formats := s.output.formats
  tightLayout := s.output.tightLayout
  scaleGrid := s.output.scaleGrid
  overrides := s.style.overrides

end Settings

end FigureScript
