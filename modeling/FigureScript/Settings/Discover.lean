import FigureScript.Session.Basic
import FigureScript.Settings.Basic

/-!
# Finding settings

The file of settings is named explicitly, by the environment, or it is that of the user.

## Main Definitions

* `Environment` — the variables of the environment
* `Settings.load` — the settings of a file
* `Settings.discover` — the settings that are in force

## Design Notes

A file that is named must exist; the file of the user need not.  Variables of the
environment go before the file.
-/

namespace FigureScript

/-- **The variables of the environment** that are set. -/
abbrev Environment := List (String × String)

namespace Environment

/-- The value of a variable. -/
def get? (env : Environment) (name : String) : Option String :=
  (env.find? (·.1 = name)).map (·.2)

/-- The directory for files of settings. -/
def settingsDirectory? (env : Environment) : Option String :=
  match (env.get? "XDG_CONFIG_HOME").filter Path.isAbsolute with
  | some directory => some directory
  | none => ((env.get? "HOME").filter (· ≠ "")).map (Path.join · ".config")

/-- The file of the user's settings. -/
def settingsFile? (env : Environment) : Option String :=
  env.settingsDirectory?.map fun directory => Path.join (Path.join directory "vfd") "config.yaml"

end Environment

namespace Settings

/-- **The settings of a file.** -/
def load (path : String) : Action Settings := do
  match ofText (← Action.readText path) with
  | .ok settings => return settings
  | .error e => throw e

/-- The settings of a file, or the standard ones if it cannot be read. -/
def loadOrDefault (path : String) : Action Settings := do
  match ← Action.attempt (load path) with
  | .ok settings => return settings
  | .error _ => return {}

/-- The file that is to be loaded. -/
def file? (env : Environment) (explicit : Option String) : Action (Option String) := do
  match explicit.or (env.get? "VFD_CONFIG") with
  | some path => return some path
  | none =>
    let store := (← get).store
    return env.settingsFile?.filter store.isFile

/-- The settings with those of the environment. -/
def withEnvironment (s : Settings) (env : Environment) : Settings :=
  match (env.get? "VFD_PYTHON").filter (· ≠ "") with
  | some interpreter => { s with runner := { s.runner with interpreter } }
  | none => s

/-- **The settings that are in force.** -/
def discover (env : Environment) (explicit : Option String) : Action Settings := do
  match ← file? env explicit with
  | none => return withEnvironment {} env
  | some path =>
    Action.log .debug "vfd::config" ("loading configuration from " ++ path)
    return (← load path).withEnvironment env

end Settings

end FigureScript
