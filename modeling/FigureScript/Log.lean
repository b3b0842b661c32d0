/-!
# Log entries

What an operation reports besides its result.

## Main Definitions

* `LogLevel` — the weight of an entry
* `LogEntry` — a level, the part of the program that reports, and a message
-/

namespace FigureScript

/-- The weight of a log entry. -/
inductive LogLevel where
  | debug
  | info
  | warn
  | error
  deriving DecidableEq

namespace LogLevel

/-- The name of a level. -/
def name : LogLevel → String
  | debug => "DEBUG"
  | info => "INFO"
  | warn => "WARN"
  | error => "ERROR"

/-- The entry is shown without being asked for. -/
def isSerious : LogLevel → Bool
  | debug | info => false
  | warn | error => true

end LogLevel

/-- **A log entry.** -/
structure LogEntry where
  level : LogLevel
  /-- The part of the program that reports. -/
  target : String
  message : String
  deriving DecidableEq

/-- What has been reported, in order. -/
abbrev Log := List LogEntry

end FigureScript
