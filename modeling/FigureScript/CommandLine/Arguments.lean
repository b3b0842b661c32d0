/-!
# Arguments of the command line

## Main Definitions

* `Arguments` — what the command line asks for
* `Invocation` — what is to be done
* `Invocation.ofArguments` — the invocation of a list of arguments

## Design Notes

Arguments are read from left to right, and the first one that asks for help, asks for the
version or is wrong decides.  A switch, and an option with a single value, stand at most
once.  A value is attached to its option or is the argument behind it; in the latter case
it does not start with a hyphen, unless it is nothing else.  Behind `--` everything is a
file.
-/

namespace FigureScript

/-- What is on or off. -/
inductive Switch where
  | tightLayout
  | scaleGrid
  | spreadsheet
  | scriptsOnly
  | literalNames
  | debug
  deriving DecidableEq

/-- What has a value. -/
inductive Setting where
  | formats
  | style
  | settingsFile
  deriving DecidableEq

/-- **What the command line asks for.** -/
structure Arguments where
  /-- File names or patterns. -/
  files : List String := []
  formats : List String := []
  style : Option String := none
  settingsFile : Option String := none
  switches : List Switch := []
  deriving DecidableEq

/-- **What is to be done.** -/
inductive Invocation where
  | help
  | version
  /-- The arguments are wrong. -/
  | misuse
  | convert (arguments : Arguments)
  deriving DecidableEq

namespace Switch

/-- The switch of a name behind two hyphens. -/
def ofName? (name : String) : Option Switch :=
  match name with
  | "tight-layout" => some tightLayout
  | "scale-multiplot" => some scaleGrid
  | "xlsx" => some spreadsheet
  | "no-run" => some scriptsOnly
  | "no-glob" => some literalNames
  | "debug" => some debug
  | _ => none

end Switch

namespace Setting

/-- The option of a name behind two hyphens. -/
def ofName? (name : String) : Option Setting :=
  match name with
  | "format" => some formats
  | "style" => some style
  | "config" => some settingsFile
  | _ => none

/-- The option of a letter behind one hyphen. -/
def ofLetter? (letter : Char) : Option Setting :=
  match letter with
  | 'f' => some formats
  | 's' => some style
  | 'c' => some settingsFile
  | _ => none

end Setting

namespace Arguments

/-- The switch is on. -/
def has (a : Arguments) (switch : Switch) : Bool :=
  a.switches.contains switch

/-- The arguments with a switch on, unless it is already. -/
def turnOn? (a : Arguments) (switch : Switch) : Option Arguments :=
  if a.has switch then none else some { a with switches := a.switches ++ [switch] }

/-- The arguments with a value.  Formats are separated by commas, and a file of settings
has a name. -/
def set? (a : Arguments) (setting : Setting) (value : String) : Option Arguments :=
  match setting with
  | .formats => some { a with formats := a.formats ++ value.splitOn "," }
  | .style => if a.style.isSome then none else some { a with style := some value }
  | .settingsFile =>
    if a.settingsFile.isSome || value = "" then none
    else some { a with settingsFile := some value }

/-- The arguments with further files. -/
def addFiles (a : Arguments) (files : List String) : Arguments :=
  { a with files := a.files ++ files }

end Arguments

/-! ### Reading -/

/-- **One argument by its form.** -/
inductive Argument where
  /-- Two hyphens alone. -/
  | separator
  /-- A name behind two hyphens, with what is attached by an equals sign. -/
  | long (name : String) (attached : Option String)
  /-- A letter behind one hyphen, with what is attached to it. -/
  | short (letter : Char) (attached : List Char)
  | plain (text : String)
  deriving DecidableEq

namespace Argument

/-- The form of an argument. -/
def ofText (text : String) : Argument :=
  match text.toList with
  | ['-', '-'] => separator
  | '-' :: '-' :: rest =>
    let name := rest.takeWhile (· ≠ '=')
    let attached := match rest.drop name.length with
      | [] => none
      | _ :: value => some (String.ofList value)
    long (String.ofList name) attached
  | '-' :: letter :: attached => short letter attached
  | _ => plain text

/-- What is attached to a letter: behind an equals sign, if there is one. -/
def attachedValue : List Char → Option String
  | [] => none
  | '=' :: value => some (String.ofList value)
  | value => some (String.ofList value)

end Argument

namespace Invocation

/-- Goes on with arguments, unless they are wrong. -/
def orMisuse (arguments : Option Arguments) (goOn : Arguments → Invocation) : Invocation :=
  match arguments with
  | some arguments => goOn arguments
  | none => misuse

/-- The invocation of the arguments behind those that have been read; an option may wait for
its value. -/
def read (a : Arguments) : (waiting : Option Setting) → List String → Invocation
  | none, [] => convert a
  | some _, [] => misuse
  | waiting, text :: rest =>
    match waiting, Argument.ofText text with
    | some setting, .plain value => orMisuse (a.set? setting value) fun a => read a none rest
    | some _, _ => misuse
    | none, .plain file => read (a.addFiles [file]) none rest
    | none, .separator => convert (a.addFiles rest)
    | none, .long name attached =>
      match Setting.ofName? name, Switch.ofName? name, attached with
      | some setting, _, some value => orMisuse (a.set? setting value) fun a => read a none rest
      | some setting, _, none => read a (some setting) rest
      | none, some switch, none => orMisuse (a.turnOn? switch) fun a => read a none rest
      | none, none, none =>
        if name = "help" then help else if name = "version" then version else misuse
      | none, _, some _ => misuse
    | none, .short letter attached =>
      match Setting.ofLetter? letter with
      | some setting =>
        match Argument.attachedValue attached with
        | some value => orMisuse (a.set? setting value) fun a => read a none rest
        | none => read a (some setting) rest
      | none =>
        if letter = 'h' then help else if letter = 'V' then version else misuse

/-- **The invocation of a list of arguments.** -/
def ofArguments (arguments : List String) : Invocation :=
  read {} none arguments

end Invocation

end FigureScript
