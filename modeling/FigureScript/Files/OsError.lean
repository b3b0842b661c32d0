/-!
# Failures of file operations

The ways in which an operation on a file or a program can fail, and their wording.
-/

namespace FigureScript

/-- **Why an operation on a file failed.** -/
inductive OsError where
  | notFound
  | permissionDenied
  | notDirectory
  | isDirectory
  | notExecutable
  | nameTooLong
  | nulInPath
  | nulInCommand
  /-- The content of the file is not text. -/
  | notText
  /-- The path does not end in a name. -/
  | noFileName
  deriving DecidableEq

/-- The wording of a failure by itself. -/
def OsError.reason : OsError → String
  | notFound => "No such file or directory"
  | permissionDenied => "Permission denied"
  | notDirectory => "Not a directory"
  | isDirectory => "Is a directory"
  | notExecutable => "Exec format error"
  | nameTooLong => "File name too long"
  | nulInPath => "file name contained an unexpected NUL byte"
  | nulInCommand => "nul byte found in provided data"
  | notText => "stream did not contain valid UTF-8"
  | noFileName => "no file name"

/-- The number of a failure, if the system has one for it. -/
def OsError.number? : OsError → Option Nat
  | notFound => some 2
  | notExecutable => some 8
  | permissionDenied => some 13
  | notDirectory => some 20
  | isDirectory => some 21
  | nameTooLong => some 36
  | nulInPath | nulInCommand | notText | noFileName => none

/-- **The wording of a failure**, with its number. -/
def OsError.message (e : OsError) : String :=
  match e.number? with
  | some n => e.reason ++ s!" (os error {n})"
  | none => e.reason

end FigureScript
