import FigureScript.CommandLine.Run
import FigureScript.Process.Machine

/-!
# The program

The command line on the files of a real machine.  Those that it may need are read first,
and those that it changed are written afterwards.

## Main Definitions

* `main` — the program

## Design Notes

Only the working directory, the directories of the arguments and the file of settings
are read, down to a depth.  A spreadsheet exists only as its content, so it is announced
instead of written.
-/

namespace FigureScript.Disk

/-- How many directories below each other are read. -/
def maxDepth : Nat := 12

/-- The path of a place. -/
def pathOf (place : Place) : String :=
  "/" ++ "/".intercalate place

/-- Adds to a store what an absolute path names. -/
def loadTree : (depth : Nat) → Store → (path : String) → IO Store
  | 0, store, _ => return store
  | depth + 1, store, path => do
    try
      let found ← IO.FS.realPath path
      if ← found.isDir then
        let entries ← found.readDir
        entries.foldlM (fun store entry => loadTree depth store (Path.join path entry.fileName))
          (store.makeDirectories (Path.parts path))
      else
        let bytes ← IO.FS.readBinFile path
        return store.putFile (Path.parts path) (.ofBytes bytes.toList) true
    catch _ => return store

/-- The directory of a path, up to its first wildcard. -/
def literalDirectory (path : String) : String :=
  let literal := path.toList.takeWhile fun c => c ≠ '*' && c ≠ '?' && c ≠ '['
  String.ofList (literal.reverse.dropWhile (· ≠ '/')).reverse

/-- Adds to a store what a path names, or nothing. -/
def loadPath (store : Store) (path : String) : IO Store := do
  try
    let found ← IO.FS.realPath path
    loadTree maxDepth store (toString found)
  catch _ => return store

/-- The variables of the environment that matter. -/
def readEnvironment : IO Environment :=
  ["VFD_CONFIG", "VFD_PYTHON", "VFD_DEBUG", "XDG_CONFIG_HOME", "HOME"].filterMapM fun name => do
    return (← IO.getEnv name).map (name, ·)

/-- Writes a file that was changed. -/
def writeChange (place : Place) : FileContent → IO Unit
  | .text text => IO.FS.writeFile (pathOf place) text
  | .binary bytes => IO.FS.writeBinFile (pathOf place) ⟨bytes.toArray⟩
  | .workbook _ => IO.println (pathOf place ++ ": spreadsheet with data and chart")

end FigureScript.Disk

section

open FigureScript Disk

/-- **The program.** -/
def main (arguments : List String) : IO UInt32 := do
  let env ← readEnvironment
  let cwd := toString (← IO.currentDir)
  let settings := env.get? "VFD_CONFIG" |>.or env.settingsFile?
  let roots := (arguments.map literalDirectory).filter (· ≠ "")
  let store ← (cwd :: (roots ++ arguments ++ settings.toList)).foldlM loadPath {}
  let before := { store with cwd := Path.parts cwd }
  let (outcome, after) := CommandLine.run Machine.host env arguments before
  for (place, content) in after.changedSince before do
    writeChange place content
  IO.print outcome.output
  (← IO.getStderr).write ⟨(outcome.errorOutput "0000").toArray⟩
  return outcome.status.toUInt32

end
