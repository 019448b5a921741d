import Std.Time.DateTime.Timestamp
import Cashbook.Report.Run

/-!
# The command line

The program takes the options of a report from the words of its command line, the data from a file
and the rates from a directory tree, and prints the report.  What it does with them is `Report.run`;
here are only the reading of files and clocks and the writing of the answer.

A report goes to the standard output.  A failure goes to the standard error, and the program then
ends with the exit code 1.
-/

namespace Cashbook.Report

/-- The text of a file, if there is such a file and it holds a text. -/
def textOf? (path : String) : IO (Option String) := do
  try
    return some (← IO.FS.readFile path)
  catch _ =>
    return none

/-- The directory `path`, if there is one, and everything below it. -/
partial def treeAt (path : String) : IO Tree := do
  let directory := (← IO.currentDir) / path
  if ← directory.isDir then
    let parts ← (← directory.readDir).toList.mapM fun entry => do
      let place := pathIn path entry.fileName
      if ← entry.path.isDir then treeAt place else return [⟨place, ← textOf? place⟩]
    return ⟨pathIn path "", none⟩ :: parts.flatten
  else
    return []

/-- The date of the present moment. -/
def currentDate : IO Date := do
  return .ofClockSeconds (← Std.Time.Timestamp.now).toSecondsSinceUnixEpoch.val

/-- Makes the report that the options ask for. -/
def make (o : Options) : IO (Except Failure String) := do
  let today ← match o.today with
    | some today => pure today
    | none => currentDate
  let data ← textOf? o.data
  let tree ← match o.rates with
    | some directory => treeAt directory
    | none => pure []
  return run o today (Dataset.ofFile o.data data) tree

end Cashbook.Report

open Cashbook

def main (args : List String) : IO UInt32 := do
  match Report.Options.ofArgs args with
  | .error message =>
      IO.eprintln s!"Error: {message}"
      return 1
  | .ok o =>
      match ← Report.make o with
      | .error failure =>
          IO.eprintln failure.message
          return 1
      | .ok text =>
          IO.print text
          return 0
