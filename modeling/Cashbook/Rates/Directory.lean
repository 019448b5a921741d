import Cashbook.Json.Reader
import Cashbook.Rates.Book
import Cashbook.Rates.Tree

/-!
# A directory of rate files

Rates are published as files, one for a month and a currency, anywhere below one directory.
`RateBook.ofDirectory` reads every file whose name has the extension `json`; what the directories in
between are called does not matter.  The files of a directory are read before those of the
directories in it.
-/

namespace Cashbook

/-- Why a directory of rate files cannot be read. -/
inductive DirectoryError
  /-- There is no such directory. -/
  | unlisted (directory : String)
  /-- The file does not hold a text. -/
  | unreadable (path : String)
  /-- The text of the file is not a record of rates. -/
  | malformed (path : String)
  /-- The book refuses the rates. -/
  | refused (error : RateError)

/-- The text of the error. -/
def DirectoryError.message : DirectoryError → String
  | .unlisted directory => s!"Failed to list rate directory {directory}"
  | .unreadable path => s!"Failed to read rate file {path}"
  | .malformed path => s!"Failed to parse rate file {path}"
  | .refused error => error.message

namespace TreeFile

/-- The last part of the path. -/
def name (f : TreeFile) : List Char := (f.path.toList.reverse.takeWhile (· ≠ '/')).reverse

/-- How many directories the path goes through. -/
def level (f : TreeFile) : Nat := f.path.toList.count '/'

/-- Whether the name has the extension `json`, with a name before it. -/
def isRateFile (f : TreeFile) : Bool :=
  ".json".toList.isSuffixOf f.name && f.name.length ≠ ".json".length

/-- Whether the file is the directory or lies below it. -/
def isBelow (directory : String) (f : TreeFile) : Bool :=
  (pathIn directory "").toList.isPrefixOf f.path.toList

/-- The rates that the file holds. -/
def rates (f : TreeFile) : Except DirectoryError MonthlyRates :=
  match f.text with
  | none => .error (.unreadable f.path)
  | some text =>
      match (Json.ofText? text).bind MonthlyRates.ofJson? with
      | none => .error (.malformed f.path)
      | some rates => .ok rates

end TreeFile

namespace RateBook

/-- Takes in the rates that a file holds. -/
def insertFile (book : RateBook) (f : TreeFile) : Except DirectoryError RateBook :=
  match f.rates with
  | .error e => .error e
  | .ok rates =>
      match book.insert rates with
      | .error e => .error (.refused e)
      | .ok book => .ok book

/-- The book of the rate files below `directory`, among the files of a tree. -/
def ofDirectory (directory : String) (tree : Tree) : Except DirectoryError RateBook :=
  let files := tree.filter (·.isBelow directory)
  if files.isEmpty then .error (.unlisted directory)
  else
    let files := (files.filter (·.isRateFile)).mergeSort fun f g => f.level ≤ g.level
    files.foldlM insertFile ∅

end RateBook

end Cashbook
