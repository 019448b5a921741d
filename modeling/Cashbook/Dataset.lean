import Cashbook.Account
import Cashbook.Json.Reader
import Cashbook.Store

/-!
# Data files

A `Dataset` is everything that a user has recorded: accounts, categories and operations.  It is kept
as one JSON text, in which each of the three lists may be left out.
-/

namespace Cashbook

/-- Everything that a user has recorded. -/
structure Dataset where
  /-- The accounts, tombstones included. -/
  accounts : List Account
  /-- The categories, tombstones included. -/
  categories : List Category
  /-- The operations, tombstones included. -/
  operations : List Operation

/-- Why a data file cannot be read. -/
inductive DatasetError
  /-- The file does not exist, or holds no text. -/
  | unreadable (path : String)
  /-- The text of the file is not a dataset. -/
  | malformed (path : String)
  deriving DecidableEq, Repr

/-- The text of the error. -/
def DatasetError.message : DatasetError → String
  | .unreadable path => s!"Failed to read data file {path}"
  | .malformed path => s!"Failed to parse data file {path}"

namespace Dataset

/-- The dataset that a value stands for. -/
def ofJson? (v : Json) : Option Dataset := do
  let r ← Record.read? ["accounts", "categories", "operations"] v
  return {
    accounts := ← r.optional? "accounts" [] (Json.readList? Account.ofJson?)
    categories := ← r.optional? "categories" [] (Json.readList? Category.ofJson?)
    operations := ← r.optional? "operations" [] (Json.readList? Operation.ofJson?) }

/-- The dataset in the file `path`, whose value is `v` if its text has one. -/
def ofValue (path : String) (v : Option Json) : Except DatasetError Dataset :=
  match v.bind ofJson? with
  | none => .error (.malformed path)
  | some d => .ok d

/-- The dataset in the file `path`, whose text is `text` if it holds one. -/
def ofFile (path : String) (text : Option String) : Except DatasetError Dataset :=
  match text with
  | none => .error (.unreadable path)
  | some text => ofValue path (Json.ofText? text)

/-- A store with the operations as its log. -/
def store (d : Dataset) : Store := .load d.operations

end Dataset

end Cashbook
