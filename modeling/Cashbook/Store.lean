import Std.Data.ExtTreeMap
import Cashbook.Error
import Cashbook.Operation.Order
import Cashbook.Operation.Rename

/-!
# The store

A `Store` keeps the log of operations, in the order of the log.  Until a log has been loaded there
is none, and every question fails.

* `Store.load` — takes in a list of operations as the log.
* `Store.merge` — reconciles the log with records from elsewhere: of several live records with one
  name the one modified last wins, and a tombstone wins over all of them for good.
* `Store.renameAccount`, `Store.renameCategory` — gives the operations that name an account or a
  category its new name, and marks them as modified.
-/

namespace Cashbook

/-- The log of operations, once it has been loaded. -/
structure Store where
  /-- The records, in the order of the log. -/
  log : Option (List Operation)

namespace Store

/-- A store whose log has not been loaded. -/
def empty : Store := ⟨none⟩

/-- The store with the log of some operations. -/
def load (ops : List Operation) : Store := ⟨some (Operation.sortLog ops)⟩

/-- Whether a log has been loaded. -/
def isLoaded (s : Store) : Bool := s.log.isSome

/-- The records, in the order of the log. -/
def snapshot (s : Store) : Except Error (List Operation) :=
  match s.log with
  | some ops => .ok ops
  | none => .error .notLoaded

/-- The day of the first live operation of a log. -/
def firstDateOf? (log : List Operation) : Option Date := log.findSome? (·.date?)

/-- The day of the last live operation of a log. -/
def lastDateOf? (log : List Operation) : Option Date := log.reverse.findSome? (·.date?)

/-- The day of the first live operation. -/
def firstDate (s : Store) : Except Error (Option Date) := s.snapshot.map firstDateOf?

/-- The day of the last live operation. -/
def lastDate (s : Store) : Except Error (Option Date) := s.snapshot.map lastDateOf?

/-- Records by name. -/
abbrev ById := Std.ExtTreeMap String Operation

/-- The records of a list by name, the last one with each name. -/
def byId (ops : List Operation) : ById := ops.foldl (fun m op => m.insert op.id op) ∅

/-- Whether the live record `new` was written after the record `known`. -/
def isNewer (new known : Operation) : Bool :=
  match new.lastModified?, known.lastModified? with
  | some t, some u => u < t
  | some _, none => true
  | none, _ => false

/-- Whether `new` takes the place of the record that is known under its name, if there is one. -/
def supersedes (new : Operation) : Option Operation → Bool
  | none => true
  | some known =>
      if known.isDeleted then false
      else if new.isDeleted then true
      else isNewer new known

/-- The records after one more has come in, and how many were changed. -/
def receive (state : ById × Nat) (op : Operation) : ById × Nat :=
  if supersedes op state.1[op.id]? then (state.1.insert op.id op, state.2 + 1) else state

/-- Reconciles the log with the records of `incoming`; gives the number of changes. -/
def merge (s : Store) (incoming : List Operation) : Except Error (Nat × Store) :=
  s.snapshot.map fun log =>
    let (records, changes) := incoming.foldl receive (byId log, 0)
    (changes, load records.values)

/-- An operation after `change?`, marked as modified at `now` if it has been changed. -/
def amended (now : Timestamp) (change? : Operation → Option Operation) (op : Operation) :
    Operation :=
  match change? op with
  | some new => new.touch now
  | none => op

/-- Changes every operation that `change?` gives a new form for; gives the number of these. -/
def amend (s : Store) (now : Timestamp) (change? : Operation → Option Operation) :
    Except Error (Nat × Store) :=
  s.snapshot.map fun log =>
    (log.countP fun op => (change? op).isSome, load (log.map (amended now change?)))

/-- Points every operation that names the account `old` at `new`. -/
def renameAccount (s : Store) (old new : String) (now : Timestamp) : Except Error (Nat × Store) :=
  s.amend now (·.renameAccount? old new)

/-- Points every operation that names the category `old` at `new`. -/
def renameCategory (s : Store) (old new : String) (now : Timestamp) : Except Error (Nat × Store) :=
  s.amend now (·.renameCategory? old new)

end Store

end Cashbook
