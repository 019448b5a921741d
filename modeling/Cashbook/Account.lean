import Cashbook.Json.Record
import Cashbook.Operation.Json

/-!
# Accounts and categories

The two sorts of records that operations refer to by name.  Neither is ever renamed in place: the
old record becomes a tombstone, and a fresh record carries the new name, so that a copy of the data
that has not heard of the change learns of both.
-/

namespace Cashbook

/-- Where money is kept. -/
structure Account where
  /-- The name that operations refer to. -/
  name : String
  /-- The currency of the amounts booked on it. -/
  currency : String
  /-- Whether the user has put it out of sight. -/
  hidden : Bool
  /-- Whether the record is a tombstone. -/
  deleted : Bool
  /-- When this version was written. -/
  lastModified : Timestamp
  deriving DecidableEq

/-- What money is earned by or spent on. -/
structure Category where
  /-- The name that operations refer to. -/
  name : String
  /-- The currency that the category is planned in. -/
  currency : String
  /-- Whether the user has put it out of sight. -/
  hidden : Bool
  /-- Whether the record is a tombstone. -/
  deleted : Bool
  /-- When this version was written. -/
  lastModified : Timestamp
  /-- How much is meant to be spent in a year. -/
  yearlyGoal : Option Float
  deriving DecidableEq

namespace Account

/-- A new account. -/
def create (name currency : String) (now : Timestamp) : Account :=
  ⟨name, currency, false, false, now⟩

/-- The tombstone of the account. -/
def delete (a : Account) (now : Timestamp) : Account :=
  { a with deleted := true, lastModified := now }

/-- The tombstone of the account and the record with the new name. -/
def rename (a : Account) (name : String) (now : Timestamp) : Account × Account :=
  (a.delete now, { a with name := name, deleted := false, lastModified := now })

/-- Whether the record is no tombstone. -/
def isActive (a : Account) : Bool := !a.deleted

/-- The account that a value stands for. -/
def ofJson? (v : Json) : Option Account := do
  let r ← Record.read? ["name", "currency", "hidden", "deleted", "lastModified"] v
  return {
    name := ← r.required? "name" Json.toText?
    currency := ← r.required? "currency" Json.toText?
    hidden := ← r.optional? "hidden" false Json.toBool?
    deleted := ← r.optional? "deleted" false Json.toBool?
    lastModified := ← r.required? "lastModified" Timestamp.ofJson? }

end Account

namespace Category

/-- A new category, without a goal. -/
def create (name currency : String) (now : Timestamp) : Category :=
  ⟨name, currency, false, false, now, none⟩

/-- The category with a yearly goal. -/
def withGoal (c : Category) (goal : Float) : Category := { c with yearlyGoal := some goal }

/-- The tombstone of the category. -/
def delete (c : Category) (now : Timestamp) : Category :=
  { c with deleted := true, lastModified := now }

/-- The tombstone of the category and the record with the new name. -/
def rename (c : Category) (name : String) (now : Timestamp) : Category × Category :=
  (c.delete now, { c with name := name, deleted := false, lastModified := now })

/-- Whether the record is no tombstone. -/
def isActive (c : Category) : Bool := !c.deleted

/-- The category that a value stands for. -/
def ofJson? (v : Json) : Option Category := do
  let r ← Record.read?
    ["name", "currency", "hidden", "deleted", "lastModified", "yearlyGoal"] v
  return {
    name := ← r.required? "name" Json.toText?
    currency := ← r.required? "currency" Json.toText?
    hidden := ← r.optional? "hidden" false Json.toBool?
    deleted := ← r.optional? "deleted" false Json.toBool?
    lastModified := ← r.required? "lastModified" Timestamp.ofJson?
    yearlyGoal := ← r.optional? "yearlyGoal" none (Json.toOption? Json.toFloat?) }

end Category

end Cashbook
