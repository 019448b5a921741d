import Cashbook.Json.Record
import Cashbook.Operation.Basic

/-!
# Operations in JSON

An operation is an object whose field `type` names its kind.  A tombstone has an `id` besides; every
other kind has the fields of its head, an `account`, and, by kind, `categories` or `toAccount`.
Tags and categories may be left out for none, a comment may be left out or `null`.

An operation is judged as a whole: a field that its kind does not have is passed over, but must be a
sound value, and no value may be nested so deeply that the whole file would be nested more than 127
levels deep.  A tombstone may also be written as the list of its kind and its name.
-/

namespace Cashbook

/-- The moment that a string names. -/
def Timestamp.ofJson? (v : Json) : Option Timestamp := v.toText?.bind ofText?

/-- The date that a string names. -/
def Date.ofJson? (v : Json) : Option Date := v.toText?.bind ofText?

/-- An account side: its name and its amount. -/
def Side.ofJson? (v : Json) : Option Side := do
  let r ← Record.read? ["name", "amount"] v
  return ⟨← r.required? "name" Json.toText?, ← r.required? "amount" Json.toFloat?⟩

/-- A share: the name of its category and its amount. -/
def Split.ofJson? (v : Json) : Option Split := do
  let r ← Record.read? ["name", "amount"] v
  return ⟨← r.required? "name" Json.toText?, ← r.required? "amount" Json.toFloat?⟩

/-- The names of the fields of a head. -/
def Head.fieldNames : List String :=
  ["id", "lastModified", "date", "currency", "amount", "tags", "comment"]

/-- The head that the fields of an operation hold. -/
def Head.ofRecord? (r : Record) : Option Head := do
  return {
    id := ← r.required? "id" Json.toText?
    lastModified := ← r.required? "lastModified" Timestamp.ofJson?
    date := ← r.required? "date" Date.ofJson?
    currency := ← r.required? "currency" Json.toText?
    amountBits := (← r.required? "amount" Json.toFloat?).toBits
    tags := ← r.optional? "tags" [] (Json.readList? Json.toText?)
    comment := ← r.optional? "comment" none (Json.toOption? Json.toText?) }

namespace Operation

/-- How deeply an operation may be nested, two levels being taken by the file around it. -/
def maxDepth : Nat := 125

/-- The fields that an operation of kind `k` has besides its `type`. -/
def fieldNames : Kind → List String
  | .income => Head.fieldNames ++ ["account", "categories"]
  | .expense => Head.fieldNames ++ ["account", "categories"]
  | .transfer => Head.fieldNames ++ ["account", "toAccount"]
  | .adjustment => Head.fieldNames ++ ["account"]
  | .deleted => ["id"]

/-- The operation of kind `k` that the fields hold. -/
def ofRecord? (k : Kind) (r : Record) : Option Operation :=
  match k with
  | .income => do
      return income (← Head.ofRecord? r) (← r.required? "account" Side.ofJson?)
        (← r.optional? "categories" [] (Json.readList? Split.ofJson?))
  | .expense => do
      return expense (← Head.ofRecord? r) (← r.required? "account" Side.ofJson?)
        (← r.optional? "categories" [] (Json.readList? Split.ofJson?))
  | .transfer => do
      return transfer (← Head.ofRecord? r) (← r.required? "account" Side.ofJson?)
        (← r.required? "toAccount" Side.ofJson?)
  | .adjustment => do
      return adjustment (← Head.ofRecord? r) (← r.required? "account" Side.ofJson?)
  | .deleted => do return deleted (← r.required? "id" Json.toText?)

/-- The kind that a value names. -/
def kindOfJson? (v : Json) : Option Kind := v.toText?.bind Kind.ofName?

/-- The operation that a value stands for, if it stands for one. -/
def ofJson? (v : Json) : Option Operation :=
  if v.isSound && v.depth ≤ maxDepth then
    match v with
    | .object fields => do
        let tag ← Record.ofFields? ["type"] fields
        let k ← tag.required? "type" kindOfJson?
        ofRecord? k (← Record.ofFields? (fieldNames k) fields)
    | .array [tag, id] => do
        let k ← kindOfJson? tag
        guard (k = .deleted)
        return deleted (← id.toText?)
    | _ => none
  else none

end Operation

end Cashbook
