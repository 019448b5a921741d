import Cashbook.Json.Basic

/-!
# Records in JSON

A record has fields of known names.  It is written as an object, in which other fields are passed
over and no known field may stand twice, or as a list of the values of its fields in their order, of
which the last ones may be left out.

`Record.read?` finds the fields; `Record.required?` and `Record.optional?` read one of them.
-/

namespace Cashbook

/-- The known fields that a record has, with their values. -/
abbrev Record := List (String × Json)

namespace Record

/-- The value of the field `name`. -/
def get? (r : Record) (name : String) : Option Json := r.lookup name

/-- Reads the field `name`, which the record must have. -/
def required? {α : Type} (r : Record) (name : String) (read? : Json → Option α) : Option α :=
  (r.get? name).bind read?

/-- Reads the field `name`, which is `default` if the record does not have it. -/
def optional? {α : Type} (r : Record) (name : String) (default : α) (read? : Json → Option α) :
    Option α :=
  match r.get? name with
  | none => some default
  | some v => read? v

/-- The fields of an object that have one of the `names`, if all keys decode and none of the names
stands twice. -/
def ofFields? (names : List String) (fields : List (Option String × Json)) : Option Record := do
  let fields ← fields.mapM fun f => f.1.map fun key => (key, f.2)
  let known := fields.filter fun f => names.contains f.1
  guard (names.all fun name => known.countP (·.1 = name) ≤ 1)
  return known

/-- The fields `names` of a record. -/
def read? (names : List String) : Json → Option Record
  | .object fields => ofFields? names fields
  | .array items => if items.length ≤ names.length then some (names.zip items) else none
  | _ => none

end Record

end Cashbook
