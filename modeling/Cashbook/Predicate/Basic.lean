import Cashbook.Operation.Basic
import Cashbook.Text.Search

/-!
# Predicates on operations

A `Predicate` is a boolean query: atoms that look at one aspect of an operation, joined by `and`,
`or` and `not`.  `Predicate.Atom.holds` says what an atom asks of an operation.

A join has a list of operands.  Nothing forbids the empty list, which has no written form and no
meaning of its own: compiling a predicate refuses it.
-/

namespace Cashbook

/-- A boolean query over operations. -/
inductive Predicate
  /-- Holds of every operation. -/
  | any
  /-- Holds of the operations of one kind. -/
  | kind (k : Kind)
  /-- Holds of the incomes and expenses with a share in the category `name`. -/
  | category (name : String)
  /-- Holds of the incomes and expenses without categories. -/
  | uncategorized
  /-- Holds of the operations that touch the account `name`. -/
  | account (name : String)
  /-- Holds of the operations with the label `label`. -/
  | tag (label : String)
  /-- Holds of the operations whose remark has `needle` in it. -/
  | comment (needle : String)
  /-- Holds when all of its operands hold. -/
  | and (operands : List Predicate)
  /-- Holds when one of its operands holds. -/
  | or (operands : List Predicate)
  /-- Holds when its operand does not. -/
  | not (operand : Predicate)

namespace Predicate

instance : Inhabited Predicate := ⟨any⟩

mutual

/-- Whether two predicates are the same. -/
def same : Predicate → Predicate → Bool
  | any, any => true
  | kind j, kind k => j = k
  | category a, category b => a = b
  | uncategorized, uncategorized => true
  | account a, account b => a = b
  | tag a, tag b => a = b
  | comment a, comment b => a = b
  | and ps, and qs => sameAll ps qs
  | or ps, or qs => sameAll ps qs
  | not p, not q => same p q
  | _, _ => false

/-- Whether two lists of predicates are the same. -/
def sameAll : List Predicate → List Predicate → Bool
  | [], [] => true
  | p :: ps, q :: qs => same p q && sameAll ps qs
  | _, _ => false

end

mutual

theorem same_iff : ∀ p q : Predicate, same p q = true ↔ p = q
  | any, q => by cases q <;> simp [same]
  | kind _, q => by cases q <;> simp [same]
  | category _, q => by cases q <;> simp [same]
  | uncategorized, q => by cases q <;> simp [same]
  | account _, q => by cases q <;> simp [same]
  | tag _, q => by cases q <;> simp [same]
  | comment _, q => by cases q <;> simp [same]
  | and ps, q => by cases q <;> simp [same, sameAll_iff ps]
  | or ps, q => by cases q <;> simp [same, sameAll_iff ps]
  | not p, q => by cases q <;> simp [same, same_iff p]

theorem sameAll_iff : ∀ ps qs : List Predicate, sameAll ps qs = true ↔ ps = qs
  | [], qs => by cases qs <;> simp [sameAll]
  | p :: ps, qs => by cases qs <;> simp [sameAll, same_iff p, sameAll_iff ps]

end

instance : DecidableEq Predicate := fun p q => decidable_of_iff _ (same_iff p q)

/-- Whether an operation has a share in the category `name`. -/
def inCategory (name : String) (op : Operation) : Bool :=
  match op.splits? with
  | some splits => splits.any (·.name = name)
  | none => false

/-- Whether an operation can have categories and has none. -/
def withoutCategory (op : Operation) : Bool :=
  match op.splits? with
  | some splits => splits.isEmpty
  | none => false

/-- Whether an operation touches the account `name`. -/
def onAccount (name : String) (op : Operation) : Bool := op.sides.any (·.name = name)

/-- Whether an operation has the label `label`. -/
def hasTag (label : String) (op : Operation) : Bool := op.tags.any (· = label)

/-- Whether an operation has a remark with `needle` in it. -/
def mentions (needle : String) (op : Operation) : Bool :=
  match op.comment? with
  | some text => Text.occursIn needle text
  | none => false

end Predicate

end Cashbook
