import Cashbook.Stats.Reducer

/-!
# Counting operations

`Counts` counts the operations of a sweep, all of them and by kind.  A *return* is an expense with a
positive amount: a refund.

When the sweep is done, the counts are checked against each other.  A tombstone is counted among all
operations but under no kind, so a sweep that hands one over is caught.
-/

namespace Cashbook

/-- How many operations a sweep has handed over. -/
structure Counts where
  /-- All of them. -/
  all : Nat
  /-- The incomes. -/
  income : Nat
  /-- The expenses. -/
  expense : Nat
  /-- The transfers. -/
  transfer : Nat
  /-- The adjustments. -/
  adjustment : Nat
  /-- The expenses with a positive amount. -/
  returns : Nat
  deriving DecidableEq, Repr

namespace Counts

/-- No operations. -/
def empty : Counts := ⟨0, 0, 0, 0, 0, 0⟩

/-- The sum of the counts by kind. -/
def byKind (c : Counts) : Nat := c.income + c.expense + c.transfer + c.adjustment

/-- The counts with one more operation. -/
def add (c : Counts) (op : Operation) : Counts :=
  let c := { c with all := c.all + 1 }
  match op.kind with
  | .income => { c with income := c.income + 1 }
  | .expense =>
      { c with
        expense := c.expense + 1
        returns := if op.amount > 0 then c.returns + 1 else c.returns }
  | .transfer => { c with transfer := c.transfer + 1 }
  | .adjustment => { c with adjustment := c.adjustment + 1 }
  | .deleted => c

/-- What is wrong with the counts, if anything is. -/
def check (c : Counts) : Option Error :=
  if c.all ≠ c.byKind then some (.miscounted c.all c.byKind)
  else if c.expense < c.returns then some (.excessReturns c.returns c.expense)
  else none

/-- Counts are in order if every operation is of a kind, and every return is an expense. -/
theorem check_eq_none_iff (c : Counts) :
    c.check = none ↔ c.all = c.byKind ∧ c.returns ≤ c.expense := by
  rw [check]
  split
  case isTrue h => exact ⟨nofun, fun hok => absurd hok.1 h⟩
  case isFalse h =>
    split
    case isTrue hlt => exact ⟨nofun, fun hok => absurd hok.2 (Nat.not_le.2 hlt)⟩
    case isFalse hle => exact ⟨fun _ => ⟨Decidable.not_not.1 h, Nat.not_lt.1 hle⟩, fun _ => rfl⟩

/-- Every operation is counted among all. -/
@[simp] theorem all_add (c : Counts) (op : Operation) : (c.add op).all = c.all + 1 := by
  rw [add]
  cases op.kind <;> rfl

/-- A live operation is counted under one kind. -/
theorem byKind_add (c : Counts) {op : Operation} (h : op.isDeleted = false) :
    (c.add op).byKind = c.byKind + 1 := by
  rw [Operation.isDeleted, decide_eq_false_iff_not] at h
  rw [add]
  cases hkind : op.kind with
  | deleted => exact absurd hkind h
  | _ =>
      simp only [byKind]
      omega

/-- A return is counted among the expenses. -/
theorem returns_le_expense_add {c : Counts} (h : c.returns ≤ c.expense) (op : Operation) :
    (c.add op).returns ≤ (c.add op).expense := by
  rw [add]
  cases op.kind with
  | expense =>
      dsimp only
      split <;> omega
  | _ => exact h

instance : Reducer Counts where
  process c op := .ok (c.add op)
  done c := ⟨c, c.check⟩

end Counts

end Cashbook
