import Cashbook.Predicate.Compile
import Cashbook.Rates.Book

/-!
# Failures of a statistic

What can go wrong between a log and a finished statistic.  `Error.message` says it in one line.
-/

namespace Cashbook

/-- Why a statistic cannot be made. -/
inductive Error
  /-- The log has not been loaded. -/
  | notLoaded
  /-- The filter has a join without operands. -/
  | emptyJoin (join : Join)
  /-- An operation names an account that does not exist. -/
  | unknownAccount (name : String)
  /-- The category has no yearly goal. -/
  | missingGoal (category : String)
  /-- An exchange rate is missing. -/
  | rate (error : RateError)
  /-- There are `all` operations, but `byKind` when counted by kind. -/
  | miscounted (all byKind : Nat)
  /-- There are more returns than expenses. -/
  | excessReturns (returns expenses : Nat)
  /-- The series of two accounts do not have the same buckets. -/
  | misaligned
  deriving DecidableEq

/-- The text of the error. -/
def Error.message : Error → String
  | .notLoaded => "operations are not loaded yet"
  | .emptyJoin join => s!"cannot compile an empty `{join.name}` predicate, use `any` instead"
  | .unknownAccount name => s!"operation references unknown account `{name}`"
  | .missingGoal category => s!"category `{category}` has no yearly goal"
  | .rate error => error.message
  | .miscounted all byKind =>
      s!"internal consistency check failed: counted {all} operations but {byKind} by type"
  | .excessReturns returns expenses =>
      s!"internal consistency check failed: counted {returns} returns for only {expenses} expenses"
  | .misaligned => "internal consistency check failed: accounts have different buckets"

end Cashbook
