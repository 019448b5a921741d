import Cashbook.Stats.Reducer
import Cashbook.Stats.Series

/-!
# The balance of an account

`Balance` follows one account through a sweep, in the currency of the account: the amount of every
side that names the account is added to its series.
-/

namespace Cashbook

/-- The balance of one account. -/
structure Balance where
  /-- The name of the account. -/
  account : String
  /-- The balance. -/
  series : BucketedSeries Float

namespace Balance

/-- The balance of an account that nothing has been booked on. -/
def create (account : String) : Balance := ⟨account, .empty⟩

/-- Adds the amounts of the sides that name the account. -/
def book (b : Balance) (sides : List Side) : Balance :=
  { b with
    series := (sides.filter (·.name = b.account)).foldl (fun s side => s.add side.amount) b.series }

instance : Reducer Balance where
  newDay b iv := .ok { b with series := b.series.newDay iv }
  process b op := .ok (b.book op.sides)

end Balance

end Cashbook
