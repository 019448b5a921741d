import Cashbook.Account
import Cashbook.Rates.Cache
import Cashbook.Stats.Reducer
import Cashbook.Stats.Series

/-!
# The balances of all accounts

`Balances` follows every account through a sweep, each in its own currency, and when the sweep is
done adds them up in one currency: the roll-up.

### The design decisions

**The rate of a bucket** is the rate of its last day in the sweep, or of today if that day lies in
the future.  A bucket that another one follows ends on the day before that one; the last bucket ends
where the calendar ends it or where the sweep stopped, whichever comes first.

**The change of a bucket** in the roll-up is the step from the converted total before it, so that it
holds also what the balances gained or lost by a change of the rates.  The first bucket has none
before it, and its change is the sum of the converted changes.

**The buckets** are those of a series that no account feeds, so that the roll-up has points also
when there are no accounts.  It goes through that series and the series of all accounts in step.
They always have the same buckets, and an account that had fewer would be reported as `misaligned`.
-/

namespace Cashbook

/-- An account with its balance. -/
structure Holding where
  /-- The currency of the account. -/
  currency : String
  /-- The balance, in that currency. -/
  series : BucketedSeries Float

/-- The balances of all accounts. -/
structure Balances where
  /-- The currency of the roll-up. -/
  currency : String
  /-- The day that counts as today. -/
  today : Date
  /-- The accounts by name. -/
  holdings : Std.ExtTreeMap String Holding
  /-- A series with the buckets of the sweep. -/
  calendar : BucketedSeries Float
  /-- The last day that has begun. -/
  lastDay : Option Date
  /-- The rates to convert with. -/
  rates : RateCache
  /-- The sum of all balances, once the sweep is done. -/
  rollUp : Option (ByGranularity (Series Float))

namespace Balances

/-- The balances of accounts that nothing has been booked on. -/
def create (accounts : List Account) (currency : String) (today : Date) (table : RateTable) :
    Balances where
  currency := currency
  today := today
  holdings := accounts.foldl (fun m a => m.insert a.name ⟨a.currency, .empty⟩) ∅
  calendar := .empty
  lastDay := none
  rates := .create table
  rollUp := none

/-- The balance of an account. -/
def series? (b : Balances) (account : String) : Option (BucketedSeries Float) :=
  b.holdings[account]?.map (·.series)

/-- Begins a day. -/
def newDay (b : Balances) (iv : Intervals) : Balances :=
  { b with
    calendar := b.calendar.newDay iv
    holdings := b.holdings.map fun _ h => { h with series := h.series.newDay iv }
    lastDay := some iv.date }

/-- Adds the amounts of some sides to the accounts that they name.  The first side that names no
account ends it. -/
def book (b : Balances) : List Side → Reply Balances
  | [] => .ok b
  | side :: sides =>
      match b.holdings[side.name]? with
      | none => .fail b (.unknownAccount side.name)
      | some h =>
          book { b with
            holdings :=
              b.holdings.insert side.name { h with series := h.series.add side.amount } } sides

/-- The day whose rate values the bucket of `g` that was entered on `d`, if the next one was entered
on `next` and the sweep reached `lastDay`. -/
def valuationDate (today : Date) (lastDay : Option Date) (g : Granularity) (d : Date)
    (next : Option Date) : Date :=
  let bucketEnd :=
    match next with
    | some next => next.addDays (-1)
    | none => (lastDay.map (min (g.bucketEnd d))).getD (g.bucketEnd d)
  min bucketEnd today

/-- The points of an account that the roll-up has not come to yet. -/
structure Pending where
  /-- The currency of the account. -/
  currency : String
  /-- The points, in the order of time. -/
  points : List (Point Float)

/-- What the accounts are worth together in one bucket. -/
structure Worth where
  /-- The sum of the converted totals. -/
  total : Float
  /-- The sum of the converted changes. -/
  change : Float

/-- Adds the next point of every account to `sum`, converted into `currency` at the rates of `date`;
gives the sum and the accounts without those points. -/
def worth (currency : String) (date : Date) (rates : RateCache) (sum : Worth) :
    List Pending → Except Error (Worth × List Pending) × RateCache
  | [] => (.ok (sum, []), rates)
  | a :: as =>
      match rates.rate date a.currency currency with
      | (.error e, rates) => (.error (.rate e), rates)
      | (.ok rate, rates) =>
          match a.points with
          | [] => (.error .misaligned, rates)
          | p :: ps =>
              let sum := ⟨sum.total + p.total * rate, sum.change + p.change * rate⟩
              match worth currency date rates sum as with
              | (.error e, rates) => (.error e, rates)
              | (.ok (sum, rest), rates) => (.ok (sum, ⟨a.currency, ps⟩ :: rest), rates)

/-- The points of the roll-up for the buckets of `g` entered on the given days, `previous` being the
total of the bucket before them. -/
def rollUpFrom (b : Balances) (g : Granularity) (rates : RateCache) (previous : Option Float)
    (accounts : List Pending) : List Date → Except Error (List (Point Float)) × RateCache
  | [] => (.ok [], rates)
  | d :: dates =>
      let date := valuationDate b.today b.lastDay g d dates.head?
      match worth b.currency date rates ⟨0, 0⟩ accounts with
      | (.error e, rates) => (.error e, rates)
      | (.ok (sum, accounts), rates) =>
          let change := (previous.map (sum.total - ·)).getD sum.change
          match rollUpFrom b g rates (some sum.total) accounts dates with
          | (.error e, rates) => (.error e, rates)
          | (.ok points, rates) => (.ok (⟨d, sum.total, change⟩ :: points), rates)

/-- The roll-up of one granularity. -/
def rollUpOf (b : Balances) (g : Granularity) (rates : RateCache) :
    Except Error (Series Float) × RateCache :=
  let accounts := b.holdings.values.map fun h => ⟨h.currency, (h.series.get g).points⟩
  match b.rollUpFrom g rates none accounts (b.calendar.get g).dates with
  | (.error e, rates) => (.error e, rates)
  | (.ok points, rates) => (.ok (.ofPoints points), rates)

/-- Adds up all accounts.  The roll-up known before stays if a rate is missing. -/
def finish (b : Balances) : Reply Balances :=
  match ByGranularity.traverse b.rollUpOf b.rates with
  | (.error e, rates) => .fail { b with rates := rates } e
  | (.ok rollUp, rates) => .ok { b with rates := rates, rollUp := some rollUp }

instance : Reducer Balances where
  newDay b iv := .ok (b.newDay iv)
  process b op := b.book op.sides
  done := finish

end Balances

end Cashbook
