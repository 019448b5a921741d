import Cashbook.Rates.Cache
import Cashbook.Stats.Reducer

/-!
# Comparing months and years

The net amount of a stretch of time is what came in and went out in it: the sum of its incomes and
expenses, each converted into one currency at the rate of its own day.  Transfers and adjustments
move money between accounts and do not count.

`MonthlyComparison` sets the same month of different years side by side, `YearlyComparison` the
years.
-/

namespace Cashbook

/-- The head of an income or an expense, the operations that count towards a net amount. -/
def Operation.netHead? : Operation → Option Head
  | income h _ _ => some h
  | expense h _ _ => some h
  | _ => none

/-- The entry for a key after `v` has been added to it; an entry begins at zero. -/
def increase (v : Float) (entry : Option Float) : Option Float := some (entry.getD 0 + v)

/-- The net amounts of months: by month, then by year. -/
structure MonthlyComparison where
  /-- The currency of the amounts. -/
  currency : String
  /-- The rates to convert with. -/
  rates : RateCache
  /-- The net amounts. -/
  months : Std.ExtTreeMap Nat (Std.ExtTreeMap Int Float)

namespace MonthlyComparison

/-- A comparison of nothing. -/
def create (currency : String) (table : RateTable) : MonthlyComparison :=
  ⟨currency, .create table, ∅⟩

/-- The net amount of a month, if it has one. -/
def get? (c : MonthlyComparison) (month : Nat) (year : Int) : Option Float :=
  c.months[month]?.bind fun years => years[year]?

/-- Adds `v` to the month of `d`. -/
def addAmount (c : MonthlyComparison) (d : Date) (v : Float) : MonthlyComparison :=
  { c with
    months := c.months.alter d.month fun years => some ((years.getD ∅).alter d.year (increase v)) }

instance : Reducer MonthlyComparison where
  process c op :=
    match op.netHead? with
    | none => .ok c
    | some h =>
        match c.rates.convert h.date h.amount h.currency c.currency with
        | (.ok v, rates) => .ok ({ c with rates := rates }.addAmount h.date v)
        | (.error e, rates) => .fail { c with rates := rates } (.rate e)

end MonthlyComparison

/-- The net amounts of years. -/
structure YearlyComparison where
  /-- The currency of the amounts. -/
  currency : String
  /-- The rates to convert with. -/
  rates : RateCache
  /-- The net amounts. -/
  years : Std.ExtTreeMap Int Float

namespace YearlyComparison

/-- A comparison of nothing. -/
def create (currency : String) (table : RateTable) : YearlyComparison :=
  ⟨currency, .create table, ∅⟩

/-- The net amount of a year, if it has one. -/
def get? (c : YearlyComparison) (year : Int) : Option Float := c.years[year]?

/-- Adds `v` to the year of `d`. -/
def addAmount (c : YearlyComparison) (d : Date) (v : Float) : YearlyComparison :=
  { c with years := c.years.alter d.year (increase v) }

instance : Reducer YearlyComparison where
  process c op :=
    match op.netHead? with
    | none => .ok c
    | some h =>
        match c.rates.convert h.date h.amount h.currency c.currency with
        | (.ok v, rates) => .ok ({ c with rates := rates }.addAmount h.date v)
        | (.error e, rates) => .fail { c with rates := rates } (.rate e)

end YearlyComparison

end Cashbook
