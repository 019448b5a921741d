import Std.Data.ExtTreeMap
import Cashbook.Calendar.DateText
import Cashbook.Json.Record

/-!
# Exchange rates

A `RateBook` holds the exchange rates of each currency against a base currency, month by month as
they are published: the rate for the day `i + 1` of a month is the entry `i` of its list.

* `RateBook.insert` — takes in the rates of one month, in place of those known before.
* `RateBook.baseRate` — the rate of a currency on a day.  If there is none for that day, it is the
  one known last before it, or, if there is none before it, the first one known after it.
* `RateBook.rate` — the rate between two currencies, by way of the base currency.

### The design decision

Months are numbered in order, twelve to a year, so that the months of a currency are a map ordered
by one integer, and the search for a rate near a day goes through the months before and after it in
that order.
-/

namespace Cashbook

/-- The currency that all others are quoted against. -/
def baseCurrency : String := "USD"

/-- Why there is no rate. -/
inductive RateError
  /-- No rate of the currency is known on any day. -/
  | missing (currency : String) (date : Date)
  /-- The text names no month. -/
  | badMonth (text : String)
  deriving DecidableEq

/-- The text of the error. -/
def RateError.message : RateError → String
  | .missing currency date => s!"no exchange rate known for {currency} around {date.toText}"
  | .badMonth text => s!"malformed rate month `{text}`, expected yyyy-MM"

/-- How many units of the second currency one unit of the first is worth on a day. -/
abbrev RateTable := Date → String → String → Except RateError Float

/-- The published rates of one currency in one month. -/
structure MonthlyRates where
  /-- The text that names the month. -/
  month : String
  /-- The currency. -/
  currency : String
  /-- The units of the currency for one unit of the base currency, day after day. -/
  rates : List Float

namespace MonthlyRates

/-- The greatest year that a month may lie in. -/
def maxYear : Nat := 2147483647

/-- The number of the month that a text names: a year, a hyphen and a month from 1 to 12, each of
which may have a plus sign before it. -/
def monthIndex? (text : String) : Option Int := do
  let cs := text.toList
  let y ← Text.unsigned? (cs.takeWhile (· ≠ '-'))
  let rest ← Text.afterChar? '-' (cs.dropWhile (· ≠ '-'))
  let m ← Text.unsigned? rest
  guard (y ≤ maxYear ∧ 1 ≤ m ∧ m ≤ 12)
  return 12 * y + m - 1

/-- The rates that a value stands for. -/
def ofJson? (v : Json) : Option MonthlyRates := do
  let r ← Record.read? ["month", "currency", "rates"] v
  return {
    month := ← r.required? "month" Json.toText?
    currency := ← r.required? "currency" Json.toText?
    rates := ← r.required? "rates" (Json.readList? Json.toFloat?) }

end MonthlyRates

/-- The rates of one currency, by the number of the month. -/
abbrev Months := Std.ExtTreeMap Int (List Float)

namespace Months

/-- The rate for the entry `i` of the month `k`. -/
def onDay? (months : Months) (k : Int) (i : Nat) : Option Float :=
  months[k]?.bind fun rates => rates[i]?

/-- The last rate known before the entry `i` of the month `k`. -/
def earlier? (months : Months) (k : Int) (i : Nat) : Option Float :=
  (months.toList.filter fun m => m.1 ≤ k).reverse.findSome? fun m =>
    (if m.1 = k then m.2.take i else m.2).getLast?

/-- The first rate known in the month `k` or after it. -/
def later? (months : Months) (k : Int) : Option Float :=
  (months.toList.filter fun m => k ≤ m.1).findSome? fun m => m.2.head?

/-- The rate nearest to the entry `i` of the month `k`: that entry, or the last one before it, or
the first one after it. -/
def nearest? (months : Months) (k : Int) (i : Nat) : Option Float :=
  (months.onDay? k i).or ((months.earlier? k i).or (months.later? k))

end Months

/-- The rates of all currencies. -/
structure RateBook where
  /-- The rates of each currency that has any. -/
  currencies : Std.ExtTreeMap String Months

namespace RateBook

/-- The book without rates. -/
def empty : RateBook := ⟨∅⟩

instance : EmptyCollection RateBook := ⟨empty⟩

/-- The rates of a currency. -/
def months (book : RateBook) (currency : String) : Months := book.currencies.getD currency ∅

/-- Takes in the rates of one month. -/
def insert (book : RateBook) (file : MonthlyRates) : Except RateError RateBook :=
  match MonthlyRates.monthIndex? file.month with
  | none => .error (.badMonth file.month)
  | some k =>
      .ok ⟨book.currencies.insert file.currency ((book.months file.currency).insert k file.rates)⟩

/-- How many units of `currency` one unit of the base currency is worth on `date`. -/
def baseRate (book : RateBook) (date : Date) (currency : String) : Except RateError Float :=
  if currency = baseCurrency then .ok 1
  else
    match (book.months currency).nearest? date.monthIndex (date.day - 1) with
    | some rate => .ok rate
    | none => .error (.missing currency date)

/-- How many units of `target` one unit of `source` is worth on `date`. -/
def rate (book : RateBook) : RateTable := fun date source target =>
  if source = target then .ok 1
  else
    match book.baseRate date target with
    | .error e => .error e
    | .ok t =>
        match book.baseRate date source with
        | .error e => .error e
        | .ok s => .ok (t / s)

end RateBook

end Cashbook
