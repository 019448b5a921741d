import Cashbook.Rates.Cache
import Cashbook.Stats.Reducer
import Cashbook.Stats.Series

/-!
# Income and expense

`IncomeExpense` adds up the incomes of a sweep and its expenses, each amount converted into one
currency at the rate of its own day.
-/

namespace Cashbook

/-- The totals of incomes and of expenses in one currency. -/
structure IncomeExpense where
  /-- The currency of the totals. -/
  currency : String
  /-- The rates to convert with. -/
  rates : RateCache
  /-- The total of the incomes. -/
  income : BucketedSeries Float
  /-- The total of the expenses. -/
  expense : BucketedSeries Float

namespace IncomeExpense

/-- Totals of nothing. -/
def create (currency : String) (table : RateTable) : IncomeExpense :=
  ⟨currency, .create table, .empty, .empty⟩

/-- The amount of an operation with the head `h` in the currency of the totals, and the cache that
remembers the rate. -/
def amountOf (t : IncomeExpense) (h : Head) : Except RateError Float × RateCache :=
  t.rates.convert h.date h.amount h.currency t.currency

/-- Adds an operation to the totals. -/
def add (t : IncomeExpense) (op : Operation) : Reply IncomeExpense :=
  match op with
  | .income h _ _ =>
      match t.amountOf h with
      | (.ok v, rates) => .ok { t with rates := rates, income := t.income.add v }
      | (.error e, rates) => .fail { t with rates := rates } (.rate e)
  | .expense h _ _ =>
      match t.amountOf h with
      | (.ok v, rates) => .ok { t with rates := rates, expense := t.expense.add v }
      | (.error e, rates) => .fail { t with rates := rates } (.rate e)
  | _ => .ok t

instance : Reducer IncomeExpense where
  newDay t iv := .ok { t with income := t.income.newDay iv, expense := t.expense.newDay iv }
  process := add

end IncomeExpense

end Cashbook
