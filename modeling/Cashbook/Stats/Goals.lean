import Cashbook.Account
import Cashbook.Stats.Comparison

/-!
# Goals

`Goals` follows the categories with a yearly goal: how much was booked on each in each year, in one
currency, and which share of the goal that is.
-/

namespace Cashbook

/-- What was booked on the categories with a goal. -/
structure Goals where
  /-- The currency of the amounts. -/
  currency : String
  /-- The rates to convert with. -/
  rates : RateCache
  /-- The yearly goal of each category that has one. -/
  goals : Std.ExtTreeMap String Float
  /-- The amounts booked: by category, then by year. -/
  booked : Std.ExtTreeMap String (Std.ExtTreeMap Int Float)

namespace Goals

/-- The goal of a category, unless it is a tombstone or has none. -/
def goalOf? (c : Category) : Option (String × Float) :=
  if c.isActive then c.yearlyGoal.map fun goal => (c.name, goal) else none

/-- The goals of some categories that nothing has been booked on. -/
def create (categories : List Category) (currency : String) (table : RateTable) : Goals where
  currency := currency
  rates := .create table
  goals := (categories.filterMap goalOf?).foldl (fun m g => m.insert g.1 g.2) ∅
  booked := ∅

/-- The yearly goal of a category, if it has one. -/
def goal? (g : Goals) (category : String) : Option Float := g.goals[category]?

/-- The names of the categories with a goal, in order. -/
def categories (g : Goals) : List String := g.goals.keys

/-- The amounts booked on a category in a year, with their sign. -/
def spent (g : Goals) (category : String) (year : Int) : Float :=
  (g.booked[category]?.bind fun years => years[year]?).getD 0

/-- The share of the yearly goal that was used up in a year. -/
def progress (g : Goals) (category : String) (year : Int) : Except Error Float :=
  match g.goal? category with
  | some goal => .ok ((g.spent category year).abs / goal)
  | none => .error (.missingGoal category)

/-- Books `v` on a category in a year. -/
def book (g : Goals) (category : String) (year : Int) (v : Float) : Goals :=
  { g with
    booked := g.booked.alter category fun years => some ((years.getD ∅).alter year (increase v)) }

/-- Books some shares of an operation with the head `h`, those of categories with a goal.  The first
one that has no rate ends it. -/
def bookSplits (g : Goals) (h : Head) : List Split → Reply Goals
  | [] => .ok g
  | split :: splits =>
      if (g.goal? split.name).isSome then
        match g.rates.convert h.date split.amount h.currency g.currency with
        | (.error e, rates) => .fail { g with rates := rates } (.rate e)
        | (.ok v, rates) =>
          bookSplits ({ g with rates := rates }.book split.name h.date.year v) h splits
      else bookSplits g h splits

instance : Reducer Goals where
  process g op :=
    match op with
    | .income h _ splits => g.bookSplits h splits
    | .expense h _ splits => g.bookSplits h splits
    | _ => .ok g

/-- An operation without splits is not booked. -/
theorem process_eq (g : Goals) (op : Operation) :
    Reducer.process g op =
      match op.head?, op.splits? with
      | some h, some splits => g.bookSplits h splits
      | _, _ => .ok g := by
  cases op <;> rfl

end Goals

end Cashbook
