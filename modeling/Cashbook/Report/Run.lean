import Cashbook.Dataset
import Cashbook.Decimal.Fixed
import Cashbook.Decimal.Round
import Cashbook.Query.Report
import Cashbook.Rates.Directory
import Cashbook.Report.Options
import Cashbook.Stats.Balances
import Cashbook.Stats.Count
import Cashbook.Stats.Goals
import Cashbook.Stats.IncomeExpense
import Cashbook.Stats.Sweep

/-!
# Making a report

`Report.run` makes the report that some options ask for, from the data and the files of the
directory tree.  The steps come in this order, and the first that fails ends it: the data, the
rates, the filter, the period, and the sweep.

A `Failure` says which step failed and why; `Failure.message` is what is written about it.

### The design decision

**Amounts** are rounded to two places in doubles and then written with two places; the amounts of a
table are aligned on the right in fourteen columns.  `Layout` says which amounts have a sign and how
wide they are.
-/

namespace Cashbook.Report

/-- Why no report can be made. -/
inductive Failure
  /-- The data file cannot be read. -/
  | data (error : DatasetError)
  /-- The rates cannot be read. -/
  | rates (error : DirectoryError)
  /-- The filter is no query. -/
  | filter (error : Query.ParseError)
  /-- The period ends before it starts. -/
  | reversed (start stop : Date)
  /-- The sweep failed. -/
  | stats (error : Error)

/-- What is written about a failure. -/
def Failure.message : Failure → String
  | .data error => s!"Error: {error.message}"
  | .rates error => s!"Error: {error.message}"
  | .filter error => s!"{error.report true}Error: Invalid filter `{error.text}`"
  | .reversed start stop => s!"Error: --from {start.toText} is after --to {stop.toText}"
  | .stats error => s!"Error: {error.message}"

/-! ## Columns -/

/-- A text with blanks before it, up to `width` characters. -/
def alignRight (width : Nat) (cs : List Char) : String :=
  String.ofList (List.replicate (width - cs.length) ' ' ++ cs)

/-- A text with blanks after it, up to `width` characters. -/
def alignLeft (width : Nat) (cs : List Char) : String :=
  String.ofList (cs ++ List.replicate (width - cs.length) ' ')

/-- How a number stands in a report. -/
structure Layout where
  /-- Whether a plus sign stands before what is not negative. -/
  signed : Bool
  /-- The least number of columns. -/
  width : Nat
  /-- The number of digits after the point. -/
  places : Nat

/-- A number rounded and written as a layout says. -/
def Layout.render (l : Layout) (x : Float) : String :=
  alignRight l.width (Decimal.fixedChars l.signed l.places (Decimal.roundTo x l.places))

/-- An amount in a table. -/
def amount : Layout := ⟨false, 14, 2⟩

/-- A change in a table. -/
def change : Layout := ⟨true, 14, 2⟩

/-- An amount within a line. -/
def inlineAmount : Layout := ⟨false, 0, 2⟩

/-- A share in percent. -/
def percentage : Layout := ⟨false, 6, 1⟩

/-! ## The lines of the reports -/

/-- The lines of a summary. -/
def summaryLines (currency : String) (summary : Summary) (c : Counts) (t : IncomeExpense) :
    List String :=
  [ s!"{summary.period.start.toText} to {summary.period.stop.toText} ({summary.days} days)",
    s!"operations: {c.all} (income {c.income}, expense {c.expense}, transfer {c.transfer}, " ++
      s!"adjustment {c.adjustment}, returns {c.returns})",
    s!"income:  {amount.render t.income.running} {currency}",
    s!"expense: {amount.render t.expense.running} {currency}" ]

/-- The lines of a series. -/
def seriesLines (title : String) (s : Series Float) : List String :=
  title :: s.points.map fun p =>
    s!"  {p.date.toText}  {amount.render p.total}  {change.render p.change}"

/-- The lines of a report on accounts. -/
def accountsLines (b : Balances) : List String :=
  match b.rollUp with
  | some rollUp => seriesLines s!"all accounts ({b.currency})" (rollUp.get .month)
  | none => []

/-- The line of one month in different years. -/
def monthLine (month : Nat) (years : Std.ExtTreeMap Int Float) : String :=
  let cells := years.toList.map fun (year, v) => s!"{year}: {inlineAmount.render v}"
  String.intercalate "  " (alignRight 2 (Nat.toDigits 10 month) :: cells)

/-- The lines of a comparison. -/
def compareLines (monthly : MonthlyComparison) (yearly : YearlyComparison) : List String :=
  (monthly.months.toList.map fun (month, years) => monthLine month years) ++
    yearly.years.toList.map fun (year, v) => s!"{year}  {amount.render v}"

/-- The line of one category. -/
def goalLine (g : Goals) (year : Int) (category : String) : Except Error String :=
  (g.progress category year).map fun progress =>
    s!"{alignLeft 20 category.toList} {amount.render (g.spent category year)} " ++
      s!"{percentage.render (progress * 100)}%"

/-- The lines of a report on goals. -/
def goalsLines (g : Goals) (year : Int) : Except Error (List String) :=
  g.categories.mapM (goalLine g year)

/-! ## Making a report -/

/-- What a report is made of. -/
structure Input where
  /-- The recorded data. -/
  dataset : Dataset
  /-- The rates. -/
  book : RateBook
  /-- Which operations to look at. -/
  predicate : Predicate
  /-- Which days to look at. -/
  period : Option Period

/-- The period that the options ask for.  What they leave open is where the log of the store starts
or stops, or today if it has no live operation. -/
def periodOf (o : Options) (today : Date) (store : Store) : Except Failure (Option Period) :=
  if o.start.isNone ∧ o.stop.isNone then .ok none
  else
    match store.firstDate, store.lastDate with
    | .ok first, .ok last =>
        let start := o.start.getD (first.getD today)
        let stop := o.stop.getD (last.getD today)
        if stop < start then .error (.reversed start stop) else .ok (some ⟨start, stop⟩)
    | .error e, _ => .error (.stats e)
    | _, .error e => .error (.stats e)

/-- The rates that the options ask for. -/
def bookOf (o : Options) (tree : Tree) : Except Failure RateBook :=
  match o.rates with
  | none => .ok ∅
  | some directory => (RateBook.ofDirectory directory tree).mapError .rates

/-- What the report is made of, from the data and the files of the tree. -/
def prepare (o : Options) (today : Date) (data : Except DatasetError Dataset)
    (tree : Tree) : Except Failure Input := do
  let dataset ← data.mapError .data
  let book ← bookOf o tree
  let predicate ← (Query.parseQuery (o.filter.getD "")).mapError .filter
  let period ← periodOf o today dataset.store
  return ⟨dataset, book, predicate, period⟩

/-- Sweeps through the data of a report. -/
def Input.sweep {σ : Type} [Reducer σ] (i : Input) (today : Date) (s : σ) :
    Except Failure (σ × Summary) :=
  let outcome := Sweep.run i.dataset.store today i.predicate i.period s
  match outcome.result with
  | .ok summary => .ok (outcome.state, summary)
  | .error e => .error (.stats e)

/-- The lines of the report. -/
def linesOf (o : Options) (today : Date) (i : Input) : Except Failure (List String) :=
  match o.command with
  | .summary => do
      let ((counts, totals), summary) ←
        i.sweep today (Counts.empty, IncomeExpense.create o.currency i.book.rate)
      return summaryLines o.currency summary counts totals
  | .accounts => do
      let (balances, _) ←
        i.sweep today (Balances.create i.dataset.accounts o.currency today i.book.rate)
      return accountsLines balances
  | .compare => do
      let ((monthly, yearly), _) ←
        i.sweep today
          (MonthlyComparison.create o.currency i.book.rate,
            YearlyComparison.create o.currency i.book.rate)
      return compareLines monthly yearly
  | .goals => do
      let (goals, _) ← i.sweep today (Goals.create i.dataset.categories o.currency i.book.rate)
      (goalsLines goals (o.year.getD today.year)).mapError .stats

/-- The report that the options ask for, from the data and the files of the tree. -/
def run (o : Options) (today : Date) (data : Except DatasetError Dataset) (tree : Tree) :
    Except Failure String := do
  let input ← prepare o today data tree
  let lines ← linesOf o today input
  return String.join (lines.map (· ++ "\n"))

end Cashbook.Report
