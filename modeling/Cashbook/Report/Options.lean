import Cashbook.Calendar.DateText

/-!
# The options of a report

`Options` says which report to make and of what.  `Options.ofArgs` reads them from the words of a
command line: the name of the report, then options such as `--currency=EUR` or `--currency EUR`.
The sign before a value may be repeated, so that no value of the first form begins with one.
`--verbose` and `-v` ask for a log of the work; they are accepted any number of times, and no report
depends on them.
-/

namespace Cashbook.Report

/-- The reports. -/
inductive Command
  /-- The counts of operations, with the totals of income and expense. -/
  | summary
  /-- The monthly balance of all accounts together. -/
  | accounts
  /-- The net amounts of months and of years. -/
  | compare
  /-- The progress of every category with a yearly goal. -/
  | goals
  deriving DecidableEq, Repr

/-- The report that a word names. -/
def Command.ofName? (word : String) : Option Command :=
  if word = "summary" then some .summary
  else if word = "accounts" then some .accounts
  else if word = "compare" then some .compare
  else if word = "goals" then some .goals
  else none

/-- Which report to make, and of what. -/
structure Options where
  /-- The report. -/
  command : Command
  /-- The data file. -/
  data : String
  /-- The directory of the rate files. -/
  rates : Option String
  /-- The currency of the amounts. -/
  currency : String
  /-- The filter query. -/
  filter : Option String
  /-- The first day. -/
  start : Option Date
  /-- The last day. -/
  stop : Option Date
  /-- The day that counts as today. -/
  today : Option Date
  /-- The year of a report on goals. -/
  year : Option Int

namespace Options

/-- The options of a report before any is given. -/
def initial (command : Command) : Options :=
  ⟨command, "", none, "USD", none, none, none, none, none⟩

/-- The options after one more, by its name and its value. -/
def set (o : Options) (name value : String) : Except String Options :=
  let date (set : Date → Options) : Except String Options :=
    match Date.ofText? value with
    | some d => .ok (set d)
    | none => .error s!"Invalid value for --{name}: {value}"
  if name = "data" then .ok { o with data := value }
  else if name = "rates" then .ok { o with rates := some value }
  else if name = "currency" then .ok { o with currency := value }
  else if name = "filter" then .ok { o with filter := some value }
  else if name = "from" then date fun d => { o with start := some d }
  else if name = "to" then date fun d => { o with stop := some d }
  else if name = "today" then date fun d => { o with today := some d }
  else if name = "year" then
    match Text.integer? value.toList with
    | some y => .ok { o with year := some y }
    | none => .error s!"Invalid value for --{name}: {value}"
  else .error s!"Unknown option --{name}"

/-- The options after the words of a command line that follow the name of the report. -/
def setAll (o : Options) : List String → Except String Options
  | [] => .ok o
  | word :: words =>
      match word.toList with
      | '-' :: '-' :: cs =>
          let name := String.ofList (cs.takeWhile (· ≠ '='))
          match cs.dropWhile (· ≠ '=') with
          | _ :: value =>
              match o.set name (String.ofList (value.dropWhile (· = '='))) with
              | .ok o => o.setAll words
              | .error e => .error e
          | [] =>
              if name = "verbose" then o.setAll words
              else
                match words with
                | [] => .error s!"Missing value for --{name}"
                | value :: words =>
                    match o.set name value with
                    | .ok o => o.setAll words
                    | .error e => .error e
      | '-' :: cs => if cs.all (· = 'v') then o.setAll words else .error s!"Unknown option {word}"
      | _ => .error s!"Unexpected argument {word}"

/-- The options that the words of a command line give. -/
def ofArgs : List String → Except String Options
  | [] => .error "Missing command: summary, accounts, compare or goals"
  | word :: words =>
      match Command.ofName? word with
      | none => .error s!"Unknown command {word}"
      | some command =>
          match (initial command).setAll words with
          | .error e => .error e
          | .ok o => if o.data = "" then .error "Missing option --data" else .ok o

end Options

end Cashbook.Report
