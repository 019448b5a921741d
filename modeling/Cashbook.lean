import Cashbook.Text.Blank
import Cashbook.Text.Numeral
import Cashbook.Text.Printable
import Cashbook.Text.Quoted
import Cashbook.Text.Search
import Cashbook.Text.Width
import Cashbook.Decimal.Fixed
import Cashbook.Decimal.Round
import Cashbook.Json.Basic
import Cashbook.Json.Reader
import Cashbook.Json.Record
import Cashbook.Calendar.Date
import Cashbook.Calendar.DateText
import Cashbook.Calendar.Granularity
import Cashbook.Calendar.Period
import Cashbook.Calendar.Timestamp
import Cashbook.Calendar.Tracker
import Cashbook.Rates.Book
import Cashbook.Rates.Cache
import Cashbook.Rates.Directory
import Cashbook.Rates.Tree
import Cashbook.Operation.Basic
import Cashbook.Operation.Json
import Cashbook.Operation.Order
import Cashbook.Operation.Rename
import Cashbook.Account
import Cashbook.Predicate.Basic
import Cashbook.Predicate.Compile
import Cashbook.Predicate.Printer
import Cashbook.Query.Diagnostic
import Cashbook.Query.Lexer
import Cashbook.Query.Parser
import Cashbook.Query.Report
import Cashbook.Query.Token
import Cashbook.Filter
import Cashbook.Error
import Cashbook.Store
import Cashbook.Dataset
import Cashbook.Stats.Balance
import Cashbook.Stats.Balances
import Cashbook.Stats.Comparison
import Cashbook.Stats.Count
import Cashbook.Stats.Goals
import Cashbook.Stats.IncomeExpense
import Cashbook.Stats.Reducer
import Cashbook.Stats.Series
import Cashbook.Stats.Sweep
import Cashbook.Report.Options
import Cashbook.Report.Run
import Cashbook.Main
import Cashbook.Proofs.Lists
import Cashbook.Proofs.Maps
import Cashbook.Proofs.Calendar.Buckets
import Cashbook.Proofs.Calendar.Closings
import Cashbook.Proofs.Calendar.Days
import Cashbook.Proofs.Calendar.Edges
import Cashbook.Proofs.Calendar.Intervals
import Cashbook.Proofs.Calendar.Partition
import Cashbook.Proofs.Calendar.Sharing
import Cashbook.Proofs.Calendar.Walk
import Cashbook.Proofs.Operation.LogOrder
import Cashbook.Proofs.Operation.Weight
import Cashbook.Proofs.Predicate.Meaning
import Cashbook.Proofs.Predicate.Panel
import Cashbook.Proofs.Predicate.Replace
import Cashbook.Proofs.Predicate.Shape
import Cashbook.Proofs.Query.Derivation
import Cashbook.Proofs.Query.Faults
import Cashbook.Proofs.Query.Grammar
import Cashbook.Proofs.Query.Lexing
import Cashbook.Proofs.Query.Reading
import Cashbook.Proofs.Query.RoundTrip
import Cashbook.Proofs.Query.Spans
import Cashbook.Proofs.Rates.Extension
import Cashbook.Proofs.Rates.Memo
import Cashbook.Proofs.Rates.MonthText
import Cashbook.Proofs.Rates.Nearest
import Cashbook.Proofs.Rates.Queries
import Cashbook.Proofs.Store.Amending
import Cashbook.Proofs.Store.Convergence
import Cashbook.Proofs.Store.History
import Cashbook.Proofs.Store.Records
import Cashbook.Proofs.Store.Repeats
import Cashbook.Proofs.Store.Staleness
import Cashbook.Proofs.Store.Stamping
import Cashbook.Proofs.Stats.Adjacent
import Cashbook.Proofs.Stats.Agreement
import Cashbook.Proofs.Stats.Bookings
import Cashbook.Proofs.Stats.Calls
import Cashbook.Proofs.Stats.Counting
import Cashbook.Proofs.Stats.Feeding
import Cashbook.Proofs.Stats.Grouping
import Cashbook.Proofs.Stats.Holdings
import Cashbook.Proofs.Stats.InStep
import Cashbook.Proofs.Stats.Narrowing
import Cashbook.Proofs.Stats.Parts
import Cashbook.Proofs.Stats.Past
import Cashbook.Proofs.Stats.Reconciling
import Cashbook.Proofs.Stats.Recounting
import Cashbook.Proofs.Stats.Refusing
import Cashbook.Proofs.Stats.Renaming
import Cashbook.Proofs.Stats.Rewriting
import Cashbook.Proofs.Stats.RollUp
import Cashbook.Proofs.Stats.Script
import Cashbook.Proofs.Stats.Spending
import Cashbook.Proofs.Report.Order
