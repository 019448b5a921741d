import Cashbook.Proofs.Rates.Extension
import Cashbook.Proofs.Rates.Memo
import Cashbook.Proofs.Stats.Holdings
import Cashbook.Stats.Balance
import Cashbook.Stats.IncomeExpense

/-!
# Series that a sweep feeds

Many reducers hold a series that hears of every day and takes in some values of every operation.
`Feeds` says so of a series, and `Feeds.run` what it is after a sweep that succeeds: the series that
follows the days of the sweep, each with the values of what is due on it.

* `Balance.feeds_series` — the balance of an account takes in the amounts of the sides that name it.
* `IncomeExpense.feeds_income`, `IncomeExpense.feeds_expense` — the totals take in the amounts of
  incomes and of expenses, at the rates of the table.  A rate that is missing ends the sweep, so
  that nothing needs to be said of it; if none is missing, no call fails (`IsKeptIn.error_play`).
-/

namespace Cashbook

open Operation Sweep

/-- Whether `view` shows a series of each state of a reducer that satisfies `I`, which hears of the
days and takes in the `values` of the operations, as long as no call fails. -/
structure Feeds {σ α : Type} [Reducer σ] [Zero α] [Add α] (I : σ → Prop)
    (view : σ → BucketedSeries α) (values : Operation → List α) : Prop where
  newDay : ∀ {s : σ} (iv : Intervals), I s → (Reducer.newDay s iv).error = none →
    I (Reducer.newDay s iv).state ∧ view (Reducer.newDay s iv).state = (view s).newDay iv
  process : ∀ {s : σ} (op : Operation), I s → (Reducer.process s op).error = none →
    I (Reducer.process s op).state ∧
      view (Reducer.process s op).state = (view s).addAll (values op)
  done : ∀ {s : σ}, I s → (Reducer.done s).error = none → view (Reducer.done s).state = view s

namespace Feeds

variable {σ α : Type} [Reducer σ] [Zero α] [Add α] {I : σ → Prop} {view : σ → BucketedSeries α}
  {values : Operation → List α} {m : Matcher} {log : List Operation} {s : σ}

/-- What becomes of a series that hears of a call. -/
def hear (values : Operation → List α) (b : BucketedSeries α) : Event → BucketedSeries α
  | .newDay iv => b.newDay iv
  | .process op => b.addAll (values op)
  | .done => b

/-- A series that hears of the days of a sweep follows them. -/
theorem foldl_hear_days (values : Operation → List α) (b : BucketedSeries α)
    (ivs : List Intervals) :
    (ivs.flatMap (dayScript m log)).foldl (hear values) b =
      BucketedSeries.follow (fun d => (due m log d).flatMap values) b ivs := by
  rw [List.foldl_flatMap, BucketedSeries.follow]
  congr 1
  funext b iv
  rw [dayScript, List.foldl_cons, List.foldl_map, BucketedSeries.addAll, List.foldl_flatMap]
  rfl

/-- The days of a sweep. -/
theorem play_days (h : Feeds I view values) (hs : I s) (ivs : List Intervals)
    (herror : (play s (ivs.flatMap (dayScript m log))).error = none) :
    I (play s (ivs.flatMap (dayScript m log))).state ∧
      view (play s (ivs.flatMap (dayScript m log))).state =
        BucketedSeries.follow (fun d => (due m log d).flatMap values) (view s) ivs := by
  rw [← foldl_hear_days]
  refine play_days_induction (R := fun es s' => I s' ∧ view s' = es.foldl (hear values) (view s))
    ?_ ?_ ⟨hs, rfl⟩ ivs herror
  · rintro es s' iv ⟨hI, hview⟩ herror
    obtain ⟨hI, hopened⟩ := h.newDay iv hI herror
    refine ⟨hI, ?_⟩
    rw [hopened, hview, List.foldl_append]
    rfl
  · rintro es s' op ⟨hI, hview⟩ herror
    obtain ⟨hI, hadded⟩ := h.process op hI herror
    refine ⟨hI, ?_⟩
    rw [hadded, hview, List.foldl_append]
    rfl

/-- **A sweep that succeeds** lets the series follow its days. -/
theorem run (h : Feeds I view values) (hs : I s) {ops : List Operation} {today : Date}
    {p : Predicate} {period : Period} {after : σ} {summary : Summary} (hm : p.compile = .ok m)
    (hrun : Sweep.run (Store.load ops) today p (some period) s = ⟨after, .ok summary⟩) :
    view after = BucketedSeries.follow (fun d => (due m (sortLog ops) d).flatMap values) (view s)
      ((Tracker.create period.start today).visits period.days) := by
  obtain ⟨m', hm', rfl, herror, rfl⟩ := exists_of_run_load hrun
  obtain rfl : m' = m := Except.ok.inj (hm'.symm.trans hm)
  rw [scriptOf, play_script] at herror ⊢
  obtain ⟨hdays, hdone⟩ := Reply.error_andThen_eq_none herror
  obtain ⟨hI, hview⟩ := h.play_days hs _ hdays
  rw [hdone] at herror ⊢
  exact (h.done hI herror).trans hview

end Feeds

/-! ### The balance of an account -/

/-- No call of the balance of one account fails. -/
theorem Balance.error_play (b : Balance) (es : List Event) : (play b es).error = none := by
  induction es generalizing b with
  | nil => rfl
  | cons e es ih => cases e <;> exact ih _

/-- The balance of an account takes in the amounts of the sides that name the account. -/
theorem Balance.feeds_series (account : String) :
    Feeds (fun b : Balance => b.account = account) (·.series)
      (Balances.amountsOn account ·.sides) where
  newDay _ hs _ := ⟨hs, rfl⟩
  process {b} op hs _ := by
    refine ⟨hs, ?_⟩
    show (op.sides.filter (·.name = b.account)).foldl _ b.series = _
    rw [BucketedSeries.addAll, Balances.amountsOn, List.foldl_map, hs]
  done _ _ := rfl

/-! ### Incomes and expenses -/

namespace IncomeExpense

variable {table : RateTable} {currency : String} {t : IncomeExpense}

/-- The amount of an operation in a currency, if the table has the rate. -/
def converted (table : RateTable) (currency : String) (h : Head) : List Float :=
  ((table h.date h.currency currency).toOption.map (h.amount * ·)).toList

/-- What an operation adds to the incomes. -/
def incomeOf (table : RateTable) (currency : String) : Operation → List Float
  | .income h _ _ => converted table currency h
  | _ => []

/-- What an operation adds to the expenses. -/
def expenseOf (table : RateTable) (currency : String) : Operation → List Float
  | .expense h _ _ => converted table currency h
  | _ => []

/-- Whether the totals are kept in `currency`, at the rates of the table. -/
structure IsKeptIn (table : RateTable) (currency : String) (t : IncomeExpense) : Prop where
  rates : t.rates.IsFaithful table
  currency_eq : t.currency = currency

theorem isKeptIn_create (table : RateTable) (currency : String) :
    (create currency table).IsKeptIn table currency :=
  ⟨RateCache.isFaithful_create table, rfl⟩

/-- An amount that is converted is the one at the rate of the table. -/
theorem amountOf_spec (ht : t.IsKeptIn table currency)
    (hself : ∀ date currency, table date currency currency = .ok 1) (h : Head) :
    (t.amountOf h).1.toOption.toList = converted table currency h ∧
      (t.amountOf h).2.IsFaithful table := by
  obtain ⟨hrate, hfaithful⟩ :=
    RateCache.rate_spec h.date h.currency t.currency hself ht.rates
  rw [ht.currency_eq] at hrate hfaithful
  rw [amountOf, RateCache.convert, ht.currency_eq]
  refine ⟨?_, hfaithful⟩
  dsimp only
  rw [hrate, converted]
  cases table h.date h.currency currency <;> rfl

/-- An operation that is taken in. -/
theorem add_spec (ht : t.IsKeptIn table currency)
    (hself : ∀ date currency, table date currency currency = .ok 1) (op : Operation)
    (herror : (t.add op).error = none) :
    (t.add op).state.IsKeptIn table currency ∧
      (t.add op).state.income = t.income.addAll (incomeOf table currency op) ∧
      (t.add op).state.expense = t.expense.addAll (expenseOf table currency op) := by
  cases op with
  | income h side splits =>
      obtain ⟨hamount, hfaithful⟩ := amountOf_spec ht hself h
      rw [add] at herror ⊢
      split at herror
      case h_1 v rates hv =>
        rw [hv] at hamount hfaithful
        rw [incomeOf, ← hamount]
        exact ⟨⟨hfaithful, ht.currency_eq⟩, rfl, rfl⟩
      case h_2 => cases herror
  | expense h side splits =>
      obtain ⟨hamount, hfaithful⟩ := amountOf_spec ht hself h
      rw [add] at herror ⊢
      split at herror
      case h_1 v rates hv =>
        rw [hv] at hamount hfaithful
        rw [expenseOf, ← hamount]
        exact ⟨⟨hfaithful, ht.currency_eq⟩, rfl, rfl⟩
      case h_2 => cases herror
  | _ => exact ⟨ht, rfl, rfl⟩

/-- Where the table has the rate of an operation, the operation is taken in. -/
theorem error_add (ht : t.IsKeptIn table currency)
    (hself : ∀ date currency, table date currency currency = .ok 1) {op : Operation}
    (hrate : ∀ h, op.head? = some h → ∃ rate, table h.date h.currency currency = .ok rate) :
    (t.add op).error = none := by
  cases op with
  | income h side splits | expense h side splits =>
      obtain ⟨rate, hrate⟩ := hrate h rfl
      obtain ⟨hamount, -⟩ := amountOf_spec ht hself h
      rw [converted, hrate] at hamount
      rw [add]
      split
      case h_1 => rfl
      case h_2 hv =>
        rw [hv] at hamount
        cases hamount
  | _ => rfl

/-- **No call of the totals fails** where the table has the rates of all operations. -/
theorem IsKeptIn.error_play (ht : t.IsKeptIn table currency)
    (hself : ∀ date currency, table date currency currency = .ok 1) {es : List Event}
    (hrates : ∀ op, .process op ∈ es → ∀ h, op.head? = some h →
      ∃ rate, table h.date h.currency currency = .ok rate) :
    (play t es).error = none := by
  induction es generalizing t with
  | nil => rfl
  | cons e es ih =>
      have hrest := fun op hop => hrates op (List.mem_cons_of_mem e hop)
      cases e with
      | newDay iv => exact ih ⟨ht.rates, ht.currency_eq⟩ hrest
      | done => exact ih ht hrest
      | process op =>
          have hsend : (Event.send t (.process op)).error = none :=
            error_add ht hself (hrates op List.mem_cons_self)
          obtain ⟨hkept, -⟩ := add_spec ht hself op hsend
          rw [play_cons, Reply.andThen_of_none hsend]
          exact ih hkept hrest

/-- A sweep succeeds if the rates of all currencies are known by a day that no operation precedes.
-/
theorem IsKeptIn.error_play_script {book : RateBook} (ht : t.IsKeptIn book.rate currency)
    {m : Matcher} {log : List Operation} {ivs : List Intervals} {s : Date}
    (hcurrency : book.KnowsBy s currency)
    (hknown : ∀ op ∈ log, ∀ h, op.head? = some h → s ≤ h.date ∧ book.KnowsBy s h.currency) :
    (play t (script m log ivs)).error = none := by
  refine ht.error_play book.rate_self fun op hop h hh => ?_
  obtain ⟨hle, hsource⟩ := hknown op (mem_of_mem_script hop) h hh
  exact (hsource.mono hle).exists_rate (hcurrency.mono hle)

/-- The incomes take in the amounts of incomes. -/
theorem feeds_income (hself : ∀ date currency, table date currency currency = .ok 1)
    (currency : String) :
    Feeds (IsKeptIn table currency) (·.income) (incomeOf table currency) where
  newDay _ ht _ := ⟨⟨ht.rates, ht.currency_eq⟩, rfl⟩
  process op ht herror :=
    let ⟨hkept, hincome, _⟩ := add_spec ht hself op herror
    ⟨hkept, hincome⟩
  done _ _ := rfl

/-- The expenses take in the amounts of expenses. -/
theorem feeds_expense (hself : ∀ date currency, table date currency currency = .ok 1)
    (currency : String) :
    Feeds (IsKeptIn table currency) (·.expense) (expenseOf table currency) where
  newDay _ ht _ := ⟨⟨ht.rates, ht.currency_eq⟩, rfl⟩
  process op ht herror :=
    let ⟨hkept, _, hexpense⟩ := add_spec ht hself op herror
    ⟨hkept, hexpense⟩
  done _ _ := rfl

end IncomeExpense

end Cashbook
