import Cashbook.Proofs.Maps
import Cashbook.Proofs.Stats.Calls
import Cashbook.Proofs.Stats.Feeding
import Cashbook.Stats.Comparison

/-!
# What comparisons and totals are made of

`Recounts R` says that `R` relates the states of a reducer to the operations that it has been
handed, and `Recounts.run` takes this from single calls to a sweep.  So there is one relation for
each reducer.  Where it also says which operations are refused, `Recounts.result_eq_error_iff` says
when a sweep fails.

* `MonthlyComparison.recounts`, `YearlyComparison.recounts` — every entry of a comparison is the sum
  of the amounts of the operations that belong to it, in the order in which they were handed over.
* `IncomeExpense.recounts` — the running totals are the sums of all incomes and of all expenses.

### The design decision

A comparison of months is a map of maps, one of years a map; but what a single entry becomes does
not depend on the others.  `ComparesBy` is about the function from keys to entries, and has the step
that the two share: an amount that is added changes the entry for its key, and a rate that is
missing ends the sweep.
-/

namespace Cashbook

open Sweep Operation BucketedSeries

/-! ### What a reducer has been handed -/

/-- Whether `R` relates the states of a reducer to the operations that it has been handed, as long
as no call fails. -/
structure Recounts {σ : Type} [Reducer σ] (R : List Operation → σ → Prop) : Prop where
  newDay : ∀ {ops : List Operation} {s : σ} (iv : Intervals), R ops s →
    (Reducer.newDay s iv).error = none → R ops (Reducer.newDay s iv).state
  process : ∀ {ops : List Operation} {s : σ} (op : Operation), R ops s →
    (Reducer.process s op).error = none → R (ops ++ [op]) (Reducer.process s op).state
  done : ∀ {ops : List Operation} {s : σ}, R ops s →
    (Reducer.done s).error = none → R ops (Reducer.done s).state

/-- The operation that a call hands over, if it hands over one. -/
def Sweep.Event.operation? : Event → Option Operation
  | process op => some op
  | _ => none

namespace Recounts

variable {σ : Type} [Reducer σ] {R : List Operation → σ → Prop} {m : Matcher}
  {log : List Operation} {s : σ}

/-- What the calls of some days hand over is what is due on them. -/
theorem filterMap_operation_days (ivs : List Intervals) :
    (ivs.flatMap (dayScript m log)).filterMap Event.operation? =
      ivs.flatMap fun iv => due m log iv.date := by
  rw [List.filterMap_flatMap]
  congr 1
  funext iv
  rw [dayScript, List.filterMap_cons_none rfl, List.filterMap_map]
  exact List.filterMap_some

/-- The days of a sweep. -/
theorem play_days (h : Recounts R) (hs : R [] s) (ivs : List Intervals)
    (herror : (play s (ivs.flatMap (dayScript m log))).error = none) :
    R (ivs.flatMap fun iv => due m log iv.date)
      (play s (ivs.flatMap (dayScript m log))).state := by
  rw [← filterMap_operation_days]
  refine play_days_induction (R := fun es s' => R (es.filterMap Event.operation?) s')
    ?_ ?_ hs ivs herror
  · intro es s' iv hR herror
    rw [List.filterMap_append]
    show R (es.filterMap Event.operation? ++ []) _
    rw [List.append_nil]
    exact h.newDay iv hR herror
  · intro es s' op hR herror
    rw [List.filterMap_append]
    exact h.process op hR herror

/-- **A sweep that succeeds** leads to a state that is related to what it has handed over. -/
theorem run (h : Recounts R) (hs : R [] s) {ops : List Operation} {today : Date} {p : Predicate}
    {span : Option Period} {after : σ} {summary : Summary} (hm : p.compile = .ok m)
    (hrun : Sweep.run (Store.load ops) today p span s = ⟨after, .ok summary⟩) :
    R (handedOver m (sortLog ops) summary.period) after := by
  obtain ⟨m', hm', -, herror, rfl⟩ := exists_of_run_load hrun
  obtain rfl : m' = m := Except.ok.inj (hm'.symm.trans hm)
  rw [scriptOf, play_script] at herror ⊢
  obtain ⟨hdays, hdone⟩ := Reply.error_andThen_eq_none herror
  have hR := h.play_days hs _ hdays
  rw [flatMap_due_visits m' (chronological_sortLog ops)] at hR
  rw [hdone] at herror ⊢
  exact h.done hR herror

/-- What a sweep hands over. -/
theorem filterMap_operation_script (hlog : Chronological log) (today : Date) (period : Period) :
    (scriptOf m log today period).filterMap Event.operation? = handedOver m log period := by
  rw [scriptOf, script, List.filterMap_append, filterMap_operation_days, flatMap_due_visits m hlog]
  exact List.append_nil _

/-- **Where calls fail.**  If it depends on the operation alone whether it is refused, and nothing
else fails, calls fail with the first operation that is refused. -/
theorem error_play (h : Recounts R) {refusal? : Operation → Option Error}
    (hsend : ∀ {ops : List Operation} {s : σ} (e : Event), R ops s →
      (e.send s).error = e.operation?.bind refusal?)
    {ops : List Operation} (hs : R ops s) (es : List Event) :
    (play s es).error = (es.filterMap Event.operation?).findSome? refusal? := by
  rw [Lists.findSome?_filterMap]
  induction es generalizing ops s with
  | nil => rfl
  | cons e es ih =>
      have herror := hsend e hs
      rw [play_cons, List.findSome?_cons, ← herror]
      cases hcall : (e.send s).error with
      | some error => rw [Reply.andThen_of_error hcall, hcall]
      | none =>
          rw [Reply.andThen_of_none hcall]
          cases e with
          | newDay iv => exact ih (h.newDay iv hs hcall)
          | process op => exact ih (h.process op hs hcall)
          | done => exact ih (h.done hs hcall)

/-- **Where a sweep fails**, if it depends on the operation alone whether it is refused. -/
theorem result_eq_error_iff (h : Recounts R) {refusal? : Operation → Option Error}
    (hsend : ∀ {ops : List Operation} {s : σ} (e : Event), R ops s →
      (e.send s).error = e.operation?.bind refusal?)
    (hs : R [] s) (ops : List Operation) (today : Date) {p : Predicate} (hm : p.compile = .ok m)
    (span : Option Period) {e : Error} :
    (Sweep.run (Store.load ops) today p span s).result = .error e ↔
      (handedOver m (sortLog ops) (periodOf (sortLog ops) today span)).findSome? refusal? =
        some e := by
  rw [run_load ops today hm, result_outcome_eq_error_iff, h.error_play hsend hs,
    filterMap_operation_script (chronological_sortLog ops)]

end Recounts

/-! ### The amounts of incomes and expenses -/

/-- The heads of the incomes and expenses among some operations. -/
def netHeads (ops : List Operation) : List Head := ops.filterMap netHead?

/-- The heads of the operations of a kind. -/
def headsOf (k : Kind) (ops : List Operation) : List Head :=
  (ops.filter (·.kind = k)).filterMap head?

/-- What an entry with some amounts holds: their sum from left to right, and nothing if there are no
amounts. -/
def entryOf (vs : List Float) : Option Float := if vs = [] then none else some (leftSum vs)

variable {table : RateTable} {currency : String} {ops : List Operation} {op : Operation} {h : Head}

/-- One amount more. -/
theorem entryOf_concat (vs : List Float) (v : Float) :
    entryOf (vs ++ [v]) = increase v (entryOf vs) := by
  have hne : vs ++ [v] ≠ [] := List.append_ne_nil_of_right_ne_nil vs (List.cons_ne_nil v [])
  rw [entryOf, if_neg hne, leftSum_append, entryOf, increase]
  split
  case isTrue hvs =>
    subst hvs
    rfl
  case isFalse => rfl

/-- An entry holds something if there are amounts. -/
theorem isSome_entryOf_iff {vs : List Float} : (entryOf vs).isSome ↔ vs ≠ [] := by
  rw [entryOf]
  split
  case isTrue hvs => simp [hvs]
  case isFalse hvs => simp [hvs]

/-- An entry that is not there counts as zero. -/
theorem getD_entryOf (vs : List Float) : (entryOf vs).getD 0 = leftSum vs := by
  rw [entryOf]
  split
  case isTrue hvs =>
    subst hvs
    rfl
  case isFalse => rfl

/-- What an entry holds is a sum. -/
theorem eq_leftSum_of_entryOf {vs : List Float} {v : Float} (hv : entryOf vs = some v) :
    v = leftSum vs := by
  rw [entryOf] at hv
  split at hv
  case isTrue => cases hv
  case isFalse => exact (Option.some_inj.1 hv).symm

/-- The amount of an operation in a currency, where a rate that is missing counts as zero. -/
def amountIn (table : RateTable) (currency : String) (h : Head) : Float :=
  h.amount * (table h.date h.currency currency).toOption.getD 0

theorem amountIn_eq {rate : Float} (hrate : table h.date h.currency currency = .ok rate) :
    amountIn table currency h = h.amount * rate := by
  rw [amountIn, hrate]
  rfl

theorem netHeads_concat_of_none (hop : op.netHead? = none) :
    netHeads (ops ++ [op]) = netHeads ops := by
  simp [netHeads, hop]

theorem netHeads_concat_of_some (hop : op.netHead? = some h) :
    netHeads (ops ++ [op]) = netHeads ops ++ [h] := by
  simp [netHeads, hop]

/-- Whether a comparison with the cache `rates`, in which the entry for each key `k` of the head of
an operation is `entry k`, has been made of the incomes and expenses among some operations. -/
structure ComparesBy {κ : Type} [DecidableEq κ] (key : Head → κ) (table : RateTable)
    (currency : String) (ops : List Operation) (rates : RateCache) (entry : κ → Option Float) :
    Prop where
  /-- The cache has the rates of the table. -/
  isFaithful : rates.IsFaithful table
  /-- None of the rates was missing. -/
  exists_rate : ∀ h ∈ netHeads ops, ∃ rate, table h.date h.currency currency = .ok rate
  /-- An entry is the sum of the amounts with its key. -/
  entry_eq : ∀ k, entry k =
    entryOf (((netHeads ops).filter (key · = k)).map (amountIn table currency))

namespace ComparesBy

variable {κ : Type} [DecidableEq κ] {key : Head → κ} {rates rates' : RateCache}
  {entry entry' : κ → Option Float} {v : Float}

theorem nil (hentry : ∀ k, entry k = none) :
    ComparesBy key table currency [] (.create table) entry where
  isFaithful := RateCache.isFaithful_create table
  exists_rate _ hh := absurd hh List.not_mem_nil
  entry_eq := hentry

/-- Other operations do not count. -/
theorem concat_of_none (hc : ComparesBy key table currency ops rates entry)
    (hop : op.netHead? = none) : ComparesBy key table currency (ops ++ [op]) rates entry where
  isFaithful := hc.isFaithful
  exists_rate := by
    rw [netHeads_concat_of_none hop]
    exact hc.exists_rate
  entry_eq k := by
    rw [netHeads_concat_of_none hop]
    exact hc.entry_eq k

/-- **One more income or expense** changes the entry for its key, if its rate is there. -/
theorem concat_of_some (hc : ComparesBy key table currency ops rates entry)
    (hself : ∀ date currency, table date currency currency = .ok 1) (hop : op.netHead? = some h)
    (hv : rates.convert h.date h.amount h.currency currency = (.ok v, rates'))
    (hentry : ∀ k, entry' k = if key h = k then increase v (entry k) else entry k) :
    ComparesBy key table currency (ops ++ [op]) rates' entry' := by
  obtain ⟨rate, htable, rfl, hfaithful⟩ := RateCache.convert_eq_ok hself hc.isFaithful hv
  refine ⟨hfaithful, ?_, fun k => ?_⟩
  · rw [netHeads_concat_of_some hop, List.forall_mem_append]
    exact ⟨hc.exists_rate, List.forall_mem_singleton.2 ⟨rate, htable⟩⟩
  · rw [hentry, netHeads_concat_of_some hop, List.filter_append, List.map_append, hc.entry_eq]
    by_cases hk : key h = k
    · simp [hk, amountIn_eq htable, entryOf_concat]
    · simp [hk]

/-- There is an entry for the keys of the operations, and for no other. -/
theorem isSome_iff (hc : ComparesBy key table currency ops rates entry) (k : κ) :
    (entry k).isSome ↔ ∃ h ∈ netHeads ops, key h = k := by
  rw [hc.entry_eq, isSome_entryOf_iff, ne_eq, List.map_eq_nil_iff, List.filter_eq_nil_iff]
  simp

end ComparesBy

/-! ### The comparison of months -/

namespace MonthlyComparison

/-- **Adding an amount** changes the entry of its month. -/
theorem get?_addAmount (c : MonthlyComparison) (d : Date) (v : Float) (month : Nat) (year : Int) :
    (c.addAmount d v).get? month year =
      if (d.month, d.year) = (month, year) then increase v (c.get? month year)
      else c.get? month year :=
  Maps.bind_getElem?_alter_alter c.months d.month month d.year year (increase v)

/-- Whether a comparison has been made of some operations. -/
structure IsMadeOf (table : RateTable) (currency : String) (ops : List Operation)
    (c : MonthlyComparison) : Prop where
  currency_eq : c.currency = currency
  entries : ComparesBy (fun h => (h.date.month, h.date.year)) table currency ops c.rates
    fun k => c.get? k.1 k.2

theorem isMadeOf_create (table : RateTable) (currency : String) :
    (create currency table).IsMadeOf table currency [] where
  currency_eq := rfl
  entries := .nil fun k => by simp [get?, create]

/-- A comparison of months is made of what it is handed. -/
theorem recounts (hself : ∀ date currency, table date currency currency = .ok 1)
    (currency : String) : Recounts (IsMadeOf table currency) where
  newDay _ hc _ := hc
  process {ops c} op hc herror := by
    simp only [Reducer.process] at herror ⊢
    split at herror
    case h_1 hop => exact ⟨hc.currency_eq, hc.entries.concat_of_none hop⟩
    case h_2 h hop =>
      split at herror
      case h_1 v rates hv =>
        rw [hc.currency_eq] at hv
        exact ⟨hc.currency_eq, hc.entries.concat_of_some hself hop hv fun k =>
          get?_addAmount _ h.date v k.1 k.2⟩
      case h_2 => cases herror
  done hc _ := hc

end MonthlyComparison

/-! ### The comparison of years -/

namespace YearlyComparison

/-- **Adding an amount** changes the entry of its year. -/
theorem get?_addAmount (c : YearlyComparison) (d : Date) (v : Float) (year : Int) :
    (c.addAmount d v).get? year =
      if d.year = year then increase v (c.get? year) else c.get? year := by
  rw [get?, get?, addAmount, Std.ExtTreeMap.getElem?_alter]
  simp only [compare_eq_iff_eq]
  by_cases hyear : d.year = year
  · subst hyear
    simp
  · simp [hyear]

/-- Whether a comparison has been made of some operations. -/
structure IsMadeOf (table : RateTable) (currency : String) (ops : List Operation)
    (c : YearlyComparison) : Prop where
  currency_eq : c.currency = currency
  entries : ComparesBy (·.date.year) table currency ops c.rates c.get?

theorem isMadeOf_create (table : RateTable) (currency : String) :
    (create currency table).IsMadeOf table currency [] where
  currency_eq := rfl
  entries := .nil fun k => by simp [get?, create]

/-- A comparison of years is made of what it is handed. -/
theorem recounts (hself : ∀ date currency, table date currency currency = .ok 1)
    (currency : String) : Recounts (IsMadeOf table currency) where
  newDay _ hc _ := hc
  process {ops c} op hc herror := by
    simp only [Reducer.process] at herror ⊢
    split at herror
    case h_1 hop => exact ⟨hc.currency_eq, hc.entries.concat_of_none hop⟩
    case h_2 h hop =>
      split at herror
      case h_1 v rates hv =>
        rw [hc.currency_eq] at hv
        exact ⟨hc.currency_eq, hc.entries.concat_of_some hself hop hv fun k =>
          get?_addAmount _ h.date v k⟩
      case h_2 => cases herror
  done hc _ := hc

end YearlyComparison

/-! ### The totals -/

namespace IncomeExpense

/-- Whether the running totals are those of some operations. -/
structure IsMadeOf (table : RateTable) (currency : String) (ops : List Operation)
    (t : IncomeExpense) : Prop where
  isKeptIn : t.IsKeptIn table currency
  income_eq : t.income.running = leftSum (ops.flatMap (incomeOf table currency))
  expense_eq : t.expense.running = leftSum (ops.flatMap (expenseOf table currency))

theorem isMadeOf_create (table : RateTable) (currency : String) :
    (create currency table).IsMadeOf table currency [] :=
  ⟨isKeptIn_create table currency, rfl, rfl⟩

/-- The totals are made of what they are handed. -/
theorem recounts (hself : ∀ date currency, table date currency currency = .ok 1)
    (currency : String) : Recounts (IsMadeOf table currency) where
  newDay _ ht _ := ⟨⟨ht.isKeptIn.rates, ht.isKeptIn.currency_eq⟩, ht.income_eq, ht.expense_eq⟩
  process {ops t} op ht herror := by
    obtain ⟨hkept, hincome, hexpense⟩ := add_spec ht.isKeptIn hself op herror
    refine ⟨hkept, ?_, ?_⟩
    · rw [List.flatMap_append, List.flatMap_singleton, leftSum_append, ← ht.income_eq,
        ← running_addAll, ← hincome]
      rfl
    · rw [List.flatMap_append, List.flatMap_singleton, leftSum_append, ← ht.expense_eq,
        ← running_addAll, ← hexpense]
      rfl
  done ht _ := ht

/-- If no rate is missing, there is one amount for each operation. -/
theorem flatMap_converted {hs : List Head}
    (hrate : ∀ h ∈ hs, ∃ rate, table h.date h.currency currency = .ok rate) :
    hs.flatMap (converted table currency) = hs.map (amountIn table currency) := by
  rw [List.map_eq_flatMap]
  refine List.flatMap_congr fun h hh => ?_
  obtain ⟨rate, htable⟩ := hrate h hh
  rw [amountIn_eq htable, converted, htable]
  rfl

/-- What the incomes among some operations add up. -/
theorem flatMap_incomeOf (table : RateTable) (currency : String) (ops : List Operation) :
    ops.flatMap (incomeOf table currency) =
      (headsOf .income ops).flatMap (converted table currency) := by
  induction ops with
  | nil => rfl
  | cons op ops ih =>
      rw [List.flatMap_cons, ih]
      cases op <;> rfl

/-- What the expenses among some operations add up. -/
theorem flatMap_expenseOf (table : RateTable) (currency : String) (ops : List Operation) :
    ops.flatMap (expenseOf table currency) =
      (headsOf .expense ops).flatMap (converted table currency) := by
  induction ops with
  | nil => rfl
  | cons op ops ih =>
      rw [List.flatMap_cons, ih]
      cases op <;> rfl

end IncomeExpense

end Cashbook
