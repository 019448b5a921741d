import Cashbook.Proofs.Rates.Memo
import Cashbook.Proofs.Stats.Holdings
import Cashbook.Stats.Goals
import Cashbook.Stats.IncomeExpense

/-!
# What a call that fails leaves behind

A reducer keeps the state that it has after a call that failed.  Where an amount has to be
converted, that is the state before the call (`missing_rate_leaves_no_trace`): a rate is asked for
before anything is added, and a cache does not remember failures.  For goals this takes an argument,
because they book the shares of an operation one after the other; but all of them need the same
rate, and a rate that has been given once is given again (`RateCache.rate_again`), so that only the
first share can fail.

Balances are different.  They book the sides of an operation one after the other too, and each side
names an account of its own: `Balances.book_eq` says what is booked, the sides in front of the first
one that names no account.  So a transfer from an account that is there to one that is not is booked
by half, and no other operation is (`Balances.refused_booking_keeps_accounts`).
-/

namespace Cashbook

open Sweep

/-- Whether a call that was made in the state `s` leaves it as it is if it fails. -/
def Reply.LeavesNoTrace {σ : Type} (s : σ) (r : Reply σ) : Prop := r.error ≠ none → r.state = s

open Reply

theorem Reply.leavesNoTrace_ok {σ : Type} (s t : σ) : (ok t).LeavesNoTrace s :=
  fun h => absurd rfl h

theorem Reply.LeavesNoTrace.eq_fail {σ : Type} {s : σ} {r : Reply σ} {e : Error}
    (h : r.LeavesNoTrace s) (he : r.error = some e) : r = .fail s e := by
  have hstate : r.state = s := h (he ▸ Option.some_ne_none e)
  rw [fail, ← hstate, ← he]

/-- A reducer that adds an amount once it has been converted. -/
theorem leavesNoTrace_convert {σ : Type} {c : RateCache} {s : σ} (put : RateCache → σ)
    (hput : put c = s) (added : Float → RateCache → σ) (date : Date) (amount : Float)
    (source target : String) :
    LeavesNoTrace s
      (match c.convert date amount source target with
      | (.ok v, rates) => .ok (added v rates)
      | (.error e, rates) => .fail (put rates) (.rate e)) := by
  split
  case h_1 => exact leavesNoTrace_ok s _
  case h_2 hv =>
    intro _
    rw [← hput, ← RateCache.eq_of_rate_eq_error (RateCache.convert_eq_error_iff.1 hv)]
    rfl

/-! ### Totals and comparisons -/

theorem IncomeExpense.leavesNoTrace_process (t : IncomeExpense) (op : Operation) :
    (Reducer.process t op).LeavesNoTrace t := by
  cases op with
  | income h account splits =>
      exact leavesNoTrace_convert (fun rates => { t with rates := rates }) rfl
        (fun v rates => { t with rates := rates, income := t.income.add v }) h.date h.amount
        h.currency t.currency
  | expense h account splits =>
      exact leavesNoTrace_convert (fun rates => { t with rates := rates }) rfl
        (fun v rates => { t with rates := rates, expense := t.expense.add v }) h.date h.amount
        h.currency t.currency
  | _ => exact leavesNoTrace_ok t t

/-- Months and years take in an amount in the same way. -/
theorem MonthlyComparison.leavesNoTrace_process (c : MonthlyComparison) (op : Operation) :
    (Reducer.process c op).LeavesNoTrace c := by
  simp only [Reducer.process]
  split
  case h_1 => exact leavesNoTrace_ok c c
  case h_2 h _ =>
    exact leavesNoTrace_convert (fun rates => { c with rates := rates }) rfl
      (fun v rates => { c with rates := rates }.addAmount h.date v) h.date h.amount h.currency
      c.currency

theorem YearlyComparison.leavesNoTrace_process (c : YearlyComparison) (op : Operation) :
    (Reducer.process c op).LeavesNoTrace c := by
  simp only [Reducer.process]
  split
  case h_1 => exact leavesNoTrace_ok c c
  case h_2 h _ =>
    exact leavesNoTrace_convert (fun rates => { c with rates := rates }) rfl
      (fun v rates => { c with rates := rates }.addAmount h.date v) h.date h.amount h.currency
      c.currency

/-! ### Goals -/

namespace Goals

/-- Where the rate of an operation is known, none of its shares is refused. -/
theorem error_bookSplits_of_rate {g : Goals} {h : Head} {rate : Float}
    (hrate : g.rates.rate h.date h.currency g.currency = (.ok rate, g.rates))
    (splits : List Split) : (g.bookSplits h splits).error = none := by
  induction splits generalizing g with
  | nil => rfl
  | cons split splits ih =>
      have hconvert : g.rates.convert h.date split.amount h.currency g.currency =
          (.ok (split.amount * rate), g.rates) :=
        RateCache.convert_eq_ok_iff.2 ⟨rate, hrate, rfl⟩
      rw [bookSplits, hconvert]
      split
      case isTrue => exact ih hrate
      case isFalse => exact ih hrate

/-- **The shares of an operation** are booked all together or not at all: if the first of them has a
rate, so have the others. -/
theorem leavesNoTrace_bookSplits (g : Goals) (h : Head) (splits : List Split) :
    (g.bookSplits h splits).LeavesNoTrace g := by
  induction splits with
  | nil => exact leavesNoTrace_ok g g
  | cons split splits ih =>
      rw [bookSplits]
      split
      case isFalse => exact ih
      case isTrue =>
        split
        case h_1 hv =>
          intro _
          rw [RateCache.eq_of_rate_eq_error (RateCache.convert_eq_error_iff.1 hv)]
          rfl
        case h_2 hv =>
          obtain ⟨rate, hrate, -⟩ := RateCache.convert_eq_ok_iff.1 hv
          intro herror
          exact absurd (error_bookSplits_of_rate (RateCache.rate_again hrate) splits) herror

theorem leavesNoTrace_process (g : Goals) (op : Operation) :
    (Reducer.process g op).LeavesNoTrace g := by
  rw [process_eq]
  split
  case h_1 h splits _ _ => exact g.leavesNoTrace_bookSplits h splits
  case h_2 => exact leavesNoTrace_ok g g

end Goals

/-! ### Balances -/

namespace Balances

variable {b : Balances} {side : Side}

/-- Adding up fails without a trace but for the rates that it has asked for. -/
theorem exists_state_finish (h : b.finish.error ≠ none) :
    ∃ rates, b.finish.state = { b with rates := rates } := by
  rw [finish] at h ⊢
  split at h
  case h_1 _ rates _ => exact ⟨rates, rfl⟩
  case h_2 => exact absurd rfl h

/-- A side is booked on the account that it names. -/
theorem addAll_amountsOn_singleton (s : BucketedSeries Float) (name : String) (side : Side) :
    s.addAll (amountsOn name [side]) = if name = side.name then s.add side.amount else s := by
  rw [amountsOn, List.filter_singleton]
  by_cases hname : side.name = name
  · rw [decide_eq_true hname, if_pos hname.symm]
    rfl
  · rw [decide_eq_false hname, if_neg (Ne.symm hname)]
    rfl

/-- **A booking that is refused** names an account that is not there.  Only a transfer can have
booked something before it comes to that account, on the account that the money comes from; every
other account has the series and the running total that it had, and so have all accounts after every
other operation. -/
theorem refused_booking_keeps_accounts (b : Balances) (op : Operation) {name : String}
    (h : (Reducer.process b op).error = some (.unknownAccount name)) :
    b.series? name = none ∧ name ∈ op.sides.map (·.name) ∧
      ∀ account, (Reducer.process b op).state.series? account =
        match op with
        | .transfer _ source _ =>
            if account = source.name then (b.series? account).map (·.add source.amount)
            else b.series? account
        | _ => b.series? account := by
  have hprocess : Reducer.process b op = b.book op.sides := rfl
  rw [hprocess, book_eq] at h ⊢
  obtain ⟨side, hfind, hname⟩ := Option.map_eq_some_iff.1 h
  cases hname
  have hmem := List.mem_of_find?_eq_some hfind
  have hside : b.knows side = false := by simpa using List.find?_some hfind
  refine ⟨by simpa [knows] using hside, List.mem_map_of_mem hmem, fun account => ?_⟩
  -- where the first side is the one that names no account, nothing has been booked
  have hnone (first : Side) (sides : List Side) (hfirst : b.knows first = false) :
      (b.credit (amountsOn · ((first :: sides).takeWhile b.knows))).series? account =
        b.series? account := by
    rw [List.takeWhile_cons_of_neg (by simp [hfirst])]
    exact congrArg (·.series? account) (credit_nil b)
  cases op with
  | income h a splits | expense h a splits | adjustment h a =>
      cases List.mem_singleton.1 hmem
      exact hnone _ [] hside
  | deleted id => cases hmem
  | transfer head source target =>
      dsimp only
      cases hsource : b.knows source with
      | false =>
          have hmissing : b.series? source.name = none := by simpa [knows] using hsource
          refine (hnone source [target] hsource).trans ?_
          split
          case isTrue haccount => rw [haccount, hmissing, Option.map_none]
          case isFalse => rfl
      | true =>
          have htarget : b.knows target = false := by
            rw [Operation.sides, List.find?_cons_of_neg (by simp [hsource])] at hfind
            cases List.mem_singleton.1 (List.mem_of_find?_eq_some hfind)
            exact hside
          rw [Operation.sides, List.takeWhile_cons_of_pos hsource,
            List.takeWhile_cons_of_neg (by simp [htarget]), series?_credit]
          split
          case isTrue haccount => simp only [addAll_amountsOn_singleton, haccount, if_true]
          case isFalse haccount =>
            simp only [addAll_amountsOn_singleton, haccount, if_false, Option.map_id']

/-- A transfer from an account that is there to one that is not, and a second account that it does
not name. -/
theorem refused_booking_keeps_accounts_of_transfer :
    let now : Timestamp := ⟨.first, 0, 0⟩
    let b :=
      create [.create "cash" "EUR" now, .create "bank" "EUR" now] "EUR" .first RateBook.empty.rate
    let op : Operation :=
      .transfer ⟨"rent", now, .first, "EUR", (1 : Float).toBits, [], none⟩ ⟨"cash", -1⟩
        ⟨"nowhere", 1⟩
    (Reducer.process b op).error = some (.unknownAccount "nowhere") ∧ b.series? "nowhere" = none ∧
      (Reducer.process b op).state.series? "cash" = some (BucketedSeries.empty.add (-1)) ∧
      (Reducer.process b op).state.series? "bank" = b.series? "bank" := by
  intro now b op
  have herror : (Reducer.process b op).error = some (.unknownAccount "nowhere") := by decide +kernel
  obtain ⟨hmissing, -, haccounts⟩ := refused_booking_keeps_accounts b op herror
  have hcash : b.series? "cash" = some .empty := by decide +kernel
  refine ⟨herror, hmissing, (haccounts "cash").trans ?_, haccounts "bank"⟩
  exact congrArg (Option.map (BucketedSeries.add · (-1))) hcash

/-- Bookings are not all-or-nothing: a transfer can be refused for its second account and yet change
the running total of its first. -/
theorem not_all_or_nothing :
    ¬ ∀ (accounts : List Account) (currency : String) (today : Date) (table : RateTable)
        (calls : List Event) (op : Operation) (name : String),
      let b := calls.foldl (fun b e => (e.send b).state) (create accounts currency today table)
      (Reducer.process b op).error = some (.unknownAccount name) →
        ∀ account, (Reducer.process b op).state.series? account = b.series? account := by
  intro h
  let d : Date := ⟨737425, by decide, by decide⟩
  let now : Timestamp := ⟨d, 0, 0⟩
  have hcash := h [.create "cash" "USD" now] "USD" d RateBook.empty.rate
    [.newDay ((Tracker.create d d).advance d).current]
    (.transfer ⟨"t", now, d, "USD", (1 : Float).toBits, [], none⟩ ⟨"cash", 1⟩ ⟨"nowhere", 1⟩)
    "nowhere" (by decide +kernel) "cash"
  exact absurd (congrArg (Option.map (·.running)) hcash) (by decide +kernel)

end Balances

/-! ### A missing rate -/

/-- **A missing rate leaves no trace.**  Totals, comparisons and goals are after an operation that
they refused what they were before it, with the rates that they remember.  Balances that cannot be
added up keep the roll-up that they had and everything else but the rates. -/
theorem missing_rate_leaves_no_trace :
    (∀ (t : IncomeExpense) (op : Operation), (Reducer.process t op).LeavesNoTrace t) ∧
    (∀ (c : MonthlyComparison) (op : Operation), (Reducer.process c op).LeavesNoTrace c) ∧
    (∀ (c : YearlyComparison) (op : Operation), (Reducer.process c op).LeavesNoTrace c) ∧
    (∀ (g : Goals) (op : Operation), (Reducer.process g op).LeavesNoTrace g) ∧
    ∀ b : Balances, (Reducer.done b).error ≠ none →
      let after := (Reducer.done b).state
      (∀ g, after.rollUp.map (·.get g) = b.rollUp.map (·.get g)) ∧
        (∀ account, after.series? account = b.series? account) ∧
        ∃ rates, after = { b with rates := rates } := by
  refine ⟨IncomeExpense.leavesNoTrace_process, MonthlyComparison.leavesNoTrace_process,
    YearlyComparison.leavesNoTrace_process, Goals.leavesNoTrace_process, fun b h => ?_⟩
  obtain ⟨rates, hafter⟩ := Balances.exists_state_finish h
  have hdone : (Reducer.done b).state = { b with rates := rates } := hafter
  rw [hdone]
  exact ⟨fun _ => rfl, fun _ => rfl, rates, rfl⟩

/-- An expense in yen after one in dollars, where no rate is known for yen. -/
theorem missing_rate_leaves_no_trace_of_yen :
    let d : Date := ⟨738550, by decide, by decide⟩
    let now : Timestamp := ⟨d, 0, 0⟩
    let meal (currency : String) : Operation :=
      .expense ⟨"meal", now, d, currency, (-2 : Float).toBits, [], none⟩
        ⟨"cash", -2⟩ [⟨"food", -1⟩, ⟨"food", -1⟩]
    let food : Category := (Category.create "food" "USD" now).withGoal 100
    let table := RateBook.empty.rate
    let t := (Reducer.process (IncomeExpense.create "USD" table) (meal "USD")).state
    let c := (Reducer.process (MonthlyComparison.create "USD" table) (meal "USD")).state
    let g := (Goals.create [food] "USD" table).book "food" 2023 (-2)
    let b := (Reducer.newDay (Balances.create [.create "cash" "JPY" now] "USD" d table)
      ((Tracker.create d d).advance d).current).state
    let missing : Error := .rate (.missing "JPY" d)
    g.spent "food" 2023 = -2 ∧
      Reducer.process t (meal "JPY") = .fail t missing ∧
      Reducer.process c (meal "JPY") = .fail c missing ∧
      Reducer.process g (meal "JPY") = .fail g missing ∧
      (Reducer.done b).error = some missing ∧
        (Reducer.done b).state.series? "cash" = b.series? "cash" := by
  intro d now meal food table t c g b missing
  obtain ⟨htotals, hmonths, -, hgoals, hbalances⟩ := missing_rate_leaves_no_trace
  -- the rate between dollars and themselves was not remembered, so that all caches are empty
  have hrate : (RateCache.create table).rate d "JPY" "USD" =
      (.error (.missing "JPY" d), .create table) :=
    (RateCache.rate_eq_error_iff RateBook.empty.rate_self (RateCache.isFaithful_create table)).2
      (by decide +kernel)
  have hconvert (amount : Float) : (RateCache.create table).convert d amount "JPY" "USD" =
      (.error (.missing "JPY" d), .create table) := RateCache.convert_eq_error_iff.2 hrate
  have ht : (Reducer.process t (meal "JPY")).error = some missing := by
    have h (amount : Float) : t.rates.convert d amount "JPY" t.currency = _ := hconvert amount
    simp only [Reducer.process, meal, IncomeExpense.add, IncomeExpense.amountOf, h]
    rfl
  have hc : (Reducer.process c (meal "JPY")).error = some missing := by
    have h (amount : Float) : c.rates.convert d amount "JPY" c.currency = _ := hconvert amount
    simp only [Reducer.process, meal, Operation.netHead?, h]
    rfl
  have hg : (Reducer.process g (meal "JPY")).error = some missing := by
    have hfood : (g.goal? "food").isSome = true := by decide +kernel
    have h (amount : Float) : g.rates.convert d amount "JPY" g.currency = _ := hconvert amount
    simp only [Reducer.process, meal, Goals.bookSplits, hfood, h]
    rfl
  have hb : (Reducer.done b).error = some missing := by
    have hdates : (b.calendar.get .day).dates = [d] := by decide +kernel
    have hvalues : b.holdings.values = [⟨"JPY", b.calendar⟩] := rfl
    have hvaluation : Balances.valuationDate b.today b.lastDay .day d none = d := by decide +kernel
    have hday : b.rollUpOf .day (.create table) = (.error missing, .create table) := by
      have hworth (points : List (Point Float)) : Balances.worth b.currency d (.create table) ⟨0, 0⟩
          [⟨"JPY", points⟩] = (.error missing, .create table) := by
        have hrate' : (RateCache.create table).rate d "JPY" b.currency = _ := hrate
        rw [Balances.worth, hrate']
      simp only [Balances.rollUpOf, hdates, hvalues, Balances.rollUpFrom, List.map, List.head?,
        hvaluation, hworth]
    have hdone : Reducer.done b = b.finish := rfl
    have hrates : b.rates = .create table := rfl
    rw [hdone, Balances.finish, ByGranularity.traverse, hrates, hday]
    rfl
  exact ⟨by decide +kernel, (htotals t _).eq_fail ht, (hmonths c _).eq_fail hc,
    (hgoals g _).eq_fail hg, hb, (hbalances b (hb ▸ Option.some_ne_none missing)).2.1 "cash"⟩

end Cashbook
