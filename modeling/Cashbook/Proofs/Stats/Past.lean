import Cashbook.Proofs.Rates.Extension
import Cashbook.Proofs.Stats.Agreement
import Cashbook.Proofs.Stats.Feeding
import Cashbook.Proofs.Stats.Parts

/-!
# The past is settled

Two sweeps begin on the same day, and the second goes on longer and knows more: its log has other
operations later on, and its book has the rates of later months.  Whatever is new to it comes after
the last day of the first sweep, and so both show the same of every bucket that is over by then
(`runs_agree_on_past`).

The accounts of the second sweep may be valued at another day that counts as today, since a day that
is not after it is valued at its own rates.  What the rates need is `RateBook.KnowsBy`: without a
rate from the past, the book would take one from the future.

### What is load-bearing

Everything that is shown of a bucket is computed from the operations of the days up to its end and
from the rates of these days.  For the series this is `Feeds.run`; for the roll-up it is
`Balances.IsBooked.finish_spec`, which leaves nothing of the difference between a bucket that
another one follows and one that is the last.  A reducer that is one of many is known to be where it
would be alone (`Reducer.IsPart.run`), so that the three sorts are compared apart.
-/

namespace Cashbook

open Operation Sweep

variable {s e e' d : Date} {m : Matcher} {log log' ops ops' : List Operation}

/-! ### What is due up to a day -/

/-- Whether an operation is live and not dated after `e`. -/
def datedUpTo (e : Date) (op : Operation) : Bool := op.date?.any (· ≤ e)

/-- What is due on a day is found among the operations up to that day, and up to any later one. -/
theorem due_eq_of_filter_eq (h : log.filter (datedUpTo e) = log'.filter (datedUpTo e))
    (hd : d ≤ e) : due m log' d = due m log d := by
  have hdue (log : List Operation) : due m (log.filter (datedUpTo e)) d = due m log d := by
    rw [due, due, List.filter_filter]
    refine List.filter_congr fun op _ => ?_
    by_cases hop : op.date? = some d
    · simp [isDue, datedUpTo, hop, hd]
    · simp [isDue, hop]
  rw [← hdue log', ← h, hdue]

theorem mem_due {op : Operation} (h : op ∈ due m (sortLog ops) d) :
    op ∈ ops ∧ m op = true ∧ ∃ head, op.head? = some head ∧ head.date = d := by
  obtain ⟨hop, hdue⟩ := List.mem_filter.1 h
  rw [isDue, Bool.and_eq_true, decide_eq_true_eq] at hdue
  exact ⟨(sortLog_perm ops).mem_iff.1 hop, hdue.2, Option.map_eq_some_iff.1 hdue.1⟩

theorem period_eq_of_run {σ : Type} [Reducer σ] {today : Date} {p : Predicate} {period : Period}
    {before after : σ} {summary : Summary}
    (hrun : run (Store.load ops) today p (some period) before = ⟨after, .ok summary⟩) :
    summary.period = period := by
  obtain ⟨m, -, rfl, -, -⟩ := exists_of_run_load hrun
  rfl

/-! ### Two sweeps of one reducer -/

namespace IncomeExpense

variable {table table' : RateTable} {currency : String}

/-- Operations are added alike at the same rates. -/
theorem values_congr {op : Operation}
    (h : ∀ h, op.head? = some h →
      table' h.date h.currency currency = table h.date h.currency currency) :
    incomeOf table' currency op = incomeOf table currency op ∧
      expenseOf table' currency op = expenseOf table currency op := by
  have hconverted {head : Head} (hhead : op.head? = some head) :
      converted table' currency head = converted table currency head := by
    rw [converted, converted, h head hhead]
  cases op with
  | income => exact ⟨hconverted rfl, rfl⟩
  | expense => exact ⟨rfl, hconverted rfl⟩
  | _ => exact ⟨rfl, rfl⟩

end IncomeExpense

section TwoSweeps

variable {p : Predicate} {today today' : Date} {summary summary' : Summary} {book book' : RateBook}
  {currency : String}

variable (hle : e ≤ e')
  (hlog : (sortLog ops).filter (datedUpTo e) = (sortLog ops').filter (datedUpTo e))
  (hm : p.compile = .ok m)

include hle hlog hm

/-- **Series that sweeps feed alike** up to a day agree up to that day. -/
theorem Feeds.agreesUpTo {σ α : Type} [Reducer σ] [Zero α] [Add α] {I I' : σ → Prop}
    {view : σ → BucketedSeries α} {values values' : Operation → List α}
    (hfeeds : Feeds I view values) (hfeeds' : Feeds I' view values')
    {before before' after after' : σ} (hI : I before) (hI' : I' before')
    (hempty : view before = .empty) (hempty' : view before' = .empty)
    (hrun : Sweep.run (Store.load ops) today p (some ⟨s, e⟩) before = ⟨after, .ok summary⟩)
    (hrun' : Sweep.run (Store.load ops') today' p (some ⟨s, e'⟩) before' = ⟨after', .ok summary'⟩)
    (hvalues : ∀ op ∈ ops, m op = true → ∀ h, op.head? = some h → s ≤ h.date → h.date ≤ e →
      values' op = values op) :
    (view after).AgreesUpTo e (view after') := by
  obtain ⟨later, hdays, hlater⟩ := Period.exists_days_eq_append (s := s) hle
  have hpair := Period.pairwise_days ⟨s, e'⟩
  have hs : ∀ x ∈ Period.days ⟨s, e'⟩, s ≤ x := fun _ hx => (Period.bounds_of_mem_days hx).1
  have hb : BucketedSeries.IsGrouping (fun d => (due m (sortLog ops) d).flatMap values) s
      (Period.days ⟨s, e⟩) (view after) := by
    rw [hfeeds.run hI hm hrun, hempty]
    exact BucketedSeries.isGrouping_follow _ s today (Period.start_add_length_le_last ⟨s, e⟩)
  have hb' : BucketedSeries.IsGrouping (fun d => (due m (sortLog ops') d).flatMap values') s
      (Period.days ⟨s, e'⟩) (view after') := by
    rw [hfeeds'.run hI' hm hrun', hempty']
    exact BucketedSeries.isGrouping_follow _ s today' (Period.start_add_length_le_last ⟨s, e'⟩)
  rw [hdays] at hpair hs hb'
  refine hb.agreesUpTo hb' hpair hs hlater fun d hd => ?_
  obtain ⟨hsd, hde⟩ := Period.bounds_of_mem_days hd
  rw [due_eq_of_filter_eq hlog hde]
  refine List.flatMap_congr fun op hop => ?_
  obtain ⟨hmem, hmatch, h, hh, rfl⟩ := mem_due hop
  exact hvalues op hmem hmatch h hh hsd hde

/-- The balance of an account. -/
theorem Balance.agreesUpTo {account : String} {b b' : Balance}
    (hrun : run (Store.load ops) today p (some ⟨s, e⟩) (create account) = ⟨b, .ok summary⟩)
    (hrun' : run (Store.load ops') today' p (some ⟨s, e'⟩) (create account) = ⟨b', .ok summary'⟩) :
    b.series.AgreesUpTo e b'.series :=
  Feeds.agreesUpTo hle hlog hm (feeds_series account) (feeds_series account) rfl rfl rfl rfl
    hrun hrun' fun _ _ _ _ _ _ _ => rfl

/-- The incomes and the expenses. -/
theorem IncomeExpense.agreesUpTo (hbook : RateBook.IsExtension e.monthIndex book book')
    {t t' : IncomeExpense}
    (hrun : run (Store.load ops) today p (some ⟨s, e⟩) (create currency book.rate) =
      ⟨t, .ok summary⟩)
    (hrun' : run (Store.load ops') today' p (some ⟨s, e'⟩) (create currency book'.rate) =
      ⟨t', .ok summary'⟩)
    (hcurrency : book.KnowsBy s currency)
    (hknown : ∀ op ∈ ops, m op = true → ∀ h, op.head? = some h → s ≤ h.date → h.date ≤ e →
      book.KnowsBy s h.currency) :
    t.income.AgreesUpTo e t'.income ∧ t.expense.AgreesUpTo e t'.expense := by
  have hvalues : ∀ op ∈ ops, m op = true → ∀ h, op.head? = some h → s ≤ h.date → h.date ≤ e →
      incomeOf book'.rate currency op = incomeOf book.rate currency op ∧
        expenseOf book'.rate currency op = expenseOf book.rate currency op := by
    intro op hop hmatch h hh hs he
    refine values_congr fun h' hh' => ?_
    obtain rfl : h = h' := Option.some_inj.1 (hh.symm.trans hh')
    exact hbook.rate_eq he ((hknown op hop hmatch h hh hs he).mono hs) (hcurrency.mono hs)
  constructor
  · refine Feeds.agreesUpTo hle hlog hm (feeds_income book.rate_self currency)
      (feeds_income book'.rate_self currency) (isKeptIn_create _ _) (isKeptIn_create _ _) rfl rfl
      hrun hrun' ?_
    exact fun op hop hmatch h hh hs he => (hvalues op hop hmatch h hh hs he).1
  · refine Feeds.agreesUpTo hle hlog hm (feeds_expense book.rate_self currency)
      (feeds_expense book'.rate_self currency) (isKeptIn_create _ _) (isKeptIn_create _ _) rfl rfl
      hrun hrun' ?_
    exact fun op hop hmatch h hh hs he => (hvalues op hop hmatch h hh hs he).2

/-- The accounts and their roll-up. -/
theorem Balances.agreesUpTo (hbook : RateBook.IsExtension e.monthIndex book book')
    {accounts : List Account} {asOf asOf' : Date} (hasOf : e ≤ asOf) (hasOf' : e ≤ asOf')
    {b b' : Balances}
    (hrun : run (Store.load ops) today p (some ⟨s, e⟩) (create accounts currency asOf book.rate) =
      ⟨b, .ok summary⟩)
    (hrun' : run (Store.load ops') today' p (some ⟨s, e'⟩)
      (create accounts currency asOf' book'.rate) = ⟨b', .ok summary'⟩)
    (hcurrency : book.KnowsBy s currency) (hknown : ∀ a ∈ accounts, book.KnowsBy s a.currency) :
    (∀ a ∈ accounts, ∃ series series', b.series? a.name = some series ∧
        b'.series? a.name = some series' ∧ series.AgreesUpTo e series') ∧
      ∃ rollUp rollUp', b.rollUp = some rollUp ∧ b'.rollUp = some rollUp' ∧
        ∀ g, AgreeUpTo g e (rollUp.get g).points (rollUp'.get g).points := by
  obtain ⟨later, hdays, hlater⟩ := Period.exists_days_eq_append (s := s) hle
  have hperiod := period_eq_of_run hrun
  have hperiod' := period_eq_of_run hrun'
  rw [← create_lastNamed] at hrun hrun'
  obtain ⟨before, series, hb, herror, rfl⟩ := isBooked_of_run (nodup_lastNamed accounts) hm hrun
  obtain ⟨before', series', hb', herror', rfl⟩ :=
    isBooked_of_run (nodup_lastNamed accounts) hm hrun'
  rw [hperiod] at hb
  rw [hperiod', hdays] at hb'
  have hbounds : ∀ d ∈ Period.days ⟨s, e⟩, s ≤ d ∧ d ≤ e := fun _ => Period.bounds_of_mem_days
  have hpast {asOf : Date} (h : e ≤ asOf) : ∀ d ∈ Period.days ⟨s, e⟩, d ≤ asOf :=
    fun d hd => Int.le_trans (hbounds d hd).2 h
  have hamounts : ∀ name, ∀ d ∈ Period.days ⟨s, e⟩,
      dueAmounts m (sortLog ops') name d = dueAmounts m (sortLog ops) name d := by
    intro name d hd
    rw [dueAmounts, dueAmounts, due_eq_of_filter_eq hlog (hbounds d hd).2]
  have hrates : ∀ d ∈ Period.days ⟨s, e⟩, ∀ a ∈ lastNamed accounts,
      book'.rate d a.currency currency = book.rate d a.currency currency := by
    intro d hd a ha
    obtain ⟨hsd, hde⟩ := hbounds d hd
    have ha := hknown a (List.pwFilter_subset accounts ha)
    exact hbook.rate_eq hde (ha.mono hsd) (hcurrency.mono hsd)
  obtain ⟨hseries, hrollUp⟩ :=
    hb.agreesUpTo hb' book.rate_self book'.rate_self herror herror' hlater (hpast hasOf)
      (hpast hasOf') hamounts hrates
  refine ⟨fun a ha => ?_, hrollUp⟩
  obtain ⟨a', ha', hname⟩ := exists_mem_lastNamed ha
  rw [← hname]
  exact hseries a' ha'

end TwoSweeps

/-! ### Two sweeps of any reducers -/

open Reducer in
/-- **The future never rewrites history.**  Two sweeps from `s` on succeed, one up to `e` and one up
to a day that is not before it.  Up to `e` their logs hold the same operations in the same order,
and the book of the second sweep is that of the first with months taken in that come after the month
of `e`.  Then each of their reducers shows the same for all buckets that are over by `e`:

* the balance of an account;
* incomes and expenses, where rates of the currencies of the operations are known by `s`;
* the balances of all accounts and their roll-up, where rates of their currencies are known by `s`
  and `e` does not lie in the future. -/
theorem runs_agree_on_past {σ σ' : Type} [Reducer σ] [Reducer σ'] {s e e' : Date} (hle : e ≤ e')
    {ops ops' : List Operation}
    (hlog : (sortLog ops).filter (datedUpTo e) = (sortLog ops').filter (datedUpTo e))
    {book book' : RateBook} (hbook : RateBook.IsExtension e.monthIndex book book')
    {p : Predicate} {m : Matcher} (hm : p.compile = .ok m) {today today' : Date}
    {before after : σ} {before' after' : σ'} {summary summary' : Summary}
    (hrun : run (Store.load ops) today p (some ⟨s, e⟩) before = ⟨after, .ok summary⟩)
    (hrun' : run (Store.load ops') today' p (some ⟨s, e'⟩) before' = ⟨after', .ok summary'⟩) :
    (∀ (part : σ → Option Balance) (part' : σ' → Option Balance) (account : String),
      IsPart part → IsPart part' →
      part before = some (.create account) → part' before' = some (.create account) →
      ∃ b b', part after = some b ∧ part' after' = some b' ∧ b.series.AgreesUpTo e b'.series) ∧
    (∀ (part : σ → Option IncomeExpense) (part' : σ' → Option IncomeExpense) (currency : String),
      IsPart part → IsPart part' →
      part before = some (.create currency book.rate) →
      part' before' = some (.create currency book'.rate) →
      book.KnowsBy s currency →
      (∀ op ∈ ops, m op = true → ∀ h, op.head? = some h → s ≤ h.date → h.date ≤ e →
        book.KnowsBy s h.currency) →
      ∃ t t', part after = some t ∧ part' after' = some t' ∧
        t.income.AgreesUpTo e t'.income ∧ t.expense.AgreesUpTo e t'.expense) ∧
    ∀ (part : σ → Option Balances) (part' : σ' → Option Balances) (accounts : List Account)
      (currency : String) (asOf asOf' : Date),
      IsPart part → IsPart part' →
      part before = some (.create accounts currency asOf book.rate) →
      part' before' = some (.create accounts currency asOf' book'.rate) →
      e ≤ asOf → e ≤ asOf' → book.KnowsBy s currency →
      (∀ a ∈ accounts, book.KnowsBy s a.currency) →
      ∃ b b', part after = some b ∧ part' after' = some b' ∧
        (∀ a ∈ accounts, ∃ series series', b.series? a.name = some series ∧
          b'.series? a.name = some series' ∧ series.AgreesUpTo e series') ∧
        ∃ rollUp rollUp', b.rollUp = some rollUp ∧ b'.rollUp = some rollUp' ∧
          ∀ g, AgreeUpTo g e (rollUp.get g).points (rollUp'.get g).points := by
  refine ⟨?_, ?_, ?_⟩
  · intro part part' account hpart hpart' hbefore hbefore'
    obtain ⟨b, hb, hb_run⟩ := hpart.run hbefore hrun
    obtain ⟨b', hb', hb_run'⟩ := hpart'.run hbefore' hrun'
    exact ⟨b, b', hb, hb', Balance.agreesUpTo hle hlog hm hb_run hb_run'⟩
  · intro part part' currency hpart hpart' hbefore hbefore' hcurrency hknown
    obtain ⟨t, ht, ht_run⟩ := hpart.run hbefore hrun
    obtain ⟨t', ht', ht_run'⟩ := hpart'.run hbefore' hrun'
    exact ⟨t, t', ht, ht',
      IncomeExpense.agreesUpTo hle hlog hm hbook ht_run ht_run' hcurrency hknown⟩
  · intro part part' accounts currency asOf asOf' hpart hpart' hbefore hbefore' hasOf hasOf'
      hcurrency hknown
    obtain ⟨b, hb, hb_run⟩ := hpart.run hbefore hrun
    obtain ⟨b', hb', hb_run'⟩ := hpart'.run hbefore' hrun'
    exact ⟨b, b', hb, hb',
      Balances.agreesUpTo hle hlog hm hbook hasOf hasOf' hb_run hb_run' hcurrency hknown⟩

open Reducer in
/-- A sweep over the last day of a January and one that goes on into February, which has an
operation and rates of its own.  The accounts and their operations are in one currency, the totals
in another. -/
theorem runs_agree_on_past_of_january :
    let s : Date := ⟨738550, by decide, by decide⟩
    let next : Date := s.addDays 1
    let now : Timestamp := ⟨s, 0, 0⟩
    let wage : Operation :=
      .income ⟨"wage", now, s, "GBP", (2 : Float).toBits, [], none⟩ ⟨"cash", 2⟩ []
    let rent : Operation :=
      .expense ⟨"rent", now, next, "GBP", (-1 : Float).toBits, [], none⟩ ⟨"cash", -1⟩ []
    let january : List MonthlyRates := [⟨"2023-01", "EUR", [2]⟩, ⟨"2023-01", "GBP", [4]⟩]
    let february : List MonthlyRates := [⟨"2023-02", "EUR", [3]⟩, ⟨"2023-02", "GBP", [5]⟩]
    let before (table : RateTable) : Balance × IncomeExpense × Balances :=
      (.create "cash", .create "EUR" table, .create [.create "cash" "GBP" now] "EUR" s table)
    ∃ book book' after after',
      january.foldlM RateBook.insert .empty = .ok book ∧
      february.foldlM RateBook.insert book = .ok book' ∧
      run (Store.load [wage]) s .any (some ⟨s, s⟩) (before book.rate) =
        ⟨after, .ok ⟨⟨s, s⟩, 1, 1⟩⟩ ∧
      run (Store.load [wage, rent]) s .any (some ⟨s, next⟩) (before book'.rate) =
        ⟨after', .ok ⟨⟨s, next⟩, 2, 2⟩⟩ ∧
      after.1.series.AgreesUpTo s after'.1.series ∧
      after.2.1.income.AgreesUpTo s after'.2.1.income ∧
      ∃ rollUp rollUp', after.2.2.rollUp = some rollUp ∧ after'.2.2.rollUp = some rollUp' ∧
        ∀ g, (rollUp.get g).points.filter (fun p => g.bucketEnd p.date ≤ s) =
          (rollUp'.get g).points.filter fun p => g.bucketEnd p.date ≤ s := by
  intro s next now wage rent january february before
  have hmonth : s.monthIndex = 24276 := by decide +kernel
  let euros : Months := (∅ : Months).insert 24276 [2]
  let pounds : Months := (∅ : Months).insert 24276 [4]
  let book : RateBook :=
    ⟨((∅ : Std.ExtTreeMap String Months).insert "EUR" euros).insert "GBP" pounds⟩
  let book' : RateBook := ⟨(book.currencies.insert "EUR" (euros.insert 24277 [3])).insert "GBP"
    (pounds.insert 24277 [5])⟩
  have hjanuary : january.foldlM RateBook.insert .empty = .ok book := rfl
  have hfebruary : february.foldlM RateBook.insert book = .ok book' := rfl
  have heur : book.KnowsBy s "EUR" :=
    .inr ⟨24276, [2], 0, rfl, Nat.one_pos, .inr ⟨hmonth.symm, Nat.zero_le _⟩⟩
  have hgbp : book.KnowsBy s "GBP" :=
    .inr ⟨24276, [4], 0, rfl, Nat.one_pos, .inr ⟨hmonth.symm, Nat.zero_le _⟩⟩
  have hbook : RateBook.IsExtension s.monthIndex book book' := by
    have hmonth' : MonthlyRates.monthIndex? "2023-02" = some 24277 := by decide +kernel
    refine ⟨february, fun file hmem j hj => ?_, hfebruary⟩
    have hfile : file.month = "2023-02" := by
      rcases List.mem_pair.1 hmem with rfl | rfl <;> rfl
    rw [hfile, hmonth'] at hj
    cases hj
    rw [hmonth]
    decide
  have hheads {book : RateBook} (hgbp : book.KnowsBy s "GBP") : ∀ op ∈ [wage, rent],
      ∀ h, op.head? = some h → s ≤ h.date ∧ book.KnowsBy s h.currency := by
    intro op hop h hh
    rcases List.mem_pair.1 hop with rfl | rfl
    · cases hh
      exact ⟨Int.le_refl _, hgbp⟩
    · cases hh
      exact ⟨show s ≤ next by decide, hgbp⟩
  -- no part of a sweep lacks a rate, so that its calls succeed if the bookings do
  have hplay {book : RateBook} {log : List Operation} {ivs : List Intervals}
      (hlog : log ⊆ [wage, rent]) (heur : book.KnowsBy s "EUR") (hgbp : book.KnowsBy s "GBP")
      (hdays : (play (before book.rate).2.2 (ivs.flatMap (dayScript (fun _ => true) log))).error =
        none)
      (hs : ∀ g, ∀ d ∈ (play (before book.rate).2.2
        (ivs.flatMap (dayScript (fun _ => true) log))).state.valuationDays g, s ≤ d) :
      (play (before book.rate) (script (fun _ => true) log ivs)).error = none := by
    have htotals : (play (before book.rate).2.1 (script (fun _ => true) log ivs)).error = none :=
      (IncomeExpense.isKeptIn_create book.rate "EUR").error_play_script heur
        fun op hop => hheads hgbp op (hlog hop)
    have hbalances := (Balances.inStep_create [.create "cash" "GBP" now] "EUR" s
      book.rate).error_play_script hdays hs heur (List.forall_mem_singleton.2 hgbp)
    exact error_play_pair _ (Balance.error_play _ _) (error_play_pair _ htotals hbalances)
  have hsort : sortLog [wage] = [wage] := List.mergeSort_singleton wage
  have hsort' : sortLog [wage, rent] = [wage, rent] :=
    List.mergeSort_of_pairwise (by decide +kernel)
  have hlog :
      (sortLog [wage]).filter (datedUpTo s) = (sortLog [wage, rent]).filter (datedUpTo s) := by
    rw [hsort, hsort', List.filter_cons, List.filter_cons, List.filter_cons]
    rfl
  obtain ⟨after, hrun⟩ : ∃ after, run (Store.load [wage]) s .any (some ⟨s, s⟩) (before book.rate) =
      ⟨after, .ok ⟨⟨s, s⟩, 1, 1⟩⟩ := by
    have hcalls : (play (before book.rate)
        (scriptOf (fun _ => true) [wage] s (periodOf [wage] s (some ⟨s, s⟩)))).error = none :=
      hplay (List.cons_subset_cons _ (List.nil_subset _)) heur hgbp (by decide +kernel)
        (by intro g; cases g <;> decide +kernel)
    apply Outcome.exists_eq_of_toOption
    rw [run_load [wage] s (m := fun _ => true) rfl, hsort, outcome, hcalls]
    decide +kernel
  obtain ⟨after', hrun'⟩ : ∃ after', run (Store.load [wage, rent]) s .any (some ⟨s, next⟩)
      (before book'.rate) = ⟨after', .ok ⟨⟨s, next⟩, 2, 2⟩⟩ := by
    have hcalls : (play (before book'.rate) (scriptOf (fun _ => true) [wage, rent] s
        (periodOf [wage, rent] s (some ⟨s, next⟩)))).error = none :=
      hplay (List.Subset.refl _) (hbook.knowsBy (Int.le_refl _) heur)
        (hbook.knowsBy (Int.le_refl _) hgbp) (by decide +kernel)
        (by intro g; cases g <;> decide +kernel)
    apply Outcome.exists_eq_of_toOption
    rw [run_load [wage, rent] s (m := fun _ => true) rfl, hsort', outcome, hcalls]
    decide +kernel
  have hops : ∀ op ∈ [wage], true = true → ∀ h, op.head? = some h → s ≤ h.date → h.date ≤ s →
      book.KnowsBy s h.currency := by
    intro op hop _ h hh _ _
    exact (hheads hgbp op (List.mem_cons.2 (.inl (List.mem_singleton.1 hop))) h hh).2
  obtain ⟨hbalance, htotals, hbalances⟩ := runs_agree_on_past (m := fun _ => true)
    (show s ≤ next by decide) hlog hbook rfl hrun hrun'
  obtain ⟨b, b', hb, hb', hseries⟩ := hbalance _ _ "cash" .fst .fst rfl rfl
  obtain ⟨t, t', ht, ht', hincome, -⟩ :=
    htotals _ _ "EUR" (.bind .snd .fst) (.bind .snd .fst) rfl rfl heur hops
  obtain ⟨r, r', hr, hr', -, q, q', hq, hq', hagree⟩ := hbalances _ _
    [.create "cash" "GBP" now] "EUR" s s (.bind .snd .snd) (.bind .snd .snd) rfl rfl
    (Int.le_refl _) (Int.le_refl _) heur (List.forall_mem_singleton.2 hgbp)
  cases hb
  cases hb'
  cases ht
  cases ht'
  cases hr
  cases hr'
  exact ⟨book, book', after, after', hjanuary, hfebruary, hrun, hrun', hseries, hincome, q, q', hq,
    hq', fun g => (hagree g).filter_eq⟩

end Cashbook
