import Mathlib.Algebra.BigOperators.Group.List.Basic
import Cashbook.Proofs.Stats.Parts
import Cashbook.Proofs.Stats.Recounting

/-!
# Comparisons and totals reconcile

The comparison of months, the comparison of years and the totals of incomes and expenses look at the
same operations, each with a cache of its own.  `comparisons_reconcile` says that they come to the
same amounts: every entry is the sum of the amounts of the operations that belong to it, in the
order in which they were handed over.

### Sums that are computed and sums that are exact

Addition of floating-point numbers is not associative, so the entry of a year need not be the sum of
the entries of its months.  What they have in common are the amounts: in any commutative monoid,
those of the months of a year add up to those of the year (`sum_groups`).  The entries themselves do
so as far as the sums that were computed are exact (`IsExactOn`).
-/

namespace Cashbook

open Sweep Operation BucketedSeries

variable {table : RateTable} {currency : String} {ops : List Operation}

/-! ### Groups of amounts -/

section Groups

variable {ι κ M : Type} [DecidableEq κ] [AddCommMonoid M] {key : ι → κ} {l : List ι} {ks : List κ}

/-- **Groups add up to the whole**, in whatever order the keys are gone through. -/
theorem sum_groups (hks : ks.Nodup) (hkey : ∀ i ∈ l, key i ∈ ks) (f : ι → M) :
    (ks.map fun k => ((l.filter (key · = k)).map f).sum).sum = (l.map f).sum := by
  induction l with
  | nil => simp
  | cons i l ih =>
      obtain ⟨hi, hl⟩ := List.forall_mem_cons.1 hkey
      have hgroup (k : κ) : (((i :: l).filter (key · = k)).map f).sum =
          (if key i = k then f i else 0) + ((l.filter (key · = k)).map f).sum := by
        by_cases hk : key i = k
        · simp [hk]
        · simp [hk]
      -- the first member is in the group of its key only
      have hone : (ks.map fun k => if key i = k then f i else 0).sum = f i := by
        rw [List.sum_map_eq_nsmul_single (key i) _ fun k hne _ => if_neg (Ne.symm hne),
          List.count_eq_one_of_mem hks hi, one_nsmul, if_pos rfl]
      rw [List.map_congr_left fun k _ => hgroup k, List.sum_map_add, hone, ih hl, List.map_cons,
        List.sum_cons]

/-- Whether the sums that are taken of some of the numbers, in their order, are exact when numbers
are read as `exactly` says. -/
def IsExactOn (exactly : Float → M) (vs : List Float) : Prop :=
  ∀ ws, ws.Sublist vs → exactly (leftSum ws) = (ws.map exactly).sum

theorem IsExactOn.mono {exactly : Float → M} {vs ws : List Float} (h : IsExactOn exactly vs)
    (hws : ws.Sublist vs) : IsExactOn exactly ws :=
  fun _ hsub => h _ (hsub.trans hws)

/-- As far as sums are exact, entries add up to the whole. -/
theorem sum_entries {amount : ι → Float} {exactly : Float → M} {entry : κ → Option Float}
    (hentry : ∀ k, entry k = entryOf ((l.filter (key · = k)).map amount))
    (hexact : IsExactOn exactly (l.map amount)) (hks : ks.Nodup) (hkey : ∀ i ∈ l, key i ∈ ks) :
    ((ks.filterMap entry).map exactly).sum = ((l.map amount).map exactly).sum := by
  have hone (k : κ) : ((entry k).toList.map exactly).sum =
      ((l.filter (key · = k)).map (exactly ∘ amount)).sum := by
    rw [hentry, entryOf, ← List.map_map]
    split
    case isTrue hnil =>
      rw [hnil]
      rfl
    case isFalse =>
      rw [← hexact _ (List.filter_sublist.map amount)]
      exact List.sum_singleton
  rw [List.filterMap_eq_flatMap_toList, List.map_flatMap, List.flatMap_def, List.sum_flatten,
    List.map_map, List.map_map, ← sum_groups hks hkey]
  exact congrArg List.sum (List.map_congr_left fun k _ => hone k)

/-- What the incomes and what the expenses add up to is what all of them add up to. -/
theorem sum_netHeads (f : Head → M) (ops : List Operation) :
    ((netHeads ops).map f).sum =
      ((headsOf .income ops).map f).sum + ((headsOf .expense ops).map f).sum := by
  induction ops with
  | nil => exact (add_zero 0).symm
  | cons op ops ih =>
      cases op with
      | income h account splits =>
          show f h + ((netHeads ops).map f).sum =
            (f h + ((headsOf .income ops).map f).sum) + ((headsOf .expense ops).map f).sum
          rw [ih, add_assoc]
      | expense h account splits =>
          show f h + ((netHeads ops).map f).sum =
            ((headsOf .income ops).map f).sum + (f h + ((headsOf .expense ops).map f).sum)
          rw [ih, add_left_comm]
      | _ => exact ih

end Groups

/-- Incomes, and expenses, are among both. -/
theorem headsOf_sublist_netHeads {k : Kind} (hk : k = .income ∨ k = .expense)
    (ops : List Operation) : (headsOf k ops).Sublist (netHeads ops) := by
  have hnet : headsOf k ops = (ops.filter (·.kind = k)).filterMap netHead? := by
    refine List.filterMap_congr fun op hop => ?_
    have hkind : op.kind = k := of_decide_eq_true (List.mem_filter.1 hop).2
    rcases hk with rfl | rfl
    · cases op <;> first | rfl | cases hkind
    · cases op <;> first | rfl | cases hkind
  rw [hnet]
  exact List.filter_sublist.filterMap netHead?

/-! ### The three together -/

section Together

variable {M : Type} [AddCommMonoid M] (exactly : Float → M)

namespace MonthlyComparison

variable {c : MonthlyComparison}

/-- The months that a comparison has an entry for are among its keys. -/
theorem mem_keys_of_isSome {month : Nat} {year : Int} (h : (c.get? month year).isSome) :
    month ∈ c.months.keys := by
  rw [Std.ExtTreeMap.mem_keys, Std.ExtTreeMap.mem_iff_isSome_getElem?]
  rw [get?] at h
  cases hmonth : c.months[month]? with
  | none =>
      rw [hmonth] at h
      cases h
  | some years => rfl

/-- The entry for a month of a year. -/
theorem IsMadeOf.get?_eq (hc : c.IsMadeOf table currency ops) (month : Nat) (year : Int) :
    c.get? month year = entryOf (((netHeads ops).filter fun h =>
      h.date.month = month ∧ h.date.year = year).map (amountIn table currency)) := by
  simpa using hc.entries.entry_eq (month, year)

/-- There is an entry for the months of the operations, and for no other. -/
theorem IsMadeOf.isSome_iff (hc : c.IsMadeOf table currency ops) (month : Nat) (year : Int) :
    (c.get? month year).isSome ↔
      ∃ h ∈ netHeads ops, h.date.month = month ∧ h.date.year = year := by
  simpa using hc.entries.isSome_iff (month, year)

/-- **The months of a year** add up to the year. -/
theorem IsMadeOf.sum_year (hc : c.IsMadeOf table currency ops) (year : Int) :
    let total (hs : List Head) := ((hs.map (amountIn table currency)).map exactly).sum
    let inYear := (netHeads ops).filter fun h => h.date.year = year
    (c.months.keys.map fun month =>
        total ((netHeads ops).filter fun h => h.date.month = month ∧ h.date.year = year)).sum =
        total inYear ∧
      (IsExactOn exactly (inYear.map (amountIn table currency)) →
        ((c.months.keys.filterMap (c.get? · year)).map exactly).sum = total inYear) := by
  intro total inYear
  have hgroup (month : Nat) : inYear.filter (fun h => h.date.month = month) =
      (netHeads ops).filter fun h => h.date.month = month ∧ h.date.year = year := by
    rw [List.filter_filter]
    exact List.filter_congr fun h _ => (Bool.decide_and _ _).symm
  have hkey : ∀ h ∈ inYear, h.date.month ∈ c.months.keys := by
    intro h hh
    obtain ⟨hmem, hyear⟩ := List.mem_filter.1 hh
    have hsome : (c.get? h.date.month year).isSome :=
      (hc.isSome_iff _ _).2 ⟨h, hmem, rfl, of_decide_eq_true hyear⟩
    exact mem_keys_of_isSome hsome
  refine ⟨?_, fun hexact => ?_⟩
  · have hsum := sum_groups Std.ExtTreeMap.nodup_keys hkey (exactly ∘ amountIn table currency)
    simp only [hgroup] at hsum
    simpa only [total, List.map_map] using hsum
  · refine sum_entries (fun month => ?_) hexact Std.ExtTreeMap.nodup_keys hkey
    rw [hgroup]
    exact hc.get?_eq month year

end MonthlyComparison

namespace YearlyComparison

variable {y : YearlyComparison}

/-- The years that a comparison has an entry for are its keys. -/
theorem mem_keys_of_isSome {year : Int} (h : (y.get? year).isSome) : year ∈ y.years.keys := by
  rw [Std.ExtTreeMap.mem_keys, Std.ExtTreeMap.mem_iff_isSome_getElem?]
  exact h

/-- **The years** add up to the whole. -/
theorem IsMadeOf.sum_years (hy : y.IsMadeOf table currency ops) :
    let total (hs : List Head) := ((hs.map (amountIn table currency)).map exactly).sum
    (y.years.keys.map fun year => total ((netHeads ops).filter fun h => h.date.year = year)).sum =
        total (netHeads ops) ∧
      (IsExactOn exactly ((netHeads ops).map (amountIn table currency)) →
        ((y.years.keys.filterMap y.get?).map exactly).sum = total (netHeads ops)) := by
  intro total
  have hkey : ∀ h ∈ netHeads ops, h.date.year ∈ y.years.keys := fun h hh =>
    mem_keys_of_isSome ((hy.entries.isSome_iff _).2 ⟨h, hh, rfl⟩)
  refine ⟨?_, fun hexact => ?_⟩
  · have hsum := sum_groups Std.ExtTreeMap.nodup_keys hkey (exactly ∘ amountIn table currency)
    simpa only [total, List.map_map] using hsum
  · exact sum_entries hy.entries.entry_eq hexact Std.ExtTreeMap.nodup_keys hkey

end YearlyComparison

/-- The running totals, if no rate is missing. -/
theorem IncomeExpense.IsMadeOf.running_eq {t : IncomeExpense} (ht : t.IsMadeOf table currency ops)
    (hrate : ∀ h ∈ netHeads ops, ∃ rate, table h.date h.currency currency = .ok rate) :
    t.income.running = leftSum ((headsOf .income ops).map (amountIn table currency)) ∧
      t.expense.running = leftSum ((headsOf .expense ops).map (amountIn table currency)) := by
  have hconverted {k : Kind} (hk : k = .income ∨ k = .expense) :
      (headsOf k ops).flatMap (converted table currency) =
        (headsOf k ops).map (amountIn table currency) :=
    flatMap_converted fun h hh => hrate h ((headsOf_sublist_netHeads hk ops).subset hh)
  rw [ht.income_eq, ht.expense_eq, flatMap_incomeOf, flatMap_expenseOf, hconverted (.inl rfl),
    hconverted (.inr rfl)]
  exact ⟨rfl, rfl⟩

end Together

/-- **Comparisons and totals reconcile.**  Let fresh comparisons and totals in one currency, with
the rates of one book, be parts of what a sweep feeds.  If the sweep succeeds, no rate of an income
or an expense that it handed over was missing, and each of these operations has an amount at the
rate of its day.  The comparison of months has an entry for the months of these operations and for
no other, and it is the sum of their amounts from left to right; the comparison of years has one for
the years in which there is one for a month, and it is the sum of all amounts of the year; and the
running totals are the sums of the amounts of the incomes and of the expenses.

If the amounts are added without rounding, those of a year are what those of its months add up to,
and those of all years what incomes and expenses add up to; and so are the entries and the totals
themselves, as far as their sums are exact. -/
theorem comparisons_reconcile (ops : List Operation) (today : Date) (p : Predicate)
    (span : Option Period) (book : RateBook) (currency : String) {σ : Type} [Reducer σ]
    {monthly : σ → Option MonthlyComparison} {yearly : σ → Option YearlyComparison}
    {totals : σ → Option IncomeExpense} (hmonthly : Reducer.IsPart monthly)
    (hyearly : Reducer.IsPart yearly) (htotals : Reducer.IsPart totals) {s after : σ}
    (hmonths : monthly s = some (.create currency book.rate))
    (hyears : yearly s = some (.create currency book.rate))
    (hboth : totals s = some (.create currency book.rate)) {summary : Summary}
    (hrun : run (Store.load ops) today p span s = ⟨after, .ok summary⟩) :
    ∃ m c y t amount, p.compile = .ok m ∧ monthly after = some c ∧ yearly after = some y ∧
      totals after = some t ∧
      let dispatched := handedOver m (sortLog ops) summary.period
      let heads := netHeads dispatched
      (∀ h ∈ heads, ∃ rate, book.rate h.date h.currency currency = .ok rate ∧
        amount h = h.amount * rate) ∧
      (∀ month year,
        ((c.get? month year).isSome ↔ ∃ h ∈ heads, h.date.month = month ∧ h.date.year = year) ∧
          ∀ v, c.get? month year = some v → v = leftSum
            ((heads.filter fun h => h.date.month = month ∧ h.date.year = year).map amount)) ∧
      (∀ year,
        ((y.get? year).isSome ↔ ∃ month, (c.get? month year).isSome) ∧
          ∀ v, y.get? year = some v →
            v = leftSum ((heads.filter fun h => h.date.year = year).map amount)) ∧
      t.income.running = leftSum ((headsOf .income dispatched).map amount) ∧
      t.expense.running = leftSum ((headsOf .expense dispatched).map amount) ∧
      ∀ (M : Type) [AddCommMonoid M] (exactly : Float → M),
        let total (hs : List Head) := ((hs.map amount).map exactly).sum
        (∀ year, total (heads.filter fun h => h.date.year = year) =
            (c.months.keys.map fun month =>
              total (heads.filter fun h => h.date.month = month ∧ h.date.year = year)).sum) ∧
          (y.years.keys.map fun year => total (heads.filter fun h => h.date.year = year)).sum =
            total (headsOf .income dispatched) + total (headsOf .expense dispatched) ∧
          (IsExactOn exactly (heads.map amount) →
            (∀ year v, y.get? year = some v →
              exactly v = ((c.months.keys.filterMap (c.get? · year)).map exactly).sum) ∧
            ((y.years.keys.filterMap y.get?).map exactly).sum =
              exactly t.income.running + exactly t.expense.running) := by
  obtain ⟨m, hm, -⟩ := exists_of_run_load hrun
  obtain ⟨c, hc, hcrun⟩ := hmonthly.run hmonths hrun
  obtain ⟨y, hy, hyrun⟩ := hyearly.run hyears hrun
  obtain ⟨t, ht, htrun⟩ := htotals.run hboth hrun
  refine ⟨m, c, y, t, amountIn book.rate currency, hm, hc, hy, ht, ?_⟩
  intro dispatched heads
  have hcmade := (MonthlyComparison.recounts book.rate_self currency).run
    (MonthlyComparison.isMadeOf_create book.rate currency) hm hcrun
  have hymade := (YearlyComparison.recounts book.rate_self currency).run
    (YearlyComparison.isMadeOf_create book.rate currency) hm hyrun
  have htmade := (IncomeExpense.recounts book.rate_self currency).run
    (IncomeExpense.isMadeOf_create book.rate currency) hm htrun
  have hrate := hcmade.entries.exists_rate
  obtain ⟨hincome, hexpense⟩ := htmade.running_eq hrate
  refine ⟨fun h hh => ?_, fun month year => ⟨hcmade.isSome_iff month year, fun v hv => ?_⟩,
    fun year => ⟨?_, fun v hv => ?_⟩, hincome, hexpense, fun M _ exactly => ?_⟩
  · obtain ⟨rate, htable⟩ := hrate h hh
    exact ⟨rate, htable, amountIn_eq htable⟩
  · exact eq_leftSum_of_entryOf ((hcmade.get?_eq month year).symm.trans hv)
  · rw [hymade.entries.isSome_iff]
    constructor
    · rintro ⟨h, hh, hyear⟩
      exact ⟨h.date.month, (hcmade.isSome_iff _ _).2 ⟨h, hh, rfl, hyear⟩⟩
    · rintro ⟨month, hsome⟩
      obtain ⟨h, hh, -, hyear⟩ := (hcmade.isSome_iff month year).1 hsome
      exact ⟨h, hh, hyear⟩
  · exact eq_leftSum_of_entryOf ((hymade.entries.entry_eq year).symm.trans hv)
  · intro total
    have hyears := hymade.sum_years exactly
    have hall : total heads =
        total (headsOf .income dispatched) + total (headsOf .expense dispatched) := by
      have hsum := sum_netHeads (exactly ∘ amountIn book.rate currency) dispatched
      simpa only [total, List.map_map] using hsum
    refine ⟨fun year => (hcmade.sum_year exactly year).1.symm, hyears.1.trans hall,
      fun hexact => ⟨fun year v hv => ?_, ?_⟩⟩
    · have hgroup : ((heads.filter fun h => h.date.year = year).map
          (amountIn book.rate currency)).Sublist (heads.map (amountIn book.rate currency)) :=
        List.filter_sublist.map _
      rw [(hcmade.sum_year exactly year).2 (hexact.mono hgroup),
        eq_leftSum_of_entryOf ((hymade.entries.entry_eq year).symm.trans hv)]
      exact hexact _ hgroup
    · have hkind {k : Kind} (hk : k = .income ∨ k = .expense) :
          exactly (leftSum ((headsOf k dispatched).map (amountIn book.rate currency))) =
            total (headsOf k dispatched) :=
        hexact _ ((headsOf_sublist_netHeads hk dispatched).map _)
      rw [hyears.2 hexact, hincome, hexpense, hkind (.inl rfl), hkind (.inr rfl)]
      exact hall

/-- A wage on the last day of a year, and rent on the first day of the next one. -/
theorem comparisons_reconcile_of_new_year :
    let d : Date := ⟨738884, by decide, by decide⟩
    let next : Date := d.addDays 1
    let wage : Head := ⟨"wage", ⟨d, 0, 0⟩, d, "EUR", (2 : Float).toBits, [], none⟩
    let rent : Head := ⟨"rent", ⟨d, 0, 0⟩, next, "EUR", (-1 : Float).toBits, [], none⟩
    let ops : List Operation := [.income wage ⟨"cash", 2⟩ [], .expense rent ⟨"cash", -1⟩ []]
    let table : RateTable := RateBook.empty.rate
    let before : MonthlyComparison × YearlyComparison × IncomeExpense :=
      (.create "EUR" table, .create "EUR" table, .create "EUR" table)
    ∃ c y t, ∃ amount : Head → Float,
      run (Store.load ops) d .any (some ⟨d, next⟩) before = ⟨(c, y, t), .ok ⟨⟨d, next⟩, 2, 2⟩⟩ ∧
        (∀ h ∈ [wage, rent], ∃ rate, table h.date h.currency "EUR" = .ok rate ∧
          amount h = h.amount * rate) ∧
        (c.get? 12 2023).isSome ∧ (y.get? 2024).isSome ∧
        t.income.running = leftSum [amount wage] ∧ t.expense.running = leftSum [amount rent] := by
  intro d next wage rent ops table before
  have hsort : sortLog ops = ops := List.mergeSort_of_pairwise (by decide +kernel)
  obtain ⟨⟨c, y, t⟩, hrun⟩ : ∃ after, run (Store.load ops) d .any (some ⟨d, next⟩) before =
      ⟨after, .ok ⟨⟨d, next⟩, 2, 2⟩⟩ := by
    apply Outcome.exists_eq_of_toOption
    rw [run_load ops d (m := fun _ => true) rfl, hsort]
    decide +kernel
  obtain ⟨m, _, _, _, amount, hm, ⟨⟩, ⟨⟩, ⟨⟩, hamount, hmonths, hyears, hincome, hexpense, -⟩ :=
    comparisons_reconcile ops d .any (some ⟨d, next⟩) .empty "EUR" .fst
      (Reducer.IsPart.snd.bind .fst) (Reducer.IsPart.snd.bind .snd) rfl rfl rfl hrun
  obtain rfl : (fun _ => true) = m := Except.ok.inj hm
  have hdispatched : handedOver (fun _ => true) (sortLog ops) ⟨d, next⟩ = ops := by
    rw [hsort]
    rfl
  rw [hdispatched] at hamount hmonths hincome hexpense
  have hwage : (c.get? 12 2023).isSome :=
    (hmonths 12 2023).1.2 ⟨wage, List.mem_cons_self, by decide +kernel, by decide +kernel⟩
  have hrent : (c.get? 1 2024).isSome :=
    (hmonths 1 2024).1.2
      ⟨rent, List.mem_cons_of_mem _ List.mem_cons_self, by decide +kernel, by decide +kernel⟩
  exact ⟨c, y, t, amount, hrun, hamount, hwage, (hyears 2024).1.2 ⟨1, hrent⟩, hincome, hexpense⟩

end Cashbook
