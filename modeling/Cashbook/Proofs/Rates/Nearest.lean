import Mathlib.Data.Prod.Lex
import Mathlib.Order.Bounds.Defs
import Cashbook.Proofs.Rates.Extension

/-!
# The nearest known rate

A book of rates is searched in three steps: on the day itself, in the months up to it from the last
to the first, and in the months from it onwards.  A month may have rates for none of its days, or
only for the first of them, and many months may be missing.  Still the three steps amount to one
rule, which does not speak of months: what is found is the rate of the last day with a rate, up to
the day that is asked for, or, if there is none, the rate of the first day with a rate
(`RateBook.baseRate_nearest`).

* `RateDay` — the day of a rate: a year, a month and a place in it, ordered as days are.
* `published?` — the rate that some files give for a day.  The last file of a month counts, whatever
  the ones before it have, and files whose text names no month do not count at all.
* `RateBook.ofFiles` — the book after these files have been taken in one by one.
-/

namespace Cashbook

/-! ### The days of rates -/

/-- The day that a rate is for. -/
structure RateDay where
  /-- The year. -/
  year : ℤ
  /-- The month, from 1. -/
  month : ℕ
  /-- How many days of the month come before. -/
  index : ℕ
  deriving DecidableEq

namespace RateDay

variable {x y : RateDay}

/-- The year, the month and the place, in the order in which days are compared. -/
def key (x : RateDay) : ℤ ×ₗ ℕ ×ₗ ℕ := toLex (x.year, toLex (x.month, x.index))

theorem key_injective : Function.Injective key := by
  rintro ⟨_, _, _⟩ ⟨_, _, _⟩ h
  simpa [key] using h

instance : LinearOrder RateDay := LinearOrder.lift' key key_injective

/-- The number of the month, counted from the January of the year 0. -/
def monthIndex (x : RateDay) : ℤ := 12 * x.year + x.month - 1

/-- Whether there is such a month. -/
def InYear (x : RateDay) : Prop := 1 ≤ x.month ∧ x.month ≤ 12

/-- Days follow in the order of their months, and within a month of their places in it. -/
theorem le_iff (hx : x.InYear) (hy : y.InYear) :
    x ≤ y ↔ x.monthIndex < y.monthIndex ∨ (x.monthIndex = y.monthIndex ∧ x.index ≤ y.index) := by
  have hkey : x ≤ y ↔ x.year < y.year ∨ (x.year = y.year ∧
      (x.month < y.month ∨ (x.month = y.month ∧ x.index ≤ y.index))) := by
    show x.key ≤ y.key ↔ _
    rw [key, key, Prod.Lex.toLex_le_toLex, Prod.Lex.toLex_le_toLex]
  rw [hkey, monthIndex, monthIndex]
  obtain ⟨hx, hx'⟩ := hx
  obtain ⟨hy, hy'⟩ := hy
  omega

/-- The day at the place `i` of the month with the number `k`. -/
def ofMonth (k : ℤ) (i : ℕ) : RateDay := ⟨k / 12, (k % 12).toNat + 1, i⟩

theorem inYear_ofMonth (k : ℤ) (i : ℕ) : (ofMonth k i).InYear := by
  show 1 ≤ (k % 12).toNat + 1 ∧ (k % 12).toNat + 1 ≤ 12
  omega

theorem monthIndex_ofMonth (k : ℤ) (i : ℕ) : (ofMonth k i).monthIndex = k := by
  show 12 * (k / 12) + ((k % 12).toNat + 1 : ℕ) - 1 = k
  omega

end RateDay

/-- The day of a date. -/
def Date.rateDay (d : Date) : RateDay := ⟨d.year, d.month, d.day - 1⟩

theorem Date.inYear_rateDay (d : Date) : d.rateDay.InYear :=
  Calendar.monthOf_bounds (Calendar.isLeap d.year) d.ordinal

/-! ### What the search finds -/

namespace Months

variable {months : Months} {k : ℤ} {i : ℕ} {rate : Float}

/-- The months of a map are listed in their order. -/
theorem pairwise_toList (months : Months) : months.toList.Pairwise fun a b => a.1 < b.1 :=
  Std.ExtTreeMap.ordered_keys_toList.imp Std.compare_eq_lt.1

theorem mem_toList_of_onDay? {j : ℤ} {n : ℕ} (h : months.onDay? j n = some rate) :
    ∃ rates, (j, rates) ∈ months.toList ∧ rates[n]? = some rate := by
  obtain ⟨rates, hmonth, hentry⟩ := Option.bind_eq_some_iff.1 h
  exact ⟨rates, Std.ExtTreeMap.mem_toList_iff_getElem?_eq_some.2 hmonth, hentry⟩

theorem onDay?_of_mem_toList {m : ℤ × List Float} {n : ℕ} (hm : m ∈ months.toList)
    (hentry : m.2[n]? = some rate) : months.onDay? m.1 n = some rate := by
  rw [onDay?, Std.ExtTreeMap.mem_toList_iff_getElem?_eq_some.1 hm, Option.bind_some, hentry]

/-- The entries of a month that come before the entry `i` of the month `k`. -/
theorem getElem?_take_eq_some_iff {m : ℤ × List Float} (hm : m.1 ≤ k) {n : ℕ} :
    (if m.1 = k then m.2.take i else m.2)[n]? = some rate ↔
      m.2[n]? = some rate ∧ (m.1 < k ∨ (m.1 = k ∧ n < i)) := by
  split
  case isTrue h =>
    rw [List.getElem?_take]
    split
    case isTrue hlt => exact (and_iff_left (.inr ⟨h, hlt⟩)).symm
    case isFalse hge => simp [h, hge]
  case isFalse h => exact (and_iff_left (.inl (by omega))).symm

/-- What is found before an entry is the last rate before it. -/
theorem greatest_of_earlier? (h : months.earlier? k i = some rate) :
    ∃ j n, months.onDay? j n = some rate ∧ (j < k ∨ (j = k ∧ n < i)) ∧
      ∀ j' n' rate', months.onDay? j' n' = some rate' → (j' < k ∨ (j' = k ∧ n' < i)) →
        j' < j ∨ (j' = j ∧ n' ≤ n) := by
  have hsorted : (months.toList.filter fun m => m.1 ≤ k).reverse.Pairwise fun a b => b.1 < a.1 :=
    List.pairwise_reverse.2 ((pairwise_toList months).filter _)
  obtain ⟨m, hm, hlast, hothers⟩ := Lists.exists_mem_of_findSome? hsorted h
  rw [List.mem_reverse, List.mem_filter] at hm
  have hmk := of_decide_eq_true hm.2
  rw [List.getLast?_eq_getElem?] at hlast
  obtain ⟨hentry, hbefore⟩ := (getElem?_take_eq_some_iff hmk).1 hlast
  refine ⟨m.1, _, onDay?_of_mem_toList hm.1 hentry, hbefore, fun j' n' rate' h' hbefore' => ?_⟩
  obtain ⟨rates', hmem', hentry'⟩ := mem_toList_of_onDay? h'
  have hle : j' ≤ k := by omega
  -- the month of the other entry has a last one before the entry that is asked for
  have hpart := (getElem?_take_eq_some_iff (m := (j', rates')) hle).2 ⟨hentry', hbefore'⟩
  have hlength := (List.getElem?_eq_some_iff.1 hpart).1
  obtain ⟨last, hsome⟩ := Option.isSome_iff_exists.1
    (List.getLast?_isSome.2 (List.ne_nil_of_length_pos (Nat.zero_lt_of_lt hlength)))
  have hmem : (j', rates') ∈ (months.toList.filter fun m => m.1 ≤ k).reverse :=
    List.mem_reverse.2 (List.mem_filter.2 ⟨hmem', decide_eq_true hle⟩)
  rcases hothers (j', rates') hmem last hsome with rfl | hlt
  · exact .inr ⟨rfl, Nat.le_sub_one_of_lt hlength⟩
  · exact .inl hlt

/-- What is found from a month onwards is the first rate of the first month that has any. -/
theorem least_of_later? (h : months.later? k = some rate) :
    ∃ j, months.onDay? j 0 = some rate ∧
      ∀ j' n' rate', months.onDay? j' n' = some rate' → k ≤ j' → j ≤ j' := by
  obtain ⟨m, hm, hfirst, hothers⟩ :=
    Lists.exists_mem_of_findSome? ((pairwise_toList months).filter _) h
  rw [List.mem_filter] at hm
  rw [List.head?_eq_getElem?] at hfirst
  refine ⟨m.1, onDay?_of_mem_toList hm.1 hfirst, fun j' n' rate' h' hle => ?_⟩
  obtain ⟨rates', hmem', hentry'⟩ := mem_toList_of_onDay? h'
  have hlength := (List.getElem?_eq_some_iff.1 hentry').1
  obtain ⟨first, hsome⟩ := Option.isSome_iff_exists.1
    (List.isSome_head?.2 (List.ne_nil_of_length_pos (Nat.zero_lt_of_lt hlength)))
  have hmem : (j', rates') ∈ months.toList.filter fun m => k ≤ m.1 :=
    List.mem_filter.2 ⟨hmem', decide_eq_true hle⟩
  rcases hothers (j', rates') hmem first hsome with rfl | hlt
  · exact Int.le_refl _
  · exact Int.le_of_lt hlt

/-- From a month onwards something is found if there is a rate in it or later. -/
theorem isSome_later? {j : ℤ} {n : ℕ} (h : months.onDay? j n = some rate) (hle : k ≤ j) :
    (months.later? k).isSome := by
  obtain ⟨rates, hmem, hentry⟩ := mem_toList_of_onDay? h
  have hlength := (List.getElem?_eq_some_iff.1 hentry).1
  rw [later?, List.findSome?_isSome_iff]
  exact ⟨(j, rates), List.mem_filter.2 ⟨hmem, decide_eq_true hle⟩,
    List.isSome_head?.2 (List.ne_nil_of_length_pos (Nat.zero_lt_of_lt hlength))⟩

theorem knowsBy_iff :
    months.KnowsBy k i ↔
      ∃ j n rate, months.onDay? j n = some rate ∧ (j < k ∨ (j = k ∧ n ≤ i)) := by
  constructor
  · rintro ⟨j, rates, n, hmonth, hn, hbefore⟩
    refine ⟨j, n, rates[n], ?_, hbefore⟩
    rw [onDay?, hmonth, Option.bind_some, List.getElem?_eq_getElem hn]
  · rintro ⟨j, n, rate, hentry, hbefore⟩
    obtain ⟨rates, hmonth, hrate⟩ := Option.bind_eq_some_iff.1 hentry
    exact ⟨j, rates, n, hmonth, (List.getElem?_eq_some_iff.1 hrate).1, hbefore⟩

/-- Where something is known by an entry, the last of it is found. -/
theorem greatest_of_knowsBy (h : months.KnowsBy k i) :
    ∃ j n rate, months.nearest? k i = some rate ∧ months.onDay? j n = some rate ∧
      (j < k ∨ (j = k ∧ n ≤ i)) ∧
      ∀ j' n' rate', months.onDay? j' n' = some rate' → (j' < k ∨ (j' = k ∧ n' ≤ i)) →
        j' < j ∨ (j' = j ∧ n' ≤ n) := by
  cases hday : months.onDay? k i with
  | some rate =>
      refine ⟨k, i, rate, ?_, hday, .inr ⟨rfl, Nat.le_refl i⟩, fun j' n' _ _ hbefore => hbefore⟩
      rw [nearest?, hday, Option.some_or]
  | none =>
      obtain ⟨rate, hrate⟩ := Option.isSome_iff_exists.1 (h.isSome_earlier? hday)
      obtain ⟨j, n, hentry, hbefore, hgreatest⟩ := greatest_of_earlier? hrate
      refine ⟨j, n, rate, ?_, hentry, by omega, fun j' n' rate' hentry' hbefore' => ?_⟩
      · rw [nearest?, hday, hrate, Option.none_or, Option.some_or]
      · refine hgreatest j' n' rate' hentry' ?_
        -- there is nothing on the day itself
        have hne : ¬ (j' = k ∧ n' = i) := by
          rintro ⟨rfl, rfl⟩
          rw [hday] at hentry'
          cases hentry'
        omega

/-- Where nothing is known by an entry, the first of all is found. -/
theorem least_of_not_knowsBy (h : ¬ months.KnowsBy k i) {j₀ : ℤ} {n₀ : ℕ}
    (hsome : months.onDay? j₀ n₀ = some rate) :
    ∃ j n rate, months.nearest? k i = some rate ∧ months.onDay? j n = some rate ∧
      ∀ j' n' rate', months.onDay? j' n' = some rate' → j < j' ∨ (j = j' ∧ n ≤ n') := by
  have hafter (j : ℤ) (n : ℕ) (rate : Float) (hentry : months.onDay? j n = some rate) :
      ¬ (j < k ∨ (j = k ∧ n ≤ i)) :=
    fun hbefore => h (knowsBy_iff.2 ⟨j, n, rate, hentry, hbefore⟩)
  have hday : months.onDay? k i = none :=
    Option.eq_none_iff_forall_ne_some.2 fun rate hrate =>
      hafter k i rate hrate (.inr ⟨rfl, Nat.le_refl i⟩)
  have hearlier : months.earlier? k i = none := by
    refine Option.eq_none_iff_forall_ne_some.2 fun rate hrate => ?_
    obtain ⟨j, n, hentry, hbefore, -⟩ := greatest_of_earlier? hrate
    exact hafter j n rate hentry (by omega)
  have hle := hafter j₀ n₀ rate hsome
  obtain ⟨first, hfirst⟩ := Option.isSome_iff_exists.1 (isSome_later? (k := k) hsome (by omega))
  obtain ⟨j, hentry, hleast⟩ := least_of_later? hfirst
  refine ⟨j, 0, first, ?_, hentry, fun j' n' rate' hentry' => ?_⟩
  · rw [nearest?, hday, hearlier, hfirst, Option.none_or, Option.none_or]
  · have hle' := hafter j' n' rate' hentry'
    have hmonths := hleast j' n' rate' hentry' (by omega)
    omega

/-- What is found is there. -/
theorem exists_onDay?_of_nearest? (h : months.nearest? k i = some rate) :
    ∃ j n, months.onDay? j n = some rate := by
  rw [nearest?, Option.or_eq_some_iff, Option.or_eq_some_iff] at h
  rcases h with hday | ⟨-, hearlier | ⟨-, hlater⟩⟩
  · exact ⟨k, i, hday⟩
  · obtain ⟨j, n, hentry, -⟩ := greatest_of_earlier? hearlier
    exact ⟨j, n, hentry⟩
  · obtain ⟨j, hentry, -⟩ := least_of_later? hlater
    exact ⟨j, 0, hentry⟩

end Months

/-! ### What is published -/

/-- Whether a file has the rates of a currency for the month `m` of the year `y`. -/
def MonthlyRates.isFor (currency : String) (y : ℤ) (m : ℕ) (file : MonthlyRates) : Bool :=
  file.currency = currency ∧ 1 ≤ m ∧ m ≤ 12 ∧
    MonthlyRates.monthIndex? file.month = some (12 * y + m - 1)

/-- The file that counts for a month: the last one. -/
def standing? (files : List MonthlyRates) (currency : String) (y : ℤ) (m : ℕ) :
    Option MonthlyRates :=
  (files.filter (·.isFor currency y m)).getLast?

/-- The rate that is published for a day. -/
def published? (files : List MonthlyRates) (currency : String) (x : RateDay) : Option Float :=
  (standing? files currency x.year x.month).bind (·.rates[x.index]?)

/-- The days for which a rate is published. -/
def publishedDays (files : List MonthlyRates) (currency : String) : Set RateDay :=
  {x | ∃ rate, published? files currency x = some rate}

variable {files : List MonthlyRates} {currency : String}

/-- There are files for months that there are. -/
theorem month_bounds_of_standing? {y : ℤ} {m : ℕ} {file : MonthlyRates}
    (h : standing? files currency y m = some file) : 1 ≤ m ∧ m ≤ 12 := by
  have hmem := List.mem_of_getLast? h
  obtain ⟨-, hm, hm', -⟩ := of_decide_eq_true (List.mem_filter.1 hmem).2
  exact ⟨hm, hm'⟩

theorem inYear_of_mem_publishedDays {x : RateDay} (h : x ∈ publishedDays files currency) :
    x.InYear := by
  obtain ⟨rate, hrate⟩ := h
  obtain ⟨file, hfile, -⟩ := Option.bind_eq_some_iff.1 hrate
  exact month_bounds_of_standing? hfile

/-- No rate is published if all files that count are empty, or there are none. -/
theorem forall_notMem_publishedDays_iff :
    (∀ x, x ∉ publishedDays files currency) ↔
      ∀ y m file, standing? files currency y m = some file → file.rates = [] := by
  constructor
  · intro h y m file hfile
    cases hrates : file.rates with
    | nil => rfl
    | cons rate rates =>
        refine absurd ⟨rate, ?_⟩ (h ⟨y, m, 0⟩)
        rw [published?, hfile, Option.bind_some, hrates]
        rfl
  · rintro h x ⟨rate, hrate⟩
    obtain ⟨file, hfile, hentry⟩ := Option.bind_eq_some_iff.1 hrate
    rw [h _ _ file hfile] at hentry
    cases hentry

/-! ### The book of some files -/

namespace RateBook

/-- The book with the rates of one month taken in.  A file whose text names no month changes
nothing. -/
def takeIn (book : RateBook) (file : MonthlyRates) : RateBook :=
  match book.insert file with
  | .ok book' => book'
  | .error _ => book

/-- The book of some files, taken in one after the other. -/
def ofFiles (files : List MonthlyRates) : RateBook := files.foldl takeIn ∅

/-- **One file more.** -/
theorem getElem?_months_takeIn (book : RateBook) (file : MonthlyRates) (currency : String) (k : ℤ) :
    ((book.takeIn file).months currency)[k]? =
      if file.currency = currency ∧ MonthlyRates.monthIndex? file.month = some k then
        some file.rates
      else (book.months currency)[k]? := by
  rw [takeIn, insert]
  cases hj : MonthlyRates.monthIndex? file.month with
  | none => simp
  | some j =>
      show (((book.currencies.insert file.currency _).getD currency ∅ : Months))[k]? = _
      rw [Std.ExtTreeMap.getD_insert]
      simp only [Std.LawfulEqOrd.compare_eq_iff_eq, Option.some_inj]
      split
      case isTrue hcurrency =>
        subst hcurrency
        rw [Std.ExtTreeMap.getElem?_insert]
        simp only [Std.LawfulEqOrd.compare_eq_iff_eq, true_and]
      case isFalse hcurrency =>
        rw [if_neg fun h => hcurrency h.1]
        rfl

/-- **Any number of files.**  What the book has for a month are the rates of the last file for
it. -/
theorem getElem?_months_ofFiles (files : List MonthlyRates) (currency : String) (k : ℤ) :
    ((ofFiles files).months currency)[k]? =
      ((files.filter fun file => file.currency = currency ∧
        MonthlyRates.monthIndex? file.month = some k).getLast?).map (·.rates) := by
  induction files using List.reverseRecOn with
  | nil => rfl
  | append_singleton files file ih =>
      have hstep : ofFiles (files ++ [file]) = (ofFiles files).takeIn file := by
        rw [ofFiles, List.foldl_append]
        rfl
      rw [hstep, getElem?_months_takeIn, ih, List.filter_append]
      split
      case isTrue h => simp [h]
      case isFalse h => simp [h]

/-- What the book has for a day is what is published for it. -/
theorem onDay?_ofFiles {x : RateDay} (hx : x.InYear) :
    ((ofFiles files).months currency).onDay? x.monthIndex x.index =
      published? files currency x := by
  have hfor : (fun file : MonthlyRates => decide (file.currency = currency ∧
      MonthlyRates.monthIndex? file.month = some x.monthIndex)) =
      MonthlyRates.isFor currency x.year x.month := by
    funext file
    rw [MonthlyRates.isFor, RateDay.monthIndex]
    simp [hx.1, hx.2]
  rw [Months.onDay?, getElem?_months_ofFiles, published?, standing?, hfor, Option.bind_map]
  rfl

theorem onDay?_ofFiles_eq_published?_ofMonth (k : ℤ) (i : ℕ) :
    ((ofFiles files).months currency).onDay? k i =
      published? files currency (.ofMonth k i) := by
  rw [← onDay?_ofFiles (RateDay.inYear_ofMonth k i), RateDay.monthIndex_ofMonth]
  rfl

/-- Something is known by a date if a rate is published for its day or for one before it. -/
theorem knowsBy_ofFiles_iff {date : Date} :
    ((ofFiles files).months currency).KnowsBy date.monthIndex (date.day - 1) ↔
      ∃ x ∈ publishedDays files currency, x ≤ date.rateDay := by
  rw [Months.knowsBy_iff]
  constructor
  · rintro ⟨j, n, rate, hentry, hbefore⟩
    rw [onDay?_ofFiles_eq_published?_ofMonth] at hentry
    refine ⟨.ofMonth j n, ⟨rate, hentry⟩, ?_⟩
    rw [RateDay.le_iff (RateDay.inYear_ofMonth j n) date.inYear_rateDay,
      RateDay.monthIndex_ofMonth]
    exact hbefore
  · rintro ⟨x, hx, hle⟩
    have hyear := inYear_of_mem_publishedDays hx
    obtain ⟨rate, hrate⟩ := hx
    rw [RateDay.le_iff hyear date.inYear_rateDay] at hle
    exact ⟨x.monthIndex, x.index, rate, (onDay?_ofFiles hyear).trans hrate, hle⟩

variable {date : Date}

theorem baseRate_of_nearest? {book : RateBook} {rate : Float} (hbase : currency ≠ baseCurrency)
    (h : (book.months currency).nearest? date.monthIndex (date.day - 1) = some rate) :
    book.baseRate date currency = .ok rate := by
  rw [baseRate, if_neg hbase, h]

/-- Up to a day for which something is known, the last rate that is published counts. -/
theorem baseRate_of_mem_upTo (hbase : currency ≠ baseCurrency)
    (h : ∃ x ∈ publishedDays files currency, x ≤ date.rateDay) :
    ∃ x rate, IsGreatest {x ∈ publishedDays files currency | x ≤ date.rateDay} x ∧
      published? files currency x = some rate ∧
      (ofFiles files).baseRate date currency = .ok rate := by
  obtain ⟨j, n, rate, hnearest, hentry, hbefore, hgreatest⟩ :=
    Months.greatest_of_knowsBy (knowsBy_ofFiles_iff.2 h)
  rw [onDay?_ofFiles_eq_published?_ofMonth] at hentry
  refine ⟨.ofMonth j n, rate, ⟨⟨⟨rate, hentry⟩, ?_⟩, ?_⟩, hentry,
    baseRate_of_nearest? hbase hnearest⟩
  · rw [RateDay.le_iff (RateDay.inYear_ofMonth j n) date.inYear_rateDay,
      RateDay.monthIndex_ofMonth]
    exact hbefore
  · rintro y ⟨hy, hle⟩
    have hyear := inYear_of_mem_publishedDays hy
    obtain ⟨rate', hrate'⟩ := hy
    rw [RateDay.le_iff hyear date.inYear_rateDay] at hle
    rw [RateDay.le_iff hyear (RateDay.inYear_ofMonth j n), RateDay.monthIndex_ofMonth]
    exact hgreatest _ _ rate' ((onDay?_ofFiles hyear).trans hrate') hle

/-- Before all that is known, the first rate that is published counts. -/
theorem baseRate_of_before_all (hbase : currency ≠ baseCurrency)
    (h : ∀ x ∈ publishedDays files currency, ¬ x ≤ date.rateDay)
    (hsome : ∃ x, x ∈ publishedDays files currency) :
    ∃ x rate, IsLeast (publishedDays files currency) x ∧
      published? files currency x = some rate ∧
      (ofFiles files).baseRate date currency = .ok rate := by
  obtain ⟨x₀, hx₀⟩ := hsome
  have hyear₀ := inYear_of_mem_publishedDays hx₀
  obtain ⟨rate₀, hrate₀⟩ := hx₀
  have hnot : ¬ ((ofFiles files).months currency).KnowsBy date.monthIndex (date.day - 1) := by
    rw [knowsBy_ofFiles_iff]
    rintro ⟨x, hx, hle⟩
    exact h x hx hle
  obtain ⟨j, n, rate, hnearest, hentry, hleast⟩ :=
    Months.least_of_not_knowsBy hnot ((onDay?_ofFiles hyear₀).trans hrate₀)
  rw [onDay?_ofFiles_eq_published?_ofMonth] at hentry
  refine ⟨.ofMonth j n, rate, ⟨⟨rate, hentry⟩, ?_⟩, hentry, baseRate_of_nearest? hbase hnearest⟩
  intro y hy
  have hyear := inYear_of_mem_publishedDays hy
  obtain ⟨rate', hrate'⟩ := hy
  rw [RateDay.le_iff (RateDay.inYear_ofMonth j n) hyear, RateDay.monthIndex_ofMonth]
  exact hleast _ _ rate' ((onDay?_ofFiles hyear).trans hrate')

/-- Where nothing is published, no rate is found. -/
theorem baseRate_of_notMem_publishedDays (hbase : currency ≠ baseCurrency)
    (h : ∀ x, x ∉ publishedDays files currency) :
    (ofFiles files).baseRate date currency = .error (.missing currency date) := by
  have hnone :
      ((ofFiles files).months currency).nearest? date.monthIndex (date.day - 1) = none := by
    refine Option.eq_none_iff_forall_ne_some.2 fun rate hrate => ?_
    obtain ⟨j, n, hentry⟩ := Months.exists_onDay?_of_nearest? hrate
    exact h (.ofMonth j n) ⟨_, onDay?_ofFiles_eq_published?_ofMonth j n ▸ hentry⟩
  rw [baseRate, if_neg hbase, hnone]

/-- **The nearest known rate is found.**  It is the rate of the last day up to the date for which
one is published.  If there is none, it is the rate of the first day for which one is published.  No
rate is found if and only if all files that count are empty, or there are none. -/
theorem baseRate_nearest (files : List MonthlyRates) (date : Date) {currency : String}
    (hbase : currency ≠ baseCurrency) :
    ((∃ x ∈ publishedDays files currency, x ≤ date.rateDay) →
        ∃ x rate, IsGreatest {x ∈ publishedDays files currency | x ≤ date.rateDay} x ∧
          published? files currency x = some rate ∧
          (ofFiles files).baseRate date currency = .ok rate) ∧
      ((∀ x ∈ publishedDays files currency, ¬ x ≤ date.rateDay) →
        (∃ x, x ∈ publishedDays files currency) →
        ∃ x rate, IsLeast (publishedDays files currency) x ∧
          published? files currency x = some rate ∧
          (ofFiles files).baseRate date currency = .ok rate) ∧
      ((ofFiles files).baseRate date currency = .error (.missing currency date) ↔
        ∀ y m file, standing? files currency y m = some file → file.rates = []) := by
  refine ⟨baseRate_of_mem_upTo hbase, baseRate_of_before_all hbase, ?_⟩
  rw [← forall_notMem_publishedDays_iff]
  refine ⟨fun herror x hx => ?_, baseRate_of_notMem_publishedDays hbase⟩
  -- if anything is published, some rate is found
  by_cases hbefore : ∃ x ∈ publishedDays files currency, x ≤ date.rateDay
  · obtain ⟨_, rate, -, -, hrate⟩ := baseRate_of_mem_upTo hbase hbefore
    rw [hrate] at herror
    cases herror
  · simp only [not_exists, not_and] at hbefore
    obtain ⟨_, rate, -, -, hrate⟩ := baseRate_of_before_all hbase hbefore ⟨x, hx⟩
    rw [hrate] at herror
    cases herror

/-- The rates of January are carried on to the fifteenth of February, as those of February have been
replaced by none and a file for a thirteenth month is not taken in. -/
theorem baseRate_nearest_of_gap :
    let files : List MonthlyRates := [⟨"2020-01", "EUR", [5, 6]⟩, ⟨"2020-02", "EUR", [1, 2]⟩,
      ⟨"2020-03", "EUR", [9]⟩, ⟨"2020-13", "EUR", [7]⟩, ⟨"2020-02", "EUR", []⟩]
    let date : Date := .clamp 737469
    "EUR" ≠ baseCurrency ∧ date.rateDay = ⟨2020, 2, 14⟩ ∧
      (∃ x ∈ publishedDays files "EUR", x ≤ date.rateDay) ∧
      ∃ x, IsGreatest {x ∈ publishedDays files "EUR" | x ≤ date.rateDay} x ∧
        published? files "EUR" x = some 6 ∧ (ofFiles files).baseRate date "EUR" = .ok 6 := by
  intro files date
  have hbase : "EUR" ≠ baseCurrency := by decide
  have hday : date.rateDay = ⟨2020, 2, 14⟩ := by decide +kernel
  have hknown : published? files "EUR" ⟨2020, 1, 1⟩ = some 6 := by decide +kernel
  have hbefore : (⟨2020, 1, 1⟩ : RateDay) ≤ date.rateDay := by
    rw [hday]
    decide
  have hrate : ((ofFiles files).baseRate date "EUR").toOption = some 6 := by decide +kernel
  obtain ⟨hupTo, -, -⟩ := baseRate_nearest files date hbase
  obtain ⟨x, rate, hgreatest, hpublished, hfound⟩ := hupTo ⟨_, ⟨6, hknown⟩, hbefore⟩
  have hsix : rate = 6 := by
    rw [hfound] at hrate
    exact Option.some_inj.1 hrate
  subst hsix
  exact ⟨hbase, hday, ⟨_, ⟨6, hknown⟩, hbefore⟩, x, hgreatest, hpublished, hfound⟩

end RateBook

end Cashbook
