import Cashbook.Proofs.Calendar.Buckets
import Cashbook.Proofs.Maps
import Cashbook.Rates.Book

/-!
# Rates that are published later

A book of rates grows month by month.  The rate of a day is searched for near that day, first on it
and before it and then also after it, so that months that are published later can change it, but
only where nothing was known by that day.

* `RateBook.KnowsBy` — a rate of the currency is known for the day or for one before it.  What is
  known by a day is known by all later days (`RateBook.KnowsBy.mono`), because days stand in the
  order of their months and of their places in them (`Date.month_day_mono`).  Between currencies
  that are known by a day there is a rate on it (`RateBook.KnowsBy.exists_rate`).
* `RateBook.IsExtension` — a book with more months taken in, all of them after a given one.
* `RateBook.IsExtension.rate_eq` — the rates of the days up to then stay as they are, if they are
  between currencies that are known by those days.
-/

namespace Cashbook

open Calendar

namespace Date

theorem year_mono {d e : Date} (h : d ≤ e) : d.year ≤ e.year := by
  by_contra hlt
  have hstart := yearStart_mono (show e.year + 1 ≤ d.year by omega)
  have hd := yearStart_yearOf_le d.number
  have he := lt_yearStart_yearOf_add_one e.number
  rw [le_def] at h
  unfold year at hstart
  omega

/-- Days follow in the order of their months, and within a month of their places in it. -/
theorem month_day_mono {d e : Date} (h : d ≤ e) :
    d.monthIndex < e.monthIndex ∨ (d.monthIndex = e.monthIndex ∧ d.day ≤ e.day) := by
  have hd := monthOf_bounds (isLeap d.year) d.ordinal
  have he := monthOf_bounds (isLeap e.year) e.ordinal
  have hmonth (x : Date) : x.month = monthOf (isLeap x.year) x.ordinal := rfl
  have hday (x : Date) :
      x.day = x.ordinal - monthStart (isLeap x.year) x.month + 1 := rfl
  rcases Int.lt_or_eq_of_le (year_mono h) with hlt | heq
  · left
    rw [monthIndex, monthIndex, hmonth, hmonth]
    omega
  · have hordinal : d.ordinal ≤ e.ordinal := by
      have := d.number_eq
      have := e.number_eq
      rw [le_def] at h
      rw [heq] at *
      omega
    have hle := monthOf_mono (isLeap e.year) hordinal
    rcases Nat.lt_or_eq_of_le hle with hlt | hsame
    · left
      rw [monthIndex, monthIndex, hmonth, hmonth, heq]
      omega
    · right
      rw [monthIndex, monthIndex, hday, hday, hmonth, hmonth, heq, hsame]
      exact ⟨rfl, by omega⟩

end Date

namespace Months

variable {months months' : Months} {k : Int} {i : Nat}

/-- Whether a rate is known for the entry `i` of the month `k`, or for one before it. -/
def KnowsBy (months : Months) (k : Int) (i : Nat) : Prop :=
  ∃ (j : Int) (rates : List Float) (n : Nat),
    months[j]? = some rates ∧ n < rates.length ∧ (j < k ∨ j = k ∧ n ≤ i)

theorem KnowsBy.mono {k' : Int} {i' : Nat} (h : months.KnowsBy k i)
    (hle : k < k' ∨ k = k' ∧ i ≤ i') : months.KnowsBy k' i' := by
  obtain ⟨j, rates, n, hj, hn, hbefore⟩ := h
  exact ⟨j, rates, n, hj, hn, by omega⟩

/-- What is known by a day and not on it is found before it. -/
theorem KnowsBy.isSome_earlier? (h : months.KnowsBy k i) (hnone : months.onDay? k i = none) :
    (months.earlier? k i).isSome := by
  obtain ⟨j, rates, n, hj, hn, hbefore⟩ := h
  rw [earlier?, List.findSome?_isSome_iff]
  refine ⟨(j, rates), ?_, ?_⟩
  · rw [List.mem_reverse, List.mem_filter]
    exact ⟨Std.ExtTreeMap.mem_toList_iff_getElem?_eq_some.2 hj, decide_eq_true (by omega)⟩
  · rw [List.getLast?_isSome]
    dsimp only
    split
    case isTrue hjk =>
      -- the entry of the day itself is missing
      subst hjk
      rw [onDay?, hj, Option.bind_some, List.getElem?_eq_none_iff] at hnone
      intro hnil
      rw [List.take_eq_nil_iff] at hnil
      rcases hnil with hzero | rfl
      · omega
      · exact absurd hn (Nat.not_lt_zero n)
    case isFalse =>
      rintro rfl
      exact absurd hn (Nat.not_lt_zero n)

/-- Where a rate is known by a day, one is found. -/
theorem KnowsBy.exists_nearest? (h : months.KnowsBy k i) :
    ∃ rate, months.nearest? k i = some rate := by
  rw [nearest?]
  cases hday : months.onDay? k i with
  | some rate => exact ⟨rate, rfl⟩
  | none =>
      obtain ⟨rate, hrate⟩ := Option.isSome_iff_exists.1 (h.isSome_earlier? hday)
      exact ⟨rate, by rw [hrate]; rfl⟩

/-- What is known by a day does not depend on the months after it. -/
theorem KnowsBy.nearest?_congr (h : months.KnowsBy k i)
    (hsame : ∀ j ≤ k, months[j]? = months'[j]?) : months.nearest? k i = months'.nearest? k i := by
  have honDay : months.onDay? k i = months'.onDay? k i := by
    rw [onDay?, onDay?, hsame k (Int.le_refl k)]
  have hearlier : months.earlier? k i = months'.earlier? k i := by
    have hfilter := Maps.filter_toList_congr (fun j hj => hsame j (of_decide_eq_true hj))
    rw [earlier?, earlier?, hfilter]
  rw [nearest?, nearest?, ← honDay, ← hearlier]
  cases hnone : months.onDay? k i with
  | some rate => rfl
  | none =>
      obtain ⟨rate, hrate⟩ := Option.isSome_iff_exists.1 (h.isSome_earlier? hnone)
      rw [hrate]
      rfl

end Months

namespace RateBook

variable {book book' : RateBook} {d e : Date} {k : Int} {currency : String}

/-- Whether a rate of the currency is known for the day `d` or for one before it; that of the base
currency always is. -/
def KnowsBy (book : RateBook) (d : Date) (currency : String) : Prop :=
  currency = baseCurrency ∨ (book.months currency).KnowsBy d.monthIndex (d.day - 1)

theorem KnowsBy.mono (h : book.KnowsBy d currency) (hde : d ≤ e) : book.KnowsBy e currency := by
  refine h.imp_right fun hmonths => hmonths.mono ?_
  have := Date.month_day_mono hde
  omega

theorem KnowsBy.exists_baseRate (h : book.KnowsBy d currency) :
    ∃ rate, book.baseRate d currency = .ok rate := by
  rw [baseRate]
  split
  case isTrue => exact ⟨1, rfl⟩
  case isFalse hbase =>
    obtain ⟨rate, hrate⟩ := (h.resolve_left hbase).exists_nearest?
    exact ⟨rate, by rw [hrate]⟩

/-- Between currencies that are known by a day there is a rate on it. -/
theorem KnowsBy.exists_rate {source target : String} (hsource : book.KnowsBy d source)
    (htarget : book.KnowsBy d target) : ∃ rate, book.rate d source target = .ok rate := by
  obtain ⟨s, hs⟩ := hsource.exists_baseRate
  obtain ⟨t, ht⟩ := htarget.exists_baseRate
  rw [rate, hs, ht]
  split
  case isTrue => exact ⟨1, rfl⟩
  case isFalse => exact ⟨t / s, rfl⟩

/-- Whether `book'` is `book` with more months taken in, all of them after the month `k`. -/
def IsExtension (k : Int) (book book' : RateBook) : Prop :=
  ∃ files : List MonthlyRates,
    (∀ file ∈ files, ∀ j ∈ MonthlyRates.monthIndex? file.month, k < j) ∧
      files.foldlM insert book = .ok book'

/-- One month that is taken in. -/
theorem getElem?_months_insert {file : MonthlyRates} (h : book.insert file = .ok book')
    (currency : String) :
    ∃ j, MonthlyRates.monthIndex? file.month = some j ∧
      ∀ i ≠ j, (book'.months currency)[i]? = (book.months currency)[i]? := by
  rw [insert] at h
  cases hj : MonthlyRates.monthIndex? file.month with
  | none =>
      rw [hj] at h
      cases h
  | some j =>
      rw [hj] at h
      cases h
      refine ⟨j, rfl, fun i hi => ?_⟩
      show (((book.currencies.insert file.currency _).getD currency ∅ : Months))[i]? = _
      rw [Std.ExtTreeMap.getD_insert]
      split
      case isTrue heq =>
        rw [Std.LawfulEqCmp.eq_of_compare heq, Std.ExtTreeMap.getElem?_insert, if_neg]
        exact fun hij => hi (Std.LawfulEqCmp.eq_of_compare hij).symm
      case isFalse => rfl

/-- All months that are taken in. -/
theorem IsExtension.getElem?_months (h : IsExtension k book book') (currency : String) {i : Int}
    (hi : i ≤ k) : (book'.months currency)[i]? = (book.months currency)[i]? := by
  obtain ⟨files, hfiles, hbook⟩ := h
  induction files generalizing book with
  | nil =>
      cases hbook
      rfl
  | cons file files ih =>
      obtain ⟨hfile, hfiles⟩ := List.forall_mem_cons.1 hfiles
      rw [List.foldlM_cons] at hbook
      cases hinsert : book.insert file with
      | error err =>
          rw [hinsert] at hbook
          cases hbook
      | ok next =>
          rw [hinsert] at hbook
          obtain ⟨j, hj, hother⟩ := getElem?_months_insert hinsert currency
          have hlt := hfile j hj
          rw [ih hfiles hbook, hother i (by omega)]

/-- What is known by a day stays known by it. -/
theorem IsExtension.knowsBy (h : IsExtension e.monthIndex book book') (hde : d ≤ e)
    (hknown : book.KnowsBy d currency) : book'.KnowsBy d currency := by
  have := Date.month_day_mono hde
  refine hknown.imp_right fun ⟨j, rates, n, hj, hn, hbefore⟩ => ⟨j, rates, n, ?_, hn, hbefore⟩
  rw [h.getElem?_months currency (by omega), hj]

/-- The rate of a currency that is known by a day stays as it is. -/
theorem IsExtension.baseRate_eq (h : IsExtension e.monthIndex book book') (hde : d ≤ e)
    (hknown : book.KnowsBy d currency) : book'.baseRate d currency = book.baseRate d currency := by
  rw [baseRate, baseRate]
  split
  case isTrue => rfl
  case isFalse hbase =>
    have hmonths := hknown.resolve_left hbase
    have hle : d.monthIndex ≤ e.monthIndex := by
      have := Date.month_day_mono hde
      omega
    rw [hmonths.nearest?_congr fun j hj => (h.getElem?_months currency (Int.le_trans hj hle)).symm]

/-- **The rates of a day stay as they are** between currencies that are known by that day. -/
theorem IsExtension.rate_eq (h : IsExtension e.monthIndex book book') (hde : d ≤ e)
    {source target : String} (hsource : book.KnowsBy d source) (htarget : book.KnowsBy d target) :
    book'.rate d source target = book.rate d source target := by
  rw [rate, rate, h.baseRate_eq hde hsource, h.baseRate_eq hde htarget]

end RateBook

end Cashbook
