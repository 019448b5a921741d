import Cashbook.Proofs.Calendar.Buckets

/-!
# Days that share a bucket

A bucket is given by its ends, which are computed from one of its days by moving back and forth.
What a bucket is can be said without any moving: two days lie in one week if as many whole weeks
come before the one as before the other, in one month if they have the same month and year, and in
one year if they have the same year.  `Granularity.SharesBucket` says this, and
`Granularity.sharesBucket_iff_between` that the two agree: the days that share the bucket of a day
are those between the ends that are computed from it.

### The edge of the calendar

A week that begins before the first date there is cannot be entered where it begins.  What is
computed as its first day is then the first date, and as its last day the sixth date after that,
which lies in the next week.  So the comparison is for buckets that begin in the calendar
(`BeginsInCalendar`), as all do whose days are at least six days behind the first date.
-/

namespace Cashbook

open Calendar

namespace Date

variable {d x : Date} {n : Int}

/-- A day that is clamped to the calendar comes no later than a date if the day itself does not,
unless it lies behind the calendar. -/
theorem clamp_le_iff (h : n ≤ lastNumber) : clamp n ≤ x ↔ n ≤ x.number := by
  have := x.first_le
  rw [le_def, clamp_number]
  omega

/-- A date comes no later than a day that is clamped to the calendar if it comes no later than the
day itself, unless the day lies before the calendar. -/
theorem le_clamp_iff (h : firstNumber ≤ n) : x ≤ clamp n ↔ x.number ≤ n := by
  have := x.le_last
  rw [le_def, clamp_number]
  omega

/-- The dates of a year are those between its first day and that of the next year. -/
theorem year_eq_iff {y : Int} :
    x.year = y ↔ yearStart y ≤ x.number ∧ x.number < yearStart (y + 1) := by
  constructor
  · rintro rfl
    exact ⟨yearStart_yearOf_le _, lt_yearStart_yearOf_add_one _⟩
  · rintro ⟨h, h'⟩
    exact yearOf_eq h h'

/-- No year of a date begins before the calendar. -/
theorem firstNumber_le_yearStart (d : Date) : firstNumber ≤ yearStart d.year := by
  have hfirst := d.first_le
  have hnext := lt_yearStart_yearOf_add_one d.number
  rcases Int.lt_or_le d.year firstYear with hlt | hle
  · have hbefore : yearStart (yearOf d.number + 1) ≤ firstNumber := yearStart_mono hlt
    omega
  · exact yearStart_mono hle

theorem month_bounds (d : Date) : 1 ≤ d.month ∧ d.month ≤ 12 := monthOf_bounds _ _

/-- The number of a date is that of its place in its month. -/
theorem number_eq_month (d : Date) :
    d.number = yearStart d.year + monthStart (isLeap d.year) d.month + d.day - 1 := by
  have hle : monthStart (isLeap d.year) d.month ≤ d.ordinal := monthStart_monthOf_le _ _
  have hday : d.day = d.ordinal - monthStart (isLeap d.year) d.month + 1 := rfl
  have hnumber := d.number_eq
  omega

/-- The dates of a month are those between its first day and that of the next month. -/
theorem month_eq_iff {y : Int} {m : Nat} (h1 : 1 ≤ m) (h12 : m ≤ 12) :
    x.year = y ∧ x.month = m ↔
      yearStart y + monthStart (isLeap y) m ≤ x.number ∧
        x.number < yearStart y + monthStart (isLeap y) (m + 1) := by
  have hmonth (hy : x.year = y) : x.month = m ↔
      monthStart (isLeap y) m ≤ x.ordinal ∧ x.ordinal < monthStart (isLeap y) (m + 1) := by
    subst hy
    exact monthOf_eq_iff _ h1 h12 x.ordinal_lt_monthStart
  constructor
  · rintro ⟨hy, hm⟩
    obtain ⟨hle, hlt⟩ := (hmonth hy).1 hm
    have hnumber := x.number_eq
    rw [hy] at hnumber
    omega
  · rintro ⟨hle, hlt⟩
    have hend := monthStart_le (isLeap y) (show m + 1 ≤ 13 by omega)
    rw [← yearLength_eq_monthStart] at hend
    have hnext := yearStart_add_one y
    have hy : x.year = y := year_eq_iff.2 ⟨by omega, by omega⟩
    have hnumber := x.number_eq
    rw [hy] at hnumber
    exact ⟨hy, (hmonth hy).2 ⟨by omega, by omega⟩⟩

end Date

namespace Granularity

variable {g : Granularity} {d x : Date}

/-- Whether two days lie in one bucket of the calendar. -/
def SharesBucket (g : Granularity) (x d : Date) : Prop :=
  match g with
  | day => x = d
  | sundayWeek => (x.number + 1) / 7 = (d.number + 1) / 7
  | mondayWeek => x.number / 7 = d.number / 7
  | month => x.year = d.year ∧ x.month = d.month
  | year => x.year = d.year

instance (g : Granularity) (x d : Date) : Decidable (g.SharesBucket x d) :=
  match g with
  | day => inferInstanceAs (Decidable (x = d))
  | sundayWeek => inferInstanceAs (Decidable ((x.number + 1) / 7 = (d.number + 1) / 7))
  | mondayWeek => inferInstanceAs (Decidable (x.number / 7 = d.number / 7))
  | month => inferInstanceAs (Decidable (x.year = d.year ∧ x.month = d.month))
  | year => inferInstanceAs (Decidable (x.year = d.year))

/-- Whether the bucket of `d` begins in the calendar, so that it can be entered where it begins. -/
def BeginsInCalendar (g : Granularity) (d : Date) : Prop := firstNumber ≤ d.number - g.offset d

/-- A bucket that begins in the calendar is entered where it begins. -/
theorem number_bucketStart (hd : g.BeginsInCalendar d) :
    (g.bucketStart d).number = d.number - g.offset d := by
  rw [BeginsInCalendar] at hd
  rw [bucketStart_eq, Date.number_addDays_neg]
  omega

theorem beginsInCalendar_year (d : Date) : year.BeginsInCalendar d := by
  have hstart := d.firstNumber_le_yearStart
  have hnumber := d.number_eq
  rw [BeginsInCalendar, offset]
  omega

theorem beginsInCalendar_month (d : Date) : month.BeginsInCalendar d := by
  have hstart := d.firstNumber_le_yearStart
  have hnumber := d.number_eq_month
  have hone : 1 ≤ d.day := Nat.le_add_left 1 _
  rw [BeginsInCalendar, offset]
  omega

/-- Buckets of days that are six days behind the first date begin in the calendar. -/
theorem beginsInCalendar_of_le (hd : Date.first.addDays 6 ≤ d) : g.BeginsInCalendar d := by
  have hfirst : firstNumber + 6 ≤ d.number := hd
  cases g with
  | day =>
      rw [BeginsInCalendar, offset]
      omega
  | sundayWeek =>
      rw [BeginsInCalendar, offset, Date.daysSinceSunday]
      omega
  | mondayWeek =>
      rw [BeginsInCalendar, offset, Date.daysSinceMonday]
      omega
  | month => exact beginsInCalendar_month d
  | year => exact beginsInCalendar_year d

/-- **The days of a bucket** that begins in the calendar are those between its ends. -/
theorem sharesBucket_iff_between (hd : g.BeginsInCalendar d) :
    g.SharesBucket x d ↔ g.bucketStart d ≤ x ∧ x ≤ g.bucketEnd d := by
  have hlast := d.le_last
  have hmonth := d.number_eq_month
  have hyear := d.number_eq
  cases g with
  | day =>
      rw [SharesBucket, bucketStart, bucketEnd, Date.le_def, Date.le_def]
      exact ⟨fun h => h ▸ ⟨Int.le_refl _, Int.le_refl _⟩,
        fun h => Date.ext (Int.le_antisymm h.2 h.1)⟩
  | sundayWeek =>
      have hstart := number_bucketStart hd
      rw [BeginsInCalendar] at hd
      rw [offset, Date.daysSinceSunday] at hd hstart
      rw [SharesBucket, bucketEnd, Date.addDays, Date.le_clamp_iff (by omega), Date.le_def, hstart]
      omega
  | mondayWeek =>
      have hstart := number_bucketStart hd
      rw [BeginsInCalendar] at hd
      rw [offset, Date.daysSinceMonday] at hd hstart
      rw [SharesBucket, bucketEnd, Date.addDays, Date.le_clamp_iff (by omega), Date.le_def, hstart]
      omega
  | month =>
      have hday := d.day_le_monthLength
      have hone : 1 ≤ d.day := Nat.le_add_left 1 _
      have hlength : monthLength (isLeap d.year) d.month =
          monthStart (isLeap d.year) (d.month + 1) - monthStart (isLeap d.year) d.month := rfl
      obtain ⟨h1, h12⟩ := d.month_bounds
      have hfirst := d.first_le
      show x.year = d.year ∧ x.month = d.month ↔
        Date.clamp (d.number + (1 - (d.day : Int))) ≤ x ∧
          x ≤ Date.clamp (d.number + ((monthLength (isLeap d.year) d.month : Int) - d.day))
      rw [Date.month_eq_iff h1 h12, Date.clamp_le_iff (by omega), Date.le_clamp_iff (by omega)]
      omega
  | year =>
      have hord := d.ordinal_lt
      have hnext := yearStart_add_one d.year
      have hfirst := d.first_le
      show x.year = d.year ↔ Date.clamp (d.number + -(d.ordinal : Int)) ≤ x ∧
          x ≤ Date.clamp (d.number + ((yearLength d.year : Int) - 1 - d.ordinal))
      rw [Date.year_eq_iff, Date.clamp_le_iff (by omega), Date.le_clamp_iff (by omega)]
      omega

/-- The days of a bucket are those between its ends, at least six days behind the first date. -/
theorem sharesBucket_iff (hd : Date.first.addDays 6 ≤ d) :
    g.SharesBucket x d ↔ g.bucketStart d ≤ x ∧ x ≤ g.bucketEnd d :=
  sharesBucket_iff_between (beginsInCalendar_of_le hd)

end Granularity

end Cashbook
