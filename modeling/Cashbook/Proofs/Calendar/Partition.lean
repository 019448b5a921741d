import Mathlib.Data.Set.Card
import Mathlib.Order.Bounds.Basic
import Cashbook.Proofs.Calendar.Sharing

/-!
# Buckets partition the calendar

Three functions tell of a bucket: whether it begins on a day, where it begins, and where it ends.
None of them is computed from the others, and `Granularity.buckets_partition_calendar` says that
they fit together.  A day lies between the ends of its bucket, the days between these ends are those
that have the same bucket, and the bucket begins on its first day and nowhere else; behind its last
day another one begins.

What it means for two days to have the same bucket is `Granularity.SharesBucket`
(`bucketStart_eq_iff_sharesBucket`), so that a month is what has the same year and month, with the
last of its days at its end whatever its length (`Date.isGreatest_lastOfMonth`).

A week that is cut off by an end of the calendar is no bucket in this sense.  `Date.HasWholeWeeks`
leaves out the days of such weeks; months and years are never cut off.
-/

namespace Cashbook

open Calendar

/-- Whether both weeks of `d`, the one that begins on Sunday and the one that begins on Monday, lie
in the calendar with all their days. -/
def Date.HasWholeWeeks (d : Date) : Prop :=
  (firstNumber ≤ d.number - d.daysSinceSunday ∧ d.number - d.daysSinceSunday + 6 ≤ lastNumber) ∧
    firstNumber ≤ d.number - d.daysSinceMonday ∧ d.number - d.daysSinceMonday + 6 ≤ lastNumber

namespace Granularity

variable {g : Granularity} {d x : Date}

theorem beginsInCalendar_of_hasWholeWeeks (hd : d.HasWholeWeeks) : g.BeginsInCalendar d := by
  obtain ⟨⟨hsunday, -⟩, hmonday, -⟩ := hd
  cases g with
  | day => exact Int.le_trans hsunday (by rw [offset]; omega)
  | sundayWeek => exact hsunday
  | mondayWeek => exact hmonday
  | month => exact beginsInCalendar_month d
  | year => exact beginsInCalendar_year d

/-! ### Days with the same bucket -/

/-- Two days have the same bucket if they share one in the calendar. -/
theorem bucketStart_eq_of_sharesBucket (hd : g.BeginsInCalendar d) (h : g.SharesBucket x d) :
    g.bucketStart x = g.bucketStart d := by
  refine Date.ext ?_
  have hstart := number_bucketStart hd
  rw [BeginsInCalendar] at hd
  cases g with
  | day => exact congrArg Date.number h
  | sundayWeek =>
      rw [SharesBucket] at h
      rw [offset, Date.daysSinceSunday] at hd hstart
      rw [hstart, bucketStart_eq, Date.number_addDays_neg, offset, Date.daysSinceSunday]
      omega
  | mondayWeek =>
      rw [SharesBucket] at h
      rw [offset, Date.daysSinceMonday] at hd hstart
      rw [hstart, bucketStart_eq, Date.number_addDays_neg, offset, Date.daysSinceMonday]
      omega
  | month =>
      obtain ⟨hyear, hmonth⟩ := h
      have hx := x.number_eq_month
      have hnumber := d.number_eq_month
      rw [hyear, hmonth] at hx
      have hone : 1 ≤ d.day := Nat.le_add_left 1 _
      have hone' : 1 ≤ x.day := Nat.le_add_left 1 _
      rw [hstart, number_bucketStart (beginsInCalendar_month x), offset, offset]
      omega
  | year =>
      have hx := x.number_eq
      have hnumber := d.number_eq
      rw [show x.year = d.year from h] at hx
      rw [hstart, number_bucketStart (beginsInCalendar_year x), offset, offset]
      omega

/-- **The days with the same bucket** are those between its ends. -/
theorem bucketStart_eq_iff_between (hd : g.BeginsInCalendar d) :
    g.bucketStart x = g.bucketStart d ↔ g.bucketStart d ≤ x ∧ x ≤ g.bucketEnd d := by
  constructor
  · intro h
    exact ⟨h ▸ g.bucketStart_le x, le_bucketEnd_of_bucketStart_eq h⟩
  · intro h
    exact bucketStart_eq_of_sharesBucket hd ((sharesBucket_iff_between hd).2 h)

/-- Having the same bucket is sharing one in the calendar. -/
theorem bucketStart_eq_iff_sharesBucket (hd : g.BeginsInCalendar d) :
    g.bucketStart x = g.bucketStart d ↔ g.SharesBucket x d := by
  rw [bucketStart_eq_iff_between hd, sharesBucket_iff_between hd]

/-! ### The ends of a bucket -/

/-- The last day of a bucket lies in it. -/
theorem bucketStart_bucketEnd (hd : g.BeginsInCalendar d) :
    g.bucketStart (g.bucketEnd d) = g.bucketStart d :=
  (bucketStart_eq_iff_between hd).2
    ⟨Int.le_trans (g.bucketStart_le d) (g.le_bucketEnd d), Int.le_refl _⟩

/-- Behind the last day of a bucket another one begins. -/
theorem isFirstDay_of_isNext_bucketEnd (hd : g.BeginsInCalendar d)
    (hx : Date.IsNext (g.bucketEnd d) x) : g.isFirstDay x = true := by
  rw [isFirstDay_next_iff hx, bucketStart_bucketEnd hd]
  intro h
  exact Date.not_le.2 hx.lt (le_bucketEnd_of_bucketStart_eq h)

/-- A bucket has as many days as lie between its ends. -/
theorem ncard_bucket (hd : g.BeginsInCalendar d) :
    {x | g.bucketStart x = g.bucketStart d}.ncard =
      ((g.bucketEnd d).number + 1 - (g.bucketStart d).number).toNat := by
  have hdays : {x | g.bucketStart x = g.bucketStart d} =
      (Date.upTo (g.bucketStart d) (g.bucketEnd d)).toFinset := by
    ext x
    simp only [Set.mem_ofPred_eq, bucketStart_eq_iff_between hd, List.coe_toFinset, Date.mem_upTo]
  have hpair := Date.pairwise_of_isChain (Date.isChain_upTo (g.bucketStart d) (g.bucketEnd d))
  have hnodup : (Date.upTo (g.bucketStart d) (g.bucketEnd d)).Nodup := by
    refine hpair.imp ?_
    rintro x y hlt rfl
    exact Date.lt_irrefl x hlt
  rw [hdays, Set.ncard_coe_finset, List.toFinset_card_of_nodup hnodup, Date.upTo, Date.run,
    List.length_map, List.length_range]

/-- A whole week has seven days. -/
theorem ncard_week (hd : d.HasWholeWeeks) (hg : g = sundayWeek ∨ g = mondayWeek) :
    {x | g.bucketStart x = g.bucketStart d}.ncard = 7 := by
  have hbegins : g.BeginsInCalendar d := beginsInCalendar_of_hasWholeWeeks hd
  have hstart := number_bucketStart hbegins
  have hend : (g.bucketEnd d).number = (g.bucketStart d).number + 6 := by
    obtain ⟨⟨-, hsunday⟩, -, hmonday⟩ := hd
    rcases hg with rfl | rfl
    · exact Date.number_addDays_of_le (n := 6) (hstart ▸ hsunday)
    · exact Date.number_addDays_of_le (n := 6) (hstart ▸ hmonday)
  rw [ncard_bucket hbegins, hend]
  omega

end Granularity

/-- The last day of a month is the last of the days with its year and month. -/
theorem Date.isGreatest_lastOfMonth (d : Date) :
    IsGreatest {x | x.year = d.year ∧ x.month = d.month} d.lastOfMonth := by
  have hbegins := Granularity.beginsInCalendar_month d
  have hmem (x : Date) : x.year = d.year ∧ x.month = d.month ↔
      Granularity.month.bucketStart d ≤ x ∧ x ≤ d.lastOfMonth :=
    Granularity.sharesBucket_iff_between hbegins
  constructor
  · refine (hmem d.lastOfMonth).2 ⟨?_, Int.le_refl _⟩
    exact Int.le_trans (Granularity.month.bucketStart_le d) (Granularity.month.le_bucketEnd d)
  · exact fun x hx => ((hmem x).1 hx).2

namespace Granularity

/-- **Buckets partition the calendar.**  A day whose weeks are whole lies between the ends of its
bucket, and the days between them are those with the same bucket.  The bucket begins on its first
day alone, and behind its last day another one begins, unless the calendar ends there.  A week has
seven days; months and years are what their numbers say, also where the calendar ends, and the last
day of a month is the last one with its year and month. -/
theorem buckets_partition_calendar {d : Date} (hd : d.HasWholeWeeks) (g : Granularity) :
    (g.bucketStart d ≤ d ∧ d ≤ g.bucketEnd d) ∧
      (∀ x, g.bucketStart x = g.bucketStart d ↔ g.bucketStart d ≤ x ∧ x ≤ g.bucketEnd d) ∧
      (g.isFirstDay d = true ↔ d = g.bucketStart d) ∧
      (∀ x, Date.IsNext (g.bucketEnd d) x → g.isFirstDay x = true) ∧
      (g = sundayWeek ∨ g = mondayWeek →
        {x | g.bucketStart x = g.bucketStart d}.ncard = 7) ∧
      (∀ x y : Date, month.bucketStart x = month.bucketStart y ↔
        x.year = y.year ∧ x.month = y.month) ∧
      (∀ x y : Date, year.bucketStart x = year.bucketStart y ↔ x.year = y.year) ∧
      ∀ x : Date, IsGreatest {y | y.year = x.year ∧ y.month = x.month} x.lastOfMonth := by
  have hbegins : g.BeginsInCalendar d := beginsInCalendar_of_hasWholeWeeks hd
  have hfirst : Date.first < d := by
    obtain ⟨⟨hsunday, -⟩, hmonday, -⟩ := hd
    rw [Date.daysSinceSunday] at hsunday
    rw [Date.daysSinceMonday] at hmonday
    show firstNumber < d.number
    omega
  refine ⟨⟨g.bucketStart_le d, g.le_bucketEnd d⟩, fun x => bucketStart_eq_iff_between hbegins,
    isFirstDay_iff_eq_bucketStart hfirst, fun x => isFirstDay_of_isNext_bucketEnd hbegins,
    ncard_week hd, fun x y => ?_, fun x y => ?_, Date.isGreatest_lastOfMonth⟩
  · exact bucketStart_eq_iff_sharesBucket (beginsInCalendar_month y)
  · exact bucketStart_eq_iff_sharesBucket (beginsInCalendar_year y)

/-- The twenty-ninth of February 2024, a Thursday: it ends its month, and the Sunday before it
begins its week. -/
theorem buckets_partition_calendar_of_leap_day :
    let d : Date := .clamp 738944
    let sunday : Date := .clamp 738940
    d.HasWholeWeeks ∧ sundayWeek.bucketStart sunday = sundayWeek.bucketStart d ∧
      {x | sundayWeek.bucketStart x = sundayWeek.bucketStart d}.ncard = 7 ∧
      IsGreatest {x : Date | x.year = 2024 ∧ x.month = 2} d := by
  intro d sunday
  have hd : d.HasWholeWeeks := by
    unfold Date.HasWholeWeeks
    decide
  obtain ⟨-, hweek, -, -, hseven, -, -, hmonth⟩ := buckets_partition_calendar hd sundayWeek
  have hdate : d.year = 2024 ∧ d.month = 2 ∧ d.lastOfMonth = d := by decide
  have hlast := hmonth d
  rw [hdate.1, hdate.2.1, hdate.2.2] at hlast
  exact ⟨hd, (hweek sunday).2 (by decide), hseven (.inl rfl), hlast⟩

end Granularity

end Cashbook
