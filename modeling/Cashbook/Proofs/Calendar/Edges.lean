import Cashbook.Proofs.Calendar.Partition

/-!
# Buckets at the edges of the calendar

The ends of a bucket are found by moving back and forth from one of its days, and a move that would
leave the calendar stops at its first or last date.  This module says what the ends are worth there,
for every date and without leaving out the weeks that are cut off.

The start of a bucket bears being clamped.  It is always the first of the days that share the bucket
(`Granularity.isLeast_bucketStart`), and it still tells one bucket from another
(`Granularity.sharesBucket_iff_bucketStart_eq`).  The end bears it at the last date
(`Granularity.isGreatest_bucketEnd`).  But the end of a week is found by two moves, first to its
start and then six days on, and where the first one is cut short the second goes too far.

`Granularity.firstStart` is the first day on which a bucket begins.  The days before it are those of
the weeks that the first date cuts off, and for them, and for them alone, the computed end lies in
the bucket after their own (`Granularity.clamped_ends_in_bucket`).
-/

namespace Cashbook

open Calendar

/-- The first date there is is a Thursday. -/
theorem Calendar.firstNumber_mod_seven : firstNumber % 7 = 3 := by decide

namespace Granularity

variable {g : Granularity} {d x : Date}

/-- The first day on which a bucket begins.  Months and years begin where the calendar does, weeks
on its first Sunday or Monday. -/
def firstStart : Granularity → Date
  | sundayWeek => Date.first.addDays 3
  | mondayWeek => Date.first.addDays 4
  | day | month | year => Date.first

/-! ### The weeks that the first date cuts off -/

/-- Only weeks have days before the first day on which one begins. -/
theorem lt_firstStart_iff :
    d < g.firstStart ↔
      (g = sundayWeek ∧ d.number < firstNumber + 3) ∨
        (g = mondayWeek ∧ d.number < firstNumber + 4) := by
  have hfirst := d.first_le
  have hsunday : sundayWeek.firstStart.number = firstNumber + 3 := by decide
  have hmonday : mondayWeek.firstStart.number = firstNumber + 4 := by decide
  rw [Date.lt_def]
  cases g with
  | sundayWeek => simp [hsunday]
  | mondayWeek => simp [hmonday]
  | day | month | year =>
      have hnot : ¬ d.number < Date.first.number := Int.not_lt.2 hfirst
      simp [firstStart, hnot]

/-- The buckets that begin in the calendar are those of the days from the first such bucket on. -/
theorem beginsInCalendar_iff : g.BeginsInCalendar d ↔ g.firstStart ≤ d := by
  have hfirst := d.first_le
  have hthursday := firstNumber_mod_seven
  rw [← not_iff_not, Date.not_le, lt_firstStart_iff]
  cases g with
  | day => simp [BeginsInCalendar, offset, hfirst]
  | sundayWeek =>
      simp only [BeginsInCalendar, offset, Date.daysSinceSunday, reduceCtorEq, true_and, false_and,
        or_false]
      omega
  | mondayWeek =>
      simp only [BeginsInCalendar, offset, Date.daysSinceMonday, reduceCtorEq, true_and, false_and,
        false_or]
      omega
  | month => simp [beginsInCalendar_month d]
  | year => simp [beginsInCalendar_year d]

/-- Moving back to the start of a week that is cut off stops at the first date. -/
theorem bucketStart_of_lt_firstStart (hd : d < g.firstStart) : g.bucketStart d = Date.first := by
  have hfirst := d.first_le
  have hthursday := firstNumber_mod_seven
  refine Date.ext ?_
  rw [bucketStart_eq, Date.number_addDays_neg]
  show max firstNumber (d.number - g.offset d) = firstNumber
  rcases lt_firstStart_iff.1 hd with ⟨rfl, hlt⟩ | ⟨rfl, hlt⟩
  · rw [offset, Date.daysSinceSunday]
    omega
  · rw [offset, Date.daysSinceMonday]
    omega

/-- The computed end of a week that is cut off lies six days behind the first date, as if the week
began there. -/
theorem bucketEnd_of_lt_firstStart (hd : d < g.firstStart) :
    g.bucketEnd d = Date.first.addDays 6 := by
  have hstart := bucketStart_of_lt_firstStart hd
  rcases lt_firstStart_iff.1 hd with ⟨rfl, -⟩ | ⟨rfl, -⟩
  · exact congrArg (Date.addDays · 6) hstart
  · exact congrArg (Date.addDays · 6) hstart

/-- The computed end of a week that is cut off lies in the first week that is not. -/
theorem bucketStart_bucketEnd_of_lt_firstStart (hd : d < g.firstStart) :
    g.bucketStart (g.bucketEnd d) = g.firstStart := by
  rw [bucketEnd_of_lt_firstStart hd]
  rcases lt_firstStart_iff.1 hd with ⟨rfl, -⟩ | ⟨rfl, -⟩
  · decide
  · decide

/-- The days of a week that is cut off are those before the first week that is not. -/
theorem sharesBucket_iff_lt_firstStart (hd : d < g.firstStart) :
    g.SharesBucket x d ↔ x < g.firstStart := by
  have hfirst := d.first_le
  have hfirst' := x.first_le
  have hthursday := firstNumber_mod_seven
  rcases lt_firstStart_iff.1 hd with ⟨rfl, hlt⟩ | ⟨rfl, hlt⟩
  · simp only [SharesBucket, lt_firstStart_iff, reduceCtorEq, true_and, false_and, or_false]
    omega
  · simp only [SharesBucket, lt_firstStart_iff, reduceCtorEq, true_and, false_and, false_or]
    omega

/-- No bucket begins before `firstStart`, and one begins there. -/
theorem isLeast_firstStart (g : Granularity) :
    IsLeast {x | g.isFirstDay x = true} g.firstStart := by
  have hbegins : g.isFirstDay g.firstStart = true := by cases g <;> decide
  refine ⟨hbegins, fun x hx => ?_⟩
  by_contra hle
  have hlt := Date.not_le.1 hle
  -- the only day before it that could be the first one of its bucket is the first date
  have hdate : x = Date.first := (bucketStart_of_isFirstDay hx).symm.trans
    (bucketStart_of_lt_firstStart hlt)
  subst hdate
  rcases lt_firstStart_iff.1 hlt with ⟨rfl, -⟩ | ⟨rfl, -⟩
  · exact absurd hx (by decide)
  · exact absurd hx (by decide)

/-! ### The computed ends of any bucket -/

/-- The computed starts tell buckets apart, also where they are clamped. -/
theorem sharesBucket_iff_bucketStart_eq :
    g.SharesBucket x d ↔ g.bucketStart x = g.bucketStart d := by
  rcases Int.lt_or_le d.number g.firstStart.number with hd | hd
  · rw [sharesBucket_iff_lt_firstStart hd, bucketStart_of_lt_firstStart hd]
    refine ⟨bucketStart_of_lt_firstStart, fun hx => ?_⟩
    by_contra hlt
    -- a later day would be entered no earlier than the first bucket that begins in the calendar
    have hmono := bucketStart_mono (g := g) (Int.not_lt.1 hlt)
    rw [hx, bucketStart_of_isFirstDay g.isLeast_firstStart.1] at hmono
    exact Date.not_le.2 hd (Int.le_trans hmono d.first_le)
  · exact (bucketStart_eq_iff_sharesBucket (beginsInCalendar_iff.2 hd)).symm

/-- The computed start of a bucket is the first of its days. -/
theorem isLeast_bucketStart (g : Granularity) (d : Date) :
    IsLeast {x | g.SharesBucket x d} (g.bucketStart d) := by
  constructor
  · exact sharesBucket_iff_bucketStart_eq.2 (g.bucketStart_bucketStart d)
  · intro x hx
    rw [← sharesBucket_iff_bucketStart_eq.1 hx]
    exact g.bucketStart_le x

/-- The computed end of a bucket that begins in the calendar is the last of its days, also where the
calendar ends before it. -/
theorem isGreatest_bucketEnd (hd : g.firstStart ≤ d) :
    IsGreatest {x | g.SharesBucket x d} (g.bucketEnd d) := by
  have hbegins := beginsInCalendar_iff.2 hd
  constructor
  · exact sharesBucket_iff_bucketStart_eq.2 (bucketStart_bucketEnd hbegins)
  · exact fun x hx => ((sharesBucket_iff_between hbegins).1 hx).2

/-- The week of the last date has fewer than seven days, and its computed end is that date. -/
example : mondayWeek.bucketEnd Date.last = Date.last ∧
    Date.last.number < (mondayWeek.bucketStart Date.last).number + 6 := by decide

/-- The computed end of a bucket lies in it exactly if the bucket begins in the calendar. -/
theorem sharesBucket_bucketEnd_iff : g.SharesBucket (g.bucketEnd d) d ↔ g.firstStart ≤ d := by
  refine ⟨fun h => ?_, fun hd => (isGreatest_bucketEnd hd).1⟩
  by_contra hlt
  have hd := Date.not_le.1 hlt
  rw [sharesBucket_iff_bucketStart_eq, bucketStart_bucketEnd_of_lt_firstStart hd,
    bucketStart_of_lt_firstStart hd] at h
  rw [h] at hd
  exact Date.not_le.2 hd d.first_le

/-- **The clamped ends of a bucket.**  Every date lies between the computed ends of its bucket.  The
computed start is the first day of the bucket, and two dates have the same one exactly if they share
a bucket.  The computed end is the last day of the bucket, and lies in it at all, exactly if the
bucket begins in the calendar; otherwise it is six days behind the first date, in the bucket that
begins behind the last day of its own. -/
theorem clamped_ends_in_bucket (g : Granularity) (d : Date) :
    (g.bucketStart d ≤ d ∧ d ≤ g.bucketEnd d) ∧
      g.bucketStart (g.bucketStart d) = g.bucketStart d ∧
      (∀ x, g.bucketStart x = g.bucketStart d ↔ g.SharesBucket x d) ∧
      IsLeast {x | g.SharesBucket x d} (g.bucketStart d) ∧
      (g.bucketStart (g.bucketEnd d) = g.bucketStart d ↔ g.firstStart ≤ d) ∧
      (IsGreatest {x | g.SharesBucket x d} (g.bucketEnd d) ↔ g.firstStart ≤ d) ∧
      (d < g.firstStart →
        g.bucketEnd d = Date.first.addDays 6 ∧
          ∀ x, g.SharesBucket x d ↔ x < g.bucketStart (g.bucketEnd d)) ∧
      (d < g.firstStart ↔
        (g = sundayWeek ∧ d < Date.first.addDays 3) ∨
          (g = mondayWeek ∧ d < Date.first.addDays 4)) := by
  refine ⟨⟨g.bucketStart_le d, g.le_bucketEnd d⟩, g.bucketStart_bucketStart d,
    fun x => sharesBucket_iff_bucketStart_eq.symm, g.isLeast_bucketStart d, ?_, ?_, fun hd => ?_,
    lt_firstStart_iff⟩
  · rw [← sharesBucket_iff_bucketStart_eq, sharesBucket_bucketEnd_iff]
  · exact ⟨fun h => sharesBucket_bucketEnd_iff.1 h.1, isGreatest_bucketEnd⟩
  · refine ⟨bucketEnd_of_lt_firstStart hd, fun x => ?_⟩
    rw [bucketStart_bucketEnd_of_lt_firstStart hd]
    exact sharesBucket_iff_lt_firstStart hd

/-- Both computed ends need not lie in the bucket: the week of the first date, a Thursday, has its
Sunday three days later, and its computed end is the Wednesday after that. -/
theorem not_both_ends_in_bucket :
    ¬ ∀ (g : Granularity) (d : Date),
      (g.bucketStart d ≤ d ∧ d ≤ g.bucketEnd d) ∧
        g.bucketStart (g.bucketStart d) = g.bucketStart d ∧
        g.bucketStart d = g.bucketStart (g.bucketEnd d) := by
  intro h
  have hend := (h mondayWeek Date.first).2.2
  exact absurd hend (by decide)

end Granularity

end Cashbook
