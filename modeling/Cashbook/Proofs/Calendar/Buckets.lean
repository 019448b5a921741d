import Cashbook.Calendar.Granularity
import Cashbook.Proofs.Calendar.Days

/-!
# The buckets of the calendar

A bucket is a stretch of consecutive days.  What makes it one is how far a day lies into its bucket:
`Granularity.offset` counts the days since the bucket began, and from one day to the next it either
goes up by one or starts again at zero (`Granularity.offset_next`).  The weekday, the day of the
month and the day of the year all do this, each for a reason of its own; everything else here
follows from it, for all granularities at once.

* `Granularity.bucketStart_next` — the bucket of the next day is a new one or the same one.
* `Granularity.bucketStart_of_between` — a day between the first day of a bucket and another day of
  it lies in it too.
* `Granularity.le_bucketEnd` — no day of a bucket comes after its end.
-/

namespace Cashbook

namespace Calendar

/-! ### The year of a day -/

/-- Years begin one after the other. -/
theorem yearStart_mono {y z : Int} (h : y ≤ z) : yearStart y ≤ yearStart z := by
  unfold yearStart
  omega

/-- A day lies in the year whose first day is not after it and whose last day is not before it. -/
theorem yearOf_eq {n y : Int} (h : yearStart y ≤ n) (h' : n < yearStart (y + 1)) :
    yearOf n = y := by
  have hlo := yearStart_yearOf_le n
  have hhi := lt_yearStart_yearOf_add_one n
  rcases Int.lt_trichotomy (yearOf n) y with hlt | heq | hgt
  · have := yearStart_mono (show yearOf n + 1 ≤ y by omega)
    omega
  · exact heq
  · have := yearStart_mono (show y + 1 ≤ yearOf n by omega)
    omega

/-! ### The day of a month -/

/-- The months of a year follow in the order of its days. -/
theorem monthOf_mono (leap : Bool) {m n : Nat} (h : m ≤ n) : monthOf leap m ≤ monthOf leap n :=
  List.countP_mono_left fun _ _ hx =>
    decide_eq_true (Nat.le_trans (of_decide_eq_true hx) h)

theorem monthOf_bounds (leap : Bool) (n : Nat) : 1 ≤ monthOf leap n ∧ monthOf leap n ≤ 12 := by
  constructor
  · have hfirst : 1 ≤ monthOf leap 0 := by cases leap <;> decide
    exact hfirst.trans (monthOf_mono leap (Nat.zero_le n))
  · have hlength : (monthStarts leap).length = 12 := by cases leap <;> decide
    exact hlength ▸ List.countP_le_length

/-- A month begins no later than a day exactly if the day lies in it or in a later one. -/
theorem monthStart_le_iff (leap : Bool) {m n : Nat} (h : 1 ≤ m) (h' : m ≤ 12) :
    monthStart leap m ≤ n ↔ m ≤ monthOf leap n := by
  have hstart : monthOf leap (monthStart leap m) = m := by
    revert m
    cases leap <;> decide
  -- the day before a month lies in the month before it
  have hbefore : m = 1 ∧ monthStart leap m = 0 ∨ monthOf leap (monthStart leap m - 1) < m := by
    revert m
    cases leap <;> decide
  constructor
  · intro hle
    exact hstart ▸ monthOf_mono leap hle
  · intro hle
    by_contra hlt
    rcases hbefore with ⟨-, hzero⟩ | hbefore
    · omega
    · have := monthOf_mono leap (show n ≤ monthStart leap m - 1 by omega)
      omega

/-- The month of a day begins no later than the day. -/
theorem monthStart_monthOf_le (leap : Bool) (n : Nat) : monthStart leap (monthOf leap n) ≤ n := by
  obtain ⟨h1, h12⟩ := monthOf_bounds leap n
  exact (monthStart_le_iff leap h1 h12).2 (Nat.le_refl _)

/-- The month after that of a day of a year begins later than the day, or the year ends before
it. -/
theorem lt_monthStart_monthOf_add_one (leap : Bool) {n : Nat} (h : n < monthStart leap 13) :
    n < monthStart leap (monthOf leap n + 1) := by
  obtain ⟨h1, h12⟩ := monthOf_bounds leap n
  rcases Nat.lt_or_eq_of_le h12 with hlt | heq
  · refine Nat.not_le.1 fun hle => ?_
    have := (monthStart_le_iff leap (show 1 ≤ monthOf leap n + 1 by omega) hlt).1 hle
    omega
  · rwa [heq]

/-- A day of a year lies in the month that begins no later than it, if the next month begins
later. -/
theorem monthOf_eq_iff (leap : Bool) {m n : Nat} (h1 : 1 ≤ m) (h12 : m ≤ 12)
    (hn : n < monthStart leap 13) :
    monthOf leap n = m ↔ monthStart leap m ≤ n ∧ n < monthStart leap (m + 1) := by
  constructor
  · rintro rfl
    exact ⟨monthStart_monthOf_le leap n, lt_monthStart_monthOf_add_one leap hn⟩
  · rintro ⟨hle, hlt⟩
    have hm := (monthStart_le_iff leap h1 h12).1 hle
    rcases Nat.lt_or_eq_of_le h12 with hmore | rfl
    · have := mt (monthStart_le_iff leap (show 1 ≤ m + 1 by omega) hmore).2 (Nat.not_le.2 hlt)
      omega
    · have := (monthOf_bounds leap n).2
      omega

/-- The months of a year make up all of it. -/
theorem yearLength_eq_monthStart (y : Int) : yearLength y = monthStart (isLeap y) 13 := by
  rw [yearLength]
  cases isLeap y <;> rfl

/-- No month goes on behind the end of its year. -/
theorem monthStart_le (leap : Bool) {m : Nat} (h : m ≤ 13) :
    monthStart leap m ≤ monthStart leap 13 := by
  revert m
  cases leap <;> decide

/-- From one day of a year to the next, the day of the month goes up by one and the month stays, or
the day of the month is the first. -/
theorem dayOf_succ (leap : Bool) (n : Nat) :
    dayOf leap (n + 1) = 1 ∨
      (dayOf leap (n + 1) = dayOf leap n + 1 ∧ monthOf leap (n + 1) = monthOf leap n) := by
  have hle := monthStart_monthOf_le leap n
  rcases Nat.lt_or_eq_of_le (monthOf_mono leap (Nat.le_succ n)) with hlt | heq
  · -- the month of the next day begins there
    obtain ⟨h1, h12⟩ := monthOf_bounds leap (n + 1)
    have hnot := mt (monthStart_le_iff leap h1 h12).1 (Nat.not_le.2 hlt)
    refine .inl ?_
    rw [dayOf]
    omega
  · refine .inr ⟨?_, heq.symm⟩
    rw [dayOf, dayOf, ← heq]
    omega

/-- No day of a year comes after the last day of its month. -/
theorem dayOf_le_monthLength (leap : Bool) {n : Nat} (h : n < monthStart leap 13) :
    dayOf leap n ≤ monthLength leap (monthOf leap n) := by
  have hle := monthStart_monthOf_le leap n
  have hlt := lt_monthStart_monthOf_add_one leap h
  rw [dayOf, monthLength]
  omega

end Calendar

open Calendar

namespace Date

/-! ### The place of a day in its year -/

variable {d e : Date}

/-- The number of a date is that of its place in its year. -/
theorem number_eq (d : Date) : d.number = yearStart d.year + d.ordinal := by
  have h := yearStart_yearOf_le d.number
  unfold ordinal ordinalIn year
  omega

/-- A date is not one of more days of its year than there are. -/
theorem ordinal_lt (d : Date) : d.ordinal < yearLength d.year := by
  have h := lt_yearStart_yearOf_add_one d.number
  rw [yearStart_add_one] at h
  have hd := d.number_eq
  unfold year at *
  omega

/-- The next day is one more day of the same year, or the first one of a year. -/
theorem year_next (h : IsNext d e) :
    (e.year = d.year ∧ e.ordinal = d.ordinal + 1) ∨ e.ordinal = 0 := by
  rw [IsNext] at h
  have hd := d.number_eq
  have hlt := lt_yearStart_yearOf_add_one d.number
  have hle : e.number ≤ yearStart (d.year + 1) := by unfold year; omega
  rcases Int.lt_or_eq_of_le hle with hlt' | heq
  · have hyear : e.year = d.year := yearOf_eq (by omega) hlt'
    have he := e.number_eq
    rw [hyear] at he
    exact .inl ⟨hyear, by omega⟩
  · have hyear : e.year = d.year + 1 := by
      have := yearStart_add_one (d.year + 1)
      have hpos : 0 < yearLength (d.year + 1) := by unfold yearLength; split <;> decide
      exact yearOf_eq (by omega) (by omega)
    have he := e.number_eq
    rw [hyear] at he
    exact .inr (by omega)

/-- The next day is one more day of the same month, or the first one of a month. -/
theorem day_next (h : IsNext d e) :
    (e.day = d.day + 1 ∧ e.year = d.year ∧ e.month = d.month) ∨ e.day = 1 := by
  rcases year_next h with ⟨hyear, hord⟩ | hord
  · have hday : e.day = dayOf (isLeap d.year) (d.ordinal + 1) := by rw [← hyear, ← hord]; rfl
    have hmonth : e.month = monthOf (isLeap d.year) (d.ordinal + 1) := by rw [← hyear, ← hord]; rfl
    rcases dayOf_succ (isLeap d.year) d.ordinal with h1 | ⟨h1, h2⟩
    · exact .inr (hday.trans h1)
    · exact .inl ⟨hday.trans h1, hyear, hmonth.trans h2⟩
  · have hday : e.day = dayOf (isLeap e.year) e.ordinal := rfl
    rw [hord] at hday
    exact .inr (hday.trans (by cases isLeap e.year <;> decide))

/-- A date is not one of more days of its year than its months have. -/
theorem ordinal_lt_monthStart (d : Date) : d.ordinal < monthStart (isLeap d.year) 13 :=
  yearLength_eq_monthStart d.year ▸ d.ordinal_lt

/-- No day comes after the last day of its month. -/
theorem day_le_monthLength (d : Date) : d.day ≤ monthLength (isLeap d.year) d.month :=
  dayOf_le_monthLength _ d.ordinal_lt_monthStart

end Date

namespace Granularity

variable {g : Granularity} {d e x : Date}

/-! ### How far a day lies into its bucket -/

/-- How many days of its bucket come before `d`. -/
def offset (g : Granularity) (d : Date) : Nat :=
  match g with
  | day => 0
  | sundayWeek => d.daysSinceSunday
  | mondayWeek => d.daysSinceMonday
  | month => d.day - 1
  | year => d.ordinal

/-- A bucket begins as many days before a day as the day lies into it. -/
theorem bucketStart_eq (g : Granularity) (d : Date) :
    g.bucketStart d = d.addDays (-(g.offset d : Int)) := by
  cases g with
  | day => exact (d.addDays_zero).symm
  | sundayWeek => rfl
  | mondayWeek => rfl
  | month =>
      show d.addDays (1 - (d.day : Int)) = d.addDays (-((d.day - 1 : Nat) : Int))
      have hday : 1 ≤ d.day := Nat.le_add_left 1 _
      rw [Int.ofNat_sub hday]
      congr 1
      omega
  | year => rfl

/-- A bucket begins on a day when the day does not lie into it. -/
theorem isFirstDay_iff : g.isFirstDay d = true ↔ g.offset d = 0 := by
  cases g with
  | day => simp [isFirstDay, offset]
  | sundayWeek => simp [isFirstDay, offset]
  | mondayWeek => simp [isFirstDay, offset]
  | month =>
      have hday : 1 ≤ d.day := Nat.le_add_left 1 _
      simp only [isFirstDay, offset, decide_eq_true_eq]
      omega
  | year => simp [isFirstDay, offset]

/-- The next day begins a bucket, or lies one day further into the same one. -/
theorem offset_next (h : Date.IsNext d e) : g.offset e = 0 ∨ g.offset e = g.offset d + 1 := by
  cases g with
  | day => exact .inl rfl
  | sundayWeek =>
      rw [Date.IsNext] at h
      simp only [offset, Date.daysSinceSunday]
      omega
  | mondayWeek =>
      rw [Date.IsNext] at h
      simp only [offset, Date.daysSinceMonday]
      omega
  | month =>
      have hday : 1 ≤ d.day := Nat.le_add_left 1 _
      simp only [offset]
      rcases Date.day_next h with ⟨h1, -, -⟩ | h1 <;> omega
  | year =>
      simp only [offset]
      rcases Date.year_next h with ⟨-, h1⟩ | h1
      · exact .inr h1
      · exact .inl h1

/-! ### From one day to the next -/

/-- The first day of a bucket that begins on a day is that day. -/
theorem bucketStart_of_isFirstDay (h : g.isFirstDay d = true) : g.bucketStart d = d := by
  rw [bucketStart_eq, isFirstDay_iff.1 h]
  exact d.addDays_zero

/-- A bucket does not begin after a day of it. -/
theorem bucketStart_le (g : Granularity) (d : Date) : g.bucketStart d ≤ d := by
  have := d.first_le
  rw [Date.le_def, bucketStart_eq, Date.number_addDays_neg]
  omega

/-- A bucket begins on a day exactly if the day is the first of its bucket, unless the calendar
begins there. -/
theorem isFirstDay_iff_eq_bucketStart (hd : Date.first < d) :
    g.isFirstDay d = true ↔ d = g.bucketStart d := by
  constructor
  · exact fun h => (bucketStart_of_isFirstDay h).symm
  · intro h
    have hnumber := congrArg Date.number h
    rw [bucketStart_eq, Date.number_addDays_neg] at hnumber
    rw [Date.lt_def, show Date.first.number = firstNumber from rfl] at hd
    rw [isFirstDay_iff]
    omega

/-- Days before the first day of a bucket are not in it. -/
theorem bucketStart_ne_of_lt (hfirst : g.isFirstDay d = true) {x : Date} (h : x < d) :
    g.bucketStart x ≠ g.bucketStart d := by
  intro hsame
  have hle := g.bucketStart_le x
  rw [hsame, bucketStart_of_isFirstDay hfirst] at hle
  exact Date.not_le.2 h hle

/-- The bucket of the next day is the same one unless it begins there. -/
theorem bucketStart_next (h : Date.IsNext d e) (hfirst : g.isFirstDay e = false) :
    g.bucketStart e = g.bucketStart d := by
  have hoff : g.offset e = g.offset d + 1 := by
    refine (offset_next h).resolve_left fun h0 => ?_
    rw [isFirstDay_iff.2 h0] at hfirst
    cases hfirst
  rw [Date.IsNext] at h
  refine Date.ext ?_
  rw [bucketStart_eq, bucketStart_eq, Date.number_addDays_neg, Date.number_addDays_neg, hoff]
  omega

/-- A bucket begins on the next day exactly when that day is not in the bucket of the day before. -/
theorem isFirstDay_next_iff (h : Date.IsNext d e) :
    g.isFirstDay e = true ↔ g.bucketStart e ≠ g.bucketStart d := by
  constructor
  · intro hfirst hsame
    have hle := g.bucketStart_le d
    rw [← hsame, bucketStart_of_isFirstDay hfirst] at hle
    have := h.lt
    rw [Date.le_def] at hle
    rw [Date.lt_def] at this
    omega
  · intro hne
    cases hfirst : g.isFirstDay e with
    | true => rfl
    | false => exact absurd (bucketStart_next h hfirst) hne

/-! ### Days of one bucket -/

/-- The day before a date, if it is not the first one there is. -/
theorem exists_isNext (h : e ≠ Date.first) : ∃ d, Date.IsNext d e := by
  have hne : e.number ≠ firstNumber := fun hn => h (Date.ext hn)
  have h1 := e.first_le
  have h2 := e.le_last
  exact ⟨⟨e.number - 1, by omega, by omega⟩, (Int.sub_add_cancel e.number 1).symm⟩

/-- What holds of a day holds of a later day of its bucket, if it goes on from each day of a bucket
to the next.  The induction goes back from the later day; it cannot pass the day on which the bucket
begins. -/
theorem induction_in_bucket {motive : Date → Prop} (h : g.bucketStart d ≤ x) (h' : x ≤ d)
    (base : motive x)
    (step : ∀ c e, Date.IsNext c e → g.isFirstDay e = false → motive c → motive e) : motive d := by
  obtain ⟨n, hn⟩ : ∃ n : Nat, d.number = x.number + n := ⟨(d.number - x.number).toNat, by
    rw [Date.le_def] at h'; omega⟩
  induction n generalizing d with
  | zero =>
      rw [Date.ext (show d.number = x.number by omega)]
      exact base
  | succ n ih =>
      have hfirst : d ≠ Date.first := by
        rintro rfl
        have h1 := x.first_le
        have h2 : Date.first.number = firstNumber := rfl
        omega
      obtain ⟨c, hc⟩ := exists_isNext hfirst
      have hcd : c.number + 1 = d.number := hc.symm
      have hd : g.isFirstDay d = false := by
        cases hd : g.isFirstDay d with
        | false => rfl
        | true =>
            rw [bucketStart_of_isFirstDay hd, Date.le_def] at h
            omega
      rw [bucketStart_next hc hd] at h
      exact step c d hc hd (ih h (by rw [Date.le_def]; omega) (by omega))

/-- A day between the first day of a bucket and another day of it lies in it too. -/
theorem bucketStart_of_between (h : g.bucketStart d ≤ x) (h' : x ≤ d) :
    g.bucketStart x = g.bucketStart d := by
  refine induction_in_bucket (motive := fun d => g.bucketStart x = g.bucketStart d) h h' rfl ?_
  intro c e hce hfirst hc
  rw [hc, bucketStart_next hce hfirst]

/-- Buckets follow in the order of their days. -/
theorem bucketStart_mono (h : x ≤ d) : g.bucketStart x ≤ g.bucketStart d := by
  by_cases hx : g.bucketStart d ≤ x
  · rw [bucketStart_of_between hx h]
    exact Int.le_refl _
  · have := g.bucketStart_le x
    rw [Date.le_def] at *
    omega

/-- The first day of a bucket lies in it. -/
theorem bucketStart_bucketStart (g : Granularity) (d : Date) :
    g.bucketStart (g.bucketStart d) = g.bucketStart d :=
  bucketStart_of_between (Int.le_refl _) (g.bucketStart_le d)

/-! ### The end of a bucket -/

/-- No day comes after the end of its bucket. -/
theorem le_bucketEnd (g : Granularity) (d : Date) : d ≤ g.bucketEnd d := by
  have hd := d.le_last
  have hweek (n : Nat) (hn : n ≤ 6) : d.number ≤ ((d.addDays (-(n : Int))).addDays 6).number := by
    rw [Date.addDays, Date.clamp_number, Date.number_addDays_neg]
    omega
  rw [Date.le_def]
  cases g with
  | day => exact Int.le_refl _
  | sundayWeek => exact hweek _ (by unfold Date.daysSinceSunday; omega)
  | mondayWeek => exact hweek _ (by unfold Date.daysSinceMonday; omega)
  | month =>
      have hday := d.day_le_monthLength
      show d.number ≤
        (Date.clamp (d.number + ((monthLength (isLeap d.year) d.month : Int) - d.day))).number
      rw [Date.clamp_number]
      omega
  | year =>
      have hord := d.ordinal_lt
      show d.number ≤ (Date.clamp (d.number + ((yearLength d.year : Int) - 1 - d.ordinal))).number
      rw [Date.clamp_number]
      omega

/-- The bucket of the next day ends where that of the day does, unless a new one begins there. -/
theorem bucketEnd_next (h : Date.IsNext d e) (hfirst : g.isFirstDay e = false) :
    g.bucketEnd e = g.bucketEnd d := by
  have hstart := bucketStart_next h hfirst
  have hne : g.offset e ≠ 0 := fun h0 => by
    rw [isFirstDay_iff.2 h0] at hfirst
    cases hfirst
  cases g with
  | day => exact absurd rfl hne
  | sundayWeek => exact congrArg (Date.addDays · 6) hstart
  | mondayWeek => exact congrArg (Date.addDays · 6) hstart
  | month =>
      rcases Date.day_next h with ⟨hday, hyear, hmonth⟩ | hday
      · show Date.clamp (e.number + ((monthLength (isLeap e.year) e.month : Int) - e.day)) =
          Date.clamp (d.number + ((monthLength (isLeap d.year) d.month : Int) - d.day))
        rw [hday, hyear, hmonth, show e.number = d.number + 1 from h]
        congr 1
        push_cast
        omega
      · exact absurd (show e.day - 1 = 0 by omega) hne
  | year =>
      rcases Date.year_next h with ⟨hyear, hord⟩ | hord
      · show Date.clamp (e.number + ((yearLength e.year : Int) - 1 - e.ordinal)) =
          Date.clamp (d.number + ((yearLength d.year : Int) - 1 - d.ordinal))
        rw [hyear, hord, show e.number = d.number + 1 from h]
        congr 1
        push_cast
        omega
      · exact absurd hord hne

/-- No day of a bucket comes after the end that an earlier day of it gives. -/
theorem le_bucketEnd_of_between (h : g.bucketStart d ≤ x) (h' : x ≤ d) : d ≤ g.bucketEnd x := by
  have hend : g.bucketEnd x = g.bucketEnd d := by
    refine induction_in_bucket (motive := fun d => g.bucketEnd x = g.bucketEnd d) h h' rfl ?_
    intro c e hce hfirst hc
    rw [hc, bucketEnd_next hce hfirst]
  rw [hend]
  exact g.le_bucketEnd d

/-- No day of a bucket comes after the end that any day of it gives. -/
theorem le_bucketEnd_of_bucketStart_eq (h : g.bucketStart x = g.bucketStart d) :
    x ≤ g.bucketEnd d := by
  rcases Int.le_total x.number d.number with hle | hle
  · exact Int.le_trans hle (g.le_bucketEnd d)
  · exact le_bucketEnd_of_between (h ▸ g.bucketStart_le d) hle

end Granularity

end Cashbook
