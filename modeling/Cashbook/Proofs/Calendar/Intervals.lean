import Cashbook.Proofs.Calendar.Closings
import Cashbook.Proofs.Calendar.Sharing
import Cashbook.Proofs.Calendar.Walk

/-!
# The intervals of a day

A walk keeps, for each granularity, the day on which the bucket of the current day was entered, and
it keeps it by looking at one day after the other.  `Tracker.led_run` says without any walking where
it is after some days: it has entered each bucket on the day `Granularity.entry`, which depends on
the first day of the walk and on the current day alone.

So the intervals of a day are those of the calendar (`Tracker.intervals_follow_calendar`).  What the
walk says of the past and the future is meant of whole buckets (`Granularity.SharesBucket`),
although it only compares today with their ends.
-/

namespace Cashbook

open Calendar

namespace Granularity

variable {g : Granularity} {d today : Date}

/-- A bucket lies in the past if its last day does. -/
theorem bucketEnd_lt_iff (hd : Date.first.addDays 6 ≤ d) :
    g.bucketEnd d < today ↔ ∀ x, g.SharesBucket x d → x < today := by
  constructor
  · intro h x hx
    exact Int.lt_of_le_of_lt ((sharesBucket_iff hd).1 hx).2 h
  · intro h
    exact h _ ((sharesBucket_iff hd).2
      ⟨Int.le_trans (g.bucketStart_le d) (g.le_bucketEnd d), Int.le_refl _⟩)

/-- A bucket lies in the future if its first day does. -/
theorem lt_bucketStart_iff (hd : Date.first.addDays 6 ≤ d) :
    today < g.bucketStart d ↔ ∀ x, g.SharesBucket x d → today < x := by
  constructor
  · intro h x hx
    exact Int.lt_of_lt_of_le h ((sharesBucket_iff hd).1 hx).1
  · intro h
    exact h _ ((sharesBucket_iff hd).2
      ⟨Int.le_refl _, Int.le_trans (g.bucketStart_le d) (g.le_bucketEnd d)⟩)

end Granularity

namespace Tracker

variable {s c d today : Date}

/-- The walk that has set out on `s` and is on the day `d`. -/
def reached (s today d : Date) : Tracker where
  today := today
  started := true
  current :=
    { date := d
      first := d = s
      intervals := .ofFn fun g => intervalOn today true (g.entry s d) g d }

theorem get_reached (s today d : Date) (g : Granularity) :
    (reached s today d).current.get g = intervalOn today true (g.entry s d) g d :=
  ByGranularity.get_ofFn _ g

/-- A bucket that begins on the day has been entered on it. -/
theorem start_reached (g : Granularity) (hd : s ≤ d) :
    ((reached s today d).current.get g).start = g.entry s d := by
  rw [get_reached, intervalOn, Bool.not_true, Bool.or_false]
  dsimp only
  split
  case isTrue hfirst => exact (Granularity.entry_of_isFirstDay hd hfirst).symm
  case isFalse => rfl

/-- The first day of a walk. -/
theorem advance_create (s today : Date) : (create s today).advance s = reached s today s := by
  have hinterval (g : Granularity) (previous : Date) :
      intervalOn today false previous g s = intervalOn today true (g.entry s s) g s := by
    rw [intervalOn, intervalOn, g.entry_self]
    simp
  simp only [advance, reached, create, hinterval, Bool.not_false, decide_true]

/-- **One day more.**  A bucket that begins on it is entered on it, and any other one has been
entered before. -/
theorem advance_reached (hs : s ≤ c) (h : Date.IsNext c d) :
    (reached s today c).advance d = reached s today d := by
  have hsd : s < d := Int.lt_of_le_of_lt hs h.lt
  have hne : d ≠ s := by
    rintro rfl
    exact Date.lt_irrefl d hsd
  have hinterval (g : Granularity) :
      intervalOn today true ((reached s today c).current.get g).start g d =
        intervalOn today true (g.entry s d) g d := by
    rw [start_reached g hs]
    cases hfirst : g.isFirstDay d with
    | true => rw [intervalOn, intervalOn, hfirst]; rfl
    | false => rw [Granularity.entry, Granularity.entry, Granularity.bucketStart_next h hfirst]
  have hflag : false = decide (d = s) := (decide_eq_false hne).symm
  rw [advance, reached]
  exact congrArg₂ (fun first items => Tracker.mk today true ⟨d, first, .ofFn items⟩) hflag
    (funext hinterval)

/-- **Any number of days.** -/
theorem led_run (s today : Date) {n : Nat} (h : s.number + n ≤ lastNumber) :
    (create s today).led (Date.run s (n + 1)) = reached s today (s.addDays n) := by
  induction n with
  | zero =>
      have hrun : Date.run s 1 = [s] := congrArg ([·]) s.addDays_zero
      rw [hrun]
      exact (advance_create s today).trans (congrArg _ s.addDays_zero.symm)
  | succ n ih =>
      have hle : s ≤ s.addDays n := by
        rw [Date.le_def, Date.number_addDays_of_le (n := n) (by omega)]
        omega
      rw [Date.run_succ, led, List.foldl_append]
      exact (congrArg (advance · _) (ih (by omega))).trans
        (advance_reached hle (Date.isNext_addDays h))

/-- A walk that has been led up to a day. -/
theorem led_upTo (today : Date) (h : s ≤ d) :
    (create s today).led (Date.upTo s d) = reached s today d := by
  rw [Date.le_def] at h
  obtain ⟨n, hn⟩ : ∃ n : Nat, d.number = s.number + n := ⟨(d.number - s.number).toNat, by omega⟩
  have hlast := d.le_last
  have hd : s.addDays n = d := Date.ext ((Date.number_addDays_of_le (by omega)).trans hn.symm)
  have hlength : (d.number + 1 - s.number).toNat = n + 1 := by omega
  rw [Date.upTo, hlength, led_run s today (by omega), hd]

/-- **Past, now and future.**  Just one of them holds of a day: that its whole bucket comes before
today, that the bucket holds today, or that the whole bucket comes after it. -/
theorem intervalOn_spec (hd : Date.first.addDays 6 ≤ d) (today previous : Date) (started : Bool)
    (g : Granularity) :
    let i := intervalOn today started previous g d
    [i.isPast, i.isNow, i.isFuture].count true = 1 ∧
      (i.isPast = true ↔ ∀ x, g.SharesBucket x d → x < today) ∧
      (i.isFuture = true ↔ ∀ x, g.SharesBucket x d → today < x) ∧
      (i.isNow = true ↔ g.SharesBucket today d) := by
  have hends : g.bucketStart d ≤ g.bucketEnd d :=
    Int.le_trans (g.bucketStart_le d) (g.le_bucketEnd d)
  rw [← Granularity.bucketEnd_lt_iff hd, ← Granularity.lt_bucketStart_iff hd,
    Granularity.sharesBucket_iff hd]
  simp only [Date.le_def, Date.lt_def] at hends ⊢
  refine ⟨?_, decide_eq_true_iff, decide_eq_true_iff, ?_⟩
  · rw [intervalOn]
    by_cases hpast : g.bucketEnd d < today
    · have hfuture : ¬ today < g.bucketStart d := by
        rw [Date.lt_def] at *
        omega
      simp [hpast, hfuture]
    · by_cases hfuture : today < g.bucketStart d <;> simp [hpast, hfuture]
  · rw [intervalOn, Bool.and_eq_true, Bool.not_eq_true', Bool.not_eq_true', decide_eq_false_iff_not,
      decide_eq_false_iff_not, Date.lt_def, Date.lt_def]
    omega

/-- **The intervals of a day are those of the calendar.**  A walk that sets out on `s` and is led up
to the day `d` has entered each bucket where the bucket begins, or on `s` if it begins before. A
bucket is entered on the day itself if it begins there, or if the day is `s`.  And the whole bucket
of the calendar lies in the past or in the future, or it holds today. -/
theorem intervals_follow_calendar (hs : Date.first.addDays 6 ≤ s) (h : s ≤ d) (today : Date) :
    let iv := ((create s today).led (Date.upTo s d)).current
    iv.date = d ∧ (iv.first = true ↔ d = s) ∧
      ∀ g : Granularity,
        (iv.get g).start = max s (g.bucketStart d) ∧
          ((iv.get g).isFirstDay = true ↔ d = g.bucketStart d) ∧
          (iv.opens g = true ↔ d = (iv.get g).start) ∧
          [(iv.get g).isPast, (iv.get g).isNow, (iv.get g).isFuture].count true = 1 ∧
          ((iv.get g).isPast = true ↔ ∀ x, g.SharesBucket x d → x < today) ∧
          ((iv.get g).isFuture = true ↔ ∀ x, g.SharesBucket x d → today < x) ∧
          ((iv.get g).isNow = true ↔ g.SharesBucket today d) := by
  dsimp only
  rw [led_upTo today h]
  refine ⟨rfl, decide_eq_true_iff, fun g => ?_⟩
  have hd : Date.first.addDays 6 ≤ d := Int.le_trans hs h
  have hlater : Date.first < d := Int.lt_of_lt_of_le (by decide) hd
  have hstart : ((reached s today d).current.get g).start = max s (g.bucketStart d) :=
    start_reached g h
  have hfirstDay : ((reached s today d).current.get g).isFirstDay = true ↔ d = g.bucketStart d := by
    rw [get_reached]
    exact Granularity.isFirstDay_iff_eq_bucketStart hlater
  refine ⟨hstart, hfirstDay, ?_, ?_⟩
  · -- the later of two days is one of them
    rw [hstart, Intervals.opens, Bool.or_eq_true, hfirstDay]
    have hbucket := g.bucketStart_le d
    have hdate (x : Date) : d = x ↔ d.number = x.number := ⟨congrArg _, Date.ext⟩
    rw [show (reached s today d).current.first = true ↔ d = s from decide_eq_true_iff, hdate, hdate,
      hdate, Date.number_max]
    rw [Date.le_def] at h hbucket
    omega
  · rw [get_reached]
    exact intervalOn_spec hd today _ true g

/-- A walk that sets out on Thursday, 30 December 2021, and has come to the first Sunday of the new
year.  Today is the Wednesday after it. -/
theorem intervals_follow_calendar_of_new_year :
    let s : Date := .clamp 738153
    let d : Date := .clamp 738156
    let today : Date := .clamp 738159
    let iv := ((create s today).led (Date.upTo s d)).current
    Date.first.addDays 6 ≤ s ∧ s ≤ d ∧ iv.date = d ∧
      (iv.get .mondayWeek).start = s ∧ (iv.get .mondayWeek).isPast = true ∧
      (iv.get .sundayWeek).start = d ∧ (iv.get .sundayWeek).isNow = true ∧
      (iv.get .month).start = d.addDays (-1) := by
  intro s d today iv
  have hs : Date.first.addDays 6 ≤ s := by decide
  have hd : s ≤ d := by decide
  obtain ⟨hdate, -, hintervals⟩ := intervals_follow_calendar hs hd today
  obtain ⟨hmonday, -, -, -, hpast, -⟩ := hintervals .mondayWeek
  obtain ⟨hsunday, -, -, -, -, -, hnow⟩ := hintervals .sundayWeek
  obtain ⟨hmonth, -⟩ := hintervals .month
  refine ⟨hs, hd, hdate, hmonday.trans (by decide), hpast.2 fun x hx => ?_,
    hsunday.trans (by decide), hnow.2 (by decide), hmonth.trans (by decide)⟩
  have hweek : x.number / 7 = 738156 / 7 := hx
  show x.number < 738159
  omega

end Tracker

end Cashbook
