/-!
# Dates of the proleptic Gregorian calendar

A `Date` is one day between the first day of the year -262143 and the last day of the year 262142.
It is held as the number of days since 0001-01-01, so that the order of dates, the distance between
them and the weekday are those of the number.

* `yearStart` — the number of the first day of a year, in closed form.
* `yearOf` — the year that a day lies in.
* `Date.year`, `Date.month`, `Date.day` — the three numbers that name a date.
* `Date.ofYmd?` — the date that three numbers name, if there is one.
* `Date.addDays` — moving by a number of days, stopping at the ends of the range.

### The design decisions

**One number.**  A date could also be held as its year and its place in that year.  Then the order
would be lexicographic, and stepping over the end of a year a case of its own; here both are facts
about integers, and the calendar enters only where a year or a month is asked for.

**Stopping at the ends.**  `Date.clamp` takes any day number to the nearest date in range.  It is
the only function that turns an arbitrary number into a date, so that every other one inherits its
law.
-/

namespace Cashbook

namespace Calendar

/-- The number of days from 0001-01-01 to the first day of the year `y`. -/
def yearStart (y : Int) : Int :=
  365 * (y - 1) + (y - 1) / 4 - (y - 1) / 100 + (y - 1) / 400

/-- Whether the year `y` has a twenty-ninth of February. -/
def isLeap (y : Int) : Bool := y % 4 = 0 && (y % 100 ≠ 0 || y % 400 = 0)

/-- The number of days of the year `y`. -/
def yearLength (y : Int) : Nat := if isLeap y then 366 else 365

/-- A year ends where the next one begins. -/
theorem yearStart_add_one (y : Int) : yearStart (y + 1) = yearStart y + yearLength y := by
  simp only [yearStart, yearLength, isLeap, Bool.and_eq_true, Bool.or_eq_true, decide_eq_true_eq]
  split <;> omega

/-- The year that the day with the number `n` lies in: the quotient by the mean length of a year,
which is at most one too small or too large. -/
def yearOf (n : Int) : Int :=
  let y := 400 * n / 146097 + 1
  if n < yearStart y then y - 1
  else if yearStart (y + 1) ≤ n then y + 1
  else y

/-- A day does not come before the first day of its year. -/
theorem yearStart_yearOf_le (n : Int) : yearStart (yearOf n) ≤ n := by
  unfold yearOf
  dsimp only
  split
  case isTrue h => unfold yearStart; omega
  case isFalse h =>
    split
    case isTrue h' => exact h'
    case isFalse h' => omega

/-- A day comes before the first day of the year after its own. -/
theorem lt_yearStart_yearOf_add_one (n : Int) : n < yearStart (yearOf n + 1) := by
  unfold yearOf
  dsimp only
  split
  case isTrue h => rw [Int.sub_add_cancel]; exact h
  case isFalse h =>
    split
    case isTrue h' => unfold yearStart; omega
    case isFalse h' => omega

/-- How many days of a year come before each month. -/
def monthStarts (leap : Bool) : List Nat :=
  if leap then [0, 31, 60, 91, 121, 152, 182, 213, 244, 274, 305, 335]
  else [0, 31, 59, 90, 120, 151, 181, 212, 243, 273, 304, 334]

/-- How many days of a year come before the month `m`; all of them if there is no such month. -/
def monthStart (leap : Bool) (m : Nat) : Nat :=
  (monthStarts leap).getD (m - 1) (if leap then 366 else 365)

/-- The number of days of the month `m`. -/
def monthLength (leap : Bool) (m : Nat) : Nat := monthStart leap (m + 1) - monthStart leap m

/-- The month that the day with `ordinal` days of its year before it lies in: as many months begin
no later than it. -/
def monthOf (leap : Bool) (ordinal : Nat) : Nat := (monthStarts leap).countP (· ≤ ordinal)

/-- The day of its month, from 1, of the day with `ordinal` days of its year before it. -/
def dayOf (leap : Bool) (ordinal : Nat) : Nat :=
  ordinal - monthStart leap (monthOf leap ordinal) + 1

/-- The first year in range. -/
def firstYear : Int := -262143

/-- The last year in range. -/
def lastYear : Int := 262142

/-- The number of the first day in range. -/
def firstNumber : Int := yearStart firstYear

/-- The number of the last day in range. -/
def lastNumber : Int := yearStart (lastYear + 1) - 1

/-- The number of 1970-01-01, the day from which clocks count seconds. -/
def epochNumber : Int := yearStart 1970

end Calendar

open Calendar

/-- A day of the calendar. -/
structure Date where
  /-- The number of days since 0001-01-01. -/
  number : Int
  /-- No date comes before the first day in range. -/
  first_le : firstNumber ≤ number
  /-- No date comes after the last day in range. -/
  le_last : number ≤ lastNumber
  deriving DecidableEq

namespace Date

instance : Ord Date := ⟨fun d e => compare d.number e.number⟩

instance : LE Date := ⟨fun d e => d.number ≤ e.number⟩

instance : LT Date := ⟨fun d e => d.number < e.number⟩

instance (d e : Date) : Decidable (d ≤ e) := inferInstanceAs (Decidable (d.number ≤ e.number))

instance (d e : Date) : Decidable (d < e) := inferInstanceAs (Decidable (d.number < e.number))

instance : Min Date := minOfLe

instance : Max Date := maxOfLe

instance : Hashable Date := ⟨fun d => hash d.number⟩

/-- Dates are equal when their numbers are. -/
theorem ext {d e : Date} (h : d.number = e.number) : d = e := by
  cases d; cases e; cases h; rfl

theorem le_def {d e : Date} : d ≤ e ↔ d.number ≤ e.number := Iff.rfl

theorem lt_def {d e : Date} : d < e ↔ d.number < e.number := Iff.rfl

/-- The first date there is. -/
def first : Date := ⟨firstNumber, by decide, by decide⟩

/-- The last date there is. -/
def last : Date := ⟨lastNumber, by decide, by decide⟩

instance : Inhabited Date := ⟨first⟩

/-- The date in range that is nearest to the day with the number `n`. -/
def clamp (n : Int) : Date where
  number := max firstNumber (min lastNumber n)
  first_le := Int.le_max_left _ _
  le_last := Int.max_le.2 ⟨by decide, Int.min_le_left _ _⟩

theorem clamp_number (n : Int) : (clamp n).number = max firstNumber (min lastNumber n) := rfl

/-- A day in range is its own nearest date. -/
theorem clamp_of_mem {n : Int} (h : firstNumber ≤ n) (h' : n ≤ lastNumber) :
    (clamp n).number = n := by
  rw [clamp_number, Int.min_eq_right h', Int.max_eq_right h]

/-- The date with the number `n`, if it is in range. -/
def ofNumber? (n : Int) : Option Date :=
  if h : firstNumber ≤ n ∧ n ≤ lastNumber then some ⟨n, h.1, h.2⟩ else none

/-- The date `n` days after `d`, or before it if `n` is negative, stopping at the first and the last
date. -/
def addDays (d : Date) (n : Int) : Date := clamp (d.number + n)

@[simp] theorem addDays_zero (d : Date) : d.addDays 0 = d :=
  ext (by rw [addDays, Int.add_zero, clamp_of_mem d.first_le d.le_last])

/-- The year that `d` lies in. -/
def year (d : Date) : Int := yearOf d.number

/-- How many days of the year `y` come before `d`, if `d` lies in it. -/
def ordinalIn (d : Date) (y : Int) : Nat := (d.number - yearStart y).toNat

/-- How many days of its year come before `d`. -/
def ordinal (d : Date) : Nat := d.ordinalIn d.year

/-- The month that `d` lies in, from 1 to 12. -/
def month (d : Date) : Nat :=
  let y := d.year
  monthOf (isLeap y) (d.ordinalIn y)

/-- The day of the month, from 1. -/
def day (d : Date) : Nat :=
  let y := d.year
  dayOf (isLeap y) (d.ordinalIn y)

/-- The date that a year, a month and a day name, if they name one in range. -/
def ofYmd? (y : Int) (m d : Nat) : Option Date :=
  if 1 ≤ m ∧ m ≤ 12 ∧ 1 ≤ d ∧ d ≤ monthLength (isLeap y) m then
    ofNumber? (yearStart y + monthStart (isLeap y) m + d - 1)
  else none

/-- The date in universal time, `s` seconds after the day from which clocks count has begun. -/
def ofClockSeconds (s : Int) : Date := clamp (epochNumber + s / 86400)

/-- How many days have passed since the last Monday. -/
def daysSinceMonday (d : Date) : Nat := (d.number % 7).toNat

/-- How many days have passed since the last Sunday. -/
def daysSinceSunday (d : Date) : Nat := ((d.number + 1) % 7).toNat

/-- The number of the date's month, counted from the January of the year 0. -/
def monthIndex (d : Date) : Int := 12 * d.year + d.month - 1

end Date

end Cashbook
