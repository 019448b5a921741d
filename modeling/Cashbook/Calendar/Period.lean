import Cashbook.Calendar.Date

/-!
# Periods

A `Period` is the days from one date to another, both included.  It is empty if the first comes
after the second.

Days are counted off one after the other, and a day is only counted while there is a day after it:
the last date of the calendar belongs to a period, but is never counted off.
-/

namespace Cashbook

open Calendar

/-- The days from `start` to `stop`. -/
structure Period where
  /-- The first day. -/
  start : Date
  /-- The last day. -/
  stop : Date
  deriving DecidableEq

namespace Period

/-- Whether `d` is a day of the period. -/
def contains (p : Period) (d : Date) : Bool := p.start ≤ d && d ≤ p.stop

/-- How many days are counted off. -/
def length (p : Period) : Nat := (min p.stop.number (lastNumber - 1) + 1 - p.start.number).toNat

/-- The days that are counted off, in order. -/
def days (p : Period) : List Date := (List.range p.length).map fun i : Nat => p.start.addDays i

/-- The first day that is counted off. -/
def firstDay? (p : Period) : Option Date := if p.length = 0 then none else some p.start

/-- The last day that is counted off. -/
def lastDay? (p : Period) : Option Date :=
  if p.length = 0 then none else some (p.start.addDays (p.length - 1 : Nat))

@[simp] theorem length_days (p : Period) : p.days.length = p.length := by
  simp [days]

/-- The first day is the head of the days. -/
theorem head?_days (p : Period) : p.days.head? = p.firstDay? := by
  unfold days firstDay?
  split
  case isTrue h => simp [h]
  case isFalse h =>
    obtain ⟨n, hn⟩ := Nat.exists_eq_succ_of_ne_zero h
    simp [hn, List.range_succ_eq_map]

/-- The last day is the last of the days. -/
theorem getLast?_days (p : Period) : p.days.getLast? = p.lastDay? := by
  unfold days lastDay?
  split
  case isTrue h => simp [h]
  case isFalse h =>
    obtain ⟨n, hn⟩ := Nat.exists_eq_succ_of_ne_zero h
    simp [hn, List.range_succ]

end Period

end Cashbook
