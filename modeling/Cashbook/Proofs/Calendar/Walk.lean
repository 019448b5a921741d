import Cashbook.Calendar.Tracker

/-!
# The intervals of a walk

`Tracker.visits` is what a walk meets on some days that it is led through.  For a series only two
things count of it: which buckets are entered on a day (`opens_advance`), and that a bucket that is
entered on a day starts there (`start_of_opens`).
-/

namespace Cashbook

namespace Tracker

/-- The walk after it has been led through some days. -/
def led (t : Tracker) (days : List Date) : Tracker := days.foldl advance t

/-- The intervals that a walk meets on the given days. -/
def visits (t : Tracker) : List Date → List Intervals
  | [] => []
  | d :: days => (t.advance d).current :: visits (t.advance d) days

theorem visits_append (t : Tracker) (days days' : List Date) :
    t.visits (days ++ days') = t.visits days ++ (t.led days).visits days' := by
  induction days generalizing t with
  | nil => rfl
  | cons d days ih =>
      rw [List.cons_append, visits, ih, visits, List.cons_append]
      rfl

/-- A walk meets the days that it is led through. -/
@[simp] theorem map_date_visits (t : Tracker) (days : List Date) :
    (t.visits days).map (·.date) = days := by
  induction days generalizing t with
  | nil => rfl
  | cons d days ih =>
      rw [visits, List.map_cons, ih]
      rfl

/-- What depends on the days only does not depend on the walk. -/
theorem flatMap_visits {α : Type} (f : Date → List α) (t : Tracker) (days : List Date) :
    ((t.visits days).flatMap fun iv => f iv.date) = days.flatMap f := by
  conv => rhs; rw [← map_date_visits t days, List.flatMap_map]

/-- What a walk meets is of one of the days that it is led through. -/
theorem date_mem_of_mem_visits {t : Tracker} {days : List Date} {iv : Intervals}
    (h : iv ∈ t.visits days) : iv.date ∈ days := by
  rw [← map_date_visits t days]
  exact List.mem_map_of_mem h

/-- A walk has started once it has been led to a day. -/
theorem started_led (t : Tracker) (days : List Date) (d : Date) :
    (t.led (days ++ [d])).started = true := by
  rw [led, List.foldl_append]
  rfl

/-- A bucket is entered on a day if it begins there or the walk does. -/
theorem opens_advance (t : Tracker) (d : Date) (g : Granularity) :
    (t.advance d).current.opens g = (!t.started || g.isFirstDay d) := by
  rw [Intervals.opens, Intervals.get, advance, ByGranularity.get_ofFn]
  rfl

/-- A bucket that is entered on a day starts there. -/
theorem start_of_opens {t : Tracker} {d : Date} {g : Granularity}
    (h : (t.advance d).current.opens g = true) : ((t.advance d).current.get g).start = d := by
  rw [opens_advance, Bool.or_comm] at h
  rw [Intervals.get, advance, ByGranularity.get_ofFn]
  exact if_pos h

end Tracker

end Cashbook
