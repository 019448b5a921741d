import Cashbook.Calendar.Granularity

/-!
# Following the calendar day by day

A `Tracker` goes through the days of a sweep and says, for each granularity, where the bucket of the
current day began, and whether that bucket lies in the past, holds today or lies in the future.

### The design decisions

**The start of a bucket** is where the sweep entered it: the first day of the calendar bucket, or
the first day of the sweep if the sweep begins inside the bucket.

**Past, now and future** compare today with the whole calendar bucket, also when the sweep begins
inside it.

**Before the first day** all flags are raised, and all buckets start where the sweep will.
-/

namespace Cashbook

/-- Where the current day stands in its bucket, and where the bucket stands in time. -/
structure Interval where
  /-- Where the sweep entered the bucket. -/
  start : Date
  /-- Whether the bucket begins on the current day. -/
  isFirstDay : Bool
  /-- Whether the whole bucket comes before today. -/
  isPast : Bool
  /-- Whether the bucket holds today. -/
  isNow : Bool
  /-- Whether the whole bucket comes after today. -/
  isFuture : Bool
  deriving DecidableEq

/-- The intervals of one day of a sweep. -/
structure Intervals where
  /-- The day. -/
  date : Date
  /-- Whether it is the first day of the sweep. -/
  first : Bool
  /-- The interval of each granularity. -/
  intervals : ByGranularity Interval
  deriving DecidableEq

namespace Intervals

/-- The interval of `g`. -/
def get (iv : Intervals) (g : Granularity) : Interval := iv.intervals.get g

/-- Whether a bucket of `g` is entered on this day. -/
def opens (iv : Intervals) (g : Granularity) : Bool := iv.first || (iv.get g).isFirstDay

end Intervals

/-- A walk through the days of a sweep. -/
structure Tracker where
  /-- The day that counts as today. -/
  today : Date
  /-- Whether the first day has been reached. -/
  started : Bool
  /-- The intervals of the day reached last. -/
  current : Intervals
  deriving DecidableEq

namespace Tracker

/-- The interval of every granularity before the first day. -/
def unstarted (start : Date) : Interval := ⟨start, true, true, true, true⟩

/-- A walk that has not reached its first day yet. -/
def create (start today : Date) : Tracker :=
  ⟨today, false, ⟨start, true, .ofFn fun _ => unstarted start⟩⟩

/-- The interval of `g` on the day `d`, if the walk has been `started` and the bucket of the day
before was entered on `previous`. -/
def intervalOn (today : Date) (started : Bool) (previous : Date) (g : Granularity) (d : Date) :
    Interval :=
  let isFirstDay := g.isFirstDay d
  let isPast : Bool := g.bucketEnd d < today
  let isFuture : Bool := today < g.bucketStart d
  { start := if isFirstDay || !started then d else previous
    isFirstDay := isFirstDay
    isPast := isPast
    isNow := !isPast && !isFuture
    isFuture := isFuture }

/-- The walk after it has reached the day `d`. -/
def advance (t : Tracker) (d : Date) : Tracker where
  today := t.today
  started := true
  current :=
    { date := d
      first := !t.started
      intervals := .ofFn fun g => intervalOn t.today t.started (t.current.get g).start g d }

end Tracker

end Cashbook
