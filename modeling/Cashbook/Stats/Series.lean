import Cashbook.Calendar.Tracker

/-!
# Time series by bucket

A `Series` has one `Point` for each bucket that was entered: the running total at the end of the
bucket, and the change within it.  A `BucketedSeries` keeps one series for each granularity, all fed
with the same values.

* `BucketedSeries.newDay` opens a point in every series whose bucket is entered on the day.
* `BucketedSeries.add` adds a value to the running total and to the open point of every series.

### The design decision

The points of a series stand latest first, so that the open point is the head of the list; `points`
gives them in the order of time.
-/

namespace Cashbook

/-- What a series says of one bucket. -/
structure Point (α : Type) where
  /-- The day on which the bucket was entered. -/
  date : Date
  /-- The running total at the end of the bucket. -/
  total : α
  /-- The change within the bucket. -/
  change : α
  deriving DecidableEq

/-- One point for each bucket that was entered. -/
structure Series (α : Type) where
  /-- The points, latest first. -/
  latestFirst : List (Point α)
  deriving DecidableEq

namespace Series

variable {α : Type}

/-- A series without points. -/
def empty : Series α := ⟨[]⟩

/-- The points in the order of time. -/
def points (s : Series α) : List (Point α) := s.latestFirst.reverse

/-- The series with the given points, in the order of time. -/
def ofPoints (ps : List (Point α)) : Series α := ⟨ps.reverse⟩

/-- The number of points. -/
def size (s : Series α) : Nat := s.latestFirst.length

/-- The days on which the buckets were entered. -/
def dates (s : Series α) : List Date := s.points.map (·.date)

/-- The first point of the day `d`. -/
def pointAt? (s : Series α) (d : Date) : Option (Point α) := s.points.find? (·.date = d)

/-- The running total of the bucket that was entered on `d`. -/
def totalAt? (s : Series α) (d : Date) : Option α := (s.pointAt? d).map (·.total)

/-- The change within the bucket that was entered on `d`. -/
def changeAt? (s : Series α) (d : Date) : Option α := (s.pointAt? d).map (·.change)

/-- The series with one more point, which is then the open one. -/
def push (s : Series α) (p : Point α) : Series α := ⟨p :: s.latestFirst⟩

/-- The series after `f` has been applied to its open point. -/
def modifyOpen (s : Series α) (f : Point α → Point α) : Series α :=
  match s.latestFirst with
  | [] => s
  | p :: ps => ⟨f p :: ps⟩

@[simp] theorem points_push (s : Series α) (p : Point α) : (s.push p).points = s.points ++ [p] := by
  simp [push, points]

@[simp] theorem points_ofPoints (ps : List (Point α)) : (ofPoints ps).points = ps := by
  simp [ofPoints, points]

end Series

/-- One series for each granularity, and the running total that they share. -/
structure BucketedSeries (α : Type) where
  /-- The series. -/
  series : ByGranularity (Series α)
  /-- The sum of all values added. -/
  running : α
  deriving DecidableEq

namespace BucketedSeries

variable {α : Type} [Zero α] [Add α]

/-- No points, and a total of zero. -/
def empty : BucketedSeries α := ⟨.ofFn fun _ => .empty, 0⟩

/-- The series of `g`. -/
def get (b : BucketedSeries α) (g : Granularity) : Series α := b.series.get g

/-- Opens a point in every series whose bucket is entered on the day. -/
def newDay (b : BucketedSeries α) (iv : Intervals) : BucketedSeries α where
  series := .ofFn fun g =>
    if iv.opens g then (b.get g).push ⟨(iv.get g).start, b.running, 0⟩ else b.get g
  running := b.running

/-- Adds `v` to a point. -/
def addTo (v : α) (p : Point α) : Point α := ⟨p.date, p.total + v, p.change + v⟩

/-- Adds `v` to the running total and to the open point of every series. -/
def add (b : BucketedSeries α) (v : α) : BucketedSeries α where
  series := b.series.map fun s => s.modifyOpen (addTo v)
  running := b.running + v

end BucketedSeries

end Cashbook
