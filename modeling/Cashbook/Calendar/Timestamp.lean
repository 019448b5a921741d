import Cashbook.Calendar.DateText

/-!
# Timestamps

A `Timestamp` is a moment of universal time, to the nanosecond: a date, the second of that day and
the nanoseconds since that second began.  A leap second is the second before it with a thousand
million nanoseconds or more, so that it comes after every other moment of that second.

A text gives a moment as a date, one of `T`, `t` and a space, a time of day and the offset of that
time from universal time.  It is written back in universal time, marked by `Z`, with as many of 0,
3, 6 and 9 digits after the second as show every nanosecond.
-/

namespace Cashbook

open Text

/-- A moment of universal time. -/
structure Timestamp where
  /-- The day. -/
  date : Date
  /-- The seconds of the day that have passed. -/
  second : Nat
  /-- The nanoseconds of the second that have passed. -/
  nano : Nat
  deriving DecidableEq

/-- A time of day with the offset that its clock has from universal time. -/
structure ClockTime where
  /-- The seconds of the day that the clock shows. -/
  second : Nat
  /-- The nanoseconds of the second. -/
  nano : Nat
  /-- By how many seconds the clock is ahead of universal time. -/
  offset : Int
  deriving DecidableEq

namespace Timestamp

instance : Inhabited Timestamp := ⟨⟨default, 0, 0⟩⟩

/-- Moments are ordered by day, then by second, then by nanosecond. -/
instance : Ord Timestamp :=
  ⟨fun s t =>
    (compare s.date t.date).then ((compare s.second t.second).then (compare s.nano t.nano))⟩

instance : LT Timestamp := ltOfOrd

instance (s t : Timestamp) : Decidable (s < t) := inferInstanceAs (Decidable (compare s t = .lt))

/-- The digits of the fraction of a second, none if there is no fraction. -/
def fractionText (nano : Nat) : List Char :=
  if nano = 0 then []
  else if nano % 1000000 = 0 then '.' :: padded 3 (nano / 1000000)
  else if nano % 1000 = 0 then '.' :: padded 6 (nano / 1000)
  else '.' :: padded 9 nano

/-- The characters of the text of `t`. -/
def toChars (t : Timestamp) : List Char :=
  let leap := 1000000000 ≤ t.nano
  let second := if leap then t.second % 60 + 1 else t.second % 60
  let nano := if leap then t.nano - 1000000000 else t.nano
  t.date.toChars ++ 'T' :: padded 2 (t.second / 3600) ++ ':' :: padded 2 (t.second / 60 % 60) ++
    ':' :: padded 2 second ++ fractionText nano ++ ['Z']

/-- The text of `t`: `2020-01-01T00:00:00Z`, `2020-01-01T00:00:00.250Z`. -/
def toText (t : Timestamp) : String := String.ofList t.toChars

/-- Reads the fraction of a second at the head of the text, in nanoseconds.  Digits after the ninth
are passed over. -/
def readFraction? : List Char → Option (Nat × List Char)
  | '.' :: cs => do
      let (n, rest) ← numeral? 9 cs
      let count := cs.length - rest.length
      return (n * Nat.pow 10 (9 - count), rest.dropWhile Char.isDigit)
  | cs => some (0, cs)

/-- Reads two digits at the head of the text. -/
def readTwoDigits? : List Char → Option (Nat × List Char)
  | a :: b :: cs => do
      let x ← digit? a
      let y ← digit? b
      return (10 * x + y, cs)
  | _ => none

/-- What follows `UTC`, in letters of either case, if the text begins with it. -/
def utcRest? : List Char → Option (List Char)
  | u :: t :: c :: cs =>
      if u.toUpper = 'U' ∧ t.toUpper = 'T' ∧ c.toUpper = 'C' then some cs else none
  | _ => none

/-- The direction that a sign gives to an offset: 1 for a clock that is ahead of universal time, -1
for one that is behind it. -/
def offsetSign? : Char → Option Int
  | '+' => some 1
  | '-' => some (-1)
  | '−' => some (-1)
  | _ => none

/-- Reads an offset in hours and minutes, in seconds.  Colons and blanks may stand between the
two. -/
def readHoursMinutes? (cs : List Char) : Option (Nat × List Char) := do
  let (h, cs) ← readTwoDigits? cs
  let (m, cs) ← readTwoDigits? (cs.dropWhile fun c => c = ':' || isBlank c)
  guard (m < 60)
  return (3600 * h + 60 * m, cs)

/-- Reads the offset at the head of the text, in seconds: `UTC`, `Z`, or a sign with hours and
minutes that are less than a day. -/
def readOffset? (cs : List Char) : Option (Int × List Char) :=
  match utcRest? cs with
  | some cs => some (0, cs)
  | none =>
      match cs with
      | 'Z' :: cs => some (0, cs)
      | 'z' :: cs => some (0, cs)
      | c :: cs => do
          let sign ← offsetSign? c
          let (n, cs) ← readHoursMinutes? cs
          guard (n < 86400)
          return (sign * n, cs)
      | [] => none

/-- Reads a time of day and its offset.  The sixtieth second of a minute is a leap second, shown as
a thousand million nanoseconds more of the second before it. -/
def readClock? (cs : List Char) : Option (ClockTime × List Char) := do
  let (h, cs) ← Date.readTwo? cs
  let cs ← Date.readSign? ':' cs
  let (m, cs) ← Date.readTwo? cs
  let cs ← Date.readSign? ':' cs
  let (s, cs) ← Date.readTwo? cs
  let (nano, cs) ← readFraction? cs
  let (offset, cs) ← readOffset? (dropBlanks cs)
  guard (h < 24 ∧ m < 60 ∧ s ≤ 60)
  let second := 3600 * h + 60 * m + min s 59
  return (⟨second, if s = 60 then nano + 1000000000 else nano, offset⟩, cs)

/-- Whether `c` may stand between a date and a time of day. -/
def isDateTimeMark (c : Char) : Bool := c = 'T' || c = 't' || c = ' '

/-- The moment at which a clock shows `clock` on the day `d`, if it is in range. -/
def ofClock? (d : Date) (clock : ClockTime) : Option Timestamp := do
  let second : Int := clock.second - clock.offset
  let date ← Date.ofNumber? (d.number + second / 86400)
  return ⟨date, (second % 86400).toNat, clock.nano⟩

/-- The moment that a text names, if it names one in range and nothing but blanks follows. -/
def ofText? (text : String) : Option Timestamp := do
  let ((y, m, d), cs) ← Date.readYmd? text.toList
  let date ← Date.ofYmd? y m d
  match cs with
  | [] => none
  | mark :: cs =>
      guard (isDateTimeMark mark)
      let (clock, cs) ← readClock? cs
      guard (dropBlanks cs).isEmpty
      ofClock? date clock

end Timestamp

end Cashbook
