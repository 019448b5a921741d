import Cashbook.Calendar.Date
import Cashbook.Text.Numeral

/-!
# The text of a date

A date is written as its year, month and day with hyphens between them.  A year from 0 to 9999 has
four digits; any other year has a sign and at least four.

Reading is more liberal than writing.  Blanks may stand before each number and before each hyphen,
a month or a day may be a single digit, and a year may have fewer digits than four, or any number of
them after a sign.
-/

namespace Cashbook

open Text

/-- How a date writes the year `y`. -/
def yearText (y : Int) : List Char :=
  if 0 ≤ y ∧ y ≤ 9999 then padded 4 y.toNat
  else (if y < 0 then '-' else '+') :: padded 4 y.natAbs

namespace Date

/-- The characters of the text of `d`. -/
def toChars (d : Date) : List Char :=
  yearText d.year ++ '-' :: padded 2 d.month ++ '-' :: padded 2 d.day

/-- The text of `d`: `2020-02-29`, `-0001-12-31`, `+10000-01-01`. -/
def toText (d : Date) : String := String.ofList d.toChars

/-- Reads a year at the head of the text: up to four digits, or a sign and any number of digits. -/
def readYear? (cs : List Char) : Option (Int × List Char) :=
  match dropBlanks cs with
  | '-' :: cs => (longNumeral? cs).map fun r => (-r.1, r.2)
  | '+' :: cs => (longNumeral? cs).map fun r => ((r.1 : Int), r.2)
  | cs => (numeral? 4 cs).map fun r => ((r.1 : Int), r.2)

/-- Reads a number of one or two digits at the head of the text, blanks before it. -/
def readTwo? (cs : List Char) : Option (Nat × List Char) := numeral? 2 (dropBlanks cs)

/-- Reads the sign `c` at the head of the text, blanks before it. -/
def readSign? (c : Char) (cs : List Char) : Option (List Char) := afterChar? c (dropBlanks cs)

/-- Reads a year, a month and a day at the head of the text. -/
def readYmd? (cs : List Char) : Option ((Int × Nat × Nat) × List Char) := do
  let (y, cs) ← readYear? cs
  let cs ← readSign? '-' cs
  let (m, cs) ← readTwo? cs
  let cs ← readSign? '-' cs
  let (d, cs) ← readTwo? cs
  return ((y, m, d), cs)

/-- The date that a text names, if it names one in range and nothing but blanks follows. -/
def ofText? (text : String) : Option Date := do
  let ((y, m, d), cs) ← readYmd? text.toList
  guard (dropBlanks cs).isEmpty
  ofYmd? y m d

end Date

end Cashbook
