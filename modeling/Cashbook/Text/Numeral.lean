import Cashbook.Text.Blank

/-!
# Decimal numerals in a text

Reading and writing of whole numbers in decimal digits, as dates, times and months need it.

* `numeral?` reads the digits at the head of a text, up to a limit, and gives what follows them.
* `integer?` reads a text that is a whole number and nothing else.
* `padded` writes a number with at least a given count of digits.
-/

namespace Cashbook.Text

/-- The value of a decimal digit. -/
def digit? (c : Char) : Option Nat :=
  if c.isDigit then some (c.toNat - '0'.toNat) else none

/-- The text without the blanks at its head. -/
def dropBlanks (cs : List Char) : List Char := cs.dropWhile isBlank

/-- Appends to the number `n` the digits at the head of the text, at most `limit` of them; gives the
number and what follows. -/
def readDigits (n : Nat) : Nat → List Char → Nat × List Char
  | 0, cs => (n, cs)
  | _ + 1, [] => (n, [])
  | limit + 1, c :: cs =>
      match digit? c with
      | some d => readDigits (10 * n + d) limit cs
      | none => (n, c :: cs)

/-- Reads between one and `limit` digits at the head of the text. -/
def numeral? (limit : Nat) (cs : List Char) : Option (Nat × List Char) :=
  match cs with
  | [] => none
  | c :: _ => if c.isDigit then some (readDigits 0 limit cs) else none

/-- The digits at the head of a text. -/
structure Run where
  /-- Their value. -/
  value : Nat
  /-- How many they are. -/
  count : Nat
  /-- What follows them. -/
  rest : List Char

/-- Appends to the number `n`, of `count` digits, all the digits at the head of the text. -/
def readRun (n count : Nat) : List Char → Run
  | [] => ⟨n, count, []⟩
  | c :: cs =>
      match digit? c with
      | some d => readRun (10 * n + d) (count + 1) cs
      | none => ⟨n, count, c :: cs⟩

/-- Reads all the digits at the head of the text, at least one. -/
def longNumeral? (cs : List Char) : Option (Nat × List Char) :=
  let r := readRun 0 0 cs
  if r.count = 0 then none else some (r.value, r.rest)

/-- Reads a text that is one digit after the other and has at least one. -/
def natural? (cs : List Char) : Option Nat :=
  match longNumeral? cs with
  | some (n, []) => some n
  | _ => none

/-- Reads a text that is a natural number, which a plus sign may stand before. -/
def unsigned? : List Char → Option Nat
  | '+' :: cs => natural? cs
  | cs => natural? cs

/-- Reads a text that is a whole number, which a sign may stand before. -/
def integer? : List Char → Option Int
  | '-' :: cs => (natural? cs).map fun n => -n
  | cs => (unsigned? cs).map fun n => n

/-- Reads the character `c`, then `rest`. -/
def afterChar? (c : Char) : List Char → Option (List Char)
  | [] => none
  | d :: rest => if d = c then some rest else none

/-- The digits of `n`, with as many zeros before them as make `width` digits. -/
def padded (width n : Nat) : List Char :=
  let digits := Nat.toDigits 10 n
  List.replicate (width - digits.length) '0' ++ digits

end Cashbook.Text
