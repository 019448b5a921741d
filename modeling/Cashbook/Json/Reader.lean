import Cashbook.Json.Basic
import Cashbook.Text.Numeral

/-!
# Reading JSON

`Json.ofText?` reads a text that is one JSON value with blanks around it.  The grammar is the one of
the standard: no comments, no comma after the last item, no zeros before a number and no control
characters in a string.

### The design decision

A value contains values, so the readers of a value, of the items of a list and of the fields of an
object call each other.  Each call takes one unit of a budget.  The budget is one more than twice
the length of the text, and of two calls one inside the other the text has a character between them,
or the second is the call for an item and reads a character itself.
-/

namespace Cashbook

namespace Json

open Text

/-- The blanks that may stand around a value. -/
def isSpace (c : Char) : Bool := c = ' ' || c = '\t' || c = '\n' || c = '\r'

/-- The text without the blanks at its head. -/
def dropSpaces (cs : List Char) : List Char := cs.dropWhile isSpace

/-- The value of a hexadecimal digit. -/
def hexDigit? (c : Char) : Option Nat :=
  if '0' ≤ c ∧ c ≤ '9' then some (c.toNat - '0'.toNat)
  else if 'a' ≤ c ∧ c ≤ 'f' then some (c.toNat - 'a'.toNat + 10)
  else if 'A' ≤ c ∧ c ≤ 'F' then some (c.toNat - 'A'.toNat + 10)
  else none

/-- One piece of the inside of a string. -/
inductive Piece
  /-- A character, written as itself or by a sign after a backslash. -/
  | char (c : Char)
  /-- A unit of sixteen bits, written in hexadecimal digits. -/
  | unit (n : Nat)

/-- The character that a sign stands for after a backslash. -/
def unescape? : Char → Option Char
  | '"' => some '"'
  | '\\' => some '\\'
  | '/' => some '/'
  | 'b' => some '\x08'
  | 'f' => some '\x0c'
  | 'n' => some '\n'
  | 'r' => some '\r'
  | 't' => some '\t'
  | _ => none

/-- Where the reader of a string stands. -/
inductive Place
  /-- Before a piece. -/
  | plain
  /-- After a backslash. -/
  | escape
  /-- Before the last `left + 1` hexadecimal digits of a unit, of which those read make `n`. -/
  | hex (left n : Nat)

/-- Reads the pieces of a string up to its closing quote; `read` holds the pieces so far, latest
first. -/
def readPieces? (read : List Piece) (place : Place) : List Char → Option (List Piece × List Char)
  | [] => none
  | c :: cs =>
      match place with
      | .plain =>
          if c = '"' then some (read.reverse, cs)
          else if c.toNat < 0x20 then none
          else if c = '\\' then readPieces? read .escape cs
          else readPieces? (.char c :: read) .plain cs
      | .escape =>
          if c = 'u' then readPieces? read (.hex 3 0) cs
          else
            match unescape? c with
            | some d => readPieces? (.char d :: read) .plain cs
            | none => none
      | .hex left n =>
          match left, hexDigit? c with
          | _, none => none
          | 0, some d => readPieces? (.unit (16 * n + d) :: read) .plain cs
          | left + 1, some d => readPieces? read (.hex left (16 * n + d)) cs

/-- Whether a unit is the first half of a surrogate pair. -/
def isLeading (n : Nat) : Bool := 0xD800 ≤ n && n < 0xDC00

/-- Whether a unit is the second half of a surrogate pair. -/
def isTrailing (n : Nat) : Bool := 0xDC00 ≤ n && n < 0xE000

/-- The characters that the pieces stand for, unless a half of a surrogate pair stands alone. -/
def decode? : List Piece → Option (List Char)
  | [] => some []
  | .char c :: ps => (decode? ps).map (c :: ·)
  | .unit n :: .unit m :: ps =>
      if isLeading n && isTrailing m then
        (decode? ps).map (Char.ofNat (0x10000 + 0x400 * (n - 0xD800) + (m - 0xDC00)) :: ·)
      else if isLeading n || isTrailing n then none
      else (decode? (.unit m :: ps)).map (Char.ofNat n :: ·)
  | .unit n :: ps =>
      if isLeading n || isTrailing n then none else (decode? ps).map (Char.ofNat n :: ·)

/-- Reads a string after its opening quote: the text that it decodes to, if any, and what
follows. -/
def readString? (cs : List Char) : Option (Option String × List Char) :=
  (readPieces? [] .plain cs).map fun r => ((decode? r.1).map String.ofList, r.2)

/-- The digits at the head of the text, and what follows them. -/
def spanDigits (cs : List Char) : List Nat × List Char :=
  (cs.takeWhile Char.isDigit |>.filterMap digit?, cs.dropWhile Char.isDigit)

/-- Reads the digits before the point: a zero alone, or digits that do not begin with a zero. -/
def readWhole? (cs : List Char) : Option (List Nat × List Char) :=
  match spanDigits cs with
  | ([], _) => none
  | (0 :: _ :: _, _) => none
  | r => some r

/-- Reads the point and the digits after it, if there is a point. -/
def readFraction? : List Char → Option (List Nat × List Char)
  | '.' :: cs =>
      match spanDigits cs with
      | ([], _) => none
      | r => some r
  | cs => some ([], cs)

/-- Reads the exponent after its mark. -/
def readSignedExponent? : List Char → Option (Int × List Char)
  | '+' :: cs => (longNumeral? cs).map fun r => ((r.1 : Int), r.2)
  | '-' :: cs => (longNumeral? cs).map fun r => (-r.1, r.2)
  | cs => (longNumeral? cs).map fun r => ((r.1 : Int), r.2)

/-- Reads the exponent, if there is one. -/
def readExponent? : List Char → Option (Option Int × List Char)
  | 'e' :: cs => (readSignedExponent? cs).map fun r => (some r.1, r.2)
  | 'E' :: cs => (readSignedExponent? cs).map fun r => (some r.1, r.2)
  | cs => some (none, cs)

/-- Reads a number without its sign. -/
def readNumber? (negative : Bool) (cs : List Char) : Option (Json × List Char) := do
  let (before, cs) ← readWhole? cs
  let (after, cs) ← readFraction? cs
  let (exponent, cs) ← readExponent? cs
  return (number (.ofDigits negative before after exponent), cs)

/-- Reads the characters of `word`. -/
def readWord? (word : List Char) (v : Json) (cs : List Char) : Option (Json × List Char) :=
  if word.isPrefixOf cs then some (v, cs.drop word.length) else none

/-- Reads a value that is neither a list nor an object. -/
def readScalar? : List Char → Option (Json × List Char)
  | '"' :: cs => (readString? cs).map fun r => (string r.1, r.2)
  | '-' :: cs => readNumber? true cs
  | 't' :: cs => readWord? "rue".toList (bool true) cs
  | 'f' :: cs => readWord? "alse".toList (bool false) cs
  | 'n' :: cs => readWord? "ull".toList null cs
  | cs => readNumber? false cs

/-- Reads the key of a field and the colon after it. -/
def readKey? (cs : List Char) : Option (Option String × List Char) :=
  match dropSpaces cs with
  | '"' :: cs => do
      let (key, cs) ← readString? cs
      let cs ← afterChar? ':' (dropSpaces cs)
      return (key, cs)
  | _ => none

mutual

/-- Reads a value at the head of the text, blanks before it. -/
def readValue? : Nat → List Char → Option (Json × List Char)
  | 0, _ => none
  | fuel + 1, cs =>
      match dropSpaces cs with
      | '[' :: cs =>
          match dropSpaces cs with
          | ']' :: cs => some (array [], cs)
          | cs => (readItems? fuel cs).map fun r => (array r.1, r.2)
      | '\x7b' :: cs =>
          match dropSpaces cs with
          | '\x7d' :: cs => some (object [], cs)
          | cs => (readFields? fuel cs).map fun r => (object r.1, r.2)
      | cs => readScalar? cs

/-- Reads the items of a list, at least one, and the bracket that closes it. -/
def readItems? : Nat → List Char → Option (List Json × List Char)
  | 0, _ => none
  | fuel + 1, cs =>
      match readValue? fuel cs with
      | none => none
      | some (v, cs) =>
          match dropSpaces cs with
          | ']' :: cs => some ([v], cs)
          | ',' :: cs => (readItems? fuel cs).map fun r => (v :: r.1, r.2)
          | _ => none

/-- Reads the fields of an object, at least one, and the brace that closes it. -/
def readFields? : Nat → List Char → Option (List (Option String × Json) × List Char)
  | 0, _ => none
  | fuel + 1, cs =>
      match readKey? cs with
      | none => none
      | some (key, cs) =>
          match readValue? fuel cs with
          | none => none
          | some (v, cs) =>
              match dropSpaces cs with
              | '\x7d' :: cs => some ([(key, v)], cs)
              | ',' :: cs => (readFields? fuel cs).map fun r => ((key, v) :: r.1, r.2)
              | _ => none

end

/-- The value that a text is, if it is one value with blanks around it. -/
def ofText? (text : String) : Option Json :=
  let cs := text.toList
  match readValue? (2 * cs.length + 1) cs with
  | some (v, rest) => if (dropSpaces rest).isEmpty then some v else none
  | none => none

end Json

end Cashbook
