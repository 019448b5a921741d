/-!
# JSON values

A `Json` value is kept close to its text, because a reader of a record judges only the parts that it
uses: a number is its decimal digits, and a string is the text that it decodes to, or nothing when
its escapes name half of a surrogate pair.  So a field that nobody reads may hold a number beyond
every floating point range or a string that decodes to nothing.

* `Numeral.ofDigits` — the number that is written with given digits.
* `Numeral.toFloat?` — the double that a number stands for, unless that is an infinity.
* `Json.depth` — how deeply lists and objects are nested in a value.
* `Json.isSound` — every string in a value decodes and every number is in range.

### The design decision

A number is read in fixed precision.  Of its digits as many are kept as 64 bits hold; they are
rounded to a double, and that is multiplied or divided by a power of ten, which is rounded too.  A
number of at most fifteen digits whose exponent lies between -22 and 22 becomes the double nearest
to it, because then the digits and the power of ten are doubles themselves and only the last step
rounds.  Any other number becomes a double that is near, and not always the nearest.
-/

namespace Cashbook

/-- A number in decimal notation: `digits · 10 ^ exponent`, with a sign. -/
structure Numeral where
  /-- Whether a minus sign stands before the number. -/
  negative : Bool
  /-- The leading digits, read as one natural number: as many of them as 64 bits hold. -/
  digits : UInt64
  /-- The power of ten that the last of these digits counts. -/
  exponent : Int
  /-- Whether it is written without a point and without an exponent. -/
  whole : Bool
  deriving DecidableEq, Repr

namespace Numeral

/-- Appends digits to `n`, up to the first one that would take it beyond 64 bits; gives the number
and the digits that are left over. -/
def appendDigits (n : UInt64) : List Nat → UInt64 × List Nat
  | [] => (n, [])
  | d :: ds =>
      if 10 * n.toNat + d < UInt64.size then appendDigits (10 * n + d.toUInt64) ds else (n, d :: ds)

/-- The number with these digits before and after the point, and with this exponent if one is
written.  A digit before the point that is left over raises the exponent, because it still counts as
a place; one after the point is ignored. -/
def ofDigits (negative : Bool) (before after : List Nat) (exponent : Option Int) : Numeral :=
  let (n, dropped) := appendDigits 0 before
  let (n, ignored) := appendDigits n after
  { negative, digits := n
    exponent := exponent.getD 0 + dropped.length - (after.length - ignored.length : Nat)
    whole := after.isEmpty && exponent.isNone }

/-- The double nearest to a power of ten. -/
def powerOfTen (k : Nat) : Float := Float.ofScientific 1 false k

/-- The greatest exponent whose power of ten is below the greatest double. -/
def maxPower : Nat := 308

/-- The product of `x` and a power of ten, unless it is infinite.  An exponent that is too low for
one division takes several. -/
def scale? (x : Float) (exponent : Int) : Option Float :=
  if exponent < -(maxPower : Int) then
    if x == 0 then some x else scale? (x / powerOfTen maxPower) (exponent + maxPower)
  else if exponent < 0 then some (x / powerOfTen exponent.natAbs)
  else if x == 0 then some x
  else if maxPower < exponent ∨ (x * powerOfTen exponent.natAbs).isInf then none
  else some (x * powerOfTen exponent.natAbs)
termination_by (-exponent).toNat
decreasing_by simp only [maxPower] at *; omega

/-- The double that the number stands for, unless the number is too large for any. -/
def toFloat? (n : Numeral) : Option Float :=
  (scale? n.digits.toFloat n.exponent).map fun x => if n.negative then -x else x

/-- The integer that the number is, if it is written as one and no digit of it is left over.  Minus
zero is no integer. -/
def toInt? (n : Numeral) : Option Int :=
  if !n.whole ∨ n.exponent ≠ 0 ∨ (n.negative ∧ n.digits = 0) then none
  else some (if n.negative then -(n.digits.toNat : Int) else n.digits.toNat)

end Numeral

/-- A value of the JSON format. -/
inductive Json
  /-- The absent value. -/
  | null
  /-- A truth value. -/
  | bool (b : Bool)
  /-- A number. -/
  | number (n : Numeral)
  /-- A string, with the text that it decodes to if it decodes to one. -/
  | string (text : Option String)
  /-- A list. -/
  | array (items : List Json)
  /-- An object: its keys and their values, in the order of the text. -/
  | object (fields : List (Option String × Json))

namespace Json

mutual

/-- How deeply lists and objects are nested. -/
def depth : Json → Nat
  | array items => depthOfItems items + 1
  | object fields => depthOfFields fields + 1
  | _ => 0

/-- The greatest depth of the items of a list. -/
def depthOfItems : List Json → Nat
  | [] => 0
  | v :: vs => max (depth v) (depthOfItems vs)

/-- The greatest depth of the values of an object. -/
def depthOfFields : List (Option String × Json) → Nat
  | [] => 0
  | (_, v) :: fs => max (depth v) (depthOfFields fs)

end

mutual

/-- Whether every string decodes and every number is in range. -/
def isSound : Json → Bool
  | null => true
  | bool _ => true
  | number n => n.toFloat?.isSome
  | string text => text.isSome
  | array items => allSound items
  | object fields => fieldsSound fields

/-- Whether all items of a list are sound. -/
def allSound : List Json → Bool
  | [] => true
  | v :: vs => isSound v && allSound vs

/-- Whether all keys of an object decode and all values are sound. -/
def fieldsSound : List (Option String × Json) → Bool
  | [] => true
  | (key, v) :: fs => key.isSome && isSound v && fieldsSound fs

end

/-- The text of a string that decodes. -/
def toText? : Json → Option String
  | string text => text
  | _ => none

/-- The double that a number in range stands for. -/
def toFloat? : Json → Option Float
  | number n => n.toFloat?
  | _ => none

/-- The truth value. -/
def toBool? : Json → Option Bool
  | bool b => some b
  | _ => none

/-- The items of a list. -/
def toList? : Json → Option (List Json)
  | array items => some items
  | _ => none

/-- Reads a value that may be absent: `null` stands for nothing. -/
def toOption? {α : Type} (read? : Json → Option α) : Json → Option (Option α)
  | null => some none
  | v => (read? v).map some

/-- Reads every item of a list. -/
def readList? {α : Type} (read? : Json → Option α) (v : Json) : Option (List α) :=
  v.toList?.bind fun items => items.mapM read?

end Json

end Cashbook
