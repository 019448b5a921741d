import Cashbook.Predicate.Basic
import Cashbook.Query.Token

/-!
# The written form of a predicate

`Predicate.toText` writes a predicate as a filter query: an atom as a field with its value, a join
between parentheses with its word between the operands, a negation as `not` and its operand.

A value is written as a bare word if it can be read as one in the place of an operand without being
taken for a keyword, and between double quotes if not.
-/

namespace Cashbook

open Query

namespace Predicate

/-- The words that stand for a connective or a predicate of their own. -/
def keywords : List String := ["and", "or", "not", "any", "uncategorized"]

/-- Whether `value` is written without quotes. -/
def isBare (value : String) : Bool :=
  value ≠ "" && value.toList.all isWordChar && !keywords.contains value

/-- The written form of a value. -/
def valueText (value : String) : List Char :=
  if isBare value then value.toList else (Text.literal value).toList

/-- The written form of a field and its value. -/
def fieldText (key value : String) : List Char := key.toList ++ ':' :: valueText value

mutual

/-- The characters of the written form of a predicate. -/
def toChars : Predicate → List Char
  | any => "any".toList
  | kind k => "type:".toList ++ k.name.toList
  | category name => fieldText "category" name
  | uncategorized => "uncategorized".toList
  | account name => fieldText "account" name
  | tag label => fieldText "tag" label
  | comment needle => fieldText "comment" needle
  | and operands => '(' :: (joined " and ".toList operands ++ [')'])
  | or operands => '(' :: (joined " or ".toList operands ++ [')'])
  | not operand => "not ".toList ++ toChars operand

/-- The written forms of some predicates, with `gap` between each two. -/
def joined (gap : List Char) : List Predicate → List Char
  | [] => []
  | p :: ps => toChars p ++ continued gap ps

/-- The written forms of some predicates, with `gap` before each. -/
def continued (gap : List Char) : List Predicate → List Char
  | [] => []
  | p :: ps => gap ++ toChars p ++ continued gap ps

end

/-- The written form of a predicate. -/
def toText (p : Predicate) : String := String.ofList p.toChars

end Predicate

end Cashbook
