/-!
# Blank characters

The characters that separate words: the Unicode property `White_Space`, which holds of twenty-five
code points.  `isBlank` decides the property, and `isBlankText` decides whether a text has nothing
but such characters in it.

### The design decision

The property is written as a list of code point ranges, the form in which the standard publishes
it, so that every table of this library is looked up by the one function `inRanges`.
-/

namespace Cashbook.Text

/-- Whether the code point of `c` lies in one of the `ranges`, both ends included. -/
def inRanges (ranges : List (Nat × Nat)) (c : Char) : Bool :=
  ranges.any fun r => r.1 ≤ c.toNat && c.toNat ≤ r.2

/-- The code points with the property `White_Space`. -/
def blankRanges : List (Nat × Nat) :=
  [(0x9, 0xD), (0x20, 0x20), (0x85, 0x85), (0xA0, 0xA0), (0x1680, 0x1680), (0x2000, 0x200A),
    (0x2028, 0x2029), (0x202F, 0x202F), (0x205F, 0x205F), (0x3000, 0x3000)]

/-- Whether `c` separates words. -/
def isBlank (c : Char) : Bool := inRanges blankRanges c

/-- Whether `text` has no character that is not blank. -/
def isBlankText (text : String) : Bool := text.toList.all isBlank

/-- Membership in a table, as an inequality between code points. -/
theorem inRanges_eq_true_iff (ranges : List (Nat × Nat)) (c : Char) :
    inRanges ranges c = true ↔ ∃ r ∈ ranges, r.1 ≤ c.toNat ∧ c.toNat ≤ r.2 := by
  simp [inRanges]

/-- What core calls whitespace is blank: a space, a tab, a line feed or a carriage return. -/
theorem isBlank_of_isWhitespace {c : Char} (h : c.isWhitespace = true) : isBlank c = true := by
  simp only [Char.isWhitespace, Bool.or_eq_true, decide_eq_true_eq] at h
  rcases h with ((rfl | rfl) | rfl) | rfl <;> decide

end Cashbook.Text
