import Cashbook.Text.Quoted

/-!
# Tokens of a filter query

A query is a list of tokens: bare words, quoted texts, the separators `:`, `(` and `)`, and the
operators `!`, `&` and `|`.  A `Span` says which characters of the query a token was read from.
-/

namespace Cashbook.Query

/-- A run of characters of a text: those at the positions `start`, …, `stop - 1`. -/
structure Span where
  /-- The position of the first character. -/
  start : Nat
  /-- The position after the last character. -/
  stop : Nat
  deriving DecidableEq, Repr

/-- The part of a span that lies in a text of `length` characters. -/
def Span.clamp (s : Span) (length : Nat) : Span :=
  let start := min s.start length
  ⟨start, max (min s.stop length) start⟩

/-- Something read from a text, with the characters it was read from. -/
structure Located (α : Type) where
  /-- What was read. -/
  item : α
  /-- Where it stands. -/
  span : Span
  deriving DecidableEq, Repr

/-- A sign that divides the parts of a query. -/
inductive Separator
  /-- `:`, between the name of a field and its value. -/
  | colon
  /-- `(`, which opens a group. -/
  | opening
  /-- `)`, which closes a group. -/
  | closing
  deriving DecidableEq, Repr

/-- A sign that stands for a connective. -/
inductive Operator
  /-- `!`, short for `not`. -/
  | bang
  /-- `&`, short for `and`. -/
  | ampersand
  /-- `|`, short for `or`. -/
  | bar
  deriving DecidableEq, Repr

/-- The sign of a separator. -/
def Separator.sign : Separator → Char
  | .colon => ':'
  | .opening => '('
  | .closing => ')'

/-- The sign of an operator. -/
def Operator.sign : Operator → Char
  | .bang => '!'
  | .ampersand => '&'
  | .bar => '|'

/-- The smallest unit of a query. -/
inductive Token
  /-- A run of characters that are neither blank nor reserved. -/
  | word (text : String)
  /-- The text that stood between double quotes, its escapes replaced. -/
  | quoted (text : String)
  /-- A separator. -/
  | separator (s : Separator)
  /-- An operator. -/
  | operator (o : Operator)
  deriving DecidableEq, Repr

namespace Token

/-- The token that a single character is by itself, if it is a separator or an operator. -/
def ofSign? : Char → Option Token
  | ':' => some (.separator .colon)
  | '(' => some (.separator .opening)
  | ')' => some (.separator .closing)
  | '!' => some (.operator .bang)
  | '&' => some (.operator .ampersand)
  | '|' => some (.operator .bar)
  | _ => none

/-- The text that a word or a quoted text carries. -/
def text? : Token → Option String
  | .word text => some text
  | .quoted text => some text
  | .separator _ => none
  | .operator _ => none

/-- How a message names the token. -/
def display : Token → String
  | .word text => text
  | .quoted text => Text.display text
  | .separator s => s.sign.toString
  | .operator o => o.sign.toString

end Token

/-- A separator is the token of its sign. -/
@[simp] theorem Token.ofSign?_separator (s : Separator) :
    Token.ofSign? s.sign = some (.separator s) := by
  cases s <;> rfl

/-- An operator is the token of its sign. -/
@[simp] theorem Token.ofSign?_operator (o : Operator) :
    Token.ofSign? o.sign = some (.operator o) := by
  cases o <;> rfl

/-- Whether `c` has a meaning of its own in a query, so that no bare word holds it. -/
def isReserved (c : Char) : Bool := c = '"' || (Token.ofSign? c).isSome

/-- Whether `c` can stand in a bare word. -/
def isWordChar (c : Char) : Bool := !Text.isBlank c && !isReserved c

end Cashbook.Query
