import Cashbook.Query.Parser

/-!
# Reading a filter query

`parseQuery` reads a filter query: a blank text selects everything, and any other text is cut into
tokens and parsed.  A text that is no query gives a `ParseError`, which holds the text and the one
`Fault` found in it, located at the first place where the text stops being the beginning of a query.

`Fault.message` says what is wrong, and `Fault.label` is the remark that stands beside the place.
-/

namespace Cashbook.Query

/-- What stands where something else was possible. -/
inductive Found
  /-- A character of a text that has no tokens. -/
  | character (c : Char)
  /-- A token. -/
  | token (t : Token)
  /-- Nothing. -/
  | endOfInput
  deriving DecidableEq, Repr

/-- What is wrong with a query. -/
inductive Fault
  /-- A quoted text does not go on with a character or a quote. -/
  | brokenQuote (found : Found)
  /-- Something else would have been possible. -/
  | unexpected (found : Found) (wanted : Wanted)
  /-- The value is not the word for a kind of operation. -/
  | unknownKind (value : String)
  deriving DecidableEq, Repr

/-- A text that is no query. -/
structure ParseError where
  /-- The text. -/
  text : String
  /-- What is wrong with it, and where. -/
  fault : Located Fault
  deriving DecidableEq, Repr

/-- How a message names what was found. -/
def Found.describe : Found → String
  | .character c => s!"`{c}`"
  | .token t => s!"`{t.display}`"
  | .endOfInput => "end of input"

/-- How a message names what was possible. -/
def Wanted.describe : Wanted → String
  | .term => "a filter term"
  | .colon => "one of `:`"
  | .value => "a word or a quoted string"
  | .groupConnective => "one of `&`, `)`, `and`, `or`, `|`"
  | .queryConnective => "one of `&`, `and`, `or`, `|`, end of input"

/-- What is wrong, in one line. -/
def Fault.message : Fault → String
  | .brokenQuote found => s!"Unexpected {found.describe}, expected quoted string"
  | .unexpected found wanted => s!"Unexpected {found.describe}, expected {wanted.describe}"
  | .unknownKind value =>
      s!"Unknown operation type `{value}`, expected one of income, expense, transfer, adjustment"

/-- The remark beside the place. -/
def Fault.label : Fault → String
  | .brokenQuote found => s!"unexpected {found.describe}"
  | .unexpected found _ => s!"unexpected {found.describe}"
  | .unknownKind _ => "here"

/-- The fault of a text of `length` characters that has no tokens.  The end of a text is met as if
it were one more character. -/
def LexError.fault (length : Nat) : LexError → Located Fault
  | .blank => ⟨.unexpected .endOfInput .term, ⟨length, length + 1⟩⟩
  | .unclosed k => ⟨.brokenQuote .endOfInput, ⟨k, k + 1⟩⟩
  | .badEscape k c => ⟨.brokenQuote (.character c), ⟨k, k + 1⟩⟩

/-- The fault of a refused token. -/
def Refusal.fault (t : Token) : Refusal → Fault
  | .unexpected wanted => .unexpected (.token t) wanted
  | .unknownKind value => .unknownKind value

/-- The fault of the tokens of a text of `length` characters.  The end of the tokens is met as if it
were one more character of the text. -/
def SyntaxError.fault (length : Nat) : SyntaxError → Located Fault
  | .atToken t refusal => ⟨refusal.fault t.item, t.span⟩
  | .atEnd wanted => ⟨.unexpected .endOfInput wanted, ⟨length, length + 1⟩⟩

/-- The error of a text with a fault, which is shown only as far as it lies in the text. -/
def ParseError.create (text : String) (fault : Located Fault) : ParseError :=
  ⟨text, { fault with span := fault.span.clamp text.length }⟩

/-- The predicate that a filter query stands for. -/
def parseQuery (text : String) : Except ParseError Predicate :=
  if Text.isBlankText text then .ok .any
  else
    match lex text with
    | .error e => .error (.create text (e.fault text.length))
    | .ok tokens =>
        match parse tokens with
        | .error e => .error (.create text (e.fault text.length))
        | .ok p => .ok p

end Cashbook.Query
