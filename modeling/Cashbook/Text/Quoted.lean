import Cashbook.Text.Printable

/-!
# Quoted texts

Two written forms of a text between double quotes.

* `literal` is the form of the query language: a backslash, a double quote, a line feed, a carriage
  return and a tab are written as a backslash and a letter or sign, and every other character stands
  for itself.  `unescape?` names the character that a letter or sign after a backslash stands for.
* `display` is the form in which a message shows a text: characters that would not be seen, or not
  be seen alone, are shown by their code point in hexadecimal digits.
-/

namespace Cashbook.Text

/-- The character that `c` stands for after a backslash in a query. -/
def unescape? : Char → Option Char
  | '\\' => some '\\'
  | '"' => some '"'
  | 'n' => some '\n'
  | 'r' => some '\r'
  | 't' => some '\t'
  | _ => none

/-- How the inside of a quoted text of a query writes `c`. -/
def escape (c : Char) : List Char :=
  if c = '\\' then ['\\', '\\']
  else if c = '"' then ['\\', '"']
  else if c = '\n' then ['\\', 'n']
  else if c = '\r' then ['\\', 'r']
  else if c = '\t' then ['\\', 't']
  else [c]

/-- The inside of the quoted text that stands for `cs` in a query. -/
def escapeAll (cs : List Char) : List Char := cs.flatMap escape

@[simp] theorem escapeAll_nil : escapeAll [] = [] := rfl

@[simp] theorem escapeAll_cons (c : Char) (cs : List Char) :
    escapeAll (c :: cs) = escape c ++ escapeAll cs := rfl

/-- A character is written either as itself, and is then neither a quote nor a backslash, or as a
backslash and a sign that stands for it. -/
theorem escape_cases (c : Char) :
    (escape c = [c] ∧ c ≠ '"' ∧ c ≠ '\\') ∨ ∃ e, escape c = ['\\', e] ∧ unescape? e = some c := by
  by_cases h1 : c = '\\'
  · subst h1; exact Or.inr ⟨'\\', rfl, rfl⟩
  by_cases h2 : c = '"'
  · subst h2; exact Or.inr ⟨'"', rfl, rfl⟩
  by_cases h3 : c = '\n'
  · subst h3; exact Or.inr ⟨'n', rfl, rfl⟩
  by_cases h4 : c = '\r'
  · subst h4; exact Or.inr ⟨'r', rfl, rfl⟩
  by_cases h5 : c = '\t'
  · subst h5; exact Or.inr ⟨'t', rfl, rfl⟩
  exact Or.inl ⟨by simp [escape, h1, h2, h3, h4, h5], h2, h1⟩

/-- The quoted text that stands for `text` in a query. -/
def literal (text : String) : String :=
  String.ofList ('"' :: (escapeAll text.toList ++ ['"']))

/-- The hexadecimal digits of `n`, in small letters. -/
def hexDigits (n : Nat) : List Char := Nat.toDigits 16 n

/-- How a message shows `c` between double quotes. -/
def displayChar (c : Char) : List Char :=
  if c = '\x00' then ['\\', '0']
  else if c = '\t' then ['\\', 't']
  else if c = '\r' then ['\\', 'r']
  else if c = '\n' then ['\\', 'n']
  else if c = '"' then ['\\', '"']
  else if c = '\\' then ['\\', '\\']
  else if isPrintable c then [c]
  else ['\\', 'u', '\x7b'] ++ hexDigits c.toNat ++ ['\x7d']

/-- How a message shows `text`: between double quotes, each character by `displayChar`. -/
def display (text : String) : String :=
  String.ofList ('"' :: (text.toList.flatMap displayChar ++ ['"']))

end Cashbook.Text
