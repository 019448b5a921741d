import Cashbook.Query.Token

/-!
# Reading the tokens of a query

`lex` cuts a query into its tokens.  Blanks stand between tokens and mean nothing; a separator or
an operator is one character; a bare word goes on for as long as it can; a quoted text ends at the
first double quote that no backslash stands before.

### The design decisions

**A machine that reads one character at a time.**  `scan` recurses on the characters that are left
and carries a `Mode`, which says what the characters read so far are the beginning of.  Only inside
a quoted text can a character be refused, so the position at which `scan` gives up is by itself the
first place where the text stops being the beginning of any query.

**A blank query.**  An empty query has no tokens, while a query of blanks alone is refused: at
least one token has to stand among the blanks.
-/

namespace Cashbook.Query

/-- Why a text has no tokens. -/
inductive LexError
  /-- The text is not empty and all of it is blank. -/
  | blank
  /-- The text ends at `position` inside a quoted text. -/
  | unclosed (position : Nat)
  /-- The character `sign` at `position` follows a backslash and stands for nothing there. -/
  | badEscape (position : Nat) (sign : Char)
  deriving DecidableEq, Repr

/-- What the characters read last are the beginning of. -/
inductive Mode
  /-- Nothing: a token may begin. -/
  | gap
  /-- A bare word that began at `start`, its characters latest first. -/
  | word (start : Nat) (read : List Char)
  /-- A quoted text whose opening quote stands at `start`, its characters latest first. -/
  | quoted (start : Nat) (read : List Char)
  /-- The same, after a backslash. -/
  | escaped (start : Nat) (read : List Char)
  deriving DecidableEq, Repr

/-- A bare word from its characters, latest first. -/
def wordAt (start stop : Nat) (read : List Char) : Located Token :=
  ⟨.word (String.ofList read.reverse), ⟨start, stop⟩⟩

/-- A quoted text from its characters, latest first. -/
def quotedAt (start stop : Nat) (read : List Char) : Located Token :=
  ⟨.quoted (String.ofList read.reverse), ⟨start, stop⟩⟩

/-- The tokens that `c` at position `k` completes when no word is open, and the mode after it. -/
def beginToken (k : Nat) (c : Char) : List (Located Token) × Mode :=
  if Text.isBlank c then ([], .gap)
  else if c = '"' then ([], .quoted k [])
  else
    match Token.ofSign? c with
    | some t => ([⟨t, ⟨k, k + 1⟩⟩], .gap)
    | none => ([], .word k [c])

/-- The tokens that `c` at position `k` completes in mode `m`, and the mode after it. -/
def step (m : Mode) (k : Nat) (c : Char) : Except LexError (List (Located Token) × Mode) :=
  match m with
  | .gap => .ok (beginToken k c)
  | .word s read =>
      if isWordChar c then .ok ([], .word s (c :: read))
      else
        let next := beginToken k c
        .ok (wordAt s k read :: next.1, next.2)
  | .quoted s read =>
      if c = '"' then .ok ([quotedAt s (k + 1) read], .gap)
      else if c = '\\' then .ok ([], .escaped s read)
      else .ok ([], .quoted s (c :: read))
  | .escaped s read =>
      match Text.unescape? c with
      | some d => .ok ([], .quoted s (d :: read))
      | none => .error (.badEscape k c)

/-- The tokens that the end of the text at position `k` completes. -/
def finish (m : Mode) (k : Nat) : Except LexError (List (Located Token)) :=
  match m with
  | .gap => .ok []
  | .word s read => .ok [wordAt s k read]
  | .quoted _ _ => .error (.unclosed k)
  | .escaped _ _ => .error (.unclosed k)

/-- The tokens of the characters that follow position `k`, from mode `m` on. -/
def scan (m : Mode) (k : Nat) : List Char → Except LexError (List (Located Token))
  | [] => finish m k
  | c :: cs =>
      match step m k c with
      | .error e => .error e
      | .ok (ts, m') => (scan m' (k + 1) cs).map (ts ++ ·)

@[simp] theorem scan_nil (m : Mode) (k : Nat) : scan m k [] = finish m k := rfl

theorem scan_cons (m : Mode) (k : Nat) (c : Char) (cs : List Char) :
    scan m k (c :: cs) =
      match step m k c with
      | .error e => .error e
      | .ok (ts, m') => (scan m' (k + 1) cs).map (ts ++ ·) := rfl

/-- Behind a character that is read, the rest is read. -/
theorem scan_cons_of_step {m m' : Mode} {k : Nat} {c : Char} {out : List (Located Token)}
    (h : step m k c = .ok (out, m')) (cs : List Char) :
    scan m k (c :: cs) = (scan m' (k + 1) cs).map (out ++ ·) := by
  rw [scan_cons, h]

/-- Behind a character that is read, the tokens are those of the rest. -/
theorem scan_cons_eq_ok_iff {m m' : Mode} {k : Nat} {c : Char} {out tokens : List (Located Token)}
    (h : step m k c = .ok (out, m')) (cs : List Char) :
    scan m k (c :: cs) = .ok tokens ↔
      ∃ rest, scan m' (k + 1) cs = .ok rest ∧ out ++ rest = tokens := by
  rw [scan_cons_of_step h]
  cases scan m' (k + 1) cs <;> simp [Except.map]

/-- Behind a character that is read, what goes wrong goes wrong in the rest. -/
theorem scan_cons_eq_error_iff {m m' : Mode} {k : Nat} {c : Char} {e : LexError}
    {out : List (Located Token)} (h : step m k c = .ok (out, m')) (cs : List Char) :
    scan m k (c :: cs) = .error e ↔ scan m' (k + 1) cs = .error e := by
  rw [scan_cons_of_step h]
  cases scan m' (k + 1) cs <;> simp [Except.map]

/-- The tokens of `text`, each with the characters it was read from. -/
def lex (text : String) : Except LexError (List (Located Token)) :=
  if text ≠ "" ∧ Text.isBlankText text then .error .blank
  else scan .gap 0 text.toList

end Cashbook.Query
