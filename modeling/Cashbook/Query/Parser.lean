import Cashbook.Predicate.Basic
import Cashbook.Query.Lexer

/-!
# Reading a predicate from the tokens of a query

The grammar, from the loosest connective to the tightest:

* an alternative is one conjunction or several, with `or` or `|` between them;
* a conjunction is one term or several, with `and` or `&` between them;
* a term is a term after `not` or `!`, an alternative between parentheses, the word `any`, the word
  `uncategorized`, or the word for a field, a colon and a value.

A chain of two operands or more becomes one join of all of them; a single operand stands for itself,
and a group stays a node of its own.

### The design decision

The tokens are read one at a time by `State.read`, which shifts and reduces: a `State` is a stack of
open groups, each with the operands that it has so far, and what may come next.  A token is refused
exactly when no query begins with the tokens up to it, so the first refusal is the place where a
query goes wrong, and `Wanted` says what was possible there.
-/

namespace Cashbook.Query

/-- An aspect of an operation that a query can ask for by name. -/
inductive Field
  /-- The kind of the operation. -/
  | kind
  /-- A category it has a share in. -/
  | category
  /-- An account it touches. -/
  | account
  /-- A label. -/
  | tag
  /-- A part of the remark. -/
  | comment
  deriving DecidableEq, Repr

/-- The field that a word names. -/
def Field.ofWord? (word : String) : Option Field :=
  if word = "type" then some .kind
  else if word = "category" ∨ word = "cat" then some .category
  else if word = "account" ∨ word = "acc" then some .account
  else if word = "tag" then some .tag
  else if word = "comment" then some .comment
  else none

/-- The kind that a query may ask for by `word`; tombstones cannot be asked for. -/
def liveKind? (word : String) : Option Kind :=
  (Kind.ofName? word).filter (· ≠ .deleted)

/-- The predicate that asks for `value` in a field, if there is one. -/
def Field.predicate? (value : String) : Field → Option Predicate
  | .kind => (liveKind? value).map .kind
  | .category => some (.category value)
  | .account => some (.account value)
  | .tag => some (.tag value)
  | .comment => some (.comment value)

/-- Whether the token negates the term after it. -/
def Token.isNot : Token → Bool
  | .word text => text = "not"
  | .operator o => o = .bang
  | _ => false

/-- Whether the token joins two terms of a conjunction. -/
def Token.isAnd : Token → Bool
  | .word text => text = "and"
  | .operator o => o = .ampersand
  | _ => false

/-- Whether the token joins two alternatives. -/
def Token.isOr : Token → Bool
  | .word text => text = "or"
  | .operator o => o = .bar
  | _ => false

/-- The predicate that a word stands for by itself. -/
def keyword? : Token → Option Predicate
  | .word text =>
      if text = "any" then some .any
      else if text = "uncategorized" then some .uncategorized
      else none
  | _ => none

/-- The field that a token names. -/
def Token.field? : Token → Option Field
  | .word text => Field.ofWord? text
  | _ => none

/-- What may come next in a query. -/
inductive Awaiting
  /-- A term, or a negation before it. -/
  | term
  /-- The colon after the name of a field. -/
  | colon (field : Field)
  /-- The value of a field. -/
  | value (field : Field)
  /-- What may follow a term: a connective, or the end of a group or of the query. -/
  | connective
  deriving DecidableEq, Repr

/-- An alternative of which the beginning has been read.  All operands stand latest first. -/
structure Group where
  /-- The conjunctions that are complete. -/
  conjunctions : List Predicate
  /-- The terms of the conjunction that is open. -/
  terms : List Predicate
  /-- How many negations stand before the next term. -/
  negations : Nat

/-- The beginning of a query. -/
structure State where
  /-- What may come next. -/
  awaiting : Awaiting
  /-- The innermost group that is open, or the query itself. -/
  inner : Group
  /-- The groups around it, the innermost first. -/
  outer : List Group

/-- What would have been possible where a query went wrong. -/
inductive Wanted
  /-- A term. -/
  | term
  /-- A colon. -/
  | colon
  /-- A value. -/
  | value
  /-- A connective or the end of the group. -/
  | groupConnective
  /-- A connective or the end of the query. -/
  | queryConnective
  deriving DecidableEq, Repr

/-- Why a token does not continue a query. -/
inductive Refusal
  /-- Something else would have been possible. -/
  | unexpected (wanted : Wanted)
  /-- The value is not the word for a kind of operation. -/
  | unknownKind (value : String)
  deriving DecidableEq, Repr

/-- A chain of operands, latest first, as one predicate: `join` of all of them, or the single
one. -/
def chain (join : List Predicate → Predicate) (reversed : List Predicate) : Predicate :=
  match reversed with
  | [p] => p
  | ps => join ps.reverse

/-- A predicate after `n` negations. -/
def negated : Nat → Predicate → Predicate
  | 0, p => p
  | n + 1, p => .not (negated n p)

namespace Group

/-- A group of which nothing has been read. -/
def empty : Group := ⟨[], [], 0⟩

/-- The group with one more term, which ends the negations before it. -/
def addTerm (g : Group) (p : Predicate) : Group :=
  ⟨g.conjunctions, negated g.negations p :: g.terms, 0⟩

/-- The group with one more negation. -/
def negate (g : Group) : Group := { g with negations := g.negations + 1 }

/-- The group whose open conjunction is complete. -/
def closeConjunction (g : Group) : Group :=
  ⟨chain .and g.terms :: g.conjunctions, [], 0⟩

/-- The predicate of a group that ends here. -/
def close (g : Group) : Predicate := chain .or (chain .and g.terms :: g.conjunctions)

end Group

namespace State

/-- The beginning of a query of which nothing has been read. -/
def initial : State := ⟨.term, .empty, []⟩

/-- The state after the term `p`. -/
def addTerm (s : State) (p : Predicate) : State := ⟨.connective, s.inner.addTerm p, s.outer⟩

/-- What may come next, as a message says it. -/
def wanted (s : State) : Wanted :=
  match s.awaiting with
  | .term => .term
  | .colon _ => .colon
  | .value _ => .value
  | .connective => if s.outer.isEmpty then .queryConnective else .groupConnective

/-- The refusal of a token that cannot come next. -/
def refuse (s : State) : Except Refusal State := .error (.unexpected s.wanted)

/-- Reads the beginning of a term. -/
def readTerm (s : State) (t : Token) : Except Refusal State :=
  if t.isNot then .ok { s with inner := s.inner.negate }
  else if t = .separator .opening then .ok ⟨.term, .empty, s.inner :: s.outer⟩
  else
    match keyword? t with
    | some p => .ok (s.addTerm p)
    | none =>
        match t.field? with
        | some f => .ok { s with awaiting := .colon f }
        | none => s.refuse

/-- Reads the colon after the name of a field. -/
def readColon (s : State) (f : Field) (t : Token) : Except Refusal State :=
  if t = .separator .colon then .ok { s with awaiting := .value f } else s.refuse

/-- Reads the value of a field. -/
def readValue (s : State) (f : Field) (t : Token) : Except Refusal State :=
  match t.text? with
  | none => s.refuse
  | some value =>
      match f.predicate? value with
      | some p => .ok (s.addTerm p)
      | none => .error (.unknownKind value)

/-- Reads what follows a term. -/
def readConnective (s : State) (t : Token) : Except Refusal State :=
  if t.isAnd then .ok { s with awaiting := .term }
  else if t.isOr then .ok { s with awaiting := .term, inner := s.inner.closeConjunction }
  else
    match s.outer with
    | [] => s.refuse
    | g :: outer =>
        if t = .separator .closing then .ok (addTerm ⟨.term, g, outer⟩ s.inner.close)
        else s.refuse

/-- The state after one more token. -/
def read (s : State) (t : Token) : Except Refusal State :=
  match s.awaiting with
  | .term => s.readTerm t
  | .colon f => s.readColon f t
  | .value f => s.readValue f t
  | .connective => s.readConnective t

/-- The predicate of a query that ends here, if it may end here. -/
def finish? (s : State) : Option Predicate :=
  if s.awaiting = .connective ∧ s.outer.isEmpty then some s.inner.close else none

end State

/-- Where the tokens of a query go wrong, and how. -/
inductive SyntaxError
  /-- At a token. -/
  | atToken (token : Located Token) (refusal : Refusal)
  /-- At the end. -/
  | atEnd (wanted : Wanted)
  deriving DecidableEq, Repr

/-- Reads the tokens of the rest of a query. -/
def parseFrom (s : State) : List (Located Token) → Except SyntaxError Predicate
  | [] =>
      match s.finish? with
      | some p => .ok p
      | none => .error (.atEnd s.wanted)
  | t :: ts =>
      match s.read t.item with
      | .ok s' => parseFrom s' ts
      | .error refusal => .error (.atToken t refusal)

/-- The predicate that the tokens of a query stand for. -/
def parse (tokens : List (Located Token)) : Except SyntaxError Predicate :=
  parseFrom .initial tokens

end Cashbook.Query
