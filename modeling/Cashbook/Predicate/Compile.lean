import Cashbook.Predicate.Basic

/-!
# Deciding a predicate

`Predicate.compile` turns a predicate into a `Matcher`, which can be asked about one operation after
the other.  It refuses a predicate that has a join without operands anywhere in it, and names the
first such join.

`Predicate.eval` is the meaning of a predicate, by recursion on it: `and` asks for all of its
operands, `or` for one, `not` for none.
-/

namespace Cashbook

/-- A decision about each operation. -/
abbrev Matcher := Operation → Bool

/-- The two ways of joining predicates. -/
inductive Join
  /-- All operands have to hold. -/
  | and
  /-- One operand has to hold. -/
  | or
  deriving DecidableEq, Repr

/-- The word for a join. -/
def Join.name : Join → String
  | .and => "and"
  | .or => "or"

namespace Predicate

mutual

/-- The decision that a predicate asks for, or the first of its joins that has no operands. -/
def compile : Predicate → Except Join Matcher
  | any => .ok fun _ => true
  | kind k => .ok fun op => op.kind = k
  | category name => .ok (inCategory name)
  | uncategorized => .ok withoutCategory
  | account name => .ok (onAccount name)
  | tag label => .ok (hasTag label)
  | comment needle => .ok (mentions needle)
  | and operands =>
      if operands.isEmpty then .error .and
      else (compileAll operands).map fun ms op => ms.all (· op)
  | or operands =>
      if operands.isEmpty then .error .or
      else (compileAll operands).map fun ms op => ms.any (· op)
  | not operand => (compile operand).map fun m op => !m op

/-- The decisions that some predicates ask for, or the first join among them without operands. -/
def compileAll : List Predicate → Except Join (List Matcher)
  | [] => .ok []
  | p :: ps =>
      match compile p with
      | .error e => .error e
      | .ok m => (compileAll ps).map (m :: ·)

end

mutual

/-- Whether `p` holds of `op`. -/
def eval (op : Operation) : Predicate → Bool
  | any => true
  | kind k => op.kind = k
  | category name => inCategory name op
  | uncategorized => withoutCategory op
  | account name => onAccount name op
  | tag label => hasTag label op
  | comment needle => mentions needle op
  | and operands => evalAll op operands
  | or operands => evalSome op operands
  | not operand => !eval op operand

/-- Whether all of the predicates hold of `op`. -/
def evalAll (op : Operation) : List Predicate → Bool
  | [] => true
  | p :: ps => eval op p && evalAll op ps

/-- Whether one of the predicates holds of `op`. -/
def evalSome (op : Operation) : List Predicate → Bool
  | [] => false
  | p :: ps => eval op p || evalSome op ps

end

mutual

/-- The first join without operands, going through a predicate from left to right and downwards. -/
def emptyJoin? : Predicate → Option Join
  | and operands => if operands.isEmpty then some .and else emptyJoinIn? operands
  | or operands => if operands.isEmpty then some .or else emptyJoinIn? operands
  | not operand => emptyJoin? operand
  | _ => none

/-- The first join without operands among some predicates. -/
def emptyJoinIn? : List Predicate → Option Join
  | [] => none
  | p :: ps => (emptyJoin? p).or (emptyJoinIn? ps)

end

end Predicate

end Cashbook
