import Cashbook.Calendar.Tracker
import Cashbook.Error

/-!
# Reducers

A reducer is a state that a sweep feeds: with each day, then with the operations of that day, and at
the end with the news that there are no more.  Any of these may fail.

`Reply` is what a reducer answers: its state afterwards, which it keeps also if it failed, and the
error if it did.  A list of reducers, or a pair of them, is a reducer: each hook calls the members
from left to right, until one fails.
-/

namespace Cashbook

/-- The state after a call, and the error if the call failed. -/
structure Reply (σ : Type) where
  /-- The state after the call. -/
  state : σ
  /-- Why the call failed, if it did. -/
  error : Option Error

namespace Reply

variable {σ τ : Type}

/-- A call that succeeded. -/
def ok (s : σ) : Reply σ := ⟨s, none⟩

/-- A call that failed. -/
def fail (s : σ) (e : Error) : Reply σ := ⟨s, some e⟩

/-- The same reply about a state that holds the old one. -/
def map (f : σ → τ) (r : Reply σ) : Reply τ := ⟨f r.state, r.error⟩

/-- Goes on with `f` unless the call failed. -/
def andThen (r : Reply σ) (f : σ → Reply σ) : Reply σ :=
  match r.error with
  | none => f r.state
  | some _ => r

@[simp] theorem andThen_ok (s : σ) (f : σ → Reply σ) : (ok s).andThen f = f s := rfl

@[simp] theorem andThen_fail (s : σ) (e : Error) (f : σ → Reply σ) :
    (fail s e).andThen f = fail s e := rfl

end Reply

/-- A state that a sweep feeds.  A hook that a reducer does not define changes nothing. -/
class Reducer (σ : Type) where
  /-- A day begins. -/
  newDay : σ → Intervals → Reply σ := fun s _ => .ok s
  /-- An operation of the day. -/
  process : σ → Operation → Reply σ := fun s _ => .ok s
  /-- There are no more days. -/
  done : σ → Reply σ := .ok

namespace Reducer

variable {σ τ : Type}

/-- Calls a hook of every member of a list, from left to right, until one fails. -/
def each (hook : σ → Reply σ) : List σ → Reply (List σ)
  | [] => .ok []
  | s :: ss =>
      let r := hook s
      match r.error with
      | some e => .fail (r.state :: ss) e
      | none => (each hook ss).map (r.state :: ·)

instance [Reducer σ] : Reducer (List σ) where
  newDay ss iv := each (newDay · iv) ss
  process ss op := each (process · op) ss
  done ss := each done ss

/-- Calls a hook of both members of a pair, unless the first fails. -/
def both (first : σ → Reply σ) (second : τ → Reply τ) (s : σ × τ) : Reply (σ × τ) :=
  ((first s.1).map fun a => (a, s.2)).andThen fun s => (second s.2).map fun b => (s.1, b)

instance [Reducer σ] [Reducer τ] : Reducer (σ × τ) where
  newDay s iv := both (newDay · iv) (newDay · iv) s
  process s op := both (process · op) (process · op) s
  done s := both done done s

end Reducer

end Cashbook
