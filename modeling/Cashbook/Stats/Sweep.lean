import Cashbook.Calendar.Period
import Cashbook.Stats.Reducer
import Cashbook.Store

/-!
# The sweep

`Sweep.run` goes through the days of a period, one after the other, and feeds a reducer: each day it
announces the day, and then hands over the live operations of that day that pass the filter, in the
order of the log.  After the last day it tells the reducer that there are no more.  The first
failure ends the sweep.

### The design decision

The log is in the order of time, so it is read only once: `feed` takes the operations of a day off
the front of what is left of it, and passes over the tombstones and over what lies before the
period.
-/

namespace Cashbook

/-- What a sweep did. -/
structure Summary where
  /-- The period that it went through. -/
  period : Period
  /-- How many days it counted off. -/
  days : Nat
  /-- How many operations it handed over. -/
  dispatched : Nat
  deriving DecidableEq

/-- The reducer after a sweep, and what the sweep did or why it failed. -/
structure Outcome (σ : Type) where
  /-- The reducer. -/
  state : σ
  /-- What the sweep did, or why it failed. -/
  result : Except Error Summary

namespace Sweep

variable {σ : Type} [Reducer σ]

/-- A sweep on its way. -/
structure Progress (σ : Type) where
  /-- The reply of the reducer to the call before. -/
  reply : Reply σ
  /-- The operations that have not been looked at. -/
  pending : List Operation
  /-- How many operations have been handed over. -/
  dispatched : Nat

/-- Hands over the operations of the day `d` that are at the front of the log. -/
def feed (m : Matcher) (d : Date) (s : σ) (n : Nat) : List Operation → Progress σ
  | [] => ⟨.ok s, [], n⟩
  | op :: log =>
      match op.date? with
      | none => feed m d s n log
      | some e =>
          if d < e then ⟨.ok s, op :: log, n⟩
          else if e < d || !m op then feed m d s n log
          else
            let r := Reducer.process s op
            match r.error with
            | some _ => ⟨r, log, n⟩
            | none => feed m d r.state (n + 1) log

/-- Announces the day that the tracker has reached, and hands over its operations. -/
def day (m : Matcher) (t : Tracker) (s : σ) (n : Nat) (log : List Operation) : Progress σ :=
  let r := Reducer.newDay s t.current
  match r.error with
  | some _ => ⟨r, log, n⟩
  | none => feed m t.current.date r.state n log

/-- Goes through the `days` that are left, and tells the reducer when there are no more. -/
def walk (m : Matcher) : List Date → Tracker → σ → Nat → List Operation → Progress σ
  | [], _, s, n, log => ⟨Reducer.done s, log, n⟩
  | d :: days, t, s, n, log =>
      let t := t.advance d
      let p := day m t s n log
      match p.reply.error with
      | some _ => p
      | none => walk m days t p.reply.state p.dispatched p.pending

/-- The period from the first live operation of a log to the last one; `today` stands for what is
missing. -/
def fullPeriod (log : List Operation) (today : Date) : Period :=
  ⟨(Store.firstDateOf? log).getD today, (Store.lastDateOf? log).getD today⟩

/-- Feeds `s` with the operations of the store that pass the filter `p`, from the first day of the
period to the last; without a period, from the first operation to the last. -/
def run (store : Store) (today : Date) (p : Predicate) (period : Option Period) (s : σ) :
    Outcome σ :=
  match store.snapshot with
  | .error e => ⟨s, .error e⟩
  | .ok log =>
      match p.compile with
      | .error join => ⟨s, .error (.emptyJoin join)⟩
      | .ok m =>
          let period := period.getD (fullPeriod log today)
          let w := walk m period.days (.create period.start today) s 0 log
          match w.reply.error with
          | some e => ⟨w.reply.state, .error e⟩
          | none => ⟨w.reply.state, .ok ⟨period, period.length, w.dispatched⟩⟩

end Sweep

end Cashbook
