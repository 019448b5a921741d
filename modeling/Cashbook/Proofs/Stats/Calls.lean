import Cashbook.Proofs.Lists
import Cashbook.Proofs.Stats.Script
import Cashbook.Proofs.Store.History
import Cashbook.Stats.Count

/-!
# Who is called when

A list of reducers hands each call on to its members (`Reducer.each`).  This file follows a sweep
down to the members: a `Call` says which member and which hook, and `makeCalls` makes calls one
after the other until one fails.

* `play_eq_makeCalls` — playing a script to a list of reducers is making the calls of the script,
  each spread over the members from left to right.
* `handedOver` — the operations that a sweep hands over, as one pass over the log instead of one for
  each day (`flatMap_due`).
* `run_load_calls` — the whole of it for a loaded store.

### The last date

Days are counted off only while there is a day after them (`Period.mem_days`).  A period that
reaches the last date of the calendar contains that date, and so says the promise that both ends are
included; but no reducer hears of it and its operations are left out.  `run_load_calls` says that
this is the only exception, and `not_hands_over_every_operation` that it is one.
-/

namespace Cashbook

namespace Sweep

open Operation Reply

variable {σ : Type} [Reducer σ]

/-! ### The members of a list -/

/-- A call of a hook of one member of a list of reducers. -/
structure Call where
  /-- The place of the member in the list. -/
  member : Nat
  /-- The hook, and what it is called with. -/
  event : Event
  deriving DecidableEq

/-- Calls the hook of that member; the others stay as they are. -/
def Call.make (ss : List σ) (c : Call) : Reply (List σ) :=
  match ss[c.member]? with
  | some s => (c.event.send s).map fun s => ss.set c.member s
  | none => .ok ss

/-- Makes some calls one after the other, until one fails. -/
def makeCalls (ss : List σ) : List Call → Reply (List σ)
  | [] => .ok ss
  | c :: cs => (c.make ss).andThen fun ss => makeCalls ss cs

theorem makeCalls_cons (ss : List σ) (c : Call) (cs : List Call) :
    makeCalls ss (c :: cs) = (c.make ss).andThen fun ss => makeCalls ss cs := rfl

theorem makeCalls_append (ss : List σ) (cs ds : List Call) :
    makeCalls ss (cs ++ ds) = (makeCalls ss cs).andThen fun ss => makeCalls ss ds := by
  induction cs generalizing ss with
  | nil => rfl
  | cons c cs ih =>
      rw [List.cons_append, makeCalls_cons, makeCalls_cons, andThen_assoc]
      congr 1
      funext ss
      exact ih ss

/-- The calls of one event: each of `n` members hears of it, from left to right. -/
def Event.spread (n : Nat) (e : Event) : List Call := (List.range n).map fun i => ⟨i, e⟩

/-- A call of the member behind `pre`. -/
theorem make_append (pre : List σ) (s : σ) (ss : List σ) (e : Event) :
    Call.make (pre ++ s :: ss) ⟨pre.length, e⟩ = (e.send s).map fun s => pre ++ s :: ss := by
  have hget : (pre ++ s :: ss)[pre.length]? = some s := by
    rw [List.getElem?_append_right (Nat.le_refl _), Nat.sub_self, List.getElem?_cons_zero]
  rw [Call.make, hget]
  dsimp only
  congr 1
  funext s'
  rw [List.set_append_right _ _ (Nat.le_refl _), Nat.sub_self, List.set_cons_zero]

/-- Calling each member of a list is making a call for each of them.  The members in front, which
have been called already, are part of the statement: the call of a member replaces it where it
stands. -/
theorem makeCalls_range' (e : Event) (pre ss : List σ) :
    makeCalls (pre ++ ss) ((List.range' pre.length ss.length).map fun i => ⟨i, e⟩) =
      (Reducer.each e.send ss).map (pre ++ ·) := by
  induction ss generalizing pre with
  | nil => rfl
  | cons s ss ih =>
      rw [List.length_cons, List.range'_succ, List.map_cons, makeCalls_cons, make_append,
        Reducer.each]
      cases herror : (e.send s).error with
      | some x =>
          have hmap : ((e.send s).map fun s => pre ++ s :: ss).error = some x := herror
          rw [andThen_of_error hmap, Reply.map, herror]
          rfl
      | none =>
          have hmap : ((e.send s).map fun s => pre ++ s :: ss).error = none := herror
          have hnext := ih (pre ++ [(e.send s).state])
          rw [List.append_assoc, List.singleton_append, List.length_append,
            List.length_singleton] at hnext
          rw [andThen_of_none hmap]
          refine hnext.trans ?_
          dsimp only [Reply.map]
          rw [List.append_assoc, List.singleton_append]

/-- An event spreads over the members of a list. -/
theorem send_eq_makeCalls (e : Event) (ss : List σ) :
    e.send ss = makeCalls ss (e.spread ss.length) := by
  have h := makeCalls_range' e [] ss
  rw [send_list, Event.spread, List.range_eq_range']
  exact h.symm

omit [Reducer σ] in
/-- Calling a hook of its members does not change how many members a list has. -/
theorem length_each (hook : σ → Reply σ) (ss : List σ) :
    (Reducer.each hook ss).state.length = ss.length := by
  induction ss with
  | nil => rfl
  | cons s ss ih =>
      rw [Reducer.each]
      cases (hook s).error with
      | some x => rfl
      | none => exact congrArg (· + 1) ih

/-- **A script for a list of reducers** is played by calling its members. -/
theorem play_eq_makeCalls (ss : List σ) (es : List Event) :
    play ss es = makeCalls ss (es.flatMap (·.spread ss.length)) := by
  induction es generalizing ss with
  | nil => rfl
  | cons e es ih =>
      rw [play_cons, List.flatMap_cons, makeCalls_append, ← send_eq_makeCalls]
      cases herror : (e.send ss).error with
      | some x => rw [andThen_of_error herror, andThen_of_error herror]
      | none =>
          -- the calls are numbered for as many members as there were before the event
          have hlength : (e.send ss).state.length = ss.length := by
            rw [send_list]
            exact length_each e.send ss
          rw [andThen_of_none herror, andThen_of_none herror, ih, hlength]

/-! ### What is handed over -/

/-- The live operations of a log that pass the filter and are of a day of the period. -/
def wanted (m : Matcher) (log : List Operation) (period : Period) : List Operation :=
  log.filter fun op => m op && op.date?.any period.contains

/-- Those of them whose day is counted off. -/
def handedOver (m : Matcher) (log : List Operation) (period : Period) : List Operation :=
  (wanted m log period).filter fun op => op.date? ≠ some Date.last

variable {m : Matcher} {log : List Operation}

/-- **One pass instead of one for each day.**  What is due on ascending days, day by day, is what is
due on any of them, in the order of the log. -/
theorem flatMap_due {days : List Date} (hdays : days.Pairwise (· < ·)) (hlog : Chronological log) :
    days.flatMap (due m log) = log.filter fun op => m op && op.date?.any (· ∈ days) := by
  induction days with
  | nil =>
      refine (List.filter_eq_nil_iff.2 fun op _ => ?_).symm
      cases op.date? <;> simp
  | cons d days ih =>
      obtain ⟨hlater, hrest⟩ := List.pairwise_cons.1 hdays
      rw [List.flatMap_cons, ih hrest, due, Lists.filter_append_filter]
      · refine List.filter_congr fun op _ => ?_
        rw [isDue]
        cases op.date? <;> cases m op <;> simp
      · -- behind an operation of a later day there is none of the day `d`
        refine hlog.imp fun {a b} hab ha => ?_
        rw [Bool.and_eq_true, Option.any_eq_true] at ha
        obtain ⟨-, e, he, hmem⟩ := ha
        rw [isDue, Bool.and_eq_false_iff, decide_eq_false_iff_not]
        refine .inl fun hb => ?_
        exact Date.not_le.2 (hlater e (of_decide_eq_true hmem)) (hab e he d hb)
      · intro op _ hop
        rw [isDue, Bool.and_eq_true, decide_eq_true_eq] at hop
        rw [hop.1, Bool.and_eq_false_iff, Option.any_some, decide_eq_false_iff_not]
        exact .inr fun hmem => Date.lt_irrefl d (hlater d hmem)

/-- What is due on the days of a period is what is handed over. -/
theorem flatMap_due_days (m : Matcher) (hlog : Chronological log) (period : Period) :
    period.days.flatMap (due m log) = handedOver m log period := by
  rw [flatMap_due period.pairwise_days hlog, handedOver, wanted, List.filter_filter]
  refine List.filter_congr fun op _ => ?_
  cases hdate : op.date? with
  | none => simp
  | some d =>
      rw [Option.any_some, Option.any_some, Bool.eq_iff_iff]
      simp only [Bool.and_eq_true, decide_eq_true_eq, Period.mem_days, ne_eq, Option.some_inj]
      exact ⟨fun ⟨hm, hd, hne⟩ => ⟨hne, hm, hd⟩, fun ⟨hne, hm, hd⟩ => ⟨hm, hd, hne⟩⟩

/-- What is due on the days that a sweep meets is what is handed over. -/
theorem flatMap_due_visits (m : Matcher) (hlog : Chronological log) (t : Tracker)
    (period : Period) :
    ((t.visits period.days).flatMap fun iv => due m log iv.date) = handedOver m log period := by
  rw [Tracker.flatMap_visits, flatMap_due_days m hlog]

/-! ### The period of a sweep without a period -/

/-- The day that a sweep without a period begins with comes before all days of the log. -/
theorem fullPeriod_start_le (hlog : Chronological log) (today : Date) {op : Operation}
    (hop : op ∈ log) {d : Date} (hd : op.date? = some d) : (fullPeriod log today).start ≤ d := by
  rw [fullPeriod]
  cases hfirst : Store.firstDateOf? log with
  | some e => exact (Store.isLeast_firstDateOf? hlog hfirst).2 ⟨op, hop, hd⟩
  | none =>
      rw [List.findSome?_eq_none_iff.1 hfirst op hop] at hd
      cases hd

/-- The day that a sweep without a period ends with comes after all days of the log. -/
theorem le_fullPeriod_stop (hlog : Chronological log) (today : Date) {op : Operation}
    (hop : op ∈ log) {d : Date} (hd : op.date? = some d) : d ≤ (fullPeriod log today).stop := by
  rw [fullPeriod]
  cases hlast : Store.lastDateOf? log with
  | some e => exact (Store.isGreatest_lastDateOf? hlog hlast).2 ⟨op, hop, hd⟩
  | none =>
      rw [List.findSome?_eq_none_iff.1 hlast op (List.mem_reverse.2 hop)] at hd
      cases hd

/-- Without a period a sweep goes from the first day of the log to the last, or stays with `today`
if the log has no days. -/
def FromFirstToLast (log : List Operation) (today : Date) (period : Period) : Prop :=
  (∀ op ∈ log, ∀ d ∈ op.date?, period.contains d = true) ∧
    ((∃ op ∈ log, op.date? = some period.start) ∧ (∃ op ∈ log, op.date? = some period.stop) ∨
      (∀ op ∈ log, op.date? = none) ∧ period = ⟨today, today⟩)

theorem fromFirstToLast_fullPeriod (hlog : Chronological log) (today : Date) :
    FromFirstToLast log today (fullPeriod log today) := by
  constructor
  · intro op hop d hd
    rw [Period.contains, Bool.and_eq_true, decide_eq_true_eq, decide_eq_true_eq]
    exact ⟨fullPeriod_start_le hlog today hop hd, le_fullPeriod_stop hlog today hop hd⟩
  · -- tombstones have no day, so a log of nothing else has no first and no last one
    by_cases hlive : ∀ op ∈ log, op.date? = none
    · right
      have hfirst : log.findSome? (·.date?) = none := List.findSome?_eq_none_iff.2 hlive
      have hlast : log.reverse.findSome? (·.date?) = none :=
        List.findSome?_eq_none_iff.2 fun op hop => hlive op (List.mem_reverse.1 hop)
      rw [fullPeriod, Store.firstDateOf?, Store.lastDateOf?, hfirst, hlast]
      exact ⟨hlive, rfl⟩
    · left
      constructor
      · cases hfirst : log.findSome? (·.date?) with
        | none => exact absurd (List.findSome?_eq_none_iff.1 hfirst) hlive
        | some d =>
            rw [fullPeriod, Store.firstDateOf?, hfirst]
            exact List.exists_of_findSome?_eq_some hfirst
      · cases hlast : log.reverse.findSome? (·.date?) with
        | none =>
            refine absurd (fun op hop => ?_) hlive
            exact List.findSome?_eq_none_iff.1 hlast op (List.mem_reverse.2 hop)
        | some d =>
            obtain ⟨op, hop, hd⟩ := List.exists_of_findSome?_eq_some hlast
            rw [fullPeriod, Store.lastDateOf?, hlast]
            exact ⟨op, List.mem_reverse.1 hop, hd⟩

/-! ### The calls of a sweep -/

/-- The calls of a day: every member hears that it begins, and then of each operation that is due.
-/
def callsOfDay (n : Nat) (m : Matcher) (log : List Operation) (iv : Intervals) : List Call :=
  (Event.newDay iv).spread n ++ (due m log iv.date).flatMap fun op => (Event.process op).spread n

/-- The calls of a sweep through a period: those of its days, and at the end that it is over. -/
def callsOf (n : Nat) (m : Matcher) (log : List Operation) (today : Date) (period : Period) :
    List Call :=
  ((Tracker.create period.start today).visits period.days).flatMap (callsOfDay n m log) ++
    Event.done.spread n

/-- The calls of a sweep are those of its script. -/
theorem flatMap_spread_scriptOf (n : Nat) (m : Matcher) (log : List Operation) (today : Date)
    (period : Period) :
    (scriptOf m log today period).flatMap (·.spread n) = callsOf n m log today period := by
  rw [scriptOf, script, callsOf, List.flatMap_append, List.flatMap_assoc, List.flatMap_singleton]
  congr 2
  funext iv
  rw [dayScript, List.flatMap_cons, List.flatMap_map, callsOfDay]

/-- A sweep through a period without days only says that it is over. -/
theorem callsOf_of_stop_lt_start (n : Nat) (m : Matcher) (log : List Operation) (today : Date)
    {period : Period} (h : period.stop < period.start) :
    callsOf n m log today period = Event.done.spread n := by
  have hdays : period.days = [] := by
    refine List.eq_nil_iff_forall_not_mem.2 fun d hd => ?_
    have hin := (Period.mem_days.1 hd).1
    rw [Period.contains, Bool.and_eq_true, decide_eq_true_eq, decide_eq_true_eq] at hin
    rw [Date.lt_def] at h
    simp only [Date.le_def] at hin
    omega
  rw [callsOf, hdays]
  rfl

/-- The operation that a call hands to the member `i`. -/
def Call.processedBy? (i : Nat) (c : Call) : Option Operation :=
  match c.event with
  | .process op => if c.member = i then some op else none
  | _ => none

theorem filterMap_spread_newDay (i n : Nat) (iv : Intervals) :
    ((Event.newDay iv).spread n).filterMap (Call.processedBy? i) = [] := by
  rw [Event.spread, List.filterMap_map, List.filterMap_eq_nil_iff]
  exact fun _ _ => rfl

theorem filterMap_spread_done (i n : Nat) :
    (Event.done.spread n).filterMap (Call.processedBy? i) = [] := by
  rw [Event.spread, List.filterMap_map, List.filterMap_eq_nil_iff]
  exact fun _ _ => rfl

/-- An operation that is handed to all members is handed to each of them once. -/
theorem filterMap_spread_process {i n : Nat} (hi : i < n) (op : Operation) :
    ((Event.process op).spread n).filterMap (Call.processedBy? i) = [op] := by
  induction n with
  | zero => exact absurd hi (Nat.not_lt_zero i)
  | succ n ih =>
      rw [Event.spread, List.range_succ, List.map_append, List.filterMap_append]
      by_cases h : i = n
      · subst h
        have hnone : ((Event.process op).spread i).filterMap (Call.processedBy? i) = [] := by
          rw [Event.spread, List.filterMap_map, List.filterMap_eq_nil_iff]
          intro j hj
          exact if_neg (Nat.ne_of_lt (List.mem_range.1 hj))
        refine congrArg₂ (· ++ ·) hnone ?_
        simp [Call.processedBy?]
      · refine (congrArg₂ (· ++ ·) (ih (by omega)) ?_).trans (List.append_nil _)
        simp [Call.processedBy?, Ne.symm h]

/-- What each member is handed is the same. -/
theorem filterMap_callsOf {i n : Nat} (hi : i < n) (hlog : Chronological log) (today : Date)
    (period : Period) :
    (callsOf n m log today period).filterMap (Call.processedBy? i) = handedOver m log period := by
  have hday (iv : Intervals) :
      (callsOfDay n m log iv).filterMap (Call.processedBy? i) = due m log iv.date := by
    rw [callsOfDay, List.filterMap_append, filterMap_spread_newDay, List.filterMap_flatMap]
    simp only [filterMap_spread_process hi]
    rw [List.flatMap_singleton', List.nil_append]
  rw [callsOf, List.filterMap_append, filterMap_spread_done, List.append_nil,
    List.filterMap_flatMap, ← flatMap_due_visits m hlog (.create period.start today)]
  exact List.flatMap_congr fun iv _ => hday iv

/-- Everything that is wanted is handed over, unless the period takes in the last date and something
is wanted on it. -/
theorem handedOver_eq_wanted_iff (m : Matcher) (log : List Operation) (period : Period) :
    handedOver m log period = wanted m log period ↔
      ¬ (period.contains Date.last = true ∧ due m log Date.last ≠ []) := by
  have hdue : due m log Date.last ≠ [] ↔ ∃ op ∈ log, op.date? = some Date.last ∧ m op = true := by
    rw [due, ne_eq, List.filter_eq_nil_iff]
    simp [isDue]
  rw [handedOver, List.filter_eq_self, hdue]
  constructor
  · rintro h ⟨hin, op, hop, hdate, hm⟩
    refine of_decide_eq_true (h op ?_) hdate
    rw [wanted, List.mem_filter, hm, hdate, Option.any_some, hin]
    exact ⟨hop, rfl⟩
  · intro h op hop
    rw [wanted, List.mem_filter, Bool.and_eq_true] at hop
    obtain ⟨hop, hm, hin⟩ := hop
    refine decide_eq_true fun hdate => h ⟨?_, op, hop, hdate, hm⟩
    rwa [hdate, Option.any_some] at hin

/-- **What a sweep over a loaded store does.**  It calls the members one after the other, day by
day, as `callsOf` says, and breaks off after the first call that fails; if none does, it counts the
days and the operations that it has handed over.  Each member is handed the same operations, each of
them once, and these are all that are wanted unless some are of the last date there is. -/
theorem run_load_calls (ops : List Operation) (today : Date) (span : Option Period) {p : Predicate}
    (hp : p.compile = .ok m) (ss : List σ) :
    let log := sortLog ops
    let period := span.getD (fullPeriod log today)
    let calls := callsOf ss.length m log today period
    run (Store.load ops) today p span ss =
        outcome (makeCalls ss calls)
          ⟨period, period.days.length, (handedOver m log period).length⟩ ∧
      ((Tracker.create period.start today).visits period.days).map (·.date) = period.days ∧
      period.days.Pairwise (· < ·) ∧
      (∀ d, d ∈ period.days ↔ period.contains d = true ∧ d ≠ Date.last) ∧
      (∀ i < ss.length, calls.filterMap (Call.processedBy? i) = handedOver m log period) ∧
      (handedOver m log period = wanted m log period ↔
        ¬ (period.contains Date.last = true ∧ due m log Date.last ≠ [])) ∧
      (period.stop < period.start → calls = Event.done.spread ss.length) ∧
      (span = none → FromFirstToLast log today period) := by
  intro log period calls
  have hlog : Chronological log := chronological_sortLog ops
  refine ⟨?_, Tracker.map_date_visits _ _, period.pairwise_days, fun d => Period.mem_days,
    fun i hi => filterMap_callsOf hi hlog today period, handedOver_eq_wanted_iff m log period,
    callsOf_of_stop_lt_start ss.length m log today, ?_⟩
  · rw [run_load ops today hp span ss, play_eq_makeCalls, flatMap_spread_scriptOf,
      flatMap_due_days m hlog]
    rfl
  · intro hspan
    have hperiod : period = fullPeriod log today := by
      show span.getD (fullPeriod log today) = _
      rw [hspan]
      rfl
    rw [hperiod]
    exact fromFirstToLast_fullPeriod hlog today

/-- A sweep for one of two adjustments and a tombstone, with two members. -/
theorem run_load_calls_of_adjustments :
    let head : Head := ⟨"rent", ⟨.last, 0, 0⟩, .last, "EUR", (1 : Float).toBits, [], none⟩
    let ops : List Operation := [.adjustment head ⟨"cash", 1⟩, .deleted "old",
      .adjustment { head with date := Date.last.addDays (-1) } ⟨"bank", 1⟩]
    let period : Period := ⟨Date.last.addDays (-1), .last⟩
    (Predicate.account "bank").compile = .ok (Predicate.onAccount "bank") ∧
      run (Store.load ops) .last (.account "bank") (some period) [Counts.empty, Counts.empty] =
        outcome
          (makeCalls [Counts.empty, Counts.empty]
            (callsOf 2 (Predicate.onAccount "bank") (sortLog ops) .last period))
          ⟨period, period.days.length,
            (handedOver (Predicate.onAccount "bank") (sortLog ops) period).length⟩ := by
  intro head ops period
  exact ⟨rfl, (run_load_calls ops .last (some period) rfl [Counts.empty, Counts.empty]).1⟩

/-- It is not so that a sweep hands over everything that is wanted: on the last date there is it
hands over nothing. -/
theorem not_hands_over_every_operation :
    ¬ ∀ (ops : List Operation) (today : Date) (period : Period),
        (run (Store.load ops) today .any (some period) [Counts.empty]).result.map (·.dispatched) =
          .ok (wanted (fun _ => true) (sortLog ops) period).length := by
  intro h
  let op : Operation :=
    .adjustment ⟨"rent", ⟨.last, 0, 0⟩, .last, "EUR", (1 : Float).toBits, [], none⟩ ⟨"cash", 1⟩
  have hsort : sortLog [op] = [op] := List.mergeSort_singleton op
  have hone := h [op] .last ⟨.last, .last⟩
  have hdays : Period.days ⟨.last, .last⟩ = [] := by decide
  rw [run_load [op] .last (m := fun _ => true) rfl, hsort, periodOf, Option.getD_some, scriptOf,
    hdays] at hone
  exact absurd hone (by decide)

end Sweep

end Cashbook
