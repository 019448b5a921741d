import Cashbook.Proofs.Calendar.Days
import Cashbook.Proofs.Calendar.Walk
import Cashbook.Proofs.Operation.LogOrder
import Cashbook.Stats.Sweep

/-!
# What a sweep calls

`Sweep.run` reads the log once, with `Sweep.feed` taking the operations of a day off the front of
what is left.  This file says which calls come out of that, without a cursor: the *script* of a
sweep.

* `Event` — a call of a hook, and `play` — making calls one after the other until one fails;
  `play_induction` takes what single calls keep to any number of them.
* `due` — the live operations of a day that pass the filter, found by going through the whole log.
* `script` — for each day the announcement and then what is due, and at the end that it is over.
* `run_load` — a sweep over a loaded store plays its script, and `exists_of_run_load` — what a sweep
  that succeeds has done.

### What is load-bearing

The log is in the order of time (`Operation.chronological_sortLog`) and the days ascend
(`Period.pairwise_days`).  The first makes everything behind an operation of a later day later
still, so that `feed` may stop there; the second makes everything that `feed` has passed over too
old for the days to come.  Both enter in `feed_spec` and nowhere else: what is left after a day is
as good as the whole log for every later day.
-/

namespace Cashbook

namespace Reply

variable {σ : Type}

theorem andThen_of_none {r : Reply σ} (h : r.error = none) (f : σ → Reply σ) :
    r.andThen f = f r.state := by
  rw [andThen, h]

theorem andThen_of_error {r : Reply σ} {e : Error} (h : r.error = some e) (f : σ → Reply σ) :
    r.andThen f = r := by
  rw [andThen, h]

theorem andThen_assoc (r : Reply σ) (f g : σ → Reply σ) :
    (r.andThen f).andThen g = r.andThen fun s => (f s).andThen g := by
  cases h : r.error with
  | none => rw [andThen_of_none h, andThen_of_none h]
  | some e => rw [andThen_of_error h, andThen_of_error h, andThen_of_error h]

/-- If two things done one after the other succeed, both do. -/
theorem error_andThen_eq_none {r : Reply σ} {f : σ → Reply σ} (h : (r.andThen f).error = none) :
    r.error = none ∧ r.andThen f = f r.state := by
  cases herror : r.error with
  | none => exact ⟨rfl, andThen_of_none herror f⟩
  | some e =>
      rw [andThen_of_error herror, herror] at h
      cases h

/-- A call after which nothing is done. -/
@[simp] theorem andThen_ok_right (r : Reply σ) : r.andThen ok = r := by
  cases h : r.error with
  | none =>
      rw [andThen_of_none h, ok, ← h]
  | some e => rw [andThen_of_error h]

end Reply

/-- A sweep that gives a summary has succeeded. -/
theorem Outcome.exists_eq_of_toOption {σ : Type} {o : Outcome σ} {summary : Summary}
    (h : o.result.toOption = some summary) : ∃ after, o = ⟨after, .ok summary⟩ := by
  obtain ⟨after, result⟩ := o
  cases result with
  | error => cases h
  | ok =>
      cases h
      exact ⟨after, rfl⟩

namespace Sweep

open Operation Reply

variable {σ : Type} [Reducer σ]

/-! ### Calls -/

/-- A call of a hook. -/
inductive Event
  /-- A day begins. -/
  | newDay (iv : Intervals)
  /-- An operation of the day. -/
  | process (op : Operation)
  /-- There are no more days. -/
  | done
  deriving DecidableEq

/-- What a reducer answers to a call. -/
def Event.send (s : σ) : Event → Reply σ
  | newDay iv => Reducer.newDay s iv
  | process op => Reducer.process s op
  | done => Reducer.done s

/-- A list of reducers hands an event to its members. -/
theorem send_list (e : Event) (ss : List σ) : e.send ss = Reducer.each e.send ss := by
  cases e <;> rfl

/-- Makes some calls one after the other, until one fails. -/
def play (s : σ) : List Event → Reply σ
  | [] => .ok s
  | e :: es => (e.send s).andThen fun s => play s es

theorem play_cons (s : σ) (e : Event) (es : List Event) :
    play s (e :: es) = (e.send s).andThen fun s => play s es := rfl

/-- A single call. -/
theorem play_singleton (s : σ) (e : Event) : play s [e] = e.send s := andThen_ok_right (e.send s)

/-- Calls in two parts are made one part after the other. -/
theorem play_append (s : σ) (es fs : List Event) :
    play s (es ++ fs) = (play s es).andThen fun s => play s fs := by
  induction es generalizing s with
  | nil => rfl
  | cons e es ih =>
      rw [List.cons_append, play_cons, play_cons, andThen_assoc]
      congr 1
      funext s
      exact ih s

/-- **What single calls keep, a run of calls keeps.**  `R` relates what has been called to the
state. -/
theorem play_induction {R : List Event → σ → Prop} {es : List Event}
    (h : ∀ e ∈ es, ∀ {before : List Event} {s : σ}, R before s → (e.send s).error = none →
      R (before ++ [e]) (e.send s).state)
    {before : List Event} {s : σ} (hs : R before s) (herror : (play s es).error = none) :
    R (before ++ es) (play s es).state := by
  induction es generalizing before s with
  | nil => rwa [List.append_nil]
  | cons e es ih =>
      rw [play_cons] at herror ⊢
      obtain ⟨hcall, hrest⟩ := error_andThen_eq_none herror
      rw [hrest] at herror ⊢
      rw [List.append_cons]
      have hnext := h e List.mem_cons_self hs hcall
      exact ih (fun e he => h e (List.mem_cons_of_mem _ he)) hnext herror

/-! ### The script -/

/-- Whether `op` is a live operation of the day `d` that passes the filter. -/
def isDue (m : Matcher) (d : Date) (op : Operation) : Bool := op.date? = some d && m op

/-- The operations of a log that are due on the day `d`, in the order of the log. -/
def due (m : Matcher) (log : List Operation) (d : Date) : List Operation := log.filter (isDue m d)

/-- The calls of a day: it begins, and then its operations follow. -/
def dayScript (m : Matcher) (log : List Operation) (iv : Intervals) : List Event :=
  .newDay iv :: (due m log iv.date).map .process

/-- The calls of a sweep that meets the given days. -/
def script (m : Matcher) (log : List Operation) (ivs : List Intervals) : List Event :=
  ivs.flatMap (dayScript m log) ++ [.done]

/-- A sweep makes the calls of its days, and then it is over. -/
theorem play_script (m : Matcher) (log : List Operation) (s : σ) (ivs : List Intervals) :
    play s (script m log ivs) =
      (play s (ivs.flatMap (dayScript m log))).andThen (Event.send · .done) := by
  rw [script, play_append]
  exact congrArg _ (funext fun s => play_singleton s .done)

/-- **What single calls keep, days keep.**  `R` relates what has been called to the state.  If it
survives the beginning of a day and every operation, as long as no call fails, it survives the days
of a sweep. -/
theorem play_days_induction {R : List Event → σ → Prop}
    (hday : ∀ {es : List Event} {s : σ} (iv : Intervals), R es s →
      (Reducer.newDay s iv).error = none → R (es ++ [.newDay iv]) (Reducer.newDay s iv).state)
    (hop : ∀ {es : List Event} {s : σ} (op : Operation), R es s →
      (Reducer.process s op).error = none → R (es ++ [.process op]) (Reducer.process s op).state)
    {m : Matcher} {log : List Operation} {s : σ} (hs : R [] s) (ivs : List Intervals)
    (herror : (play s (ivs.flatMap (dayScript m log))).error = none) :
    R (ivs.flatMap (dayScript m log)) (play s (ivs.flatMap (dayScript m log))).state := by
  have hcall : ∀ e ∈ ivs.flatMap (dayScript m log), ∀ {es : List Event} {s : σ}, R es s →
      (Event.send s e).error = none → R (es ++ [e]) (Event.send s e).state := by
    intro e he
    obtain ⟨iv, -, he⟩ := List.mem_flatMap.1 he
    rcases List.mem_cons.1 he with rfl | he
    · exact hday iv
    · obtain ⟨op, -, rfl⟩ := List.mem_map.1 he
      exact hop op
  exact play_induction hcall hs herror

/-- On the days that a script meets, nothing but what is due counts. -/
theorem script_congr {m : Matcher} {log log' : List Operation} {ivs : List Intervals}
    (h : ∀ iv ∈ ivs, due m log iv.date = due m log' iv.date) :
    script m log ivs = script m log' ivs := by
  have hday : ∀ iv ∈ ivs, dayScript m log iv = dayScript m log' iv := fun iv hiv => by
    rw [dayScript, dayScript, h iv hiv]
  rw [script, script, List.flatMap_congr hday]

/-- What is handed over is due on one of the days. -/
theorem exists_mem_due_of_mem_script {m : Matcher} {log : List Operation} {ivs : List Intervals}
    {op : Operation} (h : .process op ∈ script m log ivs) :
    ∃ iv ∈ ivs, op ∈ due m log iv.date := by
  rw [script, List.mem_append, List.mem_flatMap] at h
  rcases h with ⟨iv, hiv, h⟩ | h
  · rw [dayScript, List.mem_cons, List.mem_map] at h
    rcases h with h | ⟨op', hop, h⟩
    · cases h
    · cases h
      exact ⟨iv, hiv, hop⟩
  · cases List.mem_singleton.1 h

/-- What is handed over are operations of the log. -/
theorem mem_of_mem_script {m : Matcher} {log : List Operation} {ivs : List Intervals}
    {op : Operation} (h : .process op ∈ script m log ivs) : op ∈ log :=
  let ⟨_, _, hdue⟩ := exists_mem_due_of_mem_script h
  List.mem_of_mem_filter hdue

/-! ### The operations of one day -/

variable {m : Matcher} {d : Date} {log : List Operation} {op : Operation}

theorem due_cons_of_isDue (h : isDue m d op = true) : due m (op :: log) d = op :: due m log d :=
  List.filter_cons_of_pos h

theorem due_cons_of_not (h : isDue m d op = false) : due m (op :: log) d = due m log d :=
  List.filter_cons_of_neg (by rw [h]; exact Bool.false_ne_true)

/-- Nothing is due on a day when the log goes on after it. -/
theorem due_eq_nil_of_lt {e : Date} (hlog : Chronological (op :: log)) (hop : op.date? = some e)
    (h : d < e) : due m (op :: log) d = [] := by
  rw [due, List.filter_eq_nil_iff]
  intro a ha hdue
  rw [isDue, Bool.and_eq_true, decide_eq_true_eq] at hdue
  rcases List.mem_cons.1 ha with rfl | ha
  · rw [hop, Option.some_inj] at hdue
    rw [hdue.1] at h
    exact Date.lt_irrefl d h
  · exact Date.not_le.2 h (List.rel_of_pairwise_cons hlog ha e hop d hdue.1)

/-- The operations of a later day are left where they are. -/
theorem feed_of_lt {e : Date} (hop : op.date? = some e) (h : d < e) (s : σ) (n : Nat) :
    feed m d s n (op :: log) = ⟨.ok s, op :: log, n⟩ := by
  rw [feed, hop]
  exact if_pos h

/-- An operation that is due is handed over. -/
theorem feed_of_isDue (h : isDue m d op = true) (s : σ) (n : Nat) :
    feed m d s n (op :: log) =
      match (Reducer.process s op).error with
      | some _ => ⟨Reducer.process s op, log, n⟩
      | none => feed m d (Reducer.process s op).state (n + 1) log := by
  rw [isDue, Bool.and_eq_true, decide_eq_true_eq] at h
  have hlt : ¬ d < d := Date.lt_irrefl d
  rw [feed, h.1]
  dsimp only
  rw [if_neg hlt, decide_eq_false hlt, h.2]
  rfl

/-- Everything else is passed over, unless it is of a later day. -/
theorem feed_of_not (hop : ∀ e ∈ op.date?, ¬ d < e) (h : isDue m d op = false) (s : σ) (n : Nat) :
    feed m d s n (op :: log) = feed m d s n log := by
  rw [feed]
  cases hdate : op.date? with
  | none => rfl
  | some e =>
      have hle : ¬ d < e := hop e hdate
      dsimp only
      rw [if_neg hle]
      refine if_pos ?_
      rw [isDue, hdate] at h
      rw [Bool.or_eq_true, decide_eq_true_eq]
      by_cases he : e < d
      · exact .inl he
      · have hed : e = d := Date.ext (by rw [Date.lt_def] at *; omega)
        subst hed
        exact .inr (by simpa using h)

/-- **The operations of one day.**  `feed` hands over what is due on the day.  If that succeeds, it
has counted it, and what it leaves behind will do for all later days. -/
theorem feed_spec (hlog : Chronological log) (s : σ) (n : Nat) :
    (feed m d s n log).reply = play s ((due m log d).map .process) ∧
      ((feed m d s n log).reply.error = none →
        (feed m d s n log).dispatched = n + (due m log d).length ∧
        Chronological (feed m d s n log).pending ∧
        ∀ e, d < e → due m (feed m d s n log).pending e = due m log e) := by
  induction log generalizing s n with
  | nil => exact ⟨rfl, fun _ => ⟨rfl, hlog, fun _ _ => rfl⟩⟩
  | cons op log ih =>
      have htail : Chronological log := List.Pairwise.of_cons hlog
      by_cases hlater : ∃ e ∈ op.date?, d < e
      · obtain ⟨e, hop, he⟩ := hlater
        rw [feed_of_lt hop he, due_eq_nil_of_lt hlog hop he]
        exact ⟨rfl, fun _ => ⟨rfl, hlog, fun _ _ => rfl⟩⟩
      · -- the operation is not of a later day, so it is due on no later day either
        have hnot : ∀ e ∈ op.date?, ¬ d < e := fun e he hlt => hlater ⟨e, he, hlt⟩
        have hold (e : Date) (he : d < e) : due m (op :: log) e = due m log e := by
          refine due_cons_of_not ?_
          rw [isDue, Bool.and_eq_false_iff]
          exact .inl (decide_eq_false fun hop => hnot e hop he)
        cases hdue : isDue m d op with
        | false =>
            obtain ⟨hreply, hrest⟩ := ih htail s n
            rw [feed_of_not hnot hdue, due_cons_of_not hdue]
            refine ⟨hreply, fun hok => ?_⟩
            obtain ⟨hcount, hchron, hsame⟩ := hrest hok
            exact ⟨hcount, hchron, fun e he => (hsame e he).trans (hold e he).symm⟩
        | true =>
            rw [feed_of_isDue hdue, due_cons_of_isDue hdue, List.map_cons, play_cons]
            change _ = (Reducer.process s op).andThen _ ∧ _
            cases herror : (Reducer.process s op).error with
            | some e =>
                rw [andThen_of_error herror]
                exact ⟨rfl, fun hok => by rw [herror] at hok; cases hok⟩
            | none =>
                obtain ⟨hreply, hrest⟩ := ih htail (Reducer.process s op).state (n + 1)
                rw [andThen_of_none herror]
                refine ⟨hreply, fun hok => ?_⟩
                obtain ⟨hcount, hchron, hsame⟩ := hrest hok
                refine ⟨?_, hchron, fun e he => (hsame e he).trans (hold e he).symm⟩
                rw [hcount, List.length_cons]
                omega

/-- **A day.**  It calls what its script says, with the same promise about what it leaves behind. -/
theorem day_spec (hlog : Chronological log) (t : Tracker) (s : σ) (n : Nat) :
    (day m t s n log).reply = play s (dayScript m log t.current) ∧
      ((day m t s n log).reply.error = none →
        (day m t s n log).dispatched = n + (due m log t.current.date).length ∧
        Chronological (day m t s n log).pending ∧
        ∀ e, t.current.date < e → due m (day m t s n log).pending e = due m log e) := by
  rw [dayScript, play_cons, day]
  change _ = (Reducer.newDay s t.current).andThen _ ∧ _
  cases herror : (Reducer.newDay s t.current).error with
  | none =>
      rw [andThen_of_none herror]
      exact feed_spec hlog _ n
  | some e =>
      rw [andThen_of_error herror]
      exact ⟨rfl, fun hok => by rw [herror] at hok; cases hok⟩

/-! ### All days -/

theorem walk_cons (m : Matcher) (d : Date) (days : List Date) (t : Tracker) (s : σ) (n : Nat)
    (log : List Operation) :
    walk m (d :: days) t s n log =
      match (day m (t.advance d) s n log).reply.error with
      | some _ => day m (t.advance d) s n log
      | none =>
          walk m days (t.advance d) (day m (t.advance d) s n log).reply.state
            (day m (t.advance d) s n log).dispatched (day m (t.advance d) s n log).pending := rfl

theorem script_cons (m : Matcher) (log : List Operation) (iv : Intervals) (ivs : List Intervals) :
    script m log (iv :: ivs) = dayScript m log iv ++ script m log ivs := by
  rw [script, List.flatMap_cons, List.append_assoc, script]

/-- **The whole walk.**  Each day calls what its script says, and leaves a log that is as good as
the whole one for the days after it. -/
theorem walk_spec {days : List Date} (hdays : days.Pairwise (· < ·)) (hlog : Chronological log)
    (t : Tracker) (s : σ) (n : Nat) :
    (walk m days t s n log).reply = play s (script m log (t.visits days)) ∧
      ((walk m days t s n log).reply.error = none →
        (walk m days t s n log).dispatched = n + (days.flatMap (due m log)).length) := by
  induction days generalizing t s n log with
  | nil => exact ⟨(andThen_ok_right (Reducer.done s)).symm, fun _ => rfl⟩
  | cons d days ih =>
      obtain ⟨hlater, hrest⟩ := List.pairwise_cons.1 hdays
      obtain ⟨hreply, hleft⟩ := day_spec (m := m) hlog (t.advance d) s n
      rw [walk_cons, Tracker.visits, script_cons, play_append, ← hreply]
      cases herror : (day m (t.advance d) s n log).reply.error with
      | some e =>
          rw [andThen_of_error herror]
          exact ⟨rfl, fun hok => by rw [herror] at hok; cases hok⟩
      | none =>
          obtain ⟨hcount, hchron, hsame⟩ := hleft herror
          obtain ⟨hwalk, hdone⟩ := ih hrest hchron (t.advance d)
            (day m (t.advance d) s n log).reply.state (day m (t.advance d) s n log).dispatched
          -- the days ascend, so all that are left come after the day just gone through
          have hdue : ∀ e ∈ days, due m (day m (t.advance d) s n log).pending e = due m log e :=
            fun e he => hsame e (hlater e he)
          rw [andThen_of_none herror]
          refine ⟨?_, fun hok => ?_⟩
          · rw [hwalk, script_congr fun iv hiv => hdue _ (Tracker.date_mem_of_mem_visits hiv)]
          · rw [hdone hok, hcount, List.flatMap_congr hdue, List.flatMap_cons, List.length_append,
              Nat.add_assoc]
            rfl

/-! ### The run -/

/-- What a sweep gives back when it made its calls with the reply `r`. -/
def outcome (r : Reply σ) (summary : Summary) : Outcome σ :=
  match r.error with
  | some e => ⟨r.state, .error e⟩
  | none => ⟨r.state, .ok summary⟩

omit [Reducer σ] in
@[simp] theorem state_outcome (r : Reply σ) (summary : Summary) :
    (outcome r summary).state = r.state := by
  rw [outcome]
  split <;> rfl

omit [Reducer σ] in
/-- A sweep fails as its calls do. -/
theorem result_outcome_eq_error_iff {r : Reply σ} {summary : Summary} {e : Error} :
    (outcome r summary).result = .error e ↔ r.error = some e := by
  rw [outcome]
  cases r.error with
  | none => exact ⟨fun h => absurd h (by simp), fun h => absurd h (by simp)⟩
  | some e' => simp

omit [Reducer σ] in
/-- A sweep succeeds if none of its calls fails. -/
theorem result_outcome_eq_ok_iff {r : Reply σ} {summary done : Summary} :
    (outcome r summary).result = .ok done ↔ r.error = none ∧ done = summary := by
  rw [outcome]
  cases r.error with
  | none => exact ⟨fun h => by cases h; exact ⟨rfl, rfl⟩, fun h => congrArg Except.ok h.2.symm⟩
  | some e => simp

/-- The period that a sweep goes through. -/
def periodOf (log : List Operation) (today : Date) (span : Option Period) : Period :=
  span.getD (fullPeriod log today)

/-- The script of a sweep through a period. -/
def scriptOf (m : Matcher) (log : List Operation) (today : Date) (period : Period) : List Event :=
  script m log ((Tracker.create period.start today).visits period.days)

/-- **A sweep over a loaded store plays its script**, and counts the days and what is due on them.
-/
theorem run_load (ops : List Operation) (today : Date) {p : Predicate} (hp : p.compile = .ok m)
    (span : Option Period) (s : σ) :
    run (Store.load ops) today p span s =
      outcome (play s (scriptOf m (sortLog ops) today (periodOf (sortLog ops) today span)))
        ⟨periodOf (sortLog ops) today span, (periodOf (sortLog ops) today span).days.length,
          ((periodOf (sortLog ops) today span).days.flatMap (due m (sortLog ops))).length⟩ := by
  generalize hperiod : periodOf (sortLog ops) today span = period
  obtain ⟨hreply, hcount⟩ := walk_spec (m := m) period.pairwise_days (chronological_sortLog ops)
    (.create period.start today) s 0
  have hrun : run (Store.load ops) today p span s =
      match (walk m period.days (.create period.start today) s 0 (sortLog ops)).reply.error with
      | some e => ⟨(walk m period.days (.create period.start today) s 0
          (sortLog ops)).reply.state, .error e⟩
      | none => ⟨(walk m period.days (.create period.start today) s 0 (sortLog ops)).reply.state,
          .ok ⟨period, period.length,
            (walk m period.days (.create period.start today) s 0 (sortLog ops)).dispatched⟩⟩ := by
    rw [← hperiod, run, hp]
    rfl
  rw [hrun, outcome, scriptOf, ← hreply]
  cases herror :
      (walk m period.days (.create period.start today) s 0 (sortLog ops)).reply.error with
  | some e => rfl
  | none => rw [hcount herror, Period.length_days, Nat.zero_add]

/-- **What a sweep that succeeds has done.**  Its filter compiles, none of its calls has failed, and
its summary counts the days of its period and what is due on them. -/
theorem exists_of_run_load {ops : List Operation} {today : Date} {p : Predicate}
    {span : Option Period} {s after : σ} {summary : Summary}
    (h : run (Store.load ops) today p span s = ⟨after, .ok summary⟩) :
    ∃ m, p.compile = .ok m ∧
      summary = ⟨periodOf (sortLog ops) today span, (periodOf (sortLog ops) today span).days.length,
        ((periodOf (sortLog ops) today span).days.flatMap (due m (sortLog ops))).length⟩ ∧
      (play s (scriptOf m (sortLog ops) today summary.period)).error = none ∧
      after = (play s (scriptOf m (sortLog ops) today summary.period)).state := by
  cases hp : p.compile with
  | error join =>
      rw [run, hp] at h
      cases h
  | ok m =>
      rw [run_load ops today hp, outcome] at h
      split at h
      case h_1 => cases h
      case h_2 herror =>
        cases h
        exact ⟨m, rfl, rfl, herror, rfl⟩

end Sweep

end Cashbook
