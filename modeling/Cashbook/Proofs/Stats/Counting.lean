import Mathlib.Algebra.GroupWithZero.Nat
import Cashbook.Proofs.Stats.Adjacent
import Cashbook.Proofs.Stats.Recounting
import Cashbook.Proofs.Stats.Rewriting

/-!
# The counts check themselves

When a sweep is over, `Counts` compares the number of all operations with the sum of the numbers by
kind, and the returns with the expenses.  The counts of some operations are known in closed form
(`Counts.tally`), and with it what the check finds: tombstones, which are of no kind that is
counted, and nothing else (`Counts.isSome_check_tally_iff`).

No sweep hands over a tombstone, so no sweep fails for its counts.  `NeverObjects` says so of any
reducer that accepts live operations: it may be left out of the company that a sweep feeds, and the
sweep comes to the same result (`NeverObjects.run_joined`).  That holds of sweeps that fail as well,
since another reducer may fail before the counts are called or after that.
-/

namespace Cashbook

namespace Sweep

open Operation Reply

variable {σ τ κ : Type} [Reducer σ] [Reducer τ] [Reducer κ]

/-! ### Reducers that never object -/

/-- Whether no call of a reducer fails that does not hand over a tombstone, as long as its state
satisfies `I`. -/
structure NeverObjects (I : κ → Prop) : Prop where
  send : ∀ {c : κ} (e : Event), (∀ op ∈ e.operation?, op.isDeleted = false) → I c →
    (e.send c).error = none ∧ I (e.send c).state

/-- A sweep hands over live operations only. -/
theorem isDeleted_of_mem_script {m : Matcher} {log : List Operation} {ivs : List Intervals}
    {e : Event} (he : e ∈ script m log ivs) : ∀ op ∈ e.operation?, op.isDeleted = false := by
  intro op hop
  cases e with
  | process op' =>
      cases hop
      obtain ⟨iv, -, hdue⟩ := exists_mem_due_of_mem_script he
      have hmem : op ∈ [iv.date].flatMap (due m log) := by rwa [List.flatMap_singleton]
      exact isDeleted_of_mem_due op hmem
  | newDay | done => cases hop

/-- A pair whose first member does not fail answers as the second. -/
theorem send_pair_of_none {e : Event} {s : σ} (h : (e.send s).error = none) (t : τ) :
    e.send (s, t) = (e.send t).map fun t => ((e.send s).state, t) := by
  have hmap : ((e.send s).map fun a => (a, t)).error = none := h
  rw [Reducer.send_pair, Reducer.both, andThen_of_none hmap]
  rfl

/-- A pair whose first member fails does not call the second. -/
theorem send_pair_of_error {e : Event} {s : σ} {x : Error} (h : (e.send s).error = some x) (t : τ) :
    e.send (s, t) = (e.send s).map fun s => (s, t) := by
  have hmap : ((e.send s).map fun a => (a, t)).error = some x := h
  rw [Reducer.send_pair, Reducer.both, andThen_of_error hmap]

/-- Whether a company is the given one with one reducer more, whose state satisfies `I`. -/
def Joined (I : κ → Prop) (x : σ × κ × τ) (y : σ × τ) : Prop := (x.1, x.2.2) = y ∧ I x.2.1

namespace NeverObjects

variable {I : κ → Prop} {c : κ}

/-- A call of a company is answered as if the reducer were not there. -/
theorem send_joined (h : NeverObjects I) {e : Event}
    (he : ∀ op ∈ e.operation?, op.isDeleted = false) {x : σ × κ × τ} {y : σ × τ}
    (hxy : Joined I x y) : Alike True (Joined I) (e.send x) (e.send y) := by
  obtain ⟨s, c, t⟩ := x
  obtain ⟨rfl, hc⟩ := hxy
  obtain ⟨herror, hI⟩ := h.send e he hc
  cases hs : (e.send s).error with
  | some x =>
      rw [send_pair_of_error hs, send_pair_of_error hs]
      exact ⟨fun _ => rfl, fun _ => ⟨rfl, hc⟩⟩
  | none =>
      rw [send_pair_of_none hs, send_pair_of_none hs, send_pair_of_none herror]
      exact ⟨fun _ => rfl, fun _ => ⟨rfl, hI⟩⟩

/-- Any number of calls. -/
theorem play_joined (h : NeverObjects I) {x : σ × κ × τ} {y : σ × τ} (hxy : Joined I x y)
    {es : List Event} (hes : ∀ e ∈ es, ∀ op ∈ e.operation?, op.isDeleted = false) :
    Alike True (Joined I) (play x es) (play y es) :=
  play_congr (fun e he {_ _} hxy => h.send_joined (hes e he) hxy) hxy

/-- **A sweep with a reducer that never objects** comes to the result that it has without it. -/
theorem run_joined (h : NeverObjects I) (actions : List Store.Action) (today : Date) (p : Predicate)
    (span : Option Period) (s : σ) (hc : I c) (t : τ) :
    (run (Store.after actions) today p span (s, c, t)).result =
        (run (Store.after actions) today p span (s, t)).result ∧
      I (run (Store.after actions) today p span (s, c, t)).state.2.1 := by
  rcases Store.reached actions with ⟨hempty, -⟩ | ⟨⟨ops, hops⟩, -⟩
  · rw [hempty]
    exact ⟨rfl, hc⟩
  · rw [hops]
    cases hp : p.compile with
    | error join =>
        rw [run, run, hp]
        exact ⟨rfl, hc⟩
    | ok m =>
        rw [run_load ops today hp, run_load ops today hp, scriptOf]
        have halike (ivs : List Intervals) : Alike True (Joined I)
            (play (s, c, t) (script m (sortLog ops) ivs))
            (play (s, t) (script m (sortLog ops) ivs)) :=
          h.play_joined ⟨rfl, hc⟩ fun _ => isDeleted_of_mem_script
        refine ⟨result_outcome_congr ((halike _).error_eq trivial).symm _, ?_⟩
        rw [state_outcome]
        exact ((halike _).related (.inl trivial)).2

end NeverObjects

end Sweep

/-! ### What the check finds -/

namespace Counts

open Sweep

/-- The counts of some operations. -/
def tally (ops : List Operation) : Counts where
  all := ops.length
  income := ops.countP (·.kind = .income)
  expense := ops.countP (·.kind = .expense)
  transfer := ops.countP (·.kind = .transfer)
  adjustment := ops.countP (·.kind = .adjustment)
  returns := ops.countP fun op => op.kind = .expense ∧ op.amount > 0

/-- One operation more. -/
theorem add_tally (ops : List Operation) (op : Operation) :
    (tally ops).add op = tally (ops ++ [op]) := by
  rw [add, tally, tally]
  cases hkind : op.kind with
  | expense =>
      by_cases hamount : op.amount > 0
      · simp [hkind, hamount]
      · simp [hkind, hamount]
  | _ => simp [hkind]

/-- Operations that are handed over are counted. -/
theorem play_process_tally (before ops : List Operation) :
    play (tally before) (ops.map .process) = .ok (tally (before ++ ops)) := by
  induction ops generalizing before with
  | nil => rw [List.append_nil]; rfl
  | cons op ops ih =>
      have hop : Event.send (tally before) (.process op) = .ok (tally (before ++ [op])) :=
        congrArg Reply.ok (add_tally before op)
      rw [List.map_cons, play_cons, hop, Reply.andThen_ok, ih, List.append_assoc,
        List.singleton_append]

/-- Every live operation is counted under one kind, and tombstones are counted under none. -/
theorem byKind_tally (ops : List Operation) :
    (tally ops).byKind = ops.countP fun op => !op.isDeleted := by
  induction ops using List.reverseRecOn with
  | nil => rfl
  | append_singleton ops op ih =>
      rw [← add_tally, List.countP_append, ← ih, List.countP_singleton]
      cases hop : op.isDeleted with
      | false => exact byKind_add _ hop
      | true =>
          have hkind : op.kind = .deleted := of_decide_eq_true hop
          rw [add, hkind]
          rfl

/-- Returns are expenses. -/
theorem returns_tally_le (ops : List Operation) : (tally ops).returns ≤ (tally ops).expense := by
  refine List.countP_mono_left fun op _ h => ?_
  rw [decide_eq_true_eq] at h ⊢
  exact h.1

/-- Operations are all of a kind that is counted if none of them is a tombstone. -/
theorem all_tally_eq_byKind_iff (ops : List Operation) :
    (tally ops).all = (tally ops).byKind ↔ ∀ op ∈ ops, op.isDeleted = false := by
  rw [byKind_tally, eq_comm]
  refine List.countP_eq_length.trans (forall₂_congr fun op _ => ?_)
  rw [Bool.not_eq_true']

/-- Where there are no more returns than expenses, the check only compares the number of all
operations with the sum of those by kind. -/
theorem check_eq_ite {c : Counts} (h : c.returns ≤ c.expense) :
    c.check = if c.all = c.byKind then none else some (.miscounted c.all c.byKind) := by
  rw [check, if_neg (Nat.not_lt.2 h)]
  by_cases hall : c.all = c.byKind
  · rw [if_neg (not_not.2 hall), if_pos hall]
  · rw [if_pos hall, if_neg hall]

/-- **What the check finds** are tombstones. -/
theorem isSome_check_tally_iff (ops : List Operation) :
    (tally ops).check.isSome = true ↔ ∃ op ∈ ops, op.isDeleted = true := by
  rw [check_eq_ite (returns_tally_le ops)]
  split
  case isTrue hall =>
    refine iff_of_false Bool.false_ne_true ?_
    rintro ⟨op, hop, hdeleted⟩
    exact Bool.eq_false_iff.1 ((all_tally_eq_byKind_iff ops).1 hall op hop) hdeleted
  case isFalse hall =>
    refine iff_of_true rfl ?_
    by_contra hnone
    refine hall
      ((all_tally_eq_byKind_iff ops).2 fun op hop => Bool.eq_false_iff.2 fun hdeleted => ?_)
    exact hnone ⟨op, hop, hdeleted⟩

/-! ### Sweeps with counts -/

/-- Counts that are in order stay in order, as long as no tombstone is handed over. -/
theorem neverObjects : NeverObjects fun c : Counts => c.check = none where
  send {c} e he hc := by
    cases e with
    | newDay iv => exact ⟨rfl, hc⟩
    | process op =>
        obtain ⟨hall, hreturns⟩ := (check_eq_none_iff c).1 hc
        refine ⟨rfl, (check_eq_none_iff (c.add op)).2 ⟨?_, returns_le_expense_add hreturns op⟩⟩
        rw [all_add, byKind_add c (he op rfl), hall]
    | done => exact ⟨hc, hc⟩

/-- Whether sweeps with the given results, one after the other, lead from some counts to others.
Each has a store, a filter and a period of its own, and each feeds the counts between other
reducers. -/
inductive Sweeps : Counts → List (Except Error Summary) → Counts → Prop
  /-- No sweep. -/
  | none (c : Counts) : Sweeps c [] c
  /-- A sweep, which may fail, and those after it. -/
  | next {σ τ : Type} [Reducer σ] [Reducer τ] {c c' c'' : Counts} {s s' : σ} {t t' : τ}
      {result : Except Error Summary} {results : List (Except Error Summary)}
      (actions : List Store.Action) (today : Date) (p : Predicate) (span : Option Period)
      (hrun : run (Store.after actions) today p span (s, c, t) = ⟨(s', c', t'), result⟩)
      (hnext : Sweeps c' results c'') : Sweeps c (result :: results) c''

/-- What is handed over is counted. -/
theorem recounts (n : Nat) : Recounts fun ops (c : Counts) => c.all = n + ops.length where
  newDay _ hc _ := hc
  process {ops c} op hc _ := by
    show (c.add op).all = _
    rw [all_add, hc, List.length_append, List.length_singleton, Nat.add_assoc]
  done hc _ := hc

/-- A sweep that succeeds counts what it has handed over. -/
theorem all_of_run {σ τ : Type} [Reducer σ] [Reducer τ] {actions : List Store.Action} {today : Date}
    {p : Predicate} {span : Option Period} {c c' : Counts} {s s' : σ} {t t' : τ} {summary : Summary}
    (hrun : run (Store.after actions) today p span (s, c, t) = ⟨(s', c', t'), .ok summary⟩) :
    c'.all = c.all + summary.dispatched := by
  rcases Store.reached actions with ⟨hempty, -⟩ | ⟨⟨ops, hops⟩, -⟩
  · rw [hempty] at hrun
    cases hrun
  · rw [hops] at hrun
    have hpart : Reducer.IsPart fun x : σ × Counts × τ => some x.2.1 := Reducer.IsPart.snd.bind .fst
    obtain ⟨_, ⟨⟩, hcounts⟩ := hpart.run rfl hrun
    obtain ⟨m, hm, hsummary, -⟩ := exists_of_run_load hcounts
    have hall := (recounts c.all).run (Nat.add_zero _).symm hm hcounts
    rw [hall, hsummary, flatMap_due_days m (Operation.chronological_sortLog ops)]

/-- Sweeps leave counts that are in order in order. -/
theorem Sweeps.check_eq_none {c c' : Counts} {results : List (Except Error Summary)}
    (h : Sweeps c results c') (hc : c.check = Option.none) : c'.check = Option.none := by
  induction h with
  | none => exact hc
  | @next _ _ _ _ c _ _ s _ t _ _ _ actions today p span hrun _ ih =>
      have hjoined := (neverObjects.run_joined actions today p span s hc t).2
      rw [hrun] at hjoined
      exact ih hjoined

/-- Sweeps that all succeed count what they have handed over together. -/
theorem Sweeps.all_eq {c c' : Counts} {results : List (Except Error Summary)}
    (h : Sweeps c results c') {summaries : List Summary} (hok : results = summaries.map .ok) :
    c'.all = c.all + (summaries.map (·.dispatched)).sum := by
  induction h generalizing summaries with
  | none =>
      rw [List.map_eq_nil_iff.1 hok.symm]
      rfl
  | next _ _ _ _ hrun _ ih =>
      cases summaries with
      | nil => cases hok
      | cons summary summaries =>
          rw [List.map_cons, List.cons.injEq] at hok
          obtain ⟨rfl, hok⟩ := hok
          rw [ih hok, all_of_run hrun, List.map_cons, List.sum_cons, Nat.add_assoc]

/-- **The check of the counts fires on tombstones**, and on nothing else.  Whatever operations are
handed to fresh counts, they are counted, all together and by kind; there are never more returns
than expenses; and the check fails exactly if one of the operations is a tombstone, and then because
the number of all operations is not the sum of those by kind.

Sweeps hand over no tombstones.  So after any number of sweeps, of which some may have failed for
another reducer, the check does not fail, and every further sweep comes to the result that it has
without the counts.  If all of them succeed, the number of all operations is the number of those
that they have handed over. -/
theorem check_fires_on_tombstones :
    (∀ ops : List Operation, play empty (ops.map .process) = .ok (tally ops) ∧
      ((Reducer.done (tally ops)).error.isSome = true ↔ ∃ op ∈ ops, op.isDeleted = true) ∧
      (∀ e ∈ (Reducer.done (tally ops)).error,
        e = .miscounted (tally ops).all (tally ops).byKind ∧ (tally ops).all ≠ (tally ops).byKind) ∧
      (tally ops).returns ≤ (tally ops).expense) ∧
    ∀ {c : Counts} {results : List (Except Error Summary)}, Sweeps empty results c →
      (Reducer.done c).error = none ∧
      (∀ {σ τ : Type} [Reducer σ] [Reducer τ] (actions : List Store.Action) (today : Date)
        (p : Predicate) (span : Option Period) (s : σ) (t : τ),
        (run (Store.after actions) today p span (s, c, t)).result =
          (run (Store.after actions) today p span (s, t)).result) ∧
      ∀ summaries : List Summary, results = summaries.map .ok →
        c.all = (summaries.map (·.dispatched)).sum := by
  refine ⟨fun ops => ⟨play_process_tally [] ops, isSome_check_tally_iff ops, fun e he => ?_,
    returns_tally_le ops⟩, fun {c results} h => ?_⟩
  · have hcheck : (tally ops).check = some e := he
    rw [check_eq_ite (returns_tally_le ops)] at hcheck
    split at hcheck
    case isTrue => cases hcheck
    case isFalse hall => exact ⟨(Option.some_inj.1 hcheck).symm, hall⟩
  · have hc := h.check_eq_none rfl
    refine ⟨hc, fun actions today p span s t => ?_, fun summaries hok => ?_⟩
    · exact (neverObjects.run_joined actions today p span s hc t).1
    · rw [h.all_eq hok]
      exact Nat.zero_add _

/-- A tombstone that is handed to the counts, and two sweeps over a log that has it. -/
theorem check_fires_on_tombstones_of_two_sweeps :
    let d : Date := ⟨738550, by decide, by decide⟩
    let op : Operation :=
      .adjustment ⟨"found", ⟨d, 0, 0⟩, d, "EUR", (1 : Float).toBits, [], none⟩ ⟨"cash", 1⟩
    let ops : List Operation := [.deleted "old", op]
    let summary : Summary := ⟨⟨d, d⟩, 1, 1⟩
    (∃ op ∈ ops, op.isDeleted = true) ∧ (Reducer.done (tally ops)).error = some (.miscounted 2 1) ∧
      ∃ c, Sweeps empty [.ok summary, .ok summary] c ∧ (Reducer.done c).error = none ∧
        c.all = 2 := by
  intro d op ops summary
  obtain ⟨hcounts, hsweeps⟩ := check_fires_on_tombstones
  obtain ⟨-, hfires, herror, -⟩ := hcounts ops
  have hdeleted : ∃ op ∈ ops, op.isDeleted = true := ⟨.deleted "old", List.mem_cons_self, rfl⟩
  obtain ⟨e, he⟩ := Option.isSome_iff_exists.1 (hfires.2 hdeleted)
  have hsort : Operation.sortLog ops = ops := List.mergeSort_of_pairwise (by decide +kernel)
  -- a sweep with the balances of two accounts, to which the counts are joined
  have hrun : (run (Store.after [.load ops]) d .any none
      (Balance.create "cash", Balance.create "bank")).result = .ok summary := by
    obtain ⟨after, h⟩ : ∃ after, run (Store.load ops) d .any none
        (Balance.create "cash", Balance.create "bank") = ⟨after, .ok summary⟩ := by
      apply Outcome.exists_eq_of_toOption
      rw [run_load ops d (m := fun _ => true) rfl, hsort]
      decide +kernel
    exact congrArg Outcome.result h
  have hnext {c : Counts} (hc : c.check = Option.none) :
      ∃ c', c'.check = Option.none ∧
        ∀ {results c''}, Sweeps c' results c'' → Sweeps c (.ok summary :: results) c'' := by
    obtain ⟨hresult, hc'⟩ :=
      neverObjects.run_joined [.load ops] d .any none (Balance.create "cash") hc
        (Balance.create "bank")
    exact ⟨_, hc', .next [.load ops] d .any none (congrArg (Outcome.mk _) (hresult.trans hrun))⟩
  obtain ⟨c₁, hc₁, hfirst⟩ := hnext (c := empty) rfl
  obtain ⟨c₂, -, hsecond⟩ := hnext hc₁
  have hboth := hfirst (hsecond (.none c₂))
  obtain ⟨hdone, -, hall⟩ := hsweeps hboth
  refine ⟨hdeleted, ?_, c₂, hboth, hdone, hall [summary, summary] rfl⟩
  rw [he, (herror e he).1]
  rfl

end Counts

end Cashbook
