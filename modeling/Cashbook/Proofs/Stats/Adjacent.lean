import Cashbook.Proofs.Stats.Parts
import Cashbook.Stats.Comparison
import Cashbook.Stats.Count
import Cashbook.Stats.Goals

/-!
# Sweeps over adjacent periods

A sweep may be broken off after any of its days and taken up again on the next one: for reducers
that do not hear of days, a sweep over a period and one over the period that follows on it come to
the same state as one sweep over both (`adjacent_sweeps_compose`).

### What is load-bearing

The days of the two periods are those of the whole one (`Period.days_append`), so that what is due
on them is what is due on the one part and then on the other.  But the first of the two sweeps says
that it is over, where the one sweep says nothing: it has to be shown that no reducer objects.
`Counts` checks itself, and what is wrong with its counts stays wrong (`IsTimeless.settled`).
-/

namespace Cashbook.Sweep

open Operation Reply

variable {σ τ : Type} [Reducer σ] [Reducer τ] {m : Matcher} {log ops : List Operation}

/-- What a sweep through a period hands over, in order. -/
def handovers (m : Matcher) (log : List Operation) (period : Period) : List Event :=
  (period.days.flatMap (due m log)).map .process

/-- What is due is live. -/
theorem isDeleted_of_mem_due {days : List Date} :
    ∀ op ∈ days.flatMap (due m log), op.isDeleted = false := by
  intro op hop
  obtain ⟨d, -, hdue⟩ := List.mem_flatMap.1 hop
  have hdate := (List.mem_filter.1 hdue).2
  rw [isDue, Bool.and_eq_true, decide_eq_true_eq] at hdate
  cases op with
  | deleted id => cases hdate.1
  | _ => rfl

/-- Whether a reducer does not hear of days, and only looks at itself when it is told that a sweep
is over.  As long as its state satisfies `I`, it has no objection then that a live operation would
remove. -/
structure IsTimeless (I : σ → Prop) : Prop where
  newDay : ∀ (s : σ) (iv : Intervals), Reducer.newDay s iv = .ok s
  state_done : ∀ s : σ, (Reducer.done s).state = s
  process : ∀ {s : σ} {op : Operation}, op.isDeleted = false → I s →
    (Reducer.process s op).error = none → I (Reducer.process s op).state
  settled : ∀ {s : σ} {op : Operation}, op.isDeleted = false → I s →
    (Reducer.process s op).error = none → (Reducer.done (Reducer.process s op).state).error = none →
    (Reducer.done s).error = none

namespace IsTimeless

variable {I : σ → Prop} {J : τ → Prop} {s : σ}

/-- A reducer that does not hear of days and is told nothing when a sweep is over. -/
theorem of_process (hnewDay : ∀ (s : σ) (iv : Intervals), Reducer.newDay s iv = .ok s)
    (hdone : ∀ s : σ, Reducer.done s = .ok s) : IsTimeless fun _ : σ => True where
  newDay := hnewDay
  state_done s := by rw [hdone]; rfl
  process _ _ _ := trivial
  settled _ _ _ _ := by rw [hdone]; rfl

/-- A pair of such reducers is one. -/
theorem pair (hfirst : IsTimeless I) (hsecond : IsTimeless J) :
    IsTimeless fun s : σ × τ => I s.1 ∧ J s.2 where
  newDay s iv := Reducer.both_eq_ok (hfirst.newDay s.1 iv) (hsecond.newDay s.2 iv)
  state_done s := Reducer.state_both (hfirst.state_done s.1) (hsecond.state_done s.2)
  process hop hs herror := by
    obtain ⟨h₁, h₂, hstate⟩ := Reducer.both_spec herror
    exact hstate ▸ ⟨hfirst.process hop hs.1 h₁, hsecond.process hop hs.2 h₂⟩
  settled {s op} hop hs herror hdone := by
    obtain ⟨h₁, h₂, hstate⟩ := Reducer.both_spec herror
    rw [show (Reducer.process s op).state = _ from hstate] at hdone
    obtain ⟨hdone₁, hdone₂, -⟩ := Reducer.both_spec hdone
    exact Reducer.error_both_eq_none (hfirst.settled hop hs.1 h₁ hdone₁)
      (hsecond.settled hop hs.2 h₂ hdone₂)

/-! ### What is played -/

/-- The days of a sweep come down to the operations that are due on them. -/
theorem play_days (h : IsTimeless I) (s : σ) (ivs : List Intervals) :
    play s (ivs.flatMap (dayScript m log)) =
      play s ((ivs.flatMap fun iv => due m log iv.date).map .process) := by
  induction ivs generalizing s with
  | nil => rfl
  | cons iv ivs ih =>
      rw [List.flatMap_cons, List.flatMap_cons, List.map_append, play_append, play_append,
        dayScript, play_cons]
      show ((Reducer.newDay s iv).andThen _).andThen _ = _
      rw [h.newDay, andThen_ok]
      exact congrArg _ (funext ih)

/-- **What a sweep that succeeds has done**, if the reducer does not hear of days: it has handed
over what is due on its days, and there was no objection in the end. -/
theorem run_eq_ok_iff (h : IsTimeless I) {today : Date} {p : Predicate} {period : Period}
    {after : σ} {summary : Summary} (hp : p.compile = .ok m) :
    run (Store.load ops) today p (some period) s = ⟨after, .ok summary⟩ ↔
      (play s (handovers m (sortLog ops) period)).error = none ∧
        (play s (handovers m (sortLog ops) period)).state = after ∧
        (Reducer.done after).error = none ∧
        summary = ⟨period, period.days.length, (handovers m (sortLog ops) period).length⟩ := by
  have hplay : play s (scriptOf m (sortLog ops) today period) =
      (play s (handovers m (sortLog ops) period)).andThen Reducer.done := by
    rw [scriptOf, play_script, h.play_days, Tracker.flatMap_visits]
    rfl
  rw [run_load ops today hp, periodOf, Option.getD_some, hplay, handovers, List.length_map]
  constructor
  · intro hrun
    rw [outcome] at hrun
    split at hrun
    case h_1 => cases hrun
    case h_2 herror =>
      cases hrun
      obtain ⟨hplay, hover⟩ := error_andThen_eq_none herror
      rw [hover] at herror ⊢
      rw [h.state_done]
      exact ⟨hplay, rfl, herror, rfl⟩
  · rintro ⟨hplay, rfl, hdone, rfl⟩
    rw [andThen_of_none hplay, outcome, hdone]
    exact congrArg (Outcome.mk · _) (h.state_done _)

/-- **What is wrong stays wrong.**  Live operations keep what is asked of the state, and a reducer
that has no objection after them has none before them. -/
theorem play_process (h : IsTimeless I) (hs : I s) (hops : ∀ op ∈ ops, op.isDeleted = false)
    (herror : (play s (ops.map .process)).error = none) :
    I (play s (ops.map .process)).state ∧
      ((Reducer.done (play s (ops.map .process)).state).error = none →
        (Reducer.done s).error = none) := by
  induction ops generalizing s with
  | nil => exact ⟨hs, id⟩
  | cons op ops ih =>
      obtain ⟨hop, hops⟩ := List.forall_mem_cons.1 hops
      rw [List.map_cons, play_cons] at herror ⊢
      obtain ⟨hprocess, hrest⟩ := error_andThen_eq_none herror
      rw [hrest] at herror ⊢
      obtain ⟨hI, hsettled⟩ := ih (h.process hop hs hprocess) hops herror
      exact ⟨hI, fun hdone => h.settled hop hs hprocess (hsettled hdone)⟩

/-- **A sweep that succeeds may be broken off** after any of its days, and taken up again on the day
after it. -/
theorem run_adjacent (h : IsTimeless I) (hs : I s) {start mid stop : Date}
    (hstart : start ≤ mid) (hstop : mid < stop) {today : Date} {p : Predicate} {after : σ}
    {whole : Summary}
    (hrun : run (Store.load ops) today p (some ⟨start, stop⟩) s = ⟨after, .ok whole⟩)
    (today₁ today₂ : Date) :
    ∃ middle first second,
      run (Store.load ops) today₁ p (some ⟨start, mid⟩) s = ⟨middle, .ok first⟩ ∧
        run (Store.load ops) today₂ p (some ⟨mid.addDays 1, stop⟩) middle = ⟨after, .ok second⟩ ∧
        first.days + second.days = whole.days ∧
        first.dispatched + second.dispatched = whole.dispatched := by
  obtain ⟨m, hp, -⟩ := exists_of_run_load hrun
  obtain ⟨herror, hafter, hdone, rfl⟩ := (h.run_eq_ok_iff hp).1 hrun
  have hsplit : handovers m (sortLog ops) ⟨start, stop⟩ =
      handovers m (sortLog ops) ⟨start, mid⟩ ++
        handovers m (sortLog ops) ⟨mid.addDays 1, stop⟩ := by
    rw [handovers, ← Period.days_append hstart hstop, List.flatMap_append, List.map_append]
    rfl
  rw [hsplit, play_append] at herror hafter
  obtain ⟨hfirst, hrest⟩ := error_andThen_eq_none herror
  rw [hrest] at herror hafter
  -- here the first sweep says that it is over, and the one sweep goes on
  obtain ⟨hmiddle, -⟩ := h.play_process hs isDeleted_of_mem_due hfirst
  obtain ⟨-, hsettled⟩ := h.play_process hmiddle isDeleted_of_mem_due herror
  have hbreak := hsettled (hafter ▸ hdone)
  refine ⟨_, _, _, (h.run_eq_ok_iff hp).2 ⟨hfirst, rfl, hbreak, rfl⟩,
    (h.run_eq_ok_iff hp).2 ⟨herror, hafter, hdone, rfl⟩, ?_, ?_⟩
  · show List.length _ + List.length _ = List.length _
    rw [← List.length_append, Period.days_append hstart hstop]
  · show List.length _ + List.length _ = List.length _
    rw [← List.length_append, hsplit]

end IsTimeless

end Cashbook.Sweep

namespace Cashbook

open Sweep

/-- The counts check themselves when a sweep is over. -/
theorem Counts.isTimeless : IsTimeless fun c : Counts => c.returns ≤ c.expense where
  newDay _ _ := rfl
  state_done _ := rfl
  process _ hc _ := returns_le_expense_add hc _
  settled {c op} hop hc _ hdone := by
    have hadd : (c.add op).all = (c.add op).byKind := ((check_eq_none_iff (c.add op)).1 hdone).1
    rw [all_add, byKind_add c hop] at hadd
    exact (check_eq_none_iff c).2 ⟨Nat.succ.inj hadd, hc⟩

/-- **Sweeps over adjacent periods compose.**  If one sweep with counts, both comparisons and goals
succeeds, so do a sweep up to any of its days and, with the same reducers, one from the next day on.
They leave every reducer as the one sweep does, and count as many days and operations.  Nothing is
asked of the reducers but that there are no more returns than expenses, as with fresh ones. -/
theorem adjacent_sweeps_compose (ops : List Operation) (p : Predicate) {start mid stop : Date}
    (hstart : start ≤ mid) (hstop : mid < stop) (today today₁ today₂ : Date) (counts : Counts)
    (hcounts : counts.returns ≤ counts.expense) (months : MonthlyComparison)
    (years : YearlyComparison) (goals : Goals)
    {after : Counts × MonthlyComparison × YearlyComparison × Goals} {whole : Summary}
    (hrun : run (Store.load ops) today p (some ⟨start, stop⟩) (counts, months, years, goals) =
      ⟨after, .ok whole⟩) :
    ∃ middle first second,
      run (Store.load ops) today₁ p (some ⟨start, mid⟩) (counts, months, years, goals) =
          ⟨middle, .ok first⟩ ∧
        run (Store.load ops) today₂ p (some ⟨mid.addDays 1, stop⟩) middle = ⟨after, .ok second⟩ ∧
        first.days + second.days = whole.days ∧
        first.dispatched + second.dispatched = whole.dispatched := by
  have hmonths : IsTimeless fun _ : MonthlyComparison => True :=
    .of_process (fun _ _ => rfl) fun _ => rfl
  have hyears : IsTimeless fun _ : YearlyComparison => True :=
    .of_process (fun _ _ => rfl) fun _ => rfl
  have hgoals : IsTimeless fun _ : Goals => True := .of_process (fun _ _ => rfl) fun _ => rfl
  exact (Counts.isTimeless.pair (hmonths.pair (hyears.pair hgoals))).run_adjacent
    ⟨hcounts, trivial, trivial, trivial⟩ hstart hstop hrun today₁ today₂

/-- Fresh reducers, and two days with an income on each. -/
theorem adjacent_sweeps_compose_of_two_days :
    let d : Date := ⟨738550, by decide, by decide⟩
    let next : Date := d.addDays 1
    let now : Timestamp := ⟨d, 0, 0⟩
    let wage : Operation :=
      .income ⟨"wage", now, d, "EUR", (2 : Float).toBits, [], none⟩ ⟨"cash", 2⟩ [⟨"work", 2⟩]
    let gift : Operation :=
      .income ⟨"gift", now, next, "EUR", (1 : Float).toBits, [], none⟩ ⟨"cash", 1⟩ []
    let table : RateTable := fun _ _ _ => .ok 1
    let before : Counts × MonthlyComparison × YearlyComparison × Goals :=
      (.empty, .create "EUR" table, .create "EUR" table,
        .create [(Category.create "work" "EUR" now).withGoal 10] "EUR" table)
    ∃ after middle first second,
      run (Store.load [wage, gift]) d .any (some ⟨d, next⟩) before =
          ⟨after, .ok ⟨⟨d, next⟩, 2, 2⟩⟩ ∧
        run (Store.load [wage, gift]) d .any (some ⟨d, d⟩) before = ⟨middle, .ok first⟩ ∧
        run (Store.load [wage, gift]) next .any (some ⟨next, next⟩) middle = ⟨after, .ok second⟩ ∧
        first.days + second.days = 2 ∧ first.dispatched + second.dispatched = 2 := by
  intro d next now wage gift table before
  have hsort : Operation.sortLog [wage, gift] = [wage, gift] :=
    List.mergeSort_of_pairwise (by decide +kernel)
  obtain ⟨after, hrun⟩ : ∃ after, run (Store.load [wage, gift]) d .any (some ⟨d, next⟩) before =
      ⟨after, .ok ⟨⟨d, next⟩, 2, 2⟩⟩ := by
    apply Outcome.exists_eq_of_toOption
    rw [run_load [wage, gift] d (m := fun _ => true) rfl, hsort]
    decide +kernel
  obtain ⟨middle, first, second, hfirst, hsecond, hdays, hdispatched⟩ :=
    adjacent_sweeps_compose [wage, gift] .any (show d ≤ d by decide) (show d < next by decide)
      d d next .empty (Nat.le_refl 0) _ _ _ hrun
  exact ⟨after, middle, first, second, hrun, hfirst, hsecond, hdays, hdispatched⟩

end Cashbook
