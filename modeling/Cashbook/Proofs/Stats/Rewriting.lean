import Cashbook.Proofs.Stats.Script
import Cashbook.Proofs.Store.Amending

/-!
# Sweeps over a log and over the amended log

If every operation of a log is amended where it stands, and a second filter decides about the
amended operations as the first one did about the others, the two sweeps make the same calls with
the amended operations in the place of the others (`run_map`).

Two reducers that answer such calls alike are alike after the sweeps.  `Reply.Alike` says what that
means when calls may fail: what has to be shown of single calls carries over to any number of them
(`play_alike`).
-/

namespace Cashbook

/-- Whether two replies are alike: the states are related if both calls succeed.  If `A` holds, the
calls fail alike, and the states are related in any case. -/
structure Reply.Alike {σ τ : Type} (A : Prop) (R : σ → τ → Prop) (r : Reply σ) (r' : Reply τ) :
    Prop where
  error_eq : A → r'.error = r.error
  related : A ∨ r.error = none ∧ r'.error = none → R r.state r'.state

namespace Reply.Alike

variable {σ τ : Type} {A : Prop} {R : σ → τ → Prop}

theorem ok {s : σ} {t : τ} (h : R s t) : Alike A R (.ok s) (.ok t) := ⟨fun _ => rfl, fun _ => h⟩

/-- Replies that are alike stay alike when calls that are answered alike follow them. -/
theorem andThen {r : Reply σ} {r' : Reply τ} {f : σ → Reply σ} {g : τ → Reply τ}
    (h : Alike A R r r') (hf : ∀ {s t}, R s t → Alike A R (f s) (g t)) :
    Alike A R (r.andThen f) (r'.andThen g) := by
  have herror := h.error_eq
  cases hr : r.error with
  | none =>
      rw [andThen_of_none hr]
      cases hr' : r'.error with
      | none =>
          rw [andThen_of_none hr']
          exact hf (h.related (.inr ⟨hr, hr'⟩))
      | some e =>
          have hA : ¬ A := fun hA => by simpa [hr, hr'] using herror hA
          rw [andThen_of_error hr']
          refine ⟨fun h => absurd h hA, fun h => h.elim (fun h => absurd h hA) fun h => ?_⟩
          rw [hr'] at h
          cases h.2
  | some e =>
      rw [andThen_of_error hr]
      cases hr' : r'.error with
      | none =>
          have hA : ¬ A := fun hA => by simpa [hr, hr'] using herror hA
          rw [andThen_of_none hr']
          refine ⟨fun h => absurd h hA, fun h => h.elim (fun h => absurd h hA) fun h => ?_⟩
          rw [hr] at h
          cases h.1
      | some e' =>
          rw [andThen_of_error hr']
          exact h

end Reply.Alike

namespace Sweep

open Operation

/-- The call with another operation. -/
def Event.map (r : Operation → Operation) : Event → Event
  | newDay iv => newDay iv
  | process op => process (r op)
  | done => done

/-- **Any number of calls** are answered alike if each of them is. -/
theorem play_alike {σ τ : Type} [Reducer σ] [Reducer τ] {A : Prop} {R : σ → τ → Prop}
    {r : Operation → Operation} {es : List Event}
    (hsend : ∀ e ∈ es, ∀ {s t}, R s t → Reply.Alike A R (e.send s) ((e.map r).send t))
    {s : σ} {t : τ} (h : R s t) : Reply.Alike A R (play s es) (play t (es.map (·.map r))) := by
  induction es generalizing s t with
  | nil => exact .ok h
  | cons e es ih =>
      obtain ⟨he, hes⟩ := List.forall_mem_cons.1 hsend
      exact (he h).andThen fun h => ih hes h

/-- The same calls are answered alike if each of them is. -/
theorem play_congr {σ τ : Type} [Reducer σ] [Reducer τ] {A : Prop} {R : σ → τ → Prop}
    {es : List Event} (hsend : ∀ e ∈ es, ∀ {s t}, R s t → Reply.Alike A R (e.send s) (e.send t))
    {s : σ} {t : τ} (h : R s t) : Reply.Alike A R (play s es) (play t es) := by
  have hsame (e : Event) : e.map id = e := by cases e <;> rfl
  have halike : Reply.Alike A R (play s es) (play t (es.map (·.map id))) := by
    refine play_alike (fun e he {s t} hst => ?_) h
    rw [hsame]
    exact hsend e he hst
  rwa [List.map_congr_left fun e _ => hsame e, List.map_id'] at halike

/-- Sweeps fail alike if their calls do. -/
theorem result_outcome_congr {σ τ : Type} {r : Reply σ} {r' : Reply τ} (h : r'.error = r.error)
    (summary : Summary) : (outcome r' summary).result = (outcome r summary).result := by
  rw [outcome, outcome, h]
  cases r.error <;> rfl

/-! ### The calls -/

variable {m m' : Matcher} {log : List Operation} {r : Operation → Operation}

theorem due_map (hentry : ∀ op, SameEntry op (r op)) (hm : ∀ op ∈ log, m' (r op) = m op)
    (d : Date) : due m' (log.map r) d = (due m log d).map r := by
  rw [due, due, List.filter_map]
  refine congrArg (List.map r) (List.filter_congr fun op hop => ?_)
  show isDue m' d (r op) = isDue m d op
  rw [isDue, isDue, (hentry op).date?_eq, hm op hop]

theorem script_map (hentry : ∀ op, SameEntry op (r op)) (hm : ∀ op ∈ log, m' (r op) = m op)
    (ivs : List Intervals) :
    script m' (log.map r) ivs = (script m log ivs).map (·.map r) := by
  have hday (iv : Intervals) :
      dayScript m' (log.map r) iv = (dayScript m log iv).map (·.map r) := by
    rw [dayScript, dayScript, due_map hentry hm, List.map_cons, List.map_map, List.map_map]
    rfl
  rw [script, script, List.map_append, List.map_flatMap, List.flatMap_congr fun iv _ => hday iv]
  rfl

/-- Amending does not change the period of a sweep. -/
theorem periodOf_map (hentry : ∀ op, SameEntry op (r op)) (log : List Operation) (today : Date)
    (span : Option Period) : periodOf (log.map r) today span = periodOf log today span := by
  have hdate : (fun op => (r op).date?) = fun op : Operation => op.date? :=
    funext fun op => (hentry op).date?_eq
  have hfind (log : List Operation) :
      (log.map r).findSome? (·.date?) = log.findSome? (·.date?) := by
    rw [List.findSome?_map]
    exact congrArg (log.findSome? ·) hdate
  rw [periodOf, periodOf, fullPeriod, fullPeriod, Store.firstDateOf?, Store.firstDateOf?,
    Store.lastDateOf?, Store.lastDateOf?, hfind, ← List.map_reverse, hfind]

/-- Whether every sweep over `after` with the filter `q` makes the calls that the sweep over
`before` with the filter `p` makes, with the operation `r op` in the place of each operation
`op`. -/
def SweepsAlike (r : Operation → Operation) (before after : Store) (p q : Predicate) : Prop :=
  ∀ (today : Date) (span : Option Period), ∃ (es : List Event) (summary : Summary),
    ∀ (σ : Type) [Reducer σ] (s : σ),
      run before today p span s = outcome (play s es) summary ∧
        run after today q span s = outcome (play s (es.map (·.map r))) summary

/-- **A sweep over an amended log** makes the calls of the sweep over the log, with the amended
operations. -/
theorem run_map {ops : List Operation} {p q : Predicate} (hentry : ∀ op, SameEntry op (r op))
    (hp : p.compile = .ok m) (hq : q.compile = .ok m')
    (hm : ∀ op ∈ sortLog ops, m' (r op) = m op) (today : Date) (span : Option Period) :
    ∃ (es : List Event) (summary : Summary), (∀ op, .process op ∈ es → op ∈ sortLog ops) ∧
      ∀ (σ : Type) [Reducer σ] (s : σ),
        run (Store.load ops) today p span s = outcome (play s es) summary ∧
          run ⟨some ((sortLog ops).map r)⟩ today q span s =
            outcome (play s (es.map (·.map r))) summary := by
  refine ⟨scriptOf m (sortLog ops) today (periodOf (sortLog ops) today span), _,
    fun op => mem_of_mem_script, fun σ _ s => ⟨run_load ops today hp span s, ?_⟩⟩
  have hsort : sortLog ((sortLog ops).map r) = (sortLog ops).map r := sortLog_map_sortLog hentry
  have hrun := run_load ((sortLog ops).map r) today hq span s
  rw [Store.load, hsort, periodOf_map hentry, scriptOf, script_map hentry hm] at hrun
  rw [hrun]
  simp only [due_map hentry hm, List.length_flatMap, List.length_map]
  rfl

end Sweep

end Cashbook
