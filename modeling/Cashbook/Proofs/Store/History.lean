import Mathlib.Order.Bounds.Defs
import Cashbook.Proofs.Store.Amending
import Cashbook.Proofs.Store.Records

/-!
# The history of a store

A store begins without a log and goes through a list of `Action`s.  Each of them makes a new log by
a way of its own: loading takes the records it is given, merging lists a map of them, and renaming
goes through the log in place.  `Action.records` says which records these are, and that is all that
an action can do (`attempt_loaded`): whatever they are, the new log is their log.

So every log that a store ever has is in order (`reached`), and with that goes what the order means
for its first and its last day (`isLeast_firstDateOf?`, `isGreatest_lastDateOf?`).  Only for the
names one has to look at the actions one by one (`map_id_records`, `nodup_records`): repeated names
can only come in by loading, and the next merge removes them.

An action that fails leaves the store as it was; this is what `step` says, and the actions that fail
are those that find no log.
-/

namespace Cashbook

namespace Store

open Operation

variable {log : List Operation}

/-! ### The first and the last day -/

/-- The days of the live operations of a log. -/
def daysOf (log : List Operation) : Set Date := {d | ∃ op ∈ log, op.date? = some d}

/-- A log without a first day has no live operations. -/
theorem firstDateOf?_eq_none_iff : firstDateOf? log = none ↔ ∀ op ∈ log, op.isDeleted = true := by
  rw [firstDateOf?, List.findSome?_eq_none_iff]
  refine forall₂_congr fun op _ => ?_
  rw [date?, Option.map_eq_none_iff, head?_eq_none_iff]

/-- A log without a last day has no live operations. -/
theorem lastDateOf?_eq_none_iff : lastDateOf? log = none ↔ ∀ op ∈ log, op.isDeleted = true := by
  rw [← firstDateOf?_eq_none_iff, lastDateOf?, firstDateOf?, List.findSome?_eq_none_iff,
    List.findSome?_eq_none_iff]
  exact forall_congr' fun op => by rw [List.mem_reverse]

/-- The first day of a log is the least of its days. -/
theorem isLeast_firstDateOf? (hlog : Chronological log) {d : Date}
    (h : firstDateOf? log = some d) : IsLeast (daysOf log) d := by
  refine ⟨List.exists_of_findSome?_eq_some h, ?_⟩
  rintro e ⟨op, hop, he⟩
  exact Lists.rel_of_findSome? (fun b : Date => Int.le_refl b.number) hlog h hop he

/-- The last day of a log is the greatest of its days. -/
theorem isGreatest_lastDateOf? (hlog : Chronological log) {d : Date}
    (h : lastDateOf? log = some d) : IsGreatest (daysOf log) d := by
  have hrev : log.reverse.Pairwise fun a b => ∀ x ∈ a.date?, ∀ y ∈ b.date?, y ≤ x :=
    List.pairwise_reverse.2 (hlog.imp fun h x hx y hy => h y hy x hx)
  constructor
  · obtain ⟨op, hop, hd⟩ := List.exists_of_findSome?_eq_some h
    exact ⟨op, List.mem_reverse.1 hop, hd⟩
  · rintro e ⟨op, hop, he⟩
    exact Lists.rel_of_findSome? (R := fun x y : Date => y ≤ x)
      (fun b => Int.le_refl b.number) hrev h (List.mem_reverse.2 hop) he

/-! ### Actions -/

/-- What can be done with a store. -/
inductive Action
  /-- The log is replaced by that of some records. -/
  | load (ops : List Operation)
  /-- The log is reconciled with records from elsewhere. -/
  | merge (incoming : List Operation)
  /-- The account `old` becomes `new`. -/
  | renameAccount (old new : String) (now : Timestamp)
  /-- The category `old` becomes `new`. -/
  | renameCategory (old new : String) (now : Timestamp)

namespace Action

/-- Whether an action replaces the log, whatever it has been. -/
def isLoad : Action → Bool
  | load _ => true
  | _ => false

/-- The records that an action makes the new log of. -/
def records (log : List Operation) : Action → List Operation
  | load ops => ops
  | merge incoming => (received log incoming).1.values
  | renameAccount old new now => log.map (amended now (·.renameAccount? old new))
  | renameCategory old new now => log.map (amended now (·.renameCategory? old new))

end Action

/-- The store after an action, or why the action fails. -/
def attempt (s : Store) : Action → Except Error Store
  | .load ops => .ok (.load ops)
  | .merge incoming => (s.merge incoming).map Prod.snd
  | .renameAccount old new now => (s.renameAccount old new now).map Prod.snd
  | .renameCategory old new now => (s.renameCategory old new now).map Prod.snd

/-- The store after an action; one that fails leaves it as it was. -/
def step (s : Store) (a : Action) : Store :=
  match s.attempt a with
  | .ok s => s
  | .error _ => s

/-- A new store after some actions. -/
def after (actions : List Action) : Store := actions.foldl step empty

/-- **What an action does to a loaded store**: it makes a new log. -/
theorem attempt_loaded (log : List Operation) (a : Action) :
    attempt ⟨some log⟩ a = .ok (load (a.records log)) := by
  cases a <;> rfl

/-- Without a log, every action but loading fails. -/
theorem attempt_empty {a : Action} (h : a.isLoad = false) :
    empty.attempt a = .error .notLoaded := by
  cases a with
  | load ops => cases h
  | _ => rfl

theorem step_loaded (log : List Operation) (a : Action) :
    step ⟨some log⟩ a = load (a.records log) := by
  rw [step, attempt_loaded]

theorem step_empty {a : Action} (h : a.isLoad = false) : empty.step a = empty := by
  rw [step, attempt_empty h]

theorem step_load (s : Store) (ops : List Operation) : s.step (.load ops) = load ops := rfl

/-! ### What becomes of the names -/

/-- Renaming keeps the names of the records, one by one. -/
theorem map_id_records {a : Action} (hload : a.isLoad = false)
    (hmerge : ∀ incoming, a ≠ .merge incoming) :
    (a.records log).map (·.id) = log.map (·.id) := by
  have hentry {r : Operation → Operation} (h : ∀ op, SameEntry op (r op)) :
      (log.map r).map (·.id) = log.map (·.id) := by
    rw [List.map_map]
    exact List.map_congr_left fun op _ => (h op).id_eq
  cases a with
  | load ops => cases hload
  | merge incoming => exact absurd rfl (hmerge incoming)
  | renameAccount old new now =>
      rw [Action.records, amended_renameAccount?]
      exact hentry (sameEntry_withAccount old new now)
  | renameCategory old new now =>
      rw [Action.records, amended_renameCategory?]
      exact hentry (sameEntry_withCategory old new now)

/-- A merge leaves each name once. -/
theorem nodup_records_merge (log incoming : List Operation) :
    (((Action.merge incoming).records log).map (·.id)).Nodup :=
  (isKeyed_received log incoming).nodup_values

/-- Only loading brings in repeated names. -/
theorem nodup_records {a : Action} (hload : a.isLoad = false) (h : (log.map (·.id)).Nodup) :
    ((a.records log).map (·.id)).Nodup := by
  by_cases hmerge : ∃ incoming, a = .merge incoming
  · obtain ⟨incoming, rfl⟩ := hmerge
    exact nodup_records_merge log incoming
  · rwa [map_id_records hload fun incoming heq => hmerge ⟨incoming, heq⟩]

/-! ### Any number of actions -/

/-- **Every store that can be reached** is without a log or has the log of some records: the first
until something is loaded, and the second from then on. -/
theorem reached (actions : List Action) :
    (after actions = empty ∧ ∀ a ∈ actions, a.isLoad = false) ∨
      ((∃ ops, after actions = load ops) ∧ ∃ a ∈ actions, a.isLoad = true) := by
  induction actions using List.reverseRecOn with
  | nil => exact .inl ⟨rfl, fun _ h => absurd h List.not_mem_nil⟩
  | append_singleton actions a ih =>
      have hafter : after (actions ++ [a]) = (after actions).step a := by
        rw [after, List.foldl_append]
        rfl
      rw [hafter]
      rcases ih with ⟨hempty, hnone⟩ | ⟨⟨ops, hops⟩, b, hb, hload⟩
      · cases ha : a.isLoad with
        | false =>
            rw [hempty, step_empty ha]
            refine .inl ⟨rfl, fun c hc => ?_⟩
            rcases List.mem_append.1 hc with hc | hc
            · exact hnone c hc
            · rw [List.mem_singleton.1 hc, ha]
        | true =>
            cases a with
            | load ops => exact .inr ⟨⟨ops, step_load _ ops⟩, .load ops, by simp, rfl⟩
            | _ => cases ha
      · refine .inr ⟨⟨a.records (sortLog ops), ?_⟩, b, List.mem_append_left _ hb, hload⟩
        rw [hops, load, step_loaded]

/-- Every log that a store ever has is the log of some records. -/
theorem exists_eq_load {actions : List Action} (h : (after actions).snapshot = .ok log) :
    ∃ ops, after actions = load ops ∧ log = sortLog ops := by
  rcases reached actions with ⟨hempty, -⟩ | ⟨⟨ops, hops⟩, -⟩
  · rw [hempty] at h
    cases h
  · rw [hops] at h
    cases h
    exact ⟨ops, hops, rfl⟩

/-- Distinct names stay distinct as long as nothing is loaded. -/
theorem nodup_foldl_step {actions : List Action} (hload : ∀ a ∈ actions, a.isLoad = false)
    (h : (log.map (·.id)).Nodup) :
    ∃ log', actions.foldl step ⟨some log⟩ = ⟨some log'⟩ ∧ (log'.map (·.id)).Nodup := by
  induction actions generalizing log with
  | nil => exact ⟨log, rfl, h⟩
  | cons a actions ih =>
      obtain ⟨ha, hload⟩ := List.forall_mem_cons.1 hload
      rw [List.foldl_cons, step_loaded, load]
      exact ih hload (isTidy_sortLog (nodup_records ha h)).nodup

/-- From a merge on, and until the next load, the names are distinct. -/
theorem nodup_after_merge {before later : List Action} {incoming : List Operation}
    (hload : ∀ a ∈ later, a.isLoad = false)
    (hlog : (after (before ++ .merge incoming :: later)).log = some log) :
    (log.map (·.id)).Nodup := by
  have hafter : after (before ++ .merge incoming :: later) =
      later.foldl step ((after before).step (.merge incoming)) := by
    rw [after, List.foldl_append, List.foldl_cons]
    rfl
  rw [hafter] at hlog
  rcases reached before with ⟨hempty, -⟩ | ⟨⟨ops, hops⟩, -⟩
  · -- a merge that finds no log fails, and nothing after it loads one
    have hnone : later.foldl step empty = empty := by
      clear hlog hafter
      induction later with
      | nil => rfl
      | cons a later ih =>
          obtain ⟨ha, hload⟩ := List.forall_mem_cons.1 hload
          rw [List.foldl_cons, step_empty ha, ih hload]
    rw [hempty, step_empty rfl, hnone] at hlog
    cases hlog
  · rw [hops, load, step_loaded, load] at hlog
    obtain ⟨log', hlog', hnodup⟩ :=
      nodup_foldl_step hload (isTidy_sortLog (nodup_records_merge (sortLog ops) incoming)).nodup
    rw [hlog', Option.some_inj] at hlog
    rwa [← hlog]

/-- Renaming keeps the names of a log, and each of them as often as it stands there. -/
theorem exists_step_rename (ops : List Operation) {a : Action} (hload : a.isLoad = false)
    (hmerge : ∀ incoming, a ≠ .merge incoming) :
    ∃ log', ((load ops).step a).snapshot = .ok log' ∧
      (log'.map (·.id)).Perm ((sortLog ops).map (·.id)) := by
  refine ⟨sortLog (a.records (sortLog ops)), ?_, ?_⟩
  · rw [load, step_loaded]
    rfl
  · exact ((sortLog_perm _).map _).trans (.of_eq (map_id_records hload hmerge))

/-- The first and the last day of a log. -/
theorem exists_firstDate_lastDate (ops : List Operation) :
    ∃ first last, (load ops).firstDate = .ok first ∧ (load ops).lastDate = .ok last ∧
      (first = none ↔ ∀ op ∈ sortLog ops, op.isDeleted = true) ∧
      (last = none ↔ ∀ op ∈ sortLog ops, op.isDeleted = true) ∧
      (∀ d, first = some d → IsLeast (daysOf (sortLog ops)) d) ∧
      ∀ d, last = some d → IsGreatest (daysOf (sortLog ops)) d :=
  ⟨firstDateOf? (sortLog ops), lastDateOf? (sortLog ops), rfl, rfl, firstDateOf?_eq_none_iff,
    lastDateOf?_eq_none_iff, fun _ => isLeast_firstDateOf? (chronological_sortLog ops),
    fun _ => isGreatest_lastDateOf? (chronological_sortLog ops)⟩

/-- **What holds of a store after any actions.**  It has a log if one has been loaded.  Until then
every other action fails and leaves it as it is; from then on no action fails.  The log is in order,
the tombstones first.  Loading keeps the names of the records that it is given, and renaming those
of the log; from a merge on and until something is loaded they are distinct.  The first and the last
day are the least and the greatest day of a live operation, and there are none if no operation is
live. -/
theorem after_isInOrder (actions : List Action) :
    let s := after actions
    (s.isLoaded = true ↔ ∃ a ∈ actions, a.isLoad = true) ∧
      (s.isLoaded = false → ∀ a, a.isLoad = false →
        s.attempt a = .error .notLoaded ∧ s.step a = s) ∧
      (s.isLoaded = true → ∀ a, s.attempt a = .ok (s.step a)) ∧
      (∀ ops, ∃ log, (s.step (.load ops)).snapshot = .ok log ∧
        (log.map (·.id)).Perm (ops.map (·.id))) ∧
      ∀ log, s.snapshot = .ok log →
        log.Pairwise (fun a b => a.notAfter b = true) ∧ IsArranged log ∧
        (∀ a, a.isLoad = false → (∀ incoming, a ≠ .merge incoming) →
          ∃ log', (s.step a).snapshot = .ok log' ∧ (log'.map (·.id)).Perm (log.map (·.id))) ∧
        (∀ before incoming later, actions = before ++ .merge incoming :: later →
          (∀ a ∈ later, a.isLoad = false) → (log.map (·.id)).Nodup) ∧
        ∃ first last, s.firstDate = .ok first ∧ s.lastDate = .ok last ∧
          (first = none ↔ ∀ op ∈ log, op.isDeleted = true) ∧
          (last = none ↔ ∀ op ∈ log, op.isDeleted = true) ∧
          (∀ d, first = some d → IsLeast (daysOf log) d) ∧
          ∀ d, last = some d → IsGreatest (daysOf log) d := by
  intro s
  have hload (ops : List Operation) : ∃ log, (s.step (.load ops)).snapshot = .ok log ∧
      (log.map (·.id)).Perm (ops.map (·.id)) :=
    ⟨sortLog ops, rfl, (sortLog_perm ops).map _⟩
  rcases reached actions with ⟨hempty, hnone⟩ | ⟨⟨ops, hops⟩, hsome⟩
  · have hs : s = empty := hempty
    rw [hs] at hload ⊢
    have hsnapshot (log : List Operation) : empty.snapshot ≠ .ok log := fun h => nomatch h
    refine ⟨⟨fun h => absurd h Bool.false_ne_true, fun ⟨a, ha, h⟩ => ?_⟩,
      fun _ a ha => ⟨attempt_empty ha, step_empty ha⟩,
      fun h => absurd h Bool.false_ne_true, hload, fun log h => absurd h (hsnapshot log)⟩
    rw [hnone a ha] at h
    cases h
  · have hs : s = load ops := hops
    rw [hs] at hload ⊢
    refine ⟨⟨fun _ => hsome, fun _ => rfl⟩, fun h => absurd h.symm Bool.false_ne_true,
      fun _ a => ?_, hload, fun log hlog => ?_⟩
    · rw [load, attempt_loaded, step_loaded]
    · cases hlog
      have hsorted := pairwise_sortLog ops
      refine ⟨hsorted, isArranged_of_pairwise hsorted, fun a => exists_step_rename ops,
        fun before incoming later hactions hlater => ?_, exists_firstDate_lastDate ops⟩
      have hlog : (after (before ++ .merge incoming :: later)).log = some (sortLog ops) := by
        rw [← hactions, hops]
        rfl
      exact nodup_after_merge hlater hlog

end Store

end Cashbook
