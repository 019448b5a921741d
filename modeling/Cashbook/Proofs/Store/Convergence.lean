import Cashbook.Proofs.Store.Records

/-!
# Merges converge

A log whose names are distinct stays so, and of each name it has what `Stands` says: the tombstone,
if there has been one, and otherwise the first of the records written last.  In terms of weights
this is the first of the heaviest (`stands_of_argmax`), and going on from there with more records is
the same as having begun with all of them (`IsLogOf.received`).  So the log only depends on what has
arrived, and hardly on when: the order decides between live records that were written at one moment,
and if there are no such ties it decides nothing (`IsLogOf.eq_of_mem_iff`).

* `IsLogOf` — what merges preserve.
* `IsLogOf.received` — one merge, and `IsLogOf.mergeAll` — any number of them.
* `merges_converge` — what this comes to for a store.
-/

namespace Cashbook

namespace Operation

variable {a b op : Operation} {arrived arrived' : List Operation}

/-! ### What stands for a name -/

/-- Whether `a` and `b` are live and `a` was written before `b`. -/
def WrittenBefore (a b : Operation) : Prop :=
  ∃ t u, a.lastModified? = some t ∧ b.lastModified? = some u ∧ t < u

theorem WrittenBefore.weight_lt (h : WrittenBefore a b) : a.weight < b.weight := by
  obtain ⟨t, u, ht, hu, hlt⟩ := h
  rw [weight_of_lastModified? ht, weight_of_lastModified? hu]
  exact WithTop.coe_lt_coe.2 (Timestamp.lt_iff_key_lt.1 hlt)

theorem exists_lastModified?_of_live (h : op.isDeleted = false) :
    ∃ t, op.lastModified? = some t := by
  rw [← Option.ne_none_iff_exists', Ne, lastModified?_eq_none_iff, h]
  simp

theorem writtenBefore_of_weight_lt (hb : b.isDeleted = false) (h : a.weight < b.weight) :
    WrittenBefore a b := by
  obtain ⟨u, hu⟩ := exists_lastModified?_of_live hb
  -- what weighs less than a live record is live
  have ha : a.isDeleted = false := by
    rw [← Bool.not_eq_true, ← weight_eq_top_iff]
    exact (h.trans_le le_top).ne
  obtain ⟨t, ht⟩ := exists_lastModified?_of_live ha
  rw [weight_of_lastModified? ht, weight_of_lastModified? hu] at h
  exact ⟨t, u, ht, hu, Timestamp.lt_iff_key_lt.2 (WithTop.coe_lt_coe.1 h)⟩

/-- Whether `op` is what is left of the records of its name when `arrived` have come in, one after
the other. -/
structure Stands (arrived : List Operation) (op : Operation) : Prop where
  /-- It has come in. -/
  mem : op ∈ arrived
  /-- It is the tombstone if there is one. -/
  deleted : ∀ a ∈ arrived, a.id = op.id → a.isDeleted = true → op.isDeleted = true
  /-- Otherwise it is the first of those that were written last. -/
  first : op.isDeleted = false → ∃ earlier later,
    arrived.filter (·.id = op.id) = earlier ++ op :: later ∧
      (∀ a ∈ earlier, WrittenBefore a op) ∧ ∀ a ∈ later, ¬ WrittenBefore op a

/-- **What stands for a name** is the first of the heaviest. -/
theorem stands_of_argmax (h : (arrived.filter (·.id = op.id)).argmax weight = some op) :
    Stands arrived op where
  mem := (List.mem_filter.1 (List.argmax_mem h)).1
  deleted a ha hid hdeleted := by
    have hle : a.weight ≤ op.weight :=
      List.le_of_mem_argmax (List.mem_filter.2 ⟨ha, decide_eq_true hid⟩) h
    rw [(weight_eq_top_iff a).2 hdeleted, top_le_iff] at hle
    exact (weight_eq_top_iff op).1 hle
  first hlive := by
    obtain ⟨earlier, later, hsplit, hearlier, hlater⟩ := Lists.argmax_split h
    refine ⟨earlier, later, hsplit, ?_, ?_⟩
    · intro a ha
      exact writtenBefore_of_weight_lt hlive (hearlier a ha)
    · intro a ha hbefore
      exact (hlater a ha).not_gt hbefore.weight_lt

/-! ### Records without ties -/

/-- Whether live records of one name that were written at one moment are one record. -/
def HasNoTies (arrived : List Operation) : Prop :=
  ∀ a ∈ arrived, ∀ b ∈ arrived, a.isDeleted = false → b.isDeleted = false → a.id = b.id →
    a.lastModified? = b.lastModified? → a = b

theorem HasNoTies.eq_of_weight_eq (h : HasNoTies arrived) (ha : a ∈ arrived) (hb : b ∈ arrived)
    (hid : a.id = b.id) (hweight : a.weight = b.weight) : a = b := by
  have hsame : a.isDeleted = true ↔ b.isDeleted = true := by
    rw [← weight_eq_top_iff, ← weight_eq_top_iff, hweight]
  cases hdeleted : a.isDeleted with
  | true => exact eq_of_isDeleted hdeleted (hsame.1 hdeleted) hid
  | false =>
      have hlive : b.isDeleted = false := by
        rw [← Bool.not_eq_true, ← hsame, hdeleted]
        simp
      exact h a ha b hb hdeleted hlive hid (lastModified?_eq_of_weight_eq hweight)

/-- Without ties, the heaviest record of a name does not depend on the order of arrival. -/
theorem HasNoTies.argmax_congr (h : HasNoTies arrived)
    (hmem : ∀ op, op ∈ arrived' ↔ op ∈ arrived) (id : String) :
    (arrived'.filter (·.id = id)).argmax weight = (arrived.filter (·.id = id)).argmax weight := by
  apply Lists.argmax_congr
  · simp [hmem]
  · intro a ha b hb hweight
    simp only [List.mem_filter, decide_eq_true_eq] at ha hb
    exact h.eq_of_weight_eq ha.1 hb.1 (ha.2.trans hb.2.symm) hweight

end Operation

namespace Store

open Operation

variable {log log' arrived arrived' : List Operation}

/-! ### The log of what has arrived -/

/-- Whether a log is tidy, and has under each name the first of the heaviest records that have
arrived. -/
structure IsLogOf (log arrived : List Operation) : Prop where
  /-- The log is in order and has one record for each name. -/
  tidy : IsTidy log
  /-- That record is the first of the heaviest. -/
  kept : ∀ id, lastOf? log id = (arrived.filter (·.id = id)).argmax weight

theorem isLogOf_sortLog {ops : List Operation} (hids : (ops.map (·.id)).Nodup) :
    IsLogOf (sortLog ops) ops where
  tidy := isTidy_sortLog hids
  kept id := by
    cases hmax : (ops.filter (·.id = id)).argmax weight with
    | none =>
        rw [List.argmax_eq_none, List.filter_eq_nil_iff] at hmax
        rw [lastOf?_eq_none_iff, ((sortLog_perm ops).map _).mem_iff]
        simpa using hmax
    | some op =>
        have hop := List.mem_filter.1 (List.argmax_mem hmax)
        rw [lastOf?_eq_some_iff (isTidy_sortLog hids).nodup, (sortLog_perm ops).mem_iff]
        simpa using hop

theorem IsLogOf.mem_map_id_iff (h : IsLogOf log arrived) {id : String} :
    id ∈ log.map (·.id) ↔ id ∈ arrived.map (·.id) := by
  rw [← not_iff_not, ← lastOf?_eq_none_iff, h.kept, List.argmax_eq_none, List.filter_eq_nil_iff]
  simp

theorem IsLogOf.stands (h : IsLogOf log arrived) {op : Operation} (hop : op ∈ log) :
    Stands arrived op := by
  apply stands_of_argmax
  rw [← h.kept, lastOf?_eq_some_iff h.tidy.nodup]
  exact ⟨hop, rfl⟩

/-- **One merge.**  To go on from a log is to begin with everything that has arrived. -/
theorem IsLogOf.received (h : IsLogOf log arrived) (incoming : List Operation) :
    IsLogOf (sortLog (received log incoming).1.values) (arrived ++ incoming) where
  tidy := isTidy_sortLog (isKeyed_received log incoming).nodup_values
  kept id := by
    rw [lastOf?_merged, h.kept, List.filter_append]
    exact (List.foldl_append).symm

/-- Without ties, the log is one and the same for all orders of arrival. -/
theorem IsLogOf.eq_of_mem_iff (h : IsLogOf log arrived) (h' : IsLogOf log' arrived')
    (hties : HasNoTies arrived) (hmem : ∀ op, op ∈ arrived' ↔ op ∈ arrived) : log' = log := by
  apply h'.tidy.ext h.tidy
  intro id
  rw [h'.kept, h.kept, hties.argmax_congr hmem]

/-! ### Any number of merges -/

/-- Merges one batch of records after the other. -/
def mergeAll (s : Store) (batches : List (List Operation)) : Except Error Store :=
  batches.foldlM (fun s incoming => (s.merge incoming).map Prod.snd) s

theorem IsLogOf.mergeAll (h : IsLogOf log arrived) (batches : List (List Operation)) :
    ∃ log', mergeAll ⟨some log⟩ batches = .ok ⟨some log'⟩ ∧
      IsLogOf log' (arrived ++ batches.flatten) := by
  -- the log of what has arrived so far is carried along
  induction batches generalizing log arrived with
  | nil => exact ⟨log, rfl, by simpa using h⟩
  | cons incoming batches ih =>
      obtain ⟨log', hrun, hlog'⟩ := ih (h.received incoming)
      refine ⟨log', hrun, ?_⟩
      rwa [List.append_assoc] at hlog'

/-- **Merges converge.**  Whatever a store with distinct names takes in, it keeps what stands for
each name; each merge counts no changes exactly if there are none, and does not depend on the order
in which the map of the records is listed.  If there are no ties, what is kept depends on nothing
but which records have come in. -/
theorem merges_converge (ops : List Operation) (hids : (ops.map (·.id)).Nodup)
    (batches : List (List Operation)) :
    let arrived := ops ++ batches.flatten
    ∃ log, mergeAll (load ops) batches = .ok ⟨some log⟩ ∧
      log.Pairwise (fun a b => a.notAfter b = true) ∧
      (log.map (·.id)).Nodup ∧
      (∀ id, id ∈ log.map (·.id) ↔ id ∈ arrived.map (·.id)) ∧
      (∀ op ∈ log, Stands arrived op) ∧
      (∀ incoming, ∃ changes log', merge ⟨some log⟩ incoming = .ok (changes, ⟨some log'⟩) ∧
        (changes = 0 ↔ log' = log) ∧
        ∀ listed, listed.Perm (received log incoming).1.values → sortLog listed = log') ∧
      ∀ batches', (∀ op, op ∈ batches'.flatten ↔ op ∈ batches.flatten) → HasNoTies arrived →
        mergeAll (load ops) batches' = mergeAll (load ops) batches := by
  intro arrived
  obtain ⟨log, hrun, hlog⟩ := (isLogOf_sortLog hids).mergeAll batches
  refine ⟨log, hrun, hlog.tidy.sorted, hlog.tidy.nodup, fun id => hlog.mem_map_id_iff,
    fun op hop => hlog.stands hop, ?_, ?_⟩
  · intro incoming
    refine ⟨_, _, merge_eq log incoming, changes_eq_zero_iff hlog.tidy incoming, ?_⟩
    intro listed hlisted
    exact (isKeyed_received log incoming).sortLog_eq hlisted
  · intro batches' hmem hties
    obtain ⟨log', hrun', hlog'⟩ := (isLogOf_sortLog hids).mergeAll batches'
    have hsame : log' = log := by
      apply hlog.eq_of_mem_iff hlog' hties
      simp [hmem]
    rw [load, hrun, hrun', hsame]

/-- A newer version of a record and a tombstone, taken in one after the other or at once. -/
theorem merges_converge_of_two_batches :
    let head : Head := ⟨"rent", ⟨.first, 0, 0⟩, .first, "EUR", (1 : Float).toBits, [], none⟩
    let rent : Operation := .adjustment head ⟨"cash", 1⟩
    let newer : Operation := .adjustment { head with lastModified := ⟨.last, 0, 0⟩ } ⟨"bank", 1⟩
    ([rent].map (·.id)).Nodup ∧ HasNoTies [rent, newer, .deleted "old"] ∧
      mergeAll (load [rent]) [[.deleted "old", newer, newer]] =
        mergeAll (load [rent]) [[newer], [.deleted "old"]] := by
  intro head rent newer
  have hids : ([rent].map (·.id)).Nodup := List.nodup_singleton _
  have hties : HasNoTies [rent, newer, .deleted "old"] := by
    unfold HasNoTies
    decide
  obtain ⟨log, -, -, -, -, -, -, hsame⟩ :=
    merges_converge [rent] hids [[newer], [.deleted "old"]]
  refine ⟨hids, hties, hsame _ ?_ hties⟩
  intro op
  simp [or_comm]

end Store

end Cashbook
