import Cashbook.Proofs.Store.Convergence
import Cashbook.Proofs.Store.Stamping

/-!
# Stale records do not undo a renaming

Other devices do not know of a renaming, and send records that were written before it.  A live
record takes the place of another only if it was written later, and what has been renamed bears the
time of the renaming: so no record that is not later than that (`IsStale`) takes its place.

* `Store.lastOf?_merged_of_outweighed` — a merge keeps what nothing outweighs that comes in.
* `Store.mergeAll_keeps` — so do any number of merges.
* `Store.merge_eq_zero` — a merge of records that are all outweighed changes nothing, and
  `Store.merge_before_renaming` — this is so of the log that was there before the renaming.
* `Store.renaming_outlives_stale_records` — all of it together.
-/

namespace Cashbook

namespace Operation

/-- Whether a record is live and was not written after `now`. -/
def IsStale (now : Timestamp) (op : Operation) : Prop := ∃ t ∈ op.lastModified?, ¬ now < t

instance (now : Timestamp) (op : Operation) : Decidable (op.IsStale now) :=
  inferInstanceAs (Decidable (∃ t ∈ op.lastModified?, ¬ now < t))

variable {now : Timestamp} {op known : Operation}

/-- What was written at `now` outweighs what is stale. -/
theorem IsStale.weight_le (h : op.IsStale now) (hknown : known.lastModified? = some now) :
    op.weight ≤ known.weight := by
  obtain ⟨t, ht, hnot⟩ := h
  rw [weight_of_lastModified? ht, weight_of_lastModified? hknown, WithTop.coe_le_coe]
  exact not_lt.1 (mt Timestamp.lt_iff_key_lt.2 hnot)

end Operation

namespace Store

open Operation

variable {log incoming : List Operation} {id : String} {known : Operation}

/-! ### What is not outweighed stays -/

/-- A record takes its place under a name only if it is heavier than what is known there. -/
theorem foldl_heavier_of_le {known : Option Operation} {incoming : List Operation}
    (h : ∀ op ∈ incoming, op.weight ≤ weightOf? known) : incoming.foldl heavier known = known := by
  induction incoming with
  | nil => rfl
  | cons op incoming ih =>
      obtain ⟨hop, hrest⟩ := List.forall_mem_cons.1 h
      have hkept : heavier known op = known := by
        rw [heavier_eq, if_neg]
        exact mt (supersedes_iff op known).1 (not_lt.2 hop)
      rw [List.foldl_cons, hkept, ih hrest]

/-- **One merge** keeps what the log has under a name, if nothing that comes in is heavier. -/
theorem lastOf?_merged_of_outweighed
    (h : ∀ op ∈ incoming, op.id = id → op.weight ≤ weightOf? (lastOf? log id)) :
    lastOf? (sortLog (received log incoming).1.values) id = lastOf? log id := by
  rw [lastOf?_merged]
  refine foldl_heavier_of_le fun op hop => ?_
  obtain ⟨hop, hid⟩ := List.mem_filter.1 hop
  exact h op hop (of_decide_eq_true hid)

/-- **Any number of merges** keep a record of the log that nothing outweighs. -/
theorem mergeAll_keeps {batches : List (List Operation)}
    (hknown : lastOf? log known.id = some known)
    (h : ∀ op ∈ batches.flatten, op.id = known.id → op.weight ≤ known.weight)
    {log' : List Operation} (hrun : mergeAll ⟨some log⟩ batches = .ok ⟨some log'⟩) :
    lastOf? log' known.id = some known := by
  induction batches generalizing log with
  | nil =>
      cases hrun
      exact hknown
  | cons incoming batches ih =>
      rw [List.flatten_cons] at h
      have hnext : lastOf? (sortLog (received log incoming).1.values) known.id = some known := by
        rw [lastOf?_merged_of_outweighed, hknown]
        intro op hop hid
        rw [hknown]
        exact WithBot.coe_le_coe.2 (h op (List.mem_append_left _ hop) hid)
      exact ih hnext (fun op hop => h op (List.mem_append_right _ hop)) hrun

/-- **A merge of what is outweighed** changes nothing. -/
theorem merge_eq_zero (hlog : IsTidy log)
    (h : ∀ op ∈ incoming, op.weight ≤ weightOf? (lastOf? log op.id)) :
    merge ⟨some log⟩ incoming = .ok (0, ⟨some log⟩) := by
  have hsame : sortLog (received log incoming).1.values = log := by
    refine (isTidy_sortLog (isKeyed_received log incoming).nodup_values).ext hlog fun id => ?_
    refine lastOf?_merged_of_outweighed fun op hop hid => ?_
    rw [← hid]
    exact h op hop
  rw [merge_eq, load, hsame, (changes_eq_zero_iff hlog incoming).2 hsame]

/-! ### After a renaming -/

section

variable {b : Bearer} {ops : List Operation} {old new : String} {now : Timestamp}

/-- Renaming keeps a log tidy. -/
theorem isTidy_renamed (b : Bearer) (old new : String) (now : Timestamp)
    (hids : (ops.map (·.id)).Nodup) :
    IsTidy ((sortLog ops).map (b.withName old new now)) := by
  have hnames : ((sortLog ops).map (b.withName old new now)).map (·.id) =
      (sortLog ops).map (·.id) := by
    rw [List.map_map]
    exact List.map_congr_left fun op _ => (b.sameEntry_withName old new now op).id_eq
  rw [← sortLog_map_sortLog (b.sameEntry_withName old new now)]
  refine isTidy_sortLog ?_
  rw [hnames]
  exact (isTidy_sortLog hids).nodup

theorem lastOf?_renamed (hids : (ops.map (·.id)).Nodup) {op : Operation} (hop : op ∈ ops) :
    lastOf? ((sortLog ops).map (b.withName old new now)) op.id =
      some (b.withName old new now op) := by
  rw [lastOf?_eq_some_iff (isTidy_renamed b old new now hids).nodup]
  exact ⟨List.mem_map_of_mem ((sortLog_perm ops).mem_iff.2 hop),
    (b.sameEntry_withName old new now op).id_eq⟩

/-- What there was before a renaming is outweighed afterwards. -/
theorem merge_before_renaming (hids : (ops.map (·.id)).Nodup)
    (hnow : ∀ op ∈ ops, op.isDeleted = false → op.IsStale now) :
    merge ⟨some ((sortLog ops).map (b.withName old new now))⟩ (sortLog ops) =
      .ok (0, ⟨some ((sortLog ops).map (b.withName old new now))⟩) := by
  refine merge_eq_zero (isTidy_renamed b old new now hids) fun op hop => ?_
  have hmem : op ∈ ops := (sortLog_perm ops).mem_iff.1 hop
  rw [lastOf?_renamed hids hmem]
  refine WithBot.coe_le_coe.2 ?_
  by_cases hnames : old ∈ b.names op
  · have hlive := Bearer.isDeleted_of_mem_names hnames
    exact (hnow op hmem hlive).weight_le (Bearer.lastModified?_withName hnames now)
  · rw [Bearer.withName_of_not_mem hnames]

end

/-- **Stale records do not undo a renaming.**  After a renaming that is not earlier than any record
of the log, whatever stale records are merged, in whatever batches, every operation that has been
renamed is just as the renaming left it, and each name has what stands for it.  Merging the log that
was there before counts no changes and makes none. -/
theorem renaming_outlives_stale_records (b : Bearer) (ops : List Operation)
    (hids : (ops.map (·.id)).Nodup) (old new : String) (now : Timestamp)
    (hnow : ∀ op ∈ ops, op.isDeleted = false → op.IsStale now) :
    ∃ count log, (load ops).rename b old new now = .ok (count, ⟨some log⟩) ∧
      (∀ batches : List (List Operation), (∀ op ∈ batches.flatten, op.IsStale now) →
        ∃ log', mergeAll ⟨some log⟩ batches = .ok ⟨some log'⟩ ∧ (log'.map (·.id)).Nodup ∧
          (∀ op ∈ ops, old ∈ b.names op → b.withName old new now op ∈ log') ∧
          ∀ op ∈ log', Stands (log ++ batches.flatten) op) ∧
      ∃ before, (load ops).snapshot = .ok before ∧
        merge ⟨some log⟩ before = .ok (0, ⟨some log⟩) := by
  refine ⟨_, _, rename_load b ops old new now, fun batches hstale => ?_, sortLog ops, rfl,
    merge_before_renaming hids hnow⟩
  have hlog := isLogOf_sortLog (isTidy_renamed b old new now hids).nodup
  rw [sortLog_map_sortLog (b.sameEntry_withName old new now)] at hlog
  obtain ⟨log', hrun, hlog'⟩ := hlog.mergeAll batches
  refine ⟨log', hrun, hlog'.tidy.nodup, fun op hop hnames => ?_, fun op hop => hlog'.stands hop⟩
  have hknown :
      lastOf? ((sortLog ops).map (b.withName old new now)) (b.withName old new now op).id =
        some (b.withName old new now op) := by
    rw [(b.sameEntry_withName old new now op).id_eq]
    exact lastOf?_renamed hids hop
  refine mem_of_lastOf? (mergeAll_keeps hknown (fun other hother _ => ?_) hrun)
  exact (hstale other hother).weight_le (Bearer.lastModified?_withName hnames now)

/-- A transfer whose first account gets a new name, and an older copy of it that comes in twice,
with an adjustment that was not renamed and comes in anew. -/
theorem renaming_outlives_stale_records_of_transfer :
    let head (id : String) (second : Nat) : Head :=
      ⟨id, ⟨.first, second, 0⟩, .first, "EUR", (1 : Float).toBits, [], none⟩
    let rent : Operation := .transfer (head "rent" 0) ⟨"cash", -1⟩ ⟨"bank", 1⟩
    let found : Operation := .adjustment (head "found" 0) ⟨"bank", 1⟩
    let newer : Operation := .adjustment (head "found" 1) ⟨"safe", 1⟩
    let now : Timestamp := ⟨.first, 1, 0⟩
    ([rent, found].map (·.id)).Nodup ∧
      (∀ op ∈ [rent, found], op.isDeleted = false → op.IsStale now) ∧
      (∀ op ∈ [[rent], [newer, rent]].flatten, op.IsStale now) ∧
      "cash" ∈ Bearer.account.names rent ∧
      ∃ count log log', (load [rent, found]).rename .account "cash" "purse" now =
          .ok (count, ⟨some log⟩) ∧
        mergeAll ⟨some log⟩ [[rent], [newer, rent]] = .ok ⟨some log'⟩ ∧
        .transfer (head "rent" 1) ⟨"purse", -1⟩ ⟨"bank", 1⟩ ∈ log' ∧
        ∃ before, (load [rent, found]).snapshot = .ok before ∧
          merge ⟨some log⟩ before = .ok (0, ⟨some log⟩) := by
  intro head rent found newer now
  have hids : ([rent, found].map (·.id)).Nodup := by decide
  have hold : ∀ op ∈ [rent, found], op.isDeleted = false → op.IsStale now := by decide
  have hstale : ∀ op ∈ [[rent], [newer, rent]].flatten, op.IsStale now := by decide
  have hnames : "cash" ∈ Bearer.account.names rent := by decide
  obtain ⟨count, log, hrename, hmerges, hbefore⟩ :=
    renaming_outlives_stale_records .account [rent, found] hids "cash" "purse" now hold
  obtain ⟨log', hrun, -, hkept, -⟩ := hmerges [[rent], [newer, rent]] hstale
  refine ⟨hids, hold, hstale, hnames, count, log, log', hrename, hrun, ?_, hbefore⟩
  exact hkept rent List.mem_cons_self hnames

end Store

end Cashbook
