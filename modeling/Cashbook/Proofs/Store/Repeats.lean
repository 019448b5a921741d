import Cashbook.Dataset
import Cashbook.Proofs.Store.Convergence

/-!
# Merging into a log with repeated names

Nothing keeps a log from having several records of one name when it is loaded.  A merge goes through
them in the order of the log and remembers the last one only, so that the others have no say in what
is left: what stands for a name is what stands among this one and the incoming records
(`merge_load_stands`).  Tombstones are first in the order of the log, and so a tombstone is
forgotten whenever there is a live record of its name as well.

`Prevails` is what one would want instead, that no record of the log or of the batch outweighs the
one that is left.  `merge_load_stands` also says when that is the case, and
`not_tombstones_prevail` that it is not so always.
-/

namespace Cashbook

namespace Operation

variable {a b op : Operation} {arrived : List Operation}

/-- Whether `op` is the tombstone if there is one among the records of its name in `arrived`, and
otherwise none of them was written after it. -/
structure Prevails (arrived : List Operation) (op : Operation) : Prop where
  /-- It is one of them. -/
  mem : op ∈ arrived
  /-- It is the tombstone if there is one. -/
  deleted : ∀ a ∈ arrived, a.id = op.id → a.isDeleted = true → op.isDeleted = true
  /-- Otherwise it was written last. -/
  newest : op.isDeleted = false → ∀ a ∈ arrived, a.id = op.id → ¬ WrittenBefore op a

theorem prevails_iff : Prevails arrived op ↔
    op ∈ arrived ∧ ∀ a ∈ arrived, a.id = op.id → a.weight ≤ op.weight := by
  constructor
  · intro h
    refine ⟨h.mem, fun a ha hid => not_lt.1 fun hlt => ?_⟩
    -- what outweighs a record is a tombstone, or was written later
    cases hdeleted : a.isDeleted with
    | true =>
        rw [(weight_eq_top_iff op).2 (h.deleted a ha hid hdeleted)] at hlt
        exact not_top_lt hlt
    | false =>
        have hbefore : WrittenBefore op a := writtenBefore_of_weight_lt hdeleted hlt
        cases hop : op.isDeleted with
        | true =>
            rw [(weight_eq_top_iff op).2 hop] at hlt
            exact not_top_lt hlt
        | false => exact h.newest hop a ha hid hbefore
  · rintro ⟨hmem, hle⟩
    refine ⟨hmem, ?_, ?_⟩
    · intro a ha hid hdeleted
      have htop := hle a ha hid
      rw [(weight_eq_top_iff a).2 hdeleted, top_le_iff] at htop
      exact (weight_eq_top_iff op).1 htop
    · intro _ a ha hid hbefore
      exact (hle a ha hid).not_gt hbefore.weight_lt

end Operation

namespace Store

open Operation

variable {ops log incoming : List Operation}

/-! ### What a merge remembers of a log -/

/-- What is remembered under a name is the last one in the order of the log. -/
theorem notAfter_of_lastOf? {id : String} {known a : Operation}
    (hknown : lastOf? (sortLog ops) id = some known) (ha : a ∈ ops) (hid : a.id = id) :
    a.notAfter known = true := by
  obtain ⟨-, later, earlier, hsplit, hlater⟩ := List.find?_eq_some_iff_append.1 hknown
  rw [List.reverse_eq_append_iff, List.reverse_cons, List.append_assoc] at hsplit
  have hmem : a ∈ sortLog ops := (sortLog_perm ops).mem_iff.2 ha
  have hsorted := pairwise_sortLog ops
  rw [hsplit] at hmem hsorted
  rcases List.mem_append.1 hmem with hearlier | hrest
  · exact (List.pairwise_append.1 hsorted).2.2 a hearlier known (by simp)
  · rcases List.mem_cons.1 hrest with rfl | hrest
    · exact Std.ReflCmp.isLE_rfl
    · have hnot := hlater a (List.mem_reverse.1 hrest)
      simp [hid] at hnot

/-- The records of a name that a merge chooses from: the last one of the log, and those that come
in. -/
def choices (log incoming : List Operation) (id : String) : List Operation :=
  (lastOf? log id).toList ++ incoming.filter (·.id = id)

theorem mem_choices {id : String} {op : Operation} :
    op ∈ choices log incoming id ↔ lastOf? log id = some op ∨ (op ∈ incoming ∧ op.id = id) := by
  simp [choices]

theorem id_of_mem_choices {id : String} {op : Operation} (h : op ∈ choices log incoming id) :
    op.id = id := by
  rcases mem_choices.1 h with hlast | ⟨-, hid⟩
  · exact id_of_lastOf? hlast
  · exact hid

/-- A merge chooses the first of the heaviest. -/
theorem lastOf?_merged_eq_argmax (log incoming : List Operation) (id : String) :
    lastOf? (sortLog (received log incoming).1.values) id =
      (choices log incoming id).argmax weight := by
  rw [lastOf?_merged, choices]
  cases lastOf? log id <;> rfl

theorem isTidy_merged (log incoming : List Operation) :
    IsTidy (sortLog (received log incoming).1.values) :=
  isTidy_sortLog (isKeyed_received log incoming).nodup_values

theorem argmax_choices {op : Operation} (hop : op ∈ sortLog (received log incoming).1.values) :
    (choices log incoming op.id).argmax weight = some op := by
  rw [← lastOf?_merged_eq_argmax, lastOf?_eq_some_iff (isTidy_merged log incoming).nodup]
  exact ⟨hop, rfl⟩

theorem stands_choices {op : Operation} (hop : op ∈ sortLog (received log incoming).1.values) :
    Stands (choices log incoming op.id) op := by
  apply stands_of_argmax
  have hall : (choices log incoming op.id).filter (·.id = op.id) = choices log incoming op.id :=
    List.filter_eq_self.2 fun a ha => decide_eq_true (id_of_mem_choices ha)
  rw [hall]
  exact argmax_choices hop

theorem mem_map_id_merged_iff (ops incoming : List Operation) (id : String) :
    id ∈ (sortLog (received (sortLog ops) incoming).1.values).map (·.id) ↔
      id ∈ (ops ++ incoming).map (·.id) := by
  rw [← not_iff_not, ← lastOf?_eq_none_iff, lastOf?_merged_eq_argmax, List.argmax_eq_none, choices,
    List.append_eq_nil_iff, Option.toList_eq_nil_iff, lastOf?_eq_none_iff,
    ((sortLog_perm ops).map _).mem_iff, List.filter_eq_nil_iff, List.map_append, List.mem_append,
    not_or]
  simp

/-! ### When the right one is left -/

/-- Nothing outweighs what is left, exactly if nothing in the log outweighs all there was to choose
from. -/
theorem prevails_merged_iff {op : Operation}
    (hop : op ∈ sortLog (received (sortLog ops) incoming).1.values) :
    Prevails (ops ++ incoming) op ↔ ∀ a ∈ ops, a.id = op.id →
      ∃ b ∈ choices (sortLog ops) incoming op.id, supersedes a (some b) = false := by
  have hmax := argmax_choices hop
  simp only [← Bool.not_eq_true, supersedes_some_iff, not_lt]
  rw [prevails_iff]
  constructor
  · rintro ⟨-, hle⟩ a ha hid
    exact ⟨op, List.argmax_mem hmax, hle a (List.mem_append_left _ ha) hid⟩
  · intro h
    constructor
    · rcases mem_choices.1 (List.argmax_mem hmax) with hlast | ⟨hin, -⟩
      · exact List.mem_append_left _ ((sortLog_perm ops).mem_iff.1 (mem_of_lastOf? hlast))
      · exact List.mem_append_right _ hin
    · intro a ha hid
      rcases List.mem_append.1 ha with hlog | hin
      · obtain ⟨b, hb, hle⟩ := h a hlog hid
        exact hle.trans (List.le_of_mem_argmax hb hmax)
      · exact List.le_of_mem_argmax (mem_choices.2 (.inr ⟨hin, hid⟩)) hmax

/-- Of a name that is in the log, a tombstone is left if there is nothing else of that name in the
log, or if one comes in. -/
theorem isDeleted_merged_iff {op : Operation}
    (hop : op ∈ sortLog (received (sortLog ops) incoming).1.values)
    (hid : op.id ∈ ops.map (·.id)) :
    op.isDeleted = true ↔ (∀ b ∈ ops, b.id = op.id → b.isDeleted = true) ∨
      ∃ b ∈ incoming, b.id = op.id ∧ b.isDeleted = true := by
  have hstands := stands_choices hop
  constructor
  · intro hop
    rcases mem_choices.1 hstands.mem with hlast | ⟨hin, -⟩
    · refine .inl fun b hb hbid => ?_
      exact isDeleted_of_notAfter (notAfter_of_lastOf? hlast hb hbid) hop
    · exact .inr ⟨op, hin, rfl, hop⟩
  · rintro (hall | ⟨b, hb, hbid, hbdeleted⟩)
    · cases hlast : lastOf? (sortLog ops) op.id with
      | none =>
          rw [lastOf?_eq_none_iff, ((sortLog_perm ops).map _).mem_iff] at hlast
          exact absurd hid hlast
      | some known =>
          have hknown := (sortLog_perm ops).mem_iff.1 (mem_of_lastOf? hlast)
          exact hstands.deleted known (mem_choices.2 (.inl hlast)) (id_of_lastOf? hlast)
            (hall known hknown (id_of_lastOf? hlast))
    · exact hstands.deleted b (mem_choices.2 (.inr ⟨hb, hbid⟩)) hbid hbdeleted

/-- **What a merge leaves** of a log that has been loaded, repeated names and all.  For each name it
is what stands among the last record of the log and the incoming ones; it is what one would want
unless another record of the log outweighs all of these, and a tombstone is left of a name of the
log only if there is no live record of that name in the log, or if a tombstone comes in. -/
theorem merge_load_stands (ops incoming : List Operation) :
    ∃ changes log, merge (load ops) incoming = .ok (changes, ⟨some log⟩) ∧
      (∀ d : Dataset, d.operations = ops → merge d.store incoming = .ok (changes, ⟨some log⟩)) ∧
      log.Pairwise (fun a b => a.notAfter b = true) ∧
      (log.map (·.id)).Nodup ∧
      (∀ id, id ∈ log.map (·.id) ↔ id ∈ (ops ++ incoming).map (·.id)) ∧
      ∀ op ∈ log,
        (∀ known ∈ lastOf? (sortLog ops) op.id, ∀ a ∈ ops, a.id = op.id →
          a.notAfter known = true) ∧
        Stands (choices (sortLog ops) incoming op.id) op ∧
        (Prevails (ops ++ incoming) op ↔ ∀ a ∈ ops, a.id = op.id →
          ∃ b ∈ choices (sortLog ops) incoming op.id, supersedes a (some b) = false) ∧
        (op.id ∈ ops.map (·.id) →
          (op.isDeleted = true ↔ (∀ b ∈ ops, b.id = op.id → b.isDeleted = true) ∨
            ∃ b ∈ incoming, b.id = op.id ∧ b.isDeleted = true)) := by
  have htidy := isTidy_merged (sortLog ops) incoming
  refine ⟨_, _, merge_eq (sortLog ops) incoming, ?_, htidy.sorted, htidy.nodup,
    mem_map_id_merged_iff ops incoming, fun op hop => ⟨?_, stands_choices hop,
      prevails_merged_iff hop, isDeleted_merged_iff hop⟩⟩
  · rintro d rfl
    exact merge_eq (sortLog d.operations) incoming
  · intro known hknown a ha hid
    exact notAfter_of_lastOf? hknown ha hid

/-- It is not so that tombstones always prevail: a merge of nothing brings back a deleted record,
if the log has both. -/
theorem not_tombstones_prevail :
    ¬ ∀ ops incoming : List Operation, ∃ changes log,
        merge (load ops) incoming = .ok (changes, ⟨some log⟩) ∧
          ∀ op ∈ log, Prevails (ops ++ incoming) op := by
  intro h
  let rent : Operation :=
    .adjustment ⟨"rent", ⟨.first, 0, 0⟩, .first, "EUR", (1 : Float).toBits, [], none⟩ ⟨"cash", 1⟩
  obtain ⟨changes, log, hmerge, hlog⟩ := h [.deleted "rent", rent] []
  have hsorted : sortLog [.deleted "rent", rent] = [.deleted "rent", rent] :=
    List.mergeSort_of_pairwise (by decide)
  have hmem : rent ∈ log := by
    rw [load, hsorted, merge_eq] at hmerge
    cases hmerge
    refine mem_of_lastOf? (?_ : lastOf? _ "rent" = some rent)
    rw [lastOf?_merged_eq_argmax]
    rfl
  exact absurd ((hlog rent hmem).deleted (.deleted "rent") (by simp) rfl rfl) (by decide)

end Store

end Cashbook
