import Mathlib.Data.List.Nodup
import Cashbook.Operation.Order
import Cashbook.Proofs.Lists

/-!
# The order of the log

`Operation.compare` puts every two records of a log in an order, and does so consistently: what
comes before a record also comes before everything after that record.  Sorting by it therefore gives
a list in which no record comes after a later one (`pairwise_sortLog`).

The order looks at the bits of a size, and bits are always in order, whatever they stand for: two
not-a-numbers with different bits are told apart like any other sizes.  So the order leaves two
records unordered only if it cannot tell them apart at all (`compare_eq_eq_iff`).  `Tied` says what
that takes: one name, and for live records one day, kind, currency and size, up to the bit.  Tied
records stay in the order in which they are listed (`filter_sortLog`), and as they share their name,
there is nothing left to choose for records with distinct names (`log_order_has_one_result`).

A sweep needs one consequence.  Whatever else the order looks at, it looks at the day first, so the
days of the live records never go back (`chronological_sortLog`).  `Chronological` says this of a
list, wherever its tombstones stand; in a log they come first (`isArranged_of_pairwise`).
-/

namespace Cashbook

namespace Date

instance : Std.TransOrd Date := inferInstanceAs (Std.TransCmp (compareOn Date.number))

instance : Std.LawfulEqOrd Date where
  eq_of_compare h := ext (Std.LawfulEqOrd.eq_of_compare h)

/-- A date that is not compared as later is not later. -/
theorem le_of_isLE_compare {d e : Date} (h : (compare d e).isLE = true) : d ≤ e := by
  have hn : (compare d.number e.number).isLE = true := h
  rwa [Int.isLE_compare] at hn

end Date

namespace Operation

/-! ### Comparing is consistent -/

/-- The order of live operations, on each of them with its kind. -/
def livePairOrder : Kind × Head → Kind × Head → Ordering :=
  compareLex (compareOn (·.2.date)) <|
    compareLex (compareOn (·.1.rank)) <|
      compareLex (compareOn (·.2.currency)) <|
        compareLex (compareOn (·.2.size)) fun p q => compareOn (·.2.id) q p

instance : Std.TransCmp livePairOrder := by
  unfold livePairOrder
  infer_instance

/-- Two live operations are compared as pairs. -/
theorem compare_of_head? {a b : Operation} {g h : Head} (ha : a.head? = some g)
    (hb : b.head? = some h) : a.compare b = livePairOrder (a.kind, g) (b.kind, h) := by
  unfold Operation.compare
  rw [ha, hb]
  rfl

/-- Two tombstones are compared by their names. -/
theorem compare_of_head?_eq_none {a b : Operation} (ha : a.head? = none) (hb : b.head? = none) :
    a.compare b = compare a.id b.id := by
  unfold Operation.compare
  rw [ha, hb]

instance : Std.OrientedCmp Operation.compare where
  eq_swap {a b} := by
    cases ha : a.head? with
    | none =>
        cases hb : b.head? with
        | none =>
            rw [compare_of_head?_eq_none ha hb, compare_of_head?_eq_none hb ha]
            exact Std.OrientedOrd.eq_swap
        | some h => simp [Operation.compare, ha, hb]
    | some g =>
        cases hb : b.head? with
        | none => simp [Operation.compare, ha, hb]
        | some h =>
            rw [compare_of_head? ha hb, compare_of_head? hb ha]
            exact Std.OrientedCmp.eq_swap

instance : Std.TransCmp Operation.compare where
  isLE_trans {a b c} hab hbc := by
    cases ha : a.head? with
    | none =>
        cases hc : c.head? with
        | some k => simp [Operation.compare, ha, hc]
        | none =>
            cases hb : b.head? with
            | some h => simp [Operation.compare, hb, hc] at hbc
            | none =>
                rw [compare_of_head?_eq_none ha hb] at hab
                rw [compare_of_head?_eq_none hb hc] at hbc
                rw [compare_of_head?_eq_none ha hc]
                exact Std.TransOrd.isLE_trans hab hbc
    | some g =>
        cases hb : b.head? with
        | none => simp [Operation.compare, ha, hb] at hab
        | some h =>
            cases hc : c.head? with
            | none => simp [Operation.compare, hb, hc] at hbc
            | some k =>
                rw [compare_of_head? ha hb] at hab
                rw [compare_of_head? hb hc] at hbc
                rw [compare_of_head? ha hc]
                exact Std.TransCmp.isLE_trans hab hbc

/-- No record of a log may not stand before a later one. -/
theorem pairwise_sortLog (ops : List Operation) :
    (sortLog ops).Pairwise fun a b => a.notAfter b = true :=
  List.pairwise_mergeSort (fun _ _ _ => Std.TransCmp.isLE_trans)
    (Lists.isLE_total Operation.compare) ops

/-! ### What is tied -/

theorem id_of_head? {op : Operation} {g : Head} (h : op.head? = some g) : op.id = g.id := by
  cases op <;> cases h <;> rfl

/-- Whether two records have one name and are both tombstones, or both live and of one day, kind,
currency and size. -/
def Tied (a b : Operation) : Prop :=
  a.id = b.id ∧
    ((a.isDeleted = true ∧ b.isDeleted = true) ∨
      ∃ g h, a.head? = some g ∧ b.head? = some h ∧ g.date = h.date ∧ a.kind = b.kind ∧
        g.currency = h.currency ∧ g.size = h.size)

/-- The order of live records looks at all that there is to a tie. -/
theorem livePairOrder_eq_eq_iff {j k : Kind} {g h : Head} :
    livePairOrder (j, g) (k, h) = .eq ↔
      g.date = h.date ∧ j = k ∧ g.currency = h.currency ∧ g.size = h.size ∧ g.id = h.id := by
  have hrank : j.rank = k.rank ↔ j = k := ⟨Kind.rank_injective, congrArg _⟩
  simp only [livePairOrder, compareLex, compareOn, Ordering.then_eq_eq,
    Std.LawfulEqOrd.compare_eq_iff_eq, hrank, eq_comm (a := h.id)]

/-- **Records are left unordered only if they are tied.** -/
theorem compare_eq_eq_iff {a b : Operation} : a.compare b = .eq ↔ a.Tied b := by
  cases ha : a.head? with
  | none =>
      have hdeleted := (head?_eq_none_iff a).1 ha
      cases hb : b.head? with
      | none =>
          have hdeleted' := (head?_eq_none_iff b).1 hb
          rw [compare_of_head?_eq_none ha hb, Std.LawfulEqOrd.compare_eq_iff_eq]
          simp [Tied, hdeleted, hdeleted']
      | some h =>
          have hlive : b.isDeleted ≠ true := by simp [← head?_eq_none_iff, hb]
          simp [Operation.compare, Tied, ha, hb, hlive]
  | some g =>
      have hlive : a.isDeleted ≠ true := by simp [← head?_eq_none_iff, ha]
      cases hb : b.head? with
      | none => simp [Operation.compare, Tied, ha, hb, hlive]
      | some h =>
          rw [compare_of_head? ha hb, livePairOrder_eq_eq_iff, Tied, id_of_head? ha, id_of_head? hb]
          constructor
          · rintro ⟨hdate, hkind, hcurrency, hsize, hid⟩
            exact ⟨hid, .inr ⟨g, h, ha, hb, hdate, hkind, hcurrency, hsize⟩⟩
          · rintro ⟨hid, ⟨hdeleted, -⟩ | ⟨g', h', ha', hb', htie⟩⟩
            · exact absurd hdeleted hlive
            · obtain rfl := Option.some_inj.1 (ha.symm.trans ha')
              obtain rfl := Option.some_inj.1 (hb.symm.trans hb')
              obtain ⟨hdate, hkind, hcurrency, hsize⟩ := htie
              exact ⟨hdate, hkind, hcurrency, hsize, hid⟩

/-- Records that are tied with one record stay in the order in which they are listed. -/
theorem filter_sortLog (a : Operation) (ops : List Operation) :
    (sortLog ops).filter (fun b => a.compare b = .eq) = ops.filter fun b => a.compare b = .eq := by
  have htied : (ops.filter fun b => a.compare b = .eq).Pairwise fun b c => b.notAfter c = true := by
    refine List.pairwise_filter.2 (List.pairwise_of_forall fun b c hb hc => ?_)
    have hba : b.compare a = .eq := Std.OrientedCmp.eq_symm (of_decide_eq_true hb)
    exact Ordering.isLE_of_eq_eq (Std.TransCmp.eq_trans hba (of_decide_eq_true hc))
  have hsub := List.sublist_mergeSort (fun _ _ _ => Std.TransCmp.isLE_trans)
    (Lists.isLE_total Operation.compare) htied List.filter_sublist
  have hlength := ((sortLog_perm ops).filter fun b => a.compare b = .eq).length_eq
  -- the tied records are a part of the log, and the log has no others
  have hpart := hsub.filter fun b => a.compare b = .eq
  rw [List.filter_filter] at hpart
  simp only [Bool.and_self] at hpart
  exact (hpart.eq_of_length hlength.symm).symm

/-! ### Distinct names leave one order -/

/-- Records that the order leaves unordered have one name. -/
theorem id_eq_of_notAfter {a b : Operation} (hab : a.notAfter b = true)
    (hba : b.notAfter a = true) : a.id = b.id :=
  (compare_eq_eq_iff.1 (Std.OrientedCmp.isLE_antisymm hab hba)).1

/-- A sorted list of records with distinct names is the log of these records. -/
theorem eq_sortLog_of_perm {log ops : List Operation} (hperm : log.Perm ops)
    (hsorted : log.Pairwise fun a b => a.notAfter b = true)
    (hids : (log.map (·.id)).Nodup) : log = sortLog ops := by
  have hsame : log.Perm (sortLog ops) := hperm.trans (sortLog_perm ops).symm
  refine hsame.eq_of_pairwise (fun a b ha hb hab hba => ?_) hsorted (pairwise_sortLog ops)
  exact List.inj_on_of_nodup_map hids ha (hsame.mem_iff.2 hb) (id_eq_of_notAfter hab hba)

/-- **Records with distinct names have one log**, however they are listed. -/
theorem sortLog_congr {ops ops' : List Operation} (hperm : ops.Perm ops')
    (hids : (ops.map (·.id)).Nodup) : sortLog ops = sortLog ops' :=
  eq_sortLog_of_perm ((sortLog_perm ops).trans hperm) (pairwise_sortLog ops)
    (((sortLog_perm ops).map _).nodup_iff.2 hids)

/-- **The order of the log has one result.**  Two records that are swapped are in the opposite
order, the order is transitive, and it leaves unordered what is tied and nothing else.  Sorting
gives a list of the same records in which none stands before one that it comes after, it keeps tied
records in their order, and it does not depend on how records with distinct names are listed. -/
theorem log_order_has_one_result :
    (∀ a b : Operation, a.compare b = (b.compare a).swap) ∧
      (∀ a b c : Operation, (a.compare b).isLE = true → (b.compare c).isLE = true →
        (a.compare c).isLE = true) ∧
      (∀ (o : Ordering) (a b c : Operation), a.compare b = o → b.compare c = o → a.compare c = o) ∧
      (∀ a b : Operation, a.compare b = .eq ↔ a.Tied b) ∧
      ∀ ops : List Operation,
        (sortLog ops).Perm ops ∧
          (sortLog ops).Pairwise (fun a b : Operation => (a.compare b).isLE = true) ∧
          (∀ a : Operation, (sortLog ops).filter (fun b : Operation => a.compare b = .eq) =
            ops.filter fun b : Operation => a.compare b = .eq) ∧
          ∀ ops' : List Operation, ops.Perm ops' → (ops.map (·.id)).Nodup →
            sortLog ops = sortLog ops' := by
  refine ⟨fun a b => Std.OrientedCmp.eq_swap, fun a b c => Std.TransCmp.isLE_trans, ?_,
    fun a b => compare_eq_eq_iff, fun ops => ⟨sortLog_perm ops, pairwise_sortLog ops,
    fun a => filter_sortLog a ops, fun ops' => sortLog_congr⟩⟩
  intro o a b c hab hbc
  cases o with
  | lt => exact Std.TransCmp.lt_trans hab hbc
  | eq => exact Std.TransCmp.eq_trans hab hbc
  | gt => exact Std.TransCmp.gt_trans hab hbc

/-- The two zeros and two not-a-numbers.  The zeros tie two versions of one record, the
not-a-numbers do not; records with distinct names have one log. -/
theorem log_order_has_one_result_of_zeros :
    let op (id : String) (amountBits : UInt64) : Operation :=
      .adjustment ⟨id, ⟨.first, 0, 0⟩, .first, "USD", amountBits, [], none⟩ ⟨"cash", 0⟩
    let zero := op "a" 0
    let negativeZero := op "a" 0x8000000000000000
    let notANumber := op "b" 0x7ff8000000000000
    let another := op "b" 0x7ff8000000000001
    zero.Tied negativeZero ∧ zero.compare negativeZero = .eq ∧
      notANumber.compare another = .lt ∧ another.compare notANumber = .gt ∧
      ¬ notANumber.Tied another ∧
      (zero.compare notANumber).isLE = true ∧ (zero.compare another).isLE = true ∧
      ([zero, notANumber].map (·.id)).Nodup ∧
      sortLog [zero, notANumber] = sortLog [notANumber, zero] := by
  intro op zero negativeZero notANumber another
  obtain ⟨hswap, htrans, -, hties, hsort⟩ := log_order_has_one_result
  obtain ⟨-, -, -, hlisted⟩ := hsort [zero, notANumber]
  have htied : zero.Tied negativeZero :=
    ⟨rfl, .inr ⟨_, _, rfl, rfl, rfl, rfl, rfl, by decide +kernel⟩⟩
  have hlt : notANumber.compare another = .lt := by decide +kernel
  have hfirst : (zero.compare notANumber).isLE = true := by decide +kernel
  have hids : ([zero, notANumber].map (·.id)).Nodup := by decide
  refine ⟨htied, (hties zero negativeZero).2 htied, hlt, ?_, fun h => ?_, hfirst,
    htrans zero notANumber another hfirst (by rw [hlt]; rfl), hids,
    hlisted [notANumber, zero] (List.Perm.swap notANumber zero []) hids⟩
  · rw [hswap, hlt]
    rfl
  · rw [(hties notANumber another).2 h] at hlt
    cases hlt

/-! ### The days of a log never go back -/

/-- Whether the days of the live operations of a list never go back. -/
def Chronological (log : List Operation) : Prop :=
  log.Pairwise fun a b => ∀ d ∈ a.date?, ∀ e ∈ b.date?, d ≤ e

/-- A live operation that may stand before another is not of a later day. -/
theorem date_le_of_notAfter {a b : Operation} (h : a.notAfter b = true) {d e : Date}
    (ha : a.date? = some d) (hb : b.date? = some e) : d ≤ e := by
  obtain ⟨g, hg, rfl⟩ := Option.map_eq_some_iff.1 ha
  obtain ⟨k, hk, rfl⟩ := Option.map_eq_some_iff.1 hb
  unfold notAfter at h
  rw [compare_of_head? hg hk, livePairOrder, compareLex, Ordering.isLE_then_iff_and] at h
  exact Date.le_of_isLE_compare h.1

/-- Where no record may not stand before a later one, the days never go back. -/
theorem chronological_of_pairwise {log : List Operation}
    (h : log.Pairwise fun a b => a.notAfter b = true) : Chronological log := by
  refine h.imp ?_
  intro a b h d hd e he
  exact date_le_of_notAfter h hd he

/-- The days of a log never go back. -/
theorem chronological_sortLog (ops : List Operation) : Chronological (sortLog ops) :=
  chronological_of_pairwise (pairwise_sortLog ops)

/-! ### Tombstones come first -/

/-- Only tombstones may stand before a tombstone. -/
theorem isDeleted_of_notAfter {a b : Operation} (h : a.notAfter b = true)
    (hb : b.isDeleted = true) : a.isDeleted = true := by
  rw [← head?_eq_none_iff] at hb ⊢
  cases ha : a.head? with
  | none => rfl
  | some g => simp [notAfter, Operation.compare, ha, hb] at h

/-- Whether the tombstones of a list come first, in the order of their names, and then the live
operations, whose days never go back. -/
def IsArranged (log : List Operation) : Prop :=
  ∃ tombstones live, log = tombstones ++ live ∧
    (∀ op ∈ tombstones, op.isDeleted = true) ∧
    tombstones.Pairwise (fun a b => (compare a.id b.id).isLE = true) ∧
    (∀ op ∈ live, op.isDeleted = false) ∧ Chronological live

/-- Where no record may not stand before a later one, the tombstones come first. -/
theorem isArranged_of_pairwise {log : List Operation}
    (h : log.Pairwise fun a b => a.notAfter b = true) : IsArranged log := by
  have hsplit : log.filter (·.isDeleted) ++ log.filter (!·.isDeleted) = log := by
    rw [Lists.filter_append_filter, List.filter_eq_self]
    · intro op _
      exact Bool.or_not_self op.isDeleted
    · refine h.imp fun {a b} hab ha => ?_
      -- behind a live operation there is no tombstone
      rw [← Bool.not_eq_true]
      intro hb
      rw [isDeleted_of_notAfter hab hb] at ha
      cases ha
    · intro op _ hop
      rw [hop]
      rfl
  refine ⟨_, _, hsplit.symm, fun op hop => (List.mem_filter.1 hop).2, ?_, fun op hop => ?_,
    chronological_of_pairwise (h.sublist List.filter_sublist)⟩
  · refine List.pairwise_filter.2 (h.imp fun {a b} hab ha hb => ?_)
    rw [notAfter, compare_of_head?_eq_none ((head?_eq_none_iff a).2 ha)
      ((head?_eq_none_iff b).2 hb)] at hab
    exact hab
  · simpa using (List.mem_filter.1 hop).2

end Operation

end Cashbook
