import Mathlib.Data.Int.ConditionallyCompleteOrder
import Mathlib.Data.List.MinMax
import Mathlib.Data.Prod.Lex
import Mathlib.Order.ConditionallyCompleteLattice.Basic
import Cashbook.Store

/-!
# Which record outweighs which

Records with one name are versions of one thing, and a log keeps one of them.  `Operation.weight`
says which: a tombstone weighs more than every live record, and a live record weighs the more the
later it was written.  Weights are ordered in a line, so that `Store.supersedes`, which goes through
the cases one by one, is a single comparison (`Store.supersedes_some_iff`), and what is kept of some
records is the first of the heaviest.

`List.argmax` of the library is just that, and `Lists.argmax_split` says where it stands.
-/

namespace Cashbook

namespace Timestamp

/-- The numbers that moments are ordered by. -/
def key (t : Timestamp) : ℤ ×ₗ ℕ ×ₗ ℕ := toLex (t.date.number, toLex (t.second, t.nano))

theorem key_injective : Function.Injective key := by
  intro s t h
  obtain ⟨d, _, _⟩ := s
  obtain ⟨e, _, _⟩ := t
  simp only [key, EmbeddingLike.apply_eq_iff_eq, Prod.mk.injEq] at h
  obtain ⟨hdate, rfl, rfl⟩ := h
  rw [Date.ext hdate]

theorem lt_iff_key_lt {s t : Timestamp} : s < t ↔ s.key < t.key := by
  show (compare s.date.number t.date.number).then
    ((compare s.second t.second).then (compare s.nano t.nano)) = .lt ↔ _
  simp [Ordering.then_eq_lt, compare_lt_iff_lt, key, Prod.Lex.lt_iff]

end Timestamp

namespace Operation

/-- How much a record weighs among those of its name. -/
def weight (op : Operation) : WithTop (ℤ ×ₗ ℕ ×ₗ ℕ) :=
  match op.lastModified? with
  | none => ⊤
  | some t => t.key

theorem weight_of_lastModified? {op : Operation} {t : Timestamp} (h : op.lastModified? = some t) :
    op.weight = t.key := by
  simp [weight, h]

theorem lastModified?_eq_none_iff (op : Operation) :
    op.lastModified? = none ↔ op.isDeleted = true := by
  rw [lastModified?, Option.map_eq_none_iff, head?_eq_none_iff]

theorem weight_eq_top_iff (op : Operation) : op.weight = ⊤ ↔ op.isDeleted = true := by
  rw [← lastModified?_eq_none_iff]
  cases h : op.lastModified? <;> simp [weight, h]

/-- A tombstone is known by its name. -/
theorem eq_of_isDeleted {a b : Operation} (ha : a.isDeleted = true) (hb : b.isDeleted = true)
    (h : a.id = b.id) : a = b := by
  cases a <;> cases b <;> simp_all [isDeleted, kind, id]

/-- Two live records weigh the same only if they were written at one moment. -/
theorem lastModified?_eq_of_weight_eq {a b : Operation} (h : a.weight = b.weight) :
    a.lastModified? = b.lastModified? := by
  cases ha : a.lastModified? <;> cases hb : b.lastModified? <;>
    simp_all [weight, Timestamp.key_injective.eq_iff]

end Operation

namespace Store

open Operation

/-- **A record takes the place of another** if it weighs more. -/
theorem supersedes_some_iff (new known : Operation) :
    supersedes new (some known) = true ↔ known.weight < new.weight := by
  rw [supersedes]
  cases hknown : known.lastModified? with
  | none =>
      have hdeleted := (lastModified?_eq_none_iff known).1 hknown
      simp [hdeleted, (weight_eq_top_iff known).2 hdeleted]
  | some u =>
      have hlive : known.isDeleted = false := by
        rw [← Bool.not_eq_true, ← lastModified?_eq_none_iff, hknown]
        simp
      cases hnew : new.lastModified? with
      | none =>
          have hdeleted := (lastModified?_eq_none_iff new).1 hnew
          simp [hlive, hdeleted, (weight_eq_top_iff new).2 hdeleted,
            weight_of_lastModified? hknown]
      | some t =>
          have hlive' : new.isDeleted = false := by
            rw [← Bool.not_eq_true, ← lastModified?_eq_none_iff, hnew]
            simp
          simp [hlive, hlive', isNewer, hnew, hknown, weight_of_lastModified? hnew,
            weight_of_lastModified? hknown, Timestamp.lt_iff_key_lt]

end Store

end Cashbook
