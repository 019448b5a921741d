import Mathlib.Data.List.Basic
import Cashbook.Proofs.Predicate.Shape

/-!
# Replacing one predicate by another

`p.replace a b` has `b` in the place of `a` wherever the predicate `p` asks for `a` at its leaves.
Two operations, of which the second is to `b` what the first is to `a` and to all other leaves what
the first is to them, cannot be told apart by a predicate and by its replacement (`eval_replace`).
-/

namespace Cashbook.Predicate

mutual

/-- The predicate with `b` in the place of every leaf `a`. -/
def replace (p a b : Predicate) : Predicate :=
  match p with
  | and ps => and (replaceAll ps a b)
  | or ps => or (replaceAll ps a b)
  | not p => not (p.replace a b)
  | p => if p = a then b else p

/-- Some predicates, each with `b` in the place of every leaf `a`. -/
def replaceAll (ps : List Predicate) (a b : Predicate) : List Predicate :=
  match ps with
  | [] => []
  | p :: ps => p.replace a b :: replaceAll ps a b

end

variable {a b p : Predicate}

theorem replaceAll_eq_map (ps : List Predicate) : replaceAll ps a b = ps.map (·.replace a b) := by
  induction ps with
  | nil => rfl
  | cons p ps ih => rw [replaceAll, ih, List.map_cons]

/-- Whether a predicate is a leaf: it asks something of an operation itself. -/
def IsLeaf : Predicate → Prop
  | and _ => False
  | or _ => False
  | not _ => False
  | _ => True

theorem replace_of_isLeaf (h : p.IsLeaf) : p.replace a b = if p = a then b else p := by
  cases p with
  | and ps => exact h.elim
  | or ps => exact h.elim
  | not p => exact h.elim
  | _ => rw [replace] <;> simp

theorem emptyJoin?_of_isLeaf (h : p.IsLeaf) : p.emptyJoin? = none := by
  cases p with
  | and ps => exact h.elim
  | or ps => exact h.elim
  | not p => exact h.elim
  | _ => rfl

/-- A leaf in the place of a leaf leaves the joins as they are. -/
theorem emptyJoin?_replace (hb : b.IsLeaf) (p : Predicate) :
    (p.replace a b).emptyJoin? = p.emptyJoin? := by
  induction p using induction_on_operands with
  | step p ih =>
      have hin (ps : List Predicate) (hps : ∀ q ∈ ps, (q.replace a b).emptyJoin? = q.emptyJoin?) :
          (replaceAll ps a b).isEmpty = ps.isEmpty ∧
            emptyJoinIn? (replaceAll ps a b) = emptyJoinIn? ps := by
        rw [replaceAll_eq_map, List.isEmpty_map, emptyJoinIn?_eq_findSome?,
          emptyJoinIn?_eq_findSome?, List.findSome?_map, ← List.head?_filterMap,
          ← List.head?_filterMap]
        exact ⟨rfl, congrArg List.head? (List.filterMap_congr hps)⟩
      have hleaf (p : Predicate) (hp : p.IsLeaf) :
          (p.replace a b).emptyJoin? = p.emptyJoin? := by
        rw [replace_of_isLeaf hp, emptyJoin?_of_isLeaf hp]
        split
        case isTrue => exact emptyJoin?_of_isLeaf hb
        case isFalse => exact emptyJoin?_of_isLeaf hp
      cases p with
      | and ps =>
          obtain ⟨hempty, hjoin⟩ := hin ps ih
          rw [replace, emptyJoin?, emptyJoin?, hempty, hjoin]
      | or ps =>
          obtain ⟨hempty, hjoin⟩ := hin ps ih
          rw [replace, emptyJoin?, emptyJoin?, hempty, hjoin]
      | not p => rw [replace, emptyJoin?, emptyJoin?, ih p List.mem_cons_self]
      | _ => exact hleaf _ trivial

variable {op op' : Operation}

/-- **Replacing is sound.**  If the second operation is to `b` what the first is to `a`, and to all
other leaves what the first is to them, then it is to the replacement what the first is to the
predicate. -/
theorem eval_replace (hab : eval op' b = eval op a)
    (h : ∀ q ∈ p.parts, q.IsLeaf → q ≠ a → eval op' q = eval op q) :
    eval op' (p.replace a b) = eval op p := by
  induction p using induction_on_operands with
  | step p ih =>
      obtain ⟨hself, hoperands⟩ := forall_parts.1 h
      have hmap (ps : List Predicate) (hps : ∀ q ∈ ps, eval op' (q.replace a b) = eval op q) :
          (replaceAll ps a b).map (eval op') = ps.map (eval op) := by
        rw [replaceAll_eq_map, List.map_map]
        exact List.map_congr_left hps
      have hleaf (p : Predicate) (hp : p.IsLeaf)
          (hself : p.IsLeaf → p ≠ a → eval op' p = eval op p) :
          eval op' (p.replace a b) = eval op p := by
        rw [replace_of_isLeaf hp]
        split
        case isTrue heq => rw [heq, hab]
        case isFalse hne => exact hself hp hne
      cases p with
      | and ps =>
          rw [replace, eval, eval, evalAll_eq_all, evalAll_eq_all,
            hmap ps fun q hq => ih q hq (hoperands q hq)]
      | or ps =>
          rw [replace, eval, eval, evalSome_eq_any, evalSome_eq_any,
            hmap ps fun q hq => ih q hq (hoperands q hq)]
      | not p =>
          rw [replace, eval, eval,
            ih p List.mem_cons_self (hoperands p List.mem_cons_self)]
      | _ => exact hleaf _ trivial hself

/-- The replacement of a predicate that compiles compiles, and decides as the predicate does about
operations like these. -/
theorem compile_replace {m : Matcher} (hp : p.compile = .ok m) (hb : b.IsLeaf) :
    ∃ m', (p.replace a b).compile = .ok m' ∧
      ∀ op op', eval op' b = eval op a →
        (∀ q ∈ p.parts, q.IsLeaf → q ≠ a → eval op' q = eval op q) → m' op' = m op := by
  obtain ⟨hjoin, rfl⟩ := eq_eval_of_compile hp
  refine ⟨fun op => eval op (p.replace a b), ?_, fun op op' => eval_replace⟩
  rw [compile_eq_meaning, meaning, emptyJoin?_replace hb, hjoin]

end Cashbook.Predicate
