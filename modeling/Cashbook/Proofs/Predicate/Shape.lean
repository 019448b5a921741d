import Cashbook.Predicate.Compile

/-!
# The shape of a predicate

A predicate is a tree, and its joins may have any number of operands.  This file says what of that
matters for the written form and for compiling.

* `parts` — the predicates that a predicate is built from, itself included.
* `IsSolid` — every join has operands.
* `IsWritable` — every join has operands, and none of the parts asks for tombstones.
* `IsNormal` — every join has two operands at least, and none of the parts asks for tombstones.
* `collapse` — every join of one operand is replaced by the operand.

Collapsing makes a writable predicate normal and does not change what it means (`eval_collapse`); a
normal predicate has nothing to collapse (`collapse_of_isNormal`).  Compiling looks for a join
without operands on its way down, and finds the first one of the parts (`emptyJoin?_eq_findSome?`);
a solid predicate compiles to its meaning (`compile_eq_meaning`).
-/

namespace Cashbook

/-- A join of some operands. -/
def Join.predicate : Join → List Predicate → Predicate
  | .and => .and
  | .or => .or

namespace Predicate

/-! ### Operands and parts -/

/-- The predicates right below a predicate. -/
def operands : Predicate → List Predicate
  | and ps => ps
  | or ps => ps
  | not p => [p]
  | _ => []

mutual

/-- What passes from the operands of each predicate to the predicate holds of all predicates. -/
theorem induction_on_operands {P : Predicate → Prop}
    (step : ∀ p : Predicate, (∀ q ∈ p.operands, P q) → P p) : ∀ p : Predicate, P p
  | any => step any fun _ h => absurd h List.not_mem_nil
  | kind k => step (kind k) fun _ h => absurd h List.not_mem_nil
  | category name => step (category name) fun _ h => absurd h List.not_mem_nil
  | uncategorized => step uncategorized fun _ h => absurd h List.not_mem_nil
  | account name => step (account name) fun _ h => absurd h List.not_mem_nil
  | tag label => step (tag label) fun _ h => absurd h List.not_mem_nil
  | comment needle => step (comment needle) fun _ h => absurd h List.not_mem_nil
  | and ps => step (and ps) (induction_on_operands_all step ps)
  | or ps => step (or ps) (induction_on_operands_all step ps)
  | not p => step (not p) fun _ h => List.mem_singleton.1 h ▸ induction_on_operands step p

theorem induction_on_operands_all {P : Predicate → Prop}
    (step : ∀ p : Predicate, (∀ q ∈ p.operands, P q) → P p) : ∀ ps : List Predicate, ∀ p ∈ ps, P p
  | [] => fun _ h => absurd h List.not_mem_nil
  | p :: ps => fun _ h =>
      match List.mem_cons.1 h with
      | .inl h => h ▸ induction_on_operands step p
      | .inr h => induction_on_operands_all step ps _ h

end

mutual

/-- The predicates that a predicate is built from, itself included. -/
def parts : Predicate → List Predicate
  | and ps => and ps :: partsAll ps
  | or ps => or ps :: partsAll ps
  | not p => not p :: parts p
  | p => [p]

/-- The predicates that some predicates are built from. -/
def partsAll : List Predicate → List Predicate
  | [] => []
  | p :: ps => parts p ++ partsAll ps

end

theorem partsAll_eq_flatMap (ps : List Predicate) : partsAll ps = ps.flatMap parts := by
  induction ps with
  | nil => rfl
  | cons p ps ih => rw [partsAll, ih, List.flatMap_cons]

/-- The parts of a predicate are itself and the parts of its operands. -/
theorem parts_eq (p : Predicate) : p.parts = p :: p.operands.flatMap parts := by
  cases p with
  | and ps => rw [parts, partsAll_eq_flatMap, operands]
  | or ps => rw [parts, partsAll_eq_flatMap, operands]
  | not p => rw [parts, operands, List.flatMap_singleton]
  | _ => rfl

/-- What holds of all parts holds of the predicate and of all parts of its operands. -/
theorem forall_parts {P : Predicate → Prop} {p : Predicate} :
    (∀ q ∈ p.parts, P q) ↔ P p ∧ ∀ q ∈ p.operands, ∀ r ∈ q.parts, P r := by
  rw [parts_eq, List.forall_mem_cons]
  simp only [List.mem_flatMap, forall_exists_index, and_imp]
  exact and_congr_right fun _ => ⟨fun h q hq r hr => h r q hq hr, fun h r q hq hr => h q hq r hr⟩

/-! ### Joins without operands -/

/-- The join that a predicate is, if it is one without operands. -/
def hollow? : Predicate → Option Join
  | and [] => some .and
  | or [] => some .or
  | _ => none

/-- Whether a predicate is a join without operands. -/
def IsHollow (p : Predicate) : Prop := p = .and [] ∨ p = .or []

instance (p : Predicate) : Decidable p.IsHollow := inferInstanceAs (Decidable (_ ∨ _))

theorem hollow?_eq_some_iff {p : Predicate} {j : Join} :
    p.hollow? = some j ↔ p = j.predicate [] := by
  unfold hollow?
  split <;> cases j <;> simp_all [Join.predicate]

theorem hollow?_eq_none_iff {p : Predicate} : p.hollow? = none ↔ ¬ p.IsHollow := by
  unfold hollow?
  split <;> simp_all [IsHollow]

mutual

/-- The join at fault is the first one without operands among the parts. -/
theorem emptyJoin?_eq_findSome? : ∀ p : Predicate, p.emptyJoin? = p.parts.findSome? hollow?
  | any => rfl
  | kind _ => rfl
  | category _ => rfl
  | uncategorized => rfl
  | account _ => rfl
  | tag _ => rfl
  | comment _ => rfl
  | and [] => rfl
  | or [] => rfl
  | and (p :: ps) => emptyJoinIn?_eq_findSome?_partsAll (p :: ps)
  | or (p :: ps) => emptyJoinIn?_eq_findSome?_partsAll (p :: ps)
  | not p => emptyJoin?_eq_findSome? p

theorem emptyJoinIn?_eq_findSome?_partsAll :
    ∀ ps : List Predicate, emptyJoinIn? ps = (partsAll ps).findSome? hollow?
  | [] => rfl
  | p :: ps => by
      rw [emptyJoinIn?, partsAll, List.findSome?_append, emptyJoin?_eq_findSome? p,
        emptyJoinIn?_eq_findSome?_partsAll ps]

end

/-- Whether every join of a predicate has operands. -/
def IsSolid (p : Predicate) : Prop := ∀ q ∈ p.parts, ¬ q.IsHollow

instance (p : Predicate) : Decidable p.IsSolid := inferInstanceAs (Decidable (∀ q ∈ p.parts, _))

/-- No join is at fault if all of them have operands. -/
theorem emptyJoin?_eq_none_iff {p : Predicate} : p.emptyJoin? = none ↔ p.IsSolid := by
  rw [emptyJoin?_eq_findSome?, List.findSome?_eq_none_iff]
  exact forall₂_congr fun q _ => hollow?_eq_none_iff

theorem isSolid_iff {p : Predicate} :
    p.IsSolid ↔ ¬ p.IsHollow ∧ ∀ q ∈ p.operands, q.IsSolid :=
  forall_parts

theorem isSolid_join {j : Join} {ps : List Predicate} :
    (j.predicate ps).IsSolid ↔ ps ≠ [] ∧ ∀ p ∈ ps, p.IsSolid := by
  rw [isSolid_iff]
  cases j <;> simp [Join.predicate, IsHollow, operands]

theorem isSolid_not {p : Predicate} : (not p).IsSolid ↔ p.IsSolid := by
  rw [isSolid_iff]
  simp [IsHollow, operands]

/-! ### Writable predicates -/

/-- Whether a predicate has a written form that can be read: every join has operands, and tombstones
are not asked for. -/
def IsWritable (p : Predicate) : Prop :=
  ∀ q ∈ p.parts, q ≠ .and [] ∧ q ≠ .or [] ∧ q ≠ .kind .deleted

theorem isWritable_iff {p : Predicate} :
    p.IsWritable ↔
      (p ≠ .and [] ∧ p ≠ .or [] ∧ p ≠ .kind .deleted) ∧ ∀ q ∈ p.operands, q.IsWritable :=
  forall_parts

theorem isWritable_join {j : Join} {ps : List Predicate} :
    (j.predicate ps).IsWritable ↔ ps ≠ [] ∧ ∀ p ∈ ps, p.IsWritable := by
  rw [isWritable_iff]
  cases j <;> simp [Join.predicate, operands]

theorem isWritable_not {p : Predicate} : (not p).IsWritable ↔ p.IsWritable := by
  rw [isWritable_iff]
  simp [operands]

theorem isWritable_kind {k : Kind} : (kind k).IsWritable ↔ k ≠ .deleted := by
  rw [isWritable_iff]
  simp [operands]

/-- An atom that does not ask for a kind is writable. -/
theorem isWritable_atom {p : Predicate} (h : p.operands = []) (hand : p ≠ .and [])
    (hor : p ≠ .or []) (hkind : ∀ k, p ≠ .kind k) : p.IsWritable := by
  rw [isWritable_iff, h]
  exact ⟨⟨hand, hor, hkind .deleted⟩, fun _ hq => absurd hq List.not_mem_nil⟩

/-! ### Normal predicates -/

/-- Whether a predicate is in the form that reading gives: every join has two operands at least, and
tombstones are not asked for. -/
def IsNormal (p : Predicate) : Prop :=
  ∀ q ∈ p.parts, (∀ ps, q = .and ps ∨ q = .or ps → 2 ≤ ps.length) ∧ q ≠ .kind .deleted

theorem isNormal_iff {p : Predicate} :
    p.IsNormal ↔
      ((∀ ps, p = .and ps ∨ p = .or ps → 2 ≤ ps.length) ∧ p ≠ .kind .deleted) ∧
        ∀ q ∈ p.operands, q.IsNormal :=
  forall_parts

theorem isNormal_join {j : Join} {ps : List Predicate} :
    (j.predicate ps).IsNormal ↔ 2 ≤ ps.length ∧ ∀ p ∈ ps, p.IsNormal := by
  rw [isNormal_iff]
  cases j <;> simp [Join.predicate, operands]

theorem isNormal_not {p : Predicate} : (not p).IsNormal ↔ p.IsNormal := by
  rw [isNormal_iff]
  simp [operands]

/-- A predicate without operands that is writable is normal. -/
theorem isNormal_of_operands_eq_nil {p : Predicate} (h : p.operands = []) (hp : p.IsWritable) :
    p.IsNormal := by
  obtain ⟨⟨hand, hor, hkind⟩, -⟩ := isWritable_iff.1 hp
  rw [isNormal_iff, h]
  refine ⟨⟨?_, hkind⟩, fun _ hq => absurd hq List.not_mem_nil⟩
  rintro ps (rfl | rfl)
  · exact absurd (congrArg Predicate.and h) hand
  · exact absurd (congrArg Predicate.or h) hor

/-- A normal predicate is writable. -/
theorem IsNormal.isWritable {p : Predicate} (h : p.IsNormal) : p.IsWritable := by
  intro q hq
  obtain ⟨hjoin, hkind⟩ := h q hq
  refine ⟨?_, ?_, hkind⟩
  · rintro rfl
    exact absurd (hjoin [] (.inl rfl)) (by decide)
  · rintro rfl
    exact absurd (hjoin [] (.inr rfl)) (by decide)

/-! ### Collapsing -/

/-- A join of some operands, or the operand itself if there is only one. -/
def joinOf (j : Join) : List Predicate → Predicate
  | [p] => p
  | ps => j.predicate ps

@[simp] theorem joinOf_singleton (j : Join) (p : Predicate) : joinOf j [p] = p := rfl

theorem joinOf_of_two_le {j : Join} {ps : List Predicate} (h : 2 ≤ ps.length) :
    joinOf j ps = j.predicate ps := by
  match ps, h with
  | _ :: _ :: _, _ => rfl

mutual

/-- The predicate with every join of one operand replaced by the operand. -/
def collapse : Predicate → Predicate
  | and ps => joinOf .and (collapseAll ps)
  | or ps => joinOf .or (collapseAll ps)
  | not p => not (collapse p)
  | p => p

/-- Some predicates, each with its joins of one operand replaced. -/
def collapseAll : List Predicate → List Predicate
  | [] => []
  | p :: ps => collapse p :: collapseAll ps

end

theorem collapseAll_eq_map (ps : List Predicate) : collapseAll ps = ps.map collapse := by
  induction ps with
  | nil => rfl
  | cons p ps ih => rw [collapseAll, ih, List.map_cons]

theorem collapse_join (j : Join) (ps : List Predicate) :
    (j.predicate ps).collapse = joinOf j (ps.map collapse) := by
  cases j with
  | and => rw [Join.predicate, collapse, collapseAll_eq_map]
  | or => rw [Join.predicate, collapse, collapseAll_eq_map]

/-- A normal predicate has nothing to collapse. -/
theorem collapse_of_isNormal {p : Predicate} (h : p.IsNormal) : p.collapse = p := by
  induction p using induction_on_operands with
  | step p ih =>
      have hjoin (j : Join) (ps : List Predicate) (hps : ∀ q ∈ ps, q.IsNormal → q.collapse = q)
          (h : (j.predicate ps).IsNormal) : (j.predicate ps).collapse = j.predicate ps := by
        obtain ⟨hlen, hall⟩ := isNormal_join.1 h
        rw [collapse_join, List.map_congr_left fun q hq => hps q hq (hall q hq), List.map_id',
          joinOf_of_two_le hlen]
      cases p with
      | and ps => exact hjoin .and ps ih h
      | or ps => exact hjoin .or ps ih h
      | not p => rw [collapse, ih p List.mem_cons_self (isNormal_not.1 h)]
      | _ => rfl

/-! ### Meaning -/

theorem evalAll_eq_all (op : Operation) (ps : List Predicate) :
    evalAll op ps = (ps.map (eval op)).all id := by
  induction ps with
  | nil => rfl
  | cons p ps ih => rw [evalAll, ih, List.map_cons, List.all_cons, id]

theorem evalSome_eq_any (op : Operation) (ps : List Predicate) :
    evalSome op ps = (ps.map (eval op)).any id := by
  induction ps with
  | nil => rfl
  | cons p ps ih => rw [evalSome, ih, List.map_cons, List.any_cons, id]

/-- A join of one operand asks for what the operand asks for. -/
theorem eval_joinOf (op : Operation) (j : Join) (ps : List Predicate) :
    eval op (joinOf j ps) = eval op (j.predicate ps) := by
  match ps with
  | [] => rfl
  | [p] =>
      cases j with
      | and => rw [joinOf_singleton, Join.predicate, eval, evalAll, evalAll, Bool.and_true]
      | or => rw [joinOf_singleton, Join.predicate, eval, evalSome, evalSome, Bool.or_false]
  | _ :: _ :: _ => rfl

/-- Collapsing does not change what a predicate means. -/
theorem eval_collapse (op : Operation) (p : Predicate) : eval op p.collapse = eval op p := by
  induction p using induction_on_operands with
  | step p ih =>
      have hjoin (j : Join) (ps : List Predicate) (hps : ∀ q ∈ ps, eval op q.collapse = eval op q) :
          eval op (j.predicate ps).collapse = eval op (j.predicate ps) := by
        have hmap : (ps.map collapse).map (eval op) = ps.map (eval op) := by
          rw [List.map_map]
          exact List.map_congr_left hps
        rw [collapse_join, eval_joinOf]
        cases j with
        | and => rw [Join.predicate, eval, eval, evalAll_eq_all, evalAll_eq_all, hmap]
        | or => rw [Join.predicate, eval, eval, evalSome_eq_any, evalSome_eq_any, hmap]
      cases p with
      | and ps => exact hjoin .and ps ih
      | or ps => exact hjoin .or ps ih
      | not p => rw [collapse, eval, eval, ih p List.mem_cons_self]
      | _ => rfl

/-! ### Compiling -/

theorem emptyJoinIn?_eq_findSome? (ps : List Predicate) :
    emptyJoinIn? ps = ps.findSome? emptyJoin? := by
  induction ps with
  | nil => rfl
  | cons p ps ih =>
      rw [emptyJoinIn?, ih, List.findSome?_cons]
      cases emptyJoin? p <;> rfl

/-- What compiling has to give: the meaning, or the first join without operands. -/
def meaning (p : Predicate) : Except Join Matcher :=
  match p.emptyJoin? with
  | some join => .error join
  | none => .ok fun op => eval op p

/-- Predicates that compile to their meanings one by one do so together. -/
theorem compileAll_eq {ps : List Predicate} (h : ∀ p ∈ ps, p.compile = p.meaning) :
    compileAll ps =
      match emptyJoinIn? ps with
      | some join => .error join
      | none => .ok (ps.map fun p op => eval op p) := by
  induction ps with
  | nil => rfl
  | cons p ps ih =>
      obtain ⟨hp, hps⟩ := List.forall_mem_cons.1 h
      rw [compileAll, hp, ih hps, meaning, emptyJoinIn?]
      cases emptyJoin? p with
      | some join => rfl
      | none => cases emptyJoinIn? ps <;> rfl

/-- **Every predicate compiles to its meaning**, unless one of its joins has no operands. -/
theorem compile_eq_meaning (p : Predicate) : p.compile = p.meaning := by
  induction p using induction_on_operands with
  | step p ih =>
      cases p with
      | and ps =>
          rw [compile, meaning, emptyJoin?, compileAll_eq fun q (hq : q ∈ ps) => ih q hq]
          cases ps.isEmpty with
          | true => rfl
          | false =>
              cases emptyJoinIn? ps with
              | some join => rfl
              | none =>
                  refine congrArg Except.ok (funext fun op => ?_)
                  dsimp only
                  rw [List.all_map, eval, evalAll_eq_all, List.all_map]
                  rfl
      | or ps =>
          rw [compile, meaning, emptyJoin?, compileAll_eq fun q (hq : q ∈ ps) => ih q hq]
          cases ps.isEmpty with
          | true => rfl
          | false =>
              cases emptyJoinIn? ps with
              | some join => rfl
              | none =>
                  refine congrArg Except.ok (funext fun op => ?_)
                  dsimp only
                  rw [List.any_map, eval, evalSome_eq_any, List.any_map]
                  rfl
      | not p =>
          rw [compile, ih p List.mem_cons_self, meaning, meaning, emptyJoin?]
          cases emptyJoin? p <;> rfl
      | _ => rfl

/-- What a predicate compiles to is its meaning. -/
theorem eq_eval_of_compile {p : Predicate} {m : Matcher} (h : p.compile = .ok m) :
    p.emptyJoin? = none ∧ m = fun op => eval op p := by
  rw [compile_eq_meaning, meaning] at h
  split at h
  case h_1 => cases h
  case h_2 hnone =>
    cases h
    exact ⟨hnone, rfl⟩

/-- Every join of a writable predicate has operands. -/
theorem IsWritable.isSolid {p : Predicate} (h : p.IsWritable) : p.IsSolid :=
  fun q hq => not_or.2 ⟨(h q hq).1, (h q hq).2.1⟩

/-- A writable predicate compiles to its meaning. -/
theorem compile_eq_eval {p : Predicate} (h : p.IsWritable) :
    p.compile = .ok fun op => eval op p := by
  rw [compile_eq_meaning, meaning, emptyJoin?_eq_none_iff.2 h.isSolid]

/-- Asking for a writable predicate besides asks for its meaning besides. -/
theorem compile_and_pair (p : Predicate) {q : Predicate} (hq : q.IsWritable) :
    (and [p, q]).compile = p.compile.map fun m op => m op && eval op q := by
  rw [compile, compileAll, compileAll, compileAll, compile_eq_eval hq]
  cases p.compile with
  | error join => rfl
  | ok m =>
      refine congrArg Except.ok (funext fun op => ?_)
      show (m op && (eval op q && true)) = (m op && eval op q)
      rw [Bool.and_true]

end Predicate

end Cashbook
