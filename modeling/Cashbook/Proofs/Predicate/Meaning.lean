import Cashbook.Proofs.Predicate.Replace

/-!
# What a predicate means

`Predicate.Holds` reads a predicate as it stands: a conjunction holds if all of its operands hold, a
disjunction if one of them does, and the leaves look at the operation.  A matcher that a predicate
is compiled to decides just this (`eval_eq_true_iff`).

There is no matcher for a predicate with a join without operands.  Which join is at fault, compiling
finds out on its way down (`emptyJoin?`); `parts` lists what the predicate is built from in the
order in which it is written, and the join at fault is the first one of that list that has no
operands (`compile_eq_error_iff`), wherever it stands and whatever stands beside it.

Together, `compile_faithful` says for every predicate what it compiles to.
-/

namespace Cashbook

namespace Operation

/-- The categories that an operation falls under; there are none if it cannot have any. -/
def splits (op : Operation) : List Split := op.splits?.getD []

/-- Whether an operation can have categories, being an income or an expense. -/
def IsBooked (op : Operation) : Prop := op.kind = .income ∨ op.kind = .expense

theorem splits?_eq_some_iff {op : Operation} {splits : List Split} :
    op.splits? = some splits ↔ op.IsBooked ∧ op.splits = splits := by
  cases op <;> simp [splits?, IsBooked, kind, Operation.splits]

theorem isBooked_of_mem_splits {op : Operation} {split : Split} (h : split ∈ op.splits) :
    op.IsBooked := by
  cases hsplits : op.splits? with
  | none => simp [splits, hsplits] at h
  | some splits => exact (splits?_eq_some_iff.1 hsplits).1

end Operation

namespace Predicate

variable {op : Operation} {p q : Predicate} {j : Join}

/-! ### Reading a predicate -/

/-- Whether a predicate holds of an operation. -/
def Holds (op : Operation) : Predicate → Prop
  | any => True
  | kind k => op.kind = k
  | category name => op.IsBooked ∧ ∃ split ∈ op.splits, split.name = name
  | uncategorized => op.IsBooked ∧ op.splits = []
  | account name => ∃ side ∈ op.sides, side.name = name
  | tag label => label ∈ op.tags
  | comment needle => ∃ text, op.comment? = some text ∧ needle.toList <:+: text.toList
  | and ps => ∀ p ∈ ps, Holds op p
  | or ps => ∃ (p : Predicate) (_ : p ∈ ps), Holds op p
  | not p => ¬ Holds op p

theorem inCategory_eq_true_iff {name : String} :
    inCategory name op = true ↔ op.IsBooked ∧ ∃ split ∈ op.splits, split.name = name := by
  have hsome : inCategory name op = true ↔
      ∃ splits, op.splits? = some splits ∧ ∃ split ∈ splits, split.name = name := by
    rw [inCategory]
    cases op.splits? <;> simp
  rw [hsome]
  simp only [Operation.splits?_eq_some_iff, and_assoc, exists_and_left, exists_eq_left']

theorem withoutCategory_eq_true_iff :
    withoutCategory op = true ↔ op.IsBooked ∧ op.splits = [] := by
  have hsome : withoutCategory op = true ↔ op.splits? = some [] := by
    rw [withoutCategory]
    cases op.splits? <;> simp
  rw [hsome, Operation.splits?_eq_some_iff]

theorem mentions_eq_true_iff {needle : String} :
    mentions needle op = true ↔
      ∃ text, op.comment? = some text ∧ needle.toList <:+: text.toList := by
  rw [mentions]
  cases op.comment? with
  | none => simp
  | some text => simp [Text.occursIn, Text.occursInList_iff]

/-- **The decision is the meaning.** -/
theorem eval_eq_true_iff (op : Operation) (p : Predicate) : eval op p = true ↔ Holds op p := by
  induction p using induction_on_operands with
  | step p ih =>
      cases p with
      | any => simp [eval, Holds]
      | kind k => simp [eval, Holds]
      | category name => rw [eval, Holds, inCategory_eq_true_iff]
      | uncategorized => rw [eval, Holds, withoutCategory_eq_true_iff]
      | account name => simp [eval, Holds, onAccount]
      | tag label => simp [eval, Holds, hasTag]
      | comment needle => rw [eval, Holds, mentions_eq_true_iff]
      | and ps =>
          rw [eval, Holds, evalAll_eq_all, List.all_map, List.all_eq_true]
          exact forall₂_congr ih
      | or ps =>
          rw [eval, Holds, evalSome_eq_any, List.any_map, List.any_eq_true]
          simp only [exists_prop]
          exact exists_congr fun q => and_congr_right (ih q)
      | not p =>
          rw [eval, Holds, ← ih p List.mem_cons_self, Bool.not_eq_true', Bool.not_eq_true]

instance (op : Operation) (p : Predicate) : Decidable (Holds op p) :=
  decidable_of_iff _ (eval_eq_true_iff op p)

/-- Both sides of a transfer are looked at. -/
theorem holds_account_transfer (head : Head) (a b : Side) (name : String) :
    Holds (.transfer head a b) (account name) ↔ a.name = name ∨ b.name = name := by
  simp [Holds, Operation.sides]

/-- The empty text occurs in every remark, but there has to be one. -/
theorem holds_comment_empty : Holds op (comment "") ↔ op.comment?.isSome = true := by
  rw [Holds, Option.isSome_iff_exists]
  exact exists_congr fun text => and_iff_left List.nil_infix

/-! ### Compiling -/

/-- A predicate does not compile if one of its parts is a join without operands, and then the first
such part is named. -/
theorem compile_eq_error_iff :
    p.compile = .error j ↔
      ∃ earlier later, p.parts = earlier ++ j.predicate [] :: later ∧
        ∀ q ∈ earlier, ¬ q.IsHollow := by
  have hcompile : p.compile = .error j ↔ p.emptyJoin? = some j := by
    rw [compile_eq_meaning, meaning]
    cases p.emptyJoin? <;> simp
  rw [hcompile, emptyJoin?_eq_findSome?, List.findSome?_eq_some_iff]
  simp only [hollow?_eq_none_iff, hollow?_eq_some_iff]
  constructor
  · rintro ⟨earlier, q, later, hparts, rfl, hearlier⟩
    exact ⟨earlier, later, hparts, hearlier⟩
  · rintro ⟨earlier, later, hparts, hearlier⟩
    exact ⟨earlier, _, later, hparts, rfl, hearlier⟩

theorem isSolid_of_isLeaf (h : p.IsLeaf) : p.IsSolid :=
  emptyJoin?_eq_none_iff.1 (emptyJoin?_of_isLeaf h)

/-- A predicate compiles if all of its joins have operands, and then to what decides its meaning. -/
theorem IsSolid.exists_compile (h : p.IsSolid) :
    ∃ m, p.compile = .ok m ∧ ∀ op, m op = true ↔ Holds op p := by
  refine ⟨fun op => eval op p, ?_, fun op => eval_eq_true_iff op p⟩
  rw [compile_eq_meaning, meaning, emptyJoin?_eq_none_iff.2 h]

/-- A join of one operand compiles to what the operand compiles to. -/
theorem compile_join_singleton (j : Join) (p : Predicate) :
    (j.predicate [p]).compile = p.compile := by
  have hmap {f : List Matcher → Matcher} (hf : ∀ m, f [m] = m) :
      (compileAll [p]).map f = p.compile := by
    rw [compileAll]
    cases p.compile with
    | error e => rfl
    | ok m => exact congrArg Except.ok (hf m)
  cases j with
  | and =>
      rw [Join.predicate, compile]
      exact hmap fun m => funext fun op => Bool.and_true (m op)
  | or =>
      rw [Join.predicate, compile]
      exact hmap fun m => funext fun op => Bool.or_false (m op)

/-- **Compiling is faithful.**  A predicate does not compile if and only if there is a join without
operands anywhere in it, and what is named then is the first one of these; if there is none, the
predicate compiles to a matcher that accepts an operation if and only if the predicate holds of
it. -/
theorem compile_faithful (p : Predicate) :
    ((∃ j, p.compile = .error j) ↔ ∃ q ∈ p.parts, q.IsHollow) ∧
      (∀ j, p.compile = .error j ↔
        ∃ earlier later, p.parts = earlier ++ j.predicate [] :: later ∧
          ∀ q ∈ earlier, ¬ q.IsHollow) ∧
      (p.IsSolid → ∃ m, p.compile = .ok m ∧ ∀ op, m op = true ↔ Holds op p) ∧
      (∀ op, Holds op (comment "") ↔ op.comment?.isSome = true) ∧
      ∀ head a b name,
        Holds (.transfer head a b) (account name) ↔ a.name = name ∨ b.name = name := by
  refine ⟨⟨?_, ?_⟩, fun j => compile_eq_error_iff, IsSolid.exists_compile,
    fun op => holds_comment_empty, holds_account_transfer⟩
  · rintro ⟨j, hj⟩
    obtain ⟨earlier, later, hparts, -⟩ := compile_eq_error_iff.1 hj
    refine ⟨j.predicate [], ?_, by cases j <;> simp [Join.predicate, IsHollow]⟩
    rw [hparts]
    exact List.mem_append_right _ List.mem_cons_self
  · rintro ⟨q, hq, hhollow⟩
    cases hp : p.compile with
    | error j => exact ⟨j, rfl⟩
    | ok m =>
        obtain ⟨hnone, -⟩ := eq_eval_of_compile hp
        exact absurd hhollow (emptyJoin?_eq_none_iff.1 hnone q hq)

/-- The join at fault stands below a negation, beside an operand that holds of everything.  Without
it the predicate compiles. -/
theorem compile_faithful_of_nested_join :
    let faulty : Predicate := .or [.any, .not (.and [.tag "food", .or [], .and []])]
    let sound : Predicate := .or [.kind .expense, .not (.and [.tag "food"])]
    faulty.compile = .error .or ∧ sound.IsSolid ∧
      ∃ m, sound.compile = .ok m ∧ m (.deleted "rent") = true := by
  intro faulty sound
  have hsound : sound.IsSolid := by decide
  obtain ⟨-, hfault, -⟩ := compile_faithful faulty
  obtain ⟨-, -, hcompile, -⟩ := compile_faithful sound
  refine ⟨(hfault .or).2 ⟨[faulty, .any, .not (.and [.tag "food", .or [], .and []]),
    .and [.tag "food", .or [], .and []], .tag "food"], [.and []], rfl, by decide⟩, hsound, ?_⟩
  obtain ⟨m, hm, hdecides⟩ := hcompile hsound
  exact ⟨m, hm, (hdecides _).2 (by decide)⟩

end Predicate

end Cashbook
