import Cashbook.Proofs.Operation.LogOrder
import Cashbook.Proofs.Predicate.Replace
import Cashbook.Store

/-!
# Giving an account or a category a new name

A renaming amends the operations that name the old account or category and leaves the others alone.
It changes nothing that the order of the log looks at (`SameEntry`), so the log after it is the log
before it with each operation amended where it stands (`amend_load`).

The other half is what an amended operation says.  Where nothing bears the new name beforehand, it
says of the new name what the operation said of the old one, and of all other names what the
operation said of them.  So a predicate that asks for the new name in the place of the old one
decides about the amended operations as before (`compile_withAccount`, `compile_withCategory`).
-/

namespace Cashbook

namespace Operation

/-! ### Versions of one entry -/

/-- Whether a record is a version of another: they have the same name, kind and head, up to when
they were written. -/
structure SameEntry (a b : Operation) : Prop where
  id_eq : b.id = a.id
  kind_eq : b.kind = a.kind
  head_eq : ∃ now, b.head? = a.head?.map fun h => { h with lastModified := now }

namespace SameEntry

variable {a a' b b' : Operation}

theorem refl (a : Operation) : SameEntry a a where
  id_eq := rfl
  kind_eq := rfl
  head_eq := by
    cases a with
    | deleted id => exact ⟨⟨.first, 0, 0⟩, rfl⟩
    | _ => exact ⟨_, rfl⟩

theorem date?_eq (h : SameEntry a b) : b.date? = a.date? := by
  obtain ⟨now, hhead⟩ := h.head_eq
  rw [date?, date?, hhead, Option.map_map]
  rfl

theorem tags_eq (h : SameEntry a b) : b.tags = a.tags := by
  obtain ⟨now, hhead⟩ := h.head_eq
  rw [tags, tags, hhead, Option.map_map]
  rfl

theorem comment?_eq (h : SameEntry a b) : b.comment? = a.comment? := by
  obtain ⟨now, hhead⟩ := h.head_eq
  rw [comment?, comment?, hhead, Option.bind_map]
  rfl

/-- The order of the log does not tell versions apart. -/
theorem notAfter_eq (ha : SameEntry a a') (hb : SameEntry b b') :
    a'.notAfter b' = a.notAfter b := by
  obtain ⟨now, hahead⟩ := ha.head_eq
  obtain ⟨now', hbhead⟩ := hb.head_eq
  rw [notAfter, notAfter, Operation.compare, Operation.compare, hahead, hbhead, ha.id_eq, hb.id_eq,
    ha.kind_eq, hb.kind_eq]
  cases a.head? <;> cases b.head? <;> rfl

end SameEntry

/-- **Amending a log** entry by entry gives the log of the amended entries. -/
theorem sortLog_map {r : Operation → Operation} {ops : List Operation}
    (h : ∀ op ∈ ops, SameEntry op (r op)) : sortLog (ops.map r) = (sortLog ops).map r :=
  (List.map_mergeSort fun a ha b hb => ((h a ha).notAfter_eq (h b hb)).symm).symm

/-- Entries of a log that are amended are in order as they stand. -/
theorem sortLog_map_sortLog {r : Operation → Operation} {ops : List Operation}
    (h : ∀ op, SameEntry op (r op)) : sortLog ((sortLog ops).map r) = (sortLog ops).map r := by
  have hself : sortLog (sortLog ops) = sortLog ops :=
    List.mergeSort_of_pairwise (pairwise_sortLog ops)
  rw [sortLog_map fun op _ => h op, hself]

/-! ### A new name for an account -/

/-- The operation after the account `old` has become `new` at `now`. -/
def withAccount (old new : String) (now : Timestamp) (op : Operation) : Operation :=
  if op.touchesAccount old then (op.mapAccounts (renamed old new)).touch now else op

/-- The operation after the category `old` has become `new` at `now`. -/
def withCategory (old new : String) (now : Timestamp) (op : Operation) : Operation :=
  if op.hasCategory old then (op.mapCategories (renamed old new)).touch now else op

variable (old new : String) (now : Timestamp) (op : Operation)

theorem sameEntry_withAccount : SameEntry op (op.withAccount old new now) := by
  rw [withAccount]
  split
  case isTrue => cases op <;> exact ⟨rfl, rfl, now, rfl⟩
  case isFalse => exact .refl op

theorem sameEntry_withCategory : SameEntry op (op.withCategory old new now) := by
  rw [withCategory]
  split
  case isTrue => cases op <;> exact ⟨rfl, rfl, now, rfl⟩
  case isFalse => exact .refl op

@[simp] theorem sides_touch : (op.touch now).sides = op.sides := by
  cases op <;> rfl

@[simp] theorem splits?_touch : (op.touch now).splits? = op.splits? := by
  cases op <;> rfl

@[simp] theorem splits?_mapAccounts (f : String → String) :
    (op.mapAccounts f).splits? = op.splits? := by
  cases op <;> rfl

@[simp] theorem sides_mapCategories (f : String → String) :
    (op.mapCategories f).sides = op.sides := by
  cases op <;> rfl

/-- The sides of an operation follow their accounts. -/
theorem sides_withAccount :
    (op.withAccount old new now).sides =
      op.sides.map fun s => { s with name := renamed old new s.name } := by
  rw [withAccount]
  split
  case isTrue => rw [sides_touch, sides_mapAccounts]
  case isFalse h =>
    -- no side names the old account, so each keeps its name
    rw [touchesAccount, List.any_eq_true] at h
    refine ((List.map_congr_left fun s hs => ?_).trans (List.map_id _)).symm
    have hname : s.name ≠ old := fun heq => h ⟨s, hs, decide_eq_true heq⟩
    rw [renamed, if_neg hname]
    rfl

theorem splits?_withAccount : (op.withAccount old new now).splits? = op.splits? := by
  rw [withAccount]
  split
  case isTrue => rw [splits?_touch, splits?_mapAccounts]
  case isFalse => rfl

theorem sides_withCategory : (op.withCategory old new now).sides = op.sides := by
  rw [withCategory]
  split
  case isTrue => rw [sides_touch, sides_mapCategories]
  case isFalse => rfl

/-- The splits of an operation follow their categories. -/
theorem splits?_withCategory :
    (op.withCategory old new now).splits? =
      op.splits?.map fun splits => splits.map fun s =>
        { s with name := renamed old new s.name } := by
  rw [withCategory]
  split
  case isTrue => rw [splits?_touch, splits?_mapCategories]
  case isFalse h =>
    rw [hasCategory, List.any_eq_true] at h
    cases hsplits : op.splits? with
    | none => rfl
    | some splits =>
        rw [hsplits] at h
        refine congrArg some ((List.map_congr_left fun s hs => ?_).trans (List.map_id _)).symm
        have hname : s.name ≠ old := fun heq => h ⟨s, hs, decide_eq_true heq⟩
        rw [renamed, if_neg hname]
        rfl

end Operation

/-! ### What the names become -/

section

variable {old new name other : String}

/-- Only the old name becomes the new one. -/
theorem renamed_eq_new_iff (h : name ≠ new) : renamed old new name = new ↔ name = old := by
  rw [renamed]
  split
  case isTrue heq => exact ⟨fun _ => heq, fun _ => rfl⟩
  case isFalse hne => exact ⟨fun heq => absurd heq h, fun heq => absurd heq hne⟩

/-- All other names stay what they are. -/
theorem renamed_eq_iff (hold : other ≠ old) (hnew : other ≠ new) :
    renamed old new name = other ↔ name = other := by
  rw [renamed]
  split
  case isTrue heq =>
    exact ⟨fun h => absurd h.symm hnew, fun h => absurd (h.symm.trans heq) hold⟩
  case isFalse => exact Iff.rfl

end

namespace Predicate

open Operation

variable {new : String} {op op' : Operation} {p q : Predicate} {m : Matcher}

/-- A leaf sees no difference between versions of an operation, unless it asks for an account or a
category. -/
theorem eval_leaf_eq (h : SameEntry op op') (hq : q.IsLeaf)
    (haccount : ∀ name, q = .account name → onAccount name op' = onAccount name op)
    (hcategory : ∀ name, q = .category name → inCategory name op' = inCategory name op)
    (hwithout : withoutCategory op' = withoutCategory op) : eval op' q = eval op q := by
  cases q with
  | any => rfl
  | kind k => rw [eval, eval, h.kind_eq]
  | category name => exact hcategory name rfl
  | uncategorized => exact hwithout
  | account name => exact haccount name rfl
  | tag label => rw [eval, eval, hasTag, hasTag, h.tags_eq]
  | comment needle => rw [eval, eval, mentions, mentions, h.comment?_eq]
  | and ps => exact hq.elim
  | or ps => exact hq.elim
  | not p => exact hq.elim

/-- **A predicate follows its accounts.** -/
theorem compile_withAccount (old : String) (now : Timestamp) (hp : p.compile = .ok m)
    (hnew : .account new ∉ p.parts) :
    ∃ m', (p.replace (.account old) (.account new)).compile = .ok m' ∧
      ∀ op, op.touchesAccount new = false → m' (op.withAccount old new now) = m op := by
  obtain ⟨m', hp', hm'⟩ := compile_replace (a := .account old) (b := .account new) hp trivial
  refine ⟨m', hp', fun op hop => hm' op _ ?_ fun q hq hleaf hold => ?_⟩
  · rw [eval, eval, onAccount, onAccount, sides_withAccount, List.any_map]
    refine Lists.any_congr fun s hs => ?_
    rw [touchesAccount, List.any_eq_false] at hop
    have hname : s.name ≠ new := fun heq => hop s hs (decide_eq_true heq)
    exact decide_eq_decide.2 (renamed_eq_new_iff hname)
  · refine eval_leaf_eq (sameEntry_withAccount old new now op) hleaf (fun name heq => ?_)
      (fun name _ => ?_) ?_
    · subst heq
      have hold : name ≠ old := fun heq => hold (congrArg Predicate.account heq)
      have hnew : name ≠ new := fun heq => hnew (heq ▸ hq)
      rw [onAccount, onAccount, sides_withAccount, List.any_map]
      exact congrArg op.sides.any (funext fun s => decide_eq_decide.2 (renamed_eq_iff hold hnew))
    · rw [inCategory, inCategory, splits?_withAccount]
    · rw [withoutCategory, withoutCategory, splits?_withAccount]

/-- **A predicate follows its categories.** -/
theorem compile_withCategory (old : String) (now : Timestamp) (hp : p.compile = .ok m)
    (hnew : .category new ∉ p.parts) :
    ∃ m', (p.replace (.category old) (.category new)).compile = .ok m' ∧
      ∀ op, op.hasCategory new = false → m' (op.withCategory old new now) = m op := by
  obtain ⟨m', hp', hm'⟩ := compile_replace (a := .category old) (b := .category new) hp trivial
  refine ⟨m', hp', fun op hop => hm' op _ ?_ fun q hq hleaf hold => ?_⟩
  · rw [eval, eval, inCategory, inCategory, splits?_withCategory]
    rw [hasCategory, List.any_eq_false] at hop
    cases hsplits : op.splits? with
    | none => rfl
    | some splits =>
        rw [hsplits] at hop
        refine List.any_map.trans (Lists.any_congr fun s hs => ?_)
        have hname : s.name ≠ new := fun heq => hop s hs (decide_eq_true heq)
        exact decide_eq_decide.2 (renamed_eq_new_iff hname)
  · refine eval_leaf_eq (sameEntry_withCategory old new now op) hleaf (fun name _ => ?_)
      (fun name heq => ?_) ?_
    · rw [onAccount, onAccount, sides_withCategory]
    · subst heq
      have hold : name ≠ old := fun heq => hold (congrArg Predicate.category heq)
      have hnew : name ≠ new := fun heq => hnew (heq ▸ hq)
      rw [inCategory, inCategory, splits?_withCategory]
      cases op.splits? with
      | none => rfl
      | some splits =>
          refine List.any_map.trans (congrArg splits.any (funext fun s => ?_))
          exact decide_eq_decide.2 (renamed_eq_iff hold hnew)
    · rw [withoutCategory, withoutCategory, splits?_withCategory]
      cases op.splits? with
      | none => rfl
      | some splits => exact List.isEmpty_map

end Predicate

/-! ### The log -/

namespace Store

open Operation

/-- An operation that passes the test is changed and marked as modified. -/
theorem amended_ite (now : Timestamp) (test : Operation → Bool) (f : Operation → Operation) :
    amended now (fun op => if test op then some (f op) else none) =
      fun op => if test op then (f op).touch now else op := by
  funext op
  rw [amended]
  cases test op <;> rfl

theorem amended_renameAccount? (old new : String) (now : Timestamp) :
    amended now (·.renameAccount? old new) = withAccount old new now := amended_ite now _ _

theorem amended_renameCategory? (old new : String) (now : Timestamp) :
    amended now (·.renameCategory? old new) = withCategory old new now := amended_ite now _ _

/-- **Amending a loaded store** amends each operation at its place, if its entry stays the same. -/
theorem amend_load {now : Timestamp} {test : Operation → Bool} {f : Operation → Operation}
    (h : ∀ op, SameEntry op (if test op then (f op).touch now else op)) (ops : List Operation) :
    (load ops).amend now (fun op => if test op then some (f op) else none) =
      .ok ((sortLog ops).countP test,
        ⟨some ((sortLog ops).map fun op => if test op then (f op).touch now else op)⟩) := by
  have hcount (op : Operation) : (if test op then some (f op) else none).isSome = test op := by
    cases test op <;> rfl
  rw [amend, amended_ite]
  simp only [hcount]
  exact congrArg (fun log => Except.ok (_, (⟨some log⟩ : Store))) (sortLog_map_sortLog h)

/-- A loaded store in which an account gets a new name. -/
theorem renameAccount_load (ops : List Operation) (old new : String) (now : Timestamp) :
    (load ops).renameAccount old new now =
      .ok ((sortLog ops).countP (·.touchesAccount old),
        ⟨some ((sortLog ops).map (withAccount old new now))⟩) :=
  amend_load (sameEntry_withAccount old new now) ops

/-- A loaded store in which a category gets a new name. -/
theorem renameCategory_load (ops : List Operation) (old new : String) (now : Timestamp) :
    (load ops).renameCategory old new now =
      .ok ((sortLog ops).countP (·.hasCategory old),
        ⟨some ((sortLog ops).map (withCategory old new now))⟩) :=
  amend_load (sameEntry_withCategory old new now) ops

end Store

end Cashbook
