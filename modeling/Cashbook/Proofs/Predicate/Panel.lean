import Mathlib.Tactic.MkIffOfInductiveProp
import Cashbook.Filter
import Cashbook.Proofs.Predicate.Meaning

/-!
# What the filter panel keeps

A filter is turned into a predicate with a part for each aspect that something is picked about.
`Filter.Keeps` says without any predicate which operations are meant: those that every aspect of the
panel lets pass.

* `Selection.Admits` — what is picked about kinds, accounts and labels.  It asks whether a listed
  value is one of the operation's, so that it does not matter in which order values are listed, or
  how often.
* `AdmitsCategories` — what is picked about categories, which passes over the operations that cannot
  have any.

The parts may be joins of no more than one operand, but never of none (`isSolid_toPredicate`), so
the predicate compiles whatever is picked, and to a matcher for just these operations
(`toPredicate_keeps`).
-/

namespace Cashbook

open Predicate

namespace Selection

variable {α : Type} {s t : Selection α} {P : α → Prop}

/-- Whether a selection lets an operation pass that has the values with `P`. -/
def Admits (P : α → Prop) : Selection α → Prop
  | all => True
  | selected items => ∃ a ∈ items, P a
  | excluded items => ¬ ∃ a ∈ items, P a

/-- Whether two selections list the same values, in any order and any number of times. -/
def SameItems : Selection α → Selection α → Prop
  | all, all => True
  | selected items, selected items' => ∀ a, a ∈ items ↔ a ∈ items'
  | excluded items, excluded items' => ∀ a, a ∈ items ↔ a ∈ items'
  | _, _ => False

theorem SameItems.admits_iff (h : s.SameItems t) : s.Admits P ↔ t.Admits P := by
  cases s <;> cases t <;> simp_all [SameItems, Admits]

end Selection

namespace Filter

variable {f g : Filter} {op : Operation}

/-! ### What is meant -/

/-- Whether an operation falls under one of the named categories; the empty name stands for having
no category. -/
def FallsUnder (names : List String) (op : Operation) : Prop :=
  (∃ split ∈ op.splits, split.name ≠ "" ∧ split.name ∈ names) ∨
    ("" ∈ names ∧ op.IsBooked ∧ op.splits = [])

/-- Whether what is picked about categories lets an operation pass. -/
def AdmitsCategories (op : Operation) : Selection String → Prop
  | .all => True
  | .selected names => op.kind = .transfer ∨ op.kind = .adjustment ∨ FallsUnder names op
  | .excluded names =>
      names = [] ∨ op.kind = .transfer ∨ op.kind = .adjustment ∨ ¬ FallsUnder names op

/-- Whether all that is picked lets an operation pass. -/
@[mk_iff]
structure Keeps (f : Filter) (op : Operation) : Prop where
  /-- A text that is searched for occurs in the remark. -/
  search : ∀ needle, f.search = some needle →
    needle = "" ∨ ∃ text, op.comment? = some text ∧ needle.toList <:+: text.toList
  /-- The kind passes. -/
  kinds : f.kinds.Admits (op.kind = ·)
  /-- The categories pass. -/
  categories : AdmitsCategories op f.categories
  /-- The accounts pass, on whichever side they are. -/
  accounts : f.accounts.Admits fun name => ∃ side ∈ op.sides, side.name = name
  /-- The labels pass. -/
  tags : f.tags.Admits (· ∈ op.tags)

/-- Whether the same is picked in two filters, but for the order and the number of listed values. -/
structure SameItems (f g : Filter) : Prop where
  /-- The same text is searched for. -/
  search : f.search = g.search
  /-- The same kinds are listed. -/
  kinds : f.kinds.SameItems g.kinds
  /-- The same categories are listed. -/
  categories : f.categories.SameItems g.categories
  /-- The same accounts are listed. -/
  accounts : f.accounts.SameItems g.accounts
  /-- The same labels are listed. -/
  tags : f.tags.SameItems g.tags

theorem admitsCategories_iff {s t : Selection String} (h : s.SameItems t) :
    AdmitsCategories op s ↔ AdmitsCategories op t := by
  cases s <;> cases t <;>
    simp_all [Selection.SameItems, AdmitsCategories, FallsUnder, List.eq_nil_iff_forall_not_mem]

/-- What a filter keeps depends on the sets of listed values. -/
theorem SameItems.keeps_iff (h : f.SameItems g) : f.Keeps op ↔ g.Keeps op := by
  rw [Filter.keeps_iff, Filter.keeps_iff, h.search, h.kinds.admits_iff,
    admitsCategories_iff h.categories, h.accounts.admits_iff, h.tags.admits_iff]

/-! ### What the parts ask for -/

theorem holds_searchPart? (search : Option String) :
    (∀ p ∈ searchPart? search, Holds op p) ↔
      ∀ needle, search = some needle →
        needle = "" ∨ ∃ text, op.comment? = some text ∧ needle.toList <:+: text.toList := by
  cases search with
  | none => simp [searchPart?]
  | some needle =>
      by_cases hneedle : needle = "" <;> simp [searchPart?, Holds, hneedle]

/-- What is asked for some values is asked for one of them. -/
theorem holds_or_map {α : Type} (atom : α → Predicate) (items : List α) :
    Holds op (.or (items.map atom)) ↔ ∃ a ∈ items, Holds op (atom a) := by
  rw [Holds]
  constructor
  · rintro ⟨p, hp, hholds⟩
    obtain ⟨a, ha, rfl⟩ := List.mem_map.1 hp
    exact ⟨a, ha, hholds⟩
  · rintro ⟨a, ha, hholds⟩
    exact ⟨atom a, List.mem_map_of_mem ha, hholds⟩

theorem holds_part? {α : Type} (atom : α → Predicate) (s : Selection α) :
    (∀ p ∈ part? atom s, Holds op p) ↔ s.Admits fun a => Holds op (atom a) := by
  match s with
  | .all => simp [part?, Selection.Admits]
  | .selected [] => simp [part?, Selection.Admits, Holds]
  | .selected (a :: items) =>
      simp only [part?, Option.mem_some_iff, forall_eq', holds_or_map, Selection.Admits]
  | .excluded [] => simp [part?, Selection.Admits]
  | .excluded (a :: items) =>
      simp only [part?, Option.mem_some_iff, forall_eq', Selection.Admits]
      rw [Holds, holds_or_map]

theorem exists_holds_categoryAtom (names : List String) :
    (∃ name ∈ names, Holds op (categoryAtom name)) ↔ FallsUnder names op := by
  constructor
  · rintro ⟨name, hname, hholds⟩
    rw [categoryAtom] at hholds
    split at hholds
    case isTrue hempty =>
      rw [Holds] at hholds
      exact .inr ⟨hempty ▸ hname, hholds⟩
    case isFalse hne =>
      rw [Holds] at hholds
      obtain ⟨-, split, hsplit, rfl⟩ := hholds
      exact .inl ⟨split, hsplit, hne, hname⟩
  · rintro (⟨split, hsplit, hne, hname⟩ | ⟨hempty, hnone⟩)
    · refine ⟨split.name, hname, ?_⟩
      rw [categoryAtom, if_neg hne, Holds]
      exact ⟨Operation.isBooked_of_mem_splits hsplit, split, hsplit, rfl⟩
    · refine ⟨"", hempty, ?_⟩
      rw [categoryAtom, if_pos rfl, Holds]
      exact hnone

theorem holds_categoriesPart? (s : Selection String) :
    (∀ p ∈ categoriesPart? s, Holds op p) ↔ AdmitsCategories op s := by
  have hatoms (names : List String) :
      Holds op (.or (names.map categoryAtom)) ↔ FallsUnder names op :=
    (holds_or_map categoryAtom names).trans (exists_holds_categoryAtom names)
  match s with
  | .all => simp [categoriesPart?, AdmitsCategories]
  | .selected names =>
      have hjoined : Holds op (.or (names.map categoryAtom ++ withoutCategories)) ↔
          Holds op (.or (names.map categoryAtom)) ∨
            op.kind = .transfer ∨ op.kind = .adjustment := by
        simp [Holds, withoutCategories, or_and_right, exists_or]
      simp only [categoriesPart?, Option.mem_some_iff, forall_eq', hjoined, hatoms,
        AdmitsCategories]
      rw [or_comm, or_assoc]
  | .excluded [] => simp [categoriesPart?, AdmitsCategories]
  | .excluded (name :: names) =>
      have hjoined (p : Predicate) : Holds op (.or (.not p :: withoutCategories)) ↔
          ¬ Holds op p ∨ op.kind = .transfer ∨ op.kind = .adjustment := by
        simp [Holds, withoutCategories]
      simp only [categoriesPart?, Option.mem_some_iff, forall_eq', hjoined, hatoms,
        AdmitsCategories, reduceCtorEq, false_or]
      rw [or_comm, or_assoc]

/-! ### Putting the parts together -/

theorem forall_mem_parts {P : Predicate → Prop} :
    (∀ p ∈ f.parts, P p) ↔
      (∀ p ∈ searchPart? f.search, P p) ∧ (∀ p ∈ part? .kind f.kinds, P p) ∧
        (∀ p ∈ categoriesPart? f.categories, P p) ∧ (∀ p ∈ part? .account f.accounts, P p) ∧
          ∀ p ∈ part? .tag f.tags, P p := by
  simp only [parts, List.mem_filterMap, id, exists_eq_right, List.mem_cons, List.not_mem_nil,
    or_false, or_imp, forall_and, Option.mem_def, eq_comm]

/-- **The predicate means what is picked.** -/
theorem holds_toPredicate : Holds op f.toPredicate ↔ f.Keeps op := by
  have hparts : Holds op f.toPredicate ↔ ∀ p ∈ f.parts, Holds op p := by
    rw [toPredicate]
    split
    case h_1 hnil => simp [hnil, Holds]
    case h_2 => rw [Holds]
  rw [hparts, forall_mem_parts, holds_searchPart?, holds_part?, holds_categoriesPart?, holds_part?,
    holds_part?, keeps_iff]
  simp only [Holds]

/-! ### Every filter compiles -/

/-- Some values that are asked for, and one at least. -/
theorem isSolid_or_map {α : Type} {atom : α → Predicate} (hatom : ∀ a, (atom a).IsLeaf)
    {items : List α} (h : items ≠ []) : (Predicate.or (items.map atom)).IsSolid := by
  refine (isSolid_join (j := .or)).2 ⟨by simpa using h, ?_⟩
  rw [List.forall_mem_map]
  exact fun a _ => isSolid_of_isLeaf (hatom a)

theorem isSolid_part? {α : Type} (atom : α → Predicate) (hatom : ∀ a, (atom a).IsLeaf)
    (s : Selection α) : ∀ p ∈ part? atom s, p.IsSolid := by
  match s with
  | .all => simp [part?]
  | .selected [] =>
      simp only [part?, Option.mem_some_iff, forall_eq']
      exact isSolid_not.2 (isSolid_of_isLeaf trivial)
  | .selected (a :: items) =>
      simp only [part?, Option.mem_some_iff, forall_eq']
      exact isSolid_or_map hatom (List.cons_ne_nil a items)
  | .excluded [] => simp [part?]
  | .excluded (a :: items) =>
      simp only [part?, Option.mem_some_iff, forall_eq']
      exact isSolid_not.2 (isSolid_or_map hatom (List.cons_ne_nil a items))

theorem isLeaf_categoryAtom (name : String) : (categoryAtom name).IsLeaf := by
  rw [categoryAtom]
  split
  case isTrue => trivial
  case isFalse => trivial

/-- The kinds without categories are asked for besides, so that there always is an operand. -/
theorem isSolid_or_append {ps : List Predicate} (h : ∀ p ∈ ps, p.IsSolid) :
    (Predicate.or (ps ++ withoutCategories)).IsSolid := by
  refine (isSolid_join (j := .or)).2 ⟨by simp [withoutCategories], ?_⟩
  refine List.forall_mem_append.2 ⟨h, ?_⟩
  simp only [withoutCategories, List.forall_mem_cons]
  exact ⟨isSolid_of_isLeaf trivial, isSolid_of_isLeaf trivial, by simp⟩

theorem isSolid_categoriesPart? (s : Selection String) : ∀ p ∈ categoriesPart? s, p.IsSolid := by
  match s with
  | .all => simp [categoriesPart?]
  | .selected names =>
      simp only [categoriesPart?, Option.mem_some_iff, forall_eq']
      exact isSolid_or_append
        (List.forall_mem_map.2 fun name _ => isSolid_of_isLeaf (isLeaf_categoryAtom name))
  | .excluded [] => simp [categoriesPart?]
  | .excluded (name :: names) =>
      simp only [categoriesPart?, Option.mem_some_iff, forall_eq']
      have hnot := isSolid_not.2 (isSolid_or_map isLeaf_categoryAtom (List.cons_ne_nil name names))
      exact isSolid_or_append (List.forall_mem_singleton.2 hnot)

/-- Whatever is picked, every join of the predicate has operands. -/
theorem isSolid_toPredicate (f : Filter) : f.toPredicate.IsSolid := by
  have hparts : ∀ p ∈ f.parts, p.IsSolid := by
    refine forall_mem_parts.2 ⟨?_, isSolid_part? .kind (fun _ => trivial) f.kinds,
      isSolid_categoriesPart? f.categories, isSolid_part? .account (fun _ => trivial) f.accounts,
      isSolid_part? .tag (fun _ => trivial) f.tags⟩
    intro p hp
    obtain ⟨needle, -, rfl⟩ := Option.map_eq_some_iff.1 hp
    exact isSolid_of_isLeaf trivial
  rw [toPredicate]
  split
  case h_1 => exact isSolid_of_isLeaf trivial
  case h_2 hne => exact (isSolid_join (j := .and)).2 ⟨hne, hparts⟩

/-- **The panel keeps what it says.**  Every filter compiles, to a matcher that accepts an operation
if and only if all that is picked lets it pass.  A filter that lists the same values in another
order, or more often, compiles to the same matcher. -/
theorem toPredicate_keeps (f : Filter) :
    (∃ m, f.toPredicate.compile = .ok m ∧ ∀ op, m op = true ↔ f.Keeps op) ∧
      ∀ g : Filter, f.SameItems g → g.toPredicate.compile = f.toPredicate.compile := by
  obtain ⟨m, hm, hdecides⟩ := (isSolid_toPredicate f).exists_compile
  refine ⟨⟨m, hm, fun op => (hdecides op).trans holds_toPredicate⟩, fun g h => ?_⟩
  obtain ⟨m', hm', hdecides'⟩ := (isSolid_toPredicate g).exists_compile
  have hsame : m' = m := funext fun op => by
    rw [Bool.eq_iff_iff, hdecides, hdecides', holds_toPredicate, holds_toPredicate, h.keeps_iff]
  rw [hm, hm', hsame]

/-- A panel with kinds, categories and accounts picked, listed in two ways.  An expense without
categories is kept, as the empty name is among the categories. -/
theorem toPredicate_keeps_of_uncategorized :
    let f : Filter :=
      ⟨some "", .excluded [.transfer], .selected ["food", ""], .selected ["cash"], .all⟩
    let g : Filter := ⟨some "", .excluded [.transfer, .transfer], .selected ["", "food", ""],
      .selected ["cash", "cash"], .all⟩
    let op : Operation :=
      .expense ⟨"1", ⟨.first, 0, 0⟩, .first, "USD", (1 : Float).toBits, [], none⟩ ⟨"cash", 1⟩ []
    f.SameItems g ∧ ∃ m, f.toPredicate.compile = .ok m ∧ g.toPredicate.compile = .ok m ∧
      m op = true := by
  intro f g op
  have hsame : f.SameItems g := by
    refine ⟨rfl, ?_, ?_, ?_, trivial⟩
    all_goals
      intro a
      simp [or_comm]
  obtain ⟨⟨m, hm, hkeeps⟩, hlisted⟩ := toPredicate_keeps f
  refine ⟨hsame, m, hm, (hlisted g hsame).trans hm, (hkeeps op).2 ?_⟩
  refine ⟨?_, ?_, ?_, ?_, trivial⟩
  · rintro needle ⟨rfl⟩
    exact .inl rfl
  · simp [f, op, Selection.Admits, Operation.kind]
  · exact .inr (.inr (.inr ⟨by simp, .inr rfl, rfl⟩))
  · exact ⟨"cash", List.mem_cons_self, ⟨"cash", 1⟩, List.mem_cons_self, rfl⟩

end Filter

end Cashbook
