import Mathlib.Data.List.MinMax

/-!
# Lists in order

What the order of a list lets one conclude about going through it: when two filters make one, and
why what is found first comes before everything else.  `isLE_total` is what sorting by a comparison
asks of it, and `argmax_split` says where in a list its first greatest member stands.
-/

namespace Cashbook.Lists

variable {α β : Type}

/-- Two filters one after the other are one filter, if the list has nothing for the first behind
something for the second. -/
theorem filter_append_filter {p q : α → Bool} {l : List α}
    (h : l.Pairwise fun a b => q a = true → p b = false) (hpq : ∀ a ∈ l, p a = true → q a = false) :
    l.filter p ++ l.filter q = l.filter fun a => p a || q a := by
  induction l with
  | nil => rfl
  | cons a l ih =>
      obtain ⟨hhead, htail⟩ := List.pairwise_cons.1 h
      obtain ⟨ha, hl⟩ := List.forall_mem_cons.1 hpq
      cases hp : p a with
      | true =>
          rw [List.filter_cons_of_pos hp, List.filter_cons_of_neg (by simp [ha hp]),
            List.filter_cons_of_pos (by simp [hp]), List.cons_append, ih htail hl]
      | false =>
          cases hq : q a with
          | false =>
              rw [List.filter_cons_of_neg (by simp [hp]), List.filter_cons_of_neg (by simp [hq]),
                List.filter_cons_of_neg (by simp [hp, hq]), ih htail hl]
          | true =>
              have hnone : l.filter p = [] :=
                List.filter_eq_nil_iff.2 fun b hb => by simp [hhead b hb hq]
              have hsame : l.filter q = l.filter fun a => p a || q a :=
                List.filter_congr fun b hb => by simp [hhead b hb hq]
              rw [List.filter_cons_of_neg (by simp [hp]), hnone, List.nil_append,
                List.filter_cons_of_pos hq, List.filter_cons_of_pos (by simp [hq]), hsame]

/-- Whether something passes a test depends on the members only. -/
theorem any_congr {p q : α → Bool} {l : List α} (h : ∀ a ∈ l, p a = q a) : l.any p = l.any q := by
  rw [Bool.eq_iff_iff, List.any_eq_true, List.any_eq_true]
  exact exists_congr fun a => and_congr_right fun ha => by rw [h a ha]

/-- Searching in what some members are mapped to. -/
theorem findSome?_filterMap {γ : Type} (f : α → Option β) (g : β → Option γ) (l : List α) :
    (l.filterMap f).findSome? g = l.findSome? fun a => (f a).bind g := by
  induction l with
  | nil => rfl
  | cons a l ih =>
      cases h : f a with
      | none =>
          rw [List.filterMap_cons_none h, List.findSome?_cons, h, ih]
          rfl
      | some b =>
          rw [List.filterMap_cons_some h, List.findSome?_cons, List.findSome?_cons, h, ih]
          rfl

/-- What is found in a list is found at one of its members, and all others at which something can be
found come behind it. -/
theorem exists_mem_of_findSome? {R : α → α → Prop} {f : α → Option β} {l : List α}
    (hl : l.Pairwise R) {b : β} (hb : l.findSome? f = some b) :
    ∃ a ∈ l, f a = some b ∧ ∀ a' ∈ l, ∀ b' ∈ f a', a' = a ∨ R a a' := by
  obtain ⟨before, a, behind, rfl, ha, hbefore⟩ := List.findSome?_eq_some_iff.1 hb
  obtain ⟨-, hbehind, -⟩ := List.pairwise_append.1 hl
  refine ⟨a, List.mem_append_right _ List.mem_cons_self, ha, fun a' ha' b' hb' => ?_⟩
  rcases List.mem_append.1 ha' with hmem | hmem
  · rw [hbefore a' hmem] at hb'
    cases hb'
  · exact (List.mem_cons.1 hmem).imp_right ((List.pairwise_cons.1 hbehind).1 a')

/-- What is found first in a list is before everything that can be found in it. -/
theorem rel_of_findSome? {R : β → β → Prop} (hrefl : ∀ b, R b b) {f : α → Option β}
    {l : List α} (hl : l.Pairwise fun a a' => ∀ b ∈ f a, ∀ b' ∈ f a', R b b') {b : β}
    (hb : l.findSome? f = some b) {a : α} (ha : a ∈ l) {b' : β} (hb' : f a = some b') : R b b' := by
  obtain ⟨a', -, ha', hothers⟩ := exists_mem_of_findSome? hl hb
  rcases hothers a ha b' hb' with rfl | hrel
  · obtain rfl := Option.some_inj.1 (ha'.symm.trans hb')
    exact hrefl b
  · exact hrel b ha' b' hb'

/-- What succeeds for every member of a list succeeds for the list. -/
theorem mapM_eq_some_map {f : α → Option β} {h : α → β} {l : List α}
    (hf : ∀ a ∈ l, f a = some (h a)) : l.mapM f = some (l.map h) := by
  induction l with
  | nil => rfl
  | cons a l ih =>
      obtain ⟨ha, hl⟩ := List.forall_mem_cons.1 hf
      rw [List.mapM_cons, ha, ih hl]
      rfl

/-- Of two values, one is not after the other. -/
theorem isLE_total (cmp : α → α → Ordering) [Std.OrientedCmp cmp] (a b : α) :
    ((cmp a b).isLE || (cmp b a).isLE) = true := by
  have hswap : cmp b a = (cmp a b).swap := Std.OrientedCmp.eq_swap
  rw [hswap]
  cases cmp a b <;> rfl

/-- The first greatest member of a list is greater than all before it, and none after it is greater.
-/
theorem argmax_split {γ : Type} [LinearOrder γ] {f : α → γ} {l : List α} {m : α}
    (h : l.argmax f = some m) :
    ∃ earlier later, l = earlier ++ m :: later ∧ (∀ a ∈ earlier, f a < f m) ∧
      ∀ a ∈ later, f a ≤ f m := by
  induction l with
  | nil => cases h
  | cons a l ih =>
      rw [List.argmax_cons] at h
      cases hl : l.argmax f with
      | none =>
          rw [hl] at h
          cases h
          exact ⟨[], l, rfl, by simp, by simp [List.argmax_eq_none.1 hl]⟩
      | some c =>
          rw [hl] at h
          dsimp only at h
          split at h
          case isTrue hlt =>
            cases h
            obtain ⟨earlier, later, rfl, hearlier, hlater⟩ := ih hl
            exact ⟨a :: earlier, later, rfl, List.forall_mem_cons.2 ⟨hlt, hearlier⟩, hlater⟩
          case isFalse hle =>
            cases h
            refine ⟨[], l, rfl, by simp, fun b hb => ?_⟩
            exact (List.le_of_mem_argmax hb hl).trans (not_lt.1 hle)

/-- The first greatest member only depends on which members there are, if no two of them are equally
great. -/
theorem argmax_congr {γ : Type} [LinearOrder γ] {f : α → γ} {l l' : List α}
    (hmem : ∀ a, a ∈ l' ↔ a ∈ l) (hf : ∀ a ∈ l, ∀ b ∈ l, f a = f b → a = b) :
    l'.argmax f = l.argmax f := by
  cases hmax : l.argmax f with
  | none =>
      rw [List.argmax_eq_none, List.eq_nil_iff_forall_not_mem] at hmax ⊢
      exact fun a ha => hmax a ((hmem a).1 ha)
  | some a =>
      have ha := List.argmax_mem hmax
      cases hmax' : l'.argmax f with
      | none =>
          rw [List.argmax_eq_none, List.eq_nil_iff_forall_not_mem] at hmax'
          exact absurd ((hmem a).2 ha) (hmax' a)
      | some b =>
          have hb := (hmem b).1 (List.argmax_mem hmax')
          -- each of the two is at least as great as the other
          have hab : f b = f a :=
            le_antisymm (List.le_of_mem_argmax hb hmax)
              (List.le_of_mem_argmax ((hmem a).2 ha) hmax')
          rw [hf b hb a ha hab]

end Cashbook.Lists
