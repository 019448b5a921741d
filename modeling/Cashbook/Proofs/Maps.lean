import Mathlib.Data.List.Nodup
import Mathlib.Data.List.Perm.Basic
import Std.Data.ExtTreeMap
import Cashbook.Proofs.Lists

/-!
# Maps and their lists

A map is listed in the order of its keys.  Here is what listing it keeps: its values are those of
its entries, and entries that pass a test on their keys are found in the same order in every map
that agrees on them.

The way back forgets the order of a list: a map that is made of entries with distinct keys is the
same in whatever order they go in (`foldl_insert_perm`), and keys that come out in any order are the
keys of the list once they are sorted (`mergeSort_keys`).

Sums by two keys are kept in maps of maps.  What becomes of one of them when another one is changed
does not depend on how they are nested (`bind_getElem?_alter_alter`).
-/

namespace Cashbook.Maps

variable {κ α : Type} [Ord κ] [Std.TransOrd κ]

/-- The values of a map are those of its list. -/
theorem values_eq (m : Std.ExtTreeMap κ α) : m.values = m.toList.map (·.2) := by
  obtain ⟨m⟩ := m
  induction m using Std.ExtDTreeMap.inductionOn with
  | mk t =>
      show t.inner.values = (Std.DTreeMap.Internal.Impl.Const.toList t.inner).map (·.2)
      rw [Std.DTreeMap.Internal.Impl.values_eq_map_snd,
        Std.DTreeMap.Internal.Impl.Const.toList_eq_toListModel_map, List.map_map]
      rfl

/-- Maps that agree on the keys that pass a test list the same entries for these keys. -/
theorem filter_toList_congr [Std.LawfulEqOrd κ] {m m' : Std.ExtTreeMap κ α} {p : κ → Bool}
    (h : ∀ k, p k = true → m[k]? = m'[k]?) :
    m.toList.filter (fun x => p x.1) = m'.toList.filter fun x => p x.1 := by
  have hfilter : m.filter (fun k _ => p k) = m'.filter fun k _ => p k := by
    refine Std.ExtTreeMap.ext_getElem? fun k => ?_
    rw [Std.ExtTreeMap.getElem?_filter', Std.ExtTreeMap.getElem?_filter']
    cases hp : p k with
    | true => rw [h k hp]
    | false => cases m[k]? <;> cases m'[k]? <;> rfl
  have htoList (m : Std.ExtTreeMap κ α) :
      (m.filter fun k _ => p k).toList = m.toList.filter fun x => p x.1 :=
    Std.ExtTreeMap.toList_filter
  rw [← htoList m, ← htoList m', hfilter]

variable [Std.LawfulEqOrd κ]

/-- What goes in last under a key is all that is left of it. -/
theorem insert_same (m : Std.ExtTreeMap κ α) (k : κ) (v v' : α) :
    (m.insert k v).insert k v' = m.insert k v' := by
  refine Std.ExtTreeMap.ext_getElem? fun j => ?_
  simp only [Std.ExtTreeMap.getElem?_insert]
  split
  case isTrue => rfl
  case isFalse => rfl

/-- Entries with distinct keys go in in either order. -/
theorem insert_comm (m : Std.ExtTreeMap κ α) {k k' : κ} (hk : k ≠ k') (v v' : α) :
    (m.insert k v).insert k' v' = (m.insert k' v').insert k v := by
  refine Std.ExtTreeMap.ext_getElem? fun j => ?_
  simp only [Std.ExtTreeMap.getElem?_insert]
  split
  case isTrue hk' =>
    have hnot : compare k j ≠ .eq := fun h =>
      hk ((Std.LawfulEqOrd.eq_of_compare h).trans (Std.LawfulEqOrd.eq_of_compare hk').symm)
    rw [if_neg hnot]
  case isFalse => rfl

/-- The keys of a map into which entries were put. -/
theorem isSome_foldl_insert_iff {ι : Type} {key : ι → κ} {value : ι → α} (l : List ι)
    (m : Std.ExtTreeMap κ α) (k : κ) :
    (l.foldl (fun m x => m.insert (key x) (value x)) m)[k]?.isSome = true ↔
      m[k]?.isSome = true ∨ ∃ x ∈ l, key x = k := by
  induction l generalizing m with
  | nil => simp
  | cons x l ih =>
      rw [List.foldl_cons, ih, Std.ExtTreeMap.getElem?_insert, List.exists_mem_cons_iff]
      split
      case isTrue h => simp [Std.LawfulEqOrd.eq_of_compare h]
      case isFalse h =>
        have hkey : key x ≠ k := fun heq => h (heq ▸ Std.ReflCmp.compare_self)
        simp [hkey]

/-- **A map of maps** of which one entry is changed. -/
theorem bind_getElem?_alter_alter {ι : Type} [Ord ι] [Std.TransOrd ι] [Std.LawfulEqOrd ι]
    [DecidableEq κ] [DecidableEq ι] (m : Std.ExtTreeMap κ (Std.ExtTreeMap ι α)) (k k' : κ)
    (i i' : ι) (f : Option α → Option α) :
    ((m.alter k fun inner => some ((inner.getD ∅).alter i f))[k']?.bind fun inner => inner[i']?) =
      if (k, i) = (k', i') then f (m[k']?.bind fun inner => inner[i']?)
      else m[k']?.bind fun inner => inner[i']? := by
  rw [Std.ExtTreeMap.getElem?_alter]
  simp only [Std.compare_eq_iff_eq, Prod.mk.injEq]
  by_cases hk : k = k'
  · subst hk
    rw [if_pos rfl, Option.bind_some, Std.ExtTreeMap.getElem?_alter]
    simp only [Std.compare_eq_iff_eq, true_and]
    cases m[k]? with
    | none => simp
    | some inner =>
        by_cases hi : i = i'
        · subst hi
          simp
        · simp [hi]
  · rw [if_neg hk, if_neg fun h => hk h.1]

/-- **A map of entries with distinct keys** does not depend on the order in which they go in. -/
theorem foldl_insert_perm {ι : Type} {key : ι → κ} {value : ι → α} {l l' : List ι} (h : l.Perm l')
    (hkeys : (l.map key).Nodup) (m : Std.ExtTreeMap κ α) :
    l.foldl (fun m x => m.insert (key x) (value x)) m =
      l'.foldl (fun m x => m.insert (key x) (value x)) m := by
  refine h.foldl_eq' (fun x hx y hy m => ?_) m
  by_cases hxy : key x = key y
  · rw [List.inj_on_of_nodup_map hkeys hx hy hxy]
  · exact insert_comm m hxy _ _

/-- The keys of a map, listed in any order and then sorted. -/
theorem mergeSort_keys {m : Std.ExtTreeMap κ α} {ks : List κ} (h : ks.Perm m.keys) :
    ks.mergeSort (fun a b => (compare a b).isLE) = m.keys := by
  have hsorted : (ks.mergeSort fun a b => (compare a b).isLE).Pairwise
      fun a b => (compare a b).isLE = true := by
    refine List.pairwise_mergeSort ?_ ?_ ks
    · intro a b c hab hbc
      exact Std.TransOrd.isLE_trans hab hbc
    · intro a b
      exact Lists.isLE_total compare a b
  refine ((List.mergeSort_perm ks _).trans h).eq_of_pairwise (fun a b _ _ hab hba => ?_) hsorted
    (m.ordered_keys.imp Ordering.isLE_of_eq_lt)
  exact Std.LawfulEqOrd.eq_of_compare (Std.OrientedCmp.isLE_antisymm hab hba)

end Cashbook.Maps
