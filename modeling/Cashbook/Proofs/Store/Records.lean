import Cashbook.Proofs.Maps
import Cashbook.Proofs.Operation.LogOrder
import Cashbook.Proofs.Operation.Weight

/-!
# One merge

`Store.merge` collects the log into a map by name, lets the incoming records in one by one, and
lists the map as the new log.  Seen from one name this is simple: the map has the last record of the
log with that name (`getElem?_byId`), and each incoming record with that name takes its place if it
weighs more.  What is left is the first of the heaviest (`getElem?_received`).

The other half of the file is about the way back from the map to a log.  A map by name lists each
name once, so whatever order it is listed in, sorting gives one and the same log
(`IsKeyed.sortLog_eq`); `IsTidy` is what such a log is like.

`changes_eq_zero_iff` says that a merge counts no changes only if there are none.  A record is never
replaced by a lighter one, so that a change that has been made is not undone.
-/

namespace Cashbook

namespace Store

open Operation

/-! ### The map of a log -/

/-- The last record of a log with a name. -/
def lastOf? (log : List Operation) (id : String) : Option Operation :=
  log.reverse.find? (·.id = id)

theorem id_of_lastOf? {log : List Operation} {id : String} {op : Operation}
    (h : lastOf? log id = some op) : op.id = id := by
  simpa using List.find?_some h

theorem mem_of_lastOf? {log : List Operation} {id : String} {op : Operation}
    (h : lastOf? log id = some op) : op ∈ log :=
  List.mem_reverse.1 (List.mem_of_find?_eq_some h)

theorem lastOf?_eq_none_iff {log : List Operation} {id : String} :
    lastOf? log id = none ↔ id ∉ log.map (·.id) := by
  simp [lastOf?]

/-- In a log with distinct names every record is the last one of its name. -/
theorem lastOf?_eq_some_iff {log : List Operation} (hids : (log.map (·.id)).Nodup) {id : String}
    {op : Operation} : lastOf? log id = some op ↔ op ∈ log ∧ op.id = id := by
  refine ⟨fun h => ⟨mem_of_lastOf? h, id_of_lastOf? h⟩, ?_⟩
  rintro ⟨hop, rfl⟩
  cases hlast : lastOf? log op.id with
  | none => exact absurd (List.mem_map_of_mem hop) (lastOf?_eq_none_iff.1 hlast)
  | some other =>
      have heq : other = op :=
        List.inj_on_of_nodup_map hids (mem_of_lastOf? hlast) hop (id_of_lastOf? hlast)
      rw [heq]

/-- **The records of a log by name** are the last ones with each name. -/
theorem getElem?_byId (log : List Operation) (id : String) : (byId log)[id]? = lastOf? log id := by
  induction log using List.reverseRecOn with
  | nil => exact Std.ExtTreeMap.getElem?_empty
  | append_singleton log op ih =>
      have hlast : lastOf? (log ++ [op]) id = if op.id = id then some op else lastOf? log id := by
        simp only [lastOf?, List.reverse_append, List.reverse_singleton, List.singleton_append,
          List.find?_cons]
        by_cases h : op.id = id <;> simp [h]
      rw [hlast, byId, List.foldl_append, ← byId, List.foldl_cons, List.foldl_nil,
        Std.ExtTreeMap.getElem?_insert, ih]
      simp only [Std.LawfulEqOrd.compare_eq_iff_eq]

/-! ### Letting records in -/

/-- The heavier of the record known under a name, if there is one, and one more. -/
def heavier (known : Option Operation) (new : Operation) : Option Operation :=
  List.argAux (fun a b => b.weight < a.weight) known new

theorem heavier_eq (known : Option Operation) (new : Operation) :
    heavier known new = if supersedes new known then some new else known := by
  cases known with
  | none => rfl
  | some known => simp only [heavier, List.argAux, supersedes_some_iff]

/-- One record that comes in. -/
theorem getElem?_receive (state : ById × Nat) (op : Operation) (id : String) :
    (receive state op).1[id]? =
      if op.id = id then heavier state.1[id]? op else state.1[id]? := by
  rw [receive, heavier_eq]
  by_cases hid : op.id = id
  · subst hid
    cases supersedes op state.1[op.id]? <;> simp
  · cases supersedes op state.1[op.id]? <;> simp [hid, Std.ExtTreeMap.getElem?_insert]

/-- **All records that come in.**  Under each name only those with that name count. -/
theorem getElem?_received (incoming : List Operation) (state : ById × Nat) (id : String) :
    (incoming.foldl receive state).1[id]? =
      (incoming.filter (·.id = id)).foldl heavier state.1[id]? := by
  induction incoming generalizing state with
  | nil => rfl
  | cons op incoming ih =>
      rw [List.foldl_cons, ih, getElem?_receive]
      by_cases hid : op.id = id <;> simp [hid]

/-! ### From the map to a log -/

/-- Whether every record of a map stands under its own name. -/
def IsKeyed (records : ById) : Prop :=
  ∀ (id : String) (op : Operation), records[id]? = some op → op.id = id

theorem isKeyed_byId (log : List Operation) : IsKeyed (byId log) := by
  intro id op h
  rw [getElem?_byId] at h
  exact id_of_lastOf? h

theorem IsKeyed.receive {state : ById × Nat} (h : IsKeyed state.1) (op : Operation) :
    IsKeyed (receive state op).1 := by
  intro id other hother
  rw [getElem?_receive, heavier_eq] at hother
  split at hother
  case isTrue hid =>
    split at hother
    · cases hother
      exact hid
    · exact h id other hother
  case isFalse => exact h id other hother

theorem IsKeyed.received {state : ById × Nat} (h : IsKeyed state.1) (incoming : List Operation) :
    IsKeyed (incoming.foldl Store.receive state).1 := by
  induction incoming generalizing state with
  | nil => exact h
  | cons op incoming ih => exact ih (h.receive op)

/-- The records of a map are listed under the names they have. -/
theorem IsKeyed.map_id_values {records : ById} (h : IsKeyed records) :
    records.values.map (·.id) = records.keys := by
  rw [Maps.values_eq, List.map_map, ← Std.ExtTreeMap.map_fst_toList_eq_keys]
  refine List.map_congr_left fun x hx => ?_
  exact h x.1 x.2 (Std.ExtTreeMap.mem_toList_iff_getElem?_eq_some.1 hx)

theorem IsKeyed.nodup_values {records : ById} (h : IsKeyed records) :
    (records.values.map (·.id)).Nodup := by
  rw [h.map_id_values]
  exact Std.ExtTreeMap.nodup_keys

theorem IsKeyed.mem_values_iff {records : ById} (h : IsKeyed records) {op : Operation} :
    op ∈ records.values ↔ records[op.id]? = some op := by
  rw [Maps.values_eq, List.mem_map]
  constructor
  · rintro ⟨⟨id, other⟩, hmem, rfl⟩
    have hget := Std.ExtTreeMap.mem_toList_iff_getElem?_eq_some.1 hmem
    rwa [← h id other hget] at hget
  · intro hget
    exact ⟨(op.id, op), Std.ExtTreeMap.mem_toList_iff_getElem?_eq_some.2 hget, rfl⟩

/-- Whether a log is in order and has one record for each name. -/
structure IsTidy (log : List Operation) : Prop where
  /-- No record may not stand before a later one. -/
  sorted : log.Pairwise fun a b => a.notAfter b = true
  /-- No name occurs twice. -/
  nodup : (log.map (·.id)).Nodup

theorem isTidy_sortLog {ops : List Operation} (h : (ops.map (·.id)).Nodup) :
    IsTidy (sortLog ops) where
  sorted := pairwise_sortLog ops
  nodup := ((sortLog_perm ops).map _).nodup_iff.2 h

/-- **Listing a map** in whatever order gives one log. -/
theorem IsKeyed.sortLog_eq {records : ById} (h : IsKeyed records) {listed : List Operation}
    (hlisted : listed.Perm records.values) : sortLog listed = sortLog records.values :=
  sortLog_congr hlisted ((hlisted.map _).nodup_iff.2 h.nodup_values)

/-- The log of a map has under each name what the map has there. -/
theorem IsKeyed.lastOf?_sortLog {records : ById} (h : IsKeyed records) (id : String) :
    lastOf? (sortLog records.values) id = records[id]? := by
  have htidy := isTidy_sortLog h.nodup_values
  refine Option.ext fun op => ?_
  rw [lastOf?_eq_some_iff htidy.nodup, (sortLog_perm _).mem_iff, h.mem_values_iff]
  constructor
  · rintro ⟨hget, rfl⟩
    exact hget
  · intro hget
    have hid := h id op hget
    subst hid
    exact ⟨hget, rfl⟩

/-- Tidy logs that have the same under each name are equal. -/
theorem IsTidy.ext {log log' : List Operation} (h : IsTidy log) (h' : IsTidy log')
    (hsame : ∀ id, lastOf? log id = lastOf? log' id) : log = log' := by
  have hmem : ∀ op, op ∈ log ↔ op ∈ log' := by
    intro op
    have hlog : lastOf? log op.id = some op ↔ op ∈ log ∧ op.id = op.id :=
      lastOf?_eq_some_iff h.nodup
    have hlog' : lastOf? log' op.id = some op ↔ op ∈ log' ∧ op.id = op.id :=
      lastOf?_eq_some_iff h'.nodup
    rw [hsame, hlog'] at hlog
    simpa using hlog.symm
  have hperm : log.Perm log' :=
    (List.perm_ext_iff_of_nodup (.of_map _ h.nodup) (.of_map _ h'.nodup)).2 hmem
  rw [eq_sortLog_of_perm (.refl log) h.sorted h.nodup,
    eq_sortLog_of_perm (.refl log') h'.sorted h'.nodup, sortLog_congr hperm h.nodup]

/-! ### Counting changes -/

/-- How much weighs what is known under a name, nothing weighing the least. -/
def weightOf? (known : Option Operation) : WithBot (WithTop (ℤ ×ₗ ℕ ×ₗ ℕ)) :=
  known.elim ⊥ fun op => op.weight

theorem supersedes_iff (new : Operation) (known : Option Operation) :
    supersedes new known = true ↔ weightOf? known < new.weight := by
  cases known with
  | none => simp [supersedes, weightOf?]
  | some known => simp [supersedes_some_iff, weightOf?]

/-- Whether under each name there is something at least as heavy as before, and something heavier
under one name at least if there have been changes. -/
structure Grows (before after : ById × Nat) : Prop where
  /-- Nothing is replaced by something lighter. -/
  le : ∀ id : String, weightOf? before.1[id]? ≤ weightOf? after.1[id]?
  /-- Either nothing has been changed, or something is heavier. -/
  changed : after = before ∨
    (before.2 < after.2 ∧ ∃ id : String, weightOf? before.1[id]? < weightOf? after.1[id]?)

theorem Grows.refl (state : ById × Nat) : Grows state state := ⟨fun _ => le_rfl, .inl rfl⟩

theorem Grows.trans {s t u : ById × Nat} (hst : Grows s t) (htu : Grows t u) : Grows s u where
  le id := (hst.le id).trans (htu.le id)
  changed := by
    rcases hst.changed with rfl | ⟨hcount, id, hlt⟩
    · exact htu.changed
    · refine .inr ⟨?_, id, hlt.trans_le (htu.le id)⟩
      rcases htu.changed with rfl | ⟨hmore, -⟩
      · exact hcount
      · exact hcount.trans hmore

theorem grows_receive (state : ById × Nat) (op : Operation) : Grows state (receive state op) := by
  cases hnew : supersedes op state.1[op.id]? with
  | false =>
      have hsame : receive state op = state := by simp [receive, hnew]
      rw [hsame]
      exact .refl state
  | true =>
      have hlt := (supersedes_iff op _).1 hnew
      have hreceive : receive state op = (state.1.insert op.id op, state.2 + 1) := by
        simp [receive, hnew]
      have hself : weightOf? (receive state op).1[op.id]? = op.weight := by
        simp [hreceive, weightOf?]
      refine ⟨fun id => ?_, .inr ⟨by simp [hreceive], op.id, hself ▸ hlt⟩⟩
      by_cases hid : op.id = id
      · subst hid
        exact hself ▸ hlt.le
      · simp [hreceive, Std.ExtTreeMap.getElem?_insert, hid]

theorem grows_received (incoming : List Operation) (state : ById × Nat) :
    Grows state (incoming.foldl receive state) := by
  induction incoming generalizing state with
  | nil => exact .refl state
  | cons op incoming ih => exact (grows_receive state op).trans (ih _)

/-! ### The whole merge -/

/-- The records and the count after `incoming` has come in. -/
def received (log incoming : List Operation) : ById × Nat :=
  incoming.foldl receive (byId log, 0)

theorem isKeyed_received (log incoming : List Operation) : IsKeyed (received log incoming).1 :=
  (isKeyed_byId log).received incoming

/-- **What a merge gives.** -/
theorem merge_eq (log incoming : List Operation) :
    merge ⟨some log⟩ incoming =
      .ok ((received log incoming).2, load (received log incoming).1.values) := rfl

/-- The log after a merge, under one name. -/
theorem lastOf?_merged (log incoming : List Operation) (id : String) :
    lastOf? (sortLog (received log incoming).1.values) id =
      (incoming.filter (·.id = id)).foldl heavier (lastOf? log id) := by
  rw [(isKeyed_received log incoming).lastOf?_sortLog, received, getElem?_received, getElem?_byId]

/-- **A merge counts no changes** exactly if it leaves a tidy log as it was. -/
theorem changes_eq_zero_iff {log : List Operation} (h : IsTidy log) (incoming : List Operation) :
    (received log incoming).2 = 0 ↔ sortLog (received log incoming).1.values = log := by
  have hkeyed := isKeyed_received log incoming
  rcases (grows_received incoming (byId log, 0)).changed with hsame | ⟨hcount, id, hlt⟩
  · refine ⟨fun _ => ?_, fun _ => congrArg Prod.snd hsame⟩
    refine (isTidy_sortLog hkeyed.nodup_values).ext h fun id => ?_
    rw [hkeyed.lastOf?_sortLog, ← getElem?_byId]
    exact congrArg (fun state : ById × Nat => state.1[id]?) hsame
  · refine ⟨fun hzero => absurd hzero (Nat.ne_of_gt hcount), fun hlog => ?_⟩
    -- something is heavier than before, so the logs differ under its name
    have hget : (received log incoming).1[id]? = (byId log)[id]? := by
      rw [getElem?_byId, ← hkeyed.lastOf?_sortLog, hlog]
    exact absurd (hget ▸ hlt) (lt_irrefl _)

end Store

end Cashbook
