import Cashbook.Proofs.Store.Amending

/-!
# Which operations a renaming marks as modified

A renaming sets the time of the operations that refer to the old name, whether to accounts or to
categories, and leaves all others as they are.  It does not look at the new name.  So a renaming to
another name marks exactly the operations that refer to something else afterwards, and a renaming of
a name to itself marks operations in which nothing has changed.

* `Bearer` — accounts and categories as what bears a name, so that there is one renaming to speak
  of.
* `Bearer.withName_eq` — what becomes of one operation, and `Bearer.isStamped_iff` — which
  operations are marked.
* `Store.renaming_stamps_references` — when the operations that are marked and counted are those
  that are changed, and `Store.not_only_changes_stamped` — that they are not always.
-/

namespace Cashbook

variable {old new : String}

theorem renamed_self (old name : String) : renamed old old name = name := by
  rw [renamed]
  split
  case isTrue h => exact h.symm
  case isFalse => rfl

/-- Names stay what they are unless the old one is among them and the new one is another. -/
theorem map_renamed_eq_self_iff {names : List String} :
    names.map (renamed old new) = names ↔ (old ∈ names → old = new) := by
  constructor
  · intro h hmem
    -- the old name is still there, and it has become the new one
    rw [← h, List.mem_map] at hmem
    obtain ⟨name, -, hname⟩ := hmem
    rw [renamed] at hname
    split at hname
    case isTrue => exact hname.symm
    case isFalse hne => exact absurd hname hne
  · intro h
    refine (List.map_congr_left fun name hname => ?_).trans (List.map_id names)
    rw [renamed]
    split
    case isTrue heq =>
      subst heq
      exact (h hname).symm
    case isFalse => rfl

open Operation Store

/-- What bears a name that operations refer to. -/
inductive Bearer
  /-- An account, which the sides of an operation name. -/
  | account
  /-- A category, which the splits of an operation name. -/
  | category
  deriving DecidableEq

namespace Bearer

/-- The names that an operation has for accounts, or for categories. -/
def names : Bearer → Operation → List String
  | account, op => op.sides.map (·.name)
  | category, op => (op.splits?.getD []).map (·.name)

/-- Applies `f` to these names. -/
def mapNames : Bearer → (String → String) → Operation → Operation
  | account => mapAccounts
  | category => mapCategories

/-- The operation after the name `old` has become `new`, if the operation refers to it. -/
def rename? : Bearer → String → String → Operation → Option Operation
  | account => renameAccount?
  | category => renameCategory?

/-- The operation after the name `old` has become `new` at `now`. -/
def withName (b : Bearer) (old new : String) (now : Timestamp) : Operation → Operation :=
  amended now (b.rename? old new)

/-- Whether a renaming marks an operation as modified: it gives the operation the time of the
renaming, whatever that time is. -/
def IsStamped (b : Bearer) (old new : String) (op : Operation) : Prop :=
  ∀ now, (b.withName old new now op).lastModified? = some now

/-! ### One operation -/

section

variable (b : Bearer) (old new : String) (now : Timestamp) (op : Operation)

theorem names_mapNames (f : String → String) : b.names (b.mapNames f op) = (b.names op).map f := by
  cases b with
  | account =>
      rw [mapNames, names, names, sides_mapAccounts, List.map_map, List.map_map]
      rfl
  | category =>
      rw [mapNames, names, names, splits?_mapCategories]
      cases op.splits? with
      | none => rfl
      | some splits =>
          rw [Option.map_some, Option.getD_some, Option.getD_some, List.map_map, List.map_map]
          rfl

theorem mapNames_eq_self {f : String → String} (hf : ∀ name, f name = name) :
    b.mapNames f op = op := by
  cases b <;> cases op <;> simp [mapNames, mapAccounts, mapCategories, hf]

theorem names_touch : b.names (op.touch now) = b.names op := by
  cases b with
  | account => rw [names, names, sides_touch]
  | category => rw [names, names, splits?_touch]

/-- Nothing but the old name decides whether an operation is renamed. -/
theorem rename?_eq :
    b.rename? old new op =
      if old ∈ b.names op then some (b.mapNames (renamed old new) op) else none := by
  cases b with
  | account =>
      have hmem : old ∈ account.names op ↔ op.touchesAccount old = true := by
        simp [names, touchesAccount]
      simp only [hmem]
      rfl
  | category =>
      have hmem : old ∈ category.names op ↔ op.hasCategory old = true := by
        simp [names, hasCategory]
      simp only [hmem]
      rfl

/-- **One operation.**  If it refers to the old name it is renamed and marked, and otherwise it
stays as it is. -/
theorem withName_eq :
    b.withName old new now op =
      if old ∈ b.names op then (b.mapNames (renamed old new) op).touch now else op := by
  rw [withName, amended, rename?_eq]
  by_cases h : old ∈ b.names op <;> simp only [h, if_true, if_false]

/-- The names follow. -/
theorem names_withName :
    b.names (b.withName old new now op) = (b.names op).map (renamed old new) := by
  rw [withName_eq]
  split
  case isTrue => rw [names_touch, names_mapNames]
  case isFalse h => exact (map_renamed_eq_self_iff.2 fun hmem => absurd hmem h).symm

/-- What is renamed is a version of what there was. -/
theorem sameEntry_withName : SameEntry op (b.withName old new now op) := by
  cases b with
  | account =>
      show SameEntry op (amended now (·.renameAccount? old new) op)
      rw [amended_renameAccount?]
      exact sameEntry_withAccount old new now op
  | category =>
      show SameEntry op (amended now (·.renameCategory? old new) op)
      rw [amended_renameCategory?]
      exact sameEntry_withCategory old new now op

end

variable {b : Bearer} {op op' : Operation}

/-- Only a live operation names anything. -/
theorem isDeleted_of_mem_names {name : String} (h : name ∈ b.names op) : op.isDeleted = false := by
  cases op with
  | deleted id => cases b <;> cases h
  | _ => rfl

/-- An operation that refers to the old name gets the time of the renaming. -/
theorem lastModified?_withName (h : old ∈ b.names op) (now : Timestamp) :
    (b.withName old new now op).lastModified? = some now := by
  rw [withName_eq, if_pos h]
  cases op with
  | deleted id => cases isDeleted_of_mem_names h
  | _ => cases b <;> rfl

theorem withName_of_not_mem (h : old ∉ b.names op) (now : Timestamp) :
    b.withName old new now op = op := by
  rw [withName_eq, if_neg h]

/-- **A renaming marks what refers to the old name.** -/
theorem isStamped_iff : b.IsStamped old new op ↔ old ∈ b.names op := by
  refine ⟨fun h => ?_, fun h now => lastModified?_withName h now⟩
  by_contra hnot
  -- the time of an operation that is left alone is not that of two renamings
  have hearly := h ⟨.first, 0, 0⟩
  have hlate := h ⟨.first, 1, 0⟩
  rw [withName_of_not_mem hnot] at hearly hlate
  exact absurd (hearly.symm.trans hlate) (by decide)

theorem isSome_rename?_iff : (b.rename? old new op).isSome = true ↔ b.IsStamped old new op := by
  rw [isStamped_iff, rename?_eq]
  by_cases h : old ∈ b.names op <;> simp [h]

/-- **A renaming changes the names** of what it marks, unless the new name is the old one. -/
theorem names_withName_ne_iff {now : Timestamp} :
    b.names (b.withName old new now op) ≠ b.names op ↔ b.IsStamped old new op ∧ old ≠ new := by
  rw [names_withName, Ne, map_renamed_eq_self_iff, isStamped_iff, Classical.not_imp]

/-- What an operation is renamed to is another operation, unless the new name is the old one. -/
theorem ne_of_rename?_iff (h : b.rename? old new op = some op') : op' ≠ op ↔ old ≠ new := by
  rw [rename?_eq] at h
  split at h
  case isFalse => cases h
  case isTrue hmem =>
    cases h
    refine not_congr ⟨fun heq => ?_, ?_⟩
    · have hnames := congrArg b.names heq
      rw [names_mapNames] at hnames
      exact map_renamed_eq_self_iff.1 hnames hmem
    · rintro rfl
      exact b.mapNames_eq_self op (renamed_self old)

end Bearer

/-! ### The whole log -/

namespace Store

/-- Points every operation that refers to the old name of a bearer at its new one. -/
def rename (s : Store) (b : Bearer) (old new : String) (now : Timestamp) :
    Except Error (Nat × Store) :=
  match b with
  | .account => s.renameAccount old new now
  | .category => s.renameCategory old new now

theorem rename_load (b : Bearer) (ops : List Operation) (old new : String) (now : Timestamp) :
    (load ops).rename b old new now =
      .ok ((sortLog ops).countP (old ∈ b.names ·),
        ⟨some ((sortLog ops).map (b.withName old new now))⟩) := by
  have hamend : (load ops).rename b old new now = (load ops).amend now (b.rename? old new) := by
    cases b <;> rfl
  have hlog : sortLog ((sortLog ops).map (b.withName old new now)) =
      (sortLog ops).map (b.withName old new now) :=
    sortLog_map_sortLog (b.sameEntry_withName old new now)
  have hsome (op : Operation) : (b.rename? old new op).isSome = decide (old ∈ b.names op) := by
    rw [Bool.eq_iff_iff, Bearer.isSome_rename?_iff, Bearer.isStamped_iff, decide_eq_true_iff]
  rw [hamend]
  show Except.ok ((sortLog ops).countP fun op => (b.rename? old new op).isSome, load _) = _
  simp only [hsome]
  exact congrArg (fun log => Except.ok (_, (⟨some log⟩ : Store))) hlog

/-- The operations of a log that refer to something else after a renaming are counted by it, unless
the new name is the old one and an operation refers to it. -/
theorem countP_names_withName_iff {b : Bearer} {old new : String} {now : Timestamp}
    {log : List Operation} :
    log.countP (fun op => b.names (b.withName old new now op) ≠ b.names op) =
        log.countP (old ∈ b.names ·) ↔
      (old = new → ∀ op ∈ log, old ∉ b.names op) := by
  simp only [Bearer.names_withName_ne_iff, Bearer.isStamped_iff]
  by_cases h : old = new
  · have hnone : log.countP (fun op => decide (old ∈ b.names op ∧ old ≠ new)) = 0 := by
      simp [h]
    rw [hnone, eq_comm, List.countP_eq_zero]
    simp [h]
  · simp [h]

/-- **What a renaming marks.**  In a log that has been loaded, renaming an account or a category
marks and counts the operations that refer to the old name.  All others stay as they are, and those
that are marked stay what they were up to their names and their time.  What is marked refers to
something else afterwards unless the new name is the old one, and what is counted has been changed
unless the new name is the old one and an operation refers to it. -/
theorem renaming_stamps_references (b : Bearer) (ops : List Operation) (old new : String)
    (now : Timestamp) :
    let log := sortLog ops
    let after := log.map (b.withName old new now)
    ∃ count, (load ops).rename b old new now = .ok (count, ⟨some after⟩) ∧
      count = log.countP (old ∈ b.names ·) ∧
      (log.countP (fun op => b.names (b.withName old new now op) ≠ b.names op) = count ↔
        (old = new → ∀ op ∈ log, old ∉ b.names op)) ∧
      ∀ op : Operation, let op' := b.withName old new now op
        (b.IsStamped old new op ↔ old ∈ b.names op) ∧
        (¬ b.IsStamped old new op → op' = op) ∧
        SameEntry op op' ∧ b.names op' = (b.names op).map (renamed old new) ∧
        (b.names op' ≠ b.names op ↔ b.IsStamped old new op ∧ old ≠ new) ∧
        ((b.rename? old new op).isSome = true ↔ b.IsStamped old new op) ∧
        ∀ other, b.rename? old new op = some other → (other ≠ op ↔ old ≠ new) := by
  intro log after
  refine ⟨_, rename_load b ops old new now, rfl, countP_names_withName_iff, fun op => ?_⟩
  refine ⟨Bearer.isStamped_iff, fun h => ?_, b.sameEntry_withName old new now op,
    b.names_withName old new now op, Bearer.names_withName_ne_iff, Bearer.isSome_rename?_iff,
    fun other => Bearer.ne_of_rename?_iff⟩
  rw [Bearer.isStamped_iff] at h
  exact Bearer.withName_of_not_mem h now

/-- It is not so that only operations that refer to something else are marked: a renaming of an
account to its own name marks those that refer to it. -/
theorem not_only_changes_stamped :
    ¬ ∀ (ops : List Operation) (old new : String) (now : Timestamp), ∃ count after,
        (load ops).renameAccount old new now = .ok (count, ⟨some after⟩) ∧
          List.Forall₂ (fun op op' : Operation => op'.lastModified? ≠ op.lastModified? →
            op'.sides.map (·.name) ≠ op.sides.map (·.name)) (sortLog ops) after := by
  intro h
  let rent : Operation :=
    .adjustment ⟨"rent", ⟨.first, 0, 0⟩, .first, "EUR", (1 : Float).toBits, [], none⟩ ⟨"cash", 1⟩
  have hsort : sortLog [rent] = [rent] := List.mergeSort_singleton rent
  obtain ⟨count, after, hrename, hmarked⟩ := h [rent] "cash" "cash" ⟨.first, 1, 0⟩
  rw [renameAccount_load, hsort] at hrename
  cases hrename
  rw [hsort] at hmarked
  exact (List.forall₂_cons.1 hmarked).1 (by decide) rfl

end Store

end Cashbook
