import Cashbook.Proofs.Maps
import Cashbook.Proofs.Operation.LogOrder
import Cashbook.Report.Run

/-!
# A report does not depend on the order of the data

The data file lists operations, accounts and categories in some order.  A report looks at none of
these lists but through something that has forgotten their order: the log of the operations, which
is sorted (`Operation.sortLog_congr`), and maps by the names of the accounts and of the categories
with a goal (`Maps.foldl_insert_perm`).  This needs that the names are distinct.  Of several
accounts with one name the last one counts, and so does the last of several categories.

The names of categories come out of a map again when a report on goals lists them.  Whatever order
they come out in, the report sorts them (`Goals.mergeSort_categories`).
-/

namespace Cashbook

variable {currency : String} {table : RateTable}

/-- Accounts with distinct names are opened in any order. -/
theorem Balances.create_perm {accounts accounts' : List Account} (h : accounts.Perm accounts')
    (hnames : (accounts.map (·.name)).Nodup) (currency : String) (today : Date)
    (table : RateTable) :
    create accounts currency today table = create accounts' currency today table :=
  congrArg
    (fun holdings => (⟨currency, today, holdings, .empty, none, .create table, none⟩ : Balances))
    (Maps.foldl_insert_perm h hnames ∅)

namespace Goals

/-- The goals of some categories have the names of the categories. -/
theorem sublist_goalOf? (categories : List Category) :
    ((categories.filterMap goalOf?).map (·.1)).Sublist (categories.map (·.name)) := by
  induction categories with
  | nil => exact .slnil
  | cons c categories ih =>
      cases hgoal : goalOf? c with
      | none =>
          rw [List.filterMap_cons_none hgoal]
          exact ih.cons c.name
      | some goal =>
          have hname : goal.1 = c.name := by
            rw [goalOf?, Option.ite_none_right_eq_some, Option.map_eq_some_iff] at hgoal
            obtain ⟨-, v, -, rfl⟩ := hgoal
            rfl
          rw [List.filterMap_cons_some hgoal, List.map_cons, hname]
          exact ih.cons_cons c.name

/-- Categories with distinct names are taken in in any order. -/
theorem create_perm {categories categories' : List Category} (h : categories.Perm categories')
    (hnames : (categories.map (·.name)).Nodup) (currency : String) (table : RateTable) :
    create categories currency table = create categories' currency table :=
  congrArg (fun goals => (⟨currency, .create table, goals, ∅⟩ : Goals))
    (Maps.foldl_insert_perm (h.filterMap goalOf?) (hnames.sublist (sublist_goalOf? categories)) ∅)

/-- The categories with a goal, found in any order and then sorted. -/
theorem mergeSort_categories {g : Goals} {names : List String} (h : names.Perm g.categories) :
    names.mergeSort (fun a b => (compare a b).isLE) = g.categories :=
  Maps.mergeSort_keys h

end Goals

/-- Whether two datasets list the same records, each in its own order, and the names of their
records are distinct. -/
structure Dataset.SameRecords (d d' : Dataset) : Prop where
  operations : d.operations.Perm d'.operations
  accounts : d.accounts.Perm d'.accounts
  categories : d.categories.Perm d'.categories
  nodup_operations : (d.operations.map (·.id)).Nodup
  nodup_accounts : (d.accounts.map (·.name)).Nodup
  nodup_categories : (d.categories.map (·.name)).Nodup

namespace Report

variable {d d' : Dataset}

/-- What a report is made of, read from a dataset that can be read. -/
theorem run_ok (o : Options) (today : Date) (d : Dataset) (tree : Tree) :
    run o today (.ok d) tree = do
      let book ← bookOf o tree
      let predicate ← (Query.parseQuery (o.filter.getD "")).mapError .filter
      let period ← periodOf o today d.store
      let lines ← linesOf o today ⟨d, book, predicate, period⟩
      return String.join (lines.map (· ++ "\n")) := by
  have hdata : (Except.ok d).mapError Failure.data = (pure d : Except Failure Dataset) := rfl
  simp only [run, prepare, hdata, bind_assoc, pure_bind]

theorem store_congr (h : d.SameRecords d') : d'.store = d.store := by
  rw [Dataset.store, Dataset.store, Store.load, Store.load,
    Operation.sortLog_congr h.operations h.nodup_operations]

/-- The lines of a report. -/
theorem linesOf_congr (h : d.SameRecords d') (o : Options) (today : Date) (book : RateBook)
    (predicate : Predicate) (period : Option Period) :
    linesOf o today ⟨d', book, predicate, period⟩ =
      linesOf o today ⟨d, book, predicate, period⟩ := by
  have hsweep {σ : Type} [Reducer σ] (s : σ) :
      Input.sweep ⟨d', book, predicate, period⟩ today s =
        Input.sweep ⟨d, book, predicate, period⟩ today s := by
    rw [Input.sweep, Input.sweep, store_congr h]
  rw [linesOf, linesOf]
  cases o.command with
  | summary => simp only [hsweep]
  | accounts => simp only [hsweep, Balances.create_perm h.accounts h.nodup_accounts]
  | compare => simp only [hsweep]
  | goals => simp only [hsweep, Goals.create_perm h.categories h.nodup_categories]

/-- **A report does not depend on the order of the data.**  Datasets that list the same records with
distinct names have the same reports, and fail with the same errors; and a report on goals would be
the same in whatever order the categories with a goal were found. -/
theorem run_eq_of_sameRecords (h : d.SameRecords d') :
    (∀ o today tree, run o today (.ok d') tree = run o today (.ok d) tree) ∧
      (∀ o today book predicate period,
        linesOf o today ⟨d', book, predicate, period⟩ =
          linesOf o today ⟨d, book, predicate, period⟩) ∧
      ∀ (g : Goals) (year : Int) (names : List String), names.Perm g.categories →
        (names.mergeSort fun a b => (compare a b).isLE).mapM (goalLine g year) =
          goalsLines g year := by
  refine ⟨fun o today tree => ?_, linesOf_congr h, fun g year names hnames => ?_⟩
  · simp only [run_ok, store_congr h, linesOf_congr h]
  · rw [Goals.mergeSort_categories hnames, goalsLines]

/-- Two operations, accounts and categories, listed forwards and backwards. -/
theorem run_eq_of_backwards :
    let written : Timestamp := ⟨.first, 0, 0⟩
    let pay : Operation :=
      .income ⟨"pay", written, .first, "EUR", (2 : Float).toBits, [], none⟩
        ⟨"bank", 2⟩ [⟨"work", 2⟩]
    let rent : Operation :=
      .expense ⟨"rent", written, .first, "EUR", (-1 : Float).toBits, [], none⟩
        ⟨"cash", -1⟩ [⟨"home", -1⟩]
    let bank : Account := .create "bank" "EUR" written
    let cash : Account := .create "cash" "EUR" written
    let work : Category := (Category.create "work" "EUR" written).withGoal 2
    let home : Category := (Category.create "home" "EUR" written).withGoal 1
    let forwards : Dataset := ⟨[bank, cash], [work, home], [pay, rent]⟩
    let backwards : Dataset := ⟨[cash, bank], [home, work], [rent, pay]⟩
    forwards.SameRecords backwards ∧
      ∀ command,
        let o : Options := { Options.initial command with data := "data.json", currency := "EUR" }
        run o .first (.ok backwards) [] = run o .first (.ok forwards) [] := by
  intro written pay rent bank cash work home forwards backwards
  have hsame : forwards.SameRecords backwards :=
    ⟨.swap rent pay [], .swap cash bank [], .swap home work [], by decide, by decide, by decide⟩
  exact ⟨hsame, fun command => (run_eq_of_sameRecords hsame).1 _ _ _⟩

end Report

end Cashbook
