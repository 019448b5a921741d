import Cashbook.Proofs.Stats.Parts
import Cashbook.Proofs.Stats.Recounting
import Cashbook.Proofs.Store.History
import Cashbook.Stats.Count
import Cashbook.Stats.Goals

/-!
# What was spent on the goals

Goals look at the shares of an operation, one after the other, and book those of categories with a
goal, each converted at the rate of its day.  So what they hold is known from the shares that they
have been handed, in one list over all operations (`Operation.sharesOf`): it is the sum for every
name and year.

* `Share` — a part of an income or an expense, with the head that it takes its day and currency
  from.
* `Goals.IsMadeOf` — what goals hold that have been handed some shares.
* `Goals.bookSplits_spec` — the shares of one operation: the first one without a rate is refused,
  and otherwise all are booked.  The induction is on the shares, and every share of an operation may
  be the one that fails, so that failure and success are one statement.
* `Goals.spending_recounted` — what a sweep makes of goals, and when it fails for them.
-/

namespace Cashbook

open BucketedSeries Operation Sweep

/-! ### Shares -/

/-- A part of an income or an expense. -/
structure Share where
  /-- What it has in common with the other parts. -/
  head : Head
  /-- The category and the amount. -/
  split : Split

namespace Share

variable {table : RateTable} {currency : String} {s : Share}

/-- Whether a share belongs to a category and a year. -/
def IsOf (name : String) (year : Int) (s : Share) : Prop :=
  s.split.name = name ∧ s.head.date.year = year

instance (name : String) (year : Int) : DecidablePred (IsOf name year) := fun s =>
  inferInstanceAs (Decidable (s.split.name = name ∧ s.head.date.year = year))

/-- Whether the category of a share has a goal. -/
def hasGoal (goals : Std.ExtTreeMap String Float) (s : Share) : Bool := goals[s.split.name]?.isSome

/-- The amount of a share in a currency, where a rate that is missing counts as zero. -/
def amountIn (table : RateTable) (currency : String) (s : Share) : Float :=
  s.split.amount * (table s.head.date s.head.currency currency).toOption.getD 0

theorem amountIn_eq {rate : Float} (h : table s.head.date s.head.currency currency = .ok rate) :
    s.amountIn table currency = s.split.amount * rate := by
  rw [amountIn, h]
  rfl

/-- Why a share has no amount in a currency, if it has none. -/
def missing? (table : RateTable) (currency : String) (s : Share) : Option RateError :=
  match table s.head.date s.head.currency currency with
  | .error e => some e
  | .ok _ => none

theorem missing?_eq_some_iff {e : RateError} :
    s.missing? table currency = some e ↔
      table s.head.date s.head.currency currency = .error e := by
  rw [missing?]
  split
  case h_1 h => simp [h]
  case h_2 h => simp [h]

theorem missing?_eq_none_iff :
    s.missing? table currency = none ↔
      ∃ rate, table s.head.date s.head.currency currency = .ok rate := by
  rw [missing?]
  split
  case h_1 h => simp [h]
  case h_2 h => simp [h]

end Share

/-- The shares of an operation. -/
def Operation.shares : Operation → List Share
  | income h _ splits => splits.map (Share.mk h)
  | expense h _ splits => splits.map (Share.mk h)
  | _ => []

/-- The shares of an operation that belong to categories with a goal. -/
def Operation.sharesOf (goals : Std.ExtTreeMap String Float) (op : Operation) : List Share :=
  op.shares.filter (·.hasGoal goals)

namespace Goals

variable {goals : Std.ExtTreeMap String Float} {table : RateTable} {currency : String}
  {shares : List Share} {g : Goals} {h : Head} {split : Split}

/-! ### One operation -/

/-- The amount booked on a category in a year, if there is one. -/
def bookedOn? (g : Goals) (name : String) (year : Int) : Option Float :=
  g.booked[name]?.bind fun years => years[year]?

/-- Whether goals hold the sums of some shares. -/
structure IsMadeOf (goals : Std.ExtTreeMap String Float) (table : RateTable) (currency : String)
    (shares : List Share) (g : Goals) : Prop where
  currency_eq : g.currency = currency
  goals_eq : g.goals = goals
  isFaithful : g.rates.IsFaithful table
  exists_rate : ∀ s ∈ shares, ∃ rate, table s.head.date s.head.currency currency = .ok rate
  entry_eq : ∀ name year, g.bookedOn? name year =
    entryOf ((shares.filter fun s => s.IsOf name year).map (·.amountIn table currency))

theorem isMadeOf_create (categories : List Category) (currency : String) (table : RateTable) :
    (create categories currency table).IsMadeOf (create categories currency table).goals table
      currency [] where
  currency_eq := rfl
  goals_eq := rfl
  isFaithful := RateCache.isFaithful_create table
  exists_rate _ hs := absurd hs List.not_mem_nil
  entry_eq name year := by
    rw [bookedOn?, create, Std.ExtTreeMap.getElem?_empty]
    rfl

/-- **One share more**, if its rate is there. -/
theorem IsMadeOf.book {rates : RateCache} {v : Float}
    (hself : ∀ date currency, table date currency currency = .ok 1)
    (hg : g.IsMadeOf goals table currency shares)
    (hv : g.rates.convert h.date split.amount h.currency g.currency = (.ok v, rates)) :
    ({ g with rates := rates }.book split.name h.date.year v).IsMadeOf goals table currency
      (shares ++ [Share.mk h split]) := by
  rw [hg.currency_eq] at hv
  obtain ⟨rate, htable, rfl, hfaithful⟩ := RateCache.convert_eq_ok hself hg.isFaithful hv
  refine ⟨hg.currency_eq, hg.goals_eq, hfaithful, fun s hs => ?_, fun name year => ?_⟩
  · rcases List.mem_append.1 hs with hs | hs
    · exact hg.exists_rate s hs
    · cases List.mem_singleton.1 hs
      exact ⟨rate, htable⟩
  · have hamount : Share.amountIn table currency ⟨h, split⟩ = split.amount * rate :=
      Share.amountIn_eq htable
    refine (Maps.bind_getElem?_alter_alter g.booked split.name name h.date.year year
      (increase (split.amount * rate))).trans ?_
    rw [List.filter_append, List.map_append, List.filter_singleton]
    by_cases hof : Share.IsOf name year ⟨h, split⟩
    · rw [decide_eq_true hof, if_pos (Prod.ext hof.1 hof.2), cond_true, List.map_singleton, hamount,
        entryOf_concat, ← hg.entry_eq]
      rfl
    · rw [decide_eq_false hof, if_neg fun heq => hof (Prod.mk.inj heq), cond_false, List.map_nil,
        List.append_nil]
      exact hg.entry_eq name year

/-- **The shares of an operation** that belong to categories with a goal are booked, up to the first
one that has no rate. -/
theorem bookSplits_spec (hself : ∀ date currency, table date currency currency = .ok 1)
    (hg : g.IsMadeOf goals table currency shares) (h : Head) (splits : List Split) :
    let more := (splits.map (Share.mk h)).filter (·.hasGoal goals)
    (g.bookSplits h splits).error = (more.findSome? (·.missing? table currency)).map .rate ∧
      ((g.bookSplits h splits).error = none →
        (g.bookSplits h splits).state.IsMadeOf goals table currency (shares ++ more)) := by
  induction splits generalizing g shares with
  | nil => exact ⟨rfl, fun _ => (List.append_nil shares).symm ▸ hg⟩
  | cons split splits ih =>
      intro more
      have hgoal : (g.goal? split.name).isSome = Share.hasGoal goals ⟨h, split⟩ := by
        rw [goal?, hg.goals_eq, Share.hasGoal]
      rw [bookSplits, hgoal]
      split
      case isFalse htracked =>
        have hmore : more = (splits.map (Share.mk h)).filter (·.hasGoal goals) :=
          List.filter_cons_of_neg htracked
        rw [hmore]
        exact ih hg
      case isTrue htracked =>
        have hmore : more = ⟨h, split⟩ :: (splits.map (Share.mk h)).filter (·.hasGoal goals) :=
          List.filter_cons_of_pos htracked
        rw [hmore, List.findSome?_cons, List.append_cons]
        split
        case h_1 e rates hv =>
          have hrate := RateCache.convert_eq_error_iff.1 hv
          rw [hg.currency_eq, RateCache.eq_of_rate_eq_error hrate] at hrate
          have hmissing : Share.missing? table currency ⟨h, split⟩ = some e :=
            Share.missing?_eq_some_iff.2 ((RateCache.rate_eq_error_iff hself hg.isFaithful).1 hrate)
          rw [hmissing]
          exact ⟨rfl, nofun⟩
        case h_2 v rates hv =>
          have hbook := hg.book hself hv
          have hmissing : Share.missing? table currency ⟨h, split⟩ = none :=
            Share.missing?_eq_none_iff.2 (hbook.exists_rate ⟨h, split⟩ (by simp))
          rw [hmissing]
          exact ih hbook

/-- Why goals refuse an operation, if they do. -/
def refusalOf? (goals : Std.ExtTreeMap String Float) (table : RateTable) (currency : String)
    (op : Operation) : Option Error :=
  ((op.sharesOf goals).findSome? (·.missing? table currency)).map .rate

/-- An operation. -/
theorem process_spec (hself : ∀ date currency, table date currency currency = .ok 1)
    (hg : g.IsMadeOf goals table currency shares) (op : Operation) :
    (Reducer.process g op).error = refusalOf? goals table currency op ∧
      ((Reducer.process g op).error = none →
        (Reducer.process g op).state.IsMadeOf goals table currency
          (shares ++ op.sharesOf goals)) := by
  cases op with
  | income h account splits | expense h account splits => exact bookSplits_spec hself hg h splits
  | _ => exact ⟨rfl, fun _ => (List.append_nil shares).symm ▸ hg⟩

/-! ### A whole sweep -/

/-- Goals are made of what they are handed. -/
theorem recounts (hself : ∀ date currency, table date currency currency = .ok 1)
    (goals : Std.ExtTreeMap String Float) (currency : String) :
    Recounts fun ops g => IsMadeOf goals table currency (ops.flatMap (·.sharesOf goals)) g where
  newDay _ hg _ := hg
  process op hg herror := by
    rw [List.flatMap_append, List.flatMap_singleton]
    exact (process_spec hself hg op).2 herror
  done hg _ := hg

/-- Goals refuse operations, and nothing else. -/
theorem error_send (hself : ∀ date currency, table date currency currency = .ok 1)
    (hg : g.IsMadeOf goals table currency shares) (e : Event) :
    (e.send g).error = e.operation?.bind (refusalOf? goals table currency) := by
  cases e with
  | newDay iv => rfl
  | process op => exact (process_spec hself hg op).1
  | done => rfl

/-- What goals hold for a name and a year that have been handed some operations. -/
theorem IsMadeOf.spent_eq {ops : List Operation}
    (hg : g.IsMadeOf goals table currency (ops.flatMap (·.sharesOf goals))) (name : String)
    (year : Int) :
    g.spent name year =
      if goals[name]?.isSome then
        leftSum (((ops.flatMap (·.shares)).filter fun s => s.IsOf name year).map
          (·.amountIn table currency))
      else 0 := by
  have hspent : g.spent name year = (g.bookedOn? name year).getD 0 := rfl
  have hshares :
      ops.flatMap (·.sharesOf goals) = (ops.flatMap (·.shares)).filter (·.hasGoal goals) :=
    List.filter_flatMap.symm
  rw [hspent, hg.entry_eq, getD_entryOf, hshares, List.filter_filter]
  split
  case isTrue hname =>
    refine congrArg (fun shares => leftSum (shares.map (Share.amountIn table currency)))
      (List.filter_congr fun s _ => ?_)
    by_cases hof : s.IsOf name year
    · rw [Share.hasGoal, hof.1, hname, Bool.and_true]
    · rw [decide_eq_false hof, Bool.false_and]
  case isFalse hname =>
    have hnone : ∀ s ∈ ops.flatMap (·.shares),
        ¬(decide (s.IsOf name year) && s.hasGoal goals) = true := by
      intro s _ h
      rw [Bool.and_eq_true, decide_eq_true_eq] at h
      rw [← h.1.1] at hname
      exact hname h.2
    rw [List.filter_eq_nil_iff.2 hnone]
    rfl

/-- Whether an active category among some has a name and a yearly goal. -/
def HasGoal (categories : List Category) (name : String) : Prop :=
  ∃ c ∈ categories, c.isActive = true ∧ c.yearlyGoal.isSome = true ∧ c.name = name

instance (categories : List Category) (name : String) : Decidable (HasGoal categories name) :=
  inferInstanceAs (Decidable (∃ c ∈ categories,
    c.isActive = true ∧ c.yearlyGoal.isSome = true ∧ c.name = name))

theorem isSome_goals_create_iff {categories : List Category} {name : String} :
    (create categories currency table).goals[name]?.isSome = true ↔ HasGoal categories name := by
  have hgoal (c : Category) : (∃ goal, goalOf? c = some goal ∧ goal.1 = name) ↔
      c.isActive = true ∧ c.yearlyGoal.isSome = true ∧ c.name = name := by
    rw [goalOf?]
    cases c.isActive <;> cases c.yearlyGoal <;> simp
  refine (Maps.isSome_foldl_insert_iff _ _ _).trans ?_
  constructor
  · rintro (hempty | ⟨goal, hmem, hname⟩)
    · rw [Std.ExtTreeMap.getElem?_empty] at hempty
      cases hempty
    · obtain ⟨c, hc, hgoalOf⟩ := List.mem_filterMap.1 hmem
      exact ⟨c, hc, (hgoal c).1 ⟨goal, hgoalOf, hname⟩⟩
  · rintro ⟨c, hc, htracked⟩
    obtain ⟨goal, hgoalOf, hname⟩ := (hgoal c).2 htracked
    exact .inr ⟨goal, List.mem_filterMap.2 ⟨c, hc, hgoalOf⟩, hname⟩

theorem mem_categories_iff {name : String} :
    name ∈ g.categories ↔ g.goals[name]?.isSome = true := by
  rw [categories, Std.ExtTreeMap.mem_keys, Std.ExtTreeMap.isSome_getElem?_iff_mem]

/-- Goals after a sweep that has succeeded. -/
theorem isMadeOf_of_run {book : RateBook} {categories : List Category} {ops : List Operation}
    {today : Date} {p : Predicate} {span : Option Period} {m : Matcher} {summary : Summary}
    (hm : p.compile = .ok m)
    (hrun : run (Store.load ops) today p span (create categories currency book.rate) =
      ⟨g, .ok summary⟩) :
    let goals := (create categories currency book.rate).goals
    g.IsMadeOf goals book.rate currency
      ((handedOver m (sortLog ops) summary.period).flatMap (·.sharesOf goals)) :=
  (recounts book.rate_self (create categories currency book.rate).goals currency).run
    (isMadeOf_create categories currency book.rate) hm hrun

/-- A sweep fails for goals with the first operation that they refuse. -/
theorem exists_missing_of_run {book : RateBook} {categories : List Category} {ops : List Operation}
    {today : Date} {p : Predicate} {span : Option Period} {m : Matcher} {e : Error}
    (hm : p.compile = .ok m)
    (hrun : (run (Store.load ops) today p span (create categories currency book.rate)).result =
      .error e) :
    ∃ s ∈ (handedOver m (sortLog ops) (periodOf (sortLog ops) today span)).flatMap (·.shares),
      HasGoal categories s.split.name ∧ ∃ missing,
        book.rate s.head.date s.head.currency currency = .error missing ∧ e = .rate missing := by
  let goals := (create categories currency book.rate).goals
  have hfirst := ((recounts book.rate_self goals currency).result_eq_error_iff
    (fun e hg => error_send book.rate_self hg e) (isMadeOf_create categories currency book.rate)
    ops today hm span).1 hrun
  obtain ⟨op, hop, hrefused⟩ := List.exists_of_findSome?_eq_some hfirst
  obtain ⟨missing, hmissing, rfl⟩ := Option.map_eq_some_iff.1 hrefused
  obtain ⟨s, hs, hrate⟩ := List.exists_of_findSome?_eq_some hmissing
  obtain ⟨hshare, hgoal⟩ := List.mem_filter.1 hs
  exact ⟨s, List.mem_flatMap.2 ⟨op, hop, hshare⟩, isSome_goals_create_iff.1 hgoal, missing,
    Share.missing?_eq_some_iff.1 hrate, rfl⟩

/-- **Goals count every share once.**  Let fresh goals be part of what a sweep feeds.  If the sweep
succeeds, the categories with a goal are the active ones among those given that have one.  No rate
was missing for a share of these categories, and what was spent on one of them in a year is the sum,
from left to right, of the amounts of its shares of that year, in the order of the operations that
were handed over and of the shares of each, an operation that has several included.  Nothing was
spent on any other name, and it has no progress.

A sweep with fresh goals alone fails if there is no log or no matcher, and otherwise only for want
of the rate of a share of a category with a goal. -/
theorem spending_recounted (actions : List Store.Action) (today : Date) (p : Predicate)
    (span : Option Period) (book : RateBook) (currency : String) (categories : List Category) :
    let store := Store.after actions
    (∀ {σ : Type} [Reducer σ] {part : σ → Option Goals} {s after : σ} {summary : Summary},
      Reducer.IsPart part → part s = some (create categories currency book.rate) →
      run store today p span s = ⟨after, .ok summary⟩ →
      ∃ log m g amount, store.log = some log ∧ p.compile = .ok m ∧ part after = some g ∧
        let shares := (handedOver m log (periodOf log today span)).flatMap (·.shares)
        g.categories.Nodup ∧ (∀ name, name ∈ g.categories ↔ HasGoal categories name) ∧
        (∀ s ∈ shares, HasGoal categories s.split.name → ∃ rate,
          book.rate s.head.date s.head.currency currency = .ok rate ∧
            amount s = s.split.amount * rate) ∧
        (∀ name, HasGoal categories name → ∀ year, g.spent name year =
          leftSum
            ((shares.filter fun s => s.split.name = name ∧ s.head.date.year = year).map amount)) ∧
        ∀ name, ¬HasGoal categories name → ∀ year,
          g.spent name year = 0 ∧ g.progress name year = .error (.missingGoal name)) ∧
    ∀ e, (run store today p span (create categories currency book.rate)).result = .error e →
      store.log = none ∧ e = .notLoaded ∨ (∃ join, p.compile = .error join ∧ e = .emptyJoin join) ∨
      ∃ log m, store.log = some log ∧ p.compile = .ok m ∧
        ∃ s ∈ (handedOver m log (periodOf log today span)).flatMap (·.shares),
          HasGoal categories s.split.name ∧ ∃ missing,
            book.rate s.head.date s.head.currency currency = .error missing ∧
              e = .rate missing := by
  intro store
  rcases Store.reached actions with ⟨hempty, -⟩ | ⟨⟨ops, hops⟩, -⟩
  · have hstore : store = Store.empty := hempty
    rw [hstore]
    refine ⟨fun {σ} _ {part s after summary} _ _ hrun => ?_, fun e hrun => ?_⟩
    · cases congrArg Outcome.result hrun
    · cases hrun
      exact .inl ⟨rfl, rfl⟩
  · have hstore : store = Store.load ops := hops
    rw [hstore]
    refine ⟨fun {σ} _ {part s after summary} hpart hs hrun => ?_, fun e hrun => .inr ?_⟩
    · obtain ⟨m, hm, rfl, -⟩ := exists_of_run_load hrun
      obtain ⟨g, hg, hgrun⟩ := hpart.run hs hrun
      have hmade := isMadeOf_of_run hm hgrun
      have hgoal (name : String) : g.goals[name]?.isSome = true ↔ HasGoal categories name := by
        rw [hmade.goals_eq]
        exact isSome_goals_create_iff
      refine ⟨sortLog ops, m, g, Share.amountIn book.rate currency, rfl, hm, hg, ?_⟩
      intro shares
      refine ⟨Std.ExtTreeMap.nodup_keys, fun name => mem_categories_iff.trans (hgoal name),
        fun s hs hname => ?_, fun name hname year => ?_, fun name hname year => ?_⟩
      · obtain ⟨op, hop, hshare⟩ := List.mem_flatMap.1 hs
        have htracked : s ∈ op.sharesOf (create categories currency book.rate).goals :=
          List.mem_filter.2 ⟨hshare, isSome_goals_create_iff.2 hname⟩
        obtain ⟨rate, htable⟩ := hmade.exists_rate s (List.mem_flatMap.2 ⟨op, hop, htracked⟩)
        exact ⟨rate, htable, Share.amountIn_eq htable⟩
      · rw [hmade.spent_eq, if_pos (isSome_goals_create_iff.2 hname)]
        rfl
      · have hnone : g.goal? name = none :=
          Option.not_isSome_iff_eq_none.1 fun h => hname ((hgoal name).1 h)
        rw [hmade.spent_eq, if_neg fun h => hname (isSome_goals_create_iff.1 h), progress, hnone]
        exact ⟨rfl, rfl⟩
    · cases hm : p.compile with
      | error join =>
          rw [run, hm] at hrun
          cases hrun
          exact .inl ⟨join, rfl, rfl⟩
      | ok m => exact .inr ⟨sortLog ops, m, rfl, rfl, exists_missing_of_run hm hrun⟩

/-- A purchase with two shares of a category with a goal, and one of a category without, first in
the currency of the goals and then in yen. -/
theorem spending_recounted_of_purchase :
    let d : Date := ⟨738550, by decide, by decide⟩
    let now : Timestamp := ⟨d, 0, 0⟩
    let categories : List Category :=
      [(Category.create "food" "USD" now).withGoal 100, .create "games" "USD" now,
        ((Category.create "rent" "USD" now).withGoal 900).delete now]
    let head (currency : String) : Head := ⟨"shop", now, d, currency, (-8 : Float).toBits, [], none⟩
    let log (currency : String) : List Operation :=
      [.expense (head currency) ⟨"cash", -8⟩ [⟨"food", -1⟩, ⟨"games", -5⟩, ⟨"food", -2⟩]]
    let fresh := create categories "USD" RateBook.empty.rate
    (∃ c g, run (Store.after [.load (log "USD")]) d .any none (Counts.empty, fresh) =
        ⟨(c, g), .ok ⟨⟨d, d⟩, 1, 1⟩⟩ ∧
      "food" ∈ g.categories ∧ "rent" ∉ g.categories ∧ g.spent "food" 2023 = -3 ∧
      g.spent "games" 2023 = 0 ∧ g.progress "games" 2023 = .error (.missingGoal "games")) ∧
    (run (Store.after [.load (log "JPY")]) d .any none fresh).result =
      .error (.rate (.missing "JPY" d)) := by
  intro d now categories head log fresh
  have hfood : HasGoal categories "food" := by decide +kernel
  have hgames : ¬HasGoal categories "games" := by decide +kernel
  have hrent : ¬HasGoal categories "rent" := by decide +kernel
  have hsort (currency : String) : sortLog (log currency) = log currency :=
    List.mergeSort_singleton _
  have hspending (currency : String) := spending_recounted [.load (log currency)] d .any none .empty
    "USD" categories
  have hdispatched (currency : String) : handedOver (fun _ => true) (sortLog (log currency))
      (periodOf (sortLog (log currency)) d none) = log currency := by
    rw [hsort]
    rfl
  constructor
  · obtain ⟨⟨c, g⟩, hrun⟩ : ∃ after,
        run (Store.load (log "USD")) d .any none (Counts.empty, fresh) =
          ⟨after, .ok ⟨⟨d, d⟩, 1, 1⟩⟩ := by
      apply Outcome.exists_eq_of_toOption
      rw [run_load (log "USD") d (m := fun _ => true) rfl, hsort]
      decide +kernel
    obtain ⟨_, m, _, amount, ⟨⟩, hm, ⟨⟩, -, hcategories, hamount, hspent, hnone⟩ :=
      (hspending "USD").1 .snd rfl hrun
    obtain rfl : (fun _ => true) = m := Except.ok.inj hm
    rw [hdispatched] at hamount hspent
    have hrate (rate : Float) (h : RateBook.empty.rate d "USD" "USD" = .ok rate) : rate = 1 :=
      (Except.ok.inj (h.symm.trans (RateBook.rate_self .empty d "USD")))
    have hone : amount ⟨head "USD", ⟨"food", -1⟩⟩ = -1 * 1 := by
      obtain ⟨rate, h, hv⟩ := hamount ⟨head "USD", ⟨"food", -1⟩⟩ List.mem_cons_self hfood
      rw [hv, hrate rate h]
    have htwo : amount ⟨head "USD", ⟨"food", -2⟩⟩ = -2 * 1 := by
      obtain ⟨rate, h, hv⟩ := hamount ⟨head "USD", ⟨"food", -2⟩⟩
        (List.mem_cons_of_mem _ (List.mem_cons_of_mem _ List.mem_cons_self)) hfood
      rw [hv, hrate rate h]
    have hsum : g.spent "food" 2023 = leftSum [-1 * 1, -2 * 1] := by
      rw [hspent "food" hfood 2023, ← hone, ← htwo]
      rfl
    obtain ⟨hzero, hprogress⟩ := hnone "games" hgames 2023
    exact ⟨c, g, hrun, (hcategories "food").2 hfood, fun h => hrent ((hcategories "rent").1 h),
      hsum.trans (by decide +kernel), hzero, hprogress⟩
  · have hyen : RateBook.empty.rate d "JPY" "USD" = .error (.missing "JPY" d) := by decide +kernel
    cases hresult : (run (Store.after [.load (log "JPY")]) d .any none fresh).result with
    | ok summary =>
        -- then there would be a rate
        obtain ⟨_, m, _, amount, ⟨⟩, hm, -, -, -, hamount, -⟩ :=
          (hspending "JPY").1 .self rfl (congrArg (Outcome.mk _) hresult)
        obtain rfl : (fun _ => true) = m := Except.ok.inj hm
        rw [hdispatched] at hamount
        obtain ⟨rate, h, -⟩ := hamount ⟨head "JPY", ⟨"food", -1⟩⟩ List.mem_cons_self hfood
        cases hyen.symm.trans h
    | error e =>
        rcases (hspending "JPY").2 e hresult with ⟨⟨⟩, -⟩ | ⟨join, ⟨⟩, -⟩ |
          ⟨_, m, ⟨⟩, hm, s, hs, -, missing, h, rfl⟩
        obtain rfl : (fun _ => true) = m := Except.ok.inj hm
        rw [hdispatched] at hs
        obtain ⟨op, hop, hshare⟩ := List.mem_flatMap.1 hs
        cases List.mem_singleton.1 hop
        obtain ⟨split, -, rfl⟩ := List.mem_map.1 hshare
        cases hyen.symm.trans h
        rfl

end Goals

end Cashbook
