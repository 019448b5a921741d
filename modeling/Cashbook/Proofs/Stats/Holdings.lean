import Mathlib.Data.List.Nodup
import Mathlib.Data.List.TakeWhile
import Cashbook.Proofs.Maps
import Cashbook.Proofs.Stats.Grouping
import Cashbook.Proofs.Stats.Script
import Cashbook.Stats.Balances

/-!
# What a sweep books on the accounts

While a sweep goes on, the balances of all accounts grow in step: every day begins for all of them,
and each operation adds the amounts of its sides.  `Balances.credit` adds some amounts to each
account at once, so that the order in which the accounts are named no longer shows.

* `book_eq` — the sides of an operation are booked up to the first one that names no account.
* `dueAmounts` — what is due on an account on a day.
* `follow` — the balances after some days, each with its amounts for all accounts.
* `run_load_eq_finish` — a sweep that succeeds lets the balances follow what is due on its days, and
  then adds them up.
* `follow_eq` — the accounts follow the days each for itself, and so does the calendar, with no
  amounts.
* `toList_create`, `values_follow_create` — the accounts stand in the order of their names.
* `create_lastNamed` — of several accounts with one name the last one counts.
-/

namespace Cashbook

namespace Balances

open BucketedSeries Operation Sweep

/-- The amounts of the sides that name an account. -/
def amountsOn (name : String) (sides : List Side) : List Float :=
  (sides.filter (·.name = name)).map (·.amount)

theorem amountsOn_cons (name : String) (side : Side) (sides : List Side) :
    amountsOn name (side :: sides) = amountsOn name [side] ++ amountsOn name sides := by
  rw [amountsOn, amountsOn, amountsOn, ← List.map_append, ← List.filter_append,
    List.singleton_append]

/-- Adds to each account the amounts that `amounts` has for it. -/
def credit (b : Balances) (amounts : String → List Float) : Balances :=
  { b with
    holdings := b.holdings.map fun name h => { h with series := h.series.addAll (amounts name) } }

theorem credit_nil (b : Balances) : b.credit (fun _ => []) = b := by
  have hmap : (b.holdings.map fun _ h => h) = b.holdings := Std.ExtTreeMap.map_id
  rw [credit]
  show { b with holdings := b.holdings.map fun _ h => h } = b
  rw [hmap]

/-- Amounts that are added one after the other can be added at once. -/
theorem credit_credit (b : Balances) (amounts more : String → List Float) :
    (b.credit amounts).credit more = b.credit fun name => amounts name ++ more name := by
  rw [credit, credit, credit, Std.ExtTreeMap.map_map]
  congr 1
  congr 1
  funext name h
  dsimp only
  rw [addAll, addAll, addAll, List.foldl_append]

/-- Booking one side changes one account, and so does crediting that side alone. -/
theorem insert_eq_credit {b : Balances} {side : Side} {held : Holding}
    (h : b.holdings[side.name]? = some held) :
    { b with
      holdings := b.holdings.insert side.name
        { held with series := held.series.add side.amount } } =
      b.credit (amountsOn · [side]) := by
  rw [credit]
  congr 1
  refine Std.ExtTreeMap.ext_getElem? fun name => ?_
  rw [Std.ExtTreeMap.getElem?_insert, Std.ExtTreeMap.getElem?_map, amountsOn, List.filter_singleton]
  by_cases hname : side.name = name
  · subst hname
    rw [h, if_pos Std.ReflCmp.compare_self, decide_eq_true rfl]
    rfl
  · have hcmp : compare side.name name ≠ .eq :=
      fun heq => hname (Std.LawfulEqCmp.eq_of_compare heq)
    rw [if_neg hcmp, decide_eq_false hname]
    cases b.holdings[name]? <;> rfl

theorem series?_credit (b : Balances) (amounts : String → List Float) (name : String) :
    (b.credit amounts).series? name = (b.series? name).map (·.addAll (amounts name)) := by
  rw [series?, series?, credit, Std.ExtTreeMap.getElem?_map, Option.map_map, Option.map_map]
  rfl

/-- Whether the account that a side names is there. -/
def knows (b : Balances) (side : Side) : Bool := (b.series? side.name).isSome

/-- Crediting accounts leaves the accounts that are there. -/
theorem knows_credit (b : Balances) (amounts : String → List Float) :
    (b.credit amounts).knows = b.knows := by
  funext side
  rw [knows, knows, series?_credit, Option.isSome_map]

/-- **Booking** adds to each account the amounts of the sides that name it, up to the first side
that names none. -/
theorem book_eq (b : Balances) (sides : List Side) :
    b.book sides =
      ⟨b.credit (amountsOn · (sides.takeWhile b.knows)),
        (sides.find? fun side => !b.knows side).map fun side => .unknownAccount side.name⟩ := by
  induction sides generalizing b with
  | nil => exact congrArg Reply.ok (credit_nil b).symm
  | cons side sides ih =>
      rw [book]
      cases hside : b.holdings[side.name]? with
      | none =>
          have hknows : b.knows side = false := by rw [knows, series?, hside]; rfl
          rw [List.takeWhile_cons_of_neg (by simp [hknows]),
            List.find?_cons_of_pos (by simp [hknows])]
          exact congrArg (Reply.mk · _) (credit_nil b).symm
      | some held =>
          have hknows : b.knows side = true := by rw [knows, series?, hside]; rfl
          dsimp only
          rw [insert_eq_credit hside, ih, knows_credit, credit_credit,
            List.takeWhile_cons_of_pos hknows, List.find?_cons_of_neg (by simp [hknows])]
          exact congrArg (fun amounts => Reply.mk (b.credit amounts) _)
            (funext fun name => (amountsOn_cons name side _).symm)

/-- Where every side names an account, all of them are booked. -/
theorem book_eq_credit (b : Balances) (sides : List Side) (h : (b.book sides).error = none) :
    (b.book sides).state = b.credit (amountsOn · sides) := by
  have hknown : ∀ side ∈ sides, b.knows side = true := by
    rw [book_eq] at h
    simpa using h
  rw [book_eq, List.takeWhile_eq_self_iff.2 hknown]

/-! ### The days of a sweep -/

variable {m : Matcher} {log : List Operation}

/-- The amounts that the operations due on a day have for an account. -/
def dueAmounts (m : Matcher) (log : List Operation) (name : String) (d : Date) : List Float :=
  (due m log d).flatMap (amountsOn name ·.sides)

/-- The balances after some days, on which `values` has the amounts for each account. -/
def follow (values : String → Date → List Float) (b : Balances) (ivs : List Intervals) : Balances :=
  ivs.foldl (fun b iv => (b.newDay iv).credit (values · iv.date)) b

/-- The operations of a day are booked together. -/
theorem play_process (b : Balances) (ops : List Operation)
    (h : (play b (ops.map .process)).error = none) :
    (play b (ops.map .process)).state =
      b.credit fun name => ops.flatMap (amountsOn name ·.sides) := by
  induction ops generalizing b with
  | nil => exact (credit_nil b).symm
  | cons op ops ih =>
      rw [List.map_cons, play_cons] at h ⊢
      obtain ⟨hop, hrest⟩ := Reply.error_andThen_eq_none h
      have hbook : (Event.send b (.process op)).state = b.credit (amountsOn · op.sides) :=
        book_eq_credit b op.sides hop
      rw [hrest, hbook] at h
      rw [hrest, hbook, ih _ h, credit_credit]
      congr 1

/-- A day begins, and then its amounts are added. -/
theorem play_dayScript (b : Balances) (iv : Intervals)
    (h : (play b (dayScript m log iv)).error = none) :
    (play b (dayScript m log iv)).state = (b.newDay iv).credit (dueAmounts m log · iv.date) :=
  play_process (b.newDay iv) (due m log iv.date) h

/-- **The days of a sweep** add to each account what is due on it. -/
theorem play_script_days (b : Balances) (ivs : List Intervals)
    (h : (play b (ivs.flatMap (dayScript m log))).error = none) :
    (play b (ivs.flatMap (dayScript m log))).state = b.follow (dueAmounts m log) ivs := by
  induction ivs generalizing b with
  | nil => rfl
  | cons iv ivs ih =>
      rw [List.flatMap_cons, play_append] at h ⊢
      obtain ⟨hday, hrest⟩ := Reply.error_andThen_eq_none h
      rw [hrest, play_dayScript b iv hday] at h ⊢
      exact ih _ h

/-- **The accounts follow the days in step**, and so does the calendar. -/
theorem follow_eq (values : String → Date → List Float) (b : Balances) (ivs : List Intervals) :
    b.follow values ivs =
      { b with
        calendar := b.calendar.follow (fun _ => []) ivs
        holdings := b.holdings.map fun name h =>
          { h with series := h.series.follow (values name) ivs }
        lastDay := (ivs.getLast?.map (·.date)).or b.lastDay } := by
  induction ivs generalizing b with
  | nil =>
      have hmap : (b.holdings.map fun _ h => h) = b.holdings := Std.ExtTreeMap.map_id
      show b = { b with holdings := b.holdings.map fun _ h => h }
      rw [hmap]
  | cons iv ivs ih =>
      have hlast : ((iv :: ivs).getLast?.map (·.date)).or b.lastDay =
          (ivs.getLast?.map (·.date)).or (some iv.date) := by
        rw [List.getLast?_cons]
        cases ivs.getLast? <;> rfl
      show ((b.newDay iv).credit (values · iv.date)).follow values ivs = _
      rw [ih, credit, newDay, hlast, Std.ExtTreeMap.map_map, Std.ExtTreeMap.map_map]
      rfl

/-- **A sweep that succeeds** lets the balances follow its days, and then adds them up. -/
theorem run_load_eq_finish {ops : List Operation} {today : Date} {p : Predicate}
    {span : Option Period} {b : Balances} {summary : Summary}
    (h : (run (Store.load ops) today p span b).result = .ok summary) :
    ∃ m, p.compile = .ok m ∧
      let after := b.follow (dueAmounts m (sortLog ops))
        ((Tracker.create summary.period.start today).visits summary.period.days)
      after.finish.error = none ∧
        (run (Store.load ops) today p span b).state = after.finish.state := by
  have hrun : run (Store.load ops) today p span b = ⟨_, .ok summary⟩ :=
    congrArg (Outcome.mk (run (Store.load ops) today p span b).state) h
  obtain ⟨m, hp, -, herror, hstate⟩ := exists_of_run_load hrun
  refine ⟨m, hp, ?_⟩
  rw [hstate]
  rw [scriptOf, play_script] at herror ⊢
  obtain ⟨hdays, hdone⟩ := Reply.error_andThen_eq_none herror
  have hsend (b : Balances) : Event.send b .done = b.finish := rfl
  rw [hdone, play_script_days b _ hdays, hsend] at herror ⊢
  exact ⟨herror, rfl⟩

/-! ### Opening the accounts -/

/-- The accounts in the order of their names. -/
def byName (accounts : List Account) : List Account :=
  accounts.mergeSort fun a b => (compare a.name b.name).isLE

theorem pairwise_byName (accounts : List Account) :
    (byName accounts).Pairwise fun a b => (compare a.name b.name).isLE := by
  refine List.pairwise_mergeSort ?_ ?_ accounts
  · intro a b c hab hbc
    exact Std.TransOrd.isLE_trans hab hbc
  · intro a b
    exact Lists.isLE_total compare a.name b.name

/-- An account that nothing has been booked on. -/
def opened (a : Account) : Holding := ⟨a.currency, .empty⟩

/-- Opening accounts leaves the other ones as they are. -/
theorem getElem?_opened_of_not_mem {accounts : List Account} {name : String}
    (h : name ∉ accounts.map (·.name)) (m : Std.ExtTreeMap String Holding) :
    (accounts.foldl (fun m a => m.insert a.name (opened a)) m)[name]? = m[name]? := by
  induction accounts generalizing m with
  | nil => rfl
  | cons a accounts ih =>
      rw [List.map_cons, List.mem_cons, not_or] at h
      have hcmp : compare a.name name ≠ .eq := fun heq =>
        h.1 (Std.LawfulEqCmp.eq_of_compare heq).symm
      rw [List.foldl_cons, ih h.2, Std.ExtTreeMap.getElem?_insert, if_neg hcmp]

/-- An account of its own name is there after it has been opened. -/
theorem getElem?_opened {accounts : List Account} (hnames : (accounts.map (·.name)).Nodup)
    {a : Account} (ha : a ∈ accounts) (m : Std.ExtTreeMap String Holding) :
    (accounts.foldl (fun m a => m.insert a.name (opened a)) m)[a.name]? = some (opened a) := by
  induction accounts generalizing m with
  | nil => exact absurd ha List.not_mem_nil
  | cons b accounts ih =>
      obtain ⟨hfresh, hnames⟩ := List.nodup_cons.1 hnames
      rw [List.foldl_cons]
      rcases List.mem_cons.1 ha with rfl | ha
      · rw [getElem?_opened_of_not_mem hfresh, Std.ExtTreeMap.getElem?_insert_self]
      · exact ih hnames ha _

/-- What has been opened does not depend on what was there before under its name. -/
theorem getElem?_opened_congr {accounts : List Account} {name : String}
    (h : name ∈ accounts.map (·.name)) (m m' : Std.ExtTreeMap String Holding) :
    (accounts.foldl (fun m a => m.insert a.name (opened a)) m)[name]? =
      (accounts.foldl (fun m a => m.insert a.name (opened a)) m')[name]? := by
  induction accounts generalizing m m' with
  | nil => cases h
  | cons a accounts ih =>
      rw [List.foldl_cons, List.foldl_cons]
      by_cases hlater : name ∈ accounts.map (·.name)
      · exact ih hlater _ _
      · obtain rfl : name = a.name := (List.mem_cons.1 h).resolve_right hlater
        rw [getElem?_opened_of_not_mem hlater, getElem?_opened_of_not_mem hlater,
          Std.ExtTreeMap.getElem?_insert_self, Std.ExtTreeMap.getElem?_insert_self]

/-- The accounts whose name no later one bears. -/
def lastNamed (accounts : List Account) : List Account := accounts.pwFilter (·.name ≠ ·.name)

theorem nodup_lastNamed (accounts : List Account) : ((lastNamed accounts).map (·.name)).Nodup :=
  List.pairwise_map.2 (List.pairwise_pwFilter accounts)

theorem exists_mem_lastNamed {accounts : List Account} {a : Account} (ha : a ∈ accounts) :
    ∃ b ∈ lastNamed accounts, b.name = a.name := by
  by_contra hnone
  have hfresh : ∀ b ∈ lastNamed accounts, a.name ≠ b.name :=
    fun b hb heq => hnone ⟨b, hb, heq.symm⟩
  refine (List.forall_mem_pwFilter (R := fun x y : Account => x.name ≠ y.name) ?_ a accounts).1
    hfresh a ha rfl
  intro x y z hxz
  by_contra hneither
  rw [not_or, not_not, not_not] at hneither
  exact hxz (hneither.1.trans hneither.2)

/-- **A name that is borne by several accounts** is opened for the last of them. -/
theorem foldl_opened_lastNamed (accounts : List Account) (m : Std.ExtTreeMap String Holding) :
    (lastNamed accounts).foldl (fun m a => m.insert a.name (opened a)) m =
      accounts.foldl (fun m a => m.insert a.name (opened a)) m := by
  induction accounts generalizing m with
  | nil => rfl
  | cons a accounts ih =>
      by_cases hfresh : ∀ b ∈ lastNamed accounts, a.name ≠ b.name
      · rw [lastNamed, List.pwFilter_cons_of_pos hfresh, List.foldl_cons, List.foldl_cons]
        exact ih _
      · rw [lastNamed, List.pwFilter_cons_of_neg hfresh, List.foldl_cons]
        refine (ih m).trans (Std.ExtTreeMap.ext_getElem? fun name => ?_)
        by_cases hname : name ∈ accounts.map (·.name)
        · exact getElem?_opened_congr hname _ _
        · -- the name is not that of `a`, which a later account bears
          have hcmp : compare a.name name ≠ .eq := by
            intro heq
            refine hfresh fun b hb hab => hname ?_
            rw [← Std.LawfulEqCmp.eq_of_compare heq, hab]
            exact List.mem_map_of_mem (List.pwFilter_subset accounts hb)
          rw [getElem?_opened_of_not_mem hname, getElem?_opened_of_not_mem hname,
            Std.ExtTreeMap.getElem?_insert, if_neg hcmp]

variable {accounts : List Account} {currency : String} {today : Date} {table : RateTable}

/-- Of several accounts with one name the last one counts. -/
theorem create_lastNamed (accounts : List Account) (currency : String) (today : Date)
    (table : RateTable) :
    create (lastNamed accounts) currency today table = create accounts currency today table :=
  congrArg
    (fun holdings => (⟨currency, today, holdings, .empty, none, .create table, none⟩ : Balances))
    (foldl_opened_lastNamed accounts ∅)

theorem getElem?_create (hnames : (accounts.map (·.name)).Nodup) {a : Account} (ha : a ∈ accounts) :
    (create accounts currency today table).holdings[a.name]? = some (opened a) :=
  getElem?_opened hnames ha ∅

/-- The name of an account that is opened is there, whether or not it is borne by another one. -/
theorem exists_getElem?_create (currency : String) (today : Date) (table : RateTable) {a : Account}
    (ha : a ∈ accounts) :
    ∃ b, (create accounts currency today table).holdings[a.name]? = some (opened b) := by
  obtain ⟨b, hb, hname⟩ := exists_mem_lastNamed ha
  refine ⟨b, ?_⟩
  rw [← create_lastNamed, ← hname]
  exact getElem?_create (nodup_lastNamed accounts) hb

/-- A name that no account bears is not there. -/
theorem getElem?_create_of_not_mem {name : String} (h : name ∉ accounts.map (·.name)) :
    (create accounts currency today table).holdings[name]? = none :=
  (getElem?_opened_of_not_mem h ∅).trans Std.ExtTreeMap.getElem?_empty

/-- What is there are the accounts that are opened. -/
theorem getElem?_create_eq_some_iff (hnames : (accounts.map (·.name)).Nodup) {name : String}
    {held : Holding} :
    (create accounts currency today table).holdings[name]? = some held ↔
      ∃ a ∈ accounts, a.name = name ∧ opened a = held := by
  constructor
  · intro h
    by_cases hname : name ∈ accounts.map (·.name)
    · obtain ⟨a, ha, rfl⟩ := List.mem_map.1 hname
      rw [getElem?_create hnames ha, Option.some_inj] at h
      exact ⟨a, ha, rfl, h⟩
    · rw [getElem?_create_of_not_mem hname] at h
      cases h
  · rintro ⟨a, ha, rfl, rfl⟩
    exact getElem?_create hnames ha

/-- The entries of a map are listed in the order of the names. -/
theorem toList_eq_of_pairwise {m : Std.ExtTreeMap String Holding} {l : List (String × Holding)}
    (hl : l.Pairwise fun x y => (compare x.1 y.1).isLE) (hnodup : l.Nodup)
    (hmem : ∀ x, x ∈ l ↔ m[x.1]? = some x.2) : m.toList = l := by
  have hkeys := m.ordered_keys_toList
  have hmnodup : m.toList.Nodup := hkeys.imp fun {x y} (h : compare x.1 y.1 = .lt) heq => by
    subst heq
    have hself : compare x.1 x.1 = .eq := Std.ReflCmp.compare_self
    rw [hself] at h
    cases h
  have hperm : m.toList.Perm l := (List.perm_ext_iff_of_nodup hmnodup hnodup).2 fun x => by
    rw [hmem, Std.ExtTreeMap.mem_toList_iff_getElem?_eq_some]
  refine List.Perm.eq_of_pairwise (fun x y hx hy hxy hyx => ?_)
    (hkeys.imp Ordering.isLE_of_eq_lt) hl hperm
  -- an entry is known by its name
  rw [Std.ExtTreeMap.mem_toList_iff_getElem?_eq_some] at hx
  rw [hmem] at hy
  have hname : x.1 = y.1 := Std.LawfulEqCmp.eq_of_compare (Std.OrientedCmp.isLE_antisymm hxy hyx)
  rw [hname, hy, Option.some_inj] at hx
  exact Prod.ext hname hx.symm

/-- **Accounts that are opened** stand in the order of their names. -/
theorem toList_create (hnames : (accounts.map (·.name)).Nodup) :
    (create accounts currency today table).holdings.toList =
      (byName accounts).map fun a => (a.name, opened a) := by
  have hperm := List.mergeSort_perm accounts fun a b => (compare a.name b.name).isLE
  refine toList_eq_of_pairwise (List.pairwise_map.2 (pairwise_byName accounts)) ?_ fun x => ?_
  · refine List.Nodup.of_map (·.1) ?_
    rw [List.map_map]
    exact (hperm.map (·.name)).nodup_iff.2 hnames
  · rw [List.mem_map, getElem?_create_eq_some_iff hnames]
    constructor
    · rintro ⟨a, ha, rfl⟩
      exact ⟨a, hperm.mem_iff.1 ha, rfl, rfl⟩
    · rintro ⟨a, ha, hname, hheld⟩
      exact ⟨a, hperm.mem_iff.2 ha, Prod.ext hname hheld⟩

/-! ### The accounts after a sweep -/

/-- The accounts after some days, in the order of their names. -/
theorem values_follow_create (hnames : (accounts.map (·.name)).Nodup)
    (values : String → Date → List Float) (ivs : List Intervals) :
    ((create accounts currency today table).follow values ivs).holdings.values =
      (byName accounts).map fun a =>
        ⟨a.currency, BucketedSeries.follow (values a.name) empty ivs⟩ := by
  rw [follow_eq, Maps.values_eq, Std.ExtTreeMap.toList_map, toList_create hnames, List.map_map,
    List.map_map]
  rfl

/-- An account after some days. -/
theorem series?_follow_create {a : Account} (ha : a ∈ accounts)
    (values : String → Date → List Float) (ivs : List Intervals) :
    ((create accounts currency today table).follow values ivs).series? a.name =
      some (BucketedSeries.follow (values a.name) empty ivs) := by
  obtain ⟨b, hb⟩ := exists_getElem?_create currency today table ha
  rw [follow_eq, series?, Std.ExtTreeMap.getElem?_map, hb]
  rfl

end Balances

end Cashbook
