import Cashbook.Proofs.Rates.Memo
import Cashbook.Proofs.Stats.Holdings
import Cashbook.Proofs.Stats.InStep

/-!
# The roll-up agrees with the single days

The roll-up is computed for each granularity apart, and the day of the rates is found in one way for
a bucket that another one follows and in another way for the last one.  Both ways lead to the day
that closes the bucket (`valuationDate_head`), so that each total is what the accounts are worth on
that day (`worthOn`): the roll-ups of all granularities show the same where they meet.

* `worth_spec` — one bucket: the next points of all accounts, converted and added up.
* `IsRollUp` — what the points of a roll-up say, and `rollUpFrom_spec` — one bucket after the other.
* `IsBooked` — what the balances are before they are added up.
* `rollUp_agrees` — what a sweep that succeeds shows in the end.

### What is load-bearing

The first change is not a step from a total but a sum of changes.  It equals the first total also
where addition is not associative, because up to the day that closes the first bucket there are no
values but those of that bucket (`BucketedSeries.valuesUpTo_head`): both are the same sum.
-/

namespace Cashbook

namespace Balances

open BucketedSeries Granularity Sweep

variable {g : Granularity} {s d x today : Date} {days : List Date}

/-! ### The day of the rate -/

/-- A bucket that another one follows is valued on the day before that one. -/
theorem valuationDate_some (today : Date) (lastDay : Option Date) (g : Granularity) (e : Date)
    (h : Date.IsNext d x) : valuationDate today lastDay g e (some x) = min d today := by
  rw [valuationDate, h.addDays_neg_one]

/-- The last bucket is valued on the last day. -/
theorem valuationDate_none (today : Date) (g : Granularity) (h : s ≤ d) :
    valuationDate today (some d) g (g.entry s d) none = min d today := by
  have hend : min (g.bucketEnd (g.entry s d)) d = d := by
    refine Date.ext ?_
    rw [Date.number_min]
    exact Int.min_eq_right (le_bucketEnd_entry h)
  rw [valuationDate, Option.map_some, Option.getD_some, hend]

/-- Whether the days `cs` close buckets that follow one another, the last of them on `lastDay`. -/
structure AreClosings (g : Granularity) (s : Date) (lastDay : Option Date) (cs : List Date) :
    Prop where
  /-- A bucket is entered on the day after the one that closes the bucket before. -/
  chain : cs.IsChain fun c d => Date.IsNext c (g.entry s d)
  /-- No bucket is closed before the first day. -/
  start_le : ∀ c ∈ cs, s ≤ c
  /-- The last bucket is closed on the last day. -/
  last : ∀ c ∈ cs.getLast?, lastDay = some c

variable {lastDay : Option Date} {cs : List Date}

theorem AreClosings.tail (h : AreClosings g s lastDay (d :: cs)) : AreClosings g s lastDay cs where
  chain := h.chain.of_cons
  start_le c hc := h.start_le c (List.mem_cons_of_mem _ hc)
  last c hc := h.last c (by rw [List.getLast?_cons, hc]; rfl)

theorem areClosings_closings (hdays : days.IsChain Date.IsNext) (hs : ∀ x ∈ days, s ≤ x) :
    AreClosings g s days.getLast? (g.closings days) where
  chain := isChain_closings hdays hs
  start_le c hc := hs c (mem_closings.1 hc).1
  last c hc := by
    rw [← getLast?_closings (g := g) (Date.pairwise_of_isChain hdays)]
    exact hc

/-- **A bucket is valued on the day that closes it**, or today if that day lies in the future. -/
theorem AreClosings.valuationDate_head (h : AreClosings g s lastDay (d :: cs)) (today : Date) :
    valuationDate today lastDay g (g.entry s d) (cs.map (g.entry s)).head? = min d today := by
  cases cs with
  | nil =>
      rw [h.last d rfl]
      exact valuationDate_none today g (h.start_le d List.mem_cons_self)
  | cons c cs => exact valuationDate_some today lastDay g _ (List.isChain_cons_cons.1 h.chain).1

/-! ### Converting amounts -/

/-- Adds some amounts of several currencies to `sum`, one after the other, at the rates of a day. -/
def addConverted (table : RateTable) (currency : String) (date : Date) (sum : Float) :
    List (String × Float) → Option Float
  | [] => some sum
  | (source, amount) :: rest =>
      (table date source currency).toOption.bind fun rate =>
        addConverted table currency date (sum + amount * rate) rest

variable {table : RateTable} {rates : RateCache}

/-- **What the accounts are worth in one bucket** is the sum of their converted totals, and of their
converted changes. -/
theorem worth_spec (currency : String) (date : Date)
    (hself : ∀ date currency, table date currency currency = .ok 1)
    (hc : rates.IsFaithful table) (accounts : List Account) (p : Account → Point Float)
    (ps : Account → List (Point Float)) (sum : Worth) :
    (worth currency date rates sum
        (accounts.map fun a => ⟨a.currency, p a :: ps a⟩)).2.IsFaithful table ∧
      ∀ sum' left,
        (worth currency date rates sum (accounts.map fun a => ⟨a.currency, p a :: ps a⟩)).1 =
          .ok (sum', left) →
        left = accounts.map (fun a => ⟨a.currency, ps a⟩) ∧
          addConverted table currency date sum.total
            (accounts.map fun a => (a.currency, (p a).total)) = some sum'.total ∧
          addConverted table currency date sum.change
            (accounts.map fun a => (a.currency, (p a).change)) = some sum'.change := by
  induction accounts generalizing sum rates with
  | nil =>
      refine ⟨hc, fun sum' left h => ?_⟩
      cases h
      exact ⟨rfl, rfl, rfl⟩
  | cons a accounts ih =>
      obtain ⟨hrate, hfaithful⟩ := RateCache.rate_spec date a.currency currency hself hc
      rw [List.map_cons, worth]
      generalize rates.rate date a.currency currency = r at hrate hfaithful
      obtain ⟨rate, rates'⟩ := r
      cases rate with
      | error e =>
          refine ⟨hfaithful, fun sum' left h => ?_⟩
          cases h
      | ok rate =>
          dsimp only at hrate hfaithful ⊢
          -- the rate is that of the table, whether it was remembered or not
          have htable : (table date a.currency currency).toOption = some rate := by
            rw [← hrate]
            rfl
          obtain ⟨hrest, hsum⟩ :=
            ih hfaithful ⟨sum.total + (p a).total * rate, sum.change + (p a).change * rate⟩
          rw [List.map_cons, List.map_cons, List.map_cons, addConverted, addConverted, htable,
            Option.bind_some, Option.bind_some]
          split
          case h_1 hworth =>
            rw [hworth] at hrest
            refine ⟨hrest, fun sum' left h => ?_⟩
            cases h
          case h_2 sum₁ left₁ rates₁ hworth =>
            rw [hworth] at hrest hsum
            refine ⟨hrest, fun sum' left h => ?_⟩
            obtain ⟨hleft, htotal, hchange⟩ := hsum sum₁ left₁ rfl
            cases h
            exact ⟨congrArg _ hleft, htotal, hchange⟩

/-! ### The points of one granularity -/

/-- Whether some points roll up the buckets that the days `cs` close: `entry` has the day on which a
bucket is entered, and `value` what the accounts are worth together on a day. -/
structure IsRollUp (entry : Date → Date) (value : Date → Option Float) (cs : List Date)
    (points : List (Point Float)) : Prop where
  /-- Each bucket has its point. -/
  dates : points.map (·.date) = cs.map entry
  /-- The total is that of the day that closes the bucket. -/
  totals : ∀ p ∈ points, ∃ c ∈ cs, p.date = entry c ∧ value c = some p.total
  /-- A change is the step from the total before. -/
  steps : points.IsChain fun p q => q.change = q.total - p.total

variable {entry : Date → Date} {value : Date → Option Float} {points : List (Point Float)}

/-- Where there is a point there is a bucket. -/
theorem IsRollUp.exists_cons (h : IsRollUp entry value cs points) {q : Point Float}
    (hq : q ∈ points.head?) : ∃ c ds, cs = c :: ds := by
  cases cs with
  | nil =>
      rw [List.map_eq_nil_iff.1 h.dates] at hq
      cases hq
  | cons c ds => exact ⟨c, ds, rfl⟩

/-- A roll-up with one more bucket before the others. -/
theorem IsRollUp.cons {c : Date} {p : Point Float} (h : IsRollUp entry value cs points)
    (hdate : p.date = entry c) (htotal : value c = some p.total)
    (hstep : ∀ q ∈ points.head?, q.change = q.total - p.total) :
    IsRollUp entry value (c :: cs) (p :: points) where
  dates := by rw [List.map_cons, List.map_cons, h.dates, hdate]
  totals q hq := by
    rcases List.mem_cons.1 hq with rfl | hq
    · exact ⟨c, List.mem_cons_self, hdate, htotal⟩
    · obtain ⟨d, hd, hqd⟩ := h.totals q hq
      exact ⟨d, List.mem_cons_of_mem _ hd, hqd⟩
  steps := List.isChain_cons.2 ⟨hstep, h.steps⟩

/-- The first bucket, and then the others. -/
theorem rollUpFrom_cons (b : Balances) (hcs : AreClosings g s b.lastDay (d :: cs))
    (rates : RateCache) (previous : Option Float) (accounts : List Pending) :
    b.rollUpFrom g rates previous accounts ((d :: cs).map (g.entry s)) =
      match worth b.currency (min d b.today) rates ⟨0, 0⟩ accounts with
      | (.error e, rates) => (.error e, rates)
      | (.ok (sum, accounts), rates) =>
          match b.rollUpFrom g rates (some sum.total) accounts (cs.map (g.entry s)) with
          | (.error e, rates) => (.error e, rates)
          | (.ok points, rates) =>
              let change := (previous.map (sum.total - ·)).getD sum.change
              (.ok (⟨g.entry s d, sum.total, change⟩ :: points), rates) := by
  rw [← hcs.valuationDate_head]
  rfl

/-- **One bucket after the other**: if the accounts have the points `p` for the buckets, the roll-up
has what these are worth together.  The first change is the step from the total before, if there is
one, and otherwise the sum of the changes. -/
theorem rollUpFrom_spec (b : Balances)
    (hself : ∀ date currency, table date currency currency = .ok 1)
    (hc : rates.IsFaithful table) (accounts : List Account) (p : Account → Date → Point Float)
    (previous : Option Float) (hcs : AreClosings g s b.lastDay cs) :
    let result := b.rollUpFrom g rates previous (accounts.map fun a => ⟨a.currency, cs.map (p a)⟩)
      (cs.map (g.entry s))
    let amounts (part : Point Float → Float) (d : Date) :=
      addConverted table b.currency (min d b.today) 0
        (accounts.map fun a => (a.currency, part (p a d)))
    result.2.IsFaithful table ∧ ∀ points, result.1 = .ok points →
      IsRollUp (g.entry s) (amounts (·.total)) cs points ∧
        ∀ c ∈ cs.head?, ∀ q ∈ points.head?,
          (∀ t, previous = some t → q.change = q.total - t) ∧
            (previous = none →
              amounts (·.total) c = some q.total ∧ amounts (·.change) c = some q.change) := by
  induction cs generalizing previous rates with
  | nil =>
      refine ⟨hc, fun points h => ?_⟩
      cases h
      exact ⟨⟨rfl, fun _ h => absurd h List.not_mem_nil, .nil⟩, fun c hc => nomatch hc⟩
  | cons c cs ih =>
      intro result amounts
      obtain ⟨hrates, hsum⟩ := worth_spec b.currency (min c b.today) hself hc accounts (p · c)
        (fun a => cs.map (p a)) ⟨0, 0⟩
      have hresult : result = _ := rollUpFrom_cons b hcs rates previous
        (accounts.map fun a => ⟨a.currency, p a c :: cs.map (p a)⟩)
      rw [hresult]
      split
      case h_1 e rates₁ hworth =>
        rw [hworth] at hrates
        refine ⟨hrates, fun points h => ?_⟩
        cases h
      case h_2 sum left rates₁ hworth =>
        rw [hworth] at hrates hsum
        obtain ⟨hleft, htotal, hchange⟩ := hsum sum left rfl
        -- what is left of the accounts is their points for the other buckets
        obtain ⟨hcache, hpoints⟩ := ih hrates (some sum.total) hcs.tail
        rw [hleft]
        split
        case h_1 e rates₂ hrest =>
          rw [hrest] at hcache
          refine ⟨hcache, fun points h => ?_⟩
          cases h
        case h_2 points₂ rates₂ hrest =>
          rw [hrest] at hcache hpoints
          obtain ⟨hrollUp, hhead⟩ := hpoints points₂ rfl
          refine ⟨hcache, fun points h => ?_⟩
          cases h
          refine ⟨hrollUp.cons rfl htotal fun q hq => ?_, ?_⟩
          · obtain ⟨d, ds, rfl⟩ := hrollUp.exists_cons hq
            exact (hhead d rfl q hq).1 sum.total rfl
          · rintro d ⟨⟩ q ⟨⟩
            refine ⟨fun t ht => ?_, fun hnone => ?_⟩
            · rw [ht]
              rfl
            · rw [hnone]
              exact ⟨htotal, hchange⟩

/-! ### The balances after the days of a sweep -/

/-- Whether the balances are those of some accounts after consecutive days from `s` on: the accounts
stand in the order of their names, each with a series that groups its values, and the calendar is a
series that groups none. -/
structure IsBooked (b : Balances) (table : RateTable) (accounts : List Account) (currency : String)
    (today : Date) (values : String → Date → List Float) (s : Date) (days : List Date)
    (series : String → BucketedSeries Float) : Prop where
  chain : days.IsChain Date.IsNext
  start_le : ∀ x ∈ days, s ≤ x
  rates : b.rates.IsFaithful table
  currency_eq : b.currency = currency
  today_eq : b.today = today
  lastDay_eq : b.lastDay = days.getLast?
  calendar : IsGrouping (fun _ => []) s days b.calendar
  grouping : ∀ name, IsGrouping (values name) s days (series name)
  values_eq : b.holdings.values = (byName accounts).map fun a => ⟨a.currency, series a.name⟩
  series_eq : ∀ a ∈ accounts, b.series? a.name = some (series a.name)

variable {accounts : List Account} {currency : String} {values : String → Date → List Float}
  {series : String → BucketedSeries Float} {b : Balances}

/-- Following days from the beginning gives such balances. -/
theorem isBooked_follow_create (hnames : (accounts.map (·.name)).Nodup) (table : RateTable)
    (currency : String) (today sweepToday : Date) (values : String → Date → List Float) {n : Nat}
    (h : s.number + n ≤ Calendar.lastNumber + 1) :
    ((create accounts currency today table).follow values
        ((Tracker.create s sweepToday).visits (Date.run s n))).IsBooked
      table accounts currency today values s (Date.run s n) fun name =>
        BucketedSeries.follow (values name) empty
          ((Tracker.create s sweepToday).visits (Date.run s n)) where
  chain := Date.isChain_run h
  start_le _ hx := ((Date.mem_run h).1 hx).1
  rates := by
    rw [follow_eq]
    exact RateCache.isFaithful_create table
  currency_eq := by
    rw [follow_eq]
    rfl
  today_eq := by
    rw [follow_eq]
    rfl
  lastDay_eq := by
    rw [follow_eq, ← List.getLast?_map, Tracker.map_date_visits]
    exact Option.or_none
  calendar := by
    rw [follow_eq]
    exact isGrouping_follow (fun _ => []) s sweepToday h
  grouping name := isGrouping_follow (values name) s sweepToday h
  values_eq := values_follow_create hnames values _
  series_eq _ ha := series?_follow_create ha values _

/-- What the accounts are worth together on the day `d`: the totals that the single days show for
them, converted at the rates of that day, or of today if it lies in the future, and added up in the
order of the names. -/
def worthOn (b : Balances) (table : RateTable) (accounts : List Account) (currency : String)
    (today d : Date) : Option Float :=
  ((byName accounts).mapM fun a =>
    ((b.series? a.name).bind fun series => (series.get .day).totalAt? d).map fun total =>
      (a.currency, total)).bind (addConverted table currency (min d today) 0)

/-- What the accounts are worth on the day `d` if they have the given values. -/
def valueOn (table : RateTable) (accounts : List Account) (currency : String) (today : Date)
    (values : String → Date → List Float) (days : List Date) (d : Date) : Option Float :=
  addConverted table currency (min d today) 0
    ((byName accounts).map fun a => (a.currency, leftSum (valuesUpTo (values a.name) days d)))

/-- The single days show what the accounts are worth. -/
theorem IsBooked.worthOn_eq (hb : b.IsBooked table accounts currency today values s days series)
    (hd : d ∈ days) :
    b.worthOn table accounts currency today d =
      valueOn table accounts currency today values days d := by
  have hshown : ((byName accounts).mapM fun a =>
      ((b.series? a.name).bind fun series => (series.get .day).totalAt? d).map fun total =>
        (a.currency, total)) =
      some ((byName accounts).map fun a =>
        (a.currency, leftSum (valuesUpTo (values a.name) days d))) := by
    refine Lists.mapM_eq_some_map fun a ha => ?_
    rw [hb.series_eq a (List.mem_mergeSort.1 ha), Option.bind_some,
      totalAt?_day (hb.grouping a.name) hb.start_le hd, Option.map_some]
  rw [worthOn, hshown, Option.bind_some, valueOn]

/-- The roll-up of one granularity. -/
theorem IsBooked.rollUpOf_spec (hb : b.IsBooked table accounts currency today values s days series)
    (hself : ∀ date currency, table date currency currency = .ok 1) (hc : rates.IsFaithful table)
    (g : Granularity) :
    (b.rollUpOf g rates).2.IsFaithful table ∧ ∀ σ, (b.rollUpOf g rates).1 = .ok σ →
      IsRollUp (g.entry s) (valueOn table accounts currency today values days) (g.closings days)
          σ.points ∧
        ∀ q ∈ σ.points.head?, q.change = q.total := by
  have hdates : (b.calendar.get g).dates = (g.closings days).map (g.entry s) := by
    rw [Series.dates, hb.calendar.2 g, List.map_map]
    rfl
  have hpending : (b.holdings.values.map fun h => Pending.mk h.currency (h.series.get g).points) =
      (byName accounts).map fun a =>
        ⟨a.currency, (g.closings days).map (pointOn g (values a.name) s days)⟩ := by
    rw [hb.values_eq, List.map_map]
    refine List.map_congr_left fun a _ => ?_
    rw [← (hb.grouping a.name).2 g]
    rfl
  have hcs : AreClosings g s b.lastDay (g.closings days) := by
    rw [hb.lastDay_eq]
    exact areClosings_closings hb.chain hb.start_le
  obtain ⟨hfaithful, hpoints⟩ := rollUpFrom_spec b hself hc (byName accounts)
    (fun a => pointOn g (values a.name) s days) none hcs
  rw [← hpending, ← hdates] at hfaithful hpoints
  rw [rollUpOf]
  split
  case h_1 e rates₁ hfrom =>
    rw [hfrom] at hfaithful
    refine ⟨hfaithful, fun σ h => ?_⟩
    cases h
  case h_2 points rates₁ hfrom =>
    rw [hfrom] at hfaithful hpoints
    refine ⟨hfaithful, fun σ h => ?_⟩
    cases h
    obtain ⟨hrollUp, hhead⟩ := hpoints points rfl
    rw [Series.points_ofPoints]
    rw [hb.currency_eq, hb.today_eq] at hrollUp hhead
    refine ⟨hrollUp, fun q hq => ?_⟩
    -- the first bucket has nothing before it, so that its total sums its own values
    obtain ⟨c, cs, hclosings⟩ := hrollUp.exists_cons hq
    obtain ⟨htotal, hchange⟩ := (hhead c (by rw [hclosings]; rfl) q hq).2 rfl
    have hpart (a : Account) : (pointOn g (values a.name) s days c).change =
        (pointOn g (values a.name) s days c).total := by
      rw [pointOn, valuesUpTo_head _ (Date.pairwise_of_isChain hb.chain) hclosings]
    simp only [hpart] at hchange
    exact Option.some_inj.1 (hchange.symm.trans htotal)

/-- Balances that are added up without a failure have a roll-up, and are otherwise as before. -/
theorem finish_eq (h : b.finish.error = none) :
    ∃ rollUp rates, (ByGranularity.traverse b.rollUpOf b.rates).1 = .ok rollUp ∧
      b.finish.state = { b with rates := rates, rollUp := some rollUp } := by
  rw [finish] at h ⊢
  split at h
  case h_1 => cases h
  case h_2 rollUp rates htraverse =>
    rw [htraverse]
    exact ⟨rollUp, rates, rfl, rfl⟩

/-- The roll-ups of all granularities. -/
theorem IsBooked.finish_spec (hb : b.IsBooked table accounts currency today values s days series)
    (hself : ∀ date currency, table date currency currency = .ok 1) (h : b.finish.error = none) :
    ∃ rollUp rates, b.finish.state = { b with rates := rates, rollUp := some rollUp } ∧
      ∀ g, IsRollUp (g.entry s) (valueOn table accounts currency today values days)
          (g.closings days) (rollUp.get g).points ∧
        ∀ q ∈ (rollUp.get g).points.head?, q.change = q.total := by
  obtain ⟨rollUp, rates, htraverse, hstate⟩ := finish_eq h
  refine ⟨rollUp, rates, hstate, fun g => ?_⟩
  obtain ⟨-, hvalues, -⟩ := ByGranularity.traverse_spec (I := (RateCache.IsFaithful · table))
    (fun g _ hc => (hb.rollUpOf_spec hself hc g).1) hb.rates
  obtain ⟨rates', hc, hrollUpOf⟩ := hvalues rollUp htraverse g
  exact (hb.rollUpOf_spec hself hc g).2 _ hrollUpOf

/-- The single days show what the accounts are worth on each of them. -/
theorem IsRollUp.totalAt?_day {σ : Series Float} {total : Float}
    (h : IsRollUp (day.entry s) value (day.closings days) σ.points) (hs : ∀ x ∈ days, s ≤ x)
    (hd : d ∈ days) (htotal : value d = some total) : σ.totalAt? d = some total := by
  rw [closings_day] at h
  refine Series.totalAt?_eq_some ?_ ?_
  · have hmem : d ∈ σ.points.map (·.date) := by
      rw [h.dates, List.mem_map]
      exact ⟨d, hd, entry_day (hs d hd)⟩
    exact List.mem_map.1 hmem
  · intro p hp hpd
    obtain ⟨c, hc, hpc, hvalue⟩ := h.totals p hp
    have hcd : c = d := by rw [← hpd, hpc, entry_day (hs c hc)]
    rw [hcd, htotal] at hvalue
    exact (Option.some_inj.1 hvalue).symm

/-- A sweep that succeeds adds up balances that book what is due on its days. -/
theorem isBooked_of_run (hnames : (accounts.map (·.name)).Nodup) {sweepToday : Date}
    {ops : List Operation} {p : Predicate} {m : Matcher} (hm : p.compile = .ok m)
    {span : Option Period} {summary : Summary}
    (hrun : Sweep.run (Store.load ops) sweepToday p span (create accounts currency today table) =
      ⟨b, .ok summary⟩) :
    ∃ (before : Balances) (series : String → BucketedSeries Float),
      before.IsBooked table accounts currency today (dueAmounts m (Operation.sortLog ops))
          summary.period.start summary.period.days series ∧
        before.finish.error = none ∧ b = before.finish.state := by
  obtain ⟨m', hm', herror, hstate⟩ := run_load_eq_finish (congrArg Outcome.result hrun)
  cases hm.symm.trans hm'
  rw [hrun] at hstate
  have hb := isBooked_follow_create hnames table currency today sweepToday
    (dueAmounts m (Operation.sortLog ops)) summary.period.start_add_length_le_last
  exact ⟨_, _, hb, herror, hstate⟩

theorem exists_isBooked_of_run (hnames : (accounts.map (·.name)).Nodup) {sweepToday : Date}
    {ops : List Operation} {p : Predicate} {span : Option Period} {summary : Summary}
    (hrun : Sweep.run (Store.load ops) sweepToday p span (create accounts currency today table) =
      ⟨b, .ok summary⟩) :
    ∃ (before : Balances) (values : String → Date → List Float)
      (series : String → BucketedSeries Float),
      before.IsBooked table accounts currency today values summary.period.start summary.period.days
          series ∧
        before.finish.error = none ∧ b = before.finish.state := by
  obtain ⟨m, hm, -⟩ := run_load_eq_finish (congrArg Outcome.result hrun)
  obtain ⟨before, series, hbefore⟩ := isBooked_of_run hnames hm hrun
  exact ⟨before, _, series, hbefore⟩

/-- **The roll-up agrees at all granularities.**  After a sweep that succeeds there is a roll-up,
with one point for each bucket that the days of the sweep meet, in the order of time.  Its total is
what the accounts are worth on the last of these days that lies in the bucket, as the roll-up of the
single days shows it on that day.  The first change is the first total, and a later one is the step
from the total before. -/
theorem rollUp_agrees (accounts : List Account) (hnames : (accounts.map (·.name)).Nodup)
    (book : RateBook) (currency : String) (today sweepToday : Date) (ops : List Operation)
    (p : Predicate) (span : Option Period) (b : Balances) (summary : Summary)
    (hrun : Sweep.run (Store.load ops) sweepToday p span
      (create accounts currency today book.rate) = ⟨b, .ok summary⟩) :
    ∃ rollUp, b.rollUp = some rollUp ∧ ∀ g,
      let days := summary.period.days
      let points := (rollUp.get g).points
      (points.map (·.date)).Pairwise (· < ·) ∧
        (∀ x, x ∈ points.map (·.date) ↔
          ∃ d ∈ days, x = max summary.period.start (g.bucketStart d)) ∧
        (∀ p ∈ points, ∃ d ∈ days, g.bucketStart d = g.bucketStart p.date ∧
          (∀ x ∈ days, g.bucketStart x = g.bucketStart p.date → x ≤ d) ∧
          b.worthOn book.rate accounts currency today d = some p.total ∧
          (rollUp.get .day).totalAt? d = some p.total) ∧
        (∀ p later, points = p :: later → p.change = p.total) ∧
        ∀ earlier p q later, points = earlier ++ p :: q :: later →
          q.change = q.total - p.total := by
  obtain ⟨before, values, series, hb, herror, hbefore⟩ := exists_isBooked_of_run hnames hrun
  obtain ⟨rollUp, rates, hfinish, hrollUp⟩ := hb.finish_spec book.rate_self herror
  rw [hfinish] at hbefore
  subst hbefore
  refine ⟨rollUp, rfl, fun g => ?_⟩
  obtain ⟨hg, hhead⟩ := hrollUp g
  have hpair := Date.pairwise_of_isChain hb.chain
  intro days points
  have hdates : points.map (·.date) = (g.closings days).map (g.entry summary.period.start) :=
    hg.dates
  rw [hdates]
  refine ⟨pairwise_entry_closings hpair hb.start_le, fun x => mem_map_entry_closings hpair,
    ?_, ?_, ?_⟩
  · intro p hp
    obtain ⟨d, hd, hpd, htotal⟩ := hg.totals p hp
    obtain ⟨hmem, hin, hlast⟩ := last_of_mem_closings hb.start_le hd
    rw [hpd]
    exact ⟨d, hmem, hin, hlast, (hb.worthOn_eq hmem).trans htotal,
      (hrollUp .day).1.totalAt?_day hb.start_le hmem htotal⟩
  · intro p later hpoints
    exact hhead p (by rw [show (rollUp.get g).points = _ from hpoints]; rfl)
  · intro earlier p q later hpoints
    have hsteps := hg.steps
    rw [show (rollUp.get g).points = _ from hpoints] at hsteps
    exact (List.isChain_cons_cons.1 (List.isChain_append.1 hsteps).2.1).1

/-- A sweep over two days, the second of which lies in the future, with an account in the currency
of the roll-up and one in another currency, for both of which there are rates. -/
theorem rollUp_agrees_of_two_days :
    let today : Date := ⟨738550, by decide, by decide⟩
    let now : Timestamp := ⟨today, 0, 0⟩
    let accounts : List Account := [.create "savings" "EUR" now, .create "cash" "GBP" now]
    let op : Operation :=
      .adjustment ⟨"rent", now, today, "GBP", (1 : Float).toBits, [], none⟩ ⟨"cash", 1⟩
    let files : List MonthlyRates := [⟨"2023-01", "EUR", [2]⟩, ⟨"2023-01", "GBP", [4]⟩]
    let period : Period := ⟨today, today.addDays 1⟩
    (accounts.map (·.name)).Nodup ∧
      ∃ book b, files.foldlM RateBook.insert .empty = .ok book ∧
        book.rate today "GBP" "EUR" = .ok (2 / 4) ∧
        Sweep.run (Store.load [op]) today .any (some period)
          (create accounts "EUR" today book.rate) = ⟨b, .ok ⟨period, 2, 1⟩⟩ ∧
        ∃ rollUp, b.rollUp = some rollUp ∧
          ∀ p ∈ (rollUp.get .month).points, ∃ d ∈ period.days,
            b.worthOn book.rate accounts "EUR" today d = some p.total ∧
              (rollUp.get .day).totalAt? d = some p.total := by
  intro today now accounts op files period
  have hnames : (accounts.map (·.name)).Nodup := by decide
  have hmonth : today.monthIndex = 24276 := by decide +kernel
  have hday : today.day = 31 := by decide +kernel
  let euros : Months := (∅ : Months).insert 24276 [2]
  let pounds : Months := (∅ : Months).insert 24276 [4]
  let book : RateBook :=
    ⟨((∅ : Std.ExtTreeMap String Months).insert "EUR" euros).insert "GBP" pounds⟩
  have hbook : files.foldlM RateBook.insert .empty = .ok book := rfl
  have hrate : book.rate today "GBP" "EUR" = .ok (2 / 4) := by
    have heur : book.baseRate today "EUR" = .ok 2 := by
      rw [RateBook.baseRate, hmonth, hday]
      rfl
    have hgbp : book.baseRate today "GBP" = .ok 4 := by
      rw [RateBook.baseRate, hmonth, hday]
      rfl
    rw [RateBook.rate, heur, hgbp]
    rfl
  have heur : book.KnowsBy today "EUR" :=
    .inr ⟨24276, [2], 0, rfl, Nat.one_pos, .inr ⟨hmonth.symm, Nat.zero_le _⟩⟩
  have hgbp : book.KnowsBy today "GBP" :=
    .inr ⟨24276, [4], 0, rfl, Nat.one_pos, .inr ⟨hmonth.symm, Nat.zero_le _⟩⟩
  obtain ⟨b, hrun⟩ : ∃ b, Sweep.run (Store.load [op]) today .any (some period)
      (create accounts "EUR" today book.rate) = ⟨b, .ok ⟨period, 2, 1⟩⟩ := by
    have hsort : Operation.sortLog [op] = [op] := List.mergeSort_singleton op
    have hplay : (play (create accounts "EUR" today book.rate)
        (scriptOf (fun _ => true) [op] today (periodOf [op] today (some period)))).error = none :=
      (inStep_create accounts "EUR" today book.rate).error_play_script (by decide +kernel)
        (by intro g; cases g <;> decide +kernel) heur
        (List.forall_mem_cons.2 ⟨heur, List.forall_mem_singleton.2 hgbp⟩)
    apply Outcome.exists_eq_of_toOption
    rw [run_load [op] today (m := fun _ => true) rfl, hsort, outcome, hplay]
    decide +kernel
  obtain ⟨rollUp, hrollUp, hagrees⟩ :=
    rollUp_agrees accounts hnames book "EUR" today today [op] .any (some period) b _ hrun
  refine ⟨hnames, book, b, hbook, hrate, hrun, rollUp, hrollUp, fun p hp => ?_⟩
  obtain ⟨d, hd, -, -, hworth, htotal⟩ := (hagrees .month).2.2.1 p hp
  exact ⟨d, hd, hworth, htotal⟩

end Balances

end Cashbook
