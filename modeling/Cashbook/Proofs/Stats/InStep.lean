import Cashbook.Proofs.Rates.Extension
import Cashbook.Proofs.Rates.Memo
import Cashbook.Proofs.Stats.Holdings

/-!
# The accounts stay in step

The roll-up goes through the buckets of the calendar, and in each of them through all accounts.  It
needs the currency of every account and a point of its series, with a total and a change, for every
bucket.  That these are there is not checked beforehand: an account that ran out of points would end
the roll-up as `Error.misaligned`.

This never happens (`Balances.accounts_stay_in_step`), whatever has been called before, in which
order, and whether or not the calls succeeded.  What carries it is an invariant of single calls:

* `BucketedSeries.SameDays` — two series have points for the same days.  Beginning a day keeps it,
  and adding amounts does not matter to it.
* `Balances.InStep` — every account that was opened is held in its currency, with a series that has
  the days of the calendar.  `InStep.send` takes it over one call, also over a booking that stops
  half-way, which `Balances.book_eq` shows to credit amounts to accounts like any other.
* `Balances.Asks` — what adding up does where the accounts are in step: it asks for rates, and fails
  only for want of one.  So a sweep of a book that knows the currencies early enough succeeds if its
  bookings do (`InStep.error_play_script`).
-/

namespace Cashbook

open Sweep

/-! ### The days of a series -/

namespace BucketedSeries

variable {α : Type} {s t : BucketedSeries α}

/-- Whether two series have points for the same days. -/
def SameDays (s t : BucketedSeries α) : Prop := ∀ g, (s.get g).dates = (t.get g).dates

/-- As many points go with the same days. -/
theorem SameDays.length_points (h : s.SameDays t) (g : Granularity) :
    (s.get g).points.length = (t.get g).size := by
  have hlength := congrArg List.length (h g)
  simpa [Series.dates, Series.points, Series.size] using hlength

/-- Where one series has a day, the other one has a point for it. -/
theorem SameDays.exists_point (h : s.SameDays t) {g : Granularity} {i : ℕ} {d : Date}
    (hd : (t.get g).dates[i]? = some d) : ∃ p, (s.get g).points[i]? = some p ∧ p.date = d := by
  rw [← h g, Series.dates, List.getElem?_map, Option.map_eq_some_iff] at hd
  exact hd

theorem dates_newDay [Zero α] (s : BucketedSeries α) (iv : Intervals) (g : Granularity) :
    ((s.newDay iv).get g).dates =
      if iv.opens g then (s.get g).dates ++ [(iv.get g).start] else (s.get g).dates := by
  split
  case isTrue h => rw [Series.dates, points_newDay_of_opens h, List.map_append]; rfl
  case isFalse h => rw [get_newDay_of_not_opens (eq_false_of_ne_true h)]

/-- A new day opens the same buckets in both series. -/
theorem SameDays.newDay [Zero α] (h : s.SameDays t) (iv : Intervals) :
    (s.newDay iv).SameDays (t.newDay iv) := fun g => by
  rw [dates_newDay, dates_newDay, h g]

theorem dates_add [Add α] (s : BucketedSeries α) (v : α) (g : Granularity) :
    ((s.add v).get g).dates = (s.get g).dates := by
  rw [add, get, ByGranularity.get_map]
  show Series.dates (Series.modifyOpen (s.get g) (addTo v)) = _
  rw [Series.modifyOpen]
  split
  case h_1 => rfl
  case h_2 p ps h => simp [Series.dates, Series.points, h, addTo]

/-- Amounts that are added open no bucket. -/
theorem SameDays.addAll [Add α] (h : s.SameDays t) (vs : List α) : (s.addAll vs).SameDays t := by
  induction vs generalizing s with
  | nil => exact h
  | cons v vs ih => exact ih fun g => (dates_add s v g).trans (h g)

end BucketedSeries

namespace Balances

variable {accounts : List Account} {currency : String} {table : RateTable} {b : Balances}

/-! ### What every call keeps -/

/-- Whether the balances are those of some accounts, with the calendar: every account is there in
its currency, with a series that has the days of the calendar, and the rates that are remembered are
those of the table. -/
structure InStep (accounts : List Account) (currency : String) (table : RateTable) (b : Balances) :
    Prop where
  currency_eq : b.currency = currency
  rates : b.rates.IsFaithful table
  /-- Of several accounts with one name the last one counts. -/
  holds : ∀ (name c : String), (b.holdings[name]?).map (·.currency) = some c ↔
    ∃ a ∈ lastNamed accounts, a.name = name ∧ a.currency = c
  sameDays : ∀ (name : String) (held : Holding), b.holdings[name]? = some held →
    held.series.SameDays b.calendar

/-- Accounts that are opened have no points yet. -/
theorem inStep_create (accounts : List Account) (currency : String) (today : Date)
    (table : RateTable) :
    InStep accounts currency table (create accounts currency today table) := by
  have hheld (name : String) (held : Holding) :
      (create accounts currency today table).holdings[name]? = some held ↔
        ∃ a ∈ lastNamed accounts, a.name = name ∧ opened a = held := by
    rw [← create_lastNamed, getElem?_create_eq_some_iff (nodup_lastNamed accounts)]
  refine ⟨rfl, RateCache.isFaithful_create table, fun name c => ?_, fun name held h => ?_⟩
  · simp only [Option.map_eq_some_iff, hheld]
    constructor
    · rintro ⟨_, ⟨a, ha, hname, rfl⟩, hc⟩
      exact ⟨a, ha, hname, hc⟩
    · rintro ⟨a, ha, hname, hc⟩
      exact ⟨opened a, ⟨a, ha, hname, rfl⟩, hc⟩
  · obtain ⟨a, -, -, rfl⟩ := (hheld name held).1 h
    exact fun g => rfl

/-- Changes to the series of all accounts and to the calendar that leave them with the same days. -/
theorem InStep.map (hb : InStep accounts currency table b)
    {f : String → BucketedSeries Float → BucketedSeries Float} {calendar : BucketedSeries Float}
    (h : ∀ name s, s.SameDays b.calendar → (f name s).SameDays calendar) (lastDay : Option Date) :
    InStep accounts currency table
      { b with
        calendar := calendar
        holdings := b.holdings.map fun name held => { held with series := f name held.series }
        lastDay := lastDay } where
  currency_eq := hb.currency_eq
  rates := hb.rates
  holds name c := by
    rw [← hb.holds name c, Std.ExtTreeMap.getElem?_map, Option.map_map]
    rfl
  sameDays name held hheld := by
    rw [Std.ExtTreeMap.getElem?_map, Option.map_eq_some_iff] at hheld
    obtain ⟨held, hheld, rfl⟩ := hheld
    exact h name _ (hb.sameDays name held hheld)

theorem InStep.newDay (hb : InStep accounts currency table b) (iv : Intervals) :
    InStep accounts currency table (b.newDay iv) :=
  hb.map (fun _ _ h => h.newDay iv) (some iv.date)

/-- An operation, whether or not all its sides are booked. -/
theorem InStep.book (hb : InStep accounts currency table b) (sides : List Side) :
    InStep accounts currency table (b.book sides).state := by
  rw [book_eq]
  exact hb.map (fun _ _ h => h.addAll _) b.lastDay

/-! ### Asking for rates -/

/-- A result of converting amounts from the currencies `sources` on the days `dates`: it is there
only if all rates are, and otherwise one of them is missing. -/
inductive Asks {α : Type} (table : RateTable) (currency : String) (dates : List Date)
    (sources : List String) : Except Error α → Prop
  | ok (v : α) (h : ∀ d ∈ dates, ∀ c ∈ sources, ∃ rate, table.withSelf d c currency = .ok rate) :
      Asks table currency dates sources (.ok v)
  | error {missing : RateError} {d : Date} {c : String} (hd : d ∈ dates) (hc : c ∈ sources)
      (h : table.withSelf d c currency = .error missing) :
      Asks table currency dates sources (.error (.rate missing))

variable {α β : Type} {dates dates' : List Date} {sources sources' : List String}
    {rates : RateCache}

/-- What fails for want of a rate fails as a part of more for want of the same rate. -/
theorem Asks.mono {e : Error}
    (h : Asks table currency dates sources (.error e : Except Error α)) (hd : dates ⊆ dates')
    (hs : sources ⊆ sources') :
    Asks table currency dates' sources' (.error e : Except Error β) := by
  cases h with
  | error hdate hsource hmissing => exact .error (hd hdate) (hs hsource) hmissing

/-- The account without its next point. -/
def Pending.rest (a : Pending) : Pending := ⟨a.currency, a.points.tail⟩

/-- **One bucket**: where every account has a point for it, only a rate can be missing. -/
theorem worth_asks (currency : String) (date : Date) {accounts : List Pending}
    (hc : rates.IsFaithful table) (h : ∀ a ∈ accounts, a.points ≠ []) (sum : Worth) :
    (worth currency date rates sum accounts).2.IsFaithful table ∧
      Asks table currency [date] (accounts.map (·.currency))
        (worth currency date rates sum accounts).1 ∧
      ∀ sum' left, (worth currency date rates sum accounts).1 = .ok (sum', left) →
        left = accounts.map Pending.rest := by
  induction accounts generalizing sum rates with
  | nil =>
      refine ⟨hc, .ok _ fun _ _ c hc => absurd hc List.not_mem_nil, fun sum' left hv => ?_⟩
      cases hv
      rfl
  | cons a accounts ih =>
      obtain ⟨hrate, hfaithful⟩ := RateCache.rate_eq date a.currency currency hc
      rw [worth]
      generalize rates.rate date a.currency currency = r at hrate hfaithful
      obtain ⟨rate, rates'⟩ := r
      cases rate with
      | error e =>
          exact ⟨hfaithful, .error List.mem_cons_self List.mem_cons_self hrate.symm, nofun⟩
      | ok rate =>
          cases hpoints : a.points with
          | nil => exact absurd hpoints (h a List.mem_cons_self)
          | cons p ps =>
              obtain ⟨hrest, hasks, hleft⟩ := ih hfaithful
                (fun a ha => h a (List.mem_cons_of_mem _ ha))
                ⟨sum.total + p.total * rate, sum.change + p.change * rate⟩
              dsimp only
              split
              case h_1 e rates₁ hworth =>
                rw [hworth] at hrest hasks
                exact ⟨hrest, hasks.mono (List.Subset.refl _) (List.subset_cons_self _ _), nofun⟩
              case h_2 sum₁ left₁ rates₁ hworth =>
                rw [hworth] at hrest hasks hleft
                cases hasks with
                | ok _ hall =>
                    refine ⟨hrest, .ok _ fun d hd c hc => ?_, fun sum' left hv => ?_⟩
                    · rcases List.mem_cons.1 hc with rfl | hc
                      · obtain rfl := List.mem_singleton.1 hd
                        exact ⟨rate, hrate.symm⟩
                      · exact hall d hd c hc
                    · cases hv
                      rw [List.map_cons, Pending.rest, hpoints, hleft sum₁ left₁ rfl,
                        List.tail_cons]

/-- The days whose rates value the buckets of `g` that are entered on the given days. -/
def valuationDates (today : Date) (lastDay : Option Date) (g : Granularity) : List Date → List Date
  | [] => []
  | d :: dates =>
      valuationDate today lastDay g d dates.head? :: valuationDates today lastDay g dates

/-- **One bucket after the other**: where every account has as many points as there are buckets,
only a rate can be missing. -/
theorem rollUpFrom_asks (b : Balances) (g : Granularity) {accounts : List Pending}
    (hc : rates.IsFaithful table) (h : ∀ a ∈ accounts, a.points.length = dates.length)
    (previous : Option Float) :
    (b.rollUpFrom g rates previous accounts dates).2.IsFaithful table ∧
      Asks table b.currency (valuationDates b.today b.lastDay g dates) (accounts.map (·.currency))
        (b.rollUpFrom g rates previous accounts dates).1 := by
  induction dates generalizing rates previous accounts with
  | nil => exact ⟨hc, .ok _ fun d hd => absurd hd List.not_mem_nil⟩
  | cons d dates ih =>
      have hne : ∀ a ∈ accounts, a.points ≠ [] := fun a ha =>
        List.ne_nil_of_length_pos (by rw [h a ha]; exact Nat.succ_pos _)
      obtain ⟨hworth, hasks, hleft⟩ := worth_asks b.currency
        (valuationDate b.today b.lastDay g d dates.head?) hc hne ⟨0, 0⟩
      rw [rollUpFrom, valuationDates]
      dsimp only
      split
      case h_1 e rates₁ hresult =>
        rw [hresult] at hworth hasks
        exact ⟨hworth,
          hasks.mono (List.cons_subset_cons _ (List.nil_subset _)) (List.Subset.refl _)⟩
      case h_2 sum left rates₁ hresult =>
        rw [hresult] at hworth hasks hleft
        obtain rfl := hleft sum left rfl
        have hlength : ∀ a ∈ accounts.map Pending.rest, a.points.length = dates.length := by
          intro _ hrest
          obtain ⟨a, ha, rfl⟩ := List.mem_map.1 hrest
          rw [Pending.rest, List.length_tail, h a ha]
          rfl
        obtain ⟨hrates, hrest⟩ := ih hworth hlength (some sum.total)
        rw [List.map_map] at hrest
        split
        case h_1 e rates₂ hresult₂ =>
          rw [hresult₂] at hrates hrest
          exact ⟨hrates, hrest.mono (List.subset_cons_self _ _) (List.Subset.refl _)⟩
        case h_2 points rates₂ hresult₂ =>
          rw [hresult₂] at hrates hrest
          cases hasks with
          | ok _ hfirst =>
              cases hrest with
              | ok _ hothers =>
                  refine ⟨hrates, .ok _ fun d' hd' c hc => ?_⟩
                  rcases List.mem_cons.1 hd' with rfl | hd'
                  · exact hfirst _ (List.mem_singleton_self _) c hc
                  · exact hothers d' hd' c hc

/-- The days whose rates value the buckets of `g`. -/
def valuationDays (b : Balances) (g : Granularity) : List Date :=
  valuationDates b.today b.lastDay g (b.calendar.get g).dates

/-- The currencies of the accounts. -/
def currencies (b : Balances) : List String := b.holdings.values.map (·.currency)

theorem mem_values {held : Holding} :
    held ∈ b.holdings.values ↔ ∃ name : String, b.holdings[name]? = some held := by
  rw [Maps.values_eq, List.mem_map]
  constructor
  · rintro ⟨⟨name, held⟩, hmem, rfl⟩
    exact ⟨name, Std.ExtTreeMap.mem_toList_iff_getElem?_eq_some.1 hmem⟩
  · rintro ⟨name, hname⟩
    exact ⟨(name, held), Std.ExtTreeMap.mem_toList_iff_getElem?_eq_some.2 hname, rfl⟩

/-- The accounts are in the currencies in which they were opened. -/
theorem InStep.mem_currencies (hb : InStep accounts currency table b) {c : String} :
    c ∈ b.currencies ↔ ∃ a ∈ lastNamed accounts, a.currency = c := by
  rw [currencies, List.mem_map]
  constructor
  · rintro ⟨held, hheld, rfl⟩
    obtain ⟨name, hname⟩ := mem_values.1 hheld
    obtain ⟨a, ha, -, hc⟩ := (hb.holds name held.currency).1 (by rw [hname]; rfl)
    exact ⟨a, ha, hc⟩
  · rintro ⟨a, ha, rfl⟩
    obtain ⟨held, hheld, hc⟩ := Option.map_eq_some_iff.1 ((hb.holds a.name _).2 ⟨a, ha, rfl, rfl⟩)
    exact ⟨held, mem_values.2 ⟨a.name, hheld⟩, hc⟩

/-- The roll-up of one granularity. -/
theorem InStep.rollUpOf_asks (hb : InStep accounts currency table b)
    (hc : rates.IsFaithful table) (g : Granularity) :
    (b.rollUpOf g rates).2.IsFaithful table ∧
      Asks table currency (b.valuationDays g) b.currencies (b.rollUpOf g rates).1 := by
  have hlength : ∀ a ∈ b.holdings.values.map fun held =>
      Pending.mk held.currency (held.series.get g).points,
      a.points.length = (b.calendar.get g).dates.length := by
    intro _ hpending
    obtain ⟨held, hheld, rfl⟩ := List.mem_map.1 hpending
    obtain ⟨name, hname⟩ := mem_values.1 hheld
    rw [← hb.sameDays name held hname g, Series.dates, List.length_map]
  obtain ⟨hfaithful, hasks⟩ := rollUpFrom_asks b g hc hlength none
  rw [List.map_map, hb.currency_eq] at hasks
  rw [rollUpOf]
  split
  case h_1 e rates₁ hresult =>
    rw [hresult] at hfaithful hasks
    exact ⟨hfaithful, hasks.mono (List.Subset.refl _) (List.Subset.refl _)⟩
  case h_2 points rates₁ hresult =>
    rw [hresult] at hfaithful hasks
    cases hasks with
    | ok _ h => exact ⟨hfaithful, .ok _ h⟩

/-- Adding up leaves the accounts in step. -/
theorem InStep.finish (hb : InStep accounts currency table b) :
    InStep accounts currency table b.finish.state := by
  obtain ⟨hfaithful, -, -⟩ := ByGranularity.traverse_spec (I := (RateCache.IsFaithful · table))
    (fun g _ hc => (hb.rollUpOf_asks hc g).1) hb.rates
  rw [Balances.finish]
  split
  case h_1 e rates₁ hresult =>
    rw [hresult] at hfaithful
    exact { hb with rates := hfaithful }
  case h_2 rollUp rates₁ hresult =>
    rw [hresult] at hfaithful
    exact { hb with rates := hfaithful }

/-- **Adding up accounts that are in step** succeeds if it has all rates that it asks for, and fails
only for want of one of them. -/
theorem InStep.error_finish (hb : InStep accounts currency table b) :
    (b.finish.error = none → ∀ g, ∀ d ∈ b.valuationDays g, ∀ c ∈ b.currencies,
        ∃ rate, table.withSelf d c currency = .ok rate) ∧
      ∀ e, b.finish.error = some e → ∃ g, ∃ d ∈ b.valuationDays g, ∃ c ∈ b.currencies, ∃ missing,
        table.withSelf d c currency = .error missing ∧ e = .rate missing := by
  obtain ⟨-, hok, herror⟩ := ByGranularity.traverse_spec (I := (RateCache.IsFaithful · table))
    (fun g _ hc => (hb.rollUpOf_asks hc g).1) hb.rates
  rw [Balances.finish]
  split
  case h_1 e rates₁ hresult =>
    refine ⟨nofun, fun e' he => ?_⟩
    cases he
    obtain ⟨g, rates₂, hc, hg⟩ := herror e (congrArg Prod.fst hresult)
    obtain ⟨-, hasks⟩ := hb.rollUpOf_asks hc g
    rw [hg] at hasks
    cases hasks with
    | error hd hsource hmissing => exact ⟨g, _, hd, _, hsource, _, hmissing, rfl⟩
  case h_2 rollUp rates₁ hresult =>
    refine ⟨fun _ g => ?_, fun e he => absurd he (Option.not_mem_none e)⟩
    obtain ⟨rates₂, hc, hg⟩ := hok rollUp (congrArg Prod.fst hresult) g
    obtain ⟨-, hasks⟩ := hb.rollUpOf_asks hc g
    rw [hg] at hasks
    cases hasks with
    | ok _ h => exact h

theorem InStep.error_finish_eq_none_iff (hb : InStep accounts currency table b) :
    b.finish.error = none ↔ ∀ g, ∀ d ∈ b.valuationDays g, ∀ c ∈ b.currencies,
      ∃ rate, table.withSelf d c currency = .ok rate := by
  obtain ⟨hok, herror⟩ := hb.error_finish
  refine ⟨hok, fun hrates => Option.eq_none_iff_forall_ne_some.2 fun e he => ?_⟩
  obtain ⟨g, d, hd, c, hc, missing, hnone, -⟩ := herror e he
  obtain ⟨rate, hrate⟩ := hrates g d hd c hc
  rw [hrate] at hnone
  cases hnone

/-! ### Any calls -/

/-- **One call.** -/
theorem InStep.send (hb : InStep accounts currency table b) (e : Event) :
    InStep accounts currency table (e.send b).state := by
  cases e with
  | newDay iv => exact hb.newDay iv
  | process op => exact hb.book op.sides
  | done => exact hb.finish

/-- **Any calls**, also after one that failed. -/
theorem InStep.sends (hb : InStep accounts currency table b) (calls : List Event) :
    InStep accounts currency table (calls.foldl (fun b e => (e.send b).state) b) := by
  induction calls generalizing b with
  | nil => exact hb
  | cons e calls ih => exact ih (hb.send e)

/-- Calls up to one that fails. -/
theorem InStep.state_play (hb : InStep accounts currency table b) (es : List Event) :
    InStep accounts currency table (play b es).state := by
  induction es generalizing b with
  | nil => exact hb
  | cons e es ih =>
      rw [play_cons]
      cases herror : (e.send b).error with
      | none =>
          rw [Reply.andThen_of_none herror]
          exact ih (hb.send e)
      | some error =>
          rw [Reply.andThen_of_error herror]
          exact hb.send e

/-- **A sweep whose days succeed** succeeds in the end if the rates of all currencies are known by
the days that value a bucket. -/
theorem InStep.error_play_script {book : RateBook} (hb : InStep accounts currency book.rate b)
    {m : Matcher} {log : List Operation} {ivs : List Intervals}
    (hdays : (play b (ivs.flatMap (dayScript m log))).error = none) {s : Date}
    (hs : ∀ g, ∀ d ∈ (play b (ivs.flatMap (dayScript m log))).state.valuationDays g, s ≤ d)
    (hcurrency : book.KnowsBy s currency) (hknown : ∀ a ∈ accounts, book.KnowsBy s a.currency) :
    (play b (script m log ivs)).error = none := by
  rw [play_script, Reply.andThen_of_none hdays]
  refine (hb.state_play _).error_finish_eq_none_iff.2 fun g d hd c hc => ?_
  obtain ⟨a, ha, rfl⟩ := (hb.state_play _).mem_currencies.1 hc
  have hsource := (hknown a (List.pwFilter_subset accounts ha)).mono (hs g d hd)
  rw [RateBook.withSelf_rate]
  exact hsource.exists_rate (hcurrency.mono (hs g d hd))

/-- **The accounts stay in step**, whatever has been called before and whether or not it succeeded.
Each account is in the currency of the last one that was opened under its name, and its series has
the days of the calendar, with a point for each of them and as many totals and changes.  So adding
up can only fail for want of a rate: it does so if and only if a rate is missing that is needed to
convert from the currency of an account on a day that values a bucket, and it reports such a
rate. -/
theorem accounts_stay_in_step (accounts : List Account) (currency : String) (today : Date)
    (table : RateTable) (calls : List Event) :
    let b := calls.foldl (fun b e => (e.send b).state) (create accounts currency today table)
    (∀ (name : String) (held : Holding), b.holdings[name]? = some held →
      (∃ a ∈ lastNamed accounts, a.name = name ∧ a.currency = held.currency) ∧
        ∀ g, (held.series.get g).dates = (b.calendar.get g).dates ∧
          ((held.series.get g).points.map (·.total)).length = (b.calendar.get g).size ∧
          ((held.series.get g).points.map (·.change)).length = (b.calendar.get g).size ∧
          ∀ (i : ℕ) (d : Date), (b.calendar.get g).dates[i]? = some d →
            ∃ p : Point Float, (held.series.get g).points[i]? = some p ∧ p.date = d) ∧
      (∀ a ∈ accounts, (b.holdings[a.name]?).isSome) ∧
      ((Reducer.done b).error = none ↔ ∀ g, ∀ d ∈ b.valuationDays g, ∀ a ∈ lastNamed accounts,
        ∃ rate, table.withSelf d a.currency currency = .ok rate) ∧
      (∀ e, (Reducer.done b).error = some e →
        ∃ g, ∃ d ∈ b.valuationDays g, ∃ a ∈ lastNamed accounts, ∃ missing,
          table.withSelf d a.currency currency = .error missing ∧ e = .rate missing) ∧
      ∀ book : RateBook, table = book.rate → ∀ e, (Reducer.done b).error = some e →
        ∃ g, ∃ d ∈ b.valuationDays g, ∃ a ∈ lastNamed accounts, ∃ c ∈ [a.currency, currency],
          e = .rate (.missing c d) := by
  intro b
  have hb : InStep accounts currency table b :=
    (inStep_create accounts currency today table).sends calls
  have hmissing : ∀ e, (Reducer.done b).error = some e → ∃ g, ∃ d ∈ b.valuationDays g,
      ∃ a ∈ lastNamed accounts, ∃ missing,
        table.withSelf d a.currency currency = .error missing ∧ e = .rate missing := by
    intro e he
    obtain ⟨g, d, hd, c, hc, missing, h⟩ := hb.error_finish.2 e he
    obtain ⟨a, ha, rfl⟩ := hb.mem_currencies.1 hc
    exact ⟨g, d, hd, a, ha, missing, h⟩
  refine ⟨fun name held hheld => ⟨?_, fun g => ⟨?_, ?_, ?_, ?_⟩⟩, ?_, ⟨?_, ?_⟩, hmissing, ?_⟩
  · exact (hb.holds name held.currency).1 (by rw [hheld]; rfl)
  · exact hb.sameDays name held hheld g
  · rw [List.length_map, (hb.sameDays name held hheld).length_points g]
  · rw [List.length_map, (hb.sameDays name held hheld).length_points g]
  · intro i d hd
    exact (hb.sameDays name held hheld).exists_point hd
  · intro a ha
    obtain ⟨a', ha', hname⟩ := exists_mem_lastNamed ha
    have hheld := (hb.holds a.name _).2 ⟨a', ha', hname, rfl⟩
    rw [← Option.isSome_map, hheld]
    rfl
  · intro h g d hd a ha
    have hc := hb.mem_currencies.2 ⟨a, ha, rfl⟩
    exact hb.error_finish_eq_none_iff.1 h g d hd a.currency hc
  · intro hrates
    refine hb.error_finish_eq_none_iff.2 fun g d hd c hc => ?_
    obtain ⟨a, ha, rfl⟩ := hb.mem_currencies.1 hc
    exact hrates g d hd a ha
  · rintro book rfl e he
    obtain ⟨g, d, hd, a, ha, missing, hnone, rfl⟩ := hmissing e he
    rw [RateBook.withSelf_rate] at hnone
    obtain ⟨c, hc, rfl⟩ := RateBook.exists_missing_of_rate hnone
    exact ⟨g, d, hd, a, ha, c, hc, rfl⟩

end Balances

end Cashbook
