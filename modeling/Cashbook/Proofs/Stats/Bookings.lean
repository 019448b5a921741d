import Cashbook.Proofs.Stats.Calls
import Cashbook.Proofs.Stats.Feeding
import Cashbook.Proofs.Store.History

/-!
# One account and all accounts

There are two ways to the balance of an account.  `Balance` goes through the sides of every
operation and picks those that name its account; `Balances` goes through them and looks up the
account of each.  The first way never fails, and the second fails with a name that it cannot look
up.

* `Balance.run_load` — what a sweep makes of the balance of one account.
* `Balances.Books` — what becomes of the balances when some sides are booked one after the other:
  the first of them that names none of the accounts is refused.  It says this of any number of
  calls, one side or a whole sweep, because sides that are booked in two parts (`Books.andThen`) are
  refused as one list.
* `Balances.run_load_create` — what a sweep makes of the balances of all accounts, before it adds
  them up.
* `Balances.agrees_with_balance` — the two ways lead to the same series.
-/

namespace Cashbook

open BucketedSeries Operation Sweep

variable {m : Matcher} {log : List Operation}

/-! ### The balance of one account -/

namespace Balance

/-- **A sweep with the balance of one account** lets it follow what is due on the account. -/
theorem run_load (account : String) (ops : List Operation) (today : Date) {p : Predicate}
    (hp : p.compile = .ok m) (span : Option Period) :
    ∃ summary, run (Store.load ops) today p span (create account) =
      ⟨⟨account, BucketedSeries.follow (Balances.dueAmounts m (sortLog ops) account) .empty
        ((Tracker.create (periodOf (sortLog ops) today span).start today).visits
          (periodOf (sortLog ops) today span).days)⟩, .ok summary⟩ := by
  rw [Sweep.run_load ops today hp, outcome, error_play, scriptOf, play_script]
  generalize (Tracker.create _ today).visits _ = ivs
  have hdays := error_play (create account) (ivs.flatMap (dayScript m (sortLog ops)))
  obtain ⟨haccount, hseries⟩ := (feeds_series account).play_days rfl ivs hdays
  rw [Reply.andThen_of_none hdays]
  refine ⟨_, congrArg₂ Outcome.mk ?_ rfl⟩
  show (play (create account) _).state = _
  exact congrArg₂ Balance.mk haccount hseries

end Balance

namespace Balances

/-! ### Names that are not known -/

/-- Whether the accounts that are held are those with the given names. -/
def Holds (b : Balances) (names : List String) : Prop :=
  ∀ name, b.holdings[name]?.isSome = true ↔ name ∈ names

/-- The first of some sides that names none of the accounts. -/
def stranger? (names : List String) (sides : List Side) : Option Side :=
  sides.find? fun side => side.name ∉ names

/-- Whether a reply is that of the accounts with the given names to some sides that were booked one
after the other: the first side that names none of them was refused. -/
structure Books (names : List String) (sides : List Side) (r : Reply Balances) : Prop where
  holds : r.state.Holds names
  error_eq : r.error = (stranger? names sides).map fun side => .unknownAccount side.name

variable {names : List String} {b : Balances} {r : Reply Balances} {sides more : List Side}

/-- Where no side has been booked. -/
theorem books_nil (hb : b.Holds names) : Books names [] (.ok b) := ⟨hb, rfl⟩

/-- **Booking in two parts** refuses what booking all sides refuses. -/
theorem Books.andThen {f : Balances → Reply Balances} (h : Books names sides r)
    (hf : ∀ {b : Balances}, b.Holds names → Books names more (f b)) :
    Books names (sides ++ more) (r.andThen f) := by
  have hfind : stranger? names (sides ++ more) =
      (stranger? names sides).or (stranger? names more) := List.find?_append
  have herror := h.error_eq
  cases hstranger : stranger? names sides with
  | some side =>
      rw [hstranger] at herror hfind
      rw [Reply.andThen_of_error herror]
      exact ⟨h.holds, by rw [herror, hfind]; rfl⟩
  | none =>
      rw [hstranger] at herror hfind
      rw [Reply.andThen_of_none herror]
      obtain ⟨hholds, hrest⟩ := hf h.holds
      exact ⟨hholds, by rw [hrest, hfind]; rfl⟩

/-- Crediting accounts leaves the accounts that are held. -/
theorem Holds.credit (hb : b.Holds names) (amounts : String → List Float) :
    (b.credit amounts).Holds names := by
  intro name
  rw [← hb name, Balances.credit, Std.ExtTreeMap.getElem?_map, Option.isSome_map]

/-- The sides of one operation. -/
theorem books_book (hb : b.Holds names) (sides : List Side) : Books names sides (b.book sides) := by
  have hstranger : (fun side => !b.knows side) = fun side => decide (side.name ∉ names) := by
    funext side
    rw [knows, series?, Option.isSome_map, Bool.eq_iff_iff, decide_eq_true_eq, ← hb side.name,
      Bool.not_eq_true', Bool.not_eq_true]
  rw [book_eq, hstranger]
  exact ⟨hb.credit _, rfl⟩

/-- The operations of a day. -/
theorem books_play_process (hb : b.Holds names) (ops : List Operation) :
    Books names (ops.flatMap (·.sides)) (play b (ops.map .process)) := by
  induction ops generalizing b with
  | nil => exact books_nil hb
  | cons op ops ih => exact (books_book hb op.sides).andThen ih

/-- A new day leaves the accounts that are held. -/
theorem Holds.newDay (hb : b.Holds names) (iv : Intervals) : (b.newDay iv).Holds names := by
  intro name
  rw [← hb name, Balances.newDay, Std.ExtTreeMap.getElem?_map, Option.isSome_map]

/-- The days of a sweep. -/
theorem books_play_days (hb : b.Holds names) (ivs : List Intervals) :
    Books names ((ivs.flatMap fun iv => due m log iv.date).flatMap (·.sides))
      (play b (ivs.flatMap (dayScript m log))) := by
  induction ivs generalizing b with
  | nil => exact books_nil hb
  | cons iv ivs ih =>
      rw [List.flatMap_cons, List.flatMap_cons, List.flatMap_append, play_append]
      exact (books_play_process (hb.newDay iv) (due m log iv.date)).andThen ih

/-- The accounts that are opened are held. -/
theorem holds_create (accounts : List Account) (currency : String) (today : Date)
    (table : RateTable) :
    (create accounts currency today table).Holds (accounts.map (·.name)) := by
  intro name
  constructor
  · intro h
    by_contra hname
    rw [getElem?_create_of_not_mem hname] at h
    cases h
  · intro h
    obtain ⟨a, ha, rfl⟩ := List.mem_map.1 h
    obtain ⟨b, hb⟩ := exists_getElem?_create currency today table ha
    rw [hb]
    rfl

/-! ### Adding up -/

/-- Whether an error is one of adding up: a missing rate, or series that do not fit. -/
def IsAddingUp : Error → Prop
  | .rate _ => True
  | .misaligned => True
  | _ => False

/-- What the accounts are worth in one bucket. -/
theorem isAddingUp_worth {currency : String} {date : Date} {rates : RateCache} {sum : Worth}
    {accounts : List Pending} {e : Error}
    (h : (worth currency date rates sum accounts).1 = .error e) : IsAddingUp e := by
  induction accounts generalizing rates sum with
  | nil => cases h
  | cons a accounts ih =>
      rw [worth] at h
      split at h
      case h_1 =>
        cases h
        trivial
      case h_2 =>
        split at h
        case h_1 =>
          cases h
          trivial
        case h_2 =>
          dsimp only at h
          split at h
          case h_1 e rates hrest =>
            cases h
            exact ih (congrArg Prod.fst hrest)
          case h_2 => cases h

/-- The points of one granularity. -/
theorem isAddingUp_rollUpFrom {g : Granularity} {rates : RateCache} {previous : Option Float}
    {accounts : List Pending} {dates : List Date} {e : Error}
    (h : (b.rollUpFrom g rates previous accounts dates).1 = .error e) : IsAddingUp e := by
  induction dates generalizing rates previous accounts with
  | nil => cases h
  | cons d dates ih =>
      rw [rollUpFrom] at h
      split at h
      case h_1 e rates hworth =>
        cases h
        exact isAddingUp_worth (congrArg Prod.fst hworth)
      case h_2 =>
        split at h
        case h_1 e rates hrest =>
          cases h
          exact ih (congrArg Prod.fst hrest)
        case h_2 => cases h

/-- Adding up may fail, but it does not look up any account, and the balances stay as they are. -/
theorem finish_spec (b : Balances) :
    (∀ e ∈ b.finish.error, IsAddingUp e) ∧ b.finish.state.holdings = b.holdings := by
  rw [finish]
  split
  case h_1 e rates htraverse =>
    refine ⟨fun e' he => ?_, rfl⟩
    cases he
    obtain ⟨-, -, herror⟩ := ByGranularity.traverse_spec (f := b.rollUpOf) (s := b.rates)
      (I := fun _ => True) (fun _ _ h => h) trivial
    obtain ⟨g, rates', -, hg⟩ := herror e (congrArg Prod.fst htraverse)
    rw [rollUpOf] at hg
    split at hg
    case h_1 e rates hpoints =>
      cases hg
      exact isAddingUp_rollUpFrom (congrArg Prod.fst hpoints)
    case h_2 => cases hg
  case h_2 => exact ⟨fun e he => absurd he (Option.not_mem_none e), rfl⟩

/-! ### A whole sweep -/

variable {p : Predicate} {accounts : List Account}

/-- **A sweep with the balances of all accounts** books what it hands over and then adds the
balances up.  If nothing is refused, each of them has followed what is due on its account. -/
theorem run_load_create (accounts : List Account) (currency : String) (now : Date)
    (table : RateTable) (ops : List Operation) (today : Date) (hp : p.compile = .ok m)
    (span : Option Period) :
    let period := periodOf (sortLog ops) today span
    ∃ r summary, run (Store.load ops) today p span (create accounts currency now table) =
        outcome (r.andThen finish) summary ∧
      Books (accounts.map (·.name)) ((handedOver m (sortLog ops) period).flatMap (·.sides)) r ∧
      (r.error = none → ∀ a ∈ accounts, r.state.series? a.name =
        some (BucketedSeries.follow (dueAmounts m (sortLog ops) a.name) .empty
          ((Tracker.create period.start today).visits period.days))) := by
  intro period
  let ivs := (Tracker.create period.start today).visits period.days
  let b := create accounts currency now table
  have hrun := run_load ops today hp span b
  rw [scriptOf, play_script] at hrun
  refine ⟨play b (ivs.flatMap (dayScript m (sortLog ops))), _, hrun, ?_, fun herror a ha => ?_⟩
  · rw [← flatMap_due_visits m (chronological_sortLog ops) (.create period.start today)]
    exact books_play_days (holds_create accounts currency now table) ivs
  · rw [play_script_days b ivs herror]
    exact series?_follow_create ha _ ivs

/-- The operations that a sweep over a store hands over, as far as the reducer takes them. -/
def handedOverBy (m : Matcher) (store : Store) (today : Date) (span : Option Period) :
    List Operation :=
  (store.log.map fun log => handedOver m log (periodOf log today span)).getD []

/-- **One account and all accounts agree.**  A sweep over any store, with the balances of any
accounts, fails for an unknown account exactly if a side of an operation that is handed over names
none of the accounts, and then it reports the first of them.  Otherwise the series of each account
is the one that a sweep with the balance of this account alone has. -/
theorem agrees_with_balance (actions : List Store.Action) (hp : p.compile = .ok m)
    (accounts : List Account) (currency : String) (now : Date) (table : RateTable) (today : Date)
    (span : Option Period) :
    let store := Store.after actions
    let all := run store today p span (create accounts currency now table)
    (∀ name, all.result = .error (.unknownAccount name) ↔
        (stranger? (accounts.map (·.name))
          ((handedOverBy m store today span).flatMap (·.sides))).map (·.name) = some name) ∧
      ((∀ name, all.result ≠ .error (.unknownAccount name)) →
        ∀ a ∈ accounts, all.state.series? a.name =
          some (run store today p span (Balance.create a.name)).state.series) := by
  intro store all
  rcases Store.reached actions with ⟨hempty, -⟩ | ⟨⟨ops, hops⟩, -⟩
  · have hall : all = ⟨create accounts currency now table, .error .notLoaded⟩ :=
      congrArg (run · today p span (create accounts currency now table)) hempty
    have hsides : handedOverBy m store today span = [] :=
      congrArg (handedOverBy m · today span) hempty
    have hsingle (name : String) : run store today p span (Balance.create name) =
        ⟨Balance.create name, .error .notLoaded⟩ :=
      congrArg (run · today p span (Balance.create name)) hempty
    refine ⟨fun name => ?_, fun _ a ha => ?_⟩
    · rw [hall, hsides]
      exact ⟨nofun, nofun⟩
    · rw [hall, hsingle]
      exact series?_follow_create ha (fun _ _ => []) []
  · obtain ⟨r, summary, hrun, hbooks, hseries⟩ :=
      run_load_create accounts currency now table ops today hp span
    have hall : all = outcome (r.andThen finish) summary :=
      (congrArg (run · today p span (create accounts currency now table)) hops).trans hrun
    have hsides : handedOverBy m store today span =
        handedOver m (sortLog ops) (periodOf (sortLog ops) today span) :=
      congrArg (handedOverBy m · today span) hops
    have herror := hbooks.error_eq
    rw [hall, hsides, state_outcome]
    simp only [ne_eq, result_outcome_eq_error_iff]
    cases hstranger : stranger? (accounts.map (·.name))
        ((handedOver m (sortLog ops) (periodOf (sortLog ops) today span)).flatMap (·.sides)) with
    | some side =>
        -- the sweep ends before the balances are added up
        rw [hstranger] at herror
        rw [Reply.andThen_of_error herror, herror]
        simp
    | none =>
        rw [hstranger] at herror
        obtain ⟨hadding, hholdings⟩ := finish_spec r.state
        rw [Reply.andThen_of_none herror]
        refine ⟨fun name => ⟨fun h => (hadding _ h).elim, nofun⟩, fun _ a ha => ?_⟩
        obtain ⟨single, hsingle⟩ := Balance.run_load a.name ops today hp span
        have hstore : run store today p span (Balance.create a.name) = _ :=
          (congrArg (run · today p span (Balance.create a.name)) hops).trans hsingle
        rw [hstore, series?, hholdings]
        exact hseries herror a ha

/-- A transfer from one account to another: with both of them the sweep has the balance of the
second, and with the first alone it does not know the second. -/
theorem agrees_with_balance_of_transfer :
    let op : Operation :=
      .transfer ⟨"rent", ⟨.first, 0, 0⟩, .first, "EUR", (1 : Float).toBits, [], none⟩
        ⟨"cash", -1⟩ ⟨"bank", 1⟩
    let store := Store.after [.load [op]]
    let cash : Account := .create "cash" "EUR" ⟨.first, 0, 0⟩
    let bank : Account := .create "bank" "EUR" ⟨.first, 0, 0⟩
    let all (accounts : List Account) := run store .first .any none
      (create accounts "EUR" .first RateBook.empty.rate)
    Predicate.any.compile = .ok (fun _ => true) ∧
      (all [cash]).result = .error (.unknownAccount "bank") ∧
      (all [cash, bank]).state.series? "bank" =
        some (run store .first .any none (Balance.create "bank")).state.series := by
  intro op store cash bank all
  have hsort : sortLog [op] = [op] := List.mergeSort_singleton op
  have hsides : handedOverBy (fun _ => true) store .first none = [op] := by
    show handedOverBy _ (Store.load [op]) .first none = [op]
    rw [Store.load, hsort]
    decide +kernel
  have hagrees (accounts : List Account) := agrees_with_balance [.load [op]]
    (p := .any) (m := fun _ => true) rfl accounts "EUR" .first RateBook.empty.rate .first none
  refine ⟨rfl, ((hagrees [cash]).1 "bank").2 ?_,
    (hagrees [cash, bank]).2 (fun name h => ?_) bank ?_⟩
  · rw [hsides]
    decide
  · have hknown : stranger? ([cash, bank].map (·.name)) ([op].flatMap (·.sides)) = none := rfl
    rw [(hagrees [cash, bank]).1, hsides, hknown] at h
    cases h
  · decide

end Balances

end Cashbook
