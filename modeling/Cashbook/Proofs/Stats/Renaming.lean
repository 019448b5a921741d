import Cashbook.Proofs.Stats.Feeding
import Cashbook.Proofs.Stats.Rewriting
import Cashbook.Proofs.Store.History
import Cashbook.Stats.Goals

/-!
# Statistics before and after a renaming

An account or a category that gets a name which nothing bears keeps its statistics, as long as the
filter and the reducer ask for the new name.

* `Balance.send_alike` — the balance of the new account answers the amended operations as the
  balance of the old one answered the others.
* `Goals.send_alike` — the same for what is booked on a category with a goal.  Other categories may
  have goals too, and a rate that is missing for one of them ends the sweep.  If the same ones have
  goals before and after, both sweeps end there; if not, one can only compare sweeps that succeed.
* `Store.renaming_keeps_statistics` — the log, the sweeps, the balances and the goals.
-/

namespace Cashbook

open Operation Sweep

variable {old new : String} {now : Timestamp}

/-! ### The balance of an account -/

namespace Balance

/-- Whether the second balance is that of the account `new`, and like the first one, which is that
of the account `old`. -/
structure Follows (old new : String) (b b' : Balance) : Prop where
  account_eq : b.account = old
  account_eq' : b'.account = new
  series_eq : b'.series = b.series

/-- The sides that name the new account are those that named the old one. -/
theorem filter_sides_withAccount {op : Operation} (hop : op.touchesAccount new = false) :
    (op.withAccount old new now).sides.filter (·.name = new) =
      (op.sides.filter (·.name = old)).map fun s => { s with name := renamed old new s.name } := by
  rw [sides_withAccount, List.filter_map]
  refine congrArg (List.map _) (List.filter_congr fun s hs => ?_)
  rw [touchesAccount, List.any_eq_false] at hop
  have hname : s.name ≠ new := fun heq => hop s hs (decide_eq_true heq)
  exact decide_eq_decide.2 (renamed_eq_new_iff hname)

/-- No call tells the balances apart. -/
theorem send_alike (now : Timestamp) {e : Event}
    (he : ∀ op, e = .process op → op.touchesAccount new = false)
    {b b' : Balance} (h : Follows old new b b') :
    Reply.Alike True (Follows old new) (e.send b) ((e.map (withAccount old new now)).send b') := by
  obtain ⟨haccount, haccount', hseries⟩ := h
  cases e with
  | newDay iv => exact .ok ⟨haccount, haccount', congrArg (BucketedSeries.newDay · iv) hseries⟩
  | process op =>
      refine .ok ⟨haccount, haccount', ?_⟩
      show (((op.withAccount old new now).sides.filter (·.name = b'.account)).foldl _ b'.series) = _
      rw [haccount', filter_sides_withAccount (he op rfl), List.foldl_map, hseries, book, haccount]
  | done => exact .ok ⟨haccount, haccount', hseries⟩

end Balance

/-! ### What is booked on a category -/

namespace Goals

variable {table : RateTable} {g g' : Goals} {h : Head} {split : Split}

/-- What a share of an operation comes to in the currency of the goals, or why there is no rate for
it, if its category has a goal. -/
def share? (table : RateTable) (g : Goals) (h : Head) (split : Split) :
    Option (Except RateError Float) :=
  if (g.goal? split.name).isSome then
    some ((if h.currency = g.currency then .ok 1 else table h.date h.currency g.currency).map
      (split.amount * ·))
  else none

/-- The failure of a share that comes to no amount. -/
def refusal? : Option (Except RateError Float) → Option Error
  | some (.error e) => some (.rate e)
  | _ => none

/-- The amounts booked after a share of a category in a year. -/
def bookedAfter (g : Goals) (category : String) (year : Int) :
    Option (Except RateError Float) → Std.ExtTreeMap String (Std.ExtTreeMap Int Float)
  | some (.ok v) => (g.book category year v).booked
  | _ => g.booked

/-- **One share** is booked at the rate of the table, if its category has a goal. -/
theorem bookSplits_singleton (hg : g.rates.IsFaithful table) (h : Head) (split : Split) :
    ∃ rates, RateCache.IsFaithful rates table ∧
      g.bookSplits h [split] =
        ⟨{ g with
            rates := rates
            booked := g.bookedAfter split.name h.date.year (share? table g h split) },
          refusal? (share? table g h split)⟩ := by
  rw [bookSplits, share?]
  split
  case isTrue =>
    obtain ⟨hrate, hfaithful⟩ := RateCache.rate_eq h.date h.currency g.currency hg
    rw [RateTable.withSelf] at hrate
    refine ⟨_, hfaithful, ?_⟩
    rw [RateCache.convert, ← hrate]
    cases (g.rates.rate h.date h.currency g.currency).1 <;> rfl
  case isFalse => exact ⟨g.rates, hg, rfl⟩

/-- The shares of an operation are booked one after the other. -/
theorem bookSplits_cons (g : Goals) (h : Head) (split : Split) (splits : List Split) :
    g.bookSplits h (split :: splits) =
      (g.bookSplits h [split]).andThen (·.bookSplits h splits) := by
  rw [bookSplits, bookSplits]
  split
  case isTrue =>
    split
    case h_1 => rfl
    case h_2 => rfl
  case isFalse => rfl

/-- A share changes what is booked on its own category only. -/
theorem getElem?_bookedAfter {category name : String} (hname : name ≠ category) (year : Int)
    (share : Option (Except RateError Float)) :
    (g.bookedAfter category year share)[name]? = g.booked[name]? := by
  unfold bookedAfter
  split
  case h_1 v =>
    have hcmp : compare category name ≠ .eq := fun heq =>
      hname (Std.LawfulEqCmp.eq_of_compare heq).symm
    rw [book, Std.ExtTreeMap.getElem?_alter, if_neg hcmp]
  case h_2 => rfl

/-- What is booked on the category of a share depends on what was booked on it. -/
theorem getElem?_bookedAfter_congr {category category' : String}
    (h : g'.booked[category']? = g.booked[category]?) (year : Int)
    (share : Option (Except RateError Float)) :
    (g'.bookedAfter category' year share)[category']? =
      (g.bookedAfter category year share)[category]? := by
  unfold bookedAfter
  split
  case h_1 v =>
    rw [book, book, Std.ExtTreeMap.getElem?_alter_self, Std.ExtTreeMap.getElem?_alter_self, h]
  case h_2 => exact h

/-- Whether the same amounts are booked on `new` in the second state as on `old` in the first.  The
goals are the given ones, and what is remembered of the rates is right. -/
structure Follows (old new : String) (table : RateTable)
    (goals goals' : Std.ExtTreeMap String Float) (g g' : Goals) : Prop where
  currency_eq : g'.currency = g.currency
  goals_eq : g.goals = goals
  goals_eq' : g'.goals = goals'
  rates : g.rates.IsFaithful table
  rates' : g'.rates.IsFaithful table
  booked_eq : g'.booked[new]? = g.booked[old]?

/-- Whether the same categories have goals, except that `new` has taken the place of `old`. -/
def SameGoals (old new : String) (goals goals' : Std.ExtTreeMap String Float) : Prop :=
  ∀ name, name ≠ new → goals'[renamed old new name]?.isSome = goals[name]?.isSome

variable {goals goals' : Std.ExtTreeMap String Float}

/-- One share.  If it is of the category `old`, it is booked on both sides; a share of another
category may be booked on one side only, but then it does not show in what is compared. -/
theorem bookSplits_singleton_alike (hold : goals[old]?.isSome = true)
    (hnew : goals'[new]?.isSome = true) (hne : split.name ≠ new)
    (hg : Follows old new table goals goals' g g') :
    Reply.Alike (SameGoals old new goals goals') (Follows old new table goals goals')
      (g.bookSplits h [split])
      (g'.bookSplits { h with lastModified := now }
        [{ split with name := renamed old new split.name }]) := by
  obtain ⟨rates, hrates, hbook⟩ := bookSplits_singleton hg.rates h split
  obtain ⟨rates', hrates', hbook'⟩ := bookSplits_singleton hg.rates' { h with lastModified := now }
    { split with name := renamed old new split.name }
  have hshare (hsome : goals'[renamed old new split.name]?.isSome = goals[split.name]?.isSome) :
      share? table g' { h with lastModified := now }
        { split with name := renamed old new split.name } = share? table g h split := by
    rw [share?, share?, goal?, goal?, hg.goals_eq, hg.goals_eq', hsome, hg.currency_eq]
  rw [hbook, hbook']
  refine ⟨fun hsame => ?_, fun _ =>
    ⟨hg.currency_eq, hg.goals_eq, hg.goals_eq', hrates, hrates', ?_⟩⟩
  · exact congrArg refusal? (hshare (hsame split.name hne))
  · by_cases hname : split.name = old
    · have hrenamed : renamed old new split.name = new := if_pos hname
      have hshare := hshare (by rw [hrenamed, hnew, hname, hold])
      dsimp only
      rw [hshare, hrenamed, hname]
      exact getElem?_bookedAfter_congr hg.booked_eq _ _
    · have hrenamed : renamed old new split.name = split.name := if_neg hname
      dsimp only
      rw [hrenamed, getElem?_bookedAfter (Ne.symm hne), getElem?_bookedAfter (Ne.symm hname)]
      exact hg.booked_eq

/-- All shares of an operation. -/
theorem bookSplits_alike (hold : goals[old]?.isSome = true) (hnew : goals'[new]?.isSome = true)
    (splits : List Split) (hne : ∀ split ∈ splits, split.name ≠ new)
    (hg : Follows old new table goals goals' g g') :
    Reply.Alike (SameGoals old new goals goals') (Follows old new table goals goals')
      (g.bookSplits h splits)
      (g'.bookSplits { h with lastModified := now }
        (splits.map fun split => { split with name := renamed old new split.name })) := by
  induction splits generalizing g g' with
  | nil => exact .ok hg
  | cons split splits ih =>
      obtain ⟨hsplit, hsplits⟩ := List.forall_mem_cons.1 hne
      rw [List.map_cons, bookSplits_cons, bookSplits_cons g']
      exact (bookSplits_singleton_alike hold hnew hsplit hg).andThen fun hg => ih hsplits hg

/-- **No call tells the categories apart**, unless other goals do. -/
theorem send_alike (now : Timestamp) (hold : goals[old]?.isSome = true)
    (hnew : goals'[new]?.isSome = true) {e : Event}
    (he : ∀ op, e = .process op → op.hasCategory new = false)
    (hg : Follows old new table goals goals' g g') :
    Reply.Alike (SameGoals old new goals goals') (Follows old new table goals goals')
      (e.send g) ((e.map (withCategory old new now)).send g') := by
  cases e with
  | newDay iv => exact .ok hg
  | process op =>
      obtain ⟨now', hhead⟩ := (sameEntry_withCategory old new now op).head_eq
      have hop := he op rfl
      show Reply.Alike _ _ (Reducer.process g op) (Reducer.process g' (op.withCategory old new now))
      rw [process_eq, process_eq, hhead, splits?_withCategory]
      rw [hasCategory, List.any_eq_false] at hop
      cases op.head? with
      | none => exact .ok hg
      | some h =>
          cases hsplits : op.splits? with
          | none => exact .ok hg
          | some splits =>
              rw [hsplits] at hop
              exact bookSplits_alike hold hnew splits
                (fun split hsplit heq => hop split hsplit (decide_eq_true heq)) hg
  | done => exact .ok hg

end Goals

/-! ### Sweeps before and after -/

namespace Store

variable {p : Predicate} {m : Matcher}

/-- Every sweep over a loaded store in which an account has got a new name. -/
theorem renameAccount_keeps (ops : List Operation) (hp : p.compile = .ok m) (old new : String)
    (now : Timestamp) (hfresh : ∀ op ∈ sortLog ops, op.touchesAccount new = false)
    (hatom : .account new ∉ p.parts) :
    let r := withAccount old new now
    let q := p.replace (.account old) (.account new)
    let after : Store := ⟨some ((sortLog ops).map r)⟩
    SweepsAlike r (load ops) after p q ∧
      ∀ today span, ∃ series summary,
        run (load ops) today p span (Balance.create old) = ⟨⟨old, series⟩, .ok summary⟩ ∧
          run after today q span (Balance.create new) = ⟨⟨new, series⟩, .ok summary⟩ := by
  intro r q after
  obtain ⟨m', hq, hm⟩ := Predicate.compile_withAccount old now hp hatom
  have hrun := run_map (sameEntry_withAccount old new now) hp hq fun op hop => hm op (hfresh op hop)
  refine ⟨fun today span => ?_, fun today span => ?_⟩
  · obtain ⟨es, summary, -, hsweeps⟩ := hrun today span
    exact ⟨es, summary, hsweeps⟩
  · obtain ⟨es, summary, hes, hsweeps⟩ := hrun today span
    have halike := play_alike
      (fun e he => Balance.send_alike now fun op heq => hfresh op (hes op (heq ▸ he)))
      (⟨rfl, rfl, rfl⟩ : Balance.Follows old new (.create old) (.create new))
    obtain ⟨haccount, haccount', hseries⟩ := halike.related (.inl trivial)
    have hbefore := (hsweeps Balance (.create old)).1
    have hafter := (hsweeps Balance (.create new)).2
    rw [outcome, Balance.error_play] at hbefore hafter
    refine ⟨(play (Balance.create old) es).state.series, summary, hbefore.trans ?_,
      hafter.trans ?_⟩
    · exact congrArg₂ Outcome.mk (congrArg₂ Balance.mk haccount rfl) rfl
    · exact congrArg₂ Outcome.mk (congrArg₂ Balance.mk haccount' hseries) rfl

/-- Every sweep over a loaded store in which a category has got a new name. -/
theorem renameCategory_keeps (ops : List Operation) (hp : p.compile = .ok m) (old new : String)
    (now : Timestamp) (hfresh : ∀ op ∈ sortLog ops, op.hasCategory new = false)
    (hatom : .category new ∉ p.parts) :
    let r := withCategory old new now
    let q := p.replace (.category old) (.category new)
    let after : Store := ⟨some ((sortLog ops).map r)⟩
    SweepsAlike r (load ops) after p q ∧
      ∀ today span currency table (cs cs' : List Category),
        let goals := Goals.create cs currency table
        let goals' := Goals.create cs' currency table
        (goals.goal? old).isSome = true → (goals'.goal? new).isSome = true →
        let x := run (load ops) today p span goals
        let y := run after today q span goals'
        (∀ a b, x.result = .ok a → y.result = .ok b →
            ∀ year, y.state.spent new year = x.state.spent old year) ∧
          (Goals.SameGoals old new goals.goals goals'.goals →
            y.result = x.result ∧ ∀ year, y.state.spent new year = x.state.spent old year) := by
  intro r q after
  obtain ⟨m', hq, hm⟩ := Predicate.compile_withCategory old now hp hatom
  have hrun :=
    run_map (sameEntry_withCategory old new now) hp hq fun op hop => hm op (hfresh op hop)
  refine ⟨fun today span => ?_, ?_⟩
  · obtain ⟨es, summary, -, hsweeps⟩ := hrun today span
    exact ⟨es, summary, hsweeps⟩
  · intro today span currency table cs cs' goals goals' hold hnew x y
    obtain ⟨es, summary, hes, hsweeps⟩ := hrun today span
    have hcreate : Goals.Follows old new table goals.goals goals'.goals goals goals' :=
      ⟨rfl, rfl, rfl, RateCache.isFaithful_create table, RateCache.isFaithful_create table, rfl⟩
    have halike := play_alike (fun e he => Goals.send_alike now hold hnew fun op heq =>
      hfresh op (hes op (heq ▸ he))) hcreate
    have hx : x = outcome (play goals es) summary := (hsweeps Goals goals).1
    have hy : y = outcome (play goals' (es.map (·.map r))) summary := (hsweeps Goals goals').2
    rw [hx, hy, state_outcome, state_outcome]
    refine ⟨fun a b ha hb year => ?_, fun hsame => ⟨?_, fun year => ?_⟩⟩
    · rw [result_outcome_eq_ok_iff] at ha hb
      rw [Goals.spent, Goals.spent, (halike.related (.inr ⟨ha.1, hb.1⟩)).booked_eq]
    · exact result_outcome_congr (halike.error_eq hsame) summary
    · rw [Goals.spent, Goals.spent, (halike.related (.inl hsame)).booked_eq]

/-- **A renaming keeps the statistics.**  Where nothing bears the name `new` and the filter does not
ask for it, the account or category `old` may become `new`: each operation that has named the old
one names the new one and is marked as modified, at its place in the log, and the others stay as
they are.  With a filter that asks for the new name in the place of the old one, every sweep makes
the same calls as before with the amended operations.  The balance of the new account has the series
that the balance of the old one had; and on the new category is booked, year by year, what was
booked on the old one, unless a rate that is missing for another category with a goal ends one of
the sweeps only. -/
theorem renaming_keeps_statistics (actions : List Action) {log : List Operation}
    (hlog : (after actions).snapshot = .ok log) (hp : p.compile = .ok m) (old new : String)
    (now : Timestamp) :
    let before := after actions
    ((∀ op ∈ log, op.touchesAccount new = false) → .account new ∉ p.parts →
      let r := withAccount old new now
      let q := p.replace (.account old) (.account new)
      ∃ after, before.renameAccount old new now = .ok (log.countP (·.touchesAccount old), after) ∧
        after.snapshot = .ok (log.map r) ∧ (∀ op, SameEntry op (r op)) ∧
        SweepsAlike r before after p q ∧
        ∀ today span, ∃ series summary,
          run before today p span (Balance.create old) = ⟨⟨old, series⟩, .ok summary⟩ ∧
            run after today q span (Balance.create new) = ⟨⟨new, series⟩, .ok summary⟩) ∧
      ((∀ op ∈ log, op.hasCategory new = false) → .category new ∉ p.parts →
        let r := withCategory old new now
        let q := p.replace (.category old) (.category new)
        ∃ after, before.renameCategory old new now = .ok (log.countP (·.hasCategory old), after) ∧
          after.snapshot = .ok (log.map r) ∧ (∀ op, SameEntry op (r op)) ∧
          SweepsAlike r before after p q ∧
          ∀ today span currency table (cs cs' : List Category),
            let goals := Goals.create cs currency table
            let goals' := Goals.create cs' currency table
            (goals.goal? old).isSome = true → (goals'.goal? new).isSome = true →
            let x := run before today p span goals
            let y := run after today q span goals'
            (∀ a b, x.result = .ok a → y.result = .ok b →
                ∀ year, y.state.spent new year = x.state.spent old year) ∧
              (Goals.SameGoals old new goals.goals goals'.goals →
                y.result = x.result ∧
                  ∀ year, y.state.spent new year = x.state.spent old year)) := by
  intro before
  obtain ⟨ops, hops, rfl⟩ := exists_eq_load hlog
  have hbefore : before = load ops := hops
  rw [hbefore]
  constructor
  · intro hfresh hatom r q
    obtain ⟨hsweeps, hbalance⟩ := renameAccount_keeps ops hp old new now hfresh hatom
    exact ⟨_, renameAccount_load ops old new now, rfl, sameEntry_withAccount old new now, hsweeps,
      hbalance⟩
  · intro hfresh hatom r q
    obtain ⟨hsweeps, hgoals⟩ := renameCategory_keeps ops hp old new now hfresh hatom
    exact ⟨_, renameCategory_load ops old new now, rfl, sameEntry_withCategory old new now, hsweeps,
      hgoals⟩

/-- An expense of an account and a category that both get new names. -/
theorem renaming_keeps_statistics_of_expense :
    let op : Operation :=
      .expense ⟨"rent", ⟨.first, 0, 0⟩, .first, "EUR", (-1 : Float).toBits, [], none⟩
        ⟨"cash", -1⟩ [⟨"home", -1⟩]
    let store := after [.load [op]]
    let now : Timestamp := ⟨.first, 1, 0⟩
    let onCash : Predicate := .and [.account "cash", .category "home"]
    store.snapshot = .ok [op] ∧ (∃ m, onCash.compile = .ok m) ∧
      op.touchesAccount "purse" = false ∧ .account "purse" ∉ onCash.parts ∧
      op.hasCategory "house" = false ∧ .category "house" ∉ onCash.parts ∧
      (∃ renamed, store.renameAccount "cash" "purse" now = .ok (1, renamed) ∧
        SweepsAlike (withAccount "cash" "purse" now) store renamed onCash
          (.and [.account "purse", .category "home"])) ∧
      ∃ renamed, store.renameCategory "home" "house" now = .ok (1, renamed) ∧
        SweepsAlike (withCategory "home" "house" now) store renamed onCash
          (.and [.account "cash", .category "house"]) := by
  intro op store now onCash
  have hsort : sortLog [op] = [op] := List.mergeSort_singleton op
  have hlog : store.snapshot = .ok [op] := congrArg Except.ok hsort
  have haccount : op.touchesAccount "purse" = false := by decide
  have hcategory : op.hasCategory "house" = false := by decide
  have hpurse : .account "purse" ∉ onCash.parts := by decide
  have hhouse : .category "house" ∉ onCash.parts := by decide
  have hcompile : onCash.compile =
      .ok fun op => [Predicate.onAccount "cash", Predicate.inCategory "home"].all (· op) := rfl
  have hkeeps (old new : String) :=
    renaming_keeps_statistics [.load [op]] hlog hcompile old new now
  obtain ⟨renamed, hrename, -, -, hsweeps, -⟩ :=
    (hkeeps "cash" "purse").1 (List.forall_mem_singleton.2 haccount) hpurse
  obtain ⟨renamed', hrename', -, -, hsweeps', -⟩ :=
    (hkeeps "home" "house").2 (List.forall_mem_singleton.2 hcategory) hhouse
  exact ⟨hlog, ⟨_, hcompile⟩, haccount, hpurse, hcategory, hhouse, ⟨renamed, hrename, hsweeps⟩,
    renamed', hrename', hsweeps'⟩

end Store

end Cashbook
