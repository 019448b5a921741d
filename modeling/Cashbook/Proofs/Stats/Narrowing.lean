import Cashbook.Proofs.Predicate.Shape
import Cashbook.Proofs.Stats.Parts
import Cashbook.Stats.Balance
import Cashbook.Stats.Goals
import Cashbook.Stats.IncomeExpense

/-!
# Narrowing the filter of a sweep

A reducer that takes no notice of some operations may be spared them.  `LooksAt seen I` says that a
reducer looks at nothing but the operations that pass `seen`, as long as its state satisfies `I`;
then a filter may ask for `seen` besides, and the sweep ends in the same state and fails as before
(`LooksAt.sweepsAgree`).

The balance of an account looks at the operations on the account, a net amount at incomes and
expenses, and the goals at the operations in a category with a goal (`narrowing_changes_nothing`).

### What is load-bearing

Nothing is asked of the order of the log.  Both sweeps go over the same operations with the same
cursor, and whether the cursor moves on does not depend on the filter: they keep `Abreast` from one
operation to the next.
-/

namespace Cashbook.Sweep

variable {σ τ : Type} [Reducer σ] [Reducer τ]

/-- Whether a reducer whose state satisfies `I` looks at nothing but the operations that pass
`seen`. -/
structure LooksAt (seen : Matcher) (I : σ → Prop) : Prop where
  newDay : ∀ {s : σ} (iv : Intervals), I s → (Reducer.newDay s iv).error = none →
    I (Reducer.newDay s iv).state
  process : ∀ {s : σ} (op : Operation), I s → (Reducer.process s op).error = none →
    I (Reducer.process s op).state
  ignores : ∀ {s : σ} {op : Operation}, I s → seen op = false → Reducer.process s op = .ok s

/-- Whether two sweeps are equally far: they differ at most in how many operations they have handed
over.  If they have not failed, `I` holds of their state. -/
structure Abreast (I : σ → Prop) (p q : Progress σ) : Prop where
  reply_eq : q.reply = p.reply
  pending_eq : q.pending = p.pending
  holds : p.reply.error = none → I p.reply.state

namespace LooksAt

variable {seen m : Matcher} {I : σ → Prop} {J : τ → Prop} {s : σ}

/-- A pair of reducers looks at what its members look at. -/
theorem pair (hfirst : LooksAt seen I) (hsecond : LooksAt seen J) :
    LooksAt seen fun s : σ × τ => I s.1 ∧ J s.2 where
  newDay iv hs herror := by
    obtain ⟨h₁, h₂, hstate⟩ := Reducer.both_spec herror
    exact hstate ▸ ⟨hfirst.newDay iv hs.1 h₁, hsecond.newDay iv hs.2 h₂⟩
  process op hs herror := by
    obtain ⟨h₁, h₂, hstate⟩ := Reducer.both_spec herror
    exact hstate ▸ ⟨hfirst.process op hs.1 h₁, hsecond.process op hs.2 h₂⟩
  ignores hs hop := Reducer.both_eq_ok (hfirst.ignores hs.1 hop) (hsecond.ignores hs.2 hop)

/-! ### The two sweeps -/

/-- The operations of a day. -/
theorem abreast_feed (h : LooksAt seen I) (hs : I s) (d : Date) (n n' : Nat)
    (log : List Operation) :
    Abreast I (feed m d s n log) (feed (fun op => m op && seen op) d s n' log) := by
  induction log generalizing s n n' with
  | nil => exact ⟨rfl, rfl, fun _ => hs⟩
  | cons op log ih =>
      by_cases hlater : ∃ e ∈ op.date?, d < e
      · obtain ⟨e, hop, he⟩ := hlater
        rw [feed_of_lt hop he, feed_of_lt hop he]
        exact ⟨rfl, rfl, fun _ => hs⟩
      · have hnot : ∀ e ∈ op.date?, ¬ d < e := fun e he hlt => hlater ⟨e, he, hlt⟩
        have hboth : isDue (fun op => m op && seen op) d op = (isDue m d op && seen op) :=
          (Bool.and_assoc _ _ _).symm
        cases hdue : isDue m d op with
        | false =>
            rw [feed_of_not hnot hdue, feed_of_not hnot (by rw [hboth, hdue, Bool.false_and])]
            exact ih hs n n'
        | true =>
            cases hseen : seen op with
            | true =>
                rw [feed_of_isDue hdue, feed_of_isDue (by rw [hboth, hdue, hseen, Bool.true_and])]
                cases herror : (Reducer.process s op).error with
                | some e => exact ⟨rfl, rfl, fun hok => by rw [herror] at hok; cases hok⟩
                | none => exact ih (h.process op hs herror) (n + 1) (n' + 1)
            | false =>
                -- only the first sweep hands the operation over, and the reducer ignores it
                rw [feed_of_isDue hdue, h.ignores hs hseen,
                  feed_of_not hnot (by rw [hboth, hseen, Bool.and_false])]
                exact ih hs (n + 1) n'

/-- A day. -/
theorem abreast_day (h : LooksAt seen I) (hs : I s) (t : Tracker) (n n' : Nat)
    (log : List Operation) :
    Abreast I (day m t s n log) (day (fun op => m op && seen op) t s n' log) := by
  rw [day, day]
  cases herror : (Reducer.newDay s t.current).error with
  | some e => exact ⟨rfl, rfl, fun hok => by rw [herror] at hok; cases hok⟩
  | none => exact h.abreast_feed (h.newDay t.current hs herror) t.current.date n n' log

/-- All days, and the end. -/
theorem reply_walk (h : LooksAt seen I) (hs : I s) (days : List Date) (t : Tracker) (n n' : Nat)
    (log : List Operation) :
    (walk (fun op => m op && seen op) days t s n' log).reply = (walk m days t s n log).reply := by
  induction days generalizing s t n n' log with
  | nil => rfl
  | cons d days ih =>
      obtain ⟨hreply, hpending, hholds⟩ := h.abreast_day (m := m) hs (t.advance d) n n' log
      rw [walk_cons, walk_cons, hreply, hpending]
      cases herror : (day m (t.advance d) s n log).reply.error with
      | some e => exact hreply
      | none => exact ih (hholds herror) (t.advance d) _ _ _

end LooksAt

/-- Whether the sweeps over a store with two filters bring `s` to the same state, and either fail
with the same error or go through the same days.  They may differ in how many operations they hand
over. -/
def SweepsAgree (store : Store) (p q : Predicate) (s : σ) : Prop :=
  ∀ (today : Date) (span : Option Period),
    (run store today q span s).state = (run store today p span s).state ∧
      (run store today q span s).result.map (fun done => (done.period, done.days)) =
        (run store today p span s).result.map fun done => (done.period, done.days)

/-- **A filter may ask for what a reducer looks at** without any consequence for the reducer. -/
theorem LooksAt.sweepsAgree {q : Predicate} {I : σ → Prop} {s : σ} (hq : q.IsWritable)
    (h : LooksAt (Predicate.eval · q) I) (hs : I s) (store : Store) (p : Predicate) :
    SweepsAgree store p (.and [p, q]) s := by
  intro today span
  rw [run, run, Predicate.compile_and_pair p hq]
  cases store.snapshot with
  | error e => exact ⟨rfl, rfl⟩
  | ok log =>
      cases p.compile with
      | error join => exact ⟨rfl, rfl⟩
      | ok m =>
          have hreply := h.reply_walk (m := m) hs (span.getD (fullPeriod log today)).days
            (.create (span.getD (fullPeriod log today)).start today) 0 0 log
          dsimp only [Except.map]
          rw [hreply]
          split
          case h_1 => exact ⟨rfl, rfl⟩
          case h_2 => exact ⟨rfl, rfl⟩

end Cashbook.Sweep

namespace Cashbook

open Sweep

/-! ### What the reducers look at -/

/-- The balance of an account looks at the operations on the account. -/
theorem Balance.looksAt (account : String) :
    LooksAt (Predicate.eval · (.account account)) fun b : Balance => b.account = account where
  newDay _ hb _ := hb
  process _ hb _ := hb
  ignores {b op} hb hop := by
    have hsides : op.sides.filter (·.name = b.account) = [] := by
      rw [List.filter_eq_nil_iff, hb]
      exact List.any_eq_false.1 hop
    show Reply.ok (b.book op.sides) = .ok b
    rw [book, hsides]
    rfl

/-- The predicate that asks for incomes and expenses. -/
def Predicate.netAmounts : Predicate := .or [.kind .income, .kind .expense]

theorem Predicate.isWritable_netAmounts : netAmounts.IsWritable := by
  refine (isWritable_join (j := .or)).2 ⟨List.cons_ne_nil _ _, ?_⟩
  simp [isWritable_kind]

/-- The totals of incomes and of expenses look at incomes and expenses. -/
theorem IncomeExpense.looksAt :
    LooksAt (Predicate.eval · .netAmounts) fun _ : IncomeExpense => True where
  newDay _ _ _ := trivial
  process _ _ _ := trivial
  ignores {t op} _ hop := by
    cases op with
    | income => cases hop
    | expense => cases hop
    | _ => rfl

/-- The comparison of months looks at incomes and expenses. -/
theorem MonthlyComparison.looksAt :
    LooksAt (Predicate.eval · .netAmounts) fun _ : MonthlyComparison => True where
  newDay _ _ _ := trivial
  process _ _ _ := trivial
  ignores {c op} _ hop := by
    cases op with
    | income => cases hop
    | expense => cases hop
    | _ => rfl

/-- The comparison of years looks at incomes and expenses. -/
theorem YearlyComparison.looksAt :
    LooksAt (Predicate.eval · .netAmounts) fun _ : YearlyComparison => True where
  newDay _ _ _ := trivial
  process _ _ _ := trivial
  ignores {c op} _ hop := by
    cases op with
    | income => cases hop
    | expense => cases hop
    | _ => rfl

namespace Goals

/-- Booking does not change the goals. -/
theorem goals_bookSplits (g : Goals) (h : Head) (splits : List Split) :
    (g.bookSplits h splits).state.goals = g.goals := by
  induction splits generalizing g with
  | nil => rfl
  | cons split splits ih =>
      rw [bookSplits]
      split
      case isTrue =>
        split
        case h_1 => rfl
        case h_2 => exact ih _
      case isFalse => exact ih g

/-- Shares of categories without a goal are not booked. -/
theorem bookSplits_eq_ok {g : Goals} {splits : List Split}
    (h : ∀ split ∈ splits, (g.goal? split.name).isSome = false) (head : Head) :
    g.bookSplits head splits = .ok g := by
  induction splits with
  | nil => rfl
  | cons split splits ih =>
      obtain ⟨hsplit, hsplits⟩ := List.forall_mem_cons.1 h
      rw [bookSplits, hsplit]
      exact ih hsplits

/-- The goals look at the operations in categories with a goal. -/
theorem looksAt {goals : Std.ExtTreeMap String Float} {names : List String}
    (hnames : ∀ name ∈ goals.keys, name ∈ names) :
    LooksAt (Predicate.eval · (.or (names.map .category))) fun g : Goals => g.goals = goals where
  newDay _ hg _ := hg
  process {g} op hg _ := by
    rw [process_eq]
    split
    case h_1 => rw [goals_bookSplits, hg]
    case h_2 => exact hg
  ignores {g op} hg hop := by
    rw [process_eq]
    split
    case h_2 => rfl
    case h_1 h splits _ hsplits =>
      refine bookSplits_eq_ok (fun split hsplit => ?_) h
      rw [Predicate.eval, Predicate.evalSome_eq_any, List.map_map, List.any_map,
        List.any_eq_false] at hop
      rw [Bool.eq_false_iff]
      intro hgoal
      rw [goal?, hg, Std.ExtTreeMap.isSome_getElem?_eq_contains, Std.ExtTreeMap.contains_iff_mem,
        ← Std.ExtTreeMap.mem_keys] at hgoal
      refine hop split.name (hnames _ hgoal) ?_
      show Predicate.inCategory split.name op = true
      rw [Predicate.inCategory, hsplits]
      exact List.any_eq_true.2 ⟨split, hsplit, decide_eq_true rfl⟩

end Goals

theorem Predicate.isWritable_categories {names : List String} (h : names ≠ []) :
    (Predicate.or (names.map .category)).IsWritable := by
  refine (isWritable_join (j := .or)).2 ⟨fun hnil => h (List.map_eq_nil_iff.1 hnil), ?_⟩
  rw [List.forall_mem_map]
  intro name _
  exact isWritable_atom rfl nofun nofun nofun

/-- **Narrowing the filter to what a reducer looks at changes nothing.**  The balance of an account
is not touched when a sweep asks for the account besides, the net amounts of all sorts, alone and
together, when it asks for incomes and expenses, and the goals when it asks for any of the
categories that have one. -/
theorem narrowing_changes_nothing (store : Store) (p : Predicate) (b : Balance) (t : IncomeExpense)
    (months : MonthlyComparison) (years : YearlyComparison) (g : Goals) {names : List String}
    (hne : names ≠ []) (hnames : ∀ name ∈ g.categories, name ∈ names) :
    SweepsAgree store p (.and [p, .account b.account]) b ∧
      SweepsAgree store p (.and [p, .or [.kind .income, .kind .expense]]) t ∧
      SweepsAgree store p (.and [p, .or [.kind .income, .kind .expense]]) months ∧
      SweepsAgree store p (.and [p, .or [.kind .income, .kind .expense]]) years ∧
      SweepsAgree store p (.and [p, .or [.kind .income, .kind .expense]]) (t, months, years) ∧
      SweepsAgree store p (.and [p, .or (names.map .category)]) g := by
  have hkinds := Predicate.isWritable_netAmounts
  have haccount : (Predicate.account b.account).IsWritable :=
    Predicate.isWritable_atom rfl nofun nofun nofun
  refine ⟨(Balance.looksAt b.account).sweepsAgree haccount rfl store p,
    IncomeExpense.looksAt.sweepsAgree hkinds trivial store p,
    MonthlyComparison.looksAt.sweepsAgree hkinds trivial store p,
    YearlyComparison.looksAt.sweepsAgree hkinds trivial store p, ?_,
    (Goals.looksAt hnames).sweepsAgree (Predicate.isWritable_categories hne) rfl store p⟩
  have htogether :=
    IncomeExpense.looksAt.pair (MonthlyComparison.looksAt.pair YearlyComparison.looksAt)
  exact htogether.sweepsAgree hkinds ⟨trivial, trivial, trivial⟩ store p

/-- Fresh reducers, with a goal for food. -/
theorem narrowing_changes_nothing_of_food :
    let table : RateTable := fun _ _ _ => .ok 1
    let d : Date := ⟨738550, by decide, by decide⟩
    let now : Timestamp := ⟨d, 0, 0⟩
    let food : Category := (Category.create "food" "EUR" now).withGoal 100
    let head : Head := ⟨"lunch", now, d, "EUR", (-5 : Float).toBits, [], none⟩
    let store := Store.load [.expense head ⟨"cash", -5⟩ [⟨"food", -5⟩],
      .transfer head ⟨"cash", -5⟩ ⟨"bank", 5⟩]
    let g := Goals.create [food] "EUR" table
    (∀ name, name ∈ g.categories ↔ name ∈ ["food"]) ∧
      SweepsAgree store .any (.and [.any, .account "cash"]) (Balance.create "cash") ∧
      SweepsAgree store .any (.and [.any, .or [.category "food"]]) g := by
  intro table d now food head store g
  have hcategories : g.categories = ["food"] := by decide +kernel
  obtain ⟨haccount, -, -, -, -, hgoals⟩ := narrowing_changes_nothing store .any (.create "cash")
    (.create "EUR" table) (.create "EUR" table) (.create "EUR" table) g
    (List.cons_ne_nil "food" []) (fun name hname => hcategories ▸ hname)
  exact ⟨fun name => by rw [hcategories], haccount, hgoals⟩

end Cashbook
