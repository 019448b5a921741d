import Mathlib.Data.Finset.Card
import Cashbook.Proofs.Rates.Memo

/-!
# A cache behind any number of queries

One cache is asked again and again, for rates and for amounts, and each answer depends on what the
cache remembers of the queries before.  `askAll_create` says that none of this shows: the answers
are those of the rate book, which remembers nothing.

What a cache remembers is known as well.  It is the rates that the book has for the keys it has been
asked for, each key counted once, except for the keys of one currency only (`known`).

### What is load-bearing

The memo grows at one place only, behind a key that it does not have (`Remembers.rate`).  That is
why its size counts keys and not queries; that what it holds is right is `RateCache.IsFaithful`, and
needs no account of the queries.
-/

namespace Cashbook

namespace RateKey

/-- What a table says about the key. -/
def lookUp (table : RateTable) (key : RateKey) : Except RateError Float :=
  table key.date key.source key.target

/-- Whether a rate for the key would be remembered: there are two currencies, and the table knows
the rate between them. -/
def isKept (table : RateTable) (key : RateKey) : Bool :=
  key.source ≠ key.target && (key.lookUp table).isOk

variable {table : RateTable} {key : RateKey}

theorem isKept_eq_true_iff :
    key.isKept table = true ↔ key.source ≠ key.target ∧ ∃ rate, key.lookUp table = .ok rate := by
  rw [isKept, Bool.and_eq_true, decide_eq_true_eq]
  cases key.lookUp table <;> simp [Except.isOk, Except.toBool]

/-- Nothing is remembered of a currency and itself. -/
theorem isKept_of_eq (h : key.source = key.target) : key.isKept table = false := by
  rw [isKept, decide_eq_false (not_not.2 h), Bool.false_and]

/-- Failures are not remembered. -/
theorem isKept_of_error {e : RateError} (h : key.lookUp table = .error e) :
    key.isKept table = false := by
  rw [isKept, h]
  exact Bool.and_false _

end RateKey

namespace RateCache

/-! ### What is remembered -/

/-- The keys that a cache knows the rates of when it has been asked for `keys`. -/
def known (table : RateTable) (keys : List RateKey) : Finset RateKey :=
  (keys.filter (·.isKept table)).toFinset

variable {table : RateTable} {k : RateKey} {keys : List RateKey} {c : RateCache}

theorem mem_known : k ∈ known table keys ↔ k ∈ keys ∧ k.isKept table = true := by
  rw [known, List.mem_toFinset, List.mem_filter]

theorem known_cons_of_isKept (h : k.isKept table = true) :
    known table (k :: keys) = insert k (known table keys) := by
  rw [known, List.filter_cons_of_pos h, List.toFinset_cons, known]

theorem known_cons_of_not (h : k.isKept table = false) :
    known table (k :: keys) = known table keys := by
  rw [known, List.filter_cons_of_neg (by rw [h]; exact Bool.false_ne_true), known]

/-- Whether a cache remembers the rates that its table has for `keys`, and no others. -/
structure Remembers (c : RateCache) (table : RateTable) (keys : List RateKey) : Prop where
  /-- What is remembered is what the table says. -/
  faithful : c.IsFaithful table
  /-- It is remembered for these keys. -/
  mem_memo : ∀ key, key ∈ c.memo ↔ key ∈ known table keys
  /-- Each of them is counted once. -/
  size_eq : c.size = (known table keys).card

theorem remembers_create (table : RateTable) : (create table).Remembers table [] where
  faithful := isFaithful_create table
  mem_memo _ := iff_of_false Std.ExtHashMap.not_mem_empty (Finset.notMem_empty _)
  size_eq := Std.ExtHashMap.size_empty

/-- A remembered rate is the one that the table has for a key asked for. -/
theorem Remembers.getElem?_memo (hc : c.Remembers table keys) {rate : Float} :
    c.memo[k]? = some rate ↔
      k ∈ keys ∧ k.source ≠ k.target ∧ k.lookUp table = .ok rate := by
  have hmem : c.memo[k]?.isSome = true ↔ k ∈ keys ∧ k.isKept table = true := by
    rw [← Std.ExtHashMap.mem_iff_isSome_getElem?, hc.mem_memo, mem_known]
  constructor
  · intro h
    obtain ⟨hmem, hkept⟩ := hmem.1 (by rw [h]; rfl)
    exact ⟨hmem, (RateKey.isKept_eq_true_iff.1 hkept).1, hc.faithful.memo k rate h⟩
  · rintro ⟨hkey, hne, hrate⟩
    obtain ⟨rate', h⟩ :=
      Option.isSome_iff_exists.1 (hmem.2 ⟨hkey, RateKey.isKept_eq_true_iff.2 ⟨hne, rate, hrate⟩⟩)
    have hsame : Except.ok rate' = .ok rate := (hc.faithful.memo k rate' h).symm.trans hrate
    rw [h, Except.ok.inj hsame]

/-- **One query more.**  The memo takes in the key if the table has a rate for it, unless it has the
key already. -/
theorem Remembers.rate (hc : c.Remembers table keys) (key : RateKey) :
    (c.rate key.date key.source key.target).2.Remembers table (key :: keys) := by
  have hfaithful := (rate_eq key.date key.source key.target hc.faithful).2
  -- where the cache stays as it is, nothing new is known
  have hsame (h : known table (key :: keys) = known table keys) : c.Remembers table (key :: keys) :=
    ⟨hc.faithful, h ▸ hc.mem_memo, h ▸ hc.size_eq⟩
  unfold RateCache.rate at hfaithful ⊢
  split
  case isTrue heq => exact hsame (known_cons_of_not (RateKey.isKept_of_eq heq))
  case isFalse hne =>
    rw [if_neg hne] at hfaithful
    split
    case h_1 rate hmemo =>
      obtain ⟨hkey, -, hrate⟩ := hc.getElem?_memo.1 hmemo
      have hkept := RateKey.isKept_eq_true_iff.2 ⟨hne, rate, hrate⟩
      refine hsame ?_
      rw [known_cons_of_isKept hkept, Finset.insert_eq_of_mem (mem_known.2 ⟨hkey, hkept⟩)]
    case h_2 hmemo =>
      rw [hmemo, hc.faithful.table_eq] at hfaithful
      rw [hc.faithful.table_eq]
      split
      case h_1 e herror => exact hsame (known_cons_of_not (RateKey.isKept_of_error herror))
      case h_2 rate hrate =>
        rw [hrate] at hfaithful
        have hkept := RateKey.isKept_eq_true_iff.2 ⟨hne, rate, hrate⟩
        have hnew : key ∉ c.memo := by
          rw [Std.ExtHashMap.mem_iff_isSome_getElem?, hmemo]
          exact Bool.false_ne_true
        refine ⟨hfaithful, fun other => ?_, ?_⟩
        · rw [known_cons_of_isKept hkept, Finset.mem_insert, Std.ExtHashMap.mem_insert, hc.mem_memo,
            beq_iff_eq, eq_comm]
        · rw [known_cons_of_isKept hkept,
            Finset.card_insert_of_notMem (mt (hc.mem_memo key).2 hnew), ← hc.size_eq, size,
            Std.ExtHashMap.size_insert, if_neg hnew]
          rfl

/-! ### Queries -/

/-- What a cache is asked for. -/
inductive Query
  /-- A rate. -/
  | rate (key : RateKey)
  /-- An amount in the one currency, for what it is worth in the other. -/
  | convert (amount : Float) (key : RateKey)

/-- The key of the rate that a query needs. -/
def Query.key : Query → RateKey
  | rate key => key
  | convert _ key => key

/-- What a table answers to a query when nothing is remembered. -/
def Query.answer (table : RateTable) : Query → Except RateError Float
  | rate key => key.lookUp table
  | convert amount key => (key.lookUp table).map (amount * ·)

/-- Makes a query: what the cache answers, and the cache afterwards. -/
def ask (c : RateCache) : Query → Except RateError Float × RateCache
  | .rate key => c.rate key.date key.source key.target
  | .convert amount key => c.convert key.date amount key.source key.target

/-- Makes some queries one after the other: the answers in order, and the cache after the last. -/
def askAll (c : RateCache) : List Query → List (Except RateError Float) × RateCache
  | [] => ([], c)
  | q :: queries =>
      let r := c.ask q
      let rest := r.2.askAll queries
      (r.1 :: rest.1, rest.2)

theorem Remembers.ask (hc : c.Remembers table keys)
    (hself : ∀ date currency, table date currency currency = .ok 1) (q : Query) :
    (c.ask q).1 = q.answer table ∧ (c.ask q).2.Remembers table (q.key :: keys) := by
  cases q with
  | rate key => exact ⟨(rate_spec _ _ _ hself hc.faithful).1, hc.rate key⟩
  | convert amount key =>
      have hrate := (rate_spec key.date key.source key.target hself hc.faithful).1
      exact ⟨congrArg (Except.map (amount * ·)) hrate, hc.rate key⟩

/-- **Any number of queries.**  Each answer is that of the table, and the memo has the rates of all
keys that have been asked for, the new ones and those of before. -/
theorem Remembers.askAll (hc : c.Remembers table keys)
    (hself : ∀ date currency, table date currency currency = .ok 1) (queries : List Query) :
    (c.askAll queries).1 = queries.map (·.answer table) ∧
      (c.askAll queries).2.Remembers table ((queries.map (·.key)).reverse ++ keys) := by
  induction queries generalizing c keys with
  | nil => exact ⟨rfl, hc⟩
  | cons q queries ih =>
      obtain ⟨hanswer, hq⟩ := hc.ask hself q
      obtain ⟨hanswers, hrest⟩ := ih hq
      refine ⟨congrArg₂ List.cons hanswer hanswers, ?_⟩
      rw [List.map_cons, List.reverse_cons, List.append_assoc, List.singleton_append]
      exact hrest

/-- What is known does not depend on the order of the keys. -/
theorem known_reverse (table : RateTable) (keys : List RateKey) :
    known table keys.reverse = known table keys := by
  ext key
  rw [mem_known, mem_known, List.mem_reverse]

/-- **The cache is transparent.**  Whatever queries are made to one cache of a rate book, each
answer is the one that the book gives by itself, be it a rate, an amount or an error.  Then the memo
holds the rates of the book for the keys with two currencies that have been asked for and that the
book has rates for, and nothing else; and its size is the number of these keys. -/
theorem askAll_create (book : RateBook) (queries : List Query) :
    ((create book.rate).askAll queries).1 = queries.map (·.answer book.rate) ∧
      (∀ (date : Date) (source target : String) (rate : Float),
        ((create book.rate).askAll queries).2.memo[RateKey.mk date source target]? = some rate ↔
          ⟨date, source, target⟩ ∈ queries.map (·.key) ∧ source ≠ target ∧
            book.rate date source target = .ok rate) ∧
      ((create book.rate).askAll queries).2.size =
        (known book.rate (queries.map (·.key))).card := by
  obtain ⟨hanswers, hc⟩ := (remembers_create book.rate).askAll book.rate_self queries
  rw [List.append_nil] at hc
  refine ⟨hanswers, fun date source target rate => ?_, ?_⟩
  · rw [hc.getElem?_memo, List.mem_reverse]
    rfl
  · rw [hc.size_eq, known_reverse]

end RateCache

end Cashbook
