import Cashbook.Rates.Cache

/-!
# Remembered rates are the rates of the table

A cache answers as its table does, whatever it has been asked before (`RateCache.rate_spec`).  The
cache does not ask for the rate between a currency and itself, so this needs a table that has the
rate one there, as every rate book has (`RateBook.rate_self`).

For any other table it answers as if it had (`RateTable.withSelf`).

Whatever the table, a failure changes nothing (`RateCache.eq_of_rate_eq_error`), and a rate that has
been given is given again (`RateCache.rate_again`).
-/

namespace Cashbook

/-- A currency is worth itself. -/
theorem RateBook.rate_self (book : RateBook) (date : Date) (currency : String) :
    book.rate date currency currency = .ok 1 :=
  if_pos rfl

/-- The table with the rate one between a currency and itself, for which a cache does not ask. -/
def RateTable.withSelf (table : RateTable) : RateTable := fun date source target =>
  if source = target then .ok 1 else table date source target

namespace RateBook

variable {book : RateBook} {date : Date} {currency source target : String} {e : RateError}

/-- A book has the rate one between a currency and itself. -/
theorem withSelf_rate (book : RateBook) : RateTable.withSelf book.rate = book.rate := by
  funext date source target
  rw [RateTable.withSelf]
  split
  case isTrue h => rw [h, rate_self]
  case isFalse => rfl

/-- A book fails because it has no rate of the currency at all. -/
theorem eq_missing_of_baseRate (h : book.baseRate date currency = .error e) :
    e = .missing currency date := by
  rw [baseRate] at h
  split at h
  case isTrue => cases h
  case isFalse =>
    split at h
    case h_1 => cases h
    case h_2 =>
      cases h
      rfl

/-- Between two currencies it fails because it has no rate of one of them. -/
theorem exists_missing_of_rate (h : book.rate date source target = .error e) :
    ∃ c ∈ [source, target], e = .missing c date := by
  rw [rate] at h
  split at h
  case isTrue => cases h
  case isFalse =>
    split at h
    case h_1 e htarget =>
      cases h
      exact ⟨target, by simp, eq_missing_of_baseRate htarget⟩
    case h_2 =>
      split at h
      case h_1 e hsource =>
        cases h
        exact ⟨source, by simp, eq_missing_of_baseRate hsource⟩
      case h_2 => cases h

end RateBook

namespace RateCache

/-- Whether a cache has the table, and remembers only what the table says. -/
structure IsFaithful (c : RateCache) (table : RateTable) : Prop where
  /-- It is the table that is asked. -/
  table_eq : c.table = table
  /-- What is remembered is what the table says. -/
  memo : ∀ (key : RateKey) (rate : Float), c.memo[key]? = some rate →
    table key.date key.source key.target = .ok rate

variable {c c' : RateCache} {table : RateTable} {date : Date} {source target : String}

/-- Failures are not remembered. -/
theorem eq_of_rate_eq_error {e : RateError} (h : c.rate date source target = (.error e, c')) :
    c' = c := by
  unfold rate at h
  split at h
  case isTrue => cases h
  case isFalse =>
    split at h
    case h_1 => cases h
    case h_2 =>
      split at h
      case h_1 =>
        cases h
        rfl
      case h_2 => cases h

/-- A rate that has been given is given again, and the cache then stays as it is. -/
theorem rate_again {rate : Float} (h : c.rate date source target = (.ok rate, c')) :
    c'.rate date source target = (.ok rate, c') := by
  unfold RateCache.rate at h ⊢
  split at h
  case isTrue hsame =>
    cases h
    exact if_pos hsame
  case isFalse hne =>
    rw [if_neg hne]
    split at h
    case h_1 hmemo =>
      cases h
      rw [hmemo]
    case h_2 =>
      split at h
      case h_1 => cases h
      case h_2 =>
        cases h
        rw [Std.ExtHashMap.getElem?_insert_self]

/-- A conversion asks for a rate. -/
theorem convert_eq_ok_iff {amount v : Float} :
    c.convert date amount source target = (.ok v, c') ↔
      ∃ rate, c.rate date source target = (.ok rate, c') ∧ v = amount * rate := by
  constructor
  · intro h
    rw [convert] at h
    cases hrate : c.rate date source target with
    | mk r c'' =>
        rw [hrate] at h
        cases r with
        | error => cases h
        | ok rate =>
            cases h
            exact ⟨rate, rfl, rfl⟩
  · rintro ⟨rate, hrate, rfl⟩
    rw [convert, hrate]
    rfl

/-- A conversion fails for want of a rate. -/
theorem convert_eq_error_iff {amount : Float} {e : RateError} :
    c.convert date amount source target = (.error e, c') ↔
      c.rate date source target = (.error e, c') := by
  rw [convert]
  cases hrate : c.rate date source target with
  | mk r c'' => cases r <;> simp [Except.map]

theorem isFaithful_create (table : RateTable) : (create table).IsFaithful table where
  table_eq := rfl
  memo key rate h := by
    have hnone : (create table).memo[key]? = none := Std.ExtHashMap.getElem?_empty
    rw [hnone] at h
    cases h

/-- What a cache answers: the rate of the table, and one between a currency and itself. -/
theorem rate_eq (date : Date) (source target : String) (hc : c.IsFaithful table) :
    (c.rate date source target).1 = table.withSelf date source target ∧
      (c.rate date source target).2.IsFaithful table := by
  unfold rate RateTable.withSelf
  split
  case isTrue => exact ⟨rfl, hc⟩
  case isFalse =>
    cases hmemo : c.memo[RateKey.mk date source target]? with
    | some rate => exact ⟨(hc.memo _ rate hmemo).symm, hc⟩
    | none =>
        dsimp only
        rw [hc.table_eq]
        cases htable : table date source target with
        | error e => exact ⟨rfl, hc⟩
        | ok rate =>
            dsimp only
            -- what is remembered is the rate just given, or was remembered before
            refine ⟨rfl, rfl, fun key r hkey => ?_⟩
            rw [Std.ExtHashMap.getElem?_insert] at hkey
            split at hkey
            case isTrue h =>
              rw [← LawfulBEq.eq_of_beq h, ← Option.some_inj.1 hkey]
              exact htable
            case isFalse => exact hc.memo key r hkey

/-- **Asking a cache** gives the rate of the table, and a cache that is as good. -/
theorem rate_spec (date : Date) (source target : String)
    (hself : ∀ date currency, table date currency currency = .ok 1)
    (hc : c.IsFaithful table) :
    (c.rate date source target).1 = table date source target ∧
      (c.rate date source target).2.IsFaithful table := by
  obtain ⟨hrate, hfaithful⟩ := rate_eq date source target hc
  refine ⟨hrate.trans ?_, hfaithful⟩
  rw [RateTable.withSelf]
  split
  case isTrue h => rw [h, hself]
  case isFalse => rfl

/-- A cache fails where its table does. -/
theorem rate_eq_error_iff {e : RateError}
    (hself : ∀ date currency, table date currency currency = .ok 1) (hc : c.IsFaithful table) :
    c.rate date source target = (.error e, c) ↔ table date source target = .error e := by
  obtain ⟨hrate, -⟩ := rate_spec date source target hself hc
  rw [← hrate]
  cases h : c.rate date source target with
  | mk r c' =>
      refine ⟨fun heq => congrArg Prod.fst heq, fun hr => ?_⟩
      cases hr
      rw [eq_of_rate_eq_error h]

/-- **A conversion that succeeds** is one at the rate of the table. -/
theorem convert_eq_ok {amount v : Float}
    (hself : ∀ date currency, table date currency currency = .ok 1) (hc : c.IsFaithful table)
    (h : c.convert date amount source target = (.ok v, c')) :
    ∃ rate, table date source target = .ok rate ∧ v = amount * rate ∧ c'.IsFaithful table := by
  obtain ⟨rate, hgiven, hv⟩ := convert_eq_ok_iff.1 h
  obtain ⟨hrate, hfaithful⟩ := rate_spec date source target hself hc
  rw [hgiven] at hrate hfaithful
  exact ⟨rate, hrate.symm, hv, hfaithful⟩

end RateCache

end Cashbook
