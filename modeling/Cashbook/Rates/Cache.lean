import Std.Data.ExtHashMap
import Cashbook.Rates.Book

/-!
# Remembering rates

A `RateCache` asks a table for each rate once and remembers the answer.  Failures are not
remembered, and neither is the rate between a currency and itself, which no table is asked for.
-/

namespace Cashbook

/-- What a rate depends on. -/
structure RateKey where
  /-- The day. -/
  date : Date
  /-- The currency that is sold. -/
  source : String
  /-- The currency that is bought. -/
  target : String
  deriving DecidableEq, Hashable

/-- A table with the rates that it has been asked for. -/
structure RateCache where
  /-- The table. -/
  table : RateTable
  /-- The rates that the table gave. -/
  memo : Std.ExtHashMap RateKey Float

namespace RateCache

/-- A cache that remembers nothing yet. -/
def create (table : RateTable) : RateCache := ⟨table, ∅⟩

/-- How many rates are remembered. -/
def size (c : RateCache) : Nat := c.memo.size

/-- The rate between two currencies, and the cache that remembers it. -/
def rate (c : RateCache) (date : Date) (source target : String) :
    Except RateError Float × RateCache :=
  if source = target then (.ok 1, c)
  else
    match c.memo[RateKey.mk date source target]? with
    | some rate => (.ok rate, c)
    | none =>
        match c.table date source target with
        | .error e => (.error e, c)
        | .ok rate => (.ok rate, { c with memo := c.memo.insert ⟨date, source, target⟩ rate })

/-- An amount of one currency in another, and the cache that remembers the rate. -/
def convert (c : RateCache) (date : Date) (amount : Float) (source target : String) :
    Except RateError Float × RateCache :=
  let r := c.rate date source target
  (r.1.map (amount * ·), r.2)

end RateCache

end Cashbook
