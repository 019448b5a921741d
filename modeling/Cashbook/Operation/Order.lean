import Cashbook.Operation.Basic

/-!
# The order of the log

Tombstones come first, by their names.  Live operations follow by day, then by the rank of their
kind, then by currency, then by the size of their amount, and last by name, the greater name first.

The size of an amount is its bits without the sign, and sizes are compared as bits.  So every pair
of doubles is in order, infinities and not-a-numbers included, and sizes are equal only if they
agree up to the last bit.  The order leaves two records unordered only when they have the same name
and agree in everything else that it looks at, and a log whose names are distinct has one sorted
form.

### The design decision

**Bits and not a number.**  `Head` keeps the bits of its amount, because a `Float` is not enough for
the order: it has a single not-a-number, of which a double has many, and the order tells them apart.
Calculations take the number, `Head.amount`.
-/

namespace Cashbook

namespace Head

/-- The size of the amount, as the bits of its absolute value: those of the amount, with the bit of
the sign cleared. -/
def size (head : Head) : UInt64 := head.amountBits &&& 0x7fffffffffffffff

/-- Amounts are of one size if their bits agree in all places but the highest, that of the sign. -/
theorem size_eq_iff {g h : Head} :
    g.size = h.size ↔
      g.amountBits.toNat % 0x8000000000000000 = h.amountBits.toNat % 0x8000000000000000 := by
  have hsize (head : Head) : head.size.toNat = head.amountBits.toNat % 0x8000000000000000 := by
    rw [size, UInt64.toNat_and]
    exact Nat.and_two_pow_sub_one_eq_mod head.amountBits.toNat 63
  rw [← UInt64.toNat_inj, hsize, hsize]

end Head

namespace Operation

/-- The order of two live operations, of kinds `j` and `k`. -/
def compareLive (j k : Kind) (g h : Head) : Ordering :=
  (compare g.date h.date).then <|
    (compare j.rank k.rank).then <|
      (compare g.currency h.currency).then <|
        (compare g.size h.size).then (compare h.id g.id)

/-- The order of two records of the log. -/
protected def compare (a b : Operation) : Ordering :=
  match a.head?, b.head? with
  | none, none => compare a.id b.id
  | none, some _ => .lt
  | some _, none => .gt
  | some g, some h => compareLive a.kind b.kind g h

instance : Ord Operation := ⟨Operation.compare⟩

/-- Whether `a` may stand before `b` in the log. -/
def notAfter (a b : Operation) : Bool := (a.compare b).isLE

/-- The log that holds `ops`: records that the order leaves unordered keep their order. -/
def sortLog (ops : List Operation) : List Operation := ops.mergeSort notAfter

/-- The log of some records holds just those records. -/
theorem sortLog_perm (ops : List Operation) : (sortLog ops).Perm ops :=
  List.mergeSort_perm ops notAfter

end Operation

end Cashbook
