import Cashbook.Calendar.Timestamp

/-!
# Operations

An operation is one record of the log: an income, an expense, a transfer, an adjustment, or the
tombstone of an operation that was deleted.  All but the tombstone are *live*: they have a `Head`,
which says when and how much, and one account side or two.

* `Operation.sides` — every account that the operation touches, with the amount booked on it.
* `Operation.splits?` — the categories of an income or an expense; other operations carry none.

### The design decision

The four live kinds differ in which parts they have, so they are four constructors and not one
record with a tag: an adjustment without splits and an income with an empty list of splits are
different things, and `splits?` tells them apart.
-/

namespace Cashbook

/-- What sort of record an operation is. -/
inductive Kind
  /-- Money that enters an account through categories. -/
  | income
  /-- Money that leaves an account through categories. -/
  | expense
  /-- Money that moves from one account to another. -/
  | transfer
  /-- A correction of the balance of an account. -/
  | adjustment
  /-- The tombstone of a deleted operation. -/
  | deleted
  deriving DecidableEq, Repr

namespace Kind

/-- The word for the kind. -/
def name : Kind → String
  | income => "income"
  | expense => "expense"
  | transfer => "transfer"
  | adjustment => "adjustment"
  | deleted => "deleted"

/-- The kind that a word names. -/
def ofName? (word : String) : Option Kind :=
  if word = "income" then some income
  else if word = "expense" then some expense
  else if word = "transfer" then some transfer
  else if word = "adjustment" then some adjustment
  else if word = "deleted" then some deleted
  else none

/-- The place of the kind among operations of one day. -/
def rank : Kind → Nat
  | income => 0
  | transfer => 1
  | expense => 2
  | adjustment => 3
  | deleted => 4

/-- A kind is the one that its word names. -/
theorem ofName?_name (k : Kind) : ofName? k.name = some k := by
  cases k <;> decide

/-- Kinds of one rank are equal. -/
theorem rank_injective {j k : Kind} (h : j.rank = k.rank) : j = k := by
  cases j <;> cases k <;> simp_all [rank]

end Kind

/-- An account that an operation touches, with the amount booked on it in the currency of that
account. -/
structure Side where
  /-- The name of the account. -/
  name : String
  /-- The amount booked. -/
  amount : Float
  deriving DecidableEq

/-- A category that a share of an operation falls under. -/
structure Split where
  /-- The name of the category. -/
  name : String
  /-- The share of the amount. -/
  amount : Float
  deriving DecidableEq

/-- What every live operation has. -/
structure Head where
  /-- The name of the record, shared by all its versions. -/
  id : String
  /-- When this version was written. -/
  lastModified : Timestamp
  /-- The day of the operation. -/
  date : Date
  /-- The currency of `amount`. -/
  currency : String
  /-- The amount as the bits of a double, which tell apart numbers that no calculation does. -/
  amountBits : UInt64
  /-- Labels that the user gave. -/
  tags : List String
  /-- A remark of the user. -/
  comment : Option String
  deriving DecidableEq

/-- The amount, negative for money that goes away. -/
def Head.amount (head : Head) : Float := .ofBits head.amountBits

/-- One record of the log. -/
inductive Operation
  /-- Money that enters `account` through the categories of `splits`. -/
  | income (head : Head) (account : Side) (splits : List Split)
  /-- Money that leaves `account` through the categories of `splits`. -/
  | expense (head : Head) (account : Side) (splits : List Split)
  /-- Money that moves from `account` to `toAccount`. -/
  | transfer (head : Head) (account toAccount : Side)
  /-- A correction of the balance of `account`. -/
  | adjustment (head : Head) (account : Side)
  /-- The tombstone of the operation with the name `id`. -/
  | deleted (id : String)
  deriving DecidableEq

namespace Operation

/-- What the operation shares with every live operation; a tombstone has none of it. -/
def head? : Operation → Option Head
  | income head _ _ => some head
  | expense head _ _ => some head
  | transfer head _ _ => some head
  | adjustment head _ => some head
  | deleted _ => none

/-- The name of the record. -/
def id : Operation → String
  | income head _ _ => head.id
  | expense head _ _ => head.id
  | transfer head _ _ => head.id
  | adjustment head _ => head.id
  | deleted id => id

/-- What sort of record it is. -/
def kind : Operation → Kind
  | income _ _ _ => .income
  | expense _ _ _ => .expense
  | transfer _ _ _ => .transfer
  | adjustment _ _ => .adjustment
  | deleted _ => .deleted

/-- Whether the record is a tombstone. -/
def isDeleted (op : Operation) : Bool := op.kind = .deleted

/-- The day of a live operation. -/
def date? (op : Operation) : Option Date := op.head?.map (·.date)

/-- When the version of a live operation was written. -/
def lastModified? (op : Operation) : Option Timestamp := op.head?.map (·.lastModified)

/-- The amount; a tombstone has none, which counts as zero. -/
def amount (op : Operation) : Float := (op.head?.map (·.amount)).getD 0

/-- The currency of the amount. -/
def currency? (op : Operation) : Option String := op.head?.map (·.currency)

/-- The labels that the user gave. -/
def tags (op : Operation) : List String := (op.head?.map (·.tags)).getD []

/-- The remark of the user. -/
def comment? (op : Operation) : Option String := op.head?.bind (·.comment)

/-- Every account that the operation touches, the one that money comes from first. -/
def sides : Operation → List Side
  | income _ account _ => [account]
  | expense _ account _ => [account]
  | transfer _ account toAccount => [account, toAccount]
  | adjustment _ account => [account]
  | deleted _ => []

/-- The categories of an income or an expense; other operations cannot have any. -/
def splits? : Operation → Option (List Split)
  | income _ _ splits => some splits
  | expense _ _ splits => some splits
  | _ => none

/-- The same operation, written at `now`. -/
def touch (now : Timestamp) : Operation → Operation
  | income head account splits => income { head with lastModified := now } account splits
  | expense head account splits => expense { head with lastModified := now } account splits
  | transfer head account toAccount => transfer { head with lastModified := now } account toAccount
  | adjustment head account => adjustment { head with lastModified := now } account
  | deleted id => deleted id

@[simp] theorem id_touch (now : Timestamp) (op : Operation) : (op.touch now).id = op.id := by
  cases op <;> rfl

@[simp] theorem kind_touch (now : Timestamp) (op : Operation) : (op.touch now).kind = op.kind := by
  cases op <;> rfl

@[simp] theorem date?_touch (now : Timestamp) (op : Operation) :
    (op.touch now).date? = op.date? := by
  cases op <;> rfl

/-- Only a tombstone has no head. -/
theorem head?_eq_none_iff (op : Operation) : op.head? = none ↔ op.isDeleted = true := by
  cases op <;> simp [head?, isDeleted, kind]

end Operation

end Cashbook
