import Cashbook.Operation.Basic

/-!
# Renaming accounts and categories in operations

When an account gets a new name, every side that names it follows; when a category does, every split
that names it.  `renameAccount?` and `renameCategory?` give the operation with the new name, or
nothing when the operation does not name the old one.
-/

namespace Cashbook

/-- A name after `old` has become `new`. -/
def renamed (old new name : String) : String := if name = old then new else name

namespace Operation

/-- Applies `f` to the name of every account that the operation touches. -/
def mapAccounts (f : String → String) : Operation → Operation
  | income head account splits => income head { account with name := f account.name } splits
  | expense head account splits => expense head { account with name := f account.name } splits
  | transfer head account toAccount =>
      transfer head { account with name := f account.name }
        { toAccount with name := f toAccount.name }
  | adjustment head account => adjustment head { account with name := f account.name }
  | deleted id => deleted id

/-- Applies `f` to the name of every category of the operation. -/
def mapCategories (f : String → String) : Operation → Operation
  | income head account splits =>
      income head account (splits.map fun s => { s with name := f s.name })
  | expense head account splits =>
      expense head account (splits.map fun s => { s with name := f s.name })
  | op => op

/-- Whether the operation touches the account `name`. -/
def touchesAccount (name : String) (op : Operation) : Bool := op.sides.any (·.name = name)

/-- Whether a share of the operation falls under the category `name`. -/
def hasCategory (name : String) (op : Operation) : Bool :=
  (op.splits?.getD []).any (·.name = name)

/-- The operation after the account `old` has become `new`, if it touches `old`. -/
def renameAccount? (old new : String) (op : Operation) : Option Operation :=
  if op.touchesAccount old then some (op.mapAccounts (renamed old new)) else none

/-- The operation after the category `old` has become `new`, if it has `old`. -/
def renameCategory? (old new : String) (op : Operation) : Option Operation :=
  if op.hasCategory old then some (op.mapCategories (renamed old new)) else none

@[simp] theorem id_mapAccounts (f : String → String) (op : Operation) :
    (op.mapAccounts f).id = op.id := by
  cases op <;> rfl

@[simp] theorem id_mapCategories (f : String → String) (op : Operation) :
    (op.mapCategories f).id = op.id := by
  cases op <;> rfl

/-- The sides of an operation whose accounts were renamed are its sides, renamed. -/
theorem sides_mapAccounts (f : String → String) (op : Operation) :
    (op.mapAccounts f).sides = op.sides.map fun s => { s with name := f s.name } := by
  cases op <;> rfl

/-- The splits of an operation whose categories were renamed are its splits, renamed. -/
theorem splits?_mapCategories (f : String → String) (op : Operation) :
    (op.mapCategories f).splits? =
      op.splits?.map fun splits => splits.map fun s => { s with name := f s.name } := by
  cases op <;> rfl

end Operation

end Cashbook
