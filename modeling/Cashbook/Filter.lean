import Cashbook.Predicate.Basic

/-!
# The filter panel

A `Filter` is what a user picks in a panel: a text to search for, and for each of four aspects of an
operation which values to keep or to drop.  `Filter.toPredicate` is the predicate that asks for it.

### The design decisions

**An empty choice.**  Keeping only the listed values keeps nothing if none is listed; dropping the
listed values then drops nothing.

**Categories.**  Transfers and adjustments cannot have categories, so what is picked about
categories never drops them.  The empty name stands for having no category.
-/

namespace Cashbook

/-- What is picked about one aspect of an operation. -/
inductive Selection (α : Type)
  /-- Everything is kept. -/
  | all
  /-- Operations with one of the listed values are kept. -/
  | selected (items : List α)
  /-- Operations with one of the listed values are dropped. -/
  | excluded (items : List α)
  deriving DecidableEq, Repr

/-- What a user picks in the filter panel. -/
structure Filter where
  /-- A text that remarks must have in them. -/
  search : Option String
  /-- What is picked about the kind. -/
  kinds : Selection Kind
  /-- What is picked about the categories. -/
  categories : Selection String
  /-- What is picked about the accounts. -/
  accounts : Selection String
  /-- What is picked about the labels. -/
  tags : Selection String

namespace Filter

/-- The predicate for a category name; the empty name stands for having no category. -/
def categoryAtom (name : String) : Predicate :=
  if name = "" then .uncategorized else .category name

/-- The predicate for a text to search for; an empty text asks for nothing. -/
def searchPart? (search : Option String) : Option Predicate :=
  (search.filter (· ≠ "")).map .comment

/-- The predicate for what is picked, `atom` being the predicate for one value. -/
def part? {α : Type} (atom : α → Predicate) : Selection α → Option Predicate
  | .all => none
  | .selected [] => some (.not .any)
  | .selected items => some (.or (items.map atom))
  | .excluded [] => none
  | .excluded items => some (.not (.or (items.map atom)))

/-- The kinds of live operations that cannot have categories. -/
def withoutCategories : List Predicate := [.kind .transfer, .kind .adjustment]

/-- The predicate for what is picked about categories. -/
def categoriesPart? : Selection String → Option Predicate
  | .all => none
  | .selected names => some (.or (names.map categoryAtom ++ withoutCategories))
  | .excluded [] => none
  | .excluded names => some (.or (.not (.or (names.map categoryAtom)) :: withoutCategories))

/-- The predicates for all that is picked. -/
def parts (f : Filter) : List Predicate :=
  [ searchPart? f.search, part? .kind f.kinds, categoriesPart? f.categories,
    part? .account f.accounts, part? .tag f.tags ].filterMap id

/-- The predicate that asks for all that is picked. -/
def toPredicate (f : Filter) : Predicate :=
  match f.parts with
  | [] => .any
  | parts => .and parts

end Filter

end Cashbook
