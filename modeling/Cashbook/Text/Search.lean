/-!
# Searching a text

`occursIn needle text` decides whether `needle` is a run of characters of `text`; the empty text is
a run of every text.
-/

namespace Cashbook.Text

/-- Whether `needle` is a run of characters of the list. -/
def occursInList (needle : List Char) : List Char → Bool
  | [] => needle.isEmpty
  | c :: cs => needle.isPrefixOf (c :: cs) || occursInList needle cs

/-- Whether `needle` is a run of characters of `text`. -/
def occursIn (needle text : String) : Bool := occursInList needle.toList text.toList

/-- A run of characters is one with some characters before it and some after it. -/
theorem occursInList_iff (needle cs : List Char) :
    occursInList needle cs = true ↔ needle <:+: cs := by
  induction cs with
  | nil => simp [occursInList]
  | cons c cs ih => simp [occursInList, ih, List.infix_cons_iff]

/-- The empty text occurs in every text. -/
theorem occursIn_empty (text : String) : occursIn "" text = true :=
  (occursInList_iff _ _).2 (List.nil_infix)

end Cashbook.Text
