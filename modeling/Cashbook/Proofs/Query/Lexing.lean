import Cashbook.Predicate.Printer
import Cashbook.Proofs.Predicate.Shape
import Cashbook.Proofs.Query.Spans

/-!
# The tokens of a written predicate

`Yields m cs ts` says that characters are cut into the tokens `ts` when they are read from mode `m`
on, wherever they stand.  The rules for a separator, a bare word and a quoted text are one rule for
the characters of a token (`Yields.lexeme`).

`Predicate.tokens` is what the written form of a predicate consists of, and `yields_toChars` says
so. A written predicate may end in a bare word, which goes on for as long as it can: so it has to be
followed by a character that ends every word, or by nothing (`Delimited`).
-/

namespace Cashbook.Query

/-- Whether characters are cut into the tokens `ts` from mode `m` on, wherever they stand. -/
def Yields (m : Mode) (cs : List Char) (ts : List Token) : Prop :=
  ∀ k, ∃ located, scan m k cs = .ok located ∧ located.map (·.item) = ts

variable {c : Char} {cs w : List Char} {ts : List Token}

/-- What is written for a text between quotes stands for this text. -/
theorem unescapes_escapeAll (v : List Char) : Unescapes (Text.escapeAll v) v := by
  induction v with
  | nil => exact .nil
  | cons c v ih =>
      rw [Text.escapeAll_cons]
      rcases Text.escape_cases c with ⟨hself, hquote, hslash⟩ | ⟨e, hpair, he⟩
      · rw [hself]
        exact .plain hquote hslash ih
      · rw [hpair]
        exact .escape he ih

namespace Yields

theorem nil : Yields .gap [] [] := fun _ => ⟨[], rfl, rfl⟩

theorem blank (hc : Text.isBlank c = true) (h : Yields .gap cs ts) : Yields .gap (c :: cs) ts := by
  intro k
  rw [scan_gap_blank hc]
  exact h (k + 1)

/-- **The characters of a token**, in front of others. -/
theorem lexeme {t : Token} (hw : IsLexeme w t cs) (h : Yields .gap cs ts) :
    Yields .gap (w ++ cs) (t :: ts) := by
  intro k
  obtain ⟨located, hscan, hts⟩ := h (k + w.length)
  refine ⟨⟨t, ⟨k, k + w.length⟩⟩ :: located, ?_, ?_⟩
  · rw [hw.scan_append, hscan]
    rfl
  · rw [List.map_cons, hts]

theorem separator (s : Separator) (h : Yields .gap cs ts) :
    Yields .gap (s.sign :: cs) (.separator s :: ts) :=
  lexeme (w := [s.sign]) (t := .separator s) rfl h

/-- A bare word, in front of something that ends it. -/
theorem word (text : String) (hne : text ≠ "") (hall : text.toList.all isWordChar = true)
    (hd : Delimited cs) (h : Yields .gap cs ts) :
    Yields .gap (text.toList ++ cs) (.word text :: ts) := by
  have hne' : text.toList ≠ [] := fun h => hne (String.toList_eq_nil_iff.1 h)
  exact lexeme ⟨rfl, hne', List.all_eq_true.1 hall, hd⟩ h

/-- A quoted text. -/
theorem literal (text : String) (h : Yields .gap cs ts) :
    Yields .gap ((Text.literal text).toList ++ cs) (.quoted text :: ts) := by
  rw [Text.literal, String.toList_ofList]
  exact lexeme ⟨_, rfl, unescapes_escapeAll text.toList⟩ h

end Yields

/-- Blanks alone have no tokens. -/
theorem yields_of_all_blank (h : ∀ c ∈ cs, Text.isBlank c = true) : Yields .gap cs [] := by
  induction cs with
  | nil => exact .nil
  | cons c cs ih =>
      obtain ⟨hc, hcs⟩ := List.forall_mem_cons.1 h
      exact .blank hc (ih hcs)

/-- A text that is cut into tokens, and into one at least, is not blank, and reading it gives these
tokens. -/
theorem lex_of_yields {text : String} (h : Yields .gap text.toList ts) (hne : ts ≠ []) :
    Text.isBlankText text = false ∧
      ∃ located, lex text = .ok located ∧ located.map (·.item) = ts := by
  obtain ⟨located, hscan, hts⟩ := h 0
  have hblank : Text.isBlankText text = false := by
    refine Bool.eq_false_iff.2 fun hblank => hne ?_
    rw [Text.isBlankText, List.all_eq_true] at hblank
    obtain ⟨none, hscan', hnone⟩ := yields_of_all_blank hblank 0
    rw [hscan', Except.ok.injEq] at hscan
    rw [← hts, ← hscan, hnone]
  refine ⟨hblank, located, ?_, hts⟩
  rw [lex, if_neg (by rw [hblank]; exact fun h => Bool.false_ne_true h.2), hscan]

end Cashbook.Query

namespace Cashbook.Predicate

open Query

/-! ### Written predicates -/

/-- The token of a value. -/
def valueToken (value : String) : Token := if isBare value then .word value else .quoted value

/-- The tokens of a field with a value. -/
def fieldTokens (key : String) (value : Token) : List Token :=
  [.word key, .separator .colon, value]

mutual

/-- The tokens of a written predicate. -/
def tokens : Predicate → List Token
  | any => [.word "any"]
  | kind k => fieldTokens "type" (.word k.name)
  | category name => fieldTokens "category" (valueToken name)
  | uncategorized => [.word "uncategorized"]
  | account name => fieldTokens "account" (valueToken name)
  | tag label => fieldTokens "tag" (valueToken label)
  | comment needle => fieldTokens "comment" (valueToken needle)
  | and operands => .separator .opening :: (joinedTokens .and operands ++ [.separator .closing])
  | or operands => .separator .opening :: (joinedTokens .or operands ++ [.separator .closing])
  | not operand => .word "not" :: tokens operand

/-- The tokens of some predicates, with the word for a join between each two. -/
def joinedTokens (j : Join) : List Predicate → List Token
  | [] => []
  | p :: ps => tokens p ++ continuedTokens j ps

/-- The tokens of some predicates, with the word for a join before each. -/
def continuedTokens (j : Join) : List Predicate → List Token
  | [] => []
  | p :: ps => .word j.name :: (tokens p ++ continuedTokens j ps)

end

theorem tokens_join (j : Join) (ps : List Predicate) :
    (j.predicate ps).tokens =
      .separator .opening :: (joinedTokens j ps ++ [.separator .closing]) := by
  cases j <;> rfl

/-- A written predicate has a token. -/
theorem tokens_ne_nil (p : Predicate) : p.tokens ≠ [] := by
  cases p <;> exact List.cons_ne_nil _ _

/-- What stands between the operands of a join. -/
def gapOf (j : Join) : List Char := ' ' :: (j.name.toList ++ [' '])

theorem toChars_join (j : Join) (ps : List Predicate) :
    (j.predicate ps).toChars = '(' :: (joined (gapOf j) ps ++ [')']) := by
  cases j <;> rfl

variable {cs : List Char} {ts : List Token}

/-- A value in front of something that ends a word. -/
theorem yields_valueText (value : String) (hd : Delimited cs) (h : Yields .gap cs ts) :
    Yields .gap (valueText value ++ cs) (valueToken value :: ts) := by
  rw [valueText, valueToken]
  split
  case isTrue hbare =>
    rw [isBare, Bool.and_eq_true, Bool.and_eq_true, decide_eq_true_eq] at hbare
    exact .word value hbare.1.1 hbare.1.2 hd h
  case isFalse => exact .literal value h

/-- A field, if its key and its value can be read. -/
theorem yields_field (key : String) (hne : key ≠ "") (hall : key.toList.all isWordChar = true)
    {value : List Char} {t : Token} (h : Yields .gap (value ++ cs) (t :: ts)) :
    Yields .gap ((key.toList ++ ':' :: value) ++ cs) (fieldTokens key t ++ ts) := by
  rw [List.append_assoc]
  exact .word key hne hall rfl (.separator .colon h)

/-- The operands that follow the first one, each after the word for the join. -/
theorem yields_continued (j : Join) {ps : List Predicate}
    (hps : ∀ p ∈ ps, ∀ cs ts, Delimited cs → Yields .gap cs ts →
      Yields .gap (p.toChars ++ cs) (p.tokens ++ ts))
    (hd : Delimited cs) (h : Yields .gap cs ts) :
    Delimited (continued (gapOf j) ps ++ cs) ∧
      Yields .gap (continued (gapOf j) ps ++ cs) (continuedTokens j ps ++ ts) := by
  induction ps with
  | nil => exact ⟨hd, h⟩
  | cons p ps ih =>
      obtain ⟨hp, hps⟩ := List.forall_mem_cons.1 hps
      obtain ⟨hd', h'⟩ := ih hps
      have hname : j.name ≠ "" ∧ j.name.toList.all isWordChar = true := by cases j <;> decide
      have hchars : continued (gapOf j) (p :: ps) ++ cs =
          ' ' :: (j.name.toList ++ ' ' :: (p.toChars ++ (continued (gapOf j) ps ++ cs))) := by
        simp [continued, gapOf]
      refine ⟨rfl, ?_⟩
      rw [hchars, continuedTokens, List.cons_append, List.append_assoc]
      exact .blank rfl (.word j.name hname.1 hname.2 rfl (.blank rfl (hp _ _ hd' h')))

/-- A join, if its operands can be read. -/
theorem yields_join (j : Join) {ps : List Predicate}
    (hps : ∀ p ∈ ps, ∀ cs ts, Delimited cs → Yields .gap cs ts →
      Yields .gap (p.toChars ++ cs) (p.tokens ++ ts))
    (h : Yields .gap cs ts) :
    Yields .gap ((j.predicate ps).toChars ++ cs) ((j.predicate ps).tokens ++ ts) := by
  have hclose : Yields .gap (')' :: cs) (.separator .closing :: ts) := .separator .closing h
  rw [toChars_join, tokens_join, List.cons_append, List.cons_append, List.append_assoc,
    List.append_assoc, List.singleton_append, List.singleton_append]
  refine .separator .opening ?_
  cases ps with
  | nil => exact hclose
  | cons p ps =>
      obtain ⟨hp, hps⟩ := List.forall_mem_cons.1 hps
      have hparen : Delimited (')' :: cs) := rfl
      obtain ⟨hd', h'⟩ := yields_continued j hps hparen hclose
      rw [joined, joinedTokens, List.append_assoc, List.append_assoc]
      exact hp _ _ hd' h'

/-- **The tokens of a written predicate**, in front of something that ends a word. -/
theorem yields_toChars (p : Predicate) (cs : List Char) (ts : List Token) (hd : Delimited cs)
    (h : Yields .gap cs ts) : Yields .gap (p.toChars ++ cs) (p.tokens ++ ts) := by
  induction p using induction_on_operands generalizing cs ts with
  | step p ih =>
      cases p with
      | any => exact .word "any" (by decide) (by decide) hd h
      | uncategorized => exact .word "uncategorized" (by decide) (by decide) hd h
      | kind k =>
          have hname : k.name ≠ "" ∧ k.name.toList.all isWordChar = true := by cases k <;> decide
          exact yields_field "type" (by decide) (by decide) (.word k.name hname.1 hname.2 hd h)
      | category name =>
          exact yields_field "category" (by decide) (by decide) (yields_valueText name hd h)
      | account name =>
          exact yields_field "account" (by decide) (by decide) (yields_valueText name hd h)
      | tag label =>
          exact yields_field "tag" (by decide) (by decide) (yields_valueText label hd h)
      | comment needle =>
          exact yields_field "comment" (by decide) (by decide) (yields_valueText needle hd h)
      | and ps => exact yields_join .and ih h
      | or ps => exact yields_join .or ih h
      | not p =>
          have hp := ih p List.mem_cons_self cs ts hd h
          exact .word "not" (by decide) (by decide) rfl (.blank rfl hp)

/-- Reading the written form of a predicate gives its tokens. -/
theorem lex_toText (p : Predicate) :
    Text.isBlankText p.toText = false ∧
      ∃ located, lex p.toText = .ok located ∧ located.map (·.item) = p.tokens := by
  have h := yields_toChars p [] [] trivial .nil
  rw [List.append_nil, List.append_nil] at h
  refine lex_of_yields ?_ p.tokens_ne_nil
  rw [toText, String.toList_ofList]
  exact h

end Cashbook.Predicate
