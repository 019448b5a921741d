import Mathlib.Tactic.SplitIfs
import Cashbook.Proofs.Query.Reading

/-!
# The grammar of a query

The grammar of queries as rules over tokens, with the predicate that each rule builds:

    alternatives  ::=  conjuncts  |  alternatives ("or" | "|") conjuncts
    conjuncts     ::=  term  |  conjuncts ("and" | "&") term
    term          ::=  ("not" | "!") term  |  atom
    atom          ::=  "(" alternatives ")"  |  "any"  |  "uncategorized"  |  key ":" value

A chain gives the list of its operands in the order of the text, and what it stands for is one join
of all of them, or the operand itself if there is only one (`joinOf`).  A group is an operand like
any other, so that its join stays a node of its own.

The rules know nothing of how tokens are read.  `IsQuery.parse_eq_ok` is the first half of the
comparison: what the rules derive is read, and as the predicate that they build.  A chain grows at
its end, where the reader is, so that each rule is one step of the reader more.
-/

namespace Cashbook.Query

open Predicate

/-! ### Words and signs -/

/-- Whether a token stands for a negation. -/
def IsNotSign (t : Token) : Prop := t = .word "not" ∨ t = .operator .bang

/-- Whether a token stands between the terms of a conjunction. -/
def IsAndSign (t : Token) : Prop := t = .word "and" ∨ t = .operator .ampersand

/-- Whether a token stands between alternatives. -/
def IsOrSign (t : Token) : Prop := t = .word "or" ∨ t = .operator .bar

/-- Whether a token carries a text, bare or between quotes. -/
def Carries (t : Token) (text : String) : Prop := t = .word text ∨ t = .quoted text

/-- What the words for the fields ask for, with a text as their value. -/
inductive Asks : String → String → Predicate → Prop
  | kind {k : Kind} : k ≠ .deleted → Asks "type" k.name (.kind k)
  | category {text : String} : Asks "category" text (.category text)
  | cat {text : String} : Asks "cat" text (.category text)
  | account {text : String} : Asks "account" text (.account text)
  | acc {text : String} : Asks "acc" text (.account text)
  | tag {text : String} : Asks "tag" text (.tag text)
  | comment {text : String} : Asks "comment" text (.comment text)

/-! ### The rules -/

mutual

/-- A chain of alternatives. -/
inductive Alternatives : List Token → List Predicate → Prop
  | one {ts : List Token} {ps : List Predicate} : Conjuncts ts ps → Alternatives ts [joinOf .and ps]
  | more {us ts : List Token} {t : Token} {qs ps : List Predicate} :
      Alternatives us qs → IsOrSign t → Conjuncts ts ps →
        Alternatives (us ++ t :: ts) (qs ++ [joinOf .and ps])

/-- A chain of terms that all have to hold. -/
inductive Conjuncts : List Token → List Predicate → Prop
  | one {ts : List Token} {p : Predicate} : Term ts p → Conjuncts ts [p]
  | more {us ts : List Token} {t : Token} {qs : List Predicate} {p : Predicate} :
      Conjuncts us qs → IsAndSign t → Term ts p → Conjuncts (us ++ t :: ts) (qs ++ [p])

/-- A term, with its negations. -/
inductive Term : List Token → Predicate → Prop
  | not {t : Token} {ts : List Token} {p : Predicate} :
      IsNotSign t → Term ts p → Term (t :: ts) (.not p)
  | atom {ts : List Token} {p : Predicate} : Atom ts p → Term ts p

/-- A term without negations. -/
inductive Atom : List Token → Predicate → Prop
  | group {ts : List Token} {ps : List Predicate} :
      Alternatives ts ps → Atom (.separator .opening :: ts ++ [.separator .closing]) (joinOf .or ps)
  | any : Atom [.word "any"] .any
  | uncategorized : Atom [.word "uncategorized"] .uncategorized
  | field {key text : String} {value : Token} {p : Predicate} :
      Asks key text p → Carries value text → Atom [.word key, .separator .colon, value] p

end

/-- Whether some tokens are a query for `p`. -/
def IsQuery (ts : List Token) (p : Predicate) : Prop :=
  ∃ ps, Alternatives ts ps ∧ p = joinOf .or ps

/-! ### How the reader tells tokens apart -/

variable {t : Token} {key text : String} {p : Predicate}

theorem isNot_iff : t.isNot = true ↔ IsNotSign t := by
  cases t <;> simp [Token.isNot, IsNotSign]

theorem isAnd_iff : t.isAnd = true ↔ IsAndSign t := by
  cases t <;> simp [Token.isAnd, IsAndSign]

theorem isOr_iff : t.isOr = true ↔ IsOrSign t := by
  cases t <;> simp [Token.isOr, IsOrSign]

theorem text?_eq_some_iff : t.text? = some text ↔ Carries t text := by
  cases t <;> simp [Token.text?, Carries]

theorem liveKind?_eq_some_iff {k : Kind} :
    liveKind? text = some k ↔ text = k.name ∧ k ≠ .deleted := by
  rw [liveKind?, Option.filter_eq_some_iff, decide_eq_true_iff]
  refine and_congr_left fun _ => ⟨fun h => ?_, fun h => h ▸ Kind.ofName?_name k⟩
  unfold Kind.ofName? at h
  split_ifs at h with h₁ h₂ h₃ h₄ h₅ <;> cases h <;> assumption

/-- A word asks for a predicate if it names a field that can have the value. -/
theorem asks_iff :
    Asks key text p ↔ ∃ f, Field.ofWord? key = some f ∧ f.predicate? text = some p := by
  constructor
  · intro h
    cases h with
    | kind hk =>
        refine ⟨.kind, rfl, ?_⟩
        rw [Field.predicate?, liveKind?_eq_some_iff.2 ⟨rfl, hk⟩]
        rfl
    | category => exact ⟨.category, rfl, rfl⟩
    | cat => exact ⟨.category, rfl, rfl⟩
    | account => exact ⟨.account, rfl, rfl⟩
    | acc => exact ⟨.account, rfl, rfl⟩
    | tag => exact ⟨.tag, rfl, rfl⟩
    | comment => exact ⟨.comment, rfl, rfl⟩
  · rintro ⟨f, hf, hp⟩
    unfold Field.ofWord? at hf
    split_ifs at hf with h₁ h₂ h₃ h₄ h₅
    · cases hf
      obtain ⟨k, hk, rfl⟩ := Option.map_eq_some_iff.1 hp
      obtain ⟨rfl, hlive⟩ := liveKind?_eq_some_iff.1 hk
      subst h₁
      exact .kind hlive
    · cases hf
      cases hp
      rcases h₂ with rfl | rfl
      · exact .category
      · exact .cat
    · cases hf
      cases hp
      rcases h₃ with rfl | rfl
      · exact .account
      · exact .acc
    · cases hf
      cases hp
      subst h₄
      exact .tag
    · cases hf
      cases hp
      subst h₅
      exact .comment

/-! ### What is derived is read -/

namespace State

variable {s : State} {g : Group} {outer : List Group}

theorem readAll_cons_of_readAll {s' s'' : State} {ts : List Token} (h : s.read t = .ok s')
    (hs : s'.readAll ts = some s'') : s.readAll (t :: ts) = some s'' := by
  rw [readAll_cons_of_ok h, hs]

theorem readAll_append_of_readAll {s' s'' : State} {us ts : List Token}
    (hus : s.readAll us = some s') (hts : s'.readAll ts = some s'') :
    s.readAll (us ++ ts) = some s'' := by
  rw [readAll_append, hus]
  exact hts

theorem read_not (h : IsNotSign t) : read ⟨.term, g, outer⟩ t = .ok ⟨.term, g.negate, outer⟩ := by
  rcases h with rfl | rfl <;> rfl

theorem read_and (h : IsAndSign t) : read ⟨.connective, g, outer⟩ t = .ok ⟨.term, g, outer⟩ := by
  rcases h with rfl | rfl <;> rfl

theorem read_or (h : IsOrSign t) :
    read ⟨.connective, g, outer⟩ t = .ok ⟨.term, g.closeConjunction, outer⟩ := by
  rcases h with rfl | rfl <;> rfl

theorem read_opening :
    read ⟨.term, g, outer⟩ (.separator .opening) = .ok ⟨.term, .empty, g :: outer⟩ := rfl

theorem read_key (h : Asks key text p) :
    ∃ f, read ⟨.term, g, outer⟩ (.word key) = .ok ⟨.colon f, g, outer⟩ ∧
      f.predicate? text = some p := by
  obtain ⟨f, hf, hp⟩ := asks_iff.1 h
  refine ⟨f, ?_, hp⟩
  cases h <;> cases hf <;> rfl

theorem read_value {f : Field} (hp : f.predicate? text = some p) (h : Carries t text) :
    read ⟨.value f, g, outer⟩ t = .ok ⟨.connective, g.addTerm p, outer⟩ := by
  show readValue _ f t = _
  rw [readValue, text?_eq_some_iff.2 h]
  dsimp only
  rw [hp]
  rfl

end State

open State

/-- A group that ends with these alternatives is what the chain stands for. -/
theorem close_eq_joinOf {g : Group} {ps : List Predicate}
    (h : chain .and g.terms :: g.conjunctions = ps.reverse) : g.close = joinOf .or ps := by
  show chain Join.or.predicate _ = _
  rw [h, chain_eq_joinOf, List.reverse_reverse]

mutual

/-- In the place of a term with nothing before it, a chain of alternatives leaves a group that ends
with these alternatives. -/
theorem readAll_alternatives (outer : List Group) : ∀ {ts : List Token} {ps : List Predicate},
    Alternatives ts ps → ∃ g, readAll ⟨.term, .empty, outer⟩ ts = some ⟨.connective, g, outer⟩ ∧
      chain .and g.terms :: g.conjunctions = ps.reverse
  | _, _, @Alternatives.one _ ps hconj => by
      refine ⟨_, readAll_conjuncts [] outer hconj, ?_⟩
      show [chain Join.and.predicate ps.reverse] = _
      rw [chain_eq_joinOf, List.reverse_reverse, List.reverse_singleton]
  | _, _, @Alternatives.more _ _ _ qs ps halt hsign hconj => by
      obtain ⟨g, hread, hg⟩ := readAll_alternatives outer halt
      have hnext : g.closeConjunction = ⟨qs.reverse, [], 0⟩ := by rw [Group.closeConjunction, hg]
      have hmore := readAll_cons_of_readAll (read_or hsign)
        (hnext ▸ readAll_conjuncts qs.reverse outer hconj)
      refine ⟨_, readAll_append_of_readAll hread hmore, ?_⟩
      show chain Join.and.predicate ps.reverse :: qs.reverse = _
      rw [chain_eq_joinOf, List.reverse_reverse, List.reverse_append, List.reverse_singleton,
        List.singleton_append]

/-- In the place of a term with no terms before it, a chain of terms is read as these terms. -/
theorem readAll_conjuncts (conjunctions : List Predicate) (outer : List Group) :
    ∀ {ts : List Token} {ps : List Predicate}, Conjuncts ts ps →
      readAll ⟨.term, ⟨conjunctions, [], 0⟩, outer⟩ ts =
        some ⟨.connective, ⟨conjunctions, ps.reverse, 0⟩, outer⟩
  | _, _, .one hterm => readAll_term _ outer hterm
  | _, _, @Conjuncts.more _ _ _ qs _ hconj hsign hterm => by
      have hmore := readAll_cons_of_readAll (read_and hsign)
        (readAll_term ⟨conjunctions, qs.reverse, 0⟩ outer hterm)
      rw [readAll_append_of_readAll (readAll_conjuncts conjunctions outer hconj) hmore,
        List.reverse_append, List.reverse_singleton]
      rfl

/-- A term is read in the place of a term, whatever stands before it. -/
theorem readAll_term (g : Group) (outer : List Group) : ∀ {ts : List Token} {p : Predicate},
    Term ts p → readAll ⟨.term, g, outer⟩ ts = some ⟨.connective, g.addTerm p, outer⟩
  | _, _, .not hsign hterm => by
      rw [readAll_cons_of_readAll (read_not hsign) (readAll_term g.negate outer hterm)]
      -- the sign is kept with the group until the term it belongs to is there
      rw [Group.addTerm, Group.addTerm, negated_not]
      rfl
  | _, _, .atom hatom => readAll_atom g outer hatom

/-- A term without negations. -/
theorem readAll_atom (g : Group) (outer : List Group) : ∀ {ts : List Token} {p : Predicate},
    Atom ts p → readAll ⟨.term, g, outer⟩ ts = some ⟨.connective, g.addTerm p, outer⟩
  | _, _, .group halt => by
      obtain ⟨inner, hread, hinner⟩ := readAll_alternatives (g :: outer) halt
      have hlast : readAll ⟨.connective, inner, g :: outer⟩ [.separator .closing] =
          some ⟨.connective, g.addTerm inner.close, outer⟩ := rfl
      rw [← close_eq_joinOf hinner]
      exact readAll_cons_of_readAll read_opening (readAll_append_of_readAll hread hlast)
  | _, _, .any => rfl
  | _, _, .uncategorized => rfl
  | _, _, .field hasks hvalue => by
      obtain ⟨f, hkey, hp⟩ := read_key hasks
      exact readAll_cons_of_readAll hkey
        (readAll_cons_of_readAll rfl (readAll_cons_of_readAll (read_value hp hvalue) rfl))

end

/-- **What the rules derive is read**, and as the predicate that they build. -/
theorem IsQuery.parse_eq_ok {located : List (Located Token)}
    (h : IsQuery (located.map (·.item)) p) : parse located = .ok p := by
  obtain ⟨ps, halt, rfl⟩ := h
  obtain ⟨g, hread, hg⟩ := readAll_alternatives [] halt
  refine parseFrom_eq_ok_iff.2 ⟨_, hread, ?_⟩
  rw [← close_eq_joinOf hg]
  rfl

end Cashbook.Query
