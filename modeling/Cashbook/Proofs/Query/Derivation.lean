import Cashbook.Proofs.Query.Grammar
import Cashbook.Query.Diagnostic

/-!
# What is read is derived

The other half of the comparison with the grammar: tokens that are read as a query are derived by
the rules, and the predicate is the one that the rules build.

The reader keeps a stack of groups that are not finished, so what it has read is a derivation with
open ends.  `Group.Awaits` and `Group.Ends` say which tokens a group stands for, before a term and
behind one; `Spells` puts the groups together, each in the parentheses of the one before.  A token
that is accepted adds itself to what is spelled (`Spells.read`), whichever case of the reader it is,
and so what is left in the end is one chain of alternatives.

`parseQuery_eq_ok_iff` is the grammar of whole queries.
-/

namespace Cashbook.Query

open Predicate

variable {t : Token} {ts us : List Token} {p : Predicate} {g : Group}

/-! ### The tokens of a group -/

/-- Whether some tokens are a chain with the operands `ps` and the sign for its next operand, or
nothing at all. -/
def Leads (chain : List Token → List Predicate → Prop) (isSign : Token → Prop) (ts : List Token)
    (ps : List Predicate) : Prop :=
  (ts = [] ∧ ps = []) ∨ ∃ us t, ts = us ++ [t] ∧ isSign t ∧ chain us ps

theorem Leads.conjuncts {ps : List Predicate} (h : Leads Conjuncts IsAndSign us ps)
    (hterm : Term ts p) : Conjuncts (us ++ ts) (ps ++ [p]) := by
  rcases h with ⟨rfl, rfl⟩ | ⟨us, t, rfl, hsign, hconj⟩
  · exact .one hterm
  · rw [List.append_assoc]
    exact .more hconj hsign hterm

theorem Leads.alternatives {qs ps : List Predicate} (h : Leads Alternatives IsOrSign us qs)
    (hconj : Conjuncts ts ps) : Alternatives (us ++ ts) (qs ++ [joinOf .and ps]) := by
  rcases h with ⟨rfl, rfl⟩ | ⟨us, t, rfl, hsign, halt⟩
  · exact .one hconj
  · rw [List.append_assoc]
    exact .more halt hsign hconj

theorem term_negated {signs : List Token} (hsigns : ∀ t ∈ signs, IsNotSign t) (hterm : Term ts p) :
    Term (signs ++ ts) (negated signs.length p) := by
  induction signs with
  | nil => exact hterm
  | cons t signs ih =>
      obtain ⟨ht, hsigns⟩ := List.forall_mem_cons.1 hsigns
      exact .not ht (ih hsigns)

namespace Group

/-- Whether `ts` are the tokens of a group in which a term comes next. -/
def Awaits (g : Group) (ts : List Token) : Prop :=
  ∃ us vs signs, ts = us ++ (vs ++ signs) ∧
    Leads Alternatives IsOrSign us g.conjunctions.reverse ∧
    Leads Conjuncts IsAndSign vs g.terms.reverse ∧
    (∀ t ∈ signs, IsNotSign t) ∧ signs.length = g.negations

/-- Whether `ts` are the tokens of a group that may end. -/
def Ends (g : Group) (ts : List Token) : Prop :=
  ∃ us vs, ts = us ++ vs ∧ Leads Alternatives IsOrSign us g.conjunctions.reverse ∧
    Conjuncts vs g.terms.reverse ∧ g.negations = 0

theorem awaits_empty : empty.Awaits [] :=
  ⟨[], [], [], rfl, .inl ⟨rfl, rfl⟩, .inl ⟨rfl, rfl⟩, fun _ h => absurd h List.not_mem_nil, rfl⟩

theorem Awaits.negate (h : g.Awaits ts) (ht : IsNotSign t) : g.negate.Awaits (ts ++ [t]) := by
  obtain ⟨us, vs, signs, rfl, halts, hterms, hsigns, hlength⟩ := h
  refine ⟨us, vs, signs ++ [t], by simp, halts, hterms, ?_, ?_⟩
  · simpa [or_imp, forall_and] using ⟨hsigns, ht⟩
  · simp [Group.negate, hlength]

theorem Awaits.addTerm (h : g.Awaits us) (hatom : Atom ts p) : (g.addTerm p).Ends (us ++ ts) := by
  obtain ⟨us, vs, signs, rfl, halts, hterms, hsigns, hlength⟩ := h
  refine ⟨us, vs ++ (signs ++ ts), by simp, halts, ?_, rfl⟩
  have hterm := term_negated hsigns (.atom hatom)
  rw [hlength] at hterm
  show Conjuncts _ (negated g.negations p :: g.terms).reverse
  rw [List.reverse_cons]
  exact hterms.conjuncts hterm

theorem Ends.and (h : g.Ends ts) (ht : IsAndSign t) : g.Awaits (ts ++ [t]) := by
  obtain ⟨us, vs, rfl, halts, hterms, hzero⟩ := h
  exact ⟨us, vs ++ [t], [], by simp, halts, .inr ⟨vs, t, rfl, ht, hterms⟩, by simp, hzero.symm⟩

/-- The tokens of a group that may end are a chain of alternatives. -/
theorem Ends.alternatives (h : g.Ends ts) :
    Alternatives ts (chain .and g.terms :: g.conjunctions).reverse := by
  obtain ⟨us, vs, rfl, halts, hterms, -⟩ := h
  have hchain : chain .and g.terms = joinOf .and g.terms.reverse := chain_eq_joinOf .and g.terms
  rw [hchain, List.reverse_cons]
  exact halts.alternatives hterms

theorem Ends.or (h : g.Ends ts) (ht : IsOrSign t) : g.closeConjunction.Awaits (ts ++ [t]) :=
  ⟨ts ++ [t], [], [], by simp, .inr ⟨ts, t, rfl, ht, h.alternatives⟩, .inl ⟨rfl, rfl⟩, by simp, rfl⟩

theorem Ends.isQuery (h : g.Ends ts) : IsQuery ts g.close :=
  ⟨_, h.alternatives, close_eq_joinOf (List.reverse_reverse _).symm⟩

theorem Ends.atom (h : g.Ends ts) :
    Atom (.separator .opening :: ts ++ [.separator .closing]) g.close := by
  obtain ⟨ps, halt, hclose⟩ := h.isQuery
  rw [hclose]
  exact .group halt

end Group

/-! ### The tokens of a state -/

/-- Whether the tokens before the innermost group are those of the groups around it, each with the
parenthesis that opens the next. -/
inductive Around : List Group → List Token → Prop
  | nil : Around [] []
  | cons {outer : List Group} {g : Group} {us ts : List Token} :
      Around outer us → g.Awaits ts → Around (g :: outer) (us ++ (ts ++ [.separator .opening]))

/-- Whether `ts` are the tokens of the innermost group, according to what may come next. -/
inductive Inside (g : Group) : Awaiting → List Token → Prop
  | term {ts : List Token} : g.Awaits ts → Inside g .term ts
  | colon {ts : List Token} {key : String} {f : Field} :
      g.Awaits ts → Field.ofWord? key = some f → Inside g (.colon f) (ts ++ [.word key])
  | value {ts : List Token} {key : String} {f : Field} :
      g.Awaits ts → Field.ofWord? key = some f →
        Inside g (.value f) (ts ++ [.word key, .separator .colon])
  | connective {ts : List Token} : g.Ends ts → Inside g .connective ts

/-- Whether `ts` are the tokens that have been read. -/
def Spells (s : State) (ts : List Token) : Prop :=
  ∃ us vs, ts = us ++ vs ∧ Around s.outer us ∧ Inside s.inner s.awaiting vs

theorem spells_initial : Spells .initial [] := ⟨[], [], rfl, .nil, .term Group.awaits_empty⟩

theorem eq_of_keyword? (h : keyword? t = some p) :
    (t = .word "any" ∧ p = .any) ∨ (t = .word "uncategorized" ∧ p = .uncategorized) := by
  unfold keyword? at h
  split at h
  case h_1 =>
    split_ifs at h with hany huncategorized
    · cases h
      exact .inl ⟨congrArg _ hany, rfl⟩
    · cases h
      exact .inr ⟨congrArg _ huncategorized, rfl⟩
  case h_2 => cases h

theorem eq_of_field? {f : Field} (h : t.field? = some f) :
    ∃ key, t = .word key ∧ Field.ofWord? key = some f := by
  cases t with
  | word key => exact ⟨key, rfl, h⟩
  | _ => cases h

namespace Spells

variable {s s' : State}

/-- An atom in the place of a term. -/
theorem addTerm {outer : List Group} {vs : List Token} (hus : Around outer us) (hvs : g.Awaits vs)
    (hatom : Atom ts p) : Spells ⟨.connective, g.addTerm p, outer⟩ (us ++ (vs ++ ts)) :=
  ⟨us, vs ++ ts, rfl, hus, .connective (hvs.addTerm hatom)⟩

theorem readTerm {outer : List Group} {vs : List Token} (hus : Around outer us) (hvs : g.Awaits vs)
    (h : State.readTerm ⟨.term, g, outer⟩ t = .ok s') : Spells s' (us ++ (vs ++ [t])) := by
  unfold State.readTerm at h
  split at h
  case isTrue hnot =>
    cases h
    exact ⟨us, vs ++ [t], rfl, hus, .term (hvs.negate (isNot_iff.1 hnot))⟩
  case isFalse =>
    split at h
    case isTrue hopen =>
      cases h
      subst hopen
      exact ⟨us ++ (vs ++ [_]), [], by simp, .cons hus hvs, .term Group.awaits_empty⟩
    case isFalse =>
      split at h
      case h_1 p hp =>
        cases h
        rcases eq_of_keyword? hp with ⟨rfl, rfl⟩ | ⟨rfl, rfl⟩
        · exact addTerm hus hvs .any
        · exact addTerm hus hvs .uncategorized
      case h_2 =>
        split at h
        case h_1 f hf =>
          cases h
          obtain ⟨key, rfl, hkey⟩ := eq_of_field? hf
          exact ⟨us, vs ++ [.word key], rfl, hus, .colon hvs hkey⟩
        case h_2 => cases h

theorem readColon {outer : List Group} {vs : List Token} {key : String} {f : Field}
    (hus : Around outer us) (hvs : g.Awaits vs) (hkey : Field.ofWord? key = some f)
    (h : State.readColon ⟨.colon f, g, outer⟩ f t = .ok s') :
    Spells s' (us ++ (vs ++ [.word key, t])) := by
  unfold State.readColon at h
  split at h
  case isTrue hcolon =>
    cases h
    subst hcolon
    exact ⟨us, _, rfl, hus, .value hvs hkey⟩
  case isFalse => cases h

theorem readValue {outer : List Group} {vs : List Token} {key : String} {f : Field}
    (hus : Around outer us) (hvs : g.Awaits vs) (hkey : Field.ofWord? key = some f)
    (h : State.readValue ⟨.value f, g, outer⟩ f t = .ok s') :
    Spells s' (us ++ (vs ++ [.word key, .separator .colon, t])) := by
  unfold State.readValue at h
  split at h
  case h_1 => cases h
  case h_2 value hvalue =>
    split at h
    case h_1 p hp =>
      cases h
      exact addTerm hus hvs (.field (asks_iff.2 ⟨f, hkey, hp⟩) (text?_eq_some_iff.1 hvalue))
    case h_2 => cases h

theorem readConnective {outer : List Group} {vs : List Token} (hus : Around outer us)
    (hvs : g.Ends vs) (h : State.readConnective ⟨.connective, g, outer⟩ t = .ok s') :
    Spells s' (us ++ (vs ++ [t])) := by
  unfold State.readConnective at h
  split at h
  case isTrue hand =>
    cases h
    exact ⟨us, vs ++ [t], rfl, hus, .term (hvs.and (isAnd_iff.1 hand))⟩
  case isFalse =>
    split at h
    case isTrue hor =>
      cases h
      exact ⟨us, vs ++ [t], rfl, hus, .term (hvs.or (isOr_iff.1 hor))⟩
    case isFalse =>
      cases hus with
      | nil => cases h
      | cons hrest hgroup =>
          dsimp only at h
          split at h
          case isTrue hclosing =>
            cases h
            subst hclosing
            -- the group that ends is an atom of the group around it
            have hspells := addTerm hrest hgroup hvs.atom
            simp only [List.append_assoc, List.cons_append, List.nil_append] at hspells ⊢
            exact hspells
          case isFalse => cases h

/-- **One token.**  If it is accepted, it has been read after the others. -/
theorem read (hs : Spells s ts) (h : s.read t = .ok s') : Spells s' (ts ++ [t]) := by
  obtain ⟨us, vs, rfl, hus, hvs⟩ := hs
  obtain ⟨awaiting, inner, outer⟩ := s
  rw [List.append_assoc]
  cases hvs with
  | term hvs => exact readTerm hus hvs h
  | colon hvs hkey =>
      rw [List.append_assoc]
      exact readColon hus hvs hkey h
  | value hvs hkey =>
      rw [List.append_assoc]
      exact readValue hus hvs hkey h
  | connective hvs => exact readConnective hus hvs h

/-- Any number of tokens. -/
theorem readAll (hs : Spells s us) (h : s.readAll ts = some s') : Spells s' (us ++ ts) := by
  induction ts generalizing s us with
  | nil =>
      cases h
      simpa using hs
  | cons t ts ih =>
      cases hread : s.read t with
      | ok s₁ =>
          rw [State.readAll_cons_of_ok hread] at h
          have hall := ih (hs.read hread) h
          rwa [List.append_assoc] at hall
      | error r =>
          rw [State.readAll_cons_of_error hread] at h
          cases h

/-- Where a query may end, it has been derived. -/
theorem finish (hs : Spells s ts) (h : s.finish? = some p) : IsQuery ts p := by
  obtain ⟨us, vs, rfl, hus, hvs⟩ := hs
  obtain ⟨awaiting, inner, outer⟩ := s
  unfold State.finish? at h
  split at h
  case isTrue hend =>
    cases h
    obtain ⟨rfl, hempty⟩ := hend
    obtain rfl := List.isEmpty_iff.1 hempty
    cases hus
    cases hvs with
    | connective hends => exact hends.isQuery
  case isFalse => cases h

end Spells

/-! ### Whole queries -/

/-- Tokens are read as a predicate exactly if the rules derive them and build that predicate. -/
theorem parse_eq_ok_iff {located : List (Located Token)} :
    parse located = .ok p ↔ IsQuery (located.map (·.item)) p := by
  constructor
  · intro h
    obtain ⟨s, hread, hfinish⟩ := parseFrom_eq_ok_iff.1 h
    exact (spells_initial.readAll hread).finish hfinish
  · exact IsQuery.parse_eq_ok

/-- The rules are not ambiguous: tokens are a query for one predicate at most. -/
theorem IsQuery.unique {q : Predicate} (hp : IsQuery ts p) (hq : IsQuery ts q) : p = q := by
  have hitems : (ts.map fun t => Located.mk t ⟨0, 0⟩).map (·.item) = ts := by
    rw [List.map_map]
    exact List.map_id ts
  rw [← hitems] at hp hq
  have hsame := hp.parse_eq_ok.symm.trans hq.parse_eq_ok
  cases hsame
  rfl

/-- **The grammar of queries.**  A blank text asks for everything.  Any other text stands for a
predicate exactly if it has tokens, the rules derive them, and the predicate is the one that the
rules build. -/
theorem parseQuery_eq_ok_iff (text : String) (p : Predicate) :
    parseQuery text = .ok p ↔
      (∀ c ∈ text.toList, Text.isBlank c = true) ∧ p = .any ∨
        (¬ ∀ c ∈ text.toList, Text.isBlank c = true) ∧
          ∃ tokens, lex text = .ok tokens ∧ IsQuery (tokens.map (·.item)) p := by
  rw [← List.all_eq_true, ← Text.isBlankText, parseQuery]
  by_cases hblank : Text.isBlankText text = true
  · simp [hblank, eq_comm]
  · rw [if_neg hblank]
    cases lex text with
    | error e => simp [hblank]
    | ok tokens =>
        cases hparse : parse tokens <;> simp [hblank, ← parse_eq_ok_iff, hparse, eq_comm]

end Cashbook.Query
