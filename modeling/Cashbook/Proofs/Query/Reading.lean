import Cashbook.Proofs.Query.Lexing
import Cashbook.Query.Parser

/-!
# Reading tokens

Two facts about `State.read`, one for each direction between tokens and predicates.

* `reads_tokens` — in the place of a term, the tokens of a written predicate are read as that
  predicate, collapsed, if it is writable; if it is not, one of them is refused.
* `State.IsSound.read` — a token that is accepted leaves a state all of whose operands are normal,
  so that a query that ends well stands for a normal predicate (`isNormal_of_parse`).

### The design decision

What is read does not depend on where the tokens stand, so `State.readAll` reads bare tokens.
`Reads` says for some tokens when they are read and what comes of it, and also that they are refused
otherwise: both halves of the first fact are then proved by one induction, because either half
composes (`Reads.append`).
-/

namespace Cashbook.Query

open Predicate

namespace State

/-- The state after some more tokens, if none of them is refused. -/
def readAll (s : State) : List Token → Option State
  | [] => some s
  | t :: ts =>
      match s.read t with
      | .ok s' => readAll s' ts
      | .error _ => none

theorem readAll_cons_of_ok {s s' : State} {t : Token} (h : s.read t = .ok s') (ts : List Token) :
    s.readAll (t :: ts) = s'.readAll ts := by
  rw [readAll, h]

theorem readAll_cons_of_error {s : State} {t : Token} {r : Refusal} (h : s.read t = .error r)
    (ts : List Token) : s.readAll (t :: ts) = none := by
  rw [readAll, h]

theorem readAll_append (s : State) (xs ys : List Token) :
    s.readAll (xs ++ ys) = (s.readAll xs).bind (·.readAll ys) := by
  induction xs generalizing s with
  | nil => rfl
  | cons t xs ih =>
      cases h : s.read t with
      | ok s' => rw [List.cons_append, readAll_cons_of_ok h, readAll_cons_of_ok h, ih]
      | error r => rw [List.cons_append, readAll_cons_of_error h, readAll_cons_of_error h]; rfl

end State

/-- A query stands for a predicate exactly if its tokens are read and may end there. -/
theorem parseFrom_eq_ok_iff {s : State} {located : List (Located Token)} {p : Predicate} :
    parseFrom s located = .ok p ↔
      ∃ s', s.readAll (located.map (·.item)) = some s' ∧ s'.finish? = some p := by
  induction located generalizing s with
  | nil =>
      rw [parseFrom, List.map_nil, State.readAll]
      cases h : s.finish? with
      | none => simp [h]
      | some q => simp [h]
  | cons t located ih =>
      rw [parseFrom, List.map_cons]
      cases h : s.read t.item with
      | ok s' => rw [State.readAll_cons_of_ok h]; exact ih
      | error r => rw [State.readAll_cons_of_error h]; simp

/-! ### When tokens are read -/

/-- From `s`, some tokens lead to `s'` if `P` holds, and one of them is refused if it does not. -/
def Reads (s : State) (ts : List Token) (P : Prop) (s' : State) : Prop :=
  (P → s.readAll ts = some s') ∧ (¬ P → s.readAll ts = none)

namespace Reads

variable {s s₁ s₂ : State} {t : Token} {ts xs ys : List Token} {P Q : Prop}

theorem nil (s : State) : Reads s [] True s := ⟨fun _ => rfl, fun h => absurd trivial h⟩

theorem congr (hPQ : P ↔ Q) (h : Reads s ts P s₁) : Reads s ts Q s₁ :=
  ⟨fun hq => h.1 (hPQ.2 hq), fun hq => h.2 fun hp => hq (hPQ.1 hp)⟩

theorem cons (ht : s.read t = .ok s₁) (h : Reads s₁ ts P s₂) : Reads s (t :: ts) P s₂ := by
  rw [Reads, State.readAll_cons_of_ok ht]
  exact h

theorem refused {r : Refusal} (ht : s.read t = .error r) (ts : List Token) (s' : State) :
    Reads s (t :: ts) False s' :=
  ⟨False.elim, fun _ => State.readAll_cons_of_error ht ts⟩

theorem append (hxs : Reads s xs P s₁) (hys : Reads s₁ ys Q s₂) :
    Reads s (xs ++ ys) (P ∧ Q) s₂ := by
  constructor
  · rintro ⟨hp, hq⟩
    rw [State.readAll_append, hxs.1 hp]
    exact hys.1 hq
  · intro hpq
    rw [State.readAll_append]
    by_cases hp : P
    · rw [hxs.1 hp]
      exact hys.2 fun hq => hpq ⟨hp, hq⟩
    · rw [hxs.2 hp]
      rfl

end Reads

/-! ### The operands of a group -/

/-- A group in which the operands of a join have been read, latest first. -/
def operandGroup : Join → List Predicate → Group
  | .and, ps => ⟨[], ps, 0⟩
  | .or, [] => .empty
  | .or, p :: ps => ⟨ps, [p], 0⟩

/-- A chain is a join, or the operand itself if there is only one. -/
theorem chain_eq_joinOf (j : Join) (ps : List Predicate) :
    chain j.predicate ps = joinOf j ps.reverse := by
  match ps with
  | [] => rfl
  | [p] => rfl
  | p :: q :: ps =>
      rw [joinOf_of_two_le (by rw [List.length_reverse, List.length_cons, List.length_cons]; omega)]
      rfl

/-- A group that ends after the operands of a join is the join. -/
theorem close_operandGroup (j : Join) (p : Predicate) (ps : List Predicate) :
    (operandGroup j (p :: ps)).close = joinOf j (p :: ps).reverse := by
  cases j with
  | and => exact chain_eq_joinOf .and (p :: ps)
  | or => exact chain_eq_joinOf .or (p :: ps)

/-- The word for a join goes on to its next operand. -/
theorem read_join (j : Join) (p : Predicate) (ps : List Predicate) (outer : List Group) :
    ∃ g, State.read ⟨.connective, operandGroup j (p :: ps), outer⟩ (.word j.name) =
        .ok ⟨.term, g, outer⟩ ∧
      ∀ q, g.addTerm q = operandGroup j (q :: p :: ps) := by
  cases j with
  | and => exact ⟨⟨[], p :: ps, 0⟩, rfl, fun _ => rfl⟩
  | or => exact ⟨⟨p :: ps, [], 0⟩, rfl, fun _ => rfl⟩

/-! ### Written predicates -/

/-- Negations that have been read come before those of the term. -/
theorem negated_not (n : Nat) (p : Predicate) : negated n (.not p) = .not (negated n p) := by
  induction n with
  | zero => rfl
  | succ n ih => rw [negated, negated, ih]

theorem text?_valueToken (value : String) : (valueToken value).text? = some value := by
  rw [valueToken]
  split <;> rfl

/-- A field with a value that it can have. -/
theorem reads_field {f : Field} {key value : String} {t : Token} {p : Predicate} {g : Group}
    {outer : List Group}
    (hkey : State.read ⟨.term, g, outer⟩ (.word key) = .ok ⟨.colon f, g, outer⟩)
    (ht : t.text? = some value) (hp : f.predicate? value = some p) :
    Reads ⟨.term, g, outer⟩ (fieldTokens key t) True ⟨.connective, g.addTerm p, outer⟩ := by
  refine .cons hkey (.cons rfl (.cons ?_ (.nil _)))
  show State.readValue _ f t = _
  rw [State.readValue, ht]
  dsimp only
  rw [hp]
  rfl

/-- What `reads_tokens` says of a predicate. -/
def ReadsTokens (p : Predicate) : Prop :=
  ∀ g outer,
    Reads ⟨.term, g, outer⟩ p.tokens p.IsWritable ⟨.connective, g.addTerm p.collapse, outer⟩

/-- The operands that follow the first one, each after the word for the join. -/
theorem reads_continued (j : Join) {ps : List Predicate} (hps : ∀ p ∈ ps, ReadsTokens p)
    (q : Predicate) (qs : List Predicate) (outer : List Group) :
    Reads ⟨.connective, operandGroup j (q :: qs), outer⟩ (continuedTokens j ps)
      (∀ p ∈ ps, p.IsWritable)
      ⟨.connective, operandGroup j ((ps.map collapse).reverse ++ q :: qs), outer⟩ := by
  induction ps generalizing q qs with
  | nil => exact (Reads.nil _).congr (by simp)
  | cons p ps ih =>
      obtain ⟨hp, hps⟩ := List.forall_mem_cons.1 hps
      obtain ⟨g, hread, hterm⟩ := read_join j q qs outer
      have hfirst := hp g outer
      rw [hterm] at hfirst
      have hall := Reads.cons hread (hfirst.append (ih hps p.collapse (q :: qs)))
      rw [List.map_cons, List.reverse_cons, List.append_assoc, List.singleton_append]
      exact hall.congr List.forall_mem_cons.symm

/-- A join between parentheses. -/
theorem reads_join (j : Join) {ps : List Predicate} (hps : ∀ p ∈ ps, ReadsTokens p) :
    ReadsTokens (j.predicate ps) := by
  intro g outer
  have hopen : State.read ⟨.term, g, outer⟩ (.separator .opening) =
      .ok ⟨.term, .empty, g :: outer⟩ := rfl
  rw [tokens_join]
  refine .cons hopen ?_
  cases ps with
  | nil => exact (Reads.refused rfl [] _).congr (by rw [isWritable_join]; simp)
  | cons p ps =>
      obtain ⟨hp, hps⟩ := List.forall_mem_cons.1 hps
      -- inside the parentheses the group begins empty, so that its first operand fills it for
      -- either join
      have hfirst : Reads ⟨.term, .empty, g :: outer⟩ p.tokens p.IsWritable
          ⟨.connective, operandGroup j [p.collapse], g :: outer⟩ := by
        cases j <;> exact hp .empty (g :: outer)
      have hmore := hfirst.append (reads_continued j hps p.collapse [] (g :: outer))
      have hlast : State.read
          ⟨.connective, operandGroup j ((ps.map collapse).reverse ++ [p.collapse]), g :: outer⟩
          (.separator .closing) =
        .ok ⟨.connective, g.addTerm (j.predicate (p :: ps)).collapse, outer⟩ := by
        show Except.ok (State.mk .connective (g.addTerm (Group.close _)) outer) = _
        have hclose : (operandGroup j ((ps.map collapse).reverse ++ [p.collapse])).close =
            (j.predicate (p :: ps)).collapse := by
          rw [collapse_join, ← List.reverse_cons, ← List.map_cons]
          cases hrev : ((p :: ps).map collapse).reverse with
          | nil => exact absurd (List.reverse_eq_nil_iff.1 hrev) (List.cons_ne_nil _ _)
          | cons q qs => rw [close_operandGroup, ← hrev, List.reverse_reverse]
        rw [hclose]
      refine (hmore.append (.cons hlast (.nil _))).congr ?_
      rw [isWritable_join, and_true, ← List.forall_mem_cons]
      exact ⟨fun h => ⟨List.cons_ne_nil _ _, h⟩, fun h => h.2⟩

/-- **The tokens of a written predicate**, in the place of a term: they are read as the predicate,
collapsed, if it is writable, and one of them is refused if it is not. -/
theorem reads_tokens (p : Predicate) : ReadsTokens p := by
  induction p using induction_on_operands with
  | step p ih =>
      have hatom {p : Predicate} (h : p.operands = []) (hand : p ≠ .and []) (hor : p ≠ .or [])
          (hkind : ∀ k, p ≠ .kind k) : True ↔ p.IsWritable :=
        ⟨fun _ => isWritable_atom h hand hor hkind, fun _ => trivial⟩
      cases p with
      | any =>
          intro g outer
          exact (Reads.cons rfl (.nil _)).congr (hatom rfl nofun nofun nofun)
      | uncategorized =>
          intro g outer
          exact (Reads.cons rfl (.nil _)).congr (hatom rfl nofun nofun nofun)
      | category name =>
          intro g outer
          exact (reads_field (f := .category) rfl (text?_valueToken name) rfl).congr
            (hatom rfl nofun nofun nofun)
      | account name =>
          intro g outer
          exact (reads_field (f := .account) rfl (text?_valueToken name) rfl).congr
            (hatom rfl nofun nofun nofun)
      | tag label =>
          intro g outer
          exact (reads_field (f := .tag) rfl (text?_valueToken label) rfl).congr
            (hatom rfl nofun nofun nofun)
      | comment needle =>
          intro g outer
          exact (reads_field (f := .comment) rfl (text?_valueToken needle) rfl).congr
            (hatom rfl nofun nofun nofun)
      | kind k =>
          intro g outer
          by_cases hk : k = .deleted
          · subst hk
            refine .cons rfl (.cons rfl ?_)
            exact (Reads.refused rfl [] _).congr (by rw [isWritable_kind]; simp)
          · have hvalue : Field.predicate? k.name .kind = some (.kind k) := by
              rw [Field.predicate?, liveKind?, Kind.ofName?_name,
                Option.filter_some_pos (by simpa using hk)]
              rfl
            refine (reads_field (f := .kind) rfl rfl hvalue).congr ?_
            exact ⟨fun _ => isWritable_kind.2 hk, fun _ => trivial⟩
      | and ps => exact reads_join .and ih
      | or ps => exact reads_join .or ih
      | not p =>
          intro g outer
          have hp := ih p List.mem_cons_self g.negate outer
          -- the mark for a negation is kept with the group until the term it belongs to is there
          have hterm : g.negate.addTerm p.collapse = g.addTerm (Predicate.not p).collapse := by
            rw [Group.addTerm, Group.addTerm, collapse, negated_not]
            rfl
          rw [hterm] at hp
          exact (Reads.cons rfl hp).congr isWritable_not.symm

/-- The tokens of a written predicate stand for the predicate, collapsed, if it is writable, and for
nothing if it is not. -/
theorem parse_eq_ok_iff_of_tokens {located : List (Located Token)} {p q : Predicate}
    (h : located.map (·.item) = p.tokens) :
    parse located = .ok q ↔ p.IsWritable ∧ q = p.collapse := by
  obtain ⟨hread, hrefuse⟩ := reads_tokens p .empty []
  rw [parse, parseFrom_eq_ok_iff, h]
  constructor
  · rintro ⟨s, hs, hq⟩
    by_cases hp : p.IsWritable
    · have hsame := (hread hp).symm.trans hs
      rw [Option.some_inj] at hsame
      subst hsame
      exact ⟨hp, (Option.some_inj.1 hq).symm⟩
    · have hsame := (hrefuse hp).symm.trans hs
      cases hsame
  · rintro ⟨hp, rfl⟩
    exact ⟨_, hread hp, rfl⟩

/-! ### What comes of any tokens -/

/-- Whether all operands that a group has so far are normal. -/
def Group.IsSound (g : Group) : Prop := ∀ p ∈ g.conjunctions ++ g.terms, p.IsNormal

/-- Whether all operands that have been read are normal, and there is one in front of every
connective. -/
structure State.IsSound (s : State) : Prop where
  /-- The operands of the innermost group are normal. -/
  inner : s.inner.IsSound
  /-- The operands of the groups around it are normal. -/
  outer : ∀ g ∈ s.outer, g.IsSound
  /-- A connective comes behind a term. -/
  terms_ne_nil : s.awaiting = .connective → s.inner.terms ≠ []

theorem isNormal_negated (n : Nat) {p : Predicate} (h : p.IsNormal) : (negated n p).IsNormal := by
  induction n with
  | zero => exact h
  | succ n ih => exact isNormal_not.2 ih

/-- A chain of normal operands is normal, since a join is made of two of them at least. -/
theorem isNormal_chain (j : Join) {ps : List Predicate} (hne : ps ≠ []) (h : ∀ p ∈ ps, p.IsNormal) :
    (chain j.predicate ps).IsNormal := by
  match ps, hne with
  | [p], _ => exact h p List.mem_cons_self
  | p :: q :: ps, _ =>
      refine isNormal_join.2 ⟨?_, fun r hr => h r (List.mem_reverse.1 hr)⟩
      rw [List.length_reverse, List.length_cons, List.length_cons]
      omega

namespace Group.IsSound

variable {g : Group}

theorem empty : Group.empty.IsSound := fun _ h => absurd h List.not_mem_nil

theorem addTerm (hg : g.IsSound) {p : Predicate} (hp : p.IsNormal) : (g.addTerm p).IsSound := by
  intro q hq
  rcases List.mem_append.1 hq with hq | hq
  · exact hg q (List.mem_append_left _ hq)
  · rcases List.mem_cons.1 hq with rfl | hq
    · exact isNormal_negated g.negations hp
    · exact hg q (List.mem_append_right _ hq)

/-- The open conjunction of a group and those before it are normal. -/
theorem isNormal_of_mem_conjunctions (hg : g.IsSound) (hne : g.terms ≠ []) {p : Predicate}
    (hp : p ∈ chain .and g.terms :: g.conjunctions) : p.IsNormal := by
  rcases List.mem_cons.1 hp with rfl | hp
  · exact isNormal_chain .and hne fun q hq => hg q (List.mem_append_right _ hq)
  · exact hg p (List.mem_append_left _ hp)

theorem closeConjunction (hg : g.IsSound) (hne : g.terms ≠ []) : g.closeConjunction.IsSound := by
  intro p hp
  rcases List.mem_append.1 hp with hp | hp
  · exact hg.isNormal_of_mem_conjunctions hne hp
  · exact absurd hp List.not_mem_nil

theorem close (hg : g.IsSound) (hne : g.terms ≠ []) : g.close.IsNormal :=
  isNormal_chain .or (List.cons_ne_nil _ _) fun _ hp => hg.isNormal_of_mem_conjunctions hne hp

end Group.IsSound

/-- The predicate of a word by itself is normal. -/
theorem isNormal_of_keyword? {t : Token} {p : Predicate} (h : keyword? t = some p) :
    p.IsNormal := by
  have hp : p = .any ∨ p = .uncategorized := by
    unfold keyword? at h
    split at h
    case h_1 =>
      split at h
      · exact .inl (Option.some_inj.1 h).symm
      · split at h
        · exact .inr (Option.some_inj.1 h).symm
        · cases h
    case h_2 => cases h
  rcases hp with rfl | rfl
  · exact isNormal_of_operands_eq_nil rfl (isWritable_atom rfl nofun nofun nofun)
  · exact isNormal_of_operands_eq_nil rfl (isWritable_atom rfl nofun nofun nofun)

/-- The predicate of a field with a value is normal, since tombstones cannot be asked for. -/
theorem isNormal_of_predicate? {f : Field} {value : String} {p : Predicate}
    (h : f.predicate? value = some p) : p.IsNormal := by
  cases f with
  | kind =>
      obtain ⟨k, hk, rfl⟩ := Option.map_eq_some_iff.1 h
      have hlive := (Option.filter_eq_some_iff.1 hk).2
      exact isNormal_of_operands_eq_nil rfl (isWritable_kind.2 (of_decide_eq_true hlive))
  | _ =>
      cases h
      exact isNormal_of_operands_eq_nil rfl (isWritable_atom rfl nofun nofun nofun)

namespace State.IsSound

variable {s s' : State}

theorem initial : State.initial.IsSound :=
  ⟨Group.IsSound.empty, fun _ h => absurd h List.not_mem_nil, nofun⟩

theorem addTerm (hs : s.IsSound) {p : Predicate} (hp : p.IsNormal) : (s.addTerm p).IsSound :=
  ⟨hs.inner.addTerm hp, hs.outer, fun _ => List.cons_ne_nil _ _⟩

theorem readTerm (hs : s.IsSound) {t : Token} (h : s.readTerm t = .ok s')
    (hterm : s.awaiting = .term) :
    s'.IsSound := by
  unfold State.readTerm at h
  split at h
  · cases h
    exact ⟨hs.inner, hs.outer, fun hc => by rw [hterm] at hc; cases hc⟩
  · split at h
    · cases h
      refine ⟨Group.IsSound.empty, ?_, nofun⟩
      exact List.forall_mem_cons.2 ⟨hs.inner, hs.outer⟩
    · split at h
      case h_1 p hp =>
        cases h
        exact hs.addTerm (isNormal_of_keyword? hp)
      case h_2 =>
        split at h
        · cases h
          exact ⟨hs.inner, hs.outer, nofun⟩
        · cases h

theorem readColon (hs : s.IsSound) {f : Field} {t : Token} (h : s.readColon f t = .ok s') :
    s'.IsSound := by
  unfold State.readColon at h
  split at h
  · cases h
    exact ⟨hs.inner, hs.outer, nofun⟩
  · cases h

theorem readValue (hs : s.IsSound) {f : Field} {t : Token} (h : s.readValue f t = .ok s') :
    s'.IsSound := by
  unfold State.readValue at h
  split at h
  · cases h
  · split at h
    case h_1 p hp =>
      cases h
      exact hs.addTerm (isNormal_of_predicate? hp)
    case h_2 => cases h

theorem readConnective (hs : s.IsSound) {t : Token} (h : s.readConnective t = .ok s')
    (hconn : s.awaiting = .connective) : s'.IsSound := by
  have hne := hs.terms_ne_nil hconn
  unfold State.readConnective at h
  split at h
  · cases h
    exact ⟨hs.inner, hs.outer, nofun⟩
  · split at h
    · cases h
      exact ⟨hs.inner.closeConjunction hne, hs.outer, nofun⟩
    · split at h
      case h_1 => cases h
      case h_2 g outer houter =>
        split at h
        · cases h
          have hgroups := hs.outer
          rw [houter] at hgroups
          obtain ⟨hg, hrest⟩ := List.forall_mem_cons.1 hgroups
          exact ⟨hg.addTerm (hs.inner.close hne), hrest, fun _ => List.cons_ne_nil _ _⟩
        · cases h

/-- **One token.**  If it is accepted, all operands are normal still. -/
theorem read (hs : s.IsSound) {t : Token} (h : s.read t = .ok s') : s'.IsSound := by
  unfold State.read at h
  split at h
  case h_1 hterm => exact hs.readTerm h hterm
  case h_2 => exact hs.readColon h
  case h_3 => exact hs.readValue h
  case h_4 hconn => exact hs.readConnective h hconn

/-- The tokens of a whole query. -/
theorem readAll (hs : s.IsSound) {ts : List Token} (h : s.readAll ts = some s') : s'.IsSound := by
  induction ts generalizing s with
  | nil =>
      cases h
      exact hs
  | cons t ts ih =>
      cases hread : s.read t with
      | ok s₁ =>
          rw [readAll_cons_of_ok hread] at h
          exact ih (hs.read hread) h
      | error r =>
          rw [readAll_cons_of_error hread] at h
          cases h

end State.IsSound

/-- **What tokens stand for is normal.** -/
theorem isNormal_of_parse {located : List (Located Token)} {p : Predicate}
    (h : parse located = .ok p) : p.IsNormal := by
  obtain ⟨s, hread, hfinish⟩ := parseFrom_eq_ok_iff.1 h
  have hs := State.IsSound.initial.readAll hread
  unfold State.finish? at hfinish
  split at hfinish
  case isTrue hend =>
    cases hfinish
    exact hs.inner.close (hs.terms_ne_nil hend.1)
  case isFalse => cases hfinish

end Cashbook.Query
