import Mathlib.Data.List.Induction
import Cashbook.Proofs.Query.Derivation

/-!
# The place of a fault

A text that is no query has one fault, and the fault stands at the first place where the text stops
being the beginning of a query.  That is a statement about all the ways in which the text might have
gone on, of which the reader knows nothing: it reads one character or one token after the other, and
gives up when it meets one that it cannot use.

What joins the two is that nothing is ever lost before that.  Whatever the lexer has in hand, some
characters complete it (`exists_scan_closing`), and whatever state the parser is in, some tokens
bring it to the end of a query (`State.exists_completion`).  So the beginnings of texts with tokens
are just those that the lexer gets through (`opensText_iff`), the beginnings of queries are those
that the parser gets through (`opensQuery_iff`), and the first refusal is the first break
(`parseQuery_fault`).
-/

namespace Cashbook.Query

/-- Whether some characters are the beginning of a text that has tokens. -/
def OpensText (cs : List Char) : Prop :=
  ∃ ds tokens, lex (String.ofList (cs ++ ds)) = .ok tokens

/-- Whether some tokens are the beginning of a query. -/
def OpensQuery (ts : List Token) : Prop := ∃ us p, IsQuery (ts ++ us) p

/-- Whether `x`, behind `before`, is the first member of a list with which its beginning no longer
satisfies `Opens`. -/
structure BreaksAt {α : Type} (Opens : List α → Prop) (l before : List α) (x : α) : Prop where
  /-- The list begins with `before`, and then comes `x`. -/
  isPrefix : before ++ [x] <+: l
  /-- Up to there every beginning satisfies `Opens`. -/
  opens : ∀ l', l' <+: before → Opens l'
  /-- With `x` it does not. -/
  breaks : ¬ Opens (before ++ [x])

/-! ### Characters -/

section Characters

variable {m m' : Mode} {k : Nat} {c : Char} {cs ds : List Char} {e : LexError}

/-- The mode after some characters, if none of them is refused. -/
def modeAfter (m : Mode) (k : Nat) : List Char → Option Mode
  | [] => some m
  | c :: cs =>
      match step m k c with
      | .ok (_, m') => modeAfter m' (k + 1) cs
      | .error _ => none

theorem modeAfter_cons_of_ok {out : List (Located Token)} (h : step m k c = .ok (out, m'))
    (cs : List Char) : modeAfter m k (c :: cs) = modeAfter m' (k + 1) cs := by
  rw [modeAfter, h]

theorem modeAfter_cons_of_error (h : step m k c = .error e) (cs : List Char) :
    modeAfter m k (c :: cs) = none := by
  rw [modeAfter, h]

theorem modeAfter_append (m : Mode) (k : Nat) (cs ds : List Char) :
    modeAfter m k (cs ++ ds) =
      (modeAfter m k cs).bind fun m' => modeAfter m' (k + cs.length) ds := by
  induction cs generalizing m k with
  | nil => rfl
  | cons c cs ih =>
      rw [List.cons_append]
      cases h : step m k c with
      | error e => rw [modeAfter_cons_of_error h, modeAfter_cons_of_error h]; rfl
      | ok r =>
          rw [modeAfter_cons_of_ok h, modeAfter_cons_of_ok h, ih, List.length_cons,
            Nat.add_right_comm, Nat.add_assoc]

/-- Characters have tokens if none of them is refused and the text may end behind them. -/
theorem exists_scan_append_iff (m : Mode) (k : Nat) (cs ds : List Char) :
    (∃ tokens, scan m k (cs ++ ds) = .ok tokens) ↔
      ∃ m', modeAfter m k cs = some m' ∧ ∃ tokens, scan m' (k + cs.length) ds = .ok tokens := by
  induction cs generalizing m k with
  | nil => simp [modeAfter]
  | cons c cs ih =>
      rw [List.cons_append]
      cases h : step m k c with
      | error e => simp [scan_cons, h, modeAfter_cons_of_error h]
      | ok r =>
          obtain ⟨out, m'⟩ := r
          rw [modeAfter_cons_of_ok h, List.length_cons, Nat.add_comm cs.length 1, ← Nat.add_assoc,
            ← ih m' (k + 1)]
          simp only [scan_cons_eq_ok_iff h]
          exact ⟨fun ⟨_, rest, hrest, _⟩ => ⟨rest, hrest⟩,
            fun ⟨rest, hrest⟩ => ⟨_, rest, hrest, rfl⟩⟩

/-! #### What the lexer has in hand can be completed -/

/-- Characters that complete what is in hand, and are not blank. -/
def Mode.closing : Mode → List Char
  | .gap => ['a']
  | .word _ _ => ['a']
  | .quoted _ _ => ['"']
  | .escaped _ _ => ['"', '"']

theorem exists_scan_closing (m : Mode) (k : Nat) : ∃ tokens, scan m k m.closing = .ok tokens := by
  cases m <;> exact ⟨_, rfl⟩

theorem lex_eq_ok_iff {text : String} {tokens : List (Located Token)} :
    lex text = .ok tokens ↔
      ¬ (text ≠ "" ∧ Text.isBlankText text = true) ∧ scan .gap 0 text.toList = .ok tokens := by
  rw [lex]
  split
  case isTrue h => simp [h]
  case isFalse h => simp only [h, not_false_eq_true, true_and]

/-- **The beginnings of texts that have tokens** are the characters that the lexer gets through. -/
theorem opensText_iff : OpensText cs ↔ ∃ m, modeAfter .gap 0 cs = some m := by
  constructor
  · rintro ⟨ds, tokens, h⟩
    have hscan := (lex_eq_ok_iff.1 h).2
    rw [String.toList_ofList] at hscan
    obtain ⟨m, hm, -⟩ := (exists_scan_append_iff .gap 0 cs ds).1 ⟨tokens, hscan⟩
    exact ⟨m, hm⟩
  · rintro ⟨m, hm⟩
    obtain ⟨tokens, hscan⟩ :=
      (exists_scan_append_iff .gap 0 cs m.closing).2 ⟨m, hm, exists_scan_closing m _⟩
    refine ⟨m.closing, tokens, lex_eq_ok_iff.2 ⟨fun h => ?_, ?_⟩⟩
    · -- what completes a text is not blank, so the whole of it is not
      rw [Text.isBlankText, String.toList_ofList, List.all_append, Bool.and_eq_true] at h
      have hclosing : m.closing.all Text.isBlank = false := by cases m <;> rfl
      rw [hclosing] at h
      cases h.2.2
    · rwa [String.toList_ofList]

/-- What a text begins with begins a text that has tokens, if the whole of it does. -/
theorem OpensText.of_isPrefix (h : OpensText ds) (hcs : cs <+: ds) : OpensText cs := by
  obtain ⟨rest, rfl⟩ := hcs
  obtain ⟨more, tokens, hlex⟩ := h
  exact ⟨rest ++ more, tokens, by rwa [← List.append_assoc]⟩

/-! #### The character that is refused -/

/-- Only behind a backslash a character can be refused. -/
theorem exists_of_step_eq_error (h : step m k c = .error e) :
    (∃ start read, m = .escaped start read) ∧ Text.unescape? c = none ∧ e = .badEscape k c := by
  unfold step at h
  split at h
  case h_1 => cases h
  case h_2 => split at h <;> cases h
  case h_3 =>
    split at h
    case isTrue => cases h
    case isFalse => split at h <;> cases h
  case h_4 start read =>
    split at h
    case h_1 => cases h
    case h_2 hnone =>
      cases h
      exact ⟨⟨start, read, rfl⟩, hnone, rfl⟩

/-- Only a backslash between quotes makes the lexer wait for the second half of an escape. -/
theorem exists_of_step_eq_escaped {out : List (Located Token)} {start : Nat} {read : List Char}
    (h : step m k c = .ok (out, .escaped start read)) : m = .quoted start read ∧ c = '\\' := by
  have hbegin (k : Nat) (c : Char) : (beginToken k c).2 ≠ .escaped start read := by
    unfold beginToken
    split
    · nofun
    · split
      · nofun
      · split <;> nofun
  unfold step at h
  split at h
  case h_1 => exact absurd (congrArg Prod.snd (Except.ok.inj h)) (hbegin k c)
  case h_2 =>
    split at h
    case isTrue => cases h
    case isFalse => exact absurd (congrArg Prod.snd (Except.ok.inj h)) (hbegin k c)
  case h_3 =>
    split at h
    case isTrue => cases h
    case isFalse =>
      split at h
      case isTrue hslash =>
        cases h
        exact ⟨rfl, hslash⟩
      case isFalse => cases h
  case h_4 => split at h <;> cases h

/-- Whether a text that breaks off behind the characters breaks off between quotes. -/
def IsOpenQuote (cs : List Char) : Prop :=
  ∃ start read, modeAfter .gap 0 cs = some (.quoted start read)

/-- The lexer waits for the second half of an escape behind a backslash between quotes only. -/
theorem exists_of_modeAfter_eq_escaped {start : Nat} {read : List Char}
    (h : modeAfter .gap 0 cs = some (.escaped start read)) :
    ∃ quote, cs = quote ++ ['\\'] ∧ IsOpenQuote quote := by
  cases cs using List.reverseRecOn with
  | nil => cases h
  | append_singleton cs c =>
      rw [modeAfter_append] at h
      obtain ⟨m, hm, hlast⟩ := Option.bind_eq_some_iff.1 h
      cases hstep : step m (0 + cs.length) c with
      | error e =>
          rw [modeAfter_cons_of_error hstep] at hlast
          cases hlast
      | ok r =>
          rw [modeAfter_cons_of_ok hstep] at hlast
          obtain ⟨out, m'⟩ := r
          cases hlast
          obtain ⟨rfl, rfl⟩ := exists_of_step_eq_escaped hstep
          exact ⟨cs, rfl, start, read, hm⟩

/-- **Why characters have no tokens**: they end between quotes, or one of them is refused. -/
theorem exists_of_scan_eq_error (h : scan m k cs = .error e) :
    ((∃ m', modeAfter m k cs = some m') ∧ e = .unclosed (k + cs.length)) ∨
      ∃ before c start read, before ++ [c] <+: cs ∧
        modeAfter m k before = some (.escaped start read) ∧
        modeAfter m k (before ++ [c]) = none ∧ Text.unescape? c = none ∧
        e = .badEscape (k + before.length) c := by
  induction cs generalizing m k with
  | nil =>
      refine .inl ⟨⟨m, rfl⟩, ?_⟩
      rw [scan_nil] at h
      cases m <;> cases h <;> rfl
  | cons c cs ih =>
      cases hstep : step m k c with
      | error e' =>
          rw [scan_cons, hstep] at h
          cases h
          obtain ⟨⟨start, read, rfl⟩, hnone, rfl⟩ := exists_of_step_eq_error hstep
          refine .inr ⟨[], c, start, read, ?_, rfl, modeAfter_cons_of_error hstep [], hnone, rfl⟩
          exact List.cons_prefix_cons.2 ⟨rfl, List.nil_prefix⟩
      | ok r =>
          obtain ⟨out, m'⟩ := r
          have hrest := (scan_cons_eq_error_iff hstep cs).1 h
          have hlength (n : Nat) : k + 1 + n = k + (n + 1) := by omega
          rcases ih hrest with ⟨hmode, he⟩ | ⟨before, c', start, read, hpre, hmode, hbad, hnone, he⟩
          · rw [modeAfter_cons_of_ok hstep]
            exact .inl ⟨hmode, he.trans (congrArg LexError.unclosed (hlength _))⟩
          · refine .inr ⟨c :: before, c', start, read, List.cons_prefix_cons.2 ⟨rfl, hpre⟩, ?_, ?_,
              hnone, he.trans (congrArg (LexError.badEscape · c') (hlength _))⟩
            · rwa [modeAfter_cons_of_ok hstep]
            · rwa [List.cons_append, modeAfter_cons_of_ok hstep]

/-! #### Where the tokens stand -/

/-- Whether a span lies in front of the position `k`. -/
def Span.IsWithin (k : Nat) (s : Span) : Prop := s.start ≤ s.stop ∧ s.stop ≤ k

/-- What is shown of a span lies in the text. -/
theorem Span.isWithin_clamp (s : Span) (length : Nat) : (s.clamp length).IsWithin length :=
  ⟨Nat.le_max_right _ _, Nat.max_le.2 ⟨Nat.min_le_right _ _, Nat.min_le_right _ _⟩⟩

/-- A span that lies in the text is shown as it is. -/
theorem Span.clamp_of_isWithin {s : Span} {length : Nat} (h : s.IsWithin length) :
    s.clamp length = s := by
  obtain ⟨hle, hstop⟩ := h
  rw [clamp, Nat.min_eq_left (Nat.le_trans hle hstop), Nat.min_eq_left hstop, Nat.max_eq_left hle]

/-- Nothing is shown of the end of a text. -/
theorem Span.clamp_end (length : Nat) : clamp ⟨length, length + 1⟩ length = ⟨length, length⟩ := by
  rw [clamp, Nat.min_self, Nat.min_eq_right (Nat.le_succ length), Nat.max_self]

/-- The tokens of a text stand inside the text. -/
theorem isWithin_of_lex {text : String} {tokens : List (Located Token)}
    (h : lex text = .ok tokens) : ∀ t ∈ tokens, t.span.IsWithin text.length := by
  intro t ht
  have hcut := scan_eq_ok_iff_isCut.1 (lex_eq_ok_iff.1 h).2
  obtain ⟨-, hlt, hstop⟩ := hcut.span_bounds t ht
  rw [Nat.zero_add, String.length_toList] at hstop
  exact ⟨Nat.le_of_lt hlt, hstop⟩

end Characters

/-! ### Tokens -/

section Tokens

variable {ts us : List Token}

namespace State

/-- Behind a term, closing all groups that are open ends the query. -/
theorem exists_completion_of_connective (g : Group) (outer : List Group) :
    ∃ us s p, readAll ⟨.connective, g, outer⟩ us = some s ∧ s.finish? = some p := by
  induction outer generalizing g with
  | nil => exact ⟨[], _, g.close, rfl, rfl⟩
  | cons g' outer ih =>
      obtain ⟨us, s, p, hread, hfinish⟩ := ih (g'.addTerm g.close)
      exact ⟨.separator .closing :: us, s, p, hread, hfinish⟩

/-- **Every state can be brought to the end of a query.** -/
theorem exists_completion (s : State) :
    ∃ us s' p, s.readAll us = some s' ∧ s'.finish? = some p := by
  obtain ⟨awaiting, g, outer⟩ := s
  -- a kind of operation is a value that every field can have
  have hvalue (f : Field) : ∃ us s p,
      readAll ⟨.value f, g, outer⟩ us = some s ∧ s.finish? = some p := by
    obtain ⟨p, hp⟩ : ∃ p, f.predicate? "income" = some p := by cases f <;> exact ⟨_, rfl⟩
    obtain ⟨us, s, q, hread, hfinish⟩ := exists_completion_of_connective (g.addTerm p) outer
    exact ⟨.word "income" :: us, s, q, readAll_cons_of_readAll (read_value hp (.inl rfl)) hread,
      hfinish⟩
  cases awaiting with
  | term =>
      obtain ⟨us, s, p, hread, hfinish⟩ := exists_completion_of_connective (g.addTerm .any) outer
      exact ⟨.word "any" :: us, s, p, hread, hfinish⟩
  | colon f =>
      obtain ⟨us, s, p, hread, hfinish⟩ := hvalue f
      exact ⟨.separator .colon :: us, s, p, hread, hfinish⟩
  | value f => exact hvalue f
  | connective => exact exists_completion_of_connective g outer

end State

/-- Tokens are a query if the parser gets through them and may end behind them. -/
theorem isQuery_iff_readAll {p : Predicate} :
    IsQuery ts p ↔ ∃ s, State.initial.readAll ts = some s ∧ s.finish? = some p := by
  have hitems : (ts.map fun t => Located.mk t ⟨0, 0⟩).map (·.item) = ts := by
    rw [List.map_map]
    exact List.map_id ts
  have hparse : parse (ts.map fun t => Located.mk t ⟨0, 0⟩) = .ok p ↔ _ := parse_eq_ok_iff
  rw [parse, parseFrom_eq_ok_iff, hitems] at hparse
  exact hparse.symm

/-- **The beginnings of queries** are the tokens that the parser gets through. -/
theorem opensQuery_iff : OpensQuery ts ↔ ∃ s, State.initial.readAll ts = some s := by
  constructor
  · rintro ⟨us, p, h⟩
    obtain ⟨s, hread, -⟩ := isQuery_iff_readAll.1 h
    rw [State.readAll_append] at hread
    obtain ⟨s', hs', -⟩ := Option.bind_eq_some_iff.1 hread
    exact ⟨s', hs'⟩
  · rintro ⟨s, hs⟩
    obtain ⟨us, s', p, hread, hfinish⟩ := s.exists_completion
    exact ⟨us, p, isQuery_iff_readAll.2
      ⟨s', State.readAll_append_of_readAll hs hread, hfinish⟩⟩

/-- What tokens begin with begins a query, if they do. -/
theorem OpensQuery.of_isPrefix (h : OpensQuery us) (hts : ts <+: us) : OpensQuery ts := by
  obtain ⟨rest, rfl⟩ := hts
  obtain ⟨more, p, hquery⟩ := h
  exact ⟨rest ++ more, p, by rwa [← List.append_assoc]⟩

/-- **Why tokens are no query**: they end too early, or one of them is refused. -/
theorem exists_of_parseFrom_eq_error {s : State} {tokens : List (Located Token)} {e : SyntaxError}
    (h : parseFrom s tokens = .error e) :
    (∃ wanted s', e = .atEnd wanted ∧ s.readAll (tokens.map (·.item)) = some s') ∨
      ∃ before t refusal s', before ++ [t] <+: tokens ∧ e = .atToken t refusal ∧
        s.readAll (before.map (·.item)) = some s' ∧
        s.readAll ((before ++ [t]).map (·.item)) = none := by
  induction tokens generalizing s with
  | nil =>
      rw [parseFrom] at h
      split at h
      case h_1 => cases h
      case h_2 =>
        cases h
        exact .inl ⟨_, s, rfl, rfl⟩
  | cons t tokens ih =>
      rw [parseFrom] at h
      cases hread : s.read t.item with
      | error refusal =>
          rw [hread] at h
          cases h
          refine .inr ⟨[], t, refusal, s, ?_, rfl, rfl, State.readAll_cons_of_error hread []⟩
          exact List.cons_prefix_cons.2 ⟨rfl, List.nil_prefix⟩
      | ok s₁ =>
          rw [hread] at h
          rcases ih h with ⟨wanted, s', he, hs'⟩ | ⟨before, t', refusal, s', hpre, he, hs', hnone⟩
          · refine .inl ⟨wanted, s', he, ?_⟩
            rwa [List.map_cons, State.readAll_cons_of_ok hread]
          · refine .inr ⟨t :: before, t', refusal, s', List.cons_prefix_cons.2 ⟨rfl, hpre⟩, he,
              ?_, ?_⟩
            · rwa [List.map_cons, State.readAll_cons_of_ok hread]
            · rwa [List.cons_append, List.map_cons, State.readAll_cons_of_ok hread]

end Tokens

/-! ### The fault of a text -/

section Texts

variable {text : String}

/-- The fault of a text without tokens: the end of the text, or one character of it. -/
theorem fault_of_lex_eq_error {e : LexError} (hblank : Text.isBlankText text = false)
    (h : lex text = .error e) :
    (OpensText text.toList ∧ (e.fault text.length).span = ⟨text.length, text.length + 1⟩) ∨
      ∃ quote c, BreaksAt OpensText text.toList (quote ++ ['\\']) c ∧ IsOpenQuote quote ∧
        Text.unescape? c = none ∧
        (e.fault text.length).span =
          ⟨(quote ++ ['\\']).length, (quote ++ ['\\']).length + 1⟩ := by
  have hscan : scan .gap 0 text.toList = .error e := by
    rwa [lex, if_neg (by rw [hblank]; exact fun h => Bool.false_ne_true h.2)] at h
  rcases exists_of_scan_eq_error hscan with ⟨⟨m, hm⟩, rfl⟩ |
    ⟨before, c, start, read, hpre, hmode, hbad, hnone, rfl⟩
  · rw [Nat.zero_add, String.length_toList]
    exact .inl ⟨opensText_iff.2 ⟨m, hm⟩, rfl⟩
  · obtain ⟨quote, rfl, hquote⟩ := exists_of_modeAfter_eq_escaped hmode
    rw [Nat.zero_add]
    refine .inr ⟨quote, c, ⟨hpre, ?_, ?_⟩, hquote, hnone, rfl⟩
    · exact fun l' => (opensText_iff.2 ⟨_, hmode⟩).of_isPrefix
    · rw [opensText_iff, hbad]
      rintro ⟨m, hm⟩
      cases hm

/-- The fault of tokens that are no query: the end of the text, or one of the tokens. -/
theorem fault_of_parse_eq_error (length : Nat) {tokens : List (Located Token)} {e : SyntaxError}
    (h : parse tokens = .error e) :
    (OpensQuery (tokens.map (·.item)) ∧ (e.fault length).span = ⟨length, length + 1⟩) ∨
      ∃ before t, BreaksAt (fun ts => OpensQuery (ts.map (·.item))) tokens before t ∧
        (e.fault length).span = t.span := by
  rcases exists_of_parseFrom_eq_error h with ⟨wanted, s, rfl, hs⟩ |
    ⟨before, t, refusal, s, hpre, rfl, hs, hnone⟩
  · exact .inl ⟨opensQuery_iff.2 ⟨s, hs⟩, rfl⟩
  · refine .inr ⟨before, t, ⟨hpre, ?_, ?_⟩, rfl⟩
    · exact fun l' hl' => (opensQuery_iff.2 ⟨s, hs⟩).of_isPrefix (hl'.map _)
    · rw [opensQuery_iff, hnone]
      rintro ⟨s, hs⟩
      cases hs

/-- **The place of a fault.**  A text that is no query gives an error with this text and one fault,
which lies inside the text.  If the text has tokens and they are the beginning of a query, the fault
is at the end of the text and is empty; otherwise it is the first token with which they stop being
the beginning of one.  If the text has no tokens, the fault begins with the first character with
which the text stops being the beginning of one that has, and this is the character behind a
backslash between quotes; or it begins at the end of the text, if there is no such character. -/
theorem parseQuery_fault {e : ParseError} (h : parseQuery text = .error e) :
    e.text = text ∧ e.fault.span.start ≤ e.fault.span.stop ∧ e.fault.span.stop ≤ text.length ∧
      (∀ tokens, lex text = .ok tokens →
        (OpensQuery (tokens.map (·.item)) → e.fault.span = ⟨text.length, text.length⟩) ∧
          (¬ OpensQuery (tokens.map (·.item)) →
            ∃ before t, BreaksAt (fun ts => OpensQuery (ts.map (·.item))) tokens before t ∧
              e.fault.span = t.span)) ∧
      ((∀ tokens, lex text ≠ .ok tokens) →
        (OpensText text.toList → e.fault.span.start = text.length) ∧
          (¬ OpensText text.toList →
            ∃ quote c, BreaksAt OpensText text.toList (quote ++ ['\\']) c ∧ IsOpenQuote quote ∧
              Text.unescape? c = none ∧ e.fault.span.start = (quote ++ ['\\']).length)) := by
  unfold parseQuery at h
  split at h
  case isTrue => cases h
  case isFalse hblank =>
    split at h
    case h_1 fault hlex =>
      cases h
      obtain ⟨hle, hstop⟩ := (fault.fault text.length).span.isWithin_clamp text.length
      have hplace := fault_of_lex_eq_error (Bool.eq_false_iff.2 hblank) hlex
      refine ⟨rfl, hle, hstop, fun tokens hok => ?_, fun _ => ⟨fun hopens => ?_, fun hbreaks => ?_⟩⟩
      · rw [hlex] at hok
        cases hok
      · rcases hplace with ⟨-, hspan⟩ | ⟨quote, c, hbreak, -⟩
        · rw [ParseError.create, hspan, Span.clamp_end]
        · exact absurd (hopens.of_isPrefix hbreak.isPrefix) hbreak.breaks
      · obtain ⟨quote, c, hbreak, hquote, hnone, hspan⟩ :=
          hplace.resolve_left fun h => hbreaks h.1
        refine ⟨quote, c, hbreak, hquote, hnone, ?_⟩
        -- the character stands in the text, so all of it is shown
        have hlength := hbreak.isPrefix.length_le
        rw [List.length_append, List.length_singleton, String.length_toList] at hlength
        rw [ParseError.create, hspan, Span.clamp_of_isWithin ⟨Nat.le_succ _, hlength⟩]
    case h_2 tokens hlex =>
      split at h
      case h_1 fault hparse =>
        cases h
        obtain ⟨hle, hstop⟩ := (fault.fault text.length).span.isWithin_clamp text.length
        have hplace := fault_of_parse_eq_error text.length hparse
        refine ⟨rfl, hle, hstop, fun tokens' hok => ?_, fun hnone => absurd hlex (hnone tokens)⟩
        rw [hlex] at hok
        cases hok
        refine ⟨fun hopens => ?_, fun hbreaks => ?_⟩
        · rcases hplace with ⟨-, hspan⟩ | ⟨before, t, hbreak, -⟩
          · rw [ParseError.create, hspan, Span.clamp_end]
          · exact absurd (hopens.of_isPrefix (hbreak.isPrefix.map _)) hbreak.breaks
        · obtain ⟨before, t, hbreak, hspan⟩ := hplace.resolve_left fun h => hbreaks h.1
          have ht := hbreak.isPrefix.subset (List.mem_append_right _ List.mem_cons_self)
          refine ⟨before, t, hbreak, ?_⟩
          rw [ParseError.create, hspan, Span.clamp_of_isWithin (isWithin_of_lex hlex t ht)]
      case h_2 => cases h

/-- A word that is no kind of operation, inside a group that is still open. -/
theorem parseQuery_fault_of_unknown_kind :
    let text := "any and (type:food"
    ∃ e tokens before t, parseQuery text = .error e ∧ e.text = text ∧ e.fault.span = ⟨14, 18⟩ ∧
      lex text = .ok tokens ∧
      BreaksAt (fun ts => OpensQuery (ts.map (·.item))) tokens before t ∧ t.span = ⟨14, 18⟩ := by
  intro text
  have hspan : (match parseQuery text with
      | .error e => some e.fault.span
      | .ok _ => none) = some ⟨14, 18⟩ := by decide +kernel
  have htokens : (lex text).toOption.isSome = true := by decide +kernel
  cases hparse : parseQuery text with
  | ok p =>
      rw [hparse] at hspan
      cases hspan
  | error e =>
      rw [hparse] at hspan
      have hspan : e.fault.span = ⟨14, 18⟩ := Option.some_inj.1 hspan
      cases hlex : lex text with
      | error e' =>
          rw [hlex] at htokens
          cases htokens
      | ok tokens =>
          obtain ⟨htext, -, -, hplace, -⟩ := parseQuery_fault hparse
          obtain ⟨hopens, hbreaks⟩ := hplace tokens hlex
          have hlength : text.length = 18 := by decide +kernel
          -- a fault at the end would be empty
          obtain ⟨before, t, hbreak, ht⟩ := hbreaks fun h => by
            have hend := hopens h
            rw [hspan, hlength] at hend
            cases hend
          exact ⟨e, tokens, before, t, rfl, htext, hspan, rfl, hbreak, ht.symm.trans hspan⟩

end Texts

end Cashbook.Query
