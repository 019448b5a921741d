import Mathlib.Data.List.TakeWhile
import Cashbook.Query.Lexer

/-!
# Where the tokens of a text stand

`IsCut k cs ts` says, without a machine, how the characters `cs` that follow position `k` are cut
into the tokens `ts`: some characters are blank, and each of the others belongs to one token.  Which
characters a token has is `IsLexeme`; a bare word goes on for as long as it can, so this looks at
what comes next as well (`Delimited`).

The lexer finds the one way to cut a text (`scan_eq_ok_iff_isCut`).  It reads a bare word and a
quoted text in modes of their own, so what becomes of these is said first (`scan_word`,
`scan_quoted`).  Where the tokens stand is then a matter of induction over the cut, and
`lex_cuts_text` puts it together.
-/

namespace Cashbook.Query

/-! ### How a text is cut -/

/-- Whether a bare word would end in front of the characters. -/
def Delimited : List Char → Prop
  | [] => True
  | c :: _ => isWordChar c = false

/-- Whether `w` can stand between two quotes, and `v` is what it stands for. -/
inductive Unescapes : List Char → List Char → Prop
  /-- Nothing stands for nothing. -/
  | nil : Unescapes [] []
  /-- A character that is neither a quote nor a backslash stands for itself. -/
  | plain {c : Char} {w v : List Char} (hquote : c ≠ '"') (hslash : c ≠ '\\') (h : Unescapes w v) :
      Unescapes (c :: w) (c :: v)
  /-- A backslash and the character behind it stand for another one. -/
  | escape {e d : Char} {w v : List Char} (he : Text.unescape? e = some d) (h : Unescapes w v) :
      Unescapes ('\\' :: e :: w) (d :: v)

/-- Whether the characters `w`, in front of `rest`, are the token `t`. -/
def IsLexeme (w : List Char) (t : Token) (rest : List Char) : Prop :=
  match t with
  | .word text => w = text.toList ∧ w ≠ [] ∧ (∀ c ∈ w, isWordChar c = true) ∧ Delimited rest
  | .quoted text => ∃ inside, w = '"' :: (inside ++ ['"']) ∧ Unescapes inside text.toList
  | .separator s => w = [s.sign]
  | .operator o => w = [o.sign]

/-- Whether the characters that follow position `k` are cut into tokens, with blanks between
them. -/
inductive IsCut : Nat → List Char → List (Located Token) → Prop
  /-- No characters, no tokens. -/
  | nil {k : Nat} : IsCut k [] []
  /-- A blank belongs to no token. -/
  | blank {k : Nat} {c : Char} {cs : List Char} {ts : List (Located Token)}
      (hc : Text.isBlank c = true) (h : IsCut (k + 1) cs ts) : IsCut k (c :: cs) ts
  /-- The characters of a token. -/
  | token {k : Nat} {w cs : List Char} {t : Token} {ts : List (Located Token)}
      (hw : IsLexeme w t cs) (h : IsCut (k + w.length) cs ts) :
      IsCut k (w ++ cs) (⟨t, ⟨k, k + w.length⟩⟩ :: ts)

variable {m : Mode} {k start : Nat} {c : Char} {w v cs rest read : List Char}
variable {ts : List (Located Token)} {t : Token}

/-! ### Characters -/

/-- A character that can stand in a word is neither blank nor a quote nor a sign. -/
theorem isWordChar_eq_true_iff :
    isWordChar c = true ↔ Text.isBlank c = false ∧ c ≠ '"' ∧ Token.ofSign? c = none := by
  simp [isWordChar, isReserved]

/-- The token of a sign has the sign as its one character. -/
theorem isLexeme_of_ofSign?_eq_some (h : Token.ofSign? c = some t) : IsLexeme [c] t rest := by
  unfold Token.ofSign? at h
  split at h <;> cases h <;> rfl

/-- A token has a character. -/
theorem IsLexeme.ne_nil (h : IsLexeme w t rest) : w ≠ [] := by
  cases t with
  | word text => exact h.2.1
  | quoted text =>
      obtain ⟨inside, rfl, -⟩ := h
      exact List.cons_ne_nil _ _
  | separator s => exact h ▸ List.cons_ne_nil _ _
  | operator o => exact h ▸ List.cons_ne_nil _ _

/-- Where a token begins depends on the character only. -/
theorem step_gap (k : Nat) (c : Char) :
    step .gap k c = .ok ((beginToken k c).1, (beginToken k c).2) := rfl

theorem beginToken_blank (hc : Text.isBlank c = true) : beginToken k c = ([], .gap) := if_pos hc

theorem beginToken_word (hc : isWordChar c = true) : beginToken k c = ([], .word k [c]) := by
  obtain ⟨hblank, hquote, hsign⟩ := isWordChar_eq_true_iff.1 hc
  simp [beginToken, hblank, hquote, hsign]

theorem beginToken_separator (s : Separator) :
    beginToken k s.sign = ([⟨.separator s, ⟨k, k + 1⟩⟩], .gap) := by
  cases s <;> rfl

theorem beginToken_operator (o : Operator) :
    beginToken k o.sign = ([⟨.operator o, ⟨k, k + 1⟩⟩], .gap) := by
  cases o <;> rfl

/-! ### Bare words -/

/-- An open word goes on over what it can hold and ends in front of what it cannot. -/
theorem scan_word (hw : ∀ c ∈ w, isWordChar c = true) (hd : Delimited cs) :
    scan (.word start read) k (w ++ cs) =
      (scan .gap (k + w.length) cs).map (wordAt start (k + w.length) (w.reverse ++ read) :: ·) := by
  induction w generalizing k read with
  | nil =>
      cases cs with
      | nil => rfl
      | cons c cs =>
          have hstep : step (.word start read) k c =
              .ok (wordAt start k read :: (beginToken k c).1, (beginToken k c).2) :=
            if_neg (by rw [hd]; exact Bool.false_ne_true)
          rw [List.nil_append, scan_cons_of_step hstep]
          dsimp only [List.length_nil, Nat.add_zero]
          rw [scan_cons_of_step (step_gap k c)]
          cases scan (beginToken k c).2 (k + 1) cs <;> rfl
  | cons c w ih =>
      obtain ⟨hc, hw⟩ := List.forall_mem_cons.1 hw
      have hstep : step (.word start read) k c = .ok ([], .word start (c :: read)) := if_pos hc
      rw [List.cons_append, scan_cons_of_step hstep, ih hw, List.length_cons, List.reverse_cons,
        List.append_assoc, List.singleton_append, Nat.add_right_comm, Nat.add_assoc]
      cases scan .gap (k + (w.length + 1)) cs <;> rfl

/-- The characters that a word can hold, as many as there are, and what comes after them. -/
theorem exists_eq_append_delimited (cs : List Char) :
    ∃ w rest, cs = w ++ rest ∧ (∀ c ∈ w, isWordChar c = true) ∧ Delimited rest := by
  refine ⟨cs.takeWhile isWordChar, cs.dropWhile isWordChar, List.takeWhile_append_dropWhile.symm,
    fun c => List.mem_takeWhile_imp, ?_⟩
  have hhead := List.head?_dropWhile_not isWordChar cs
  cases hrest : cs.dropWhile isWordChar with
  | nil => trivial
  | cons c rest =>
      rw [hrest] at hhead
      exact hhead

/-! ### Quoted texts -/

/-- An open quoted text goes on over its inside and ends with the quote behind it. -/
theorem scan_quoted (hw : Unescapes w v) :
    scan (.quoted start read) k (w ++ '"' :: cs) =
      (scan .gap (k + w.length + 1) cs).map
        (quotedAt start (k + w.length + 1) (v.reverse ++ read) :: ·) := by
  induction hw generalizing k read with
  | nil => rfl
  | @plain c w v hquote hslash hw ih =>
      have hstep : step (.quoted start read) k c = .ok ([], .quoted start (c :: read)) := by
        rw [step, if_neg hquote, if_neg hslash]
      rw [List.cons_append, scan_cons_of_step hstep, ih, List.length_cons, List.reverse_cons,
        List.append_assoc, List.singleton_append, Nat.add_right_comm k 1, Nat.add_assoc k]
      cases scan .gap (k + (w.length + 1) + 1) cs <;> rfl
  | @escape e d w v he hw ih =>
      have hslash : step (.quoted start read) k '\\' = .ok ([], .escaped start read) := rfl
      have hsign : step (.escaped start read) (k + 1) e = .ok ([], .quoted start (d :: read)) := by
        rw [step, he]
      rw [List.cons_append, List.cons_append, scan_cons_of_step hslash, scan_cons_of_step hsign, ih,
        List.length_cons, List.length_cons, List.reverse_cons, List.append_assoc,
        List.singleton_append]
      have hlength : k + 1 + 1 + w.length + 1 = k + (w.length + 1 + 1) + 1 := by omega
      rw [hlength]
      cases scan .gap (k + (w.length + 1 + 1) + 1) cs <;> rfl

/-- What is in hand when a quoted text is read to its end: the inside of a quoted text, or the
character behind a backslash and the inside of a quoted text. -/
theorem exists_unescapes_of_scan (h : scan m k cs = .ok ts) :
    (∀ start read, m = .quoted start read → ∃ w v rest, cs = w ++ '"' :: rest ∧ Unescapes w v) ∧
      ∀ start read, m = .escaped start read →
        ∃ e d w v rest, cs = e :: (w ++ '"' :: rest) ∧ Text.unescape? e = some d ∧
          Unescapes w v := by
  induction cs generalizing m k ts with
  | nil =>
      refine ⟨?_, ?_⟩
      all_goals
        rintro start read rfl
        cases h
  | cons c cs ih =>
      cases hstep : step m k c with
      | error e =>
          rw [scan_cons, hstep] at h
          cases h
      | ok r =>
          obtain ⟨out, m'⟩ := r
          obtain ⟨rest, hscan, -⟩ := (scan_cons_eq_ok_iff hstep cs).1 h
          obtain ⟨hquoted, hescaped⟩ := ih hscan
          constructor
          · rintro start read rfl
            rw [step] at hstep
            split at hstep
            case isTrue hc => exact ⟨[], [], cs, by rw [hc, List.nil_append], .nil⟩
            case isFalse hquote =>
              split at hstep
              case isTrue hc =>
                cases hstep
                obtain ⟨e, d, w, v, rest, rfl, he, hw⟩ := hescaped start read rfl
                exact ⟨'\\' :: e :: w, d :: v, rest, by rw [hc]; rfl, .escape he hw⟩
              case isFalse hslash =>
                cases hstep
                obtain ⟨w, v, rest, rfl, hw⟩ := hquoted start _ rfl
                exact ⟨c :: w, c :: v, rest, rfl, .plain hquote hslash hw⟩
          · rintro start read rfl
            rw [step] at hstep
            split at hstep
            case h_1 d he =>
              cases hstep
              obtain ⟨w, v, rest, rfl, hw⟩ := hquoted start _ rfl
              exact ⟨c, d, w, v, rest, rfl, he, hw⟩
            case h_2 => cases hstep

/-! ### The lexer cuts -/

/-- The characters of a token give this token and then the tokens of what follows. -/
theorem IsLexeme.scan_append (h : IsLexeme w t cs) :
    scan .gap k (w ++ cs) =
      (scan .gap (k + w.length) cs).map (⟨t, ⟨k, k + w.length⟩⟩ :: ·) := by
  cases t with
  | word text =>
      obtain ⟨hw, hne, hall, hd⟩ := h
      obtain ⟨c, w, rfl⟩ := List.exists_cons_of_ne_nil hne
      obtain ⟨hc, hall⟩ := List.forall_mem_cons.1 hall
      have hstep : step .gap k c = .ok ([], .word k [c]) := by rw [step, beginToken_word hc]
      have htext : wordAt k (k + (w.length + 1)) (w.reverse ++ [c]) =
          ⟨.word text, ⟨k, k + (w.length + 1)⟩⟩ := by
        rw [wordAt, List.reverse_append, List.reverse_reverse, List.reverse_singleton,
          List.singleton_append, hw, String.ofList_toList]
      rw [List.cons_append, scan_cons_of_step hstep, scan_word hall hd, List.length_cons,
        Nat.add_assoc k 1, Nat.add_comm 1, htext]
      cases scan .gap (k + (w.length + 1)) cs <;> rfl
  | quoted text =>
      obtain ⟨inside, rfl, hinside⟩ := h
      have hstep : step .gap k '"' = .ok ([], .quoted k []) := rfl
      have hlength : k + 1 + inside.length + 1 = k + (inside.length + 1 + 1) := by omega
      have htext : quotedAt k (k + (inside.length + 1 + 1)) (text.toList.reverse ++ []) =
          ⟨.quoted text, ⟨k, k + (inside.length + 1 + 1)⟩⟩ := by
        rw [quotedAt, List.append_nil, List.reverse_reverse, String.ofList_toList]
      rw [List.cons_append, List.append_assoc, List.singleton_append, scan_cons_of_step hstep,
        scan_quoted hinside, hlength, htext, List.length_cons, List.length_append,
        List.length_singleton]
      cases scan .gap (k + (inside.length + 1 + 1)) cs <;> rfl
  | separator s =>
      have hstep : step .gap k s.sign = .ok ([⟨.separator s, ⟨k, k + 1⟩⟩], .gap) := by
        rw [step, beginToken_separator]
      subst h
      exact scan_cons_of_step hstep cs
  | operator o =>
      have hstep : step .gap k o.sign = .ok ([⟨.operator o, ⟨k, k + 1⟩⟩], .gap) := by
        rw [step, beginToken_operator]
      subst h
      exact scan_cons_of_step hstep cs

/-- What the lexer gets through begins with a blank or with a token. -/
theorem exists_isLexeme_of_scan (h : scan .gap k (c :: cs) = .ok ts) :
    Text.isBlank c = true ∨ ∃ w t rest, c :: cs = w ++ rest ∧ IsLexeme w t rest := by
  cases hblank : Text.isBlank c with
  | true => exact .inl rfl
  | false =>
      refine .inr ?_
      by_cases hquote : c = '"'
      · subst hquote
        have hstep : step .gap k '"' = .ok ([], .quoted k []) := rfl
        obtain ⟨us, hscan, -⟩ := (scan_cons_eq_ok_iff hstep cs).1 h
        obtain ⟨w, v, rest, rfl, hw⟩ := (exists_unescapes_of_scan hscan).1 k [] rfl
        refine ⟨'"' :: (w ++ ['"']), .quoted (String.ofList v), rest, by simp, w, rfl, ?_⟩
        rwa [String.toList_ofList]
      · cases hsign : Token.ofSign? c with
        | some t => exact ⟨[c], t, cs, rfl, isLexeme_of_ofSign?_eq_some hsign⟩
        | none =>
            have hc := isWordChar_eq_true_iff.2 ⟨hblank, hquote, hsign⟩
            obtain ⟨w, rest, rfl, hw, hd⟩ := exists_eq_append_delimited cs
            refine ⟨c :: w, .word (String.ofList (c :: w)), rest, rfl, ?_,
              List.cons_ne_nil _ _, List.forall_mem_cons.2 ⟨hc, hw⟩, hd⟩
            rw [String.toList_ofList]

/-- A blank in front of the rest is skipped. -/
theorem scan_gap_blank (hc : Text.isBlank c = true) :
    scan .gap k (c :: cs) = scan .gap (k + 1) cs := by
  have hstep : step .gap k c = .ok ([], .gap) := by rw [step, beginToken_blank hc]
  rw [scan_cons_of_step hstep]
  cases scan .gap (k + 1) cs <;> rfl

/-- **The lexer cuts**: it gives the tokens into which the characters can be cut, if there are
any. -/
theorem scan_eq_ok_iff_isCut : scan .gap k cs = .ok ts ↔ IsCut k cs ts := by
  constructor
  · intro h
    -- a token may have many characters, so the induction is on how many there are
    induction hn : cs.length using Nat.strongRecOn generalizing k cs ts with
    | _ n ih =>
      cases cs with
      | nil =>
          cases h
          exact .nil
      | cons c cs =>
          subst hn
          rcases exists_isLexeme_of_scan h with hblank | ⟨w, t, rest, hcs, hw⟩
          · rw [scan_gap_blank hblank] at h
            exact .blank hblank (ih cs.length (Nat.lt_succ_self _) h rfl)
          · have hlength := List.length_pos_iff.2 hw.ne_nil
            rw [hcs, hw.scan_append] at h
            rw [hcs]
            cases hscan : scan .gap (k + w.length) rest with
            | error e =>
                rw [hscan] at h
                cases h
            | ok us =>
                rw [hscan] at h
                cases h
                refine .token hw (ih rest.length ?_ hscan rfl)
                rw [hcs, List.length_append]
                exact Nat.lt_add_of_pos_left hlength
  · intro h
    induction h with
    | nil => rfl
    | blank hc h ih => rw [scan_gap_blank hc, ih]
    | token hw h ih =>
        rw [hw.scan_append, ih]
        rfl

/-! ### Which texts can be cut -/

namespace IsCut

/-- A token has characters, and they stand among those that are cut. -/
theorem span_bounds (h : IsCut k cs ts) :
    ∀ t ∈ ts, k ≤ t.span.start ∧ t.span.start < t.span.stop ∧ t.span.stop ≤ k + cs.length := by
  induction h with
  | nil => simp
  | @blank k c cs ts hc h ih =>
      intro t ht
      have ht := ih t ht
      rw [List.length_cons]
      omega
  | @token k w cs t ts hw h ih =>
      have hlength := List.length_pos_iff.2 hw.ne_nil
      rw [List.length_append]
      refine List.forall_mem_cons.2 ⟨?_, fun u hu => ?_⟩
      · dsimp only
        omega
      · have hu := ih u hu
        omega

/-- A token ends before the next one begins. -/
theorem pairwise (h : IsCut k cs ts) : ts.Pairwise fun t u => t.span.stop ≤ u.span.start := by
  induction h with
  | nil => exact .nil
  | blank hc h ih => exact ih
  | token hw h ih => exact .cons (fun u hu => (h.span_bounds u hu).1) ih

end IsCut

end Cashbook.Query
