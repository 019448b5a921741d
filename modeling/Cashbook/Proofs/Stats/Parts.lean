import Cashbook.Proofs.Stats.Script

/-!
# Parts of a reducer

A sweep feeds one reducer, which may be a list of them, or a pair, or any nesting of both.  If such
a sweep succeeds, each of the parts is where a sweep with that part alone would have brought it:
`IsPart` says what makes a part, and `IsPart.run` says this of it.

So what holds of the sweeps of a single reducer holds of it in every company.  And if the parts of a
pair alone go through some calls, so does the pair (`error_play_pair`).
-/

namespace Cashbook.Reducer

open Sweep

variable {σ τ υ : Type} [Reducer σ] [Reducer τ] [Reducer υ]

/-- Whether `part` finds a reducer within the states of another, so that every call of the whole
that succeeds is a call of the part that succeeds. -/
structure IsPart (part : σ → Option τ) : Prop where
  send : ∀ (e : Event) {s : σ} {t : τ}, part s = some t → (e.send s).error = none →
    (e.send t).error = none ∧ part (e.send s).state = some (e.send t).state

variable {part : σ → Option τ}

/-! ### What is a part -/

/-- A reducer is part of itself. -/
theorem IsPart.self : IsPart (some : σ → Option σ) where
  send _ _ _ h herror := by
    cases h
    exact ⟨herror, rfl⟩

/-- A part of a part is a part. -/
theorem IsPart.bind {inner : τ → Option υ} (hpart : IsPart part) (hinner : IsPart inner) :
    IsPart fun s => (part s).bind inner where
  send e s u h herror := by
    obtain ⟨t, ht, hu⟩ := Option.bind_eq_some_iff.1 h
    obtain ⟨hterror, hstate⟩ := hpart.send e ht herror
    rw [hstate]
    exact hinner.send e hu hterror

omit [Reducer σ] [Reducer τ] in
theorem both_spec {first : σ → Reply σ} {second : τ → Reply τ} {s : σ × τ}
    (h : (both first second s).error = none) :
    (first s.1).error = none ∧ (second s.2).error = none ∧
      (both first second s).state = ((first s.1).state, (second s.2).state) := by
  obtain ⟨hfirst, hboth⟩ := Reply.error_andThen_eq_none h
  rw [both, hboth] at h ⊢
  exact ⟨hfirst, h, rfl⟩

omit [Reducer σ] [Reducer τ] in
theorem error_both_eq_none {first : σ → Reply σ} {second : τ → Reply τ} {s : σ × τ}
    (hfirst : (first s.1).error = none) (hsecond : (second s.2).error = none) :
    (both first second s).error = none := by
  have hmap : ((first s.1).map fun a => (a, s.2)).error = none := hfirst
  rw [both, Reply.andThen_of_none hmap]
  exact hsecond

omit [Reducer σ] [Reducer τ] in
/-- Two hooks that change nothing, one after the other, change nothing. -/
theorem both_eq_ok {first : σ → Reply σ} {second : τ → Reply τ} {s : σ × τ}
    (hfirst : first s.1 = .ok s.1) (hsecond : second s.2 = .ok s.2) :
    both first second s = .ok s := by
  have hmap : ((first s.1).map fun a => (a, s.2)) = .ok s := by rw [hfirst]; rfl
  rw [both, hmap, Reply.andThen_ok, hsecond]
  rfl

omit [Reducer σ] [Reducer τ] in
/-- Two hooks that keep the state keep it, also if the first fails. -/
theorem state_both {first : σ → Reply σ} {second : τ → Reply τ} {s : σ × τ}
    (hfirst : (first s.1).state = s.1) (hsecond : (second s.2).state = s.2) :
    (both first second s).state = s := by
  rw [both]
  cases herror : ((first s.1).map fun a => (a, s.2)).error with
  | none =>
      rw [Reply.andThen_of_none herror]
      exact Prod.ext hfirst hsecond
  | some e =>
      rw [Reply.andThen_of_error herror]
      exact Prod.ext hfirst rfl

theorem send_pair (e : Event) (s : σ × τ) : e.send s = both e.send e.send s := by
  cases e <;> rfl

/-- The first of a pair. -/
theorem IsPart.fst : IsPart fun s : σ × τ => some s.1 where
  send e s t h herror := by
    cases h
    rw [send_pair] at herror ⊢
    obtain ⟨hfirst, -, hstate⟩ := both_spec herror
    rw [hstate]
    exact ⟨hfirst, rfl⟩

/-- The second of a pair. -/
theorem IsPart.snd : IsPart fun s : σ × τ => some s.2 where
  send e s t h herror := by
    cases h
    rw [send_pair] at herror ⊢
    obtain ⟨-, hsecond, hstate⟩ := both_spec herror
    rw [hstate]
    exact ⟨hsecond, rfl⟩

omit [Reducer σ] in
theorem getElem?_each {hook : σ → Reply σ} {ss : List σ} (h : (each hook ss).error = none)
    {i : Nat} {s : σ} (hs : ss[i]? = some s) :
    (hook s).error = none ∧ (each hook ss).state[i]? = some (hook s).state := by
  induction ss generalizing i with
  | nil => cases hs
  | cons s' ss ih =>
      rw [each] at h ⊢
      split at h
      case h_1 => cases h
      case h_2 hhead =>
        cases i with
        | zero =>
            cases hs
            exact ⟨hhead, rfl⟩
        | succ i => exact ih h hs

/-- A member of a list. -/
theorem IsPart.member (i : Nat) : IsPart fun ss : List σ => ss[i]? where
  send e ss s hs herror := by
    rw [send_list] at herror ⊢
    exact getElem?_each herror hs

/-! ### What becomes of a part -/

/-- Any number of calls. -/
theorem IsPart.play (hpart : IsPart part) (es : List Event) {s : σ} {t : τ} (h : part s = some t)
    (herror : (play s es).error = none) :
    (Sweep.play t es).error = none ∧
      part (Sweep.play s es).state = some (Sweep.play t es).state := by
  induction es generalizing s t with
  | nil => exact ⟨rfl, h⟩
  | cons e es ih =>
      rw [play_cons] at herror
      obtain ⟨hsend, hrest⟩ := Reply.error_andThen_eq_none herror
      obtain ⟨hterror, hstate⟩ := hpart.send e h hsend
      rw [hrest] at herror
      rw [play_cons, play_cons, hrest, Reply.andThen_of_none hterror]
      exact ih hstate herror

/-- The calls of a pair succeed if those of both of its parts do. -/
theorem error_play_pair (es : List Event) {s : σ × τ}
    (hfirst : (Sweep.play s.1 es).error = none) (hsecond : (Sweep.play s.2 es).error = none) :
    (Sweep.play s es).error = none := by
  induction es generalizing s with
  | nil => rfl
  | cons e es ih =>
      obtain ⟨hcall, hrest⟩ := Reply.error_andThen_eq_none hfirst
      obtain ⟨hcall', hrest'⟩ := Reply.error_andThen_eq_none hsecond
      have hboth : (both e.send e.send s).error = none := error_both_eq_none hcall hcall'
      obtain ⟨-, -, hstate⟩ := both_spec hboth
      rw [play_cons, hrest] at hfirst
      rw [play_cons, hrest'] at hsecond
      rw [play_cons, send_pair, Reply.andThen_of_none hboth, hstate]
      exact ih hfirst hsecond

/-- **A sweep that succeeds** brings each part to where a sweep with the part alone brings it. -/
theorem IsPart.run (hpart : IsPart part) {ops : List Operation} {today : Date} {p : Predicate}
    {span : Option Period} {s after : σ} {t : τ} {summary : Summary} (h : part s = some t)
    (hrun : run (Store.load ops) today p span s = ⟨after, .ok summary⟩) :
    ∃ t', part after = some t' ∧
      Sweep.run (Store.load ops) today p span t = ⟨t', .ok summary⟩ := by
  obtain ⟨m, hp, rfl, herror, rfl⟩ := exists_of_run_load hrun
  obtain ⟨hterror, hstate⟩ := hpart.play _ h herror
  exact ⟨_, hstate, by rw [run_load ops today hp, outcome, hterror]⟩

end Cashbook.Reducer
