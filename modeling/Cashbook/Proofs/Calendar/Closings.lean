import Cashbook.Proofs.Calendar.Buckets
import Cashbook.Proofs.Lists

/-!
# The last days of buckets

A stretch of days meets some buckets, each of them with one day or several.  `Granularity.closings`
has the last of these days, one for each bucket, and so stands for the buckets that were met.  The
first and the last bucket may be cut off: `Granularity.entry` is the day on which a bucket is
entered when the first day of the stretch is `s`.

Everything is read off from one more day at the end (`closings_concat`): it closes its own bucket,
and the day that has closed this bucket so far, if there is one, does so no longer.  For consecutive
days that can only be the day before (`closings_next`).
-/

namespace Cashbook

namespace Granularity

variable {g : Granularity} {s d x y : Date} {days : List Date}

/-- The days of a list that no later day of the list shares its bucket with. -/
def closings (g : Granularity) (days : List Date) : List Date :=
  days.filter fun d => days.all fun e => g.bucketStart e ≠ g.bucketStart d ∨ e ≤ d

/-- The day on which the bucket of `d` is entered, if the first day of all is `s`. -/
def entry (g : Granularity) (s d : Date) : Date := max s (g.bucketStart d)

theorem mem_closings :
    d ∈ g.closings days ↔
      d ∈ days ∧ ∀ e ∈ days, g.bucketStart e = g.bucketStart d → e ≤ d := by
  rw [closings, List.mem_filter, List.all_eq_true]
  simp only [decide_eq_true_eq, ne_eq, ← imp_iff_not_or]

/-- Days that close their buckets ascend with the days. -/
theorem pairwise_closings (h : days.Pairwise (· < ·)) : (g.closings days).Pairwise (· < ·) :=
  h.filter _

/-- **More days** close their own buckets, and these are no longer closed by the days before. -/
theorem closings_append {later : List Date} (h : ∀ x ∈ days, ∀ y ∈ later, x < y) :
    g.closings (days ++ later) =
      (g.closings days).filter (fun c => later.all (g.bucketStart · ≠ g.bucketStart c)) ++
        g.closings later := by
  rw [closings, List.filter_append, closings, List.filter_filter, closings]
  congr 1
  · refine List.filter_congr fun x hx => ?_
    have hlater : later.all (fun y => g.bucketStart y ≠ g.bucketStart x ∨ y ≤ x) =
        later.all (g.bucketStart · ≠ g.bucketStart x) := by
      rw [Bool.eq_iff_iff, List.all_eq_true, List.all_eq_true]
      refine forall₂_congr fun y hy => ?_
      simp [Date.not_le.2 (h x hx y hy)]
    rw [List.all_append, Bool.and_comm, hlater]
  · refine List.filter_congr fun y hy => ?_
    have hdays : days.all (fun x => g.bucketStart x ≠ g.bucketStart y ∨ x ≤ y) = true :=
      List.all_eq_true.2 fun x hx => decide_eq_true (.inr (Int.le_of_lt (h x hx y hy)))
    rw [List.all_append, hdays, Bool.true_and]

/-- One more day closes its own bucket. -/
theorem closings_concat (h : ∀ x ∈ days, x < d) :
    g.closings (days ++ [d]) =
      (g.closings days).filter (g.bucketStart · ≠ g.bucketStart d) ++ [d] := by
  have hsingle : g.closings [d] = [d] := by simp [closings, Date.le_def]
  rw [closings_append (by simpa using h), hsingle]
  congr 1
  refine List.filter_congr fun c _ => ?_
  simp [eq_comm]

/-- The buckets that later days go on with come behind those that they do not. -/
theorem filter_closings_append {later : List Date} (hdays : days.Pairwise (· < ·))
    (h : ∀ x ∈ days, ∀ y ∈ later, x < y) :
    (g.closings days).filter (fun c => later.all (g.bucketStart · ≠ g.bucketStart c)) ++
        (g.closings days).filter (fun c => later.any (g.bucketStart · = g.bucketStart c)) =
      g.closings days := by
  rw [Lists.filter_append_filter]
  · refine List.filter_eq_self.2 fun c _ => ?_
    by_cases hc : ∃ y ∈ later, g.bucketStart y = g.bucketStart c
    · simpa using .inr hc
    · simpa using .inl fun y hy heq => hc ⟨y, hy, heq⟩
  · -- a bucket that a later day goes on with holds all days in between
    refine (pairwise_closings hdays).imp_of_mem fun {a b} _ hb hab hshared => ?_
    obtain ⟨y, hy, hya⟩ := List.any_eq_true.1 hshared
    have hya := of_decide_eq_true hya
    have hby : b ≤ y := Int.le_of_lt (h b (mem_closings.1 hb).1 y hy)
    have hyb : g.bucketStart b = g.bucketStart y := by
      refine bucketStart_of_between ?_ hby
      rw [hya, Date.le_def]
      exact Int.le_trans (g.bucketStart_le a) (Int.le_of_lt hab)
    simpa using ⟨y, hy, hyb.symm⟩
  · intro c _ hc
    simpa using hc

/-- The last day of a list closes its bucket. -/
theorem exists_closings_concat (h : ∀ x ∈ days, x < d) :
    ∃ ds, g.closings (days ++ [d]) = ds ++ [d] :=
  ⟨_, closings_concat h⟩

/-- The last bucket is closed by the last day. -/
theorem getLast?_closings (h : days.Pairwise (· < ·)) :
    (g.closings days).getLast? = days.getLast? := by
  cases days using List.reverseRecOn with
  | nil => rfl
  | append_singleton days d =>
      rw [closings_concat (Date.lt_of_pairwise_concat h), List.getLast?_concat,
        List.getLast?_concat]

/-- Every bucket that is met is closed by a day. -/
theorem exists_mem_closings (h : days.Pairwise (· < ·)) (hx : x ∈ days) :
    ∃ d ∈ g.closings days, g.bucketStart d = g.bucketStart x := by
  induction days using List.reverseRecOn with
  | nil => exact absurd hx List.not_mem_nil
  | append_singleton days d ih =>
      rw [closings_concat (Date.lt_of_pairwise_concat h)]
      by_cases hsame : g.bucketStart x = g.bucketStart d
      · exact ⟨d, List.mem_append_right _ List.mem_cons_self, hsame.symm⟩
      · have hx : x ∈ days := by
          refine (List.mem_append.1 hx).resolve_right fun hxd => ?_
          exact hsame (congrArg _ (List.mem_singleton.1 hxd))
        obtain ⟨c, hc, hcx⟩ := ih (List.pairwise_append.1 h).1 hx
        refine ⟨c, List.mem_append_left _ (List.mem_filter.2 ⟨hc, ?_⟩), hcx⟩
        rw [decide_eq_true_eq, hcx]
        exact hsame

/-! ### Entering a bucket -/

/-- The day on which a bucket is entered lies in it. -/
theorem bucketStart_entry (h : s ≤ d) : g.bucketStart (g.entry s d) = g.bucketStart d := by
  have hle := g.bucketStart_le d
  refine bucketStart_of_between ?_ ?_
  · rw [Date.le_def, entry, Date.number_max]
    omega
  · rw [Date.le_def] at *
    rw [entry, Date.number_max]
    omega

/-- The bucket that is entered does not end before the day. -/
theorem le_bucketEnd_entry (h : s ≤ d) : d ≤ g.bucketEnd (g.entry s d) := by
  have hd := g.bucketStart_le d
  refine le_bucketEnd_of_between ?_ ?_
  · rw [← bucketStart_entry h]
    exact g.bucketStart_le _
  · rw [Date.le_def] at *
    rw [entry, Date.number_max]
    omega

/-- Single days are entered as they are. -/
theorem entry_day (h : s ≤ d) : day.entry s d = d := by
  refine Date.ext ?_
  rw [Date.le_def] at h
  rw [entry, Date.number_max]
  exact Int.max_eq_right h

/-- A bucket that begins on a day is entered there. -/
theorem entry_of_isFirstDay (h : s ≤ d) (hfirst : g.isFirstDay d = true) : g.entry s d = d := by
  rw [entry, bucketStart_of_isFirstDay hfirst]
  exact entry_day h

/-- The first bucket is entered on the first day. -/
theorem entry_self (g : Granularity) (s : Date) : g.entry s s = s := by
  refine Date.ext ?_
  have h := g.bucketStart_le s
  rw [Date.le_def] at h
  rw [entry, Date.number_max]
  exact Int.max_eq_left h

/-- Buckets are entered in the order of the days. -/
theorem entry_lt_entry (hs : s ≤ x) (hxy : x < y) (hne : g.bucketStart x ≠ g.bucketStart y) :
    g.entry s x < g.entry s y := by
  have hx := g.bucketStart_le x
  have hafter : x < g.bucketStart y :=
    Date.not_le.1 fun hle => hne (bucketStart_of_between hle (Int.le_of_lt hxy))
  rw [Date.le_def] at hs hx
  rw [Date.lt_def] at hafter
  rw [Date.lt_def, entry, entry, Date.number_max, Date.number_max]
  omega

/-- Each bucket that is met is entered once, and later ones later. -/
theorem pairwise_entry_closings (h : days.Pairwise (· < ·)) (hs : ∀ x ∈ days, s ≤ x) :
    ((g.closings days).map (g.entry s)).Pairwise (· < ·) := by
  refine List.pairwise_map.2 ((pairwise_closings h).imp_of_mem fun {x y} hx hy hxy => ?_)
  rw [mem_closings] at hx hy
  refine entry_lt_entry (hs x hx.1) hxy fun hsame => ?_
  exact Date.not_le.2 hxy (hx.2 y hy.1 hsame.symm)

/-- The days on which buckets are entered are those of the buckets that are met. -/
theorem mem_map_entry_closings (h : days.Pairwise (· < ·)) :
    x ∈ (g.closings days).map (g.entry s) ↔ ∃ d ∈ days, x = max s (g.bucketStart d) := by
  rw [List.mem_map]
  constructor
  · rintro ⟨d, hd, rfl⟩
    exact ⟨d, (mem_closings.1 hd).1, rfl⟩
  · rintro ⟨d, hd, rfl⟩
    obtain ⟨c, hc, hcd⟩ := exists_mem_closings (g := g) h hd
    exact ⟨c, hc, by rw [entry, hcd]⟩

/-- A day that closes a bucket is the last one of those in the bucket that is entered. -/
theorem last_of_mem_closings (hs : ∀ x ∈ days, s ≤ x) (hd : d ∈ g.closings days) :
    d ∈ days ∧ g.bucketStart d = g.bucketStart (g.entry s d) ∧
      ∀ x ∈ days, g.bucketStart x = g.bucketStart (g.entry s d) → x ≤ d := by
  obtain ⟨hmem, hlast⟩ := mem_closings.1 hd
  have hin := bucketStart_entry (g := g) (hs d hmem)
  exact ⟨hmem, hin.symm, fun x hx hxd => hlast x hx (hxd.trans hin)⟩

/-! ### Consecutive days -/

/-- The day after the days of a list closes its bucket, and either all buckets that have been closed
stay closed, or the last one of them is its own. -/
theorem closings_next (h : (days ++ [x]).IsChain Date.IsNext) (hnext : Date.IsNext x d) :
    (g.isFirstDay d = true ∧ g.closings (days ++ [x] ++ [d]) = g.closings (days ++ [x]) ++ [d]) ∨
      (g.isFirstDay d = false ∧ ∃ ds, g.closings (days ++ [x]) = ds ++ [x] ∧
        g.closings (days ++ [x] ++ [d]) = ds ++ [d] ∧
        ∀ c ∈ ds, g.bucketStart c ≠ g.bucketStart d) := by
  have hx : ∀ c ∈ days, c < x := Date.lt_of_pairwise_concat (Date.pairwise_of_isChain h)
  have hd : ∀ c ∈ days ++ [x], c < d := Date.lt_of_isNext h hnext
  rw [closings_concat hd]
  cases hfirst : g.isFirstDay d with
  | true =>
      refine .inl ⟨rfl, congrArg (· ++ [d]) (List.filter_eq_self.2 fun c hc => ?_)⟩
      exact decide_eq_true (bucketStart_ne_of_lt hfirst (hd c (mem_closings.1 hc).1))
  | false =>
      have hsame := bucketStart_next hnext hfirst
      refine .inr ⟨rfl, (g.closings days).filter (g.bucketStart · ≠ g.bucketStart x),
        closings_concat hx, ?_, ?_⟩
      · rw [closings_concat hx, List.filter_append, List.filter_filter, hsame]
        simp
      · intro c hc
        rw [hsame]
        exact of_decide_eq_true (List.mem_filter.1 hc).2

/-- The bucket after one that is closed is entered on the next day. -/
theorem isChain_closings (hdays : days.IsChain Date.IsNext) (hs : ∀ x ∈ days, s ≤ x) :
    (g.closings days).IsChain fun c d => Date.IsNext c (g.entry s d) := by
  induction days using List.reverseRecOn with
  | nil => exact .nil
  | append_singleton days d ih =>
      cases days using List.reverseRecOn with
      | nil =>
          rw [closings_concat fun _ h => absurd h List.not_mem_nil]
          exact .singleton d
      | append_singleton days x =>
          obtain ⟨hinit, -, hjoin⟩ := List.isChain_append.1 hdays
          have hnext : Date.IsNext x d := hjoin x (by simp) d rfl
          have hsinit : ∀ c ∈ days ++ [x], s ≤ c := fun c hc => hs c (List.mem_append_left _ hc)
          have hchain := ih hinit hsinit
          have hx := hsinit x (by simp)
          have hsd := hs d (by simp)
          rcases closings_next (g := g) hinit hnext with ⟨hfirst, hd⟩ | ⟨hfirst, ds, hds, hd, -⟩
          · have hlt := Date.lt_of_pairwise_concat (Date.pairwise_of_isChain hinit)
            obtain ⟨ds, hds⟩ := exists_closings_concat (g := g) hlt
            -- the day before closes the bucket before, and this day enters the new one
            rw [hd]
            refine List.isChain_append.2 ⟨hchain, .singleton d, ?_⟩
            rw [hds, List.getLast?_concat]
            rintro c ⟨⟩ e ⟨⟩
            rw [entry_of_isFirstDay hsd hfirst]
            exact hnext
          · -- the day takes the place of the day before, in a bucket that was entered earlier
            rw [hds] at hchain
            obtain ⟨hdsChain, -, hlast⟩ := List.isChain_append.1 hchain
            rw [hd]
            refine List.isChain_append.2 ⟨hdsChain, .singleton d, ?_⟩
            rintro c hc e ⟨⟩
            have hcx := hlast c hc x rfl
            rwa [entry, bucketStart_next hnext hfirst, ← entry]

/-! ### The days of the buckets -/

/-- The days of a bucket that is met are those from its entry to the day that closes it. -/
theorem bucketStart_eq_iff (hd : d ∈ g.closings days) (hx : x ∈ days) (hs : s ≤ x) :
    g.bucketStart x = g.bucketStart d ↔ g.entry s d ≤ x ∧ x ≤ d := by
  constructor
  · intro hsame
    refine ⟨?_, (mem_closings.1 hd).2 x hx hsame⟩
    have hle := g.bucketStart_le x
    rw [hsame, Date.le_def] at hle
    rw [Date.le_def] at hs
    rw [Date.le_def, entry, Date.number_max]
    omega
  · rintro ⟨hentry, hxd⟩
    refine bucketStart_of_between ?_ hxd
    rw [Date.le_def, entry, Date.number_max] at hentry
    rw [Date.le_def]
    omega

/-- Up to the first day that closes a bucket there is only that bucket. -/
theorem filter_le_head {ds : List Date} (hpair : days.Pairwise (· < ·))
    (h : g.closings days = d :: ds) :
    days.filter (· ≤ d) = days.filter (g.bucketStart · = g.bucketStart d) := by
  have hd : d ∈ g.closings days := h ▸ List.mem_cons_self
  have hfirst : ∀ e ∈ g.closings days, d ≤ e := by
    have hclosings := pairwise_closings (g := g) hpair
    rw [h, List.pairwise_cons] at hclosings
    intro e he
    rw [h] at he
    rcases List.mem_cons.1 he with rfl | he
    · exact Int.le_refl _
    · exact Int.le_of_lt (hclosings.1 e he)
  refine List.filter_congr fun x hx => ?_
  rw [decide_eq_decide]
  refine ⟨fun hxd => ?_, fun hsame => (mem_closings.1 hd).2 x hx hsame⟩
  obtain ⟨e, he, hex⟩ := exists_mem_closings hpair hx
  have hle := g.bucketStart_le x
  rw [← hex] at hle ⊢
  refine (bucketStart_of_between ?_ (hfirst e he)).symm
  rw [Date.le_def] at *
  omega

/-- Up to a day that closes a bucket there are the days up to the one that closed the bucket before,
and the days of the bucket. -/
theorem filter_le_next {cs ds : List Date} {c : Date} (hdays : days.IsChain Date.IsNext)
    (hs : ∀ x ∈ days, s ≤ x) (h : g.closings days = cs ++ c :: d :: ds) :
    days.filter (· ≤ d) =
      days.filter (· ≤ c) ++ days.filter (g.bucketStart · = g.bucketStart d) := by
  have hc : c ∈ g.closings days := h ▸ List.mem_append_right _ List.mem_cons_self
  have hd : d ∈ g.closings days :=
    h ▸ List.mem_append_right _ (List.mem_cons_of_mem _ List.mem_cons_self)
  have hnext : (g.entry s d).number = c.number + 1 := by
    have hchain := isChain_closings (g := g) hdays hs
    rw [h] at hchain
    exact (List.isChain_cons_cons.1 (List.isChain_append.1 hchain).2.1).1
  have hentry : g.entry s d ≤ d := ((bucketStart_eq_iff hd (mem_closings.1 hd).1
    (hs d (mem_closings.1 hd).1)).1 rfl).1
  have hiff : ∀ x ∈ days, g.bucketStart x = g.bucketStart d ↔ g.entry s d ≤ x ∧ x ≤ d :=
    fun x hx => bucketStart_eq_iff hd hx (hs x hx)
  rw [Lists.filter_append_filter]
  · refine List.filter_congr fun x hx => ?_
    rw [← Bool.decide_or, decide_eq_decide, hiff x hx]
    simp only [Date.le_def] at *
    omega
  · refine (Date.pairwise_of_isChain hdays).imp_of_mem fun {x y} hx _ hxy hsame => ?_
    have hx := ((hiff x hx).1 (of_decide_eq_true hsame)).1
    refine decide_eq_false fun hyc => ?_
    rw [Date.lt_def] at hxy
    rw [Date.le_def] at hx hyc
    omega
  · intro x hx hxc
    refine decide_eq_false fun hsame => ?_
    have hx := ((hiff x hx).1 hsame).1
    have hxc := of_decide_eq_true hxc
    rw [Date.le_def] at hx hxc
    omega

/-- Single days close themselves. -/
theorem closings_day (days : List Date) : day.closings days = days := by
  refine List.filter_eq_self.2 fun d _ => List.all_eq_true.2 fun e _ => decide_eq_true ?_
  by_cases h : e = d
  · right
    rw [h]
    exact Int.le_refl _
  · exact .inl h

end Granularity

end Cashbook
