import Cashbook.Proofs.Stats.RollUp

/-!
# Points that later days leave as they are

When a stretch of days goes on, the buckets of its days stay as they are, except for the last one,
if later days still lie in it.  `exists_closings_split` cuts the buckets there: those that are
complete come first, and all others have a day after the last of the stretch.

What is shown of a complete bucket needs nothing but the days up to its end.  So series that group
the same values on these days show the same points for it (`IsGrouping.agreesUpTo`), and so do
roll-ups that value the accounts alike on the days that close the complete buckets
(`IsRollUp.agreeUpTo`): the changes of a roll-up go back from total to total, and the first one does
not go back at all.

`IsBooked.agreesUpTo` puts both together for balances that book the same amounts.  That points agree
up to a day says in particular that the buckets which end by then have the same
(`AgreeUpTo.filter_eq`).
-/

namespace Cashbook

/-- Whether two lists of points begin with the same points, and whatever comes behind these is of
buckets of `g` that have a day after `e`. -/
def AgreeUpTo {α : Type} (g : Granularity) (e : Date) (ps ps' : List (Point α)) : Prop :=
  ∃ past later later', ps = past ++ later ∧ ps' = past ++ later' ∧
    ∀ p ∈ later ++ later', ∃ x, g.bucketStart x = g.bucketStart p.date ∧ e < x

/-- **The buckets that end by `e`** have the same points in both lists. -/
theorem AgreeUpTo.filter_eq {α : Type} {g : Granularity} {e : Date} {ps ps' : List (Point α)}
    (h : AgreeUpTo g e ps ps') :
    ps.filter (fun p => g.bucketEnd p.date ≤ e) = ps'.filter fun p => g.bucketEnd p.date ≤ e := by
  obtain ⟨past, later, later', rfl, rfl, hlater⟩ := h
  have hnone (qs : List (Point α)) (hqs : ∀ p ∈ qs, p ∈ later ++ later') :
      qs.filter (fun p => g.bucketEnd p.date ≤ e) = [] := by
    refine List.filter_eq_nil_iff.2 fun p hp => ?_
    obtain ⟨x, hx, hex⟩ := hlater p (hqs p hp)
    have hend := Granularity.le_bucketEnd_of_bucketStart_eq hx
    simp only [decide_eq_true_eq, Date.le_def, Date.lt_def] at hend hex ⊢
    omega
  rw [List.filter_append, List.filter_append,
    hnone later fun p hp => List.mem_append_left _ hp,
    hnone later' fun p hp => List.mem_append_right _ hp]

/-! ### The buckets that are complete -/

namespace Granularity

variable {g : Granularity} {s e : Date} {days later : List Date}

/-- Where days go on after `e`, the buckets that they meet up to `e` are complete, or else they have
a day after `e`. -/
theorem exists_closings_split (hpair : (days ++ later).Pairwise (· < ·))
    (hs : ∀ x ∈ days ++ later, s ≤ x) (hlater : ∀ x ∈ later, e < x) (g : Granularity) :
    ∃ past rest rest', g.closings days = past ++ rest ∧
      g.closings (days ++ later) = past ++ rest' ∧
      (∀ c ∈ past, c ∈ days ∧ ∀ y ∈ later, g.bucketStart y ≠ g.bucketStart c) ∧
      ∀ c ∈ rest ++ rest', ∃ x, g.bucketStart x = g.bucketStart (g.entry s c) ∧ e < x := by
  obtain ⟨hdays, -, hlt⟩ := List.pairwise_append.1 hpair
  refine ⟨_, _, _, (filter_closings_append hdays hlt).symm, closings_append hlt, ?_, ?_⟩
  · intro c hc
    obtain ⟨hc, hcomplete⟩ := List.mem_filter.1 hc
    refine ⟨(mem_closings.1 hc).1, fun y hy => ?_⟩
    exact of_decide_eq_true (List.all_eq_true.1 hcomplete y hy)
  · intro c hc
    rcases List.mem_append.1 hc with hc | hc
    · obtain ⟨hc, hshared⟩ := List.mem_filter.1 hc
      obtain ⟨y, hy, hyc⟩ := List.any_eq_true.1 hshared
      refine ⟨y, ?_, hlater y hy⟩
      rw [of_decide_eq_true hyc]
      exact (bucketStart_entry (hs c (List.mem_append_left _ (mem_closings.1 hc).1))).symm
    · have hc := (mem_closings.1 hc).1
      exact ⟨c, (bucketStart_entry (hs c (List.mem_append_right _ hc))).symm, hlater c hc⟩

end Granularity

open Granularity

variable {g : Granularity} {s e c d : Date} {days later : List Date}

/-! ### Series -/

namespace BucketedSeries

section Points

variable {α : Type} {values values' : Date → List α}

/-- The values up to a day are those of the days up to it. -/
theorem valuesUpTo_append (hlt : ∀ y ∈ later, c < y) (hvalues : ∀ d ∈ days, values' d = values d) :
    valuesUpTo values' (days ++ later) c = valuesUpTo values days c := by
  have hnone : later.filter (· ≤ c) = [] :=
    List.filter_eq_nil_iff.2 fun y hy => by simp [Date.not_le.2 (hlt y hy)]
  rw [valuesUpTo, valuesUpTo, List.filter_append, hnone, List.append_nil]
  exact List.flatMap_congr fun d hd => hvalues d (List.mem_filter.1 hd).1

/-- The values of a bucket are those of its days. -/
theorem valuesIn_append (hne : ∀ y ∈ later, g.bucketStart y ≠ g.bucketStart c)
    (hvalues : ∀ d ∈ days, values' d = values d) :
    valuesIn g values' (days ++ later) c = valuesIn g values days c := by
  have hnone : later.filter (g.bucketStart · = g.bucketStart c) = [] :=
    List.filter_eq_nil_iff.2 fun y hy => by simp [hne y hy]
  rw [valuesIn, valuesIn, List.filter_append, hnone, List.append_nil]
  exact List.flatMap_congr fun d hd => hvalues d (List.mem_filter.1 hd).1

end Points

variable {α : Type} [Zero α] [Add α] {values values' : Date → List α} {b b' : BucketedSeries α}

/-- Whether two series agree for every granularity. -/
def AgreesUpTo (e : Date) (b b' : BucketedSeries α) : Prop :=
  ∀ g, AgreeUpTo g e (b.get g).points (b'.get g).points

/-- **Series that group the same values** up to a day agree up to that day. -/
theorem IsGrouping.agreesUpTo (hb : IsGrouping values s days b)
    (hb' : IsGrouping values' s (days ++ later) b') (hpair : (days ++ later).Pairwise (· < ·))
    (hs : ∀ x ∈ days ++ later, s ≤ x) (hlater : ∀ x ∈ later, e < x)
    (hvalues : ∀ d ∈ days, values' d = values d) : b.AgreesUpTo e b' := by
  intro g
  obtain ⟨past, rest, rest', hclosings, hclosings', hpast, hrest⟩ :=
    exists_closings_split hpair hs hlater g
  have hsame : past.map (pointOn g values' s (days ++ later)) =
      past.map (pointOn g values s days) := by
    refine List.map_congr_left fun c hc => ?_
    obtain ⟨hmem, hcomplete⟩ := hpast c hc
    have hlt : ∀ y ∈ later, c < y := fun y hy => (List.pairwise_append.1 hpair).2.2 c hmem y hy
    rw [pointOn, pointOn, valuesUpTo_append hlt hvalues, valuesIn_append hcomplete hvalues]
  rw [hb.2 g, hb'.2 g, hclosings, hclosings', List.map_append, List.map_append, hsame]
  refine ⟨_, _, _, rfl, rfl, ?_⟩
  intro p hp
  rcases List.mem_append.1 hp with hp | hp
  · obtain ⟨c, hc, rfl⟩ := List.mem_map.1 hp
    exact hrest c (List.mem_append_left _ hc)
  · obtain ⟨c, hc, rfl⟩ := List.mem_map.1 hp
    exact hrest c (List.mem_append_right _ hc)

end BucketedSeries

/-! ### Roll-ups -/

namespace Balances

variable {entry : Date → Date} {value value' : Date → Option Float} {cs ds : List Date}
  {ps ps' : List (Point Float)}

/-- A roll-up of some buckets begins with the roll-up of the first of them. -/
theorem IsRollUp.split (h : IsRollUp entry value (cs ++ ds) ps)
    (hentry : ((cs ++ ds).map entry).Nodup) :
    ∃ qs rs, ps = qs ++ rs ∧ IsRollUp entry value cs qs ∧ rs.map (·.date) = ds.map entry := by
  have hdates := h.dates
  rw [List.map_append, List.map_eq_append_iff] at hdates
  obtain ⟨qs, rs, rfl, hqs, hrs⟩ := hdates
  refine ⟨qs, rs, rfl, ⟨hqs, ?_, (List.isChain_append.1 h.steps).1⟩, hrs⟩
  intro p hp
  obtain ⟨c, hc, hpc, htotal⟩ := h.totals p (List.mem_append_left _ hp)
  have hdate : p.date ∈ cs.map entry := hqs ▸ List.mem_map_of_mem hp
  obtain ⟨c', hc', hpc'⟩ := List.mem_map.1 hdate
  -- a bucket is known by the day on which it is entered
  have hsame : c' = c :=
    List.inj_on_of_nodup_map hentry (List.mem_append_left _ hc') hc (hpc'.trans hpc)
  exact ⟨c, hsame ▸ hc', hpc, htotal⟩

theorem date_eq_of_mem_head? (hdates : ps.map (·.date) = ps'.map (·.date)) {p p' : Point Float}
    (hp : p ∈ ps.head?) (hp' : p' ∈ ps'.head?) : p.date = p'.date := by
  have hfirst := congrArg List.head? hdates
  rw [List.head?_map, List.head?_map, hp, hp'] at hfirst
  exact Option.some_inj.1 hfirst

/-- Points whose changes are steps from total to total are known by their dates and totals, and by
the first change. -/
theorem points_ext (hdates : ps.map (·.date) = ps'.map (·.date))
    (htotals : ∀ p ∈ ps, ∀ p' ∈ ps', p.date = p'.date → p.total = p'.total)
    (hsteps : ps.IsChain fun p q => q.change = q.total - p.total)
    (hsteps' : ps'.IsChain fun p q => q.change = q.total - p.total)
    (hhead : ∀ p ∈ ps.head?, ∀ p' ∈ ps'.head?, p.change = p'.change) : ps = ps' := by
  induction ps generalizing ps' with
  | nil => exact (List.map_eq_nil_iff.1 hdates.symm).symm
  | cons p ps ih =>
      cases ps' with
      | nil => cases hdates
      | cons p' ps' =>
          rw [List.map_cons, List.map_cons, List.cons.injEq] at hdates
          obtain ⟨hdate, hdates⟩ := hdates
          have htotal := htotals p List.mem_cons_self p' List.mem_cons_self hdate
          have hchange := hhead p rfl p' rfl
          obtain ⟨hstep, hsteps⟩ := List.isChain_cons.1 hsteps
          obtain ⟨hstep', hsteps'⟩ := List.isChain_cons.1 hsteps'
          have htail : ps = ps' := by
            refine ih hdates (fun q hq q' hq' => ?_) hsteps hsteps' (fun q hq q' hq' => ?_)
            · exact htotals q (List.mem_cons_of_mem _ hq) q' (List.mem_cons_of_mem _ hq')
            · have hnext := htotals q (List.mem_cons_of_mem _ (List.mem_of_mem_head? hq)) q'
                (List.mem_cons_of_mem _ (List.mem_of_mem_head? hq'))
                (date_eq_of_mem_head? hdates hq hq')
              rw [hstep q hq, hstep' q' hq', hnext, htotal]
          cases p
          cases p'
          cases hdate
          cases htotal
          cases hchange
          rw [htail]

/-- Roll-ups that value their buckets alike are equal. -/
theorem IsRollUp.ext (h : IsRollUp entry value cs ps) (h' : IsRollUp entry value' cs ps')
    (hentry : (cs.map entry).Nodup) (hvalue : ∀ c ∈ cs, value' c = value c)
    (hhead : ∀ p ∈ ps.head?, p.change = p.total)
    (hhead' : ∀ p ∈ ps'.head?, p.change = p.total) : ps = ps' := by
  have htotals : ∀ p ∈ ps, ∀ p' ∈ ps', p.date = p'.date → p.total = p'.total := by
    intro p hp p' hp' hdate
    obtain ⟨c, hc, hpc, htotal⟩ := h.totals p hp
    obtain ⟨c', hc', hpc', htotal'⟩ := h'.totals p' hp'
    have hsame : c = c' :=
      List.inj_on_of_nodup_map hentry hc hc' (hpc.symm.trans (hdate.trans hpc'))
    rw [← hsame, hvalue c hc, htotal, Option.some_inj] at htotal'
    exact htotal'
  have hdates := h.dates.trans h'.dates.symm
  refine points_ext hdates htotals h.steps h'.steps fun p hp p' hp' => ?_
  rw [hhead p hp, hhead' p' hp']
  exact htotals p (List.mem_of_mem_head? hp) p' (List.mem_of_mem_head? hp')
    (date_eq_of_mem_head? hdates hp hp')

/-- **Roll-ups that value the days up to `e` alike** agree up to `e`. -/
theorem IsRollUp.agreeUpTo (h : IsRollUp (g.entry s) value (g.closings days) ps)
    (h' : IsRollUp (g.entry s) value' (g.closings (days ++ later)) ps')
    (hpair : (days ++ later).Pairwise (· < ·)) (hs : ∀ x ∈ days ++ later, s ≤ x)
    (hlater : ∀ x ∈ later, e < x) (hvalue : ∀ c ∈ days, value' c = value c)
    (hhead : ∀ p ∈ ps.head?, p.change = p.total)
    (hhead' : ∀ p ∈ ps'.head?, p.change = p.total) : AgreeUpTo g e ps ps' := by
  obtain ⟨past, rest, rest', hclosings, hclosings', hpast, hrest⟩ :=
    exists_closings_split hpair hs hlater g
  have hentry (days : List Date) (hpair : days.Pairwise (· < ·)) (hs : ∀ x ∈ days, s ≤ x) :
      ((g.closings days).map (g.entry s)).Nodup := by
    refine (pairwise_entry_closings hpair hs).imp ?_
    rintro x y hlt rfl
    exact Date.lt_irrefl x hlt
  have hsdays : ∀ x ∈ days, s ≤ x := fun x hx => hs x (List.mem_append_left _ hx)
  have hnodup := hentry days (List.pairwise_append.1 hpair).1 hsdays
  have hnodup' := hentry (days ++ later) hpair hs
  rw [hclosings] at h hnodup
  rw [hclosings'] at h' hnodup'
  obtain ⟨qs, rs, rfl, hqs, hrs⟩ := h.split hnodup
  obtain ⟨qs', rs', rfl, hqs', hrs'⟩ := h'.split hnodup'
  have hsame : qs = qs' := by
    rw [List.map_append] at hnodup
    refine hqs.ext hqs' (List.nodup_append.1 hnodup).1 (fun c hc => hvalue c (hpast c hc).1) ?_ ?_
    · intro p hp
      exact hhead p (List.mem_head?_append_of_mem_head? hp)
    · intro p hp
      exact hhead' p (List.mem_head?_append_of_mem_head? hp)
  refine ⟨qs, rs, rs', rfl, by rw [hsame], fun p hp => ?_⟩
  have hdate : p.date ∈ (rest ++ rest').map (g.entry s) := by
    rw [List.map_append, ← hrs, ← hrs', ← List.map_append]
    exact List.mem_map_of_mem hp
  obtain ⟨c, hc, hpc⟩ := List.mem_map.1 hdate
  rw [← hpc]
  exact hrest c hc

/-! ### Accounts with their roll-up -/

open BucketedSeries

/-- Amounts are converted alike at the same rates. -/
theorem addConverted_congr {table table' : RateTable} {currency : String} {date : Date}
    {amounts : List (String × Float)}
    (h : ∀ x ∈ amounts, table' date x.1 currency = table date x.1 currency) (sum : Float) :
    addConverted table' currency date sum amounts =
      addConverted table currency date sum amounts := by
  induction amounts generalizing sum with
  | nil => rfl
  | cons x amounts ih =>
      obtain ⟨hx, hamounts⟩ := List.forall_mem_cons.1 h
      rw [addConverted, addConverted, hx]
      exact congrArg _ (funext fun rate => ih hamounts _)

variable {b b' : Balances} {table table' : RateTable} {accounts : List Account} {currency : String}
  {today today' : Date} {amounts amounts' : String → Date → List Float}
  {series series' : String → BucketedSeries Float}

/-- What the accounts are worth on a day that is not after today depends on the amounts up to that
day and on the rates of that day. -/
theorem valueOn_append (htoday : c ≤ today) (htoday' : c ≤ today') (hlt : ∀ y ∈ later, c < y)
    (hamounts : ∀ name, ∀ d ∈ days, amounts' name d = amounts name d)
    (hrates : ∀ a ∈ accounts, table' c a.currency currency = table c a.currency currency) :
    valueOn table' accounts currency today' amounts' (days ++ later) c =
      valueOn table accounts currency today amounts days c := by
  have hclamp {today : Date} (h : c ≤ today) : min c today = c := by
    refine Date.ext ?_
    rw [Date.number_min]
    exact Int.min_eq_left h
  have hsum (a : Account) : valuesUpTo (amounts' a.name) (days ++ later) c =
      valuesUpTo (amounts a.name) days c := valuesUpTo_append hlt (hamounts a.name)
  rw [valueOn, valueOn, hclamp htoday, hclamp htoday']
  simp only [hsum]
  refine addConverted_congr (fun x hx => ?_) 0
  obtain ⟨a, ha, rfl⟩ := List.mem_map.1 hx
  exact hrates a (List.mem_mergeSort.1 ha)

/-- **Balances that book the same amounts** at the same rates up to a day agree up to that day, each
account and the roll-up. -/
theorem IsBooked.agreesUpTo
    (hb : b.IsBooked table accounts currency today amounts s days series)
    (hb' : b'.IsBooked table' accounts currency today' amounts' s (days ++ later) series')
    (hself : ∀ date currency, table date currency currency = .ok 1)
    (hself' : ∀ date currency, table' date currency currency = .ok 1)
    (herror : b.finish.error = none) (herror' : b'.finish.error = none)
    (hlater : ∀ x ∈ later, e < x) (htoday : ∀ d ∈ days, d ≤ today)
    (htoday' : ∀ d ∈ days, d ≤ today')
    (hamounts : ∀ name, ∀ d ∈ days, amounts' name d = amounts name d)
    (hrates : ∀ d ∈ days, ∀ a ∈ accounts,
      table' d a.currency currency = table d a.currency currency) :
    (∀ a ∈ accounts, ∃ σ σ', b.finish.state.series? a.name = some σ ∧
        b'.finish.state.series? a.name = some σ' ∧ σ.AgreesUpTo e σ') ∧
      ∃ rollUp rollUp', b.finish.state.rollUp = some rollUp ∧
        b'.finish.state.rollUp = some rollUp' ∧
        ∀ g, AgreeUpTo g e (rollUp.get g).points (rollUp'.get g).points := by
  have hpair := Date.pairwise_of_isChain hb'.chain
  obtain ⟨rollUp, rates, hfinish, hrollUp⟩ := hb.finish_spec hself herror
  obtain ⟨rollUp', rates', hfinish', hrollUp'⟩ := hb'.finish_spec hself' herror'
  rw [hfinish, hfinish']
  refine ⟨fun a ha => ?_, rollUp, rollUp', rfl, rfl, fun g => ?_⟩
  · refine ⟨_, _, hb.series_eq a ha, hb'.series_eq a ha, ?_⟩
    exact (hb.grouping a.name).agreesUpTo (hb'.grouping a.name) hpair hb'.start_le hlater
      (hamounts a.name)
  · obtain ⟨hpoints, hhead⟩ := hrollUp g
    obtain ⟨hpoints', hhead'⟩ := hrollUp' g
    refine hpoints.agreeUpTo hpoints' hpair hb'.start_le hlater (fun c hc => ?_) hhead hhead'
    have hlt : ∀ y ∈ later, c < y := fun y hy => (List.pairwise_append.1 hpair).2.2 c hc y hy
    exact valueOn_append (htoday c hc) (htoday' c hc) hlt hamounts (hrates c hc)

end Balances

end Cashbook
