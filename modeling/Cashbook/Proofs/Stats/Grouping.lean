import Cashbook.Proofs.Calendar.Closings
import Cashbook.Proofs.Calendar.Walk
import Cashbook.Proofs.Lists
import Cashbook.Stats.Series

/-!
# A series groups its values

`BucketedSeries.follow` feeds a series with the values of each day that a walk meets.  What comes of
it is a grouping of these values: for each bucket that the days meet, `pointOn` has the day on which
it is entered, the sum of all values up to its last day and the sum of the values of its own days.

`isGrouping_follow` says so of all granularities at once, and the rest is read off from it: all
granularities agree with the single days (`totalAt?_day`), the total of a bucket sums the values of
the bucket before and then its own (`valuesUpTo_next`), and the last total is the running one.

### What is load-bearing

Sums are taken from left to right, so that they are the sums that are computed also where addition
is not associative.  The running total, the open totals and the open changes are updated apart; they
stay together because each of them is the sum of a list to which the values of a new day are
appended.  The one thing to be shown of the calendar is that a point is open exactly for the bucket
of the day, and that is `Granularity.closings_next`.
-/

namespace Cashbook

/-- The total of a day, if its points agree on one. -/
theorem Series.totalAt?_eq_some {α : Type} {σ : Series α} {d : Date} {total : α}
    (hmem : ∃ p ∈ σ.points, p.date = d) (h : ∀ p ∈ σ.points, p.date = d → p.total = total) :
    σ.totalAt? d = some total := by
  rw [totalAt?, pointAt?]
  cases hfind : σ.points.find? (·.date = d) with
  | none =>
      obtain ⟨p, hp, hpd⟩ := hmem
      exact absurd (decide_eq_true hpd) (List.find?_eq_none.1 hfind p hp)
  | some p =>
      have hpd := List.find?_some hfind
      rw [Option.map_some, h p (List.mem_of_find?_eq_some hfind) (of_decide_eq_true hpd)]

namespace BucketedSeries

open Granularity

variable {α : Type} [Zero α] [Add α]

/-- The sum of some values, from left to right. -/
def leftSum (vs : List α) : α := vs.foldl (· + ·) 0

theorem leftSum_append (vs ws : List α) : leftSum (vs ++ ws) = ws.foldl (· + ·) (leftSum vs) :=
  List.foldl_append

/-- Adds some values one after the other. -/
def addAll (b : BucketedSeries α) (vs : List α) : BucketedSeries α := vs.foldl add b

/-- The series after some days, each with the values that `values` has for it. -/
def follow (values : Date → List α) (b : BucketedSeries α) (ivs : List Intervals) :
    BucketedSeries α :=
  ivs.foldl (fun b iv => (b.newDay iv).addAll (values iv.date)) b

/-! ### One step -/

variable {values : Date → List α} {b : BucketedSeries α} {iv : Intervals} {g : Granularity}
  {s d x : Date} {days : List Date}

omit [Add α] in
theorem points_newDay_of_opens (h : iv.opens g = true) :
    ((b.newDay iv).get g).points = (b.get g).points ++ [⟨(iv.get g).start, b.running, 0⟩] := by
  rw [newDay, get, ByGranularity.get_ofFn, if_pos h, Series.points_push]

omit [Add α] in
theorem get_newDay_of_not_opens (h : iv.opens g = false) : (b.newDay iv).get g = b.get g := by
  rw [newDay, get, ByGranularity.get_ofFn, if_neg (by rw [h]; exact Bool.false_ne_true)]

omit [Zero α] [Add α] in
theorem points_modifyOpen {σ : Series α} {ps : List (Point α)} {p : Point α}
    (h : σ.points = ps ++ [p]) (f : Point α → Point α) : (σ.modifyOpen f).points = ps ++ [f p] := by
  obtain ⟨latestFirst⟩ := σ
  have hlatest : latestFirst = p :: ps.reverse := by
    rw [← List.reverse_reverse latestFirst, show latestFirst.reverse = ps ++ [p] from h,
      List.reverse_concat]
  subst hlatest
  show (f p :: ps.reverse).reverse = _
  rw [List.reverse_cons, List.reverse_reverse]

omit [Zero α] in
theorem running_addAll (b : BucketedSeries α) (vs : List α) :
    (b.addAll vs).running = vs.foldl (· + ·) b.running := by
  induction vs generalizing b with
  | nil => rfl
  | cons v vs ih => exact ih (b.add v)

omit [Zero α] in
/-- Values are added to the open point, to its total and to its change. -/
theorem points_addAll {ps : List (Point α)} {p : Point α} (h : (b.get g).points = ps ++ [p])
    (vs : List α) :
    ((b.addAll vs).get g).points =
      ps ++ [⟨p.date, vs.foldl (· + ·) p.total, vs.foldl (· + ·) p.change⟩] := by
  induction vs generalizing b p with
  | nil => exact h
  | cons v vs ih =>
      refine ih (b := b.add v) (p := addTo v p) ?_
      rw [add, get, ByGranularity.get_map]
      exact points_modifyOpen h (addTo v)

/-! ### The grouping of the values -/

/-- The values of the days up to `d`. -/
def valuesUpTo (values : Date → List α) (days : List Date) (d : Date) : List α :=
  (days.filter (· ≤ d)).flatMap values

/-- The values of the days in the bucket of `d`. -/
def valuesIn (g : Granularity) (values : Date → List α) (days : List Date) (d : Date) : List α :=
  (days.filter (g.bucketStart · = g.bucketStart d)).flatMap values

/-- The point of the bucket that `d` closes, if the first day of all is `s`. -/
def pointOn (g : Granularity) (values : Date → List α) (s : Date) (days : List Date) (d : Date) :
    Point α :=
  ⟨g.entry s d, leftSum (valuesUpTo values days d), leftSum (valuesIn g values days d)⟩

/-- Whether a series groups the values of some days, the first of which is `s`. -/
def IsGrouping (values : Date → List α) (s : Date) (days : List Date) (b : BucketedSeries α) :
    Prop :=
  b.running = leftSum (days.flatMap values) ∧
    ∀ g, (b.get g).points = (g.closings days).map (pointOn g values s days)

/-- A day does not change the point of an earlier bucket. -/
theorem pointOn_concat_of_ne (hlt : x < d) (hne : g.bucketStart x ≠ g.bucketStart d) :
    pointOn g values s (days ++ [d]) x = pointOn g values s days x := by
  have hle : ¬ d ≤ x := Date.not_le.2 hlt
  rw [pointOn, valuesUpTo, valuesIn, List.filter_append, List.filter_append, List.filter_singleton,
    List.filter_singleton, decide_eq_false hle, decide_eq_false (Ne.symm hne)]
  simp only [cond_false, List.append_nil]
  rfl

/-- No day comes after the last one. -/
theorem filter_le_last (hlt : ∀ x ∈ days, x < d) : (days ++ [d]).filter (· ≤ d) = days ++ [d] :=
  List.filter_eq_self.2 fun x hx => decide_eq_true (Date.le_of_forall_lt hlt x hx)

/-- The point of the bucket of the last day holds the values of that day last. -/
theorem pointOn_concat_self (hlt : ∀ x ∈ days, x < d) :
    pointOn g values s (days ++ [d]) d =
      ⟨g.entry s d, (values d).foldl (· + ·) (leftSum (days.flatMap values)),
        (values d).foldl (· + ·) (leftSum (valuesIn g values days d))⟩ := by
  have hin : (days ++ [d]).filter (g.bucketStart · = g.bucketStart d) =
      days.filter (g.bucketStart · = g.bucketStart d) ++ [d] := by
    rw [List.filter_append, List.filter_singleton, decide_eq_true rfl]
    rfl
  rw [pointOn, valuesUpTo, filter_le_last hlt, valuesIn, hin, List.flatMap_append,
    List.flatMap_append, List.flatMap_singleton, leftSum_append, leftSum_append]
  rfl

/-- A day that opens a point. -/
theorem points_day_of_opens (hb : IsGrouping values s days b) (hlt : ∀ x ∈ days, x < d)
    (hopens : iv.opens g = true) (hstart : (iv.get g).start = g.entry s d)
    (hnew : g.closings (days ++ [d]) = g.closings days ++ [d])
    (hnone : ∀ x ∈ days, g.bucketStart x ≠ g.bucketStart d) :
    (((b.newDay iv).addAll (values d)).get g).points =
      (g.closings (days ++ [d])).map (pointOn g values s (days ++ [d])) := by
  have hold : (g.closings days).map (pointOn g values s (days ++ [d])) = (b.get g).points := by
    rw [hb.2 g]
    refine List.map_congr_left fun x hx => ?_
    have hx := (mem_closings.1 hx).1
    exact pointOn_concat_of_ne (hlt x hx) (hnone x hx)
  -- the new point takes over the running total, and nothing has been added to its bucket
  have hempty : valuesIn g values days d = [] := by
    rw [valuesIn, List.filter_eq_nil_iff.2 fun x hx => by simp [hnone x hx], List.flatMap_nil]
  rw [points_addAll (points_newDay_of_opens hopens), hnew, List.map_append, List.map_singleton,
    hold, pointOn_concat_self hlt, hstart, hempty, hb.1]
  rfl

/-- A day that goes on with the open point. -/
theorem points_day_of_not_opens {ds : List Date} (hb : IsGrouping values s (days ++ [x]) b)
    (hx : ∀ y ∈ days, y < x) (hlt : ∀ y ∈ days ++ [x], y < d) (hopens : iv.opens g = false)
    (hsame : g.bucketStart d = g.bucketStart x) (hclosed : g.closings (days ++ [x]) = ds ++ [x])
    (hnew : g.closings (days ++ [x] ++ [d]) = ds ++ [d])
    (hother : ∀ c ∈ ds, g.bucketStart c ≠ g.bucketStart d) :
    (((b.newDay iv).addAll (values d)).get g).points =
      (g.closings (days ++ [x] ++ [d])).map (pointOn g values s (days ++ [x] ++ [d])) := by
  have hold : ds.map (pointOn g values s (days ++ [x] ++ [d])) =
      ds.map (pointOn g values s (days ++ [x])) := by
    refine List.map_congr_left fun c hc => ?_
    have hmem : c ∈ g.closings (days ++ [x]) := hclosed ▸ List.mem_append_left _ hc
    exact pointOn_concat_of_ne (hlt c (mem_closings.1 hmem).1) (hother c hc)
  have hpoints : ((b.newDay iv).get g).points =
      ds.map (pointOn g values s (days ++ [x])) ++ [pointOn g values s (days ++ [x]) x] := by
    rw [get_newDay_of_not_opens hopens, hb.2 g, hclosed, List.map_append, List.map_singleton]
  -- the open point sums all values so far, and those of the bucket, which is that of the day
  have hall : valuesUpTo values (days ++ [x]) x = (days ++ [x]).flatMap values := by
    rw [valuesUpTo, filter_le_last hx]
  have hin : valuesIn g values (days ++ [x]) x = valuesIn g values (days ++ [x]) d := by
    rw [valuesIn, valuesIn, hsame]
  have hentry : g.entry s d = g.entry s x := by rw [entry, entry, hsame]
  rw [points_addAll hpoints, hnew, List.map_append, List.map_singleton, hold,
    pointOn_concat_self hlt, hentry, pointOn, hall, hin]

/-- The running total after a day. -/
theorem running_day (hb : IsGrouping values s days b) :
    ((b.newDay iv).addAll (values d)).running = leftSum ((days ++ [d]).flatMap values) := by
  rw [running_addAll, List.flatMap_append, List.flatMap_singleton, leftSum_append, ← hb.1]
  rfl

/-- The first day opens a point for every granularity. -/
theorem isGrouping_first {t : Tracker} (ht : t.started = false)
    (hb : IsGrouping values s [] b) :
    IsGrouping values s ([] ++ [s]) ((b.newDay (t.advance s).current).addAll (values s)) := by
  refine ⟨running_day hb, fun g => ?_⟩
  have hopens : (t.advance s).current.opens g = true := by
    rw [Tracker.opens_advance, ht]
    rfl
  have hlt : ∀ x ∈ ([] : List Date), x < s := fun _ hx => absurd hx List.not_mem_nil
  refine points_day_of_opens hb hlt hopens ?_ (closings_concat hlt)
    fun _ hx => absurd hx List.not_mem_nil
  rw [entry_self]
  exact Tracker.start_of_opens hopens

/-- **One more day** keeps the grouping: for each granularity it opens a point or goes on with the
open one, as the day begins a bucket or does not. -/
theorem isGrouping_next {t : Tracker} (ht : t.started = true)
    (hchain : (days ++ [x]).IsChain Date.IsNext) (hnext : Date.IsNext x d) (hsd : s ≤ d)
    (hb : IsGrouping values s (days ++ [x]) b) :
    IsGrouping values s (days ++ [x] ++ [d])
      ((b.newDay (t.advance d).current).addAll (values d)) := by
  have hx : ∀ y ∈ days, y < x := Date.lt_of_pairwise_concat (Date.pairwise_of_isChain hchain)
  have hd : ∀ y ∈ days ++ [x], y < d := Date.lt_of_isNext hchain hnext
  refine ⟨running_day hb, fun g => ?_⟩
  have hopens : (t.advance d).current.opens g = g.isFirstDay d := by
    rw [Tracker.opens_advance, ht]
    rfl
  rcases closings_next (g := g) hchain hnext with
    ⟨hfirst, hnew⟩ | ⟨hfirst, ds, hclosed, hnew, hother⟩
  · rw [hfirst] at hopens
    refine points_day_of_opens hb hd hopens ?_ hnew ?_
    · rw [entry_of_isFirstDay hsd hfirst]
      exact Tracker.start_of_opens hopens
    · exact fun y hy => bucketStart_ne_of_lt hfirst (hd y hy)
  · rw [hfirst] at hopens
    exact points_day_of_not_opens hb hx hd hopens (bucketStart_next hnext hfirst) hclosed hnew
      hother

/-- A series that follows one more day. -/
theorem follow_visits_concat (values : Date → List α) (b : BucketedSeries α) (t : Tracker)
    (days : List Date) (d : Date) :
    follow values b (t.visits (days ++ [d])) =
      ((follow values b (t.visits days)).newDay
        ((t.led days).advance d).current).addAll (values d) := by
  rw [Tracker.visits_append, follow, List.foldl_append]
  rfl

/-- **A series groups its values**, over any number of consecutive days. -/
theorem isGrouping_follow (values : Date → List α) (s today : Date) {n : Nat}
    (h : s.number + n ≤ Calendar.lastNumber + 1) :
    IsGrouping values s (Date.run s n)
      (follow values empty ((Tracker.create s today).visits (Date.run s n))) := by
  induction n with
  | zero =>
      refine ⟨rfl, fun g => ?_⟩
      rw [Date.run_zero, Tracker.visits, follow, List.foldl_nil, empty, get, ByGranularity.get_ofFn]
      rfl
  | succ n ih =>
      have hb := ih (by omega)
      rw [Date.run_succ, follow_visits_concat]
      cases n with
      | zero =>
          have hs : s.addDays (0 : Nat) = s := s.addDays_zero
          rw [hs]
          exact isGrouping_first rfl hb
      | succ n =>
          have hchain := Date.isChain_run (d := s) (n := n + 1) (by omega)
          have hsd : s ≤ s.addDays (n + 1 : Nat) := by
            rw [Date.le_def, Date.number_addDays_of_le (by omega)]
            omega
          rw [Date.run_succ] at hb hchain ⊢
          exact isGrouping_next (Tracker.started_led _ _ _) hchain
            (Date.isNext_addDays (by omega)) hsd hb

/-! ### What a grouping says -/

omit [Zero α] [Add α] in
/-- The total of the first bucket sums its own values. -/
theorem valuesUpTo_head (values : Date → List α) {ds : List Date} (hpair : days.Pairwise (· < ·))
    (h : g.closings days = d :: ds) : valuesUpTo values days d = valuesIn g values days d := by
  rw [valuesUpTo, filter_le_head hpair h, valuesIn]

omit [Zero α] [Add α] in
/-- The total of a later bucket sums the values of the bucket before and then its own. -/
theorem valuesUpTo_next (values : Date → List α) {cs ds : List Date} {c : Date}
    (hdays : days.IsChain Date.IsNext) (hs : ∀ x ∈ days, s ≤ x)
    (h : g.closings days = cs ++ c :: d :: ds) :
    valuesUpTo values days d = valuesUpTo values days c ++ valuesIn g values days d := by
  rw [valuesUpTo, filter_le_next hdays hs h, List.flatMap_append, valuesUpTo, valuesIn]

/-- The single days show the sum of all values up to each of them. -/
theorem totalAt?_day (hb : IsGrouping values s days b) (hs : ∀ x ∈ days, s ≤ x) (hd : d ∈ days) :
    (b.get .day).totalAt? d = some (leftSum (valuesUpTo values days d)) := by
  have hpoints := hb.2 .day
  rw [closings_day] at hpoints
  refine Series.totalAt?_eq_some ?_ ?_
  · rw [hpoints]
    exact ⟨_, List.mem_map_of_mem hd, entry_day (hs d hd)⟩
  · intro p hp hpd
    rw [hpoints] at hp
    obtain ⟨x, hx, rfl⟩ := List.mem_map.1 hp
    have hxd : x = d := (entry_day (hs x hx)).symm.trans hpd
    rw [hxd]
    rfl

/-- The last total is the running one. -/
theorem getLast?_points (hb : IsGrouping values s (days ++ [d]) b) (hlt : ∀ x ∈ days, x < d) :
    (b.get g).points.getLast?.map (·.total) = some b.running := by
  rw [hb.2 g, closings_concat hlt, List.map_append, List.map_singleton, List.getLast?_concat,
    Option.map_some, pointOn, valuesUpTo, filter_le_last hlt, hb.1]

/-- The total of the point before, or zero if there is none. -/
def totalBefore (earlier : List (Point α)) : α := (earlier.getLast?.map (·.total)).getD 0

/-- Where addition is associative, a sum can be cut in two. -/
theorem leftSum_append_of_assoc (hassoc : ∀ a b c : α, a + b + c = a + (b + c))
    (hzero : ∀ a : α, 0 + a = a ∧ a + 0 = a) (vs ws : List α) :
    leftSum (vs ++ ws) = leftSum vs + leftSum ws := by
  have hshift (ws : List α) (a : α) : ws.foldl (· + ·) a = a + leftSum ws := by
    induction ws generalizing a with
    | nil => exact (hzero a).2.symm
    | cons w ws ih =>
        have hw : leftSum (w :: ws) = w + leftSum ws := by
          rw [leftSum, List.foldl_cons, (hzero w).1]
          exact ih w
        rw [List.foldl_cons, ih, hw, hassoc]
  rw [leftSum_append, hshift]

/-- Where addition is associative, a total is the one before and the change. -/
theorem total_eq_totalBefore_add (hassoc : ∀ a b c : α, a + b + c = a + (b + c))
    (hzero : ∀ a : α, 0 + a = a ∧ a + 0 = a) (hdays : days.IsChain Date.IsNext)
    (hs : ∀ x ∈ days, s ≤ x) (hb : IsGrouping values s days b) {earlier later : List (Point α)}
    {p : Point α} (h : (b.get g).points = earlier ++ p :: later) :
    p.total = totalBefore earlier + p.change := by
  rw [hb.2 g, List.map_eq_append_iff] at h
  obtain ⟨cs, ds, hclosings, rfl, hds⟩ := h
  obtain ⟨d, ds, rfl, rfl, -⟩ := List.map_eq_cons_iff.1 hds
  cases cs using List.reverseRecOn with
  | nil =>
      have hhead := valuesUpTo_head values (Date.pairwise_of_isChain hdays) hclosings
      show leftSum (valuesUpTo values days d) = 0 + leftSum (valuesIn g values days d)
      rw [hhead, (hzero _).1]
  | append_singleton cs c =>
      rw [List.append_assoc, List.singleton_append] at hclosings
      have hnext := valuesUpTo_next values hdays hs hclosings
      show leftSum (valuesUpTo values days d) =
        totalBefore ((cs ++ [c]).map _) + leftSum (valuesIn g values days d)
      rw [hnext, leftSum_append_of_assoc hassoc hzero, totalBefore, List.map_append,
        List.map_singleton, List.getLast?_concat]
      rfl

/-- **What a series shows** after the days from `s` to `e`.  Each bucket that they meet has one
point, in the order of time and dated by its entry.  Its change is the sum of the values of its
days, its total the sum of all values up to the last of them, as the single days show it on that
day; and the last total is the running one.  Where addition is associative, each total is the one
before and the change. -/
theorem follow_shows_buckets (values : Date → List α) (s e today : Date) (g : Granularity) :
    let days := Date.upTo s e
    let b := follow values empty ((Tracker.create s today).visits days)
    let points := (b.get g).points
    (points.map (·.date)).Pairwise (· < ·) ∧
      (∀ x, x ∈ points.map (·.date) ↔ ∃ d, s ≤ d ∧ d ≤ e ∧ x = max s (g.bucketStart d)) ∧
      (∀ p ∈ points,
        p.change =
          leftSum ((days.filter (g.bucketStart · = g.bucketStart p.date)).flatMap values)) ∧
      (∀ p ∈ points, ∃ d, (d ∈ days ∧ g.bucketStart d = g.bucketStart p.date) ∧
        (∀ x ∈ days, g.bucketStart x = g.bucketStart p.date → x ≤ d) ∧
        p.total = leftSum ((days.filter (· ≤ d)).flatMap values) ∧
        (b.get .day).totalAt? d = some p.total) ∧
      (s ≤ e → points.getLast?.map (·.total) = some b.running) ∧
      ((∀ a b c : α, a + b + c = a + (b + c)) → (∀ a : α, 0 + a = a ∧ a + 0 = a) →
        ∀ earlier p later, points = earlier ++ p :: later →
          p.total = (earlier.getLast?.map (·.total)).getD 0 + p.change) := by
  intro days b points
  have hlast := e.le_last
  have hchain : days.IsChain Date.IsNext := Date.isChain_upTo s e
  have hpair := Date.pairwise_of_isChain hchain
  have hs : ∀ x ∈ days, s ≤ x := fun x hx => (Date.mem_upTo.1 hx).1
  have hb : IsGrouping values s days b := by
    have := s.le_last
    exact isGrouping_follow values s today (by omega)
  have hpoints : points = (g.closings days).map (pointOn g values s days) := hb.2 g
  have hdates : points.map (·.date) = (g.closings days).map (g.entry s) := by
    rw [hpoints, List.map_map]
    rfl
  refine ⟨?_, fun x => ?_, ?_, ?_, ?_, ?_⟩
  · rw [hdates]
    exact pairwise_entry_closings hpair hs
  · rw [hdates, mem_map_entry_closings hpair]
    simp only [days, Date.mem_upTo, and_assoc]
  · intro p hp
    rw [hpoints] at hp
    obtain ⟨d, hd, rfl⟩ := List.mem_map.1 hp
    have hin := (last_of_mem_closings hs hd).2.1
    show leftSum (valuesIn g values days d) = _
    rw [valuesIn, hin]
    rfl
  · intro p hp
    rw [hpoints] at hp
    obtain ⟨d, hd, rfl⟩ := List.mem_map.1 hp
    obtain ⟨hmem, hin, hlast⟩ := last_of_mem_closings hs hd
    exact ⟨d, ⟨hmem, hin⟩, hlast, rfl, totalAt?_day hb hs hmem⟩
  · intro hse
    have hmem : s ∈ days := Date.mem_upTo.2 ⟨Int.le_refl _, hse⟩
    rcases List.eq_nil_or_concat' days with hnil | ⟨ds, d, hconcat⟩
    · rw [hnil] at hmem
      exact absurd hmem List.not_mem_nil
    · rw [hconcat] at hb hpair
      exact getLast?_points hb (Date.lt_of_pairwise_concat hpair)
  · intro hassoc hzero earlier p later h
    exact total_eq_totalBefore_add hassoc hzero hchain hs hb h

end BucketedSeries

end Cashbook
