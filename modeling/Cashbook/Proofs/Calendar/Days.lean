import Mathlib.Data.List.Chain
import Mathlib.Data.List.Range
import Cashbook.Calendar.Period

/-!
# Days one after the other

`Date.run d n` is the `n` days from `d` on.  As long as they stay in the calendar they are
consecutive (`Date.isChain_run`) and each is met once (`Date.pairwise_run`).

The days that a period counts off are such a run.  They are the days of the period in order
(`Period.pairwise_days`, `Period.isChain_days`) and all of them but the last date there is
(`Period.mem_days`).
-/

namespace Cashbook

open Calendar

namespace Date

@[simp] theorem number_min (d e : Date) : (min d e).number = min d.number e.number := by
  show (if d ≤ e then d else e).number = _
  split
  case isTrue h => rw [le_def] at h; omega
  case isFalse h => rw [le_def] at h; omega

@[simp] theorem number_max (d e : Date) : (max d e).number = max d.number e.number := by
  show (if d ≤ e then e else d).number = _
  split
  case isTrue h => rw [le_def] at h; omega
  case isFalse h => rw [le_def] at h; omega

theorem not_le {d e : Date} : ¬ d ≤ e ↔ e < d := Int.not_le

theorem lt_irrefl (d : Date) : ¬ d < d := Int.lt_irrefl d.number

/-- Whether `e` is the day after `d`. -/
def IsNext (d e : Date) : Prop := e.number = d.number + 1

/-- A day comes before the one after it. -/
theorem IsNext.lt {d e : Date} (h : IsNext d e) : d < e := by
  rw [IsNext] at h
  rw [lt_def]
  omega

/-- One day before the next day. -/
theorem IsNext.addDays_neg_one {d e : Date} (h : IsNext d e) : e.addDays (-1) = d := by
  have hnumber : e.number + -1 = d.number := by
    have he : e.number = d.number + 1 := h
    omega
  rw [addDays, hnumber]
  exact ext (clamp_of_mem d.first_le d.le_last)

/-- Moving forward inside the calendar adds to the number. -/
theorem number_addDays_of_le {d : Date} {n : Nat} (h : d.number + n ≤ lastNumber) :
    (d.addDays n).number = d.number + n := by
  refine clamp_of_mem ?_ h
  have := d.first_le
  omega

/-- The number of a date moved backward, as far as the calendar goes. -/
theorem number_addDays_neg (d : Date) (n : Nat) :
    (d.addDays (-(n : Int))).number = max firstNumber (d.number - n) := by
  have := d.le_last
  rw [addDays, clamp_number]
  omega

/-- The `n` days from `d` on. -/
def run (d : Date) (n : Nat) : List Date := (List.range n).map fun i : Nat => d.addDays i

@[simp] theorem run_zero (d : Date) : run d 0 = [] := rfl

/-- A run goes on with the day that is as many days after `d` as it has. -/
theorem run_succ (d : Date) (n : Nat) : run d (n + 1) = run d n ++ [d.addDays n] := by
  rw [run, List.range_succ, List.map_append]
  rfl

/-- The days of a run are those from `d` on, `n` in number. -/
theorem mem_run {d : Date} {n : Nat} (h : d.number + n ≤ lastNumber + 1) {x : Date} :
    x ∈ run d n ↔ d ≤ x ∧ x.number < d.number + n := by
  rw [run, List.mem_map]
  constructor
  · rintro ⟨i, hi, rfl⟩
    rw [List.mem_range] at hi
    have hx := number_addDays_of_le (d := d) (n := i) (by omega)
    rw [le_def]
    omega
  · rintro ⟨hd, hx⟩
    rw [le_def] at hd
    refine ⟨(x.number - d.number).toNat, List.mem_range.2 (by omega), ext ?_⟩
    have := x.le_last
    rw [number_addDays_of_le (by omega)]
    omega

/-- Each day of a run is the day after the one before it. -/
theorem isChain_run {d : Date} {n : Nat} (h : d.number + n ≤ lastNumber + 1) :
    (run d n).IsChain IsNext := by
  rw [run, List.isChain_map]
  cases n with
  | zero => exact .nil
  | succ n =>
      rw [List.isChain_range_succ]
      intro i hi
      rw [IsNext, number_addDays_of_le (by omega), number_addDays_of_le (by omega)]
      omega

/-- A run that goes on goes on with the next day. -/
theorem isNext_addDays {d : Date} {n : Nat} (h : d.number + (n + 1 : Nat) ≤ lastNumber) :
    IsNext (d.addDays n) (d.addDays (n + 1 : Nat)) := by
  rw [IsNext, number_addDays_of_le h, number_addDays_of_le (n := n) (by omega)]
  omega

/-- Consecutive days ascend. -/
theorem pairwise_of_isChain {days : List Date} (h : days.IsChain IsNext) :
    days.Pairwise (· < ·) := by
  have : IsTrans Date (· < ·) := ⟨fun a b c hab hbc => by rw [lt_def] at *; omega⟩
  exact (h.imp fun _ _ => IsNext.lt).pairwise

/-- Of ascending days the last one comes after all others. -/
theorem lt_of_pairwise_concat {days : List Date} {d : Date} (h : (days ++ [d]).Pairwise (· < ·)) :
    ∀ x ∈ days, x < d := fun x hx =>
  (List.pairwise_append.1 h).2.2 x hx d List.mem_cons_self

/-- The day after the last of consecutive days comes after all of them. -/
theorem lt_of_isNext {days : List Date} {x d : Date} (h : (days ++ [x]).IsChain IsNext)
    (hnext : IsNext x d) : ∀ c ∈ days ++ [x], c < d := by
  refine lt_of_pairwise_concat (pairwise_of_isChain ?_)
  refine List.isChain_append.2 ⟨h, .singleton d, ?_⟩
  rw [List.getLast?_concat]
  rintro c ⟨⟩ e ⟨⟩
  exact hnext

/-- If a day comes after all others, none comes after it. -/
theorem le_of_forall_lt {days : List Date} {d : Date} (h : ∀ x ∈ days, x < d) :
    ∀ x ∈ days ++ [d], x ≤ d := by
  intro x hx
  rcases List.mem_append.1 hx with hx | hx
  · exact Int.le_of_lt (h x hx)
  · rw [List.mem_singleton.1 hx]
    exact Int.le_refl _

/-- The days from `d` to `e`, both included. -/
def upTo (d e : Date) : List Date := run d (e.number + 1 - d.number).toNat

theorem isChain_upTo (d e : Date) : (upTo d e).IsChain IsNext := by
  rcases Int.le_total (e.number + 1) d.number with h | h
  · rw [upTo, Int.toNat_of_nonpos (by omega)]
    exact .nil
  · have := e.le_last
    exact isChain_run (by omega)

theorem mem_upTo {d e x : Date} : x ∈ upTo d e ↔ d ≤ x ∧ x ≤ e := by
  have := e.le_last
  rcases Int.le_total (e.number + 1) d.number with h | h
  · rw [upTo, Int.toNat_of_nonpos (by omega)]
    simp only [run_zero, List.not_mem_nil, false_iff, le_def]
    omega
  · rw [upTo, mem_run (by omega)]
    simp only [le_def]
    omega

end Date

namespace Period

theorem days_eq_run (p : Period) : p.days = Date.run p.start p.length := rfl

/-- The days that are counted off stay in the calendar, with one to spare. -/
theorem start_add_length_le (p : Period) (h : p.length ≠ 0) :
    p.start.number + p.length ≤ min (p.stop.number + 1) lastNumber := by
  unfold length at *
  omega

/-- The days that are counted off stay in the calendar. -/
theorem start_add_length_le_last (p : Period) : p.start.number + p.length ≤ lastNumber + 1 := by
  by_cases h : p.length = 0
  · have := p.start.le_last
    omega
  · have := p.start_add_length_le h
    omega

/-- The days that are counted off are consecutive. -/
theorem isChain_days (p : Period) : p.days.IsChain Date.IsNext :=
  Date.isChain_run p.start_add_length_le_last

/-- The days that are counted off ascend. -/
theorem pairwise_days (p : Period) : p.days.Pairwise (· < ·) :=
  Date.pairwise_of_isChain p.isChain_days

/-- All days of the period are counted off but the last date there is. -/
theorem mem_days {p : Period} {d : Date} : d ∈ p.days ↔ p.contains d = true ∧ d ≠ Date.last := by
  have hlast : d = Date.last ↔ d.number = lastNumber :=
    ⟨fun h => congrArg Date.number h, fun h => Date.ext h⟩
  have hd := d.le_last
  rw [days_eq_run, ne_eq, hlast, contains, Bool.and_eq_true, decide_eq_true_eq, decide_eq_true_eq,
    Date.le_def, Date.le_def]
  by_cases h : p.length = 0
  · rw [h, Date.run_zero]
    simp only [List.not_mem_nil, false_iff]
    unfold length at h
    omega
  · rw [Date.mem_run (by have := p.start_add_length_le h; omega), Date.le_def]
    unfold length at *
    omega

theorem bounds_of_mem_days {p : Period} {d : Date} (h : d ∈ p.days) : p.start ≤ d ∧ d ≤ p.stop := by
  simpa only [contains, Bool.and_eq_true, decide_eq_true_eq] using (mem_days.1 h).1

/-- A period that goes on longer has the same days first, and then later ones. -/
theorem exists_days_eq_append {s e e' : Date} (h : e ≤ e') :
    ∃ later, days ⟨s, e'⟩ = days ⟨s, e⟩ ++ later ∧ ∀ x ∈ later, e < x := by
  rw [Date.le_def] at h
  have hlength : length ⟨s, e⟩ ≤ length ⟨s, e'⟩ := by
    unfold length
    dsimp only
    omega
  obtain ⟨n, hn⟩ := Nat.exists_eq_add_of_le hlength
  refine ⟨(List.range n).map fun i => s.addDays (length ⟨s, e⟩ + i : Nat), ?_, ?_⟩
  · rw [days, days, hn, List.range_add, List.map_append, List.map_map]
    rfl
  · intro x hx
    obtain ⟨i, hi, rfl⟩ := List.mem_map.1 hx
    rw [List.mem_range] at hi
    have hlast := start_add_length_le ⟨s, e'⟩ (by omega)
    have hs := s.le_last
    rw [Date.lt_def, Date.number_addDays_of_le (by dsimp only at *; omega)]
    unfold length at *
    dsimp only at *
    omega

/-- The days of a period are those up to a day of it and those from the next day on. -/
theorem days_append {s m e : Date} (hs : s ≤ m) (hm : m < e) :
    days ⟨s, m⟩ ++ days ⟨m.addDays 1, e⟩ = days ⟨s, e⟩ := by
  rw [Date.le_def] at hs
  rw [Date.lt_def] at hm
  have he := e.le_last
  have hnext : (m.addDays 1).number = m.number + 1 := Date.number_addDays_of_le (n := 1) (by omega)
  have hlength : length ⟨s, m⟩ + length ⟨m.addDays 1, e⟩ = length ⟨s, e⟩ := by
    unfold length
    dsimp only
    omega
  rw [days, days, days, ← hlength, List.range_add, List.map_append, List.map_map]
  refine congrArg (days ⟨s, m⟩ ++ ·) (List.map_congr_left fun i hi => Date.ext ?_)
  rw [List.mem_range] at hi
  have hlast : (m.addDays 1).number + length ⟨m.addDays 1, e⟩ ≤ min (e.number + 1) lastNumber :=
    start_add_length_le ⟨m.addDays 1, e⟩ (by omega)
  have hsm : (length ⟨s, m⟩ : Int) = m.number + 1 - s.number := by
    unfold length
    dsimp only
    omega
  show ((m.addDays 1).addDays i).number = (s.addDays (length ⟨s, m⟩ + i : Nat)).number
  rw [Date.number_addDays_of_le (by omega), Date.number_addDays_of_le (by omega)]
  omega

end Period

end Cashbook
