import Cashbook.Calendar.Date

/-!
# Granularities

Statistics are kept by day, by week, by month and by year, a week beginning on Sunday or on Monday.
A *bucket* is one of these stretches of the calendar.

* `Granularity.isFirstDay` — whether a bucket begins on a date.
* `Granularity.bucketStart`, `Granularity.bucketEnd` — the ends of the bucket that holds a date; at
  the ends of the calendar, where a week is cut off, they stop at its first and last date.
* `ByGranularity` — one value for each granularity.
-/

namespace Cashbook

open Calendar

namespace Date

/-- The first day of the month of `d`. -/
def firstOfMonth (d : Date) : Date := d.addDays (1 - (d.day : Int))

/-- The last day of the month of `d`. -/
def lastOfMonth (d : Date) : Date :=
  let y := d.year
  let ordinal := d.ordinalIn y
  let leap := isLeap y
  d.addDays (monthLength leap (monthOf leap ordinal) - (dayOf leap ordinal : Int))

/-- The first day of the year of `d`. -/
def firstOfYear (d : Date) : Date := d.addDays (-(d.ordinal : Int))

/-- The last day of the year of `d`. -/
def lastOfYear (d : Date) : Date :=
  let y := d.year
  d.addDays (yearLength y - 1 - (d.ordinalIn y : Int))

end Date

/-- The lengths of the buckets that statistics are kept by. -/
inductive Granularity
  /-- Single days. -/
  | day
  /-- Weeks that begin on Sunday. -/
  | sundayWeek
  /-- Weeks that begin on Monday. -/
  | mondayWeek
  /-- Months. -/
  | month
  /-- Years. -/
  | year
  deriving DecidableEq, Repr

namespace Granularity

/-- All granularities, in the order in which they are listed. -/
def all : List Granularity := [day, sundayWeek, mondayWeek, month, year]

/-- Every granularity is listed. -/
theorem mem_all (g : Granularity) : g ∈ all := by
  cases g <;> decide

/-- Whether a bucket begins on `d`. -/
def isFirstDay (g : Granularity) (d : Date) : Bool :=
  match g with
  | day => true
  | sundayWeek => d.daysSinceSunday = 0
  | mondayWeek => d.daysSinceMonday = 0
  | month => d.day = 1
  | year => d.ordinal = 0

/-- The first day of the bucket that holds `d`. -/
def bucketStart (g : Granularity) (d : Date) : Date :=
  match g with
  | day => d
  | sundayWeek => d.addDays (-(d.daysSinceSunday : Int))
  | mondayWeek => d.addDays (-(d.daysSinceMonday : Int))
  | month => d.firstOfMonth
  | year => d.firstOfYear

/-- The last day of the bucket that holds `d`. -/
def bucketEnd (g : Granularity) (d : Date) : Date :=
  match g with
  | day => d
  | sundayWeek => (sundayWeek.bucketStart d).addDays 6
  | mondayWeek => (mondayWeek.bucketStart d).addDays 6
  | month => d.lastOfMonth
  | year => d.lastOfYear

end Granularity

/-- One value for each granularity. -/
structure ByGranularity (α : Type) where
  /-- The value for days. -/
  day : α
  /-- The value for weeks that begin on Sunday. -/
  sundayWeek : α
  /-- The value for weeks that begin on Monday. -/
  mondayWeek : α
  /-- The value for months. -/
  month : α
  /-- The value for years. -/
  year : α
  deriving DecidableEq

namespace ByGranularity

variable {α β : Type}

/-- The value for `g`. -/
@[inline] def get (b : ByGranularity α) : Granularity → α
  | .day => b.day
  | .sundayWeek => b.sundayWeek
  | .mondayWeek => b.mondayWeek
  | .month => b.month
  | .year => b.year

/-- The values that a function gives. -/
@[inline] def ofFn (f : Granularity → α) : ByGranularity α :=
  ⟨f .day, f .sundayWeek, f .mondayWeek, f .month, f .year⟩

/-- Applies a function to each value. -/
@[inline] def map (f : α → β) (b : ByGranularity α) : ByGranularity β := ofFn fun g => f (b.get g)

/-- Applies `f` to each granularity in the order of `Granularity.all`, each time with the state that
the call before left, until a call fails; gives the values, and the state after the last call. -/
def traverse {σ ε : Type} (f : Granularity → σ → Except ε α × σ) (s : σ) :
    Except ε (ByGranularity α) × σ :=
  match f .day s with
  | (.error e, s) => (.error e, s)
  | (.ok day, s) =>
      match f .sundayWeek s with
      | (.error e, s) => (.error e, s)
      | (.ok sundayWeek, s) =>
          match f .mondayWeek s with
          | (.error e, s) => (.error e, s)
          | (.ok mondayWeek, s) =>
              match f .month s with
              | (.error e, s) => (.error e, s)
              | (.ok month, s) =>
                  match f .year s with
                  | (.error e, s) => (.error e, s)
                  | (.ok year, s) => (.ok ⟨day, sundayWeek, mondayWeek, month, year⟩, s)

@[simp] theorem get_ofFn (f : Granularity → α) (g : Granularity) : (ofFn f).get g = f g := by
  cases g <;> rfl

@[simp] theorem get_map (f : α → β) (b : ByGranularity α) (g : Granularity) :
    (b.map f).get g = f (b.get g) := by
  cases g <;> rfl

/-- **Going through all granularities** keeps what single calls keep of the state.  It gives each of
them what its own call gives, and fails only where the call of one of them fails. -/
theorem traverse_spec {σ ε : Type} {f : Granularity → σ → Except ε α × σ} {s : σ} {I : σ → Prop}
    (hstep : ∀ g s, I s → I (f g s).2) (hs : I s) :
    I (traverse f s).2 ∧
      (∀ b, (traverse f s).1 = .ok b → ∀ g, ∃ s, I s ∧ (f g s).1 = .ok (b.get g)) ∧
      ∀ e, (traverse f s).1 = .error e → ∃ g s, I s ∧ (f g s).1 = .error e := by
  have hnext {g : Granularity} {s s' : σ} {r : Except ε α} (hs : I s) (hf : f g s = (r, s')) :
      I s' := by
    have := hstep g s hs
    rwa [hf] at this
  -- a call that fails is the one that going through all of them fails with
  have hfails {g : Granularity} {s s' : σ} {e : ε} (hs : I s) (hf : f g s = (.error e, s')) :
      I s' ∧ (∀ b, (.error e : Except ε (ByGranularity α)) = .ok b →
        ∀ g, ∃ s, I s ∧ (f g s).1 = .ok (b.get g)) ∧
      ∀ e', (.error e : Except ε (ByGranularity α)) = .error e' →
        ∃ g s, I s ∧ (f g s).1 = .error e' := by
    refine ⟨hnext hs hf, nofun, fun e' h => ?_⟩
    cases h
    exact ⟨g, s, hs, congrArg Prod.fst hf⟩
  rw [traverse]
  split
  case h_1 e s₁ hday => exact hfails hs hday
  case h_2 day s₁ hday =>
    have hs₁ := hnext hs hday
    split
    case h_1 e s₂ hsundayWeek => exact hfails hs₁ hsundayWeek
    case h_2 sundayWeek s₂ hsundayWeek =>
      have hs₂ := hnext hs₁ hsundayWeek
      split
      case h_1 e s₃ hmondayWeek => exact hfails hs₂ hmondayWeek
      case h_2 mondayWeek s₃ hmondayWeek =>
        have hs₃ := hnext hs₂ hmondayWeek
        split
        case h_1 e s₄ hmonth => exact hfails hs₃ hmonth
        case h_2 month s₄ hmonth =>
          have hs₄ := hnext hs₃ hmonth
          split
          case h_1 e s₅ hyear => exact hfails hs₄ hyear
          case h_2 year s₅ hyear =>
            refine ⟨hnext hs₄ hyear, fun b h g => ?_, nofun⟩
            cases h
            cases g with
            | day => exact ⟨s, hs, congrArg Prod.fst hday⟩
            | sundayWeek => exact ⟨s₁, hs₁, congrArg Prod.fst hsundayWeek⟩
            | mondayWeek => exact ⟨s₂, hs₂, congrArg Prod.fst hmondayWeek⟩
            | month => exact ⟨s₃, hs₃, congrArg Prod.fst hmonth⟩
            | year => exact ⟨s₄, hs₄, congrArg Prod.fst hyear⟩

/-- Values that agree for each granularity are equal. -/
theorem ext {a b : ByGranularity α} (h : ∀ g, a.get g = b.get g) : a = b := by
  cases a with
  | mk d s m mo y =>
    cases b with
    | mk d' s' m' mo' y' =>
      have hd : d = d' := h .day
      have hs : s = s' := h .sundayWeek
      have hm : m = m' := h .mondayWeek
      have hmo : mo = mo' := h .month
      have hy : y = y' := h .year
      rw [hd, hs, hm, hmo, hy]

end ByGranularity

end Cashbook
