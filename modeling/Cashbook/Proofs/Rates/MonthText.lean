import Mathlib.Algebra.Ring.Nat
import Cashbook.Proofs.Rates.Nearest

/-!
# Which texts name a month

A file of rates says which month it is for in a text.  The text is split at its first hyphen, and
what stands on either side is read as a number, so it is the numbers that count, and not how they
are written: there may be a plus sign before them and any count of zeros, and one digit is enough.

* `MonthlyRates.NamesMonth` — the text names this month of this year, in any of these ways.
* `MonthlyRates.IsYearMonth` — the text is four digits, a hyphen and two digits.
* `MonthlyRates.Replaces` — taking in the file undoes that the other one was taken in just before.

`RateBook.insert_accepts_months` collects what follows.  A book takes in a file if and only if its
text names a month, and otherwise refuses it with that text.  Of the texts that name a month those
in the form `yyyy-MM` are the ones of seven characters with a hyphen in the fifth place and no plus
sign.  Two of these are equal if one file replaces the other, but without the form they need not be
(`RateBook.not_only_year_months`).
-/

namespace Cashbook

namespace Text

variable {cs ds : List Char} {n : ℕ}

/-! ### Digits and their value -/

/-- The characters are decimal digits. -/
def AreDigits (ds : List Char) : Prop := ∀ c ∈ ds, c.isDigit

instance : DecidablePred AreDigits := fun ds =>
  decidable_of_iff (ds.all Char.isDigit = true) List.all_eq_true

/-- The value of some digits. -/
def valueOf (ds : List Char) : ℕ := Nat.ofDigitChars 10 ds 0

theorem areDigits_cons {c : Char} : AreDigits (c :: ds) ↔ c.isDigit ∧ AreDigits ds :=
  List.forall_mem_cons

/-- A digit is worth less than ten. -/
theorem digit_lt_ten {c : Char} (h : c.isDigit) : c.toNat - '0'.toNat < 10 := by
  have hle := (Char.isDigit_iff_toNat.1 h).2
  have hnine : '9'.toNat = 57 := rfl
  have hzero : '0'.toNat = 48 := rfl
  omega

/-- There is one digit of each value. -/
theorem digit_inj {c d : Char} (hc : c.isDigit) (hd : d.isDigit)
    (h : c.toNat - '0'.toNat = d.toNat - '0'.toNat) : c = d := by
  have hc := (Char.isDigit_iff_toNat.1 hc).1
  have hd := (Char.isDigit_iff_toNat.1 hd).1
  refine Char.toNat_inj.1 ?_
  omega

theorem ofDigitChars_lt (h : AreDigits ds) (init : ℕ) :
    Nat.ofDigitChars 10 ds init < 10 ^ ds.length * (init + 1) := by
  induction ds generalizing init with
  | nil => simp [Nat.ofDigitChars]
  | cons c ds ih =>
      obtain ⟨hc, hds⟩ := areDigits_cons.1 h
      have hstep : 10 * init + (c.toNat - '0'.toNat) + 1 ≤ 10 * (init + 1) := by
        have := digit_lt_ten hc
        omega
      rw [Nat.ofDigitChars_cons, List.length_cons, pow_succ, mul_assoc]
      exact (ih hds _).trans_le (Nat.mul_le_mul_left _ hstep)

/-- So many digits write a number below that power of ten. -/
theorem valueOf_lt (h : AreDigits ds) : valueOf ds < 10 ^ ds.length := by
  simpa [valueOf] using ofDigitChars_lt h 0

theorem ofDigitChars_inj (hds : AreDigits ds) (hcs : AreDigits cs) (hlength : ds.length = cs.length)
    {init init' : ℕ} (h : Nat.ofDigitChars 10 ds init = Nat.ofDigitChars 10 cs init') :
    ds = cs ∧ init = init' := by
  induction ds generalizing cs init init' with
  | nil =>
      obtain rfl := List.eq_nil_of_length_eq_zero hlength.symm
      exact ⟨rfl, h⟩
  | cons d ds ih =>
      cases cs with
      | nil => cases hlength
      | cons c cs =>
          obtain ⟨hd, hds⟩ := areDigits_cons.1 hds
          obtain ⟨hc, hcs⟩ := areDigits_cons.1 hcs
          rw [Nat.ofDigitChars_cons, Nat.ofDigitChars_cons] at h
          obtain ⟨rfl, hinit⟩ := ih hds hcs (Nat.succ_inj.1 hlength) h
          have hdlt := digit_lt_ten hd
          have hclt := digit_lt_ten hc
          obtain rfl : d = c := digit_inj hd hc (by omega)
          exact ⟨rfl, by omega⟩

/-- As many digits of the same value are the same digits. -/
theorem eq_of_valueOf_eq (hds : AreDigits ds) (hcs : AreDigits cs) (hlength : ds.length = cs.length)
    (h : valueOf ds = valueOf cs) : ds = cs :=
  (ofDigitChars_inj hds hcs hlength h).1

/-! ### Reading a numeral -/

/-- Digits are read up to what follows them. -/
theorem readRun_append (h : AreDigits ds) (n count : ℕ) (rest : List Char) :
    readRun n count (ds ++ rest) =
      readRun (Nat.ofDigitChars 10 ds n) (count + ds.length) rest := by
  induction ds generalizing n count with
  | nil => rfl
  | cons c ds ih =>
      obtain ⟨hc, hds⟩ := areDigits_cons.1 h
      rw [List.cons_append, readRun, digit?, if_pos hc]
      show readRun _ (count + 1) (ds ++ rest) = _
      rw [ih hds, Nat.ofDigitChars_cons, List.length_cons, Nat.add_assoc, Nat.add_comm 1]

/-- A natural number is at least one digit and nothing else. -/
theorem natural?_eq_some_iff :
    natural? cs = some n ↔ cs ≠ [] ∧ AreDigits cs ∧ valueOf cs = n := by
  have hsplit := List.takeWhile_append_dropWhile (p := Char.isDigit) (l := cs)
  have hdigits : AreDigits (cs.takeWhile Char.isDigit) :=
    fun c hc => List.all_eq_true.1 List.all_takeWhile c hc
  cases hrest : cs.dropWhile Char.isDigit with
  | nil =>
      -- nothing follows the digits
      rw [hrest, List.append_nil] at hsplit
      rw [hsplit] at hdigits
      have hrun : readRun 0 0 cs = ⟨valueOf cs, cs.length, []⟩ := by
        have := readRun_append hdigits 0 0 []
        rwa [List.append_nil, Nat.zero_add] at this
      rw [natural?, longNumeral?, hrun]
      cases cs with
      | nil => simp
      | cons c cs => simp [hdigits]
  | cons c rest =>
      have hc : ¬ c.isDigit := by
        have := List.head?_dropWhile_not Char.isDigit cs
        rw [hrest] at this
        simpa using this
      have hnot : ¬ AreDigits cs := fun h => hc (h c (by rw [← hsplit, hrest]; simp))
      have hrun : (readRun 0 0 cs).rest = c :: rest := by
        rw [← hsplit, hrest, readRun_append hdigits, readRun, digit?, if_neg hc]
      rw [natural?, longNumeral?]
      split
      case h_1 m h =>
        have hrest : (readRun 0 0 cs).rest = [] := by
          split at h
          case isTrue => cases h
          case isFalse => exact congrArg Prod.snd (Option.some_inj.1 h)
        rw [hrun] at hrest
        cases hrest
      case h_2 => simp [hnot]

/-- The characters are a numeral for `n`: one digit or more, with or without a plus sign. -/
def IsNumeral (cs : List Char) (n : ℕ) : Prop :=
  ∃ ds, (cs = ds ∨ cs = '+' :: ds) ∧ ds ≠ [] ∧ AreDigits ds ∧ valueOf ds = n

theorem unsigned?_eq_some_iff : unsigned? cs = some n ↔ IsNumeral cs n := by
  constructor
  · intro h
    rw [unsigned?.eq_def] at h
    split at h
    case h_1 ds => exact ⟨ds, .inr rfl, natural?_eq_some_iff.1 h⟩
    case h_2 => exact ⟨cs, .inl rfl, natural?_eq_some_iff.1 h⟩
  · rintro ⟨ds, rfl | rfl, h⟩
    · rw [unsigned?.eq_def]
      split
      case h_1 ds =>
        -- a plus sign is no digit
        have hplus := (areDigits_cons.1 h.2.1).1
        cases hplus
      case h_2 => exact natural?_eq_some_iff.2 h
    · exact natural?_eq_some_iff.2 h

/-- Digits are a numeral without a sign. -/
theorem IsNumeral.of_areDigits (h : AreDigits ds) (hne : ds ≠ []) : IsNumeral ds (valueOf ds) :=
  ⟨ds, .inl rfl, hne, h, rfl⟩

/-- A numeral without a plus sign is digits only. -/
theorem IsNumeral.areDigits (h : IsNumeral cs n) (hplus : '+' ∉ cs) :
    AreDigits cs ∧ valueOf cs = n := by
  obtain ⟨ds, rfl | rfl, -, hdigits, hvalue⟩ := h
  · exact ⟨hdigits, hvalue⟩
  · exact absurd List.mem_cons_self hplus

theorem AreDigits.notMem {c : Char} (h : AreDigits ds) (hc : ¬ c.isDigit) : c ∉ ds :=
  fun hmem => hc (h c hmem)

/-- There is no hyphen in a numeral. -/
theorem IsNumeral.hyphen_notMem (h : IsNumeral cs n) : '-' ∉ cs := by
  obtain ⟨ds, rfl | rfl, -, hdigits, -⟩ := h
  · exact hdigits.notMem (by decide)
  · rw [List.mem_cons]
    exact not_or.2 ⟨by decide, hdigits.notMem (by decide)⟩

end Text

open Text

namespace MonthlyRates

variable {text : String} {y m : ℕ}

/-! ### The texts that name a month -/

/-- The text names the month `m` of the year `y`: numerals for the two with a hyphen between. -/
def NamesMonth (text : String) (y m : ℕ) : Prop :=
  ∃ ys ms, text.toList = ys ++ '-' :: ms ∧ IsNumeral ys y ∧ IsNumeral ms m ∧
    y ≤ maxYear ∧ 1 ≤ m ∧ m ≤ 12

/-- The text is four digits for a year, a hyphen and two digits for a month: `yyyy-MM`. -/
def IsYearMonth (text : String) : Prop :=
  ∃ ys ms, text.toList = ys ++ '-' :: ms ∧ (ys.length = 4 ∧ AreDigits ys) ∧
    (ms.length = 2 ∧ AreDigits ms) ∧ 1 ≤ valueOf ms ∧ valueOf ms ≤ 12

/-- A text splits at its first hyphen into what is read as a year and what is read as a month. -/
theorem split_of_hyphen {ys ms : List Char} (htext : text.toList = ys ++ '-' :: ms)
    (hys : '-' ∉ ys) :
    text.toList.takeWhile (· ≠ '-') = ys ∧
      afterChar? '-' (text.toList.dropWhile (· ≠ '-')) = some ms := by
  have hne : ∀ c ∈ ys, decide (c ≠ '-') = true := fun c hc =>
    decide_eq_true fun heq => hys (heq ▸ hc)
  rw [htext, List.takeWhile_append_of_pos hne, List.dropWhile_append_of_pos hne]
  simp [afterChar?]

/-- A hyphen stands between what is before the first hyphen and what is after it. -/
theorem eq_append_of_afterChar? {ms : List Char}
    (h : afterChar? '-' (text.toList.dropWhile (· ≠ '-')) = some ms) :
    text.toList = text.toList.takeWhile (· ≠ '-') ++ '-' :: ms := by
  have hsplit := List.takeWhile_append_dropWhile (p := (· ≠ '-')) (l := text.toList)
  cases hdrop : text.toList.dropWhile (· ≠ '-') with
  | nil =>
      rw [hdrop] at h
      cases h
  | cons c rest =>
      rw [hdrop, afterChar?] at h
      split at h
      case isTrue hc =>
        subst hc
        obtain rfl := Option.some_inj.1 h
        rwa [hdrop, eq_comm] at hsplit
      case isFalse => cases h

/-- **What is read.**  A text is read as the number of a month if and only if it names that
month. -/
theorem monthIndex?_eq_some_iff {k : ℤ} :
    monthIndex? text = some k ↔ ∃ y m, NamesMonth text y m ∧ k = 12 * y + m - 1 := by
  constructor
  · intro h
    simp only [monthIndex?, Option.bind_eq_bind, Option.bind_eq_some_iff, guard] at h
    obtain ⟨y, hy, ms, hms, m, hm, u, hguard, hk⟩ := h
    split at hguard
    case isTrue hbounds =>
      exact ⟨y, m, ⟨_, ms, eq_append_of_afterChar? hms, unsigned?_eq_some_iff.1 hy,
        unsigned?_eq_some_iff.1 hm, hbounds⟩, (Option.some_inj.1 hk).symm⟩
    case isFalse => cases hguard
  · rintro ⟨y, m, ⟨ys, ms, htext, hys, hms, hbounds⟩, rfl⟩
    obtain ⟨hyear, hmonth⟩ := split_of_hyphen htext hys.hyphen_notMem
    simp only [monthIndex?, hyear, hmonth, Option.bind_eq_bind, Option.bind_some,
      unsigned?_eq_some_iff.2 hys, unsigned?_eq_some_iff.2 hms, guard, if_pos hbounds]
    rfl

/-- A text names one month at most. -/
theorem NamesMonth.unique {y' m' : ℕ} (h : NamesMonth text y m) (h' : NamesMonth text y' m') :
    y = y' ∧ m = m' := by
  have hindex := monthIndex?_eq_some_iff.2 ⟨y, m, h, rfl⟩
  rw [monthIndex?_eq_some_iff.2 ⟨y', m', h', rfl⟩, Option.some_inj] at hindex
  obtain ⟨-, -, -, -, -, -, hm, hm'⟩ := h
  obtain ⟨-, -, -, -, -, -, hn, hn'⟩ := h'
  omega

/-- A text in the form `yyyy-MM` names the month of its digits. -/
theorem IsYearMonth.exists_digits (h : IsYearMonth text) :
    ∃ ys ms, text.toList = ys ++ '-' :: ms ∧ (ys.length = 4 ∧ AreDigits ys) ∧
      (ms.length = 2 ∧ AreDigits ms) ∧ NamesMonth text (valueOf ys) (valueOf ms) := by
  obtain ⟨ys, ms, htext, ⟨hfour, hys⟩, ⟨htwo, hms⟩, hbounds⟩ := h
  have hle : valueOf ys ≤ maxYear := by
    have hlt := valueOf_lt hys
    rw [hfour] at hlt
    exact hlt.le.trans (by decide)
  exact ⟨ys, ms, htext, ⟨hfour, hys⟩, ⟨htwo, hms⟩, ys, ms, htext,
    .of_areDigits hys (List.ne_nil_of_length_pos (by omega)),
    .of_areDigits hms (List.ne_nil_of_length_pos (by omega)), hle, hbounds⟩

/-- The one hyphen of a text stands after what is before it. -/
theorem length_of_hyphen {ys ms : List Char} {i : ℕ} (hys : '-' ∉ ys) (hms : '-' ∉ ms)
    (h : (ys ++ '-' :: ms)[i]? = some '-') : ys.length = i := by
  rcases lt_trichotomy i ys.length with hlt | heq | hgt
  · rw [List.getElem?_append_left hlt] at h
    exact absurd (List.mem_of_getElem? h) hys
  · exact heq.symm
  · obtain ⟨j, rfl⟩ := Nat.exists_eq_add_of_lt hgt
    rw [List.getElem?_append_right (by omega), Nat.add_assoc, Nat.add_sub_cancel_left,
      List.getElem?_cons_succ] at h
    exact absurd (List.mem_of_getElem? h) hms

/-- **The form among the texts that name a month.**  It takes seven characters with a hyphen in the
fifth place, and no plus sign. -/
theorem isYearMonth_iff :
    IsYearMonth text ↔ (∃ y m, NamesMonth text y m) ∧ text.toList.length = 7 ∧
      text.toList[4]? = some '-' ∧ '+' ∉ text.toList := by
  constructor
  · intro h
    obtain ⟨ys, ms, htext, ⟨hfour, hys⟩, ⟨htwo, hms⟩, hnames⟩ := h.exists_digits
    refine ⟨⟨_, _, hnames⟩, ?_⟩
    rw [htext]
    refine ⟨by simp [hfour, htwo], ?_, ?_⟩
    · rw [List.getElem?_append_right hfour.le, hfour]
      rfl
    · rw [List.mem_append, List.mem_cons]
      exact not_or.2 ⟨hys.notMem (by decide), not_or.2 ⟨by decide, hms.notMem (by decide)⟩⟩
  · rintro ⟨⟨y, m, ys, ms, htext, hys, hms, -, hbounds⟩, hseven, hhyphen, hplus⟩
    rw [htext] at hseven hhyphen hplus
    rw [List.mem_append, List.mem_cons, not_or, not_or] at hplus
    have hfour := length_of_hyphen hys.hyphen_notMem hms.hyphen_notMem hhyphen
    obtain ⟨hysDigits, -⟩ := hys.areDigits hplus.1
    obtain ⟨hmsDigits, rfl⟩ := hms.areDigits hplus.2.2
    rw [List.length_append, List.length_cons] at hseven
    exact ⟨ys, ms, htext, ⟨hfour, hysDigits⟩, ⟨by omega, hmsDigits⟩, hbounds⟩

/-- Two texts in the form `yyyy-MM` that name one month are equal. -/
theorem IsYearMonth.eq_of_namesMonth {text' : String} (h : IsYearMonth text)
    (h' : IsYearMonth text') (hm : NamesMonth text y m) (hm' : NamesMonth text' y m) :
    text = text' := by
  obtain ⟨ys, ms, htext, ⟨hfour, hys⟩, ⟨htwo, hms⟩, hnames⟩ := h.exists_digits
  obtain ⟨ys', ms', htext', ⟨hfour', hys'⟩, ⟨htwo', hms'⟩, hnames'⟩ := h'.exists_digits
  obtain ⟨hyear, hmonth⟩ := hnames.unique hm
  obtain ⟨hyear', hmonth'⟩ := hnames'.unique hm'
  obtain rfl := eq_of_valueOf_eq hys hys' (hfour.trans hfour'.symm) (hyear.trans hyear'.symm)
  obtain rfl := eq_of_valueOf_eq hms hms' (htwo.trans htwo'.symm) (hmonth.trans hmonth'.symm)
  exact String.toList_inj.1 (htext.trans htext'.symm)

/-! ### One file in place of another -/

/-- The file takes the place of the other one: whatever is known, it is the same with both taken in,
this one last, as with this one alone. -/
def Replaces (file other : MonthlyRates) : Prop :=
  ∀ book : RateBook, (book.takeIn other).takeIn file = book.takeIn file

end MonthlyRates

open MonthlyRates

namespace RateBook

variable {file other : MonthlyRates} {y m y' m' : ℕ}

/-- The rates of the file stand in for all that the book had for their month. -/
theorem takeIn_eq {k : ℤ} (h : monthIndex? file.month = some k) (book : RateBook) :
    book.takeIn file = ⟨book.currencies.insert file.currency
      ((book.months file.currency).insert k file.rates)⟩ := by
  rw [takeIn, insert, h]

theorem months_takeIn {k : ℤ} (h : monthIndex? file.month = some k) (book : RateBook) :
    (book.takeIn file).months file.currency =
      (book.months file.currency).insert k file.rates := by
  rw [takeIn_eq h, months, Std.ExtTreeMap.getD_insert_self]

/-- A file whose text names a month is taken in. -/
theorem insert_eq_ok (h : NamesMonth file.month y m) (book : RateBook) :
    book.insert file = .ok (book.takeIn file) := by
  have hk := monthIndex?_eq_some_iff.2 ⟨y, m, h, rfl⟩
  rw [takeIn_eq hk, insert, hk]

/-- A file whose text names no month is refused, and the book stays as it is. -/
theorem insert_eq_error (h : ¬ ∃ y m, NamesMonth file.month y m) (book : RateBook) :
    book.insert file = .error (.badMonth file.month) ∧ book.takeIn file = book := by
  have hk : monthIndex? file.month = none := by
    refine Option.eq_none_iff_forall_ne_some.2 fun k hk => h ?_
    obtain ⟨y, m, hnames, -⟩ := monthIndex?_eq_some_iff.1 hk
    exact ⟨y, m, hnames⟩
  have herror : book.insert file = .error (.badMonth file.month) := by rw [insert, hk]
  exact ⟨herror, by rw [takeIn, herror]⟩

/-- Of two files of one currency that name months, one replaces the other if and only if both name
the same month. -/
theorem replaces_iff (hcurrency : other.currency = file.currency)
    (h : NamesMonth file.month y m) (h' : NamesMonth other.month y' m') :
    file.Replaces other ↔ y' = y ∧ m' = m := by
  have hk := monthIndex?_eq_some_iff.2 ⟨y, m, h, rfl⟩
  have hk' := monthIndex?_eq_some_iff.2 ⟨y', m', h', rfl⟩
  constructor
  · intro hreplaces
    -- where nothing is known, the other file would leave its month behind
    have hleft : ((takeIn ∅ file).months file.currency)[(12 * y' + m' - 1 : ℤ)]?.isSome := by
      rw [← hreplaces, getElem?_months_takeIn]
      split
      case isTrue => rfl
      case isFalse =>
        rw [getElem?_months_takeIn, if_pos ⟨hcurrency, hk'⟩]
        rfl
    rw [getElem?_months_takeIn] at hleft
    split at hleft
    case isTrue hsame =>
      have hindex := Option.some_inj.1 (hk.symm.trans hsame.2)
      obtain ⟨-, -, -, -, -, -, hm, hm'⟩ := h
      obtain ⟨-, -, -, -, -, -, hn, hn'⟩ := h'
      omega
    case isFalse => cases hleft
  · rintro ⟨rfl, rfl⟩ book
    have hmonths : (book.takeIn other).months file.currency =
        (book.months file.currency).insert (12 * y' + m' - 1) other.rates := by
      rw [← hcurrency, months_takeIn hk']
    rw [takeIn_eq hk, takeIn_eq hk, hmonths, takeIn_eq hk', hcurrency, Maps.insert_same,
      Maps.insert_same]

/-- **Which files a book takes in.**  It takes in a file if and only if the text names a month, and
otherwise refuses it with that text, and all its rates stay the same.  The form `yyyy-MM` is that of
the texts that name a month in seven characters, with a hyphen in the fifth place and no plus sign.
Of two files of one currency that are taken in, one replaces the other if and only if they name the
same month.  If both texts have the form, this is so if and only if they are equal. -/
theorem insert_accepts_months (book : RateBook) (file : MonthlyRates) :
    ((∃ book', book.insert file = .ok book') ↔ ∃ y m, NamesMonth file.month y m) ∧
      ((¬ ∃ y m, NamesMonth file.month y m) →
        book.insert file = .error (.badMonth file.month) ∧
          ∀ date currency, (book.takeIn file).baseRate date currency =
            book.baseRate date currency) ∧
      (IsYearMonth file.month ↔ (∃ y m, NamesMonth file.month y m) ∧
        file.month.toList.length = 7 ∧ file.month.toList[4]? = some '-' ∧
        '+' ∉ file.month.toList) ∧
      ∀ other : MonthlyRates, other.currency = file.currency →
        (∀ y m y' m', NamesMonth file.month y m → NamesMonth other.month y' m' →
          (file.Replaces other ↔ y' = y ∧ m' = m)) ∧
        (IsYearMonth file.month → IsYearMonth other.month →
          (file.Replaces other ↔ other.month = file.month)) := by
  refine ⟨⟨?_, ?_⟩, ?_, isYearMonth_iff, fun other hcurrency => ⟨?_, ?_⟩⟩
  · rintro ⟨book', hbook'⟩
    by_contra h
    rw [(insert_eq_error h book).1] at hbook'
    cases hbook'
  · rintro ⟨y, m, h⟩
    exact ⟨_, insert_eq_ok h book⟩
  · intro h
    obtain ⟨herror, hsame⟩ := insert_eq_error h book
    exact ⟨herror, fun date currency => by rw [hsame]⟩
  · exact fun y m y' m' h h' => replaces_iff hcurrency h h'
  · intro h h'
    obtain ⟨ys, ms, -, -, -, hnames⟩ := h.exists_digits
    obtain ⟨ys', ms', -, -, -, hnames'⟩ := h'.exists_digits
    rw [replaces_iff hcurrency hnames hnames']
    constructor
    · rintro ⟨hyear, hmonth⟩
      rw [hyear, hmonth] at hnames'
      exact h'.eq_of_namesMonth h hnames' hnames
    · intro htext
      rw [htext] at hnames'
      exact hnames'.unique hnames

/-- The text `2020-1` has not the form, but a file with it is taken in and replaces the one for
`2020-01`. -/
theorem not_only_year_months :
    (¬ ∀ (book : RateBook) (file : MonthlyRates),
      (∃ book', book.insert file = .ok book') ↔ IsYearMonth file.month) ∧
    ¬ ∀ file other : MonthlyRates, other.currency = file.currency →
      (∃ book, (∅ : RateBook).insert file = .ok book) →
      (∃ book, (∅ : RateBook).insert other = .ok book) →
      file.Replaces other → other.month = file.month := by
  have hnames : NamesMonth "2020-1" 2020 1 :=
    ⟨['2', '0', '2', '0'], ['1'], by decide, ⟨_, .inl rfl, by decide⟩,
      ⟨_, .inl rfl, by decide⟩, by decide⟩
  have hnames' : NamesMonth "2020-01" 2020 1 :=
    ⟨['2', '0', '2', '0'], ['0', '1'], by decide, ⟨_, .inl rfl, by decide⟩,
      ⟨_, .inl rfl, by decide⟩, by decide⟩
  let file : MonthlyRates := ⟨"2020-1", "EUR", [2]⟩
  let other : MonthlyRates := ⟨"2020-01", "EUR", [1]⟩
  have haccepted : (∅ : RateBook).insert file = .ok (takeIn ∅ file) := insert_eq_ok hnames ∅
  have haccepted' : (∅ : RateBook).insert other = .ok (takeIn ∅ other) := insert_eq_ok hnames' ∅
  constructor
  · intro h
    have hform := (h ∅ file).1 ⟨_, haccepted⟩
    have hseven := (isYearMonth_iff.1 hform).2.1
    revert hseven
    decide
  · intro h
    have hcurrency : other.currency = file.currency := rfl
    have hreplaces := (replaces_iff hcurrency hnames hnames').2 ⟨rfl, rfl⟩
    have hsame := h file other hcurrency ⟨_, haccepted⟩ ⟨_, haccepted'⟩ hreplaces
    revert hsame
    decide

end RateBook

end Cashbook
