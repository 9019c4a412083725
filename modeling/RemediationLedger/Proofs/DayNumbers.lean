/-
Day numbers and the calendar.

Sums of dates and days are taken in day numbers, and this module says why that
is right. `Tomorrow` is the calendar without any number: the next day of the
month, or the first of the next month, or New Year. `DaysAway` counts such steps
in either direction. Both come down to day numbers: the day after has the next
number (`tomorrow_iff`), and `n` days away is `n` numbers away (`daysAway_iff`),
so counting days never leaves a gap and never counts a day twice.

For that, a day number must belong to one date at most, and each number between
those of two dates must belong to one (`ofDayNumber?_eq_some_iff`,
`exists_between`). Years are found by a guess that is mended by one
(`yearOfDay_eq_iff`), months by counting off their lengths
(`countOffMonths_eq_iff`).

## How the proof goes

Everything rests on one remark about sums: what is counted off a list of lengths
ends in the part in which the number falls, and in no other
(`countOffMonths_eq_iff`). With it, and with the same statement for years
(`yearOfDay_eq_iff`), a date is the one with its day number
(`ofDayNumber?_eq_some_iff`), in both directions at once. Injectivity and the
absence of gaps follow from there and not from arithmetic.

`Tomorrow` is an inductive relation with three rules, so that one has to check
three times that the day number grows by one; the harder way back, that a date
with the next number is the day after, comes from injectivity. What is said
about expiries elsewhere is put in terms of `DaysAway`, and the day numbers stay
inside the proofs: a statement about a date can then be checked against any
calendar.
-/
import Mathlib
import RemediationLedger.Calendar.Date

namespace RemediationLedger

namespace Date

/-! ## Years -/

/-- A year has the days of its months: 366 if it is a leap year, and 365 otherwise. -/
theorem sum_monthLengths (year : Int) :
    (monthLengths year).sum = if IsLeap year then 366 else 365 := by
  unfold monthLengths
  split <;> rfl

theorem daysBeforeYear_succ (year : Int) :
    daysBeforeYear (year + 1) = daysBeforeYear year + (monthLengths year).sum := by
  rw [sum_monthLengths]
  by_cases leap : IsLeap year
  · rw [if_pos leap]
    unfold IsLeap at leap
    unfold daysBeforeYear
    omega
  · rw [if_neg leap]
    unfold IsLeap at leap
    unfold daysBeforeYear
    omega

theorem daysBeforeYear_strictMono : StrictMono daysBeforeYear := by
  refine strictMono_int_of_lt_succ fun year => ?_
  rw [daysBeforeYear_succ, sum_monthLengths]
  split <;> omega

/-- The guess is never off by more than one year. -/
theorem daysBeforeYear_guess (n : Int) :
    daysBeforeYear (400 * n / 146097 - 1) ≤ n ∧
      n < daysBeforeYear (400 * n / 146097 + 1 + 1) := by
  unfold daysBeforeYear
  omega

/-- The year of a day number is the one between whose first of January and the next one it lies. -/
theorem yearOfDay_eq_iff {n year : Int} :
    yearOfDay n = year ↔ daysBeforeYear year ≤ n ∧ n < daysBeforeYear (year + 1) := by
  have within : daysBeforeYear (yearOfDay n) ≤ n ∧ n < daysBeforeYear (yearOfDay n + 1) := by
    obtain ⟨low, high⟩ := daysBeforeYear_guess n
    unfold yearOfDay
    dsimp only
    split
    · rename_i late
      exact ⟨late, high⟩
    · rename_i early
      split
      · rename_i before
        exact ⟨low, by rwa [Int.sub_add_cancel]⟩
      · rename_i start
        exact ⟨Int.not_lt.mp start, Int.not_le.mp early⟩
  constructor
  · rintro rfl
    exact within
  · -- of two years that the number lies in, neither can come first
    intro ⟨low, high⟩
    have notAfter := daysBeforeYear_strictMono.lt_iff_lt.mp (within.1.trans_lt high)
    have notBefore := daysBeforeYear_strictMono.lt_iff_lt.mp (low.trans_lt within.2)
    omega

theorem yearOfDay_mono : Monotone yearOfDay := fun n n' le => by
  obtain ⟨low, -⟩ := yearOfDay_eq_iff.mp (rfl : yearOfDay n = _)
  obtain ⟨-, high⟩ := yearOfDay_eq_iff.mp (rfl : yearOfDay n' = _)
  have := daysBeforeYear_strictMono.lt_iff_lt.mp ((low.trans le).trans_lt high)
  omega

/-! ## Months -/

/-- What lies in one of the parts lies in the whole. -/
theorem sum_take_add_lt {lengths : List Nat} {i left : Nat} (within : left < lengths.getD i 0) :
    (lengths.take i).sum + left < lengths.sum := by
  induction lengths generalizing i with
  | nil => simp at within
  | cons length rest ih =>
    cases i with
    | zero =>
      have first : left < length := within
      simp only [List.take_zero, List.sum_nil, List.sum_cons]
      omega
    | succ i =>
      have later := ih (i := i) within
      simp only [List.take_succ_cons, List.sum_cons]
      omega

theorem sum_take_succ (lengths : List Nat) (i : Nat) :
    (lengths.take (i + 1)).sum = (lengths.take i).sum + lengths.getD i 0 := by
  induction lengths generalizing i with
  | nil => simp
  | cons length rest ih =>
    cases i with
    | zero => simp
    | succ i =>
      rw [List.take_succ_cons, List.take_succ_cons, List.sum_cons, List.sum_cons, ih,
        List.getD_cons_succ, Nat.add_assoc]

/-- Counting off ends in the part that the number of days falls in. -/
theorem countOffMonths_eq_iff {lengths : List Nat} {days months left : Nat}
    (within : days < lengths.sum) :
    countOffMonths lengths days = (months, left) ↔
      left < lengths.getD months 0 ∧ days = (lengths.take months).sum + left := by
  induction lengths generalizing days months with
  | nil => exact absurd within (Nat.not_lt_zero days)
  | cons length rest ih =>
    rw [List.sum_cons] at within
    rw [countOffMonths]
    split
    · rename_i inFirst
      cases months with
      | zero =>
        have first : days = left ↔ left < length ∧ days = left := by omega
        simpa using first
      | succ months =>
        simp only [Prod.mk.injEq, List.take_succ_cons, List.sum_cons]
        omega
    · rename_i later
      cases months with
      | zero =>
        simp only [Prod.mk.injEq, List.getD_cons_zero, List.take_zero, List.sum_nil]
        omega
      | succ months =>
        have fromNext : countOffMonths rest (days - length) = (months, left) ↔
            left < rest.getD months 0 ∧ days - length = (rest.take months).sum + left :=
          ih (by omega)
        rw [Prod.ext_iff] at fromNext
        simp only [Prod.mk.injEq, Nat.add_right_cancel_iff, List.getD_cons_succ,
          List.take_succ_cons, List.sum_cons]
        rw [fromNext]
        omega

/-! ## Dates -/

variable {d e : Date} {n : Int}

theorem of?_eq_some_iff {year : Int} {month day : Nat} :
    of? year month day = some d ↔ d.year = year ∧ d.month = month ∧ d.day = day := by
  unfold of?
  split
  · rename_i isDate
    constructor
    · intro h
      cases h
      exact ⟨rfl, rfl, rfl⟩
    · rintro ⟨rfl, rfl, rfl⟩
      rfl
  · rename_i noDate
    refine iff_of_false (by simp) ?_
    rintro ⟨rfl, rfl, rfl⟩
    exact noDate d.isDate

/-- The days of the year before a date lie within its month. -/
theorem day_within (d : Date) : d.day - 1 < (monthLengths d.year).getD (d.month - 1) 0 := by
  obtain ⟨-, firstMonth, -, firstDay, lastDay⟩ := d.isDate
  unfold daysInMonth at lastDay
  rw [if_neg (by omega)] at lastDay
  omega

theorem dayNumber_eq (d : Date) :
    d.dayNumber = daysBeforeYear d.year +
      (((monthLengths d.year).take (d.month - 1)).sum + (d.day - 1) : Nat) := by
  have firstDay : 1 ≤ d.day := d.isDate.2.2.2.1
  unfold dayNumber daysBeforeMonth
  rw [← List.sum_eq_foldr]
  omega

theorem yearOfDay_dayNumber (d : Date) : yearOfDay d.dayNumber = d.year := by
  have inYear := sum_take_add_lt d.day_within
  rw [yearOfDay_eq_iff, dayNumber_eq, daysBeforeYear_succ]
  omega

/-- A day number leads to the one date that has it. -/
theorem ofDayNumber?_eq_some_iff : ofDayNumber? n = some d ↔ d.dayNumber = n := by
  obtain ⟨start, stop⟩ := yearOfDay_eq_iff.mp (rfl : yearOfDay n = _)
  rw [daysBeforeYear_succ] at stop
  have inYear : (n - daysBeforeYear (yearOfDay n)).toNat < (monthLengths (yearOfDay n)).sum := by
    omega
  have counted : countOffMonths _ _ = (d.month - 1, d.day - 1) ↔ _ := countOffMonths_eq_iff inYear
  have first : 1 ≤ d.month ∧ 1 ≤ d.day := ⟨d.isDate.2.1, d.isDate.2.2.2.1⟩
  simp only [ofDayNumber?, of?_eq_some_iff]
  constructor
  · rintro ⟨year, month, day⟩
    obtain ⟨-, offset⟩ := counted.mp (Prod.ext (by omega) (by omega))
    rw [dayNumber_eq, year]
    omega
  · intro number
    have year : yearOfDay n = d.year := number ▸ d.yearOfDay_dayNumber
    rw [dayNumber_eq] at number
    rw [year] at counted ⊢
    have found := counted.mpr ⟨d.day_within, by omega⟩
    rw [found]
    exact ⟨rfl, by omega, by omega⟩

theorem ofDayNumber?_dayNumber (d : Date) : ofDayNumber? d.dayNumber = some d :=
  ofDayNumber?_eq_some_iff.mpr rfl

theorem dayNumber_injective : Function.Injective dayNumber := fun d e same => by
  have := d.ofDayNumber?_dayNumber
  rw [same, ofDayNumber?_dayNumber] at this
  exact (Option.some.inj this).symm

/-- The day numbers of dates are those that fall in a supported year. -/
theorem exists_dayNumber_iff : (∃ d : Date, d.dayNumber = n) ↔ InYearRange (yearOfDay n) := by
  constructor
  · rintro ⟨d, rfl⟩
    rw [yearOfDay_dayNumber]
    exact d.isDate.1
  · intro inRange
    obtain ⟨start, stop⟩ := yearOfDay_eq_iff.mp (rfl : yearOfDay n = _)
    rw [daysBeforeYear_succ] at stop
    obtain ⟨months, left, counted⟩ : ∃ months left, countOffMonths (monthLengths (yearOfDay n))
        (n - daysBeforeYear (yearOfDay n)).toNat = (months, left) := ⟨_, _, rfl⟩
    obtain ⟨lies, -⟩ := (countOffMonths_eq_iff (by omega)).mp counted
    have isMonth : months < 12 := by
      by_contra beyond
      rw [List.getD_eq_getElem?_getD,
        List.getElem?_eq_none (by simpa [monthLengths] using beyond)] at lies
      exact absurd lies (Nat.not_lt_zero left)
    have isDate : IsDate (yearOfDay n) (months + 1) (left + 1) := by
      refine ⟨inRange, by omega, by omega, by omega, ?_⟩
      unfold daysInMonth
      rw [if_neg (by omega), Nat.add_sub_cancel]
      exact lies
    refine ⟨⟨yearOfDay n, months + 1, left + 1, isDate⟩, ofDayNumber?_eq_some_iff.mp ?_⟩
    simp only [ofDayNumber?, counted, of?_eq_some_iff, and_self]

/-- Each number between those of two dates is that of a date. -/
theorem exists_between (low : d.dayNumber ≤ n) (high : n ≤ e.dayNumber) :
    ∃ f : Date, f.dayNumber = n := by
  have first : d.year ≤ yearOfDay n := d.yearOfDay_dayNumber ▸ yearOfDay_mono low
  have last : yearOfDay n ≤ e.year := e.yearOfDay_dayNumber ▸ yearOfDay_mono high
  exact exists_dayNumber_iff.mpr ⟨d.isDate.1.1.trans first, last.trans e.isDate.1.2⟩

/-! ## The next day -/

/-- What the day after a date is. -/
inductive Tomorrow (d e : Date) : Prop
  /-- The next day of the month. -/
  | nextDay (year : e.year = d.year) (month : e.month = d.month) (day : e.day = d.day + 1)
  /-- The first of the next month, after the last day of a month. -/
  | nextMonth (last : d.day = daysInMonth d.year d.month) (year : e.year = d.year)
      (month : e.month = d.month + 1) (first : e.day = 1)
  /-- New Year, after the last day of December. -/
  | newYear (december : d.month = 12) (last : d.day = 31) (year : e.year = d.year + 1)
      (january : e.month = 1) (first : e.day = 1)

theorem daysInMonth_succ (year : Int) (i : Nat) :
    daysInMonth year (i + 1) = (monthLengths year).getD i 0 := by
  rw [daysInMonth, if_neg (Nat.succ_ne_zero i), Nat.add_sub_cancel]

/-- The last day of a year is followed by the first of January of the next one. -/
theorem dayNumber_of_last (december : d.month = 12) (last : d.day = 31) :
    d.dayNumber + 1 = daysBeforeYear (d.year + 1) := by
  have through : ((monthLengths d.year).take 11).sum + 31 = (monthLengths d.year).sum :=
    (sum_take_succ (monthLengths d.year) 11).symm
  rw [dayNumber_eq, daysBeforeYear_succ, december, last]
  simp only [Nat.reduceSub]
  omega

theorem Tomorrow.dayNumber_eq (next : d.Tomorrow e) : e.dayNumber = d.dayNumber + 1 := by
  have firstDay : 1 ≤ d.day := d.isDate.2.2.2.1
  have firstMonth : 1 ≤ d.month := d.isDate.2.1
  cases next with
  | nextDay year month day =>
    rw [Date.dayNumber_eq, Date.dayNumber_eq d, year, month, day]
    omega
  | nextMonth last year month first =>
    obtain ⟨i, hi⟩ : ∃ i, d.month = i + 1 := ⟨d.month - 1, by omega⟩
    rw [hi, daysInMonth_succ] at last
    have through := sum_take_succ (monthLengths d.year) i
    rw [Date.dayNumber_eq, Date.dayNumber_eq d, year, month, first, hi]
    simp only [Nat.add_sub_cancel]
    omega
  | newYear december last year january first =>
    rw [dayNumber_of_last december last, Date.dayNumber_eq, year, january, first]
    simp

theorem daysInMonth_pos {year : Int} {month : Nat} (first : 1 ≤ month) (last : month ≤ 12) :
    1 ≤ daysInMonth year month := by
  obtain ⟨i, rfl⟩ : ∃ i, month = i + 1 := ⟨month - 1, by omega⟩
  have listed : i < (monthLengths year).length := by
    rw [monthLengths]
    exact last
  have long : ∀ length ∈ monthLengths year, 28 ≤ length := by
    unfold monthLengths
    split <;> decide
  have := long _ (List.getElem_mem listed)
  rw [daysInMonth_succ, List.getD_eq_getElem?_getD, List.getElem?_eq_getElem listed,
    Option.getD_some]
  omega

/-- Every date but the last one of the supported years has a day after it. -/
theorem exists_tomorrow (notLast : InYearRange (yearOfDay (d.dayNumber + 1))) :
    ∃ e, d.Tomorrow e := by
  obtain ⟨inRange, firstMonth, lastMonth, firstDay, lastDay⟩ := d.isDate
  by_cases endOfMonth : d.day = daysInMonth d.year d.month
  · by_cases december : d.month = 12
    · have last : d.day = 31 := by
        rw [endOfMonth, december]
        rfl
      have newYear := dayNumber_of_last december last
      have year : yearOfDay (d.dayNumber + 1) = d.year + 1 :=
        yearOfDay_eq_iff.mpr ⟨newYear.ge, newYear ▸ daysBeforeYear_strictMono (Int.lt_succ _)⟩
      exact ⟨⟨d.year + 1, 1, 1, year ▸ notLast, Nat.le_refl 1, by omega, Nat.le_refl 1,
        daysInMonth_pos (Nat.le_refl 1) (by omega)⟩, .newYear december last rfl rfl rfl⟩
    · exact ⟨⟨d.year, d.month + 1, 1, inRange, by omega, by omega, Nat.le_refl 1,
        daysInMonth_pos (by omega) (by omega)⟩, .nextMonth endOfMonth rfl rfl rfl⟩
  · exact ⟨⟨d.year, d.month, d.day + 1, inRange, firstMonth, lastMonth, by omega, by omega⟩,
      .nextDay rfl rfl rfl⟩

theorem tomorrow_iff : d.Tomorrow e ↔ e.dayNumber = d.dayNumber + 1 := by
  constructor
  · exact Tomorrow.dayNumber_eq
  · intro number
    have notLast : InYearRange (yearOfDay (d.dayNumber + 1)) :=
      exists_dayNumber_iff.mp ⟨e, number⟩
    obtain ⟨f, next⟩ := exists_tomorrow notLast
    obtain rfl : f = e := dayNumber_injective (next.dayNumber_eq.trans number.symm)
    exact next

/-! ## Days away -/

inductive DaysLater (d : Date) : Nat → Date → Prop
  | today : DaysLater d 0 d
  | after {n : Nat} {e f : Date} (reached : DaysLater d n e) (next : e.Tomorrow f) :
      DaysLater d (n + 1) f

theorem daysLater_iff {n : Nat} : d.DaysLater n e ↔ e.dayNumber = d.dayNumber + n := by
  constructor
  · intro later
    induction later with
    | today => simp
    | after reached next ih =>
      rw [next.dayNumber_eq, ih]
      push_cast
      omega
  · intro number
    induction n generalizing e with
    | zero =>
      obtain rfl : e = d := dayNumber_injective (by simpa using number)
      exact .today
    | succ n ih =>
      -- the day before lies between the two dates, so it is a date
      obtain ⟨f, before⟩ : ∃ f : Date, f.dayNumber = d.dayNumber + n :=
        exists_between (d := d) (e := e) (by omega) (by omega)
      exact .after (ih before) (tomorrow_iff.mpr (by omega))

/-- `e` lies `n` days after `d`, or `-n` days before it if the number is negative. -/
def DaysAway (d : Date) (n : Int) (e : Date) : Prop :=
  if 0 ≤ n then d.DaysLater n.toNat e else e.DaysLater (-n).toNat d

theorem daysAway_iff : d.DaysAway n e ↔ e.dayNumber = d.dayNumber + n := by
  unfold DaysAway
  split
  · rw [daysLater_iff]
    omega
  · rw [daysLater_iff]
    omega

/-- The date a number of days away is found, if there is one. -/
theorem addDays?_eq_some_iff : d.addDays? n = some e ↔ d.DaysAway n e := by
  rw [addDays?, ofDayNumber?_eq_some_iff, daysAway_iff]

end Date

end RemediationLedger
