/-
Dates of the proleptic Gregorian calendar, years -9999 to 9999.

The leap-year rule reaches back without end and year 0 exists. A date is
numbered by the days since the first of January of year 0; the numbering is what
sums of dates and days are taken in. A number outside the supported years
belongs to no date.

* `Date` carries the proof that its three numbers make a date, so that no later
  function has to ask whether the thirtieth of February came in.
* `dayNumber` and `ofDayNumber?` are the two directions of the numbering. The
  way back finds the year by a division that is off by one year at most
  (`yearOfDay`) and then counts off whole months; that the two are inverse to
  each other is proved in `Proofs.DayNumbers`.
* `addDays?` goes through the numbering and can leave the supported years;
  `inYear?` keeps month and day and gives way only on 29 February.

Years are integers because they may be negative, months and days natural numbers
counted from 1. The lengths of the months are a list, and both summing them up
and counting them off are recursions over that list, which is what the proofs
about the numbering follow.
-/

namespace RemediationLedger

def IsLeap (year : Int) : Prop := year % 4 = 0 ∧ (year % 100 ≠ 0 ∨ year % 400 = 0)

instance (year : Int) : Decidable (IsLeap year) := inferInstanceAs (Decidable (_ ∧ _))

def monthLengths (year : Int) : List Nat :=
  [31, if IsLeap year then 29 else 28, 31, 30, 31, 30, 31, 31, 30, 31, 30, 31]

/-- The length of a month; months count from 1, and what is no month has no days. -/
def daysInMonth (year : Int) (month : Nat) : Nat :=
  if month = 0 then 0 else (monthLengths year).getD (month - 1) 0

def InYearRange (year : Int) : Prop := -9999 ≤ year ∧ year ≤ 9999

instance (year : Int) : Decidable (InYearRange year) := inferInstanceAs (Decidable (_ ∧ _))

def IsDate (year : Int) (month day : Nat) : Prop :=
  InYearRange year ∧ 1 ≤ month ∧ month ≤ 12 ∧ 1 ≤ day ∧ day ≤ daysInMonth year month

instance (year : Int) (month day : Nat) : Decidable (IsDate year month day) :=
  inferInstanceAs (Decidable (_ ∧ _))

structure Date where
  year : Int
  month : Nat
  day : Nat
  isDate : IsDate year month day
  deriving DecidableEq

namespace Date

def of? (year : Int) (month day : Nat) : Option Date :=
  if h : IsDate year month day then some ⟨year, month, day, h⟩ else none

/-! ## Day numbers -/

/-- The number of days from the first of January of year 0 to that of `year`. -/
def daysBeforeYear (year : Int) : Int :=
  365 * year + (year + 3) / 4 - (year + 99) / 100 + (year + 399) / 400

def daysBeforeMonth (year : Int) (month : Nat) : Nat :=
  ((monthLengths year).take (month - 1)).foldr (· + ·) 0

def dayNumber (d : Date) : Int :=
  daysBeforeYear d.year + daysBeforeMonth d.year d.month + d.day - 1

/-- The year that a day number falls in. Four hundred years have 146097 days, and reckoning with
years of equal length is off by one year at most. -/
def yearOfDay (n : Int) : Int :=
  let guess := 400 * n / 146097
  if daysBeforeYear (guess + 1) ≤ n then guess + 1
  else if n < daysBeforeYear guess then guess - 1
  else guess

/-- Counts off whole months: the number of months that fit into `days` and the days left. -/
def countOffMonths : List Nat → (days : Nat) → Nat × Nat
  | [], days => (0, days)
  | length :: rest, days =>
    if days < length then (0, days)
    else
      let (months, left) := countOffMonths rest (days - length)
      (months + 1, left)

/-- The date with a given day number, if it lies in the supported years. -/
def ofDayNumber? (n : Int) : Option Date :=
  let year := yearOfDay n
  let (months, days) := countOffMonths (monthLengths year) (n - daysBeforeYear year).toNat
  of? year (months + 1) (days + 1)

/-- The date a number of days later, or earlier if the number is negative. -/
def addDays? (d : Date) (days : Int) : Option Date := ofDayNumber? (d.dayNumber + days)

/-- The same day of another year; 29 February becomes 28 February where there is none. -/
def inYear? (d : Date) (year : Int) : Option Date :=
  of? year d.month (if d.month = 2 ∧ d.day = 29 ∧ ¬ IsLeap year then 28 else d.day)

end Date

end RemediationLedger
