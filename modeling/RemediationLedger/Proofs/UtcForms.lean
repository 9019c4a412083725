/-
Moments and their forms in UTC.

A date-time is a moment as one clock shows it. `UtcForm t u` says that `u` is
what a clock in UTC shows at the moment of `t`, in terms of the time line alone,
and `toUtc?_eq_some_iff` that the conversion finds it whenever there is one.
There is one exactly for the moments between the first and the last one of the
supported years in UTC (`exists_utcForm_iff`): the local date is always in those
years, but the offset can lead out of them at either end.

The time line is reckoned in whole nanoseconds, so that questions of order and
of rounding become questions of integers (`unixTime_eq`).

## How the proof goes

A date-time is taken apart into a day number, the seconds of a day and a
fraction. Every number of seconds is that of a time of day (`exists_seconds`),
and every day number between those of the first and the last date is that of a
date (`exists_dayNumber_iff_between`). So a place on the time line belongs to a
date-time in UTC exactly if its day does, and to one only (`unixTime_inj`).

`UtcForm` does not mention the conversion, and `toUtc?_eq_some_iff` is the only
lemma that opens it. Everything that can fail for want of a UTC form, the stamp
of a record and the report about an expiry, is told by `exists_utcForm_iff` from
then on: by comparing the moment with two constants. Two date-times of one
moment have one form or none, whatever their local dates are.
-/
import RemediationLedger.Proofs.Expiry

namespace RemediationLedger

/-! ## The first and the last date -/

namespace Date

variable {d : Date} {n : Int}

theorem isDate_first : IsDate (-9999) 1 1 := by decide

def first : Date := ⟨-9999, 1, 1, isDate_first⟩

def last : Date := ⟨9999, 12, 31, by decide⟩

theorem first_le (d : Date) : first.dayNumber ≤ d.dayNumber := by
  obtain ⟨start, -⟩ := yearOfDay_eq_iff.mp d.yearOfDay_dayNumber
  have year : daysBeforeYear (-9999) ≤ daysBeforeYear d.year :=
    daysBeforeYear_strictMono.monotone d.isDate.1.1
  exact year.trans start

theorem le_last (d : Date) : d.dayNumber ≤ last.dayNumber := by
  obtain ⟨-, stop⟩ := yearOfDay_eq_iff.mp d.yearOfDay_dayNumber
  have year : daysBeforeYear (d.year + 1) ≤ daysBeforeYear (9999 + 1) :=
    daysBeforeYear_strictMono.monotone (by have := d.isDate.1.2; omega)
  have newYear : last.dayNumber + 1 = daysBeforeYear (9999 + 1) := dayNumber_of_last rfl rfl
  omega

/-- The day numbers of dates are those from the first date to the last one. -/
theorem exists_dayNumber_iff_between :
    (∃ d : Date, d.dayNumber = n) ↔ first.dayNumber ≤ n ∧ n ≤ last.dayNumber := by
  constructor
  · rintro ⟨d, rfl⟩
    exact ⟨d.first_le, d.le_last⟩
  · rintro ⟨low, high⟩
    exact exists_between low high

end Date

/-! ## Times of day -/

namespace TimeOfDay

variable {t : TimeOfDay}

theorem of?_eq_some_iff {hour minute second nanosecond : Nat} :
    of? hour minute second nanosecond = some t ↔
      t.hour = hour ∧ t.minute = minute ∧ t.second = second ∧ t.nanosecond = nanosecond := by
  unfold of?
  split
  · rename_i inRange
    constructor
    · intro h
      cases h
      exact ⟨rfl, rfl, rfl, rfl⟩
    · rintro ⟨rfl, rfl, rfl, rfl⟩
      rfl
  · rename_i outside
    refine iff_of_false (by simp) ?_
    rintro ⟨rfl, rfl, rfl, rfl⟩
    exact outside t.inRange

theorem seconds_lt (t : TimeOfDay) : t.seconds < 86400 := by
  obtain ⟨hour, minute, second, -⟩ := t.inRange
  unfold seconds
  omega

theorem midnight_inRange :
    (0 : Nat) < 24 ∧ (0 : Nat) < 60 ∧ (0 : Nat) < 60 ∧ (0 : Nat) < 1000000000 := by
  decide

/-- Every second of a day is that of a time. -/
theorem exists_seconds {ofDay nanosecond : Nat} (within : ofDay < 86400)
    (fraction : nanosecond < 1000000000) :
    ∃ t : TimeOfDay, t.seconds = ofDay ∧ t.nanosecond = nanosecond := by
  refine ⟨⟨ofDay / 3600, ofDay / 60 % 60, ofDay % 60, nanosecond, ?_⟩, ?_, rfl⟩
  · omega
  · change 3600 * (ofDay / 3600) + 60 * (ofDay / 60 % 60) + ofDay % 60 = ofDay
    omega

end TimeOfDay

/-! ## The time line -/

namespace DateTime

variable {t u : DateTime}

def unixNanoseconds (t : DateTime) : Int := 1000000000 * t.unixSeconds + t.time.nanosecond

theorem unixTime_eq (t : DateTime) : t.unixTime = (t.unixNanoseconds : ℚ) / 1000000000 := by
  unfold unixTime unixNanoseconds
  push_cast
  ring

theorem unixTime_le_iff : t.unixTime ≤ u.unixTime ↔ t.unixNanoseconds ≤ u.unixNanoseconds := by
  rw [unixTime_eq, unixTime_eq, div_le_div_iff_of_pos_right (by norm_num), Int.cast_le]

theorem unixTime_inj : t.unixTime = u.unixTime ↔ t.unixNanoseconds = u.unixNanoseconds := by
  rw [le_antisymm_iff, unixTime_le_iff, unixTime_le_iff, ← le_antisymm_iff]

/-- Seconds are what is left of nanoseconds without their fraction. -/
theorem unixNanoseconds_div (t : DateTime) :
    t.unixNanoseconds / 1000000000 = t.unixSeconds ∧
      t.unixNanoseconds % 1000000000 = t.time.nanosecond := by
  have := t.time.inRange.2.2.2
  unfold unixNanoseconds
  omega

/-! ## UTC forms -/

/-- `u` shows the moment of `t` on a clock in UTC. -/
structure UtcForm (t u : DateTime) : Prop where
  inUtc : u.offset = .utc
  sameMoment : u.unixTime = t.unixTime

theorem UtcForm.unixSeconds_eq (h : t.UtcForm u) : u.unixSeconds = t.unixSeconds := by
  have same := unixTime_inj.mp h.sameMoment
  rw [← u.unixNanoseconds_div.1, same, t.unixNanoseconds_div.1]

theorem UtcForm.nanosecond_eq (h : t.UtcForm u) : u.time.nanosecond = t.time.nanosecond := by
  have same := unixTime_inj.mp h.sameMoment
  have := u.unixNanoseconds_div.2
  rw [same, t.unixNanoseconds_div.2] at this
  exact_mod_cast this.symm

/-- In UTC the seconds since 1970 are those of whole days and the time of day. -/
theorem unixSeconds_of_utc (inUtc : u.offset = .utc) :
    u.unixSeconds = 86400 * (u.date.dayNumber - epochDay) + u.time.seconds := by
  unfold unixSeconds
  rw [inUtc]
  exact Int.sub_zero _

/-- The conversion finds the UTC form, if there is one. -/
theorem toUtc?_eq_some_iff : t.toUtc? = some u ↔ t.UtcForm u := by
  have opened : t.toUtc? = some u ↔ u.offset = .utc ∧
      u.date.dayNumber = t.unixSeconds / 86400 + epochDay ∧
      u.time.hour = (t.unixSeconds % 86400).toNat / 3600 ∧
      u.time.minute = (t.unixSeconds % 86400).toNat / 60 % 60 ∧
      u.time.second = (t.unixSeconds % 86400).toNat % 60 ∧
      u.time.nanosecond = t.time.nanosecond := by
    obtain ⟨date, time, offset⟩ := u
    simp only [toUtc?, bind, Option.bind_eq_some_iff, Date.ofDayNumber?_eq_some_iff,
      TimeOfDay.of?_eq_some_iff, pure, Option.some.injEq, mk.injEq]
    constructor
    · rintro ⟨_, day, _, time, rfl, rfl, rfl⟩
      exact ⟨rfl, day, time⟩
    · rintro ⟨rfl, day, time⟩
      exact ⟨date, day, _, time, rfl, rfl, rfl⟩
  rw [opened]
  constructor
  · rintro ⟨inUtc, day, hour, minute, second, nanosecond⟩
    refine ⟨inUtc, unixTime_inj.mpr ?_⟩
    have seconds := unixSeconds_of_utc inUtc
    unfold TimeOfDay.seconds at seconds
    unfold unixNanoseconds
    rw [seconds, nanosecond]
    omega
  · intro h
    have seconds := h.unixSeconds_eq
    rw [unixSeconds_of_utc h.inUtc] at seconds
    have ofDay := u.time.seconds_lt
    have parts := u.time.inRange
    refine ⟨h.inUtc, by omega, ?_⟩
    have left : (t.unixSeconds % 86400).toNat = u.time.seconds := by omega
    rw [left]
    unfold TimeOfDay.seconds
    exact ⟨by omega, by omega, by omega, h.nanosecond_eq⟩

def earliest : DateTime := ⟨.first, ⟨0, 0, 0, 0, TimeOfDay.midnight_inRange⟩, .utc⟩

/-- The last moment of the supported years in UTC, to the nanosecond. -/
def latest : DateTime := ⟨.last, ⟨23, 59, 59, 999999999, by decide⟩, .utc⟩

/-- The moments with a UTC form are those from the first to the last one of the supported years. -/
theorem exists_utcForm_iff :
    (∃ u, t.UtcForm u) ↔ earliest.unixTime ≤ t.unixTime ∧ t.unixTime ≤ latest.unixTime := by
  have ofDay : (∃ u, t.UtcForm u) ↔ ∃ d : Date, d.dayNumber = t.unixSeconds / 86400 + epochDay := by
    constructor
    · rintro ⟨u, h⟩
      have seconds := h.unixSeconds_eq
      rw [unixSeconds_of_utc h.inUtc] at seconds
      have := u.time.seconds_lt
      exact ⟨u.date, by omega⟩
    · rintro ⟨d, number⟩
      have within : (t.unixSeconds % 86400).toNat < 86400 := by omega
      obtain ⟨time, ofDay, nanosecond⟩ := TimeOfDay.exists_seconds within t.time.inRange.2.2.2
      refine ⟨⟨d, time, .utc⟩, rfl, unixTime_inj.mpr ?_⟩
      unfold unixNanoseconds
      rw [unixSeconds_of_utc rfl, nanosecond]
      dsimp only
      omega
  rw [ofDay, Date.exists_dayNumber_iff_between, unixTime_le_iff, unixTime_le_iff]
  have low : earliest.unixSeconds = 86400 * (Date.first.dayNumber - epochDay) + 0 :=
    unixSeconds_of_utc rfl
  have high : latest.unixSeconds = 86400 * (Date.last.dayNumber - epochDay) + 86399 :=
    unixSeconds_of_utc rfl
  have := t.time.inRange.2.2.2
  have nanos : earliest.time.nanosecond = 0 ∧ latest.time.nanosecond = 999999999 := ⟨rfl, rfl⟩
  unfold unixNanoseconds
  omega

theorem timestamp?_eq_some_iff {stamp : String} :
    t.timestamp? = some stamp ↔ ∃ u, t.UtcForm u ∧ stamp = u.stampText := by
  simp only [timestamp?, Option.map_eq_some_iff, toUtc?_eq_some_iff, eq_comm (a := stamp)]

theorem timestamp?_eq_none_iff : t.timestamp? = none ↔ ¬∃ u, t.UtcForm u := by
  rw [timestamp?, Option.map_eq_none_iff, Option.eq_none_iff_forall_ne_some]
  simp only [ne_eq, toUtc?_eq_some_iff, not_exists]

end DateTime

end RemediationLedger
