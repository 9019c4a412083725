/-
The moment of expiry by the calendar.

A retention is counted in whole years first, which lead to an anniversary of the
date of creation, and in days from there. `expiry_eq_ok_iff` says this in the
words of the calendar: `Anniversary` and `DaysAway` know nothing of day numbers.

How long a retention really is depends on the leap days it meets. A date up to
28 February keeps its distance from the New Year before it, and a later one from
the New Year after it (`exists_dayNumber_of_anniversary`), 29 February included,
which is the day before the first of March in either kind of year. So
anniversaries are as far apart as New Years are: 365 days for each year, and one
more for at most each fourth (`Anniversary.apart`). With the leftover days on
top, raising the setting by a number of days puts the expiry off by at least as
many (`add_le_of_anniversaries`); the order of the settings is that of the
expiries.

## Statements

* `expiry_by_the_calendar`: an expiry exists exactly if the anniversary and the
  days from it do, it is the date found in this way at the same time of day and
  offset, and what is stored is the whole seconds between it and the start of
  1970. Each of the three is an equivalence, for all dates and settings,
  negative settings included.
* `longer_retention_expires_later`: an expiry lies whole days behind the
  creation, at least as many as the setting says and at most one more for each
  fourth year begun; and of two settings with an expiry the greater one expires
  later, with every setting between the two having one as well.

The moment of expiry is compared in seconds, but the proofs work with day
numbers up to the last step, since an expiry keeps the time of day and the
offset of its creation (`unixSeconds_of_expiry`).
-/
import RemediationLedger.Proofs.DayNumbers
import RemediationLedger.Retention

namespace RemediationLedger

/-! ## Anniversaries -/

namespace Date

variable {d e f : Date} {year year' : Int}

/-- `e` is the same day as `d` in a given year; 29 February has its anniversary on 28 February
where the year has none. -/
structure Anniversary (d : Date) (year : Int) (e : Date) : Prop where
  sameYear : e.year = year
  sameMonth : e.month = d.month
  sameDay : e.day = if d.month = 2 ∧ d.day = 29 ∧ ¬ IsLeap year then 28 else d.day

theorem inYear?_eq_some_iff : d.inYear? year = some e ↔ d.Anniversary year e := by
  rw [inYear?, of?_eq_some_iff]
  exact ⟨fun ⟨year, month, day⟩ => ⟨year, month, day⟩, fun ⟨year, month, day⟩ => ⟨year, month, day⟩⟩

theorem Anniversary.unique (h : d.Anniversary year e) (h' : d.Anniversary year f) : e = f :=
  Option.some.inj ((inYear?_eq_some_iff.mpr h).symm.trans (inYear?_eq_some_iff.mpr h'))

theorem daysInMonth_two (year : Int) : daysInMonth year 2 = if IsLeap year then 29 else 28 := rfl

/-- Only February depends on the year. -/
theorem daysInMonth_of_ne_two {month : Nat} (other : month ≠ 2) (year year' : Int) :
    daysInMonth year month = daysInMonth year' month := by
  match month with
  | 0 | 1 => rfl
  | 2 => exact absurd rfl other
  | _ + 3 => rfl

/-- Only a leap year has a 29 February. -/
theorem isLeap_of_day (february : d.month = 2) (last : d.day = 29) : IsLeap d.year := by
  by_contra common
  have within := d.isDate.2.2.2.2
  rw [february, last, daysInMonth_two, if_neg common] at within
  omega

theorem anniversary_self (d : Date) : d.Anniversary d.year d where
  sameYear := rfl
  sameMonth := rfl
  sameDay := by
    rw [if_neg]
    rintro ⟨february, last, common⟩
    exact common (isLeap_of_day february last)

/-- There is an anniversary in each of the supported years, and in no other. -/
theorem existsUnique_anniversary_iff : (∃! e, d.Anniversary year e) ↔ InYearRange year := by
  constructor
  · rintro ⟨e, ⟨rfl, -, -⟩, -⟩
    exact e.isDate.1
  · intro inRange
    obtain ⟨-, firstMonth, lastMonth, firstDay, lastDay⟩ := d.isDate
    have within : (if d.month = 2 ∧ d.day = 29 ∧ ¬ IsLeap year then 28 else d.day) ≤
        daysInMonth year d.month := by
      by_cases february : d.month = 2
      · rw [february, daysInMonth_two] at lastDay ⊢
        grind
      · rw [if_neg (february ·.1), daysInMonth_of_ne_two february year d.year]
        exact lastDay
    exact existsUnique_of_exists_of_unique
      ⟨⟨year, d.month, _, inRange, firstMonth, lastMonth, by split <;> omega, within⟩,
        rfl, rfl, rfl⟩
      fun _ _ => Anniversary.unique

/-! ## The distance of anniversaries -/

def fromMarch : List Nat := [31, 30, 31, 30, 31, 31, 30, 31, 30, 31]

theorem monthLengths_eq (year : Int) :
    monthLengths year = 31 :: daysInMonth year 2 :: fromMarch := rfl

theorem dayNumber_of_january (january : d.month = 1) :
    d.dayNumber = daysBeforeYear d.year + (d.day - 1 : Nat) := by
  rw [dayNumber_eq, january]
  simp

theorem dayNumber_of_february (february : d.month = 2) :
    d.dayNumber = daysBeforeYear d.year + (31 + (d.day - 1) : Nat) := by
  rw [dayNumber_eq, february, monthLengths_eq]
  simp

/-- The last day of February has 306 days between itself and New Year. -/
theorem dayNumber_of_last_of_february (february : d.month = 2)
    (last : d.day = daysInMonth d.year 2) : d.dayNumber + 307 = daysBeforeYear (d.year + 1) := by
  have firstDay := d.isDate.2.2.2.1
  have rest : fromMarch.sum = 306 := rfl
  rw [dayNumber_of_february february, daysBeforeYear_succ, monthLengths_eq, List.sum_cons,
    List.sum_cons]
  omega

theorem dayNumber_of_march {i : Nat} (march : d.month = i + 3) :
    d.dayNumber + 306 =
      daysBeforeYear (d.year + 1) + ((fromMarch.take i).sum + (d.day - 1) : Nat) := by
  have rest : fromMarch.sum = 306 := rfl
  rw [dayNumber_eq, daysBeforeYear_succ, march, monthLengths_eq]
  simp only [Nat.reduceSubDiff, List.take_succ_cons, List.sum_cons]
  omega

/-- All anniversaries of a date are equally far from a New Year: from the one before them up to
28 February, and from the one after them from 29 February on. -/
theorem exists_dayNumber_of_anniversary (d : Date) :
    ∃ next offset : Int, ∀ {year e}, d.Anniversary year e →
      e.dayNumber = daysBeforeYear (year + next) + offset := by
  obtain january | february | ⟨i, march⟩ : d.month = 1 ∨ d.month = 2 ∨ ∃ i, d.month = i + 3 := by
    have firstMonth := d.isDate.2.1
    match h : d.month with
    | 0 => omega
    | 1 => exact .inl rfl
    | 2 => exact .inr (.inl rfl)
    | i + 3 => exact .inr (.inr ⟨i, rfl⟩)
  · refine ⟨0, (d.day - 1 : Nat), fun {year e} h => ?_⟩
    obtain ⟨rfl, month, day⟩ := h
    rw [if_neg (by omega)] at day
    rw [dayNumber_of_january (month.trans january), day, Int.add_zero]
  · by_cases early : d.day ≤ 28
    · refine ⟨0, (31 + (d.day - 1) : Nat), fun {year e} h => ?_⟩
      obtain ⟨rfl, month, day⟩ := h
      rw [if_neg (by omega)] at day
      rw [dayNumber_of_february (month.trans february), day, Int.add_zero]
    · -- 29 February and 28 February of a common year are both the last day of February
      refine ⟨1, -307, fun {year e} h => ?_⟩
      obtain ⟨rfl, month, day⟩ := h
      have last : e.day = daysInMonth e.year 2 := by
        have within := d.isDate.2.2.2.2
        rw [february, daysInMonth_two] at within
        rw [daysInMonth_two]
        grind
      have := dayNumber_of_last_of_february (month.trans february) last
      omega
  · refine ⟨1, ((fromMarch.take i).sum + (d.day - 1) : Nat) - 306, fun {year e} h => ?_⟩
    obtain ⟨rfl, month, day⟩ := h
    rw [if_neg (by omega)] at day
    have := dayNumber_of_march (month.trans march)
    rw [day] at this
    omega

/-- New Years are 365 days apart for each year, and one more for at most each fourth. -/
theorem daysBeforeYear_sub {year year' : Int} (le : year ≤ year') :
    365 * (year' - year) ≤ daysBeforeYear year' - daysBeforeYear year ∧
      daysBeforeYear year' - daysBeforeYear year ≤
        365 * (year' - year) + (year' - year + 3) / 4 := by
  unfold daysBeforeYear
  constructor
  · omega
  · omega

/-- So are the anniversaries of a date. -/
theorem Anniversary.apart (h : d.Anniversary year e) (h' : d.Anniversary year' f)
    (le : year ≤ year') :
    365 * (year' - year) ≤ f.dayNumber - e.dayNumber ∧
      f.dayNumber - e.dayNumber ≤ 365 * (year' - year) + (year' - year + 3) / 4 := by
  obtain ⟨next, offset, numbered⟩ := exists_dayNumber_of_anniversary d
  have := daysBeforeYear_sub (show year + next ≤ year' + next by omega)
  rw [numbered h, numbered h']
  rw [Int.add_sub_add_right] at this
  omega

end Date

/-! ## Time since 1970 -/

def Date.epoch : Date := ⟨1970, 1, 1, by decide⟩

namespace DateTime

/-- A moment lies `x` seconds after the start of 1970 in UTC. -/
def SinceEpoch (t : DateTime) (x : ℚ) : Prop :=
  ∃ days : Int, Date.epoch.DaysAway days t.date ∧
    x = 86400 * days + t.time.seconds + t.time.nanosecond / 1000000000 - t.offset.seconds

/-- The seconds since 1970 in UTC, with their fraction. -/
def unixTime (t : DateTime) : ℚ := t.unixSeconds + t.time.nanosecond / 1000000000

theorem sinceEpoch_iff {t : DateTime} {x : ℚ} : t.SinceEpoch x ↔ x = t.unixTime := by
  have number : Date.epoch.dayNumber = epochDay := rfl
  have time : t.unixTime = 86400 * (t.date.dayNumber - epochDay : Int) + t.time.seconds +
      t.time.nanosecond / 1000000000 - t.offset.seconds := by
    unfold unixTime unixSeconds
    push_cast
    ring
  constructor
  · rintro ⟨days, away, rfl⟩
    rw [Date.daysAway_iff, number] at away
    obtain rfl : days = t.date.dayNumber - epochDay := by omega
    exact time.symm
  · rintro rfl
    exact ⟨_, Date.daysAway_iff.mpr (by rw [number]; omega), time⟩

/-- The count of whole seconds is that time rounded down. -/
theorem floor_unixTime (t : DateTime) : ⌊t.unixTime⌋ = t.unixSeconds := by
  have fraction : (t.time.nanosecond : ℚ) / 1000000000 < 1 := by
    have inRange : (t.time.nanosecond : ℚ) < 1000000000 := by exact_mod_cast t.time.inRange.2.2.2
    rwa [div_lt_one (by norm_num)]
  rw [unixTime, Int.floor_intCast_add, Int.floor_eq_zero_iff.mpr ⟨by positivity, fraction⟩,
    Int.add_zero]

end DateTime

/-! ## Expiry -/

namespace Retention

variable {created t t₁ t₂ : DateTime} {d d₁ d₂ days : Int} {base base₁ base₂ : Date}

theorem expiry_eq_ok_iff : expiry created days = .ok t ↔
    ∃ base, created.date.Anniversary (created.date.year + days.tdiv 365) base ∧
      base.DaysAway (days.tmod 365) t.date ∧ t.time = created.time ∧ t.offset = created.offset := by
  have found {date : Date} : expiryDate? created.date days = some date ↔
      ∃ base, created.date.Anniversary (created.date.year + days.tdiv 365) base ∧
        base.DaysAway (days.tmod 365) date := by
    simp only [expiryDate?, daysPerYear, bind, Option.bind_eq_some_iff, Date.inYear?_eq_some_iff,
      Date.addDays?_eq_some_iff]
  unfold expiry
  cases h : expiryDate? created.date days with
  | none =>
    refine iff_of_false (by simp) ?_
    rintro ⟨base, anniversary, away, -⟩
    rw [found.mpr ⟨base, anniversary, away⟩] at h
    cases h
  | some date =>
    obtain ⟨base, anniversary, away⟩ := found.mp h
    constructor
    · intro ok
      cases ok
      exact ⟨base, anniversary, away, rfl, rfl⟩
    · rintro ⟨base', anniversary', away', time, offset⟩
      have also := found.mpr ⟨base', anniversary', away'⟩
      obtain rfl : date = t.date := Option.some.inj (h.symm.trans also)
      cases t
      simp_all

theorem expireAt_eq_ok_iff {s : Int} : expireAt created days = .ok s ↔
    ∃ t x, expiry created days = .ok t ∧ t.SinceEpoch x ∧ s = ⌊x⌋ := by
  unfold expireAt
  cases expiry created days with
  | error e => simp
  | ok t =>
    constructor
    · intro ok
      cases ok
      exact ⟨t, t.unixTime, rfl, DateTime.sinceEpoch_iff.mpr rfl, t.floor_unixTime.symm⟩
    · rintro ⟨t', x, ok, since, rfl⟩
      cases ok
      rw [DateTime.sinceEpoch_iff.mp since, DateTime.floor_unixTime]

/-- **The expiry by the calendar.** The whole years of a retention lead to an anniversary of the
date of creation, and the days left over lead on from there; both numbers are negative if the
retention is. There is one anniversary in each of the supported years. The expiry can be computed
exactly if the year is a supported one and the days from the anniversary lead to a date. Then it is
that date, with the time of day and the offset of the creation, and what is recorded of it are its
seconds since 1970, rounded down. -/
theorem expiry_by_the_calendar (created : DateTime) (days : Int) :
    let year := created.date.year + days.tdiv 365
    let rest := days.tmod 365
    ((∃! base, created.date.Anniversary year base) ↔ InYearRange year) ∧
    ((∃ t, expiry created days = .ok t) ↔ InYearRange year ∧
      ∃ base date, created.date.Anniversary year base ∧ base.DaysAway rest date) ∧
    (∀ t, expiry created days = .ok t ↔ ∃ base, created.date.Anniversary year base ∧
      base.DaysAway rest t.date ∧ t.time = created.time ∧ t.offset = created.offset) ∧
    (∀ s, expireAt created days = .ok s ↔
      ∃ t x, expiry created days = .ok t ∧ t.SinceEpoch x ∧ s = ⌊x⌋) := by
  refine ⟨Date.existsUnique_anniversary_iff, ⟨?_, ?_⟩, fun t => expiry_eq_ok_iff,
    fun s => expireAt_eq_ok_iff⟩
  · rintro ⟨t, ok⟩
    obtain ⟨base, anniversary, away, -⟩ := expiry_eq_ok_iff.mp ok
    exact ⟨anniversary.sameYear ▸ base.isDate.1, base, t.date, anniversary, away⟩
  · rintro ⟨-, base, date, anniversary, away⟩
    exact ⟨⟨date, created.time, created.offset⟩,
      expiry_eq_ok_iff.mpr ⟨base, anniversary, away, rfl, rfl⟩⟩

/-! ## Longer retentions -/

/-- The whole years and the days left over make up the retention, and both have its sign. -/
theorem years_and_rest (d : Int) : 365 * d.tdiv 365 + d.tmod 365 = d ∧
    (0 ≤ d → 0 ≤ d.tmod 365 ∧ d.tmod 365 < 365) ∧ (d ≤ 0 → -365 < d.tmod 365 ∧ d.tmod 365 ≤ 0) := by
  refine ⟨Int.mul_tdiv_add_tmod d 365, fun positive => ?_, fun negative => ?_⟩
  · exact ⟨Int.tmod_nonneg 365 positive, Int.tmod_lt_of_pos d (by decide)⟩
  · have mirrored := Int.tmod_nonneg (a := -d) 365 (by omega)
    rw [Int.neg_tmod] at mirrored
    exact ⟨Int.lt_tmod_of_pos d (by decide), by omega⟩

/-- Raising the retention by some days moves the expiry by at least as many. -/
theorem add_le_of_anniversaries (le : d₁ ≤ d₂)
    (h₁ : created.date.Anniversary (created.date.year + d₁.tdiv 365) base₁)
    (h₂ : created.date.Anniversary (created.date.year + d₂.tdiv 365) base₂) :
    base₁.dayNumber + d₁.tmod 365 + (d₂ - d₁) ≤ base₂.dayNumber + d₂.tmod 365 := by
  have split₁ := years_and_rest d₁
  have split₂ := years_and_rest d₂
  have := h₁.apart h₂ (by omega)
  omega

/-- Between two retentions with an expiry all have one. -/
theorem exists_expiry_between (low : d₁ ≤ d) (high : d ≤ d₂) (ok₁ : expiry created d₁ = .ok t₁)
    (ok₂ : expiry created d₂ = .ok t₂) : ∃ t, expiry created d = .ok t := by
  obtain ⟨base₁, h₁, away₁, -⟩ := expiry_eq_ok_iff.mp ok₁
  obtain ⟨base₂, h₂, away₂, -⟩ := expiry_eq_ok_iff.mp ok₂
  rw [Date.daysAway_iff] at away₁ away₂
  have split := years_and_rest d
  have split₁ := years_and_rest d₁
  have split₂ := years_and_rest d₂
  have inRange : InYearRange (created.date.year + d.tdiv 365) := by
    have first := h₁.sameYear ▸ base₁.isDate.1
    have last := h₂.sameYear ▸ base₂.isDate.1
    unfold InYearRange at first last ⊢
    omega
  obtain ⟨base, h, -⟩ := Date.existsUnique_anniversary_iff.mpr inRange
  have after := add_le_of_anniversaries low h₁ h
  have before := add_le_of_anniversaries high h h₂
  -- the days left over lead away from the anniversary, towards one of the two expiries
  obtain ⟨date, number⟩ : ∃ date : Date, date.dayNumber = base.dayNumber + d.tmod 365 := by
    rcases Int.le_total 0 d with positive | negative
    · exact Date.exists_between (d := base) (e := t₂.date) (by omega) (by omega)
    · exact Date.exists_between (d := t₁.date) (e := base) (by omega) (by omega)
  exact ⟨⟨date, created.time, created.offset⟩,
    expiry_eq_ok_iff.mpr ⟨base, h, Date.daysAway_iff.mpr number, rfl, rfl⟩⟩

theorem unixSeconds_of_expiry (ok : expiry created d = .ok t) :
    ∃ base, created.date.Anniversary (created.date.year + d.tdiv 365) base ∧
      t.unixSeconds = created.unixSeconds +
        86400 * (base.dayNumber + d.tmod 365 - created.date.dayNumber) ∧
      t.time = created.time := by
  obtain ⟨base, h, away, time, offset⟩ := expiry_eq_ok_iff.mp ok
  rw [Date.daysAway_iff] at away
  refine ⟨base, h, ?_, time⟩
  unfold DateTime.unixSeconds
  rw [away, time, offset]
  omega

/-- **Retention is never cut short and grows with the setting.** A retention that is not negative
lasts for a whole number of days, for no fewer than the setting says, and for at most one more for
each fourth of its years, rounded up. Of two retentions with an expiry the longer one expires
strictly later, and every retention between the two has an expiry. -/
theorem longer_retention_expires_later (created : DateTime) :
    (∀ d s, 0 ≤ d → expireAt created d = .ok s →
      86400 ∣ s - ⌊created.unixTime⌋ ∧ 86400 * d ≤ s - ⌊created.unixTime⌋ ∧
      s - ⌊created.unixTime⌋ ≤ 86400 * (d + ⌈(⌊(d : ℚ) / 365⌋ : ℚ) / 4⌉)) ∧
    (∀ d₁ d₂ t₁ t₂, d₁ < d₂ → expiry created d₁ = .ok t₁ → expiry created d₂ = .ok t₂ →
      t₁.unixTime < t₂.unixTime ∧ ∀ d, d₁ < d → d < d₂ → ∃ t, expiry created d = .ok t) := by
  constructor
  · intro d s positive recorded
    obtain ⟨t, x, ok, since, rfl⟩ := expireAt_eq_ok_iff.mp recorded
    obtain ⟨base, h, seconds, -⟩ := unixSeconds_of_expiry ok
    have years : d.tdiv 365 = d / 365 := Int.tdiv_eq_ediv_of_nonneg positive
    have split := years_and_rest d
    have apart := created.date.anniversary_self.apart h (by omega)
    have floor : ⌊(d : ℚ) / 365⌋ = d / 365 := by
      simpa using Rat.floor_intCast_div_natCast d 365
    have ceil : ⌈((d / 365 : Int) : ℚ) / 4⌉ = -(-(d / 365) / 4) := by
      simpa using Rat.ceil_intCast_div_natCast (d / 365) 4
    rw [DateTime.sinceEpoch_iff.mp since, DateTime.floor_unixTime, DateTime.floor_unixTime, seconds,
      floor, ceil]
    refine ⟨⟨_, add_sub_cancel_left _ _⟩, ?_, ?_⟩
    · omega
    · omega
  · intro d₁ d₂ t₁ t₂ lt ok₁ ok₂
    refine ⟨?_, fun d low high => exists_expiry_between low.le high.le ok₁ ok₂⟩
    obtain ⟨base₁, h₁, seconds₁, time₁⟩ := unixSeconds_of_expiry ok₁
    obtain ⟨base₂, h₂, seconds₂, time₂⟩ := unixSeconds_of_expiry ok₂
    have later := add_le_of_anniversaries lt.le h₁ h₂
    have : t₁.unixSeconds < t₂.unixSeconds := by omega
    have : (t₁.unixSeconds : ℚ) < t₂.unixSeconds := by exact_mod_cast this
    unfold DateTime.unixTime
    rw [time₁, time₂]
    linarith

def leapDay : DateTime :=
  ⟨⟨2024, 2, 29, by decide⟩, ⟨12, 30, 15, 500000000, by decide⟩, ⟨7200, by decide⟩⟩

/-- From 29 February, 364 days lead to 27 February and 365 days to the 28th, which is the
anniversary; four years lead to a 29 February again, one day more than the setting says. -/
theorem longer_retention_of_leapDay :
    (expireAt leapDay 1460 = .ok 1835433015 ∧
      86400 ∣ 1835433015 - ⌊leapDay.unixTime⌋ ∧ 86400 * 1460 ≤ 1835433015 - ⌊leapDay.unixTime⌋ ∧
      1835433015 - ⌊leapDay.unixTime⌋ ≤ 86400 * (1460 + ⌈(⌊((1460 : Int) : ℚ) / 365⌋ : ℚ) / 4⌉)) ∧
    ∃ t₁ t₂, expiry leapDay 364 = .ok t₁ ∧ expiry leapDay 366 = .ok t₂ ∧
      t₁.unixTime < t₂.unixTime ∧ ∃ t, expiry leapDay 365 = .ok t := by
  have recorded : expireAt leapDay 1460 = .ok 1835433015 := by decide +kernel
  have ok₁ : expiry leapDay 364 = .ok { leapDay with date := ⟨2025, 2, 27, by decide⟩ } := by
    decide +kernel
  have ok₂ : expiry leapDay 366 = .ok { leapDay with date := ⟨2025, 3, 1, by decide⟩ } := by
    decide +kernel
  obtain ⟨kept, grows⟩ := longer_retention_expires_later leapDay
  obtain ⟨later, between⟩ := grows 364 366 _ _ (by decide) ok₁ ok₂
  exact ⟨⟨recorded, kept 1460 _ (by decide) recorded⟩, _, _, ok₁, ok₂, later,
    between 365 (by decide) (by decide)⟩

end Retention

end RemediationLedger
