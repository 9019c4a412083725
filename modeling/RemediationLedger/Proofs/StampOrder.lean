/-
The order of the stamps of history records.

A query for the history of findings by time reads rows sorted by the text of
their stamps, so stamps have to be sorted as moments are. In a stamp every part
of the date and of the time of day stands in a column of its own width, filled
up with zeros, the coarsest first. Columns sort as the numbers in them do
(`columns_precedes`), and the parts of a moment in UTC as the moment does, to
the microsecond (`stampFields_lt`). Two clocks that are not in UTC could show
the later moment the earlier time, and before the year 0 the first column has a
sign.

Two different stamps differ before either of them ends. So what stands behind a
stamp, which is a finding's id, has no influence on the order.

What a record holds for the queries by time is another matter (`timeEntry`). The
scan helper can be given the name of that attribute, and settings that do so
pass their check. Then every record holds the same text there, and the records
of no two moments are in any order (`timeEntry_lt_iff`).

`stamps_sort_by_time` speaks of the time line for moments and of bytes for
texts. For two moments with a UTC form from the year 0 on, the stamps are in the
order of the moments, in both directions, and moments within one microsecond
have one stamp. An earlier microsecond also has the smaller text with anything
behind the two stamps, and the records of the two moments follow suit exactly if
the scan helper does not have the attribute's name.
-/
import Mathlib.Data.Rat.Floor
import RemediationLedger.Proofs.ByteOrder
import RemediationLedger.Proofs.Layers
import RemediationLedger.Proofs.UtcForms

namespace RemediationLedger

/-! ## The order of dates -/

namespace Date

variable {d e f : Date}

theorem daysInMonth_le (year : Int) {month : Nat} (last : month ≤ 12) :
    daysInMonth year month ≤ 31 := by
  by_cases february : month = 2
  · rw [february, daysInMonth_two]
    split <;> decide
  · have table : ∀ month ≤ 12, daysInMonth 0 month ≤ 31 := by decide
    rw [daysInMonth_of_ne_two february year 0]
    exact table month last

/-- A date is before another by its year, then by its month, then by its day. -/
def Before (d e : Date) : Prop :=
  d.year < e.year ∨ d.year = e.year ∧ (d.month < e.month ∨ d.month = e.month ∧ d.day < e.day)

theorem Before.trans (h : d.Before e) (h' : e.Before f) : d.Before f := by
  unfold Before at *
  omega

theorem Tomorrow.before (next : d.Tomorrow e) : d.Before e := by
  unfold Before
  cases next <;> omega

theorem DaysLater.same_or_before {n : Nat} (later : d.DaysLater n e) : e = d ∨ d.Before e := by
  induction later with
  | today => exact .inl rfl
  | after _ next ih =>
    obtain rfl | before := ih
    · exact .inr next.before
    · exact .inr (before.trans next.before)

/-- Day numbers sort dates by their parts. -/
theorem before_of_dayNumber_lt (lt : d.dayNumber < e.dayNumber) : d.Before e := by
  have later : d.DaysLater (e.dayNumber - d.dayNumber).toNat e := daysLater_iff.mpr (by omega)
  refine later.same_or_before.resolve_left ?_
  rintro rfl
  exact lt_irrefl _ lt

end Date

/-! ## Columns of digits -/

theorem digitChar_lt {m n : Nat} (lt : m < n) (digit : n < 10) : m.digitChar < n.digitChar := by
  have table : ∀ n < 10, ∀ m < n, m.digitChar < n.digitChar := by decide
  exact table n digit m lt

theorem paddedNat_digit {n : Nat} (digit : n < 10) : paddedNat 1 n = [n.digitChar] := by
  unfold paddedNat zeroPadded
  rw [Nat.toList_repr, Nat.toDigits_eq_if (by decide), if_pos digit]
  rfl

/-- The last digit comes off the end and leaves a column that is narrower by one. -/
theorem paddedNat_succ {width : Nat} (positive : 0 < width) (n : Nat) :
    paddedNat (width + 1) n = paddedNat width (n / 10) ++ [(n % 10).digitChar] := by
  unfold paddedNat zeroPadded
  rw [Nat.toList_repr, Nat.toDigits_eq_if (by decide)]
  by_cases digit : n < 10
  · obtain ⟨width, rfl⟩ := Nat.exists_eq_add_of_lt positive
    rw [if_pos digit, Nat.div_eq_of_lt digit, Nat.mod_eq_of_lt digit]
    simp [List.replicate_succ']
  · rw [if_neg digit, Nat.toList_repr]
    simp

/-- In a column that is wide enough, numbers begin to differ where the smaller one is smaller. -/
theorem paddedNat_precedes {width m n : Nat} (lt : m < n) (fits : n < 10 ^ width) :
    Precedes (paddedNat width m) (paddedNat width n) := by
  induction width generalizing m n with
  | zero => omega
  | succ width ih =>
    rcases Nat.eq_zero_or_pos width with rfl | positive
    · have digit : n < 10 := fits
      rw [paddedNat_digit (lt.trans digit), paddedNat_digit digit]
      exact .head (digitChar_lt lt digit)
    · rw [paddedNat_succ positive, paddedNat_succ positive]
      rw [Nat.pow_succ] at fits
      by_cases front : m / 10 < n / 10
      · exact (ih front (by omega)).append _ _
      · have same : m / 10 = n / 10 := by omega
        rw [same]
        exact Precedes.append_left (.head (digitChar_lt (by omega) (by omega))) _

def columns : List (Nat × Char) → List Nat → List Char
  | (width, mark) :: layout, n :: ns => paddedNat width n ++ mark :: columns layout ns
  | _, _ => []

/-- Each number has a column that is wide enough for it. -/
def Fits (layout : List (Nat × Char)) (ns : List Nat) : Prop :=
  List.Forall₂ (fun column n => n < 10 ^ column.1) layout ns

/-- Columns sort as the numbers in them do, the first ones first. -/
theorem columns_precedes {layout : List (Nat × Char)} {ms ns : List Nat} (fits : Fits layout ms)
    (fits' : Fits layout ns) (lt : ms < ns) :
    Precedes (columns layout ms) (columns layout ns) := by
  induction fits generalizing ns with
  | nil =>
    cases fits'
    exact absurd lt (List.lt_irrefl [])
  | cons _ _ ih =>
    obtain _ | ⟨fit, fits'⟩ := fits'
    rw [columns, columns]
    rcases List.cons_lt_cons_iff.mp lt with first | ⟨rfl, rest⟩
    · exact (paddedNat_precedes first fit).append _ _
    · exact Precedes.append_left (.tail (ih fits' rest)) _

/-! ## Times of day -/

namespace TimeOfDay

def microseconds (t : TimeOfDay) : Nat := 1000000 * t.seconds + t.nanosecond / 1000

theorem microseconds_lt (t : TimeOfDay) : t.microseconds < 86400000000 := by
  have ofDay := t.seconds_lt
  have := t.inRange.2.2.2
  unfold microseconds
  omega

end TimeOfDay

namespace DateTime

variable {t u v : DateTime}

/-! ## Stamps in columns -/

/-- The widths of the columns of a stamp and the marks between them. -/
def stampLayout : List (Nat × Char) :=
  [(4, '-'), (2, '-'), (2, 'T'), (2, ':'), (2, ':'), (2, '.'), (6, 'Z')]

/-- The numbers in the columns of a stamp. -/
def stampFields (t : DateTime) : List Nat :=
  [t.date.year.toNat, t.date.month, t.date.day, t.time.hour, t.time.minute, t.time.second,
    t.time.nanosecond / 1000]

theorem toList_stampText (noSign : 0 ≤ t.date.year) :
    t.stampText.toList = columns stampLayout t.stampFields := by
  obtain ⟨year, hyear⟩ := Int.eq_ofNat_of_zero_le noSign
  have padded : paddedInt 4 t.date.year = paddedNat 4 t.date.year.toNat := by
    rw [hyear]
    rfl
  rw [stampText, String.toList_ofList, padded]
  simp [stampLayout, stampFields, columns]

theorem fits_stampFields (t : DateTime) : Fits stampLayout t.stampFields := by
  obtain ⟨⟨-, lastYear⟩, -, lastMonth, -, lastDay⟩ := t.date.isDate
  have longest := Date.daysInMonth_le t.date.year lastMonth
  obtain ⟨hour, minute, second, nanosecond⟩ := t.time.inRange
  unfold Fits stampLayout stampFields
  simp only [List.forall₂_cons, List.Forall₂.nil, and_true]
  omega

/-! ## The order of moments -/

def unixMicroseconds (t : DateTime) : Int := ⌊1000000 * t.unixTime⌋

theorem unixMicroseconds_eq (t : DateTime) : t.unixMicroseconds = t.unixNanoseconds / 1000 := by
  have scaled : 1000000 * t.unixTime = (t.unixNanoseconds : ℚ) / (1000 : Nat) := by
    rw [unixTime_eq]
    push_cast
    ring
  rw [unixMicroseconds, scaled, Rat.floor_intCast_div_natCast]
  rfl

theorem unixMicroseconds_of_utc (inUtc : u.offset = .utc) :
    u.unixMicroseconds = 86400000000 * (u.date.dayNumber - epochDay) + u.time.microseconds := by
  rw [unixMicroseconds_eq, unixNanoseconds, unixSeconds_of_utc inUtc, TimeOfDay.microseconds]
  omega

theorem UtcForm.unixMicroseconds_eq (h : t.UtcForm u) :
    u.unixMicroseconds = t.unixMicroseconds := by
  rw [unixMicroseconds, h.sameMoment, unixMicroseconds]

/-- In UTC an earlier microsecond has parts that come first. -/
theorem stampFields_lt (inUtc : u.offset = .utc) (inUtc' : v.offset = .utc)
    (noSign : 0 ≤ u.date.year) (lt : u.unixMicroseconds < v.unixMicroseconds) :
    u.stampFields < v.stampFields := by
  rw [unixMicroseconds_of_utc inUtc, unixMicroseconds_of_utc inUtc'] at lt
  simp only [stampFields, List.cons_lt_cons_iff, List.lt_irrefl]
  by_cases sameDay : u.date.dayNumber = v.date.dayNumber
  · -- within a day the parts of the time decide
    have earlier : u.time.microseconds < v.time.microseconds := by omega
    have parts := u.time.inRange
    have parts' := v.time.inRange
    unfold TimeOfDay.microseconds TimeOfDay.seconds at earlier
    rw [Date.dayNumber_injective sameDay]
    omega
  · have ofDay' := v.time.microseconds_lt
    have before := Date.before_of_dayNumber_lt (d := u.date) (e := v.date) (by omega)
    unfold Date.Before at before
    omega

/-- In UTC the microsecond determines the stamp. -/
theorem stampText_congr (inUtc : u.offset = .utc) (inUtc' : v.offset = .utc)
    (same : u.unixMicroseconds = v.unixMicroseconds) : u.stampText = v.stampText := by
  rw [unixMicroseconds_of_utc inUtc, unixMicroseconds_of_utc inUtc'] at same
  have ofDay := u.time.microseconds_lt
  have ofDay' := v.time.microseconds_lt
  have date : u.date = v.date := Date.dayNumber_injective (by omega)
  have time : u.time.microseconds = v.time.microseconds := by omega
  have parts := u.time.inRange
  have parts' := v.time.inRange
  unfold TimeOfDay.microseconds TimeOfDay.seconds at time
  have hour : u.time.hour = v.time.hour := by omega
  have minute : u.time.minute = v.time.minute := by omega
  have second : u.time.second = v.time.second := by omega
  have fraction : u.time.nanosecond / 1000 = v.time.nanosecond / 1000 := by omega
  rw [stampText, stampText, date, hour, minute, second, fraction]

/-- An earlier microsecond has a stamp that comes first, before either stamp ends. -/
theorem stampText_precedes (inUtc : u.offset = .utc) (inUtc' : v.offset = .utc)
    (noSign : 0 ≤ u.date.year) (noSign' : 0 ≤ v.date.year)
    (lt : u.unixMicroseconds < v.unixMicroseconds) :
    Precedes u.stampText.toList v.stampText.toList := by
  rw [toList_stampText noSign, toList_stampText noSign']
  exact columns_precedes u.fits_stampFields v.fits_stampFields
    (stampFields_lt inUtc inUtc' noSign lt)

end DateTime

/-! ## The order of records -/

namespace History

variable {a b u v : DateTime} {settings : Settings} {r : Request} {data : Option FindingData}
  {record : Put} {stamp : String}

/-- What a record holds for the queries by time: its stamp with the finding's id behind it, unless
the scan helper has the attribute's name and takes its place. -/
def timeEntry (settings : Settings) (r : Request) (stamp : String) : String :=
  if settings.scanHelperAttribute = Attribute.lastUpdatedTimeFindingId then settings.scanHelperValue
  else stamp ++ "#" ++ r.findingId

theorem get?_timeEntry (stamped : a.timestamp? = some stamp)
    (built : createFor settings r data a = .ok record) :
    record.item.get? Attribute.lastUpdatedTimeFindingId =
      some (.text (timeEntry settings r stamp)) := by
  obtain ⟨_, expireAt, _, computed, -⟩ := createFor_computed built
  have others : Attribute.lastUpdatedTimeFindingId ∉ [Attribute.findingIdExecutionId,
      Attribute.findingType, Attribute.error, Attribute.expireAt, Attribute.lastUpdatedTime] := by
    decide
  simp only [List.mem_cons, List.not_mem_nil, or_false, not_or] at others
  obtain ⟨key, type, error, expiry, time⟩ := others
  rw [get?_of_createFor stamped computed built, layers]
  simp only [strongest_cons, under, if_neg key, if_neg type, if_neg error, if_neg expiry,
    if_neg time]
  by_cases helper : settings.scanHelperAttribute = Attribute.lastUpdatedTimeFindingId
  · simp [timeEntry, helper]
  · simp [timeEntry, helper, Ne.symm helper]

/-- Where stamps come in an order with anything behind them, the records of the two moments are in
that order exactly if the scan helper leaves the attribute to them. -/
theorem timeEntry_lt_iff {s t : String}
    (behind : ∀ i j : String, utf8 (s ++ "#" ++ i) < utf8 (t ++ "#" ++ j)) (r r' : Request) :
    utf8 (timeEntry settings r s) < utf8 (timeEntry settings r' t) ↔
      settings.scanHelperAttribute ≠ Attribute.lastUpdatedTimeFindingId := by
  unfold timeEntry
  by_cases helper : settings.scanHelperAttribute = Attribute.lastUpdatedTimeFindingId
  · rw [if_pos helper, if_pos helper]
    exact iff_of_false (List.lt_irrefl _) (not_not_intro helper)
  · rw [if_neg helper, if_neg helper]
    exact iff_of_true (behind _ _) helper

/-- **Stamps sort by time.** Of two moments in the years 0 to 9999 of UTC, whatever the clocks that
show them, the bytes of the stamps compare as the microseconds do. The stamp of the earlier
microsecond also comes first with findings' ids behind the two, whichever the findings are. What the
records of two such moments hold for the queries by time sorts in the same way exactly if the scan
helper has another name than that attribute. -/
theorem stamps_sort_by_time (inUtc : a.UtcForm u) (inUtc' : b.UtcForm v)
    (noSign : 0 ≤ u.date.year) (noSign' : 0 ≤ v.date.year) :
    ∃ s t, a.timestamp? = some s ∧ b.timestamp? = some t ∧
      ((utf8 s < utf8 t ↔ a.unixMicroseconds < b.unixMicroseconds) ∧
        (utf8 s = utf8 t ↔ a.unixMicroseconds = b.unixMicroseconds) ∧
        (utf8 t < utf8 s ↔ b.unixMicroseconds < a.unixMicroseconds)) ∧
      (a.unixMicroseconds < b.unixMicroseconds →
        ∀ i j : String, utf8 (s ++ "#" ++ i) < utf8 (t ++ "#" ++ j)) ∧
      ∀ settings r r' data data' record record',
        createFor settings r data a = .ok record →
        createFor settings r' data' b = .ok record' →
          record.item.get? Attribute.lastUpdatedTimeFindingId =
              some (.text (timeEntry settings r s)) ∧
            record'.item.get? Attribute.lastUpdatedTimeFindingId =
              some (.text (timeEntry settings r' t)) ∧
            (a.unixMicroseconds < b.unixMicroseconds →
              (utf8 (timeEntry settings r s) < utf8 (timeEntry settings r' t) ↔
                settings.scanHelperAttribute ≠ Attribute.lastUpdatedTimeFindingId)) := by
  have stamped := DateTime.timestamp?_eq_some_iff.mpr ⟨u, inUtc, rfl⟩
  have stamped' := DateTime.timestamp?_eq_some_iff.mpr ⟨v, inUtc', rfl⟩
  rw [← inUtc.unixMicroseconds_eq, ← inUtc'.unixMicroseconds_eq]
  have before : u.unixMicroseconds < v.unixMicroseconds →
      Precedes u.stampText.toList v.stampText.toList :=
    DateTime.stampText_precedes inUtc.inUtc inUtc'.inUtc noSign noSign'
  have after : v.unixMicroseconds < u.unixMicroseconds →
      Precedes v.stampText.toList u.stampText.toList :=
    DateTime.stampText_precedes inUtc'.inUtc inUtc.inUtc noSign' noSign
  have same : u.unixMicroseconds = v.unixMicroseconds → u.stampText = v.stampText :=
    DateTime.stampText_congr inUtc.inUtc inUtc'.inUtc
  have behind : u.unixMicroseconds < v.unixMicroseconds →
      ∀ i j : String, utf8 (u.stampText ++ "#" ++ i) < utf8 (v.stampText ++ "#" ++ j) := by
    intro lt i j
    apply utf8_lt_of_precedes
    simp only [String.toList_append, List.append_assoc]
    exact (before lt).append _ _
  refine ⟨u.stampText, v.stampText, stamped, stamped', utf8_order before same after, behind, ?_⟩
  intro settings r r' data data' record record' built built'
  exact ⟨get?_timeEntry stamped built, get?_timeEntry stamped' built',
    fun lt => timeEntry_lt_iff (behind lt) r r'⟩

open Coordinator (newYear pairLedger pairRequest createFor_of_ok)

def newYearEast : DateTime :=
  { newYear with
    time := ⟨0, 30, 0, 999, by decide⟩
    offset := ⟨10800, by decide⟩ }

def newYearsEveWest : DateTime :=
  ⟨⟨2023, 12, 31, by decide⟩, ⟨22, 0, 0, 0, by decide⟩, ⟨-7200, by decide⟩⟩

theorem utcForm_newYearEast :
    newYearEast.UtcForm ⟨newYearsEveWest.date, ⟨21, 30, 0, 999, by decide⟩, .utc⟩ :=
  DateTime.toUtc?_eq_some_iff.mp (by decide +kernel)

theorem utcForm_newYearsEveWest : newYearsEveWest.UtcForm newYear :=
  DateTime.toUtc?_eq_some_iff.mp (by decide +kernel)

theorem stamped_newYearEast : newYearEast.timestamp? = some "2023-12-31T21:30:00.000000Z" := by
  decide +kernel

theorem stamped_newYearsEveWest :
    newYearsEveWest.timestamp? = some "2024-01-01T00:00:00.000000Z" := by
  decide +kernel

/-- Around New Year any record that is kept for a year can be put together. -/
theorem built_aroundNewYear (settings : Settings) (year : settings.historyTtlDays = 365)
    (r : Request) (data : Option FindingData) :
    (∃ east, createFor settings r data newYearEast = .ok east) ∧
      ∃ west, createFor settings r data newYearsEveWest = .ok west := by
  have east : Retention.expireAt newYearEast 365 = .ok 1735680600 := by decide +kernel
  have west : Retention.expireAt newYearsEveWest 365 = .ok 1735689600 := by decide +kernel
  rw [← year] at east west
  exact ⟨createFor_of_ok east stamped_newYearEast r data,
    createFor_of_ok west stamped_newYearsEveWest r data⟩

theorem newYearEast_lt_newYearsEveWest :
    newYearEast.unixMicroseconds < newYearsEveWest.unixMicroseconds := by
  rw [DateTime.unixMicroseconds_eq, DateTime.unixMicroseconds_eq]
  decide +kernel

/-- In the east it is New Year already, and yet its stamp is the one that comes first, and so is its
record. -/
theorem stamps_around_newYear :
    newYearEast.UtcForm ⟨newYearsEveWest.date, ⟨21, 30, 0, 999, by decide⟩, .utc⟩ ∧
      newYearsEveWest.UtcForm newYear ∧
      newYearEast.unixMicroseconds < newYearsEveWest.unixMicroseconds ∧
      (∀ i j : String, utf8 ("2023-12-31T21:30:00.000000Z" ++ "#" ++ i) <
        utf8 ("2024-01-01T00:00:00.000000Z" ++ "#" ++ j)) ∧
      ∃ east west x y, createFor pairLedger.settings (pairRequest true) none newYearEast =
          .ok east ∧
        createFor pairLedger.settings (pairRequest false) none newYearsEveWest = .ok west ∧
        east.item.get? Attribute.lastUpdatedTimeFindingId = some (.text x) ∧
        west.item.get? Attribute.lastUpdatedTimeFindingId = some (.text y) ∧
        utf8 x < utf8 y := by
  obtain ⟨s, t, stamped, stamped', -, behind, records⟩ :=
    stamps_sort_by_time utcForm_newYearEast utcForm_newYearsEveWest (by decide) (by decide)
  obtain rfl := Option.some.inj (stamped.symm.trans stamped_newYearEast)
  obtain rfl := Option.some.inj (stamped'.symm.trans stamped_newYearsEveWest)
  have lt := newYearEast_lt_newYearsEveWest
  obtain ⟨⟨east, built⟩, -⟩ := built_aroundNewYear pairLedger.settings rfl (pairRequest true) none
  obtain ⟨-, west, built'⟩ := built_aroundNewYear pairLedger.settings rfl (pairRequest false) none
  obtain ⟨held, held', sorts⟩ := records _ _ _ _ _ _ _ built built'
  exact ⟨utcForm_newYearEast, utcForm_newYearsEveWest, lt, behind lt, east, west, _, _, built,
    built', held, held', (sorts lt).mpr (by decide)⟩

/-- Settings whose scan helper has the name of the attribute for the queries by time. -/
def timeHelperSettings : Settings :=
  { pairLedger.settings with scanHelperAttribute := "lastUpdatedTime#findingId" }

/-- Such settings pass their check, and the record of the earlier moment comes no sooner. -/
theorem scan_helper_displaces_time :
    timeHelperSettings.validate = .ok () ∧
      newYearEast.UtcForm ⟨newYearsEveWest.date, ⟨21, 30, 0, 999, by decide⟩, .utc⟩ ∧
      newYearsEveWest.UtcForm newYear ∧
      newYearEast.unixMicroseconds < newYearsEveWest.unixMicroseconds ∧
      ∃ east west, createFor timeHelperSettings (pairRequest true) none newYearEast = .ok east ∧
        createFor timeHelperSettings (pairRequest false) none newYearsEveWest = .ok west ∧
        east.item.get? Attribute.lastUpdatedTimeFindingId = some (.text "remediation") ∧
        west.item.get? Attribute.lastUpdatedTimeFindingId = some (.text "remediation") ∧
        ¬utf8 "remediation" < utf8 "remediation" := by
  obtain ⟨⟨east, built⟩, -⟩ := built_aroundNewYear timeHelperSettings rfl (pairRequest true) none
  obtain ⟨-, west, built'⟩ := built_aroundNewYear timeHelperSettings rfl (pairRequest false) none
  exact ⟨rfl, utcForm_newYearEast, utcForm_newYearsEveWest, newYearEast_lt_newYearsEveWest, east,
    west, built, built', get?_timeEntry stamped_newYearEast built,
    get?_timeEntry stamped_newYearsEveWest built', List.lt_irrefl _⟩

end History

end RemediationLedger
