/-
Local date-times with their offset from UTC, and the form in which they are
written.

The date and the time of day are those on a local clock, and the offset says how
far that clock is ahead of UTC. Only the local date has to lie in the supported
years, so a date-time near either end may have no UTC form; it still has a place
on the time line, counted in seconds since 1970.

* `unixSeconds` is that place and is defined for every date-time. Expiries are
  stored by it.
* `toUtc?` is the same moment on a UTC clock. It fails exactly where the date on
  that clock falls out of the supported years, and `timestamp?` with it.
* `stampText` writes a local clock's reading with microseconds. Years have four
  digits, with a sign in front if they are negative, so that stamps of years
  from 0 on are texts of one length and sort as their moments do
  (`Proofs.StampOrder`).

An offset is less than 26 hours either way, which is more than any time zone
uses. The bound is part of the type, because a UTC form is at most two days away
from the local date only under it. Nanoseconds are kept although stamps have no
room for them: two moments within one microsecond are different moments with one
stamp.
-/
import RemediationLedger.Calendar.Date
import RemediationLedger.Text.Word

namespace RemediationLedger

structure TimeOfDay where
  hour : Nat
  minute : Nat
  second : Nat
  nanosecond : Nat
  inRange : hour < 24 ∧ minute < 60 ∧ second < 60 ∧ nanosecond < 1000000000
  deriving DecidableEq

namespace TimeOfDay

def of? (hour minute second nanosecond : Nat) : Option TimeOfDay :=
  if h : hour < 24 ∧ minute < 60 ∧ second < 60 ∧ nanosecond < 1000000000 then
    some ⟨hour, minute, second, nanosecond, h⟩
  else none

def seconds (t : TimeOfDay) : Nat := 3600 * t.hour + 60 * t.minute + t.second

end TimeOfDay

/-- How far a local clock is ahead of UTC, in seconds; less than 26 hours either way. -/
structure UtcOffset where
  seconds : Int
  inRange : -93600 < seconds ∧ seconds < 93600
  deriving DecidableEq

namespace UtcOffset

def utc : UtcOffset := ⟨0, by decide⟩

def of? (seconds : Int) : Option UtcOffset :=
  if h : -93600 < seconds ∧ seconds < 93600 then some ⟨seconds, h⟩ else none

/-- Hours, minutes and seconds of an offset, all of its sign. -/
def parts (o : UtcOffset) : Int × Int × Int :=
  (o.seconds.tdiv 3600, (o.seconds.tmod 3600).tdiv 60, o.seconds.tmod 60)

end UtcOffset

structure DateTime where
  date : Date
  time : TimeOfDay
  offset : UtcOffset
  deriving DecidableEq

namespace DateTime

/-- The day number of the first of January 1970. -/
def epochDay : Int := 719528

/-- Whole seconds since 1970 in UTC, rounded down. -/
def unixSeconds (t : DateTime) : Int :=
  86400 * (t.date.dayNumber - epochDay) + t.time.seconds - t.offset.seconds

/-- The same moment on a clock in UTC, if its date there is in the supported years. -/
def toUtc? (t : DateTime) : Option DateTime := do
  let seconds := t.unixSeconds
  let date ← Date.ofDayNumber? (seconds / 86400 + epochDay)
  let ofDay := (seconds % 86400).toNat
  let time ← TimeOfDay.of? (ofDay / 3600) (ofDay / 60 % 60) (ofDay % 60) t.time.nanosecond
  return ⟨date, time, .utc⟩

/-- Date and time of day with microseconds, as the local clock shows them, marked as UTC. -/
def stampText (t : DateTime) : String :=
  String.ofList (
    paddedInt 4 t.date.year ++ '-' :: paddedNat 2 t.date.month ++ '-' :: paddedNat 2 t.date.day
      ++ 'T' :: paddedNat 2 t.time.hour ++ ':' :: paddedNat 2 t.time.minute
      ++ ':' :: paddedNat 2 t.time.second
      ++ '.' :: paddedNat 6 (t.time.nanosecond / 1000) ++ ['Z'])

def timestamp? (t : DateTime) : Option String := t.toUtc?.map stampText

end DateTime

end RemediationLedger
