/-
How long a history record is kept.

Retention is given in days but counted in calendar years first: every full 365
days take the record to the same date a year later, and the days that are left
over are added to that. One year of retention therefore ends on the same date a
year later, whether or not a 29 February lies between.

* `expiryDate?` is that rule on dates. It has no result when the years or the
  days lead out of the supported years.
* `expiry` keeps the time of day and the offset of the moment of creation, and
  `expireAt` is its place on the time line, which is what a record stores.
* `outOfRange` is the report for a missing result. It names the moment of
  creation in UTC, and for a moment near the ends of the supported years there
  is no such form: the report itself cannot be made then.

That a longer retention expires later, although years and days are counted
apart, is proved in `Proofs.Expiry`, where also the rule is compared with the
calendar.
-/
import RemediationLedger.Error

namespace RemediationLedger.Retention

def daysPerYear : Int := 365

/-- The date on which a record of date `created` expires, if there is such a date: whole years
on, 29 February going to 28 February where the year has none, then the days left over. -/
def expiryDate? (created : Date) (days : Int) : Option Date := do
  let anniversary ← created.inYear? (created.year + days.tdiv daysPerYear)
  anniversary.addDays? (days.tmod daysPerYear)

/-- What becomes of a retention that leads to no date: the report names the moment of creation in
UTC, and without a UTC form there is no report. -/
def outOfRange (created : DateTime) (days : Int) : Failure :=
  match created.timestamp? with
  | some stamp => .reported (.settings (.expiryOutOfRange days stamp))
  | none => .noUtcForm created

/-- The moment at which a record made at `created` expires, on the same clock. -/
def expiry (created : DateTime) (days : Int) : Except Failure DateTime :=
  match expiryDate? created.date days with
  | some date => .ok { created with date }
  | none => .error (outOfRange created days)

def expireAt (created : DateTime) (days : Int) : Except Failure Int :=
  match expiry created days with
  | .error e => .error e
  | .ok moment => .ok moment.unixSeconds

end RemediationLedger.Retention
