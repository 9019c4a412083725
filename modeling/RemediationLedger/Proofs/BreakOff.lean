/-
What breaks off.

The expiry of a record and the record itself start from a moment of creation,
and both can need its form in UTC: the report about an expiry out of range names
the moment so, and a new record is stamped with it. `Ending` lists the ways in
which such a computation can end, and that both end in one of them
(`ending_expiry`, `ending_createFor`) is all that has to be read off the
definitions.

Where the moment has no UTC form, what needs it breaks off, and nothing else
ever does (`breaks_off_only_without_utc_form`). An expiry that can be computed
is spared, since there is nothing to report; a record is not, since it always
needs its stamp.

`breaks_off_only_without_utc_form` is an equivalence for each of the two
computations, so that it says as well when they do not break off: an expiry,
whenever it can be computed or the moment has a UTC form, and a record, whenever
the moment has one. The proofs go from the ending to the equivalence
(`Ending.broke_off_iff`) and not by taking the two functions apart a second
time.

That the case is real at both ends of the calendar is shown by two moments
(`breaks_off_at_either_end`): one in the last half hour of the year 9999 on a
clock behind UTC, and one in the first hours of the year -9999 on a clock ahead
of it. At the first an expiry a year later cannot be had and cannot be reported
either.
-/
import RemediationLedger.Proofs.Updates
import RemediationLedger.Proofs.UtcForms

namespace RemediationLedger

variable {created now : DateTime} {days : Int}

/-- The ways in which a computation from a moment of creation ends: with its result, with the
report that no date lies so many days later, or without a report, for want of a UTC form. -/
inductive Ending (created : DateTime) (days : Int) {α : Type} : Except Failure α → Prop
  | result (a : α) : Ending created days (.ok a)
  | reported {u : DateTime} (form : created.UtcForm u) :
      Ending created days (.error (.reported (.settings (.expiryOutOfRange days u.stampText))))
  | brokeOff (noForm : ¬∃ u, created.UtcForm u) :
      Ending created days (.error (.noUtcForm created))

/-- It breaks off exactly if there is no result and nothing to report it with. -/
theorem Ending.broke_off_iff {α : Type} {outcome : Except Failure α}
    (h : Ending created days outcome) :
    outcome = .error (.noUtcForm created) ↔
      (¬∃ a, outcome = .ok a) ∧ ¬∃ u, created.UtcForm u := by
  cases h with
  | result a => simp
  | reported form => exact iff_of_false (by simp) fun ⟨_, noForm⟩ => noForm ⟨_, form⟩
  | brokeOff noForm => exact iff_of_true rfl ⟨by simp, noForm⟩

namespace Retention

theorem ending_outOfRange (created : DateTime) (days : Int) {α : Type} :
    Ending created days (.error (outOfRange created days) : Except Failure α) := by
  unfold outOfRange
  cases stamped : created.timestamp? with
  | some stamp =>
    obtain ⟨u, form, rfl⟩ := DateTime.timestamp?_eq_some_iff.mp stamped
    exact .reported form
  | none => exact .brokeOff (DateTime.timestamp?_eq_none_iff.mp stamped)

theorem ending_expiry (created : DateTime) (days : Int) :
    Ending created days (expiry created days) := by
  unfold expiry
  split
  · exact .result _
  · exact ending_outOfRange created days

end Retention

namespace History

variable {settings : Settings} {r : Request} {data : Option FindingData}

theorem ending_createFor (settings : Settings) (r : Request) (data : Option FindingData)
    (now : DateTime) : Ending now settings.historyTtlDays (createFor settings r data now) := by
  have expiry := Retention.ending_expiry now settings.historyTtlDays
  unfold createFor Retention.expireAt
  cases expired : Retention.expiry now settings.historyTtlDays with
  | error f =>
    rw [expired] at expiry
    cases expiry with
    | reported form => exact .reported form
    | brokeOff noForm => exact .brokeOff noForm
  | ok moment =>
    cases stamped : now.timestamp? with
    | some stamp => exact .result _
    | none => exact .brokeOff (DateTime.timestamp?_eq_none_iff.mp stamped)

/-- A record that is put together has its stamp. -/
theorem exists_utcForm_of_createFor {record : Put}
    (built : createFor settings r data now = .ok record) : ∃ u, now.UtcForm u := by
  obtain ⟨-, -, -, stamp, -, stamped, -⟩ := Coordinator.createFor_eq_ok built
  obtain ⟨u, form, -⟩ := DateTime.timestamp?_eq_some_iff.mp stamped
  exact ⟨u, form⟩

/-- **Nothing breaks off but for want of a UTC form.** The computation of an expiry gives the moment
of expiry, or reports that it is out of range, or breaks off, and it breaks off exactly if there is
no expiry and the creation has no UTC form. A new record is put together, or reported to be out of
range, or breaks off, and it breaks off exactly if the creation has no UTC form. The moments with a
UTC form are those from the first to the last one of the supported years in UTC. -/
theorem breaks_off_only_without_utc_form (created : DateTime) (days : Int) (settings : Settings)
    (r : Request) (data : Option FindingData) :
    (Ending created days (Retention.expiry created days) ∧
      (Retention.expiry created days = .error (.noUtcForm created) ↔
        (¬∃ t, Retention.expiry created days = .ok t) ∧ ¬∃ u, created.UtcForm u)) ∧
    (Ending created settings.historyTtlDays (createFor settings r data created) ∧
      (createFor settings r data created = .error (.noUtcForm created) ↔
        ¬∃ u, created.UtcForm u)) ∧
    ((∃ u, created.UtcForm u) ↔ DateTime.earliest.unixTime ≤ created.unixTime ∧
      created.unixTime ≤ DateTime.latest.unixTime) := by
  refine ⟨?expiry, ?record, DateTime.exists_utcForm_iff⟩
  case expiry =>
    have ending := Retention.ending_expiry created days
    exact ⟨ending, ending.broke_off_iff⟩
  case record =>
    have ending := ending_createFor settings r data created
    refine ⟨ending, ending.broke_off_iff.trans ⟨And.right, fun noForm => ⟨?_, noForm⟩⟩⟩
    rintro ⟨record, built⟩
    exact noForm (exists_utcForm_of_createFor built)

def lastHalfHour : DateTime := ⟨.last, ⟨23, 30, 0, 0, by decide⟩, ⟨-3600, by decide⟩⟩

open Coordinator in
/-- In the last half hour no record can be kept for a year, and that cannot be reported on a clock
behind UTC, where it is the year 10000. At the start of the supported years a record could be kept
for a year, but cannot be stamped on a clock ahead of UTC, where it is the year before. -/
theorem breaks_off_at_either_end :
    Retention.expiry lastHalfHour 365 = .error (.noUtcForm lastHalfHour) ∧
      (∃ t, Retention.expiry firstMoment 365 = .ok t) ∧
      createFor pairLedger.settings (pairRequest false) none firstMoment =
        .error (.noUtcForm firstMoment) := by
  have unstamped : firstMoment.timestamp? = none := by decide +kernel
  have expires : Retention.expiry firstMoment 365 =
      .ok { firstMoment with date := ⟨-9998, 1, 1, by decide⟩ } := by decide +kernel
  refine ⟨by decide +kernel, ⟨_, expires⟩, ?_⟩
  unfold createFor Retention.expireAt
  rw [show pairLedger.settings.historyTtlDays = 365 from rfl, expires, unstamped]

end History

end RemediationLedger
