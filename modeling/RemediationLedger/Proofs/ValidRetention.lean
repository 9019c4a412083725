/-
Retentions that have passed the check of the settings.

The check bounds a retention by a hundred years of 365 days. So it leads at most
a hundred years on, and exactly a hundred only with no day left over; up to ten
decades before the end of the supported years there is an expiry for each
(`exists_expiry_of_bounded`), and one year later there is none for the longest
(`no_expiry_of_longest`).

An update asks for an expiry in one place only, where it puts a new record
together. Where that cannot fail, all that is left to fail is the store
(`Transition.ends_by_store`), whichever replies it gives.

## Statement

`validated_retention_never_fails` has three parts. Settings that pass their
check give every creation up to the year 9899 an expiry. With such settings, and
a clock in those years that has a UTC form, an update ends neither with an error
of the settings nor without a report, on any backend whatsoever. And the year
cannot be raised: for the year 9900 there are settings that pass and a moment
without an expiry.

The second part is about every sequence of replies, so it goes through the
conversations of the automaton (`Conversation.ends_by_store`) and not through a
store. A clock without a UTC form has to be excluded there, since no check of
the settings can help it; what becomes of an update with such a clock is said in
`Proofs.BreakOff` and `Proofs.LastWriter`.
-/
import RemediationLedger.Proofs.BreakOff
import RemediationLedger.Proofs.Discipline

namespace RemediationLedger

/-- What the check of the settings makes sure of. -/
theorem Settings.validate_eq_ok_iff {s : Settings} : s.validate = .ok () ↔
    s.findingsTable ≠ "" ∧ s.historyTable ≠ "" ∧
      (0 < s.historyTtlDays ∧ s.historyTtlDays ≤ maxHistoryTtlDays) ∧
      s.scanHelperAttribute ≠ "" := by
  have passed : s.validate = .ok () ↔ s.problems = [] := by
    unfold validate
    split <;> simp_all
  simp only [passed, problems, List.append_eq_nil_iff, ite_eq_right_iff, List.cons_ne_nil,
    imp_false, String.isEmpty_iff, not_or, Int.not_le, Int.not_lt, and_assoc]

namespace Retention

variable {created : DateTime} {days : Int}

/-- A retention of at most a hundred years of 365 days has an expiry up to the year 9899. -/
theorem exists_expiry_of_bounded (early : created.date.year ≤ 9899) (positive : 0 ≤ days)
    (bounded : days ≤ maxHistoryTtlDays) : ∃ t, expiry created days = .ok t := by
  obtain ⟨whole, rest, -⟩ := years_and_rest days
  have rest := rest positive
  unfold maxHistoryTtlDays at bounded
  have inRange : InYearRange (created.date.year + days.tdiv 365) := by
    have first := created.date.isDate.1.1
    unfold InYearRange
    omega
  obtain ⟨base, anniversary, -⟩ :=
    Date.existsUnique_anniversary_iff (d := created.date).mpr inRange
  have year := anniversary.sameYear
  -- a hundred years leave no day over, and fewer years end a whole year before the last date
  have before : base.dayNumber + days.tmod 365 ≤ Date.last.dayNumber := by
    by_cases hundred : days.tdiv 365 = 100
    · have := base.le_last
      omega
    · obtain ⟨-, stop⟩ := Date.yearOfDay_eq_iff.mp base.yearOfDay_dayNumber
      have newYear : Date.daysBeforeYear (base.year + 1) ≤ Date.daysBeforeYear 9999 :=
        Date.daysBeforeYear_strictMono.monotone (by omega)
      have lastYear : Date.daysBeforeYear 9999 + 364 = Date.last.dayNumber := rfl
      omega
  have after := base.first_le
  obtain ⟨date, number⟩ := Date.exists_dayNumber_iff_between.mpr ⟨by omega, before⟩
  exact ⟨⟨date, created.time, created.offset⟩,
    expiry_eq_ok_iff.mpr ⟨base, anniversary, Date.daysAway_iff.mpr number, rfl, rfl⟩⟩

/-- The longest retention has no expiry from the year 9900 on. -/
theorem no_expiry_of_longest (late : 9900 ≤ created.date.year) :
    ¬∃ t, expiry created maxHistoryTtlDays = .ok t := by
  rintro ⟨t, ok⟩
  obtain ⟨base, anniversary, -⟩ := expiry_eq_ok_iff.mp ok
  have year : base.year = created.date.year + 100 := anniversary.sameYear
  have := base.isDate.1.2
  omega

theorem exists_expireAt_iff :
    (∃ moment, expireAt created days = .ok moment) ↔ ∃ t, expiry created days = .ok t := by
  unfold expireAt
  cases expiry created days with
  | error f => simp
  | ok t => simp

end Retention

namespace Coordinator

variable {c : Coordinator} {now : DateTime} {r : Request}

/-- A result that is a success, or else an error of the store. -/
def EndsByStore : Except Failure Outcome → Prop
  | .ok _ => True
  | .error (.reported e) => e.isStoreFault = true
  | .error (.noUtcForm _) => False

theorem Transition.ends_by_store {stage : Stage} {call : Call} {reply : call.Reply}
    {result : Except Failure Outcome}
    (buildable : ∀ data, ∃ record, History.createFor c.settings r data now = .ok record)
    (step : Transition c now r stage call reply (.ended result)) : EndsByStore result := by
  cases step with
  | paired | created | fellBack => exact trivial
  | findingMissing | pairingFault | creationFault | fallbackFault => exact rfl
  | notBuilt failed =>
    obtain ⟨record, built⟩ := buildable _
    rw [built] at failed
    cases failed

theorem Conversation.ends_by_store {stage : Stage} {l : List Exchange}
    {result : Except Failure Outcome}
    (buildable : ∀ data, ∃ record, History.createFor c.settings r data now = .ok record)
    (h : Conversation c now r stage l result)
    (start : ∀ result, stage = .ended result → EndsByStore result) : EndsByStore result := by
  induction h with
  | ended result => exact start result rfl
  | step transition goesOn ih =>
    refine ih fun result ended => ?_
    subst ended
    exact transition.ends_by_store buildable

/-- Whatever a store replies, an update that can put its record together fails by the store only. -/
theorem run_ends_by_store {σ : Type} (b : Backend σ) (s : σ)
    (buildable : ∀ data, ∃ record, History.createFor c.settings r data now = .ok record) :
    EndsByStore ((c.apply now r).run b s).1 := by
  refine (conversation_run b (stands_first c now r) s).ends_by_store buildable ?_
  intro result first
  unfold Stage.first at first
  split at first
  · cases first
  · cases first
    exact trivial

def longestLedger : Coordinator :=
  ⟨{ findingsTable := "findings", historyTable := "history",
     historyTtlDays := maxHistoryTtlDays }, rfl⟩

def newYear9900 : DateTime := { DateTime.earliest with date := ⟨9900, 1, 1, by decide⟩ }

/-- **A retention that has passed the check does not fail.** Up to the year 9899 every record has an
expiry. So an update whose clock shows such a year and has a UTC form neither reports unusable
settings nor breaks off, whatever its store replies. In the year 9900 there are settings that pass
the check and a date without an expiry. -/
theorem validated_retention_never_fails :
    (∀ (settings : Settings) (created : DateTime), settings.validate = .ok () →
      created.date.year ≤ 9899 →
        ∃ moment, Retention.expireAt created settings.historyTtlDays = .ok moment) ∧
    (∀ (settings : Settings) (c : Coordinator) (now : DateTime) (r : Request),
      ofSettings settings = .ok c → now.date.year ≤ 9899 → (∃ u, now.UtcForm u) →
        ∀ (σ : Type) (b : Backend σ) (s : σ),
          (∀ e, ((c.apply now r).run b s).1 ≠ .error (.reported (.settings e))) ∧
            ∀ moment, ((c.apply now r).run b s).1 ≠ .error (.noUtcForm moment)) ∧
    ∃ (settings : Settings) (created : DateTime), settings.validate = .ok () ∧
      created.date.year = 9900 ∧
        ∀ moment, Retention.expireAt created settings.historyTtlDays ≠ .ok moment := by
  have expires : ∀ (settings : Settings) (created : DateTime), settings.validate = .ok () →
      created.date.year ≤ 9899 →
        ∃ moment, Retention.expireAt created settings.historyTtlDays = .ok moment := by
    intro settings created passed early
    obtain ⟨-, -, ⟨positive, bounded⟩, -⟩ := Settings.validate_eq_ok_iff.mp passed
    exact Retention.exists_expireAt_iff.mpr
      (Retention.exists_expiry_of_bounded early positive.le bounded)
  refine ⟨expires, ?_, ?_⟩
  · intro settings c now r _ early form σ b s
    obtain ⟨moment, computed⟩ := expires c.settings now c.usable early
    obtain ⟨u, form⟩ := form
    have stamped : now.timestamp? = some u.stampText :=
      DateTime.timestamp?_eq_some_iff.mpr ⟨u, form, rfl⟩
    have byStore := run_ends_by_store b s (r := r) fun data =>
      createFor_of_ok computed stamped r data
    constructor
    · intro e failed
      rw [failed] at byStore
      cases byStore
    · intro moment failed
      rw [failed] at byStore
      exact byStore
  · refine ⟨longestLedger.settings, newYear9900, longestLedger.usable, rfl, ?_⟩
    intro moment computed
    have late : 9900 ≤ newYear9900.date.year := by decide
    exact Retention.no_expiry_of_longest late
      (Retention.exists_expireAt_iff.mp ⟨moment, computed⟩)

def lastOf9899 : DateTime :=
  { DateTime.latest with
    date := ⟨9899, 12, 31, by decide⟩
    offset := ⟨-93599, by decide⟩ }

/-- The longest retention of all, at the last moment that the year allows. -/
theorem validated_retention_of_lastOf9899 :
    longestLedger.settings.historyTtlDays = 36500 ∧ lastOf9899.date.year = 9899 ∧
      (∃ moment, Retention.expireAt lastOf9899 longestLedger.settings.historyTtlDays =
        .ok moment) ∧
      ∀ e, ((longestLedger.apply lastOf9899 (pairRequest false)).run LoggedStore.backend
        ⟨pairStore, []⟩).1 ≠ .error (.reported (.settings e)) := by
  have form : lastOf9899.UtcForm
      ⟨⟨9900, 1, 2, by decide⟩, ⟨1, 59, 58, 999999999, by decide⟩, .utc⟩ :=
    DateTime.toUtc?_eq_some_iff.mp (by decide +kernel)
  obtain ⟨expires, unfailing, -⟩ := validated_retention_never_fails
  have store := unfailing longestLedger.settings longestLedger lastOf9899 (pairRequest false) rfl
    (by decide) ⟨_, form⟩ _ LoggedStore.backend ⟨pairStore, []⟩
  exact ⟨rfl, rfl, expires _ _ longestLedger.usable (by decide), store.1⟩

end Coordinator

end RemediationLedger
