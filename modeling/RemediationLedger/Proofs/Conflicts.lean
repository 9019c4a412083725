/-
What the reasons of a cancelled transaction mean, for reports of any length.

The two classifiers ask the same three questions in different orders: whether
the finding's write failed its condition, whether the record's did, and whether
any reason is foreign. `StoreError.Reports` says of an error what one of its
reasons is, at a place that need not exist, and the classifiers are put in terms
of it (`afterUpdateUpdate_eq`, `afterCreateHistory_eq`), so that the order of
the questions can be read off and nothing else is left to decide.

After the first stage a finding that is missing outweighs a foreign reason; the
update ends there anyway. Whatever an update goes on with was reported without a
foreign reason: a transaction with one is the last call of its update
(`Conversation.last_of_foreign`).

* The lemmas in the middle (`afterUpdateUpdate_eq_findingMissing_iff` and the
  ones like it) say of each classifier and each kind of conflict when that is
  what comes out. The two kinds that a stage cannot meet are excluded rather
  than left out.
* `conflict_by_reasons` collects them for an error of any kind. A list of
  reasons may be shorter or longer than the transaction: a place that does not
  exist has no reason, and what stands behind the second place counts only if it
  is foreign.

That a foreign reason ends an update is no statement about the classifiers but
about the automaton of the protocol: `Transition.ended_of_foreign` looks at one
step, and `Conversation.last_of_foreign` goes by induction on the conversation
with a store that may reply anything.
-/
import RemediationLedger.Proofs.Discipline

namespace RemediationLedger

namespace StoreError

def Reports (e : StoreError) (place : Nat) (reason : CancellationReason) : Prop :=
  ∃ reasons, e = .transactionCanceled reasons ∧ reasons[place]? = some reason

/-- Some write of a cancelled transaction has a reason from outside the protocol. -/
def ReportsForeign (e : StoreError) : Prop := ∃ place code, e.Reports place (.other code)

variable {e : StoreError} {place : Nat} {reason : CancellationReason}

theorem reports_transactionCanceled {reasons : List CancellationReason} :
    (transactionCanceled reasons).Reports place reason ↔ reasons[place]? = some reason := by
  simp [Reports]

theorem not_reports_of_reasons?_eq_none (other : e.reasons? = none) : ¬e.Reports place reason := by
  rintro ⟨reasons, rfl, -⟩
  cases other

theorem conditionFailedAt_iff :
    e.conditionFailedAt place = true ↔ e.Reports place .conditionFailed := by
  cases e with
  | transactionCanceled reasons =>
    rw [reports_transactionCanceled, conditionFailedAt, reasons?, Option.any_eq_true]
    constructor
    · rintro ⟨reason, here, failed⟩
      cases reason with
      | conditionFailed => exact here
      | notAtFault => cases failed
      | other code => cases failed
    · intro here
      exact ⟨_, here, rfl⟩
  | conditionFailed | tableNotFound | invalidRequest | backend =>
    exact iff_of_false Bool.false_ne_true (not_reports_of_reasons?_eq_none rfl)

theorem any_isForeign_iff {reasons : List CancellationReason} :
    reasons.any CancellationReason.isForeign = true ↔
      (transactionCanceled reasons).ReportsForeign := by
  simp only [ReportsForeign, reports_transactionCanceled]
  rw [List.any_eq_true]
  constructor
  · rintro ⟨reason, member, foreign⟩
    obtain ⟨place, here⟩ := List.mem_iff_getElem?.mp member
    cases reason with
    | other code => exact ⟨place, code, here⟩
    | notAtFault => cases foreign
    | conditionFailed => cases foreign
  · rintro ⟨place, code, here⟩
    exact ⟨_, List.mem_of_getElem? here, rfl⟩

end StoreError

namespace Conflict

open StoreError

variable {e : StoreError}

open Classical in
/-- After the first stage the finding's row is asked about first. -/
theorem afterUpdateUpdate_eq (e : StoreError) :
    afterUpdateUpdate e =
      if e.Reports 0 .conditionFailed then .findingMissing
      else if e.ReportsForeign then .otherFault
      else if e.Reports 1 .conditionFailed then .historyMissing
      else .otherFault := by
  cases e with
  | transactionCanceled reasons =>
    simp only [afterUpdateUpdate, reasons?, conditionFailedAt_iff, any_isForeign_iff, findingIndex,
      historyIndex]
  | conditionFailed | tableNotFound | invalidRequest | backend =>
    simp [afterUpdateUpdate, reasons?, Reports, ReportsForeign]

open Classical in
/-- After the second stage foreign reasons are asked about first. -/
theorem afterCreateHistory_eq (e : StoreError) :
    afterCreateHistory e =
      if e.ReportsForeign then .otherFault
      else if e.Reports 1 .conditionFailed then .historyAlreadyExists
      else if e.Reports 0 .conditionFailed then .findingMissing
      else .otherFault := by
  cases e with
  | transactionCanceled reasons =>
    simp only [afterCreateHistory, reasons?, conditionFailedAt_iff, any_isForeign_iff, findingIndex,
      historyIndex]
  | conditionFailed | tableNotFound | invalidRequest | backend =>
    simp [afterCreateHistory, reasons?, Reports, ReportsForeign]

/-! ## When each conflict is found -/

theorem afterUpdateUpdate_eq_findingMissing_iff :
    afterUpdateUpdate e = .findingMissing ↔ e.Reports 0 .conditionFailed := by
  rw [afterUpdateUpdate_eq]
  grind

theorem afterUpdateUpdate_eq_historyMissing_iff :
    afterUpdateUpdate e = .historyMissing ↔
      e.Reports 1 .conditionFailed ∧ ¬e.Reports 0 .conditionFailed ∧ ¬e.ReportsForeign := by
  rw [afterUpdateUpdate_eq]
  grind

theorem afterUpdateUpdate_eq_otherFault_iff :
    afterUpdateUpdate e = .otherFault ↔
      ¬e.Reports 0 .conditionFailed ∧ (e.Reports 1 .conditionFailed → e.ReportsForeign) := by
  rw [afterUpdateUpdate_eq]
  grind

/-- The first stage creates no record, so it cannot be outrun. -/
theorem afterUpdateUpdate_ne_historyAlreadyExists :
    afterUpdateUpdate e ≠ .historyAlreadyExists := by
  rw [afterUpdateUpdate_eq]
  grind

theorem afterCreateHistory_eq_historyAlreadyExists_iff :
    afterCreateHistory e = .historyAlreadyExists ↔
      e.Reports 1 .conditionFailed ∧ ¬e.ReportsForeign := by
  rw [afterCreateHistory_eq]
  grind

theorem afterCreateHistory_eq_findingMissing_iff :
    afterCreateHistory e = .findingMissing ↔
      e.Reports 0 .conditionFailed ∧ ¬e.Reports 1 .conditionFailed ∧ ¬e.ReportsForeign := by
  rw [afterCreateHistory_eq]
  grind

theorem afterCreateHistory_eq_otherFault_iff :
    afterCreateHistory e = .otherFault ↔
      (e.Reports 0 .conditionFailed ∨ e.Reports 1 .conditionFailed → e.ReportsForeign) := by
  rw [afterCreateHistory_eq]
  grind

/-- The second stage creates the record, so it does not miss it. -/
theorem afterCreateHistory_ne_historyMissing : afterCreateHistory e ≠ .historyMissing := by
  rw [afterCreateHistory_eq]
  grind

end Conflict

/-! ## Foreign reasons end an update -/

namespace Coordinator

variable {c : Coordinator} {now : DateTime} {r : Request}

/-- After a foreign reason the automaton has ended. -/
theorem Transition.ended_of_foreign {stage next : Stage} {ws : List Write} {e : StoreError}
    (step : Transition c now r stage (.transact ws) (.error e) next) (foreign : e.ReportsForeign) :
    ∃ result, next = .ended result := by
  cases step with
  | findingMissing | pairingFault | creationFault => exact ⟨_, rfl⟩
  | historyMissing conflict =>
    exact absurd foreign (Conflict.afterUpdateUpdate_eq_historyMissing_iff.mp conflict).2.2
  | outrun conflict =>
    rcases conflict with there | missing
    · exact absurd foreign (Conflict.afterCreateHistory_eq_historyAlreadyExists_iff.mp there).2
    · exact absurd foreign (Conflict.afterCreateHistory_eq_findingMissing_iff.mp missing).2.2

/-- A transaction that is cancelled with a foreign reason is the last call. -/
theorem Conversation.last_of_foreign {stage : Stage} {result : Except Failure Outcome}
    {l before after : List Exchange} {ws : List Write} {e : StoreError}
    (h : Conversation c now r stage l result)
    (split : l = before ++ ⟨.transact ws, .error e⟩ :: after) (foreign : e.ReportsForeign) :
    after = [] := by
  induction h generalizing before with
  | ended => simp at split
  | step transition goesOn ih =>
    cases before with
    | cons first before =>
      obtain ⟨-, split⟩ := List.cons.inj split
      exact ih split
    | nil =>
      obtain ⟨here, rfl⟩ := List.cons.inj split
      cases here
      obtain ⟨result, rfl⟩ := transition.ended_of_foreign foreign
      exact goesOn.of_ended.1

end Coordinator

namespace Conflict

/-- **What a refused transaction means.** After the first stage the finding is missing exactly if
the first reason is a failed condition, whatever the others are; the record is missing exactly if
the second one is, the first one is not and none is foreign; anything else is a fault. After the
second stage the record exists already exactly if no reason is foreign and the second one is a
failed condition; the finding is missing exactly if no reason is foreign, the first one is a failed
condition and the second one is not; anything else is a fault. Each stage has a conflict that it
never reports. And whatever a store replies, a transaction that is cancelled with a foreign reason,
at whatever place, is the last call of its update. -/
theorem conflict_by_reasons (e : StoreError) :
    ((afterUpdateUpdate e = .findingMissing ↔ e.Reports 0 .conditionFailed) ∧
      (afterUpdateUpdate e = .historyMissing ↔
        e.Reports 1 .conditionFailed ∧ ¬e.Reports 0 .conditionFailed ∧ ¬e.ReportsForeign) ∧
      (afterUpdateUpdate e = .otherFault ↔
        ¬e.Reports 0 .conditionFailed ∧ (e.Reports 1 .conditionFailed → e.ReportsForeign)) ∧
      afterUpdateUpdate e ≠ .historyAlreadyExists) ∧
    ((afterCreateHistory e = .historyAlreadyExists ↔
        e.Reports 1 .conditionFailed ∧ ¬e.ReportsForeign) ∧
      (afterCreateHistory e = .findingMissing ↔
        e.Reports 0 .conditionFailed ∧ ¬e.Reports 1 .conditionFailed ∧ ¬e.ReportsForeign) ∧
      (afterCreateHistory e = .otherFault ↔
        (e.Reports 0 .conditionFailed ∨ e.Reports 1 .conditionFailed → e.ReportsForeign)) ∧
      afterCreateHistory e ≠ .historyMissing) ∧
    ∀ (c : Coordinator) (now : DateTime) (r : Request) (σ : Type) (b : Backend σ) (s : σ)
      (before after : List Exchange) (ws : List Write),
      (c.apply now r).exchanges b s = before ++ ⟨.transact ws, .error e⟩ :: after →
      e.ReportsForeign → after = [] := by
  refine ⟨⟨afterUpdateUpdate_eq_findingMissing_iff, afterUpdateUpdate_eq_historyMissing_iff,
    afterUpdateUpdate_eq_otherFault_iff, afterUpdateUpdate_ne_historyAlreadyExists⟩,
    ⟨afterCreateHistory_eq_historyAlreadyExists_iff, afterCreateHistory_eq_findingMissing_iff,
      afterCreateHistory_eq_otherFault_iff, afterCreateHistory_ne_historyMissing⟩, ?_⟩
  intro c now r σ b s before after ws split foreign
  exact (Coordinator.conversation_run b (Coordinator.stands_first c now r) s).last_of_foreign
    split foreign

-- A missing finding is final, and outweighs a foreign reason only after the first stage.
example :
    let mixed := StoreError.transactionCanceled [.conditionFailed, .other "ThrottlingError"]
    afterUpdateUpdate mixed = .findingMissing ∧ afterCreateHistory mixed = .otherFault := by
  decide

end Conflict

end RemediationLedger
