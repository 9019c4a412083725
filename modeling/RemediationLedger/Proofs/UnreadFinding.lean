/-
An update that cannot read its finding.

An update reads once, after it has found the record missing, and takes a failed
reading for a finding that tells nothing. So it is run here twice, on the store
in memory and on one that fails every reading and does all else
(`Store.unreadable`). Before the reading the two runs are the same, and most
updates end there (`unreadable_eq_alone`). Behind it the programs differ in the
data of the finding alone, and read nothing more (`readsNothing_createRecord`):
from there on the second store might as well be the first.

What is left is one transaction that is submitted with two different records.
Its conditions ask only whether rows exist, so it goes through with either, and
the records are those with and without enrichment.

## Statement

`failed_reading_costs_only_enrichment` compares an update on a store with the
same update on that store when all readings fail with some error. The results
are equal. Unless a record was created the stores that are left are equal as
well, the count of write calls included. If one was, the stores differ in that
record alone, and it holds under each name what the poorer record holds there,
and else what the finding passes on.

So a reading that fails costs nothing that the update itself was to write. The
two runs have to be compared and not only the two records, because the reading
comes in the middle: that the transaction behind it goes through in both runs,
or in neither, is part of what is said. Which error the reading fails with makes
no difference to the result; it is in the log.
-/
import RemediationLedger.Proofs.Enrichment
import RemediationLedger.Proofs.Repeated

namespace RemediationLedger

/-! ## Readings that fail -/

def Store.unreadable (e : StoreError) : Backend Store where
  answer
    | .get _ _, s => (.error e, s)
    | .transact writes, s => s.answer (.transact writes)
    | .update u, s => s.answer (.update u)
  note _ s := s

namespace Program

variable {α : Type} {p : Program α}

/-- The program makes no reading, whatever the replies to its calls are. -/
inductive ReadsNothing : Program α → Prop
  | done (result : α) : ReadsNothing (.done result)
  | note (event : Event) {rest : Program α} (later : ReadsNothing rest) :
      ReadsNothing (.note event rest)
  | transact (writes : List Write) {rest : Except StoreError Unit → Program α}
      (later : ∀ reply, ReadsNothing (rest reply)) :
      ReadsNothing (.call (.transact writes) rest)
  | update (u : Update) {rest : Except StoreError Unit → Program α}
      (later : ∀ reply, ReadsNothing (rest reply)) : ReadsNothing (.call (.update u) rest)

/-- A program that reads nothing does not notice that readings fail. -/
theorem ReadsNothing.run_unreadable (h : p.ReadsNothing) (e : StoreError) (s : Store) :
    p.run (Store.unreadable e) s = p.alone s := by
  induction h generalizing s with
  | done result => rfl
  | note event later ih => exact ih s
  | transact writes later ih => exact ih _ _
  | update u later ih => exact ih _ _

end Program

namespace Coordinator

variable {c : Coordinator} {now : DateTime} {r : Request} {s : Store} {e : StoreError}

/-! ## Behind the reading -/

theorem readsNothing_giveUp (r : Request) (tier : Tier) (e : StoreError) :
    (giveUp r tier e).ReadsNothing :=
  .note _ (.done _)

theorem readsNothing_updateFinding (c : Coordinator) (r : Request) :
    (c.updateFinding r).ReadsNothing := by
  refine .update _ fun reply => ?_
  cases reply with
  | ok => exact .note _ (.done _)
  | error e => exact readsNothing_giveUp r _ e

theorem readsNothing_afterCreation (c : Coordinator) (r : Request)
    (reply : Except StoreError Unit) : (c.afterCreation r reply).ReadsNothing := by
  cases reply with
  | ok => exact .note _ (.done _)
  | error e =>
    simp only [afterCreation]
    split
    · exact .note _ (readsNothing_updateFinding c r)
    · exact .note _ (readsNothing_updateFinding c r)
    · exact readsNothing_giveUp r _ e

/-- Once it is known what the finding tells, nothing more is read. -/
theorem readsNothing_createRecord (c : Coordinator) (now : DateTime) (r : Request)
    (data : Option FindingData) : (c.createRecord now r data).ReadsNothing := by
  unfold createRecord
  cases History.createFor c.settings r data now with
  | ok record => exact .transact _ (readsNothing_afterCreation c r)
  | error f =>
    cases f with
    | reported e => exact .note _ (.done _)
    | noUtcForm moment => exact .done _

/-! ## Before the reading -/

theorem run_unreadable_of_valid (valid : r.isValid = true) :
    (c.apply now r).run (Store.unreadable e) s =
      (c.afterPairUpdate now r (s.transact (c.pairUpdate r)).1).run (Store.unreadable e)
        (s.transact (c.pairUpdate r)).2 := by
  rw [apply, if_pos valid]
  rfl

/-- An update gets to the reading only if it is valid, its finding is there and its record is not.
Otherwise it does not notice that readings fail. -/
theorem unreadable_eq_alone (reg : c.Registered s.tables)
    (notFirst : ¬(r.isValid = true ∧ (c.findingRow? s.tables r).isSome ∧
      c.historyRow? s.tables r = none)) :
    (c.apply now r).run (Store.unreadable e) s = (c.apply now r).alone s := by
  by_cases valid : r.isValid = true
  · rw [run_unreadable_of_valid valid, alone_of_valid valid]
    cases reply : (s.transact (c.pairUpdate r)).1 with
    | ok => rfl
    | error refusal =>
      have answered : s.answer (.transact (c.pairUpdate r)) =
          (.error refusal, (s.transact (c.pairUpdate r)).2) := Prod.ext reply rfl
      obtain ⟨missing, conflict⟩ := reg.refused_pairUpdate answered
      have noFinding : ¬(c.findingRow? s.tables r).isSome = true := fun present =>
        notFirst ⟨valid, present, missing present⟩
      rw [if_neg noFinding] at conflict
      simp only [afterPairUpdate, conflict]
      rfl
  · rw [apply, if_neg valid]
    rfl

/-- An update that gets to the reading goes on as if the finding told nothing. -/
theorem unreadable_of_first (reg : c.Registered s.tables) (valid : r.isValid = true)
    (finding : (c.findingRow? s.tables r).isSome) (history : c.historyRow? s.tables r = none) :
    (c.apply now r).run (Store.unreadable e) s =
      (c.createRecord now r none).alone ⟨s.tables, s.writeCalls + 1⟩ := by
  have refused := reg.transact_pairUpdate r
  rw [if_neg (by simp [history])] at refused
  rw [run_unreadable_of_valid valid, Store.transact_of_tables refused, finding, history]
  exact (readsNothing_createRecord c now r none).run_unreadable e _

/-! ## The run without a reading -/

/-- A record that cannot be put together leaves the tables as they are. -/
theorem unreadable_of_unbuilt (reg : c.Registered s.tables) (valid : r.isValid = true)
    (finding : (c.findingRow? s.tables r).isSome) (history : c.historyRow? s.tables r = none)
    {f : Failure} (failed : History.createFor c.settings r none now = .error f) :
    (c.apply now r).run (Store.unreadable e) s = (.error f, ⟨s.tables, s.writeCalls + 1⟩) := by
  rw [unreadable_of_first reg valid finding history, createRecord, failed]
  cases f <;> rfl

/-- A record that can be put together without enrichment is created. -/
theorem unreadable_of_built (reg : c.Registered s.tables) (valid : r.isValid = true)
    {finding : Item} (found : c.findingRow? s.tables r = some finding)
    (history : c.historyRow? s.tables r = none) {bare : Put}
    (plain : History.createFor c.settings r none now = .ok bare) :
    (c.apply now r).run (Store.unreadable e) s =
      (.ok .createdHistory,
        ⟨c.withRows s.tables r (r.onFinding finding) bare.item, s.writeCalls + 2⟩) := by
  have present : (c.findingRow? s.tables r).isSome := by rw [found]; rfl
  rw [unreadable_of_first reg valid present history, ← reg.write_creation valid found plain]
  exact alone_createRecord (s := ⟨s.tables, s.writeCalls + 1⟩) reg present history plain

/-! ## Both runs -/

/-- Only an update that gets to the reading creates a record. -/
theorem first_of_created (reg : c.Registered s.tables)
    (created : ((c.apply now r).alone s).1 = .ok .createdHistory) :
    r.isValid = true ∧ (c.findingRow? s.tables r).isSome ∧ c.historyRow? s.tables r = none := by
  cases valid : r.isValid with
  | false =>
    rw [alone_of_invalid valid] at created
    cases created
  | true =>
    cases finding : c.findingRow? s.tables r with
    | none =>
      rw [alone_of_missing reg valid finding] at created
      cases created
    | some row =>
      have present : (c.findingRow? s.tables r).isSome := by rw [finding]; rfl
      cases history : c.historyRow? s.tables r with
      | none => exact ⟨rfl, rfl, rfl⟩
      | some record =>
        rw [alone_of_both reg valid present (by rw [history]; rfl)] at created
        cases created

/-- **A failed reading costs the enrichment and nothing else.** The store has both tables and nothing
disturbs the update. Whatever error the reading of the finding fails with, the update comes to the
same result, and the stores that are left are the same unless it has created a record. Then the
finding has been updated alike, and the two records differ in what the finding passes on: the
record of the usual run is that of the failing one, filled up with it. -/
theorem failed_reading_costs_only_enrichment (c : Coordinator) (now : DateTime) (r : Request)
    (s : Store) (e : StoreError) (reg : c.Registered s.tables) :
    let usual := (c.apply now r).runOn s
    let failing := (c.apply now r).run (Store.unreadable e) s
    usual.1 = failing.1 ∧
    (usual.1 ≠ .ok .createdHistory → usual.2.store = failing.2) ∧
    (usual.1 = .ok .createdHistory → ∃ finding full bare,
      c.findingRow? s.tables r = some finding ∧
      usual.2.store = ⟨c.withRows s.tables r (r.onFinding finding) full, s.writeCalls + 2⟩ ∧
      failing.2 = ⟨c.withRows s.tables r (r.onFinding finding) bare, s.writeCalls + 2⟩ ∧
      ∀ n, full.get? n = (bare.get? n).or (Finding.passedOn c.settings finding n)) := by
  intro usual failing
  have alone : (usual.1, usual.2.store) = (c.apply now r).alone s := Program.runOn_eq_alone _ _
  by_cases first : r.isValid = true ∧ (c.findingRow? s.tables r).isSome ∧
      c.historyRow? s.tables r = none
  · obtain ⟨valid, present, absent⟩ := first
    obtain ⟨finding, found⟩ := Option.isSome_iff_exists.mp present
    cases plain : History.createFor c.settings r none now with
    | error f =>
      have failed : failing = _ := unreadable_of_unbuilt reg valid present absent plain
      rw [alone_of_unbuilt reg valid present absent (History.createFor_error_congr _ plain)] at alone
      obtain ⟨result, store⟩ := Prod.mk.inj alone
      rw [result, store, failed]
      exact ⟨rfl, fun _ => rfl, fun created => by cases created⟩
    | ok bare =>
      obtain ⟨full, enriched⟩ := History.createFor_ok_congr
        (some (Finding.extract c.settings finding)) plain
      have created : failing = _ := unreadable_of_built reg valid found absent plain
      obtain ⟨result, store⟩ : usual.1 = _ ∧ usual.2.store = _ :=
        runOn_first reg valid found absent enriched
      rw [result, store, created]
      refine ⟨rfl, fun other => absurd rfl other, fun _ => ?_⟩
      exact ⟨finding, full.item, bare.item, found, rfl, rfl,
        History.get?_enriched enriched plain⟩
  · obtain ⟨result, store⟩ := Prod.mk.inj (alone.trans (unreadable_eq_alone reg first).symm)
    refine ⟨result, fun _ => store, fun created => ?_⟩
    have created' : ((c.apply now r).alone s).1 = .ok .createdHistory := by
      rw [← alone]
      exact created
    exact absurd (first_of_created reg created') first

def regionStore : Store where
  tables := .ofList [
    ("findings", ⟨⟨Attribute.findingType, Attribute.findingId⟩,
      .ofList [(⟨"EC2.1", "f1"⟩, .ofList [("region", .text "r1")])]⟩),
    ("history", ⟨⟨Attribute.findingType, Attribute.findingIdExecutionId⟩, .empty⟩)]
  writeCalls := 0

/-- Both runs create the record, and the region is in one of them. -/
theorem failed_reading_costs_the_region :
    let usual := (pairLedger.apply newYear (pairRequest false)).runOn regionStore
    let failing := (pairLedger.apply newYear (pairRequest false)).run
      (Store.unreadable (.backend "unavailable")) regionStore
    usual.1 = .ok .createdHistory ∧ failing.1 = .ok .createdHistory ∧
    ∃ full bare, pairLedger.historyRow? usual.2.store.tables (pairRequest false) = some full ∧
      pairLedger.historyRow? failing.2.tables (pairRequest false) = some bare ∧
      full.get? "region" = some (.text "r1") ∧ bare.get? "region" = none := by
  have reg : pairLedger.Registered regionStore.tables := ⟨by decide +kernel, by decide +kernel⟩
  obtain ⟨same, -, records⟩ := failed_reading_costs_only_enrichment pairLedger newYear
    (pairRequest false) regionStore (.backend "unavailable") reg
  have created : ((pairLedger.apply newYear (pairRequest false)).runOn regionStore).1 =
      .ok .createdHistory := by decide +kernel
  have region : (pairLedger.findingRow? regionStore.tables (pairRequest false)).bind
      (fun finding => Finding.passedOn pairLedger.settings finding "region") =
        some (.text "r1") := by decide +kernel
  have noRegion : (pairLedger.historyRow? ((pairLedger.apply newYear (pairRequest false)).run
      (Store.unreadable (.backend "unavailable")) regionStore).2.tables (pairRequest false)).bind
        (fun bare => bare.get? "region") = none := by decide +kernel
  obtain ⟨finding, full, bare, found, usual, failing, filled⟩ := records created
  rw [failing, historyRow?_withRows reg, Option.bind_some] at noRegion
  rw [found, Option.bind_some] at region
  refine ⟨created, same ▸ created, full, bare, ?_, ?_, ?_, noRegion⟩
  · rw [usual, historyRow?_withRows reg]
  · rw [failing, historyRow?_withRows reg]
  · rw [filled, noRegion, region, Option.none_or]

end Coordinator

end RemediationLedger
