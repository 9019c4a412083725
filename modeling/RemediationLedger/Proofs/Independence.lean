/-
Updates of different rows do not interfere.

Call by call, two clients whose rows are different do nothing to each other: the
one's call leaves the other's replies as they are, and the two calls come to the
same in either order. `Independent` collects what is needed of a family of
clients for this to carry over to whole programs. Then a turn changes neither
what any client will come to on its own (`Independent.alone_answer`) nor the
store that is left when the clients go on one after another from here
(`Independent.finish_answer`). So every interleaving comes to what any order of
the clients comes to.

That the updates are independent is proved twice. Where both tables are
registered, each update keeps to the two rows of its request. Where they are
not, rows prove nothing, since the settings may give both tables one name; but
there every update is refused by its first call, and refusals commute.

## Statement

`independent_updates_do_not_interfere` takes any store, registered or not, any
family of updates whose rows differ, each with a clock of its own, and any
schedule in which all of them end. Each update comes to the result that it has
when it runs on the initial store alone, and the store that is left is that of
running them one after another, in whichever order. Updates that break off for
want of a UTC form are no exception: breaking off is the result that they have
alone.

The invariant of a schedule speaks of the future: what every client will come to
from here on, and what all of them will leave. A turn moves a piece of the
future into the past without changing either. So nothing has to be said of how
far each client is, and the induction has one case for all stages.
-/
import Mathlib.Data.List.Basic
import RemediationLedger.Proofs.Alone
import RemediationLedger.Proofs.Footprint
import RemediationLedger.Proofs.Provenance

namespace RemediationLedger

variable {ι α : Type}

@[simp] theorem Program.alone_quiet (p : Program α) (s : Store) : p.quiet.alone s = p.alone s := by
  induction p with
  | done result => rfl
  | note event rest ih => exact ih
  | call c cont => rfl

/-- The store that is left when clients run one after another, in the given order. -/
def Program.finishAll (programs : ι → Program α) (order : List ι) (s : Store) : Store :=
  order.foldl (fun s i => ((programs i).alone s).2) s

theorem Program.finishAll_cons (programs : ι → Program α) (i : ι) (order : List ι) (s : Store) :
    finishAll programs (i :: order) s = finishAll programs order ((programs i).alone s).2 := rfl

/-- Programs that agree on the clients that run leave the same store. -/
theorem Program.finishAll_congr {programs programs' : ι → Program α} {order : List ι}
    (same : ∀ i ∈ order, programs' i = programs i) (s : Store) :
    finishAll programs' order s = finishAll programs order s := by
  refine List.foldl_ext _ _ s fun s i hi => ?_
  rw [same i hi]

/-- Clients that have ended leave the store as it is. -/
theorem World.finishAll_of_ended {w : World ι α} {order : List ι}
    (ended : ∀ i ∈ order, (w.result? i).isSome) :
    Program.finishAll w.rest order w.store = w.store := by
  induction order with
  | nil => rfl
  | cons i order ih =>
    obtain ⟨result, hi⟩ := Option.isSome_iff_exists.mp (ended i List.mem_cons_self)
    have done : (w.rest i).quiet = .done result := World.result?_eq_some.mp hi
    rw [Program.finishAll_cons, ← (w.rest i).alone_quiet, done]
    exact ih fun j hj => ended j (List.mem_cons_of_mem i hj)

/-- Clients that do not interfere on the stores where `Holds`: `Own i` are the programs that client
`i` may come to, and a call of one client commutes with those of all others. -/
structure Independent (Holds : Store → Prop) (Own : ι → Program α → Prop) : Prop where
  kept : ∀ {i : ι} {c : Call} {cont : c.Reply → Program α} {s : Store},
    Own i (.call c cont) → Holds s →
      Own i (cont (s.answer c).1).quiet ∧ Holds (s.answer c).2
  commute : ∀ {i j : ι} {a b : Call} {contA : a.Reply → Program α} {contB : b.Reply → Program α}
    {s : Store}, i ≠ j → Own i (.call a contA) → Own j (.call b contB) → Holds s →
      s.Commute a b

namespace Independent

variable {Holds : Store → Prop} {Own : ι → Program α → Prop}

/-- A call of one client and the whole program of another come to the same in either order. -/
theorem alone_answer (ind : Independent Holds Own) {i j : ι} (different : i ≠ j)
    {p : Program α} (own : Own i p.quiet) {b : Call} {cont : b.Reply → Program α}
    (other : Own j (.call b cont)) {s : Store} (holds : Holds s) :
    p.alone (s.answer b).2 = ((p.alone s).1, ((p.alone s).2.answer b).2) ∧
      ((p.alone s).2.answer b).1 = (s.answer b).1 ∧ Holds (p.alone s).2 := by
  induction p generalizing s with
  | done result => exact ⟨rfl, rfl, holds⟩
  | note event rest ih => exact ih own holds
  | call a contA ih =>
    obtain ⟨own', holds'⟩ := ind.kept own holds
    have swap := ind.commute different own other holds
    obtain ⟨same, reply, still⟩ := ih _ own' holds'
    refine ⟨?_, reply.trans swap.right, still⟩
    calc (Program.call a contA).alone (s.answer b).2
        = (contA ((s.answer b).2.answer a).1).alone ((s.answer b).2.answer a).2 := rfl
      _ = (contA (s.answer a).1).alone ((s.answer a).2.answer b).2 := by
          rw [swap.left, swap.store]
      _ = _ := same

variable [DecidableEq ι]

/-- A turn of one of the clients that are still to run does not change the store that they leave. -/
theorem finish_answer (ind : Independent Holds Own) {programs : ι → Program α}
    (own : ∀ i, Own i (programs i).quiet) {i : ι} {c : Call} {cont : c.Reply → Program α}
    (pending : (programs i).quiet = .call c cont) {order : List ι} (nodup : order.Nodup)
    (listed : i ∈ order) {s : Store} (holds : Holds s) {reply : c.Reply}
    (replied : (s.answer c).1 = reply) :
    Program.finishAll (Function.update programs i (cont reply)) order (s.answer c).2 =
      Program.finishAll programs order s := by
  induction order generalizing s with
  | nil => cases listed
  | cons j order ih =>
    obtain ⟨fresh, nodup⟩ := List.nodup_cons.mp nodup
    rw [Program.finishAll_cons, Program.finishAll_cons]
    by_cases here : j = i
    · subst here
      have first : (cont reply).alone (s.answer c).2 = (programs j).alone s := by
        rw [← (programs j).alone_quiet, pending, ← replied]
        rfl
      rw [Function.update_self, first]
      refine Program.finishAll_congr (fun k hk => ?_) _
      have other : k ≠ j := fun same => fresh (same ▸ hk)
      rw [Function.update_of_ne other]
    · have later : i ∈ order := (List.mem_cons.mp listed).resolve_left (Ne.symm here)
      obtain ⟨same, reply', still⟩ := ind.alone_answer here (own j) (pending ▸ own i) holds
      rw [Function.update_of_ne here, same]
      exact ih nodup later still (reply'.trans replied)

/-- Whatever the schedule, each client will come to what it comes to on its own, and together they
leave the store that they leave one after another. -/
theorem run (ind : Independent Holds Own) (s : Store) (programs : ι → Program α)
    (schedule : List ι) (own : ∀ i, Own i (programs i).quiet) (holds : Holds s) :
    let w := (World.opening s programs).run (schedule.map .serve)
    (∀ i, ((w.rest i).alone w.store).1 = ((programs i).alone s).1) ∧
    ∀ order : List ι, order.Nodup → (∀ i ∈ schedule, i ∈ order) →
      Program.finishAll w.rest order w.store = Program.finishAll programs order s := by
  suffices h : ∀ w, w = (World.opening s programs).run (schedule.map .serve) →
      (∀ i, Own i (w.pending i)) ∧ Holds w.store ∧
      (∀ i, ((w.rest i).alone w.store).1 = ((programs i).alone s).1) ∧
      ∀ order : List ι, order.Nodup → (∀ i ∈ schedule, i ∈ order) →
        Program.finishAll w.rest order w.store = Program.finishAll programs order s from
    (h _ rfl).2.2
  rintro w rfl
  refine World.run_induction
    (P := fun w => (∀ i, Own i (w.pending i)) ∧ Holds w.store ∧
      (∀ i, ((w.rest i).alone w.store).1 = ((programs i).alone s).1) ∧
      ∀ order : List ι, order.Nodup → (∀ i ∈ schedule, i ∈ order) →
        Program.finishAll w.rest order w.store = Program.finishAll programs order s)
    ⟨own, holds, fun _ => rfl, fun _ _ _ => rfl⟩ ?_
  rintro w m w' hm ⟨own, holds, results, finish⟩ effect
  obtain ⟨i, scheduled, rfl⟩ := List.mem_map.mp hm
  cases effect with
  | idle => exact ⟨own, holds, results, finish⟩
  | @served _ c cont reply s' pending answered =>
    obtain ⟨rfl, rfl⟩ : reply = (w.store.answer c).1 ∧ s' = (w.store.answer c).2 :=
      ⟨by rw [answered], by rw [answered]⟩
    have here := own i
    rw [pending] at here
    obtain ⟨own', holds'⟩ := ind.kept here holds
    refine ⟨fun j => ?_, holds', fun j => ?_, fun order nodup all => ?_⟩
    · by_cases hj : j = i
      · subst hj
        rw [World.pending_afterTurn_self]
        exact own'
      · rw [World.pending_afterTurn_of_ne w hj]
        exact own j
    · rw [← results j]
      by_cases hj : j = i
      · subst hj
        have ahead : (w.rest j).quiet = .call c cont := pending
        rw [← (w.rest j).alone_quiet, ahead]
        simp [World.afterTurn, Program.alone]
      · obtain ⟨same, -⟩ := ind.alone_answer hj (own j) here holds
        simp [World.afterTurn, hj, same]
    · rw [← finish order nodup all]
      exact ind.finish_answer own pending nodup (all i scheduled) holds rfl

end Independent

namespace Coordinator

variable {c : Coordinator}

/-- Where both tables are registered, updates of different rows are independent. -/
theorem independent_of_registered (c : Coordinator) (now : ι → DateTime) (req : ι → Request)
    (findings : ∀ i j, i ≠ j → (req i).findingSlot ≠ (req j).findingSlot)
    (records : ∀ i j, i ≠ j → (req i).historySlot ≠ (req j).historySlot) :
    Independent (fun s => c.Registered s.tables)
      (fun i p => ∃ stage, Stands c (now i) (req i) stage p) := by
  constructor
  · rintro i call cont s ⟨stage, stands⟩ reg
    obtain ⟨next, -, stands'⟩ := stands.reply (s.answer call).1
    exact ⟨⟨next, stands'⟩, reg.of_names?_eq (s.names?_answer call)⟩
  · rintro i j a b contA contB s different ⟨stageA, standsA⟩ ⟨stageB, standsB⟩ reg
    refine Store.commute_of_apart (fun l ofA ofB => ?_) s
    have ofA := standsA.footprint l ofA
    have ofB := standsB.footprint l ofB
    -- the two tables are not one, so the rows that could be shared are of one kind
    have apart := reg.tables_ne
    simp only [footprintOf, List.mem_cons, List.not_mem_nil, or_false] at ofA ofB
    rcases ofA with rfl | rfl <;> rcases ofB with h | h
    · exact findings i j different (congrArg Prod.snd h)
    · exact apart (congrArg Prod.fst h).symm
    · exact apart (congrArg Prod.fst h)
    · exact records i j different (congrArg Prod.snd h)

/-- Where a table is missing, any updates are independent: none gets past its first call. -/
theorem independent_of_unregistered {t : Tables} (unregistered : ¬c.Registered t)
    (now : ι → DateTime) (req : ι → Request) :
    Independent (fun s => s.tables = t)
      (fun i p => Stands c (now i) (req i) .pairing p ∨ ∃ result, p = .done result) := by
  constructor
  · rintro i call cont s (stands | ⟨result, ended⟩) rfl
    · obtain ⟨next, step, stands'⟩ := stands.reply (s.answer call).1
      obtain ⟨-, same, result, rfl⟩ := unregistered_turn unregistered step rfl
      exact ⟨.inr ⟨result, stands'.of_ended⟩, same⟩
    · cases ended
  · rintro i j a b contA contB s - (standsA | ⟨result, ended⟩) (standsB | ⟨result, ended⟩) rfl
    · cases standsA
      cases standsB
      obtain ⟨e, refusedA, -⟩ := transact_pairUpdate_of_unregistered unregistered (req i)
      obtain ⟨f, refusedB, -⟩ := transact_pairUpdate_of_unregistered unregistered (req j)
      have answerA : ∀ n, Store.answer ⟨s.tables, n⟩ (.transact (c.pairUpdate (req i))) =
          (.error e, ⟨s.tables, n + 1⟩) := fun n =>
            Store.transact_of_tables (s := ⟨s.tables, n⟩) refusedA
      have answerB : ∀ n, Store.answer ⟨s.tables, n⟩ (.transact (c.pairUpdate (req j))) =
          (.error f, ⟨s.tables, n + 1⟩) := fun n =>
            Store.transact_of_tables (s := ⟨s.tables, n⟩) refusedB
      obtain ⟨t, n⟩ := s
      exact ⟨by simp only [answerA, answerB], by simp only [answerA, answerB],
        by simp only [answerA, answerB]⟩
    · cases ended
    · cases ended
    · cases ended

theorem finishAll_eq_applyAll (c : Coordinator) (now : ι → DateTime) (req : ι → Request)
    (order : List ι) (s : Store) :
    Program.finishAll (fun i => c.apply (now i) (req i)) order s =
      c.applyAll s (order.map fun i => (now i, req i)) := by
  induction order generalizing s with
  | nil => rfl
  | cons i order ih =>
    rw [Program.finishAll_cons, List.map_cons, applyAll_cons, Program.runOn_store]
    exact ih _

variable [DecidableEq ι]

/-- Updates of different rows, on any store: each comes to what it comes to on its own, and they
leave the store that they leave one after another. -/
theorem independent_updates_run (c : Coordinator) (now : ι → DateTime) (req : ι → Request)
    (s : Store) (schedule : List ι)
    (findings : ∀ i j, i ≠ j → (req i).findingSlot ≠ (req j).findingSlot)
    (records : ∀ i j, i ≠ j → (req i).historySlot ≠ (req j).historySlot) :
    let programs := fun i => c.apply (now i) (req i)
    let w := (updates c now req s).run (schedule.map .serve)
    (∀ i, ((w.rest i).alone w.store).1 = ((programs i).alone s).1) ∧
    ∀ order : List ι, order.Nodup → (∀ i ∈ schedule, i ∈ order) →
      Program.finishAll w.rest order w.store = Program.finishAll programs order s := by
  by_cases reg : c.Registered s.tables
  · refine (independent_of_registered c now req findings records).run s _ schedule ?_ reg
    intro i
    exact ⟨_, stands_first c (now i) (req i)⟩
  · refine (independent_of_unregistered reg now req).run s _ schedule ?_ rfl
    intro i
    rcases stands_apply c (now i) (req i) with ⟨-, stands⟩ | ⟨-, stands⟩
    · exact .inl stands
    · exact .inr ⟨_, stands.of_ended⟩

/-- **Independent updates do not interfere.** No two of them are of one finding, and no two have one
record. On whatever store they start and in whatever order their calls are made, each ends within
four turns, and with the result that it has when it runs alone on the store of the start. Once all
that had a turn have ended, the store is the one that they leave one after another, in any order:
the tables and the count of write calls. -/
theorem independent_updates_do_not_interfere (c : Coordinator) (now : ι → DateTime)
    (req : ι → Request) (s : Store) (schedule : List ι)
    (findings : ∀ i j, i ≠ j → (req i).findingSlot ≠ (req j).findingSlot)
    (records : ∀ i j, i ≠ j → (req i).historySlot ≠ (req j).historySlot) :
    let w := (updates c now req s).run (schedule.map .serve)
    (∀ i, 4 ≤ schedule.count i → (w.result? i).isSome) ∧
    (∀ i result, w.result? i = some result →
      result = ((c.apply (now i) (req i)).runOn s).1) ∧
    ∀ order : List ι, order.Nodup → (∀ i ∈ schedule, i ∈ order) →
      (∀ i ∈ order, (w.result? i).isSome) →
        w.store = c.applyAll s (order.map fun i => (now i, req i)) := by
  intro w
  obtain ⟨results, finish⟩ := independent_updates_run c now req s schedule findings records
  refine ⟨fun i often => ?_, fun i result ended => ?_, fun order nodup all ended => ?_⟩
  · refine ends_after_four_turns (stands_first c (now i) (req i)) _ ?_
    rw [countP_serve]
    refine Nat.le_trans ?_ often
    unfold Stage.first
    split
    · exact Nat.le_refl 4
    · exact Nat.zero_le 4
  · have done : (w.rest i).quiet = .done result := World.result?_eq_some.mp ended
    rw [Program.runOn_result, ← results i]
    change result = ((w.rest i).alone w.store).1
    rw [← (w.rest i).alone_quiet, done]
    rfl
  · rw [← finishAll_eq_applyAll, ← finish order nodup all]
    exact (World.finishAll_of_ended ended).symm

def strangerRequest (second : Bool) : Request :=
  { pairRequest second with findingId := if second then "f2" else "f1" }

/-- One update creates its record while the other one finds no finding. -/
theorem independent_updates_of_strangers :
    let w := (updates pairLedger (fun _ => newYear) strangerRequest pairStore).run
      ([false, true, false, false].map .serve)
    w.result? false = some ((pairLedger.apply newYear (strangerRequest false)).runOn pairStore).1 ∧
    w.result? true = some (.error (.reported (.findingMissing "EC2.1" "f2"))) ∧
    w.store = pairLedger.applyAll pairStore
      [(newYear, strangerRequest true), (newYear, strangerRequest false)] := by
  intro w
  have findings : ∀ i j, i ≠ j →
      (strangerRequest i).findingSlot ≠ (strangerRequest j).findingSlot := by decide
  have records : ∀ i j, i ≠ j →
      (strangerRequest i).historySlot ≠ (strangerRequest j).historySlot := by decide +kernel
  obtain ⟨-, results, sequential⟩ := independent_updates_do_not_interfere pairLedger
    (fun _ => newYear) strangerRequest pairStore [false, true, false, false] findings records
  have first : w.result? false = some (.ok .createdHistory) := rfl
  have second : w.result? true = some (.error (.reported (.findingMissing "EC2.1" "f2"))) := rfl
  refine ⟨first.trans (congrArg some (results _ _ first)), second, ?_⟩
  refine sequential [true, false] (by decide) (by decide) ?_
  rintro (_ | _) -
  · exact Option.isSome_of_eq_some first
  · exact Option.isSome_of_eq_some second

end Coordinator

end RemediationLedger
