/-
What an update may touch.

Among any other clients, and whatever is inserted and removed past them, each
call of an update keeps to the two rows of its request, takes no row away, and
assigns to a row that exists no more than the status, the error and, in a
finding, the execution (`Touches`). The put of the second stage would replace a
whole row, but its condition holds of an empty slot alone, so no row that exists
is ever replaced (`Served.record_after`).

That is a law about one call. `Evolved` carries it through time: over any
stretch in which the history table is left to updates, each of its rows stays
and keeps its other attributes, and each row that was not there at the beginning
comes from a turn that created it. The relation composes, so a run is as good as
a step.

## How the proof goes

1. A single write: an update changes what it assigns (`Update.agreeExcept`), and
   the two updates of the protocol assign what is listed
   (`agreeExcept_findingUpdate`, `agreeExcept_historyUpdate`).
2. A single call: `Stands.touches` goes through the stages of an update. Only
   the creation needs more than the list of assignments, namely that its
   condition was true.
3. A run: `Underway` says that a client stands somewhere in its update, which
   every move keeps (`underway_run`), so each turn of an update is one of step 2
   (`touches_run`).
4. A stretch of a run: `evolved_run` is an induction on the moves behind the
   start of the stretch, with `Evolved.trans` as its step.

`updates_touch_only_their_rows` has the law for each turn and the one for each
stretch. The clients that make no updates are arbitrary programs, and for the
second law they must leave the history table alone; the first law does not ask
even that.
-/
import RemediationLedger.Proofs.Footprint
import RemediationLedger.Proofs.Updates

namespace RemediationLedger

def Attribute.updatedInFinding : List String := [remediationStatus, executionId, error]

def Attribute.updatedInRecord : List String := [remediationStatus, error]

namespace Attribute

theorem notMem_updatedInFinding {name : String} :
    name ∉ updatedInFinding ↔ name ≠ remediationStatus ∧ name ≠ executionId ∧ name ≠ error := by
  simp [updatedInFinding]

theorem notMem_updatedInRecord {name : String} :
    name ∉ updatedInRecord ↔ name ≠ remediationStatus ∧ name ≠ error := by
  simp [updatedInRecord]

end Attribute

/-! ## Rows that agree on most attributes -/

/-- The second row differs from the first in the listed attributes at most. -/
def AgreeExcept (names : List String) (row row' : Item) : Prop :=
  ∀ name, name ∉ names → row'.get? name = row.get? name

theorem AgreeExcept.refl (names : List String) (row : Item) : AgreeExcept names row row :=
  fun _ _ => rfl

theorem AgreeExcept.trans {names : List String} {row row' row'' : Item}
    (h : AgreeExcept names row row') (h' : AgreeExcept names row' row'') :
    AgreeExcept names row row'' :=
  fun name spared => (h' name spared).trans (h name spared)

/-- An update changes what it assigns. -/
theorem Update.agreeExcept {u : Update} {names : List String}
    (spares : ∀ name, name ∉ names → u.assigned? name = none) (row : Item) :
    AgreeExcept names row ((Write.update u).result (some row)) := by
  intro name spared
  rw [Write.result_update_get?, spares name spared, Option.none_or, Option.getD_some]

/-- A move that neither inserts nor removes a row of the table past the clients. -/
def Move.LeavesAlone {ι : Type} (table : String) : Move ι → Prop
  | serve _ => True
  | refuse .. => True
  | insert table' _ _ => table' ≠ table
  | remove table' _ => table' ≠ table

/-- A turn that did not write to a row left it as it was. -/
theorem Turn.Faithful.row?_of_not_wrote {ι : Type} {u : Turn ι} (h : u.Faithful) {table : String}
    {slot : Slot} (spared : u.wrote table slot = false) :
    u.after.row? table slot = u.before.row? table slot := by
  cases committed : u.committed with
  | false => rw [h.unchanged committed]
  | true =>
    rw [h.changed committed]
    refine Tables.row?_foldl_write_of_notMem (fun listed => ?_) _
    obtain ⟨w, hw, here⟩ := List.mem_map.mp listed
    obtain ⟨sameTable, sameSlot⟩ := Prod.mk.inj here
    have wrote : u.wrote table slot = true := by
      rw [Turn.wrote, committed, Bool.true_and, List.any_eq_true]
      exact ⟨w, hw, by simp [sameTable, sameSlot]⟩
    rw [spared] at wrote
    cases wrote

namespace Coordinator

variable {ι : Type} {c : Coordinator} {now : DateTime} {r : Request} {t t' : Tables}

/-! ## One call -/

theorem agreeExcept_findingUpdate (c : Coordinator) (r : Request) (condition : Option Condition)
    (row : Item) :
    AgreeExcept Attribute.updatedInFinding row
      ((Write.update (c.findingUpdate r condition)).result (some row)) := by
  refine Update.agreeExcept (fun name spared => ?_) row
  obtain ⟨status, execution, error⟩ := Attribute.notMem_updatedInFinding.mp spared
  rw [findingUpdate_assigned?, if_neg (Ne.symm error), if_neg (Ne.symm execution),
    if_neg (Ne.symm status)]

theorem agreeExcept_historyUpdate (settings : Settings) (r : Request) (row : Item) :
    AgreeExcept Attribute.updatedInRecord row
      ((Write.update (History.updateFor settings r)).result (some row)) := by
  refine Update.agreeExcept (fun name spared => ?_) row
  obtain ⟨status, error⟩ := Attribute.notMem_updatedInRecord.mp spared
  rw [historyUpdate_assigned?, if_neg (Ne.symm error), if_neg (Ne.symm status)]

/-- What a call of an update may do to the tables. -/
structure Touches (c : Coordinator) (r : Request) (before after : Tables) : Prop where
  stays : ∀ table slot, (before.row? table slot).isSome → (after.row? table slot).isSome
  elsewhere : ∀ table slot, (table, slot) ∉ c.footprintOf r →
    after.row? table slot = before.row? table slot
  finding : ∀ row row', c.findingRow? before r = some row → c.findingRow? after r = some row' →
    AgreeExcept Attribute.updatedInFinding row row'
  record : ∀ row row', c.historyRow? before r = some row → c.historyRow? after r = some row' →
    AgreeExcept Attribute.updatedInRecord row row'

theorem Touches.refl (c : Coordinator) (r : Request) (t : Tables) : Touches c r t t where
  stays _ _ present := present
  elsewhere _ _ _ := rfl
  finding row row' before after := by
    obtain rfl : row = row' := Option.some.inj (before.symm.trans after)
    exact .refl _ _
  record row row' before after := by
    obtain rfl : row = row' := Option.some.inj (before.symm.trans after)
    exact .refl _ _

/-- What a step does to a record that exists. The step that creates one finds none. -/
theorem Served.record_after {stage next : Stage} {call : Call} {reply : call.Reply}
    (step : Served c now r t stage call reply next) (reg : c.Registered t) {slot : Slot}
    {row : Item} (present : t.row? c.settings.historyTable slot = some row) :
    ∃ row', ((call.carriedOut reply).foldl Tables.write t).row? c.settings.historyTable slot =
        some row' ∧ AgreeExcept Attribute.updatedInRecord row row' := by
  cases step with
  | paired =>
    simp only [Call.carriedOut, Call.committed, if_true, Call.writes, reg.historyRow_pairUpdate]
    split
    · rename_i own
      have old : c.historyRow? t r = some row := by rw [historyRow?, ← own, present]
      exact ⟨_, rfl, old ▸ agreeExcept_historyUpdate c.settings r row⟩
    · exact ⟨row, present, .refl _ _⟩
  | created built finding history =>
    simp only [Call.carriedOut, Call.committed, if_true, Call.writes, reg.historyRow_creation built]
    split
    · rename_i own
      rw [historyRow?, ← own, present] at history
      cases history
    · exact ⟨row, present, .refl _ _⟩
  | fellBack =>
    have unchanged := reg.historyRow_findingUpdate r slot
    exact ⟨row, unchanged.trans present, .refl _ _⟩
  | findingMissing | historyMissing | built | notBuilt | outrun =>
    exact ⟨row, by simpa [Call.carriedOut, Call.committed] using present, .refl _ _⟩

/-- What a step does to a finding that exists. -/
theorem Served.finding_after {stage next : Stage} {call : Call} {reply : call.Reply}
    (step : Served c now r t stage call reply next) (reg : c.Registered t) {row : Item}
    (present : c.findingRow? t r = some row) :
    ∃ row', c.findingRow? ((call.carriedOut reply).foldl Tables.write t) r = some row' ∧
      AgreeExcept Attribute.updatedInFinding row row' := by
  rw [findingRow?, step.findingRow_after reg, present]
  split
  · exact ⟨_, rfl, agreeExcept_findingUpdate c r none row⟩
  · exact ⟨row, present, .refl _ _⟩

/-- **Each call of an update touches no more than it may.** -/
theorem Stands.touches {s s' : Store} (reg : c.Registered s.tables) {stage : Stage} {call : Call}
    {cont : call.Reply → Run} (stands : Stands c now r stage (.call call cont))
    {reply : call.Reply} (answered : s.answer call = (reply, s')) :
    Touches c r s.tables s'.tables := by
  obtain ⟨next, transition, -⟩ := stands.reply reply
  have step := served_of_registered reg stands transition answered
  have elsewhere : ∀ table slot, (table, slot) ∉ c.footprintOf r →
      s'.tables.row? table slot = s.tables.row? table slot := by
    intro table slot other
    have unnamed : (table, slot) ∉ call.footprint := fun named => other (stands.footprint _ named)
    have after := Store.row?_answer_of_notMem unnamed s
    rwa [answered] at after
  rw [Store.answer_tables answered] at elsewhere ⊢
  refine ⟨fun table slot present => ?_, elsewhere, fun row row' before after => ?_,
    fun row row' before after => ?_⟩
  · by_cases named : (table, slot) ∈ c.footprintOf r
    · simp only [footprintOf, List.mem_cons, List.not_mem_nil, or_false, Prod.mk.injEq] at named
      rcases named with ⟨rfl, rfl⟩ | ⟨rfl, rfl⟩
      · exact step.finding_stays reg present
      · exact step.record_stays reg present
    · rw [elsewhere table slot named]
      exact present
  · obtain ⟨row'', found, agree⟩ := step.finding_after reg before
    obtain rfl : row'' = row' := Option.some.inj (found.symm.trans after)
    exact agree
  · obtain ⟨row'', found, agree⟩ := step.record_after reg before
    obtain rfl : row'' = row' := Option.some.inj (found.symm.trans after)
    exact agree

/-! ## The history table over time -/

variable {programs : ι → Run}

def Kept (c : Coordinator) (t t' : Tables) : Prop :=
  ∀ slot row, t.row? c.settings.historyTable slot = some row →
    ∃ row', t'.row? c.settings.historyTable slot = some row' ∧
      AgreeExcept Attribute.updatedInRecord row row'

theorem Kept.of_same (same : ∀ slot,
    t'.row? c.settings.historyTable slot = t.row? c.settings.historyTable slot) : Kept c t t' :=
  fun slot row present => ⟨row, (same slot).trans present, .refl _ _⟩

theorem Kept.trans {t'' : Tables} (h : Kept c t t') (h' : Kept c t' t'') : Kept c t t'' := by
  intro slot row present
  obtain ⟨row', present', agree⟩ := h slot row present
  obtain ⟨row'', present'', agree'⟩ := h' slot row' present'
  exact ⟨row'', present'', agree.trans agree'⟩

structure Creates (c : Coordinator) (programs : ι → Run) (u : Turn ι) (slot : Slot) (item : Item) :
    Prop where
  committed : u.committed = true
  transaction : ∃ now r data record, programs u.client = c.apply now r ∧ r.historySlot = slot ∧
    History.createFor c.settings r data now = .ok record ∧
    u.call = .transact (c.creation r record) ∧ record.item = item
  before : u.before.row? c.settings.historyTable slot = none
  after : u.after.row? c.settings.historyTable slot = some item

/-- The history table after some turns: no row is gone, each row has what it had except for its
status and error, and each row that is new was created in one of the turns, with what it has except
for its status and error. -/
structure Evolved (c : Coordinator) (programs : ι → Run) (turns : List (Turn ι)) (t t' : Tables) :
    Prop where
  kept : Kept c t t'
  origin : ∀ slot row, t'.row? c.settings.historyTable slot = some row →
    (t.row? c.settings.historyTable slot).isSome ∨
      ∃ u ∈ turns, ∃ item, Creates c programs u slot item ∧
        AgreeExcept Attribute.updatedInRecord item row

theorem Evolved.of_same (turns : List (Turn ι)) (same : ∀ slot,
    t'.row? c.settings.historyTable slot = t.row? c.settings.historyTable slot) :
    Evolved c programs turns t t' :=
  ⟨.of_same same, fun slot row present => .inl (by rw [← same, present]; rfl)⟩

theorem Evolved.trans {turns turns' : List (Turn ι)} {t'' : Tables}
    (h : Evolved c programs turns t t') (h' : Evolved c programs turns' t' t'') :
    Evolved c programs (turns' ++ turns) t t'' := by
  refine ⟨h.kept.trans h'.kept, fun slot row present => ?_⟩
  rcases h'.origin slot row present with between | ⟨u, hu, item, creates, agree⟩
  · obtain ⟨row', present'⟩ := Option.isSome_iff_exists.mp between
    rcases h.origin slot row' present' with before | ⟨u, hu, item, creates, agree⟩
    · exact .inl before
    · obtain ⟨row'', same, agree'⟩ := h'.kept slot row' present'
      obtain rfl : row'' = row := Option.some.inj (same.symm.trans present)
      exact .inr ⟨u, List.mem_append_right _ hu, item, creates, agree.trans agree'⟩
  · exact .inr ⟨u, List.mem_append_left _ hu, item, creates, agree⟩

/-- What a step of an update does to the history table. -/
theorem Served.evolved {stage next : Stage} {call : Call} {reply : call.Reply} {i : ι}
    (step : Served c now r t stage call reply next) (reg : c.Registered t)
    (update : programs i = c.apply now r) :
    Evolved c programs [⟨i, call, reply, t, (call.carriedOut reply).foldl Tables.write t⟩] t
      ((call.carriedOut reply).foldl Tables.write t) := by
  refine ⟨fun slot row present => step.record_after reg present, fun slot row present => ?_⟩
  by_cases before : (t.row? c.settings.historyTable slot).isSome
  · exact .inl before
  have absent : t.row? c.settings.historyTable slot = none := by simpa using before
  refine .inr ⟨_, List.mem_singleton_self _, row, ?_, .refl _ _⟩
  cases step with
  | paired finding history =>
    simp only [Call.carriedOut, Call.committed, if_true, Call.writes,
      reg.historyRow_pairUpdate] at present
    split at present
    · rename_i own
      rw [historyRow?, ← own, absent] at history
      cases history
    · rw [absent] at present
      cases present
  | @created data record built finding history =>
    have after := reg.historyRow_creation built slot
    by_cases own : slot = r.historySlot
    · rw [if_pos own] at after
      obtain rfl : record.item = row := Option.some.inj (after.symm.trans present)
      exact ⟨rfl, ⟨now, r, data, record, update, own.symm, built, rfl, rfl⟩, absent, after⟩
    · rw [if_neg own, absent] at after
      cases after.symm.trans present
  | fellBack =>
    have unchanged := reg.historyRow_findingUpdate r slot
    simp only [Call.carriedOut, Call.committed, if_true, Call.writes, List.foldl_cons,
      List.foldl_nil] at present
    rw [unchanged, absent] at present
    cases present
  | findingMissing | historyMissing | built | notBuilt | outrun =>
    simp [Call.carriedOut, Call.committed, absent] at present

/-! ## Updates among other clients -/

variable [DecidableEq ι]

/-- A client that makes an update stands somewhere in it. -/
def Underway (c : Coordinator) (programs : ι → Run) (w : World ι (Except Failure Outcome)) : Prop :=
  ∀ i now r, programs i = c.apply now r → ∃ stage, Stands c now r stage (w.pending i)

omit [DecidableEq ι] in
theorem underway_opening (c : Coordinator) (programs : ι → Run) (s : Store) :
    Underway c programs (.opening s programs) := by
  intro i now r update
  rw [World.pending_opening, update]
  exact ⟨_, stands_first c now r⟩

theorem Underway.effect {w w' : World ι (Except Failure Outcome)} {m : Move ι}
    (h : Underway c programs w) (effect : w.Effect m w') : Underway c programs w' := by
  intro i now r update
  obtain ⟨stage, stands⟩ := h i now r update
  obtain ⟨next, stands', -⟩ := callsLeft_effect stands effect
  exact ⟨next, stands'⟩

/-- What is kept of the tables and of the updates in every run. -/
theorem underway_run (c : Coordinator) (s : Store) (programs : ι → Run) (moves : List (Move ι))
    (reg : c.Registered s.tables) {P : World ι (Except Failure Outcome) → Prop}
    (start : P (.opening s programs))
    (kept : ∀ v m v', m ∈ moves → c.Registered v.store.tables → Underway c programs v → P v →
      v.Effect m v' → P v') :
    P ((World.opening s programs).run moves) := by
  suffices h : c.Registered ((World.opening s programs).run moves).store.tables ∧
      Underway c programs ((World.opening s programs).run moves) ∧
      P ((World.opening s programs).run moves) from h.2.2
  refine World.run_induction
    (P := fun w => c.Registered w.store.tables ∧ Underway c programs w ∧ P w)
    ⟨reg, underway_opening c programs s, start⟩ ?_
  rintro v m v' hm ⟨reg, underway, h⟩ effect
  exact ⟨reg.effect effect, underway.effect effect, kept v m v' hm reg underway h effect⟩

/-- Every turn of an update is a call that touches no more than it may, or a refusal. -/
theorem touches_run (c : Coordinator) (s : Store) (programs : ι → Run) (moves : List (Move ι))
    (reg : c.Registered s.tables) :
    ∀ u ∈ ((World.opening s programs).run moves).turns, ∀ now r,
      programs u.client = c.apply now r → Touches c r u.before u.after := by
  refine underway_run c s programs moves reg
    (P := fun w => ∀ u ∈ w.turns, ∀ now r, programs u.client = c.apply now r →
      Touches c r u.before u.after) ?_ ?_
  · intro u hu
    cases hu
  · intro v m v' _ reg underway h effect
    cases effect with
    | idle => exact h
    | @served i call cont reply s' pending answered =>
      intro u hu now r update
      rcases List.mem_cons.mp hu with rfl | hu
      · obtain ⟨stage, stands⟩ := underway i now r update
        rw [pending] at stands
        exact stands.touches reg answered
      · exact h u hu now r update
    | refused =>
      intro u hu now r update
      rcases List.mem_cons.mp hu with rfl | hu
      · exact .refl _ _ _
      · exact h u hu now r update
    | inserted => exact h
    | removed => exact h

def UpdatesOnly (c : Coordinator) (programs : ι → Run) (turns : List (Turn ι)) : Prop :=
  ∀ u ∈ turns, ∀ slot, u.wrote c.settings.historyTable slot = true →
    ∃ now r, programs u.client = c.apply now r

omit [DecidableEq ι] in
/-- A turn takes the history table further if updates alone write to it. -/
theorem Underway.evolved {w : World ι (Except Failure Outcome)} (reg : c.Registered w.store.tables)
    (underway : Underway c programs w) {i : ι} {call : Call} {cont : call.Reply → Run}
    {reply : call.Reply} {s' : Store} (pending : w.pending i = .call call cont)
    (answered : w.store.answer call = (reply, s'))
    (updatesOnly : UpdatesOnly c programs [⟨i, call, reply, w.store.tables, s'.tables⟩]) :
    Evolved c programs [⟨i, call, reply, w.store.tables, s'.tables⟩] w.store.tables s'.tables := by
  by_cases update : ∃ now r, programs i = c.apply now r
  · obtain ⟨now, r, update⟩ := update
    obtain ⟨stage, stands⟩ := underway i now r update
    rw [pending] at stands
    obtain ⟨next, transition, -⟩ := stands.reply reply
    rw [Store.answer_tables answered]
    exact (served_of_registered reg stands transition answered).evolved reg update
  · have faithful : (Turn.mk i call reply w.store.tables s'.tables).Faithful :=
      Store.answer_tables answered
    refine .of_same _ fun slot => faithful.row?_of_not_wrote ?_
    rw [← Bool.not_eq_true]
    exact fun wrote => update (updatesOnly _ (List.mem_singleton_self _) slot wrote)

/-- What a move adds to the turns accounts for what it does to the history table. -/
theorem Underway.evolved_effect {w w' : World ι (Except Failure Outcome)} {m : Move ι}
    (reg : c.Registered w.store.tables) (underway : Underway c programs w)
    (alone : m.LeavesAlone c.settings.historyTable) (effect : w.Effect m w')
    (updatesOnly : UpdatesOnly c programs w'.turns) :
    ∃ new, w'.turns = new ++ w.turns ∧ (∀ u ∈ new, u.after = w'.store.tables) ∧
      Evolved c programs new w.store.tables w'.store.tables := by
  cases effect with
  | idle => exact ⟨[], rfl, by simp, .of_same _ fun slot => rfl⟩
  | @served i call cont reply s' pending answered =>
    refine ⟨[_], rfl, by simp [World.afterTurn], underway.evolved reg pending answered ?_⟩
    intro u hu
    rw [List.mem_singleton] at hu
    exact updatesOnly u (hu ▸ List.mem_cons_self)
  | refused => exact ⟨[_], rfl, by simp [World.afterTurn], .of_same _ fun slot => rfl⟩
  | inserted =>
    refine ⟨[], rfl, by simp, .of_same _ fun slot => ?_⟩
    refine Store.insert_kept (P := fun t => t.row? c.settings.historyTable slot =
      w.store.tables.row? c.settings.historyTable slot) rfl fun sound => ?_
    rw [Tables.row?_setRow (by simp [sound]), if_neg]
    exact fun here => alone here.1.symm
  | removed =>
    refine ⟨[], rfl, by simp, .of_same _ fun slot => ?_⟩
    refine Store.remove_kept (P := fun t => t.row? c.settings.historyTable slot =
      w.store.tables.row? c.settings.historyTable slot) rfl ?_
    rw [Tables.row?_dropRow, if_neg]
    exact fun here => alone here.1.symm

/-- Where updates alone write to the history table, its rows stay from every turn on, and all of
them come from the start or from a turn that created them. -/
theorem evolved_run (c : Coordinator) (s : Store) (programs : ι → Run) (moves : List (Move ι))
    (reg : c.Registered s.tables)
    (alone : ∀ m ∈ moves, m.LeavesAlone c.settings.historyTable) :
    let w := (World.opening s programs).run moves
    UpdatesOnly c programs w.turns →
      (∀ u ∈ w.turns, Kept c u.after w.store.tables) ∧
      Evolved c programs w.turns s.tables w.store.tables := by
  refine underway_run c s programs moves reg
    (P := fun w => UpdatesOnly c programs w.turns →
      (∀ u ∈ w.turns, Kept c u.after w.store.tables) ∧
      Evolved c programs w.turns s.tables w.store.tables) ?_ ?_
  · intro _
    exact ⟨by simp [World.opening], .of_same _ fun slot => rfl⟩
  · intro v m v' hm reg underway h effect updatesOnly
    obtain ⟨new, turns, after, evolved⟩ :=
      underway.evolved_effect reg (alone m hm) effect updatesOnly
    rw [turns] at updatesOnly ⊢
    obtain ⟨kept, soFar⟩ := h fun u hu => updatesOnly u (List.mem_append_right _ hu)
    refine ⟨fun u hu => ?_, soFar.trans evolved⟩
    rcases List.mem_append.mp hu with hu | hu
    · rw [after u hu]
      exact .of_same fun slot => rfl
    · exact (kept u hu).trans evolved.kept

/-- **What an update may touch.** Any clients share a store that has both tables, some of them
updates, and rows may be inserted and removed past all of them. Each turn of an update removes no
row, changes no rows but the two of its request, and assigns to those at most the status, the
error and, in the finding, the execution. So if updates alone write to the history table and nothing
is inserted or removed there, then the rows that a turn leaves in it stay, and what they have
besides a status and an error stays with them; and each row of the table was there at the start or
was created, with what it has besides a status and an error, by the transaction of an update. -/
theorem updates_touch_only_their_rows (c : Coordinator) (s : Store) (programs : ι → Run)
    (moves : List (Move ι)) (reg : c.Registered s.tables) :
    let w := (World.opening s programs).run moves
    (∀ u ∈ w.turns, ∀ now r, programs u.client = c.apply now r →
      Touches c r u.before u.after) ∧
    ((∀ m ∈ moves, m.LeavesAlone c.settings.historyTable) → UpdatesOnly c programs w.turns →
      (∀ u ∈ w.turns, Kept c u.after w.store.tables) ∧
      Evolved c programs w.turns s.tables w.store.tables) :=
  ⟨touches_run c s programs moves reg, evolved_run c s programs moves reg⟩

/-- The first update of a pair creates the record and the second one updates it. Both keep to their
rows, and but for its status and error the record is the one that was created. -/
theorem updates_of_pair_touch_only_their_rows :
    let w := (updates pairLedger (fun _ => newYear) pairRequest pairStore).run
      ([false, false, false, true].map .serve)
    (∀ u ∈ w.turns, Touches pairLedger (pairRequest u.client) u.before u.after) ∧
    ∃ u ∈ w.turns, ∃ item row,
      Creates pairLedger (fun i => pairLedger.apply newYear (pairRequest i)) u
        (pairRequest true).historySlot item ∧
      pairLedger.historyRow? w.store.tables (pairRequest true) = some row ∧
      AgreeExcept Attribute.updatedInRecord item row := by
  intro w
  obtain ⟨touches, history⟩ := updates_touch_only_their_rows pairLedger pairStore
    (fun i => pairLedger.apply newYear (pairRequest i)) ([false, false, false, true].map .serve)
    registered_pairStore
  have alone : ∀ m ∈ [false, false, false, true].map Move.serve,
      m.LeavesAlone pairLedger.settings.historyTable := by
    simp [Move.LeavesAlone]
  obtain ⟨-, evolved⟩ := history alone fun u _ _ _ => ⟨newYear, pairRequest u.client, rfl⟩
  refine ⟨fun u hu => touches u hu _ _ rfl, ?_⟩
  have recorded : (pairLedger.historyRow? w.store.tables (pairRequest true)).isSome := by
    decide +kernel
  obtain ⟨row, present⟩ := Option.isSome_iff_exists.mp recorded
  rcases evolved.origin _ row present with before | ⟨u, hu, item, creates, agree⟩
  · exact absurd before (by decide +kernel)
  · exact ⟨u, hu, item, row, creates, present, agree⟩

end Coordinator

end RemediationLedger
