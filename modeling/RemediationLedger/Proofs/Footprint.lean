/-
What a call can reach.

A call names its rows before it meets them, and `Call.footprint` lists them. Its
reply depends on these rows alone (`Store.answer_congr`), it changes no others
(`Store.row?_answer_of_notMem`), and what it leaves in them depends on nothing
else either. So two calls that name different rows come to the same in either
order, replies and the count of write calls included (`Store.commute_of_apart`).
This holds of every store: a call that is refused for its target is refused for
the names of tables and keys, and no call changes those.

An update names the same two rows at all of its stages (`Stands.footprint`).

## How the proof goes

* Tables are their names and their rows (`ext_row?`), so two stores are equal as
  soon as no read tells them apart. Both halves of commuting are therefore about
  single rows: a row that one of the calls names is what that call leaves there,
  and every other row is what it was.
* `AgreeOn` compares two tables on some rows only. Each check that a call makes,
  of its targets and of its conditions, depends on the rows that it names; the
  lemmas from `AgreeOn.write` to `AgreeOn.update` go through the checks in the
  order in which the store makes them.
* `agreeOn_answer_answer` puts the two together: a call does the same to two
  stores that agree on its rows.

An unknown table is no special case. Whether a table is known is part of the
agreement, and a write to an unknown one has no effect (`write_of_unknown`).
-/
import RemediationLedger.Proofs.Registered

namespace RemediationLedger

/-- Where a row is in a store: its table and its slot there. -/
abbrev Location := String × Slot

def Write.location (w : Write) : Location := (w.table, w.key.slot)

def Call.footprint : Call → List Location
  | get table key => [(table, key.slot)]
  | transact writes => writes.map Write.location
  | update u => [(Write.update u).location]

namespace Tables

variable {t t' : Tables} {locations : List Location}

/-- Tables are determined by their names and their rows. -/
theorem ext_row? (names : ∀ table, t'.names? table = t.names? table)
    (rows : ∀ table slot, t'.row? table slot = t.row? table slot) : t' = t := by
  refine KeyMap.ext_get? fun table => ?_
  have sameNames := names table
  have sameRows := rows table
  unfold names? at sameNames
  unfold row? at sameRows
  cases h : t.get? table with
  | none =>
    rw [h] at sameNames
    simpa using sameNames
  | some entry =>
    rw [h] at sameNames sameRows
    obtain ⟨entry', h', named⟩ := Option.map_eq_some_iff.mp sameNames
    rw [h'] at sameRows
    have sameMap : entry'.rows = entry.rows := KeyMap.ext_get? sameRows
    rw [h']
    cases entry
    cases entry'
    simp_all

/-- A write to an unknown table has no effect. -/
theorem write_of_unknown {w : Write} (unknown : t.names? w.table = none) : t.write w = t := by
  have absent : t.get? w.table = none := by simpa [names?] using unknown
  simp [write, setRow, mapRows, absent]

theorem row?_foldl_write_of_notMem {ws : List Write} {table : String} {slot : Slot}
    (other : (table, slot) ∉ ws.map Write.location) (t : Tables) :
    (ws.foldl write t).row? table slot = t.row? table slot := by
  induction ws generalizing t with
  | nil => rfl
  | cons w ws ih =>
    rw [List.map_cons, List.mem_cons, not_or] at other
    rw [List.foldl_cons, ih other.2]
    refine row?_write_of_ne t w fun here => other.1 ?_
    exact Prod.ext here.1 here.2

/-! ## Tables that agree on some rows -/

/-- Tables with the same names and keys, and with the same rows at some locations. -/
structure AgreeOn (locations : List Location) (t t' : Tables) : Prop where
  names : ∀ table, t'.names? table = t.names? table
  rows : ∀ table slot, (table, slot) ∈ locations → t'.row? table slot = t.row? table slot

/-- The same write leaves agreeing tables in agreement. -/
theorem AgreeOn.write (h : AgreeOn locations t t') (w : Write) :
    AgreeOn locations (t.write w) (t'.write w) := by
  refine ⟨fun table => by simp [h.names], fun table slot listed => ?_⟩
  by_cases here : table = w.table ∧ slot = w.key.slot
  · obtain ⟨rfl, rfl⟩ := here
    have old := h.rows _ _ listed
    by_cases known : (t.names? w.table).isSome
    · have known' : (t'.names? w.table).isSome := by rw [h.names]; exact known
      rw [row?_write known, row?_write known', old]
    · have unknown : t.names? w.table = none := by simpa using known
      rw [write_of_unknown unknown, write_of_unknown ((h.names _).trans unknown)]
      exact old
  · rw [row?_write_of_ne _ _ here, row?_write_of_ne _ _ here]
    exact h.rows _ _ listed

theorem AgreeOn.foldl_write (h : AgreeOn locations t t') (ws : List Write) :
    AgreeOn locations (ws.foldl Tables.write t) (ws.foldl Tables.write t') := by
  induction ws generalizing t t' with
  | nil => exact h
  | cons w ws ih => exact ih (h.write w)

theorem checkTarget_congr {table : String} (same : t'.names? table = t.names? table) (key : Key) :
    t'.checkTarget table key = t.checkTarget table key := by
  unfold names? at same
  unfold checkTarget
  cases h : t.get? table with
  | none =>
    rw [h] at same
    rw [Option.map_eq_none_iff.mp same]
  | some entry =>
    rw [h] at same
    obtain ⟨entry', h', named⟩ := Option.map_eq_some_iff.mp same
    rw [h']
    simp only [named]

theorem checkTargets_congr (same : ∀ table, t'.names? table = t.names? table)
    (seen : List Location) (ws : List Write) :
    t'.checkTargets seen ws = t.checkTargets seen ws := by
  induction ws generalizing seen with
  | nil => rfl
  | cons w ws ih => simp only [checkTargets, checkTarget_congr (same _), ih]

theorem AgreeOn.admits {w : Write} (h : AgreeOn locations t t') (listed : w.location ∈ locations) :
    t'.admits w = t.admits w := by
  unfold Tables.admits
  rw [h.rows _ _ listed]

/-- Whether a transaction goes through, and why not, depends on its own rows alone. -/
theorem AgreeOn.transact {ws : List Write} (h : AgreeOn (ws.map Write.location) t t') :
    (t'.transact ws).1 = (t.transact ws).1 := by
  have admitted : ∀ w ∈ ws, t'.admits w = t.admits w := fun w hw =>
    h.admits (List.mem_map_of_mem hw)
  have all : (∀ w ∈ ws, t'.admits w = true) ↔ ∀ w ∈ ws, t.admits w = true :=
    forall₂_congr fun w hw => by rw [admitted w hw]
  have reasons : t'.reasons ws = t.reasons ws :=
    List.map_congr_left fun w hw => by rw [admitted w hw]
  rw [transact_eq, transact_eq, checkTargets_congr h.names, reasons]
  simp only [all]
  split
  · rfl
  · split
    · rfl
    · split <;> rfl

theorem AgreeOn.update {u : Update} (h : AgreeOn [(Write.update u).location] t t') :
    (t'.update u).1 = (t.update u).1 := by
  unfold Tables.update
  rw [checkTarget_congr (h.names _), h.admits List.mem_cons_self]
  split
  · rfl
  · split <;> rfl

end Tables

/-! ## Replies and effects -/

def Call.cost : Call → Nat
  | get .. => 0
  | transact _ => 1
  | update _ => 1

namespace Store

variable {s s' : Store} {locations : List Location}

theorem tables_answer (s : Store) (c : Call) :
    (s.answer c).2.tables = (c.carriedOut (s.answer c).1).foldl Tables.write s.tables :=
  answer_tables rfl

theorem answer_writeCalls (s : Store) (c : Call) :
    (s.answer c).2.writeCalls = s.writeCalls + c.cost := by
  cases c <;> rfl

/-- The reply to a call depends on the rows that the call names. -/
theorem answer_congr {c : Call} (h : Tables.AgreeOn c.footprint s.tables s'.tables) :
    (s'.answer c).1 = (s.answer c).1 := by
  cases c with
  | get table key =>
    have row := h.rows table key.slot List.mem_cons_self
    change s'.tables.get table key = s.tables.get table key
    unfold Tables.get
    rw [Tables.checkTarget_congr (h.names _), row]
  | transact writes => exact h.transact
  | update u => exact h.update

theorem location_of_carriedOut {c : Call} {reply : c.Reply} {w : Write}
    (h : w ∈ c.carriedOut reply) : w.location ∈ c.footprint := by
  unfold Call.carriedOut at h
  split at h
  · cases c with
    | get table key => cases h
    | transact writes => exact List.mem_map_of_mem h
    | update u => exact List.mem_map_of_mem (f := Write.location) h
  · cases h

/-- A call leaves alone the rows that it does not name. -/
theorem row?_answer_of_notMem {c : Call} {table : String} {slot : Slot}
    (other : (table, slot) ∉ c.footprint) (s : Store) :
    (s.answer c).2.tables.row? table slot = s.tables.row? table slot := by
  rw [tables_answer]
  refine Tables.row?_foldl_write_of_notMem (fun listed => other ?_) _
  obtain ⟨w, hw, here⟩ := List.mem_map.mp listed
  rw [← here]
  exact location_of_carriedOut hw

theorem names?_answer (s : Store) (c : Call) (table : String) :
    (s.answer c).2.tables.names? table = s.tables.names? table := by
  rw [tables_answer, Tables.names?_foldl_write]

/-- To locations that a call does not name it has not happened. -/
theorem agreeOn_answer {c : Call} (apart : ∀ p ∈ locations, p ∉ c.footprint) (s : Store) :
    Tables.AgreeOn locations s.tables (s.answer c).2.tables :=
  ⟨s.names?_answer c, fun _ _ listed => row?_answer_of_notMem (apart _ listed) s⟩

/-- Stores that agree on the rows of a call agree on them after it. -/
theorem agreeOn_answer_answer {c : Call} (h : Tables.AgreeOn c.footprint s.tables s'.tables) :
    Tables.AgreeOn c.footprint (s.answer c).2.tables (s'.answer c).2.tables := by
  rw [tables_answer, tables_answer, answer_congr h]
  exact h.foldl_write _

/-! ## Calls in either order -/

/-- Two calls come to the same in either order: both get the same reply whether they are first or
second, and the same store is left. -/
structure Commute (s : Store) (a b : Call) : Prop where
  left : ((s.answer b).2.answer a).1 = (s.answer a).1
  right : ((s.answer a).2.answer b).1 = (s.answer b).1
  store : ((s.answer a).2.answer b).2 = ((s.answer b).2.answer a).2

/-- **Calls that name different rows commute**, on every store. -/
theorem commute_of_apart {a b : Call} (apart : ∀ p ∈ a.footprint, p ∉ b.footprint) (s : Store) :
    s.Commute a b := by
  have apart' : ∀ p ∈ b.footprint, p ∉ a.footprint := fun p hb ha => apart p ha hb
  have afterB := agreeOn_answer apart s
  have afterA := agreeOn_answer apart' s
  have tables : ((s.answer a).2.answer b).2.tables = ((s.answer b).2.answer a).2.tables := by
    refine Tables.ext_row? (fun table => by simp only [names?_answer]) fun table slot => ?_
    by_cases ofA : (table, slot) ∈ a.footprint
    · have left := row?_answer_of_notMem (apart _ ofA) (s.answer a).2
      have right := (agreeOn_answer_answer afterB).rows _ _ ofA
      exact left.trans right.symm
    by_cases ofB : (table, slot) ∈ b.footprint
    · have left := (agreeOn_answer_answer afterA).rows _ _ ofB
      have right := row?_answer_of_notMem ofA (s.answer b).2
      exact left.trans right.symm
    · simp only [row?_answer_of_notMem ofA, row?_answer_of_notMem ofB]
  have counts : ((s.answer a).2.answer b).2.writeCalls =
      ((s.answer b).2.answer a).2.writeCalls := by
    simp only [answer_writeCalls]
    omega
  exact ⟨answer_congr afterB, answer_congr afterA, by
    rw [Store.mk.injEq]
    exact ⟨tables, counts⟩⟩

end Store

/-! ## The rows of an update -/

namespace Coordinator

def footprintOf (c : Coordinator) (r : Request) : List Location :=
  [(c.settings.findingsTable, r.findingSlot), (c.settings.historyTable, r.historySlot)]

variable {c : Coordinator} {now : DateTime} {r : Request}

theorem location_findingUpdate (c : Coordinator) (r : Request) (condition : Option Condition) :
    (Write.update (c.findingUpdate r condition)).location =
      (c.settings.findingsTable, r.findingSlot) := by
  simp [Write.location, Write.table, Write.key]

theorem location_historyUpdate (c : Coordinator) (r : Request) :
    (Write.update (History.updateFor c.settings r)).location =
      (c.settings.historyTable, r.historySlot) := by
  simp [Write.location, Write.table, Write.key]

theorem location_record {data : Option FindingData} {record : Put}
    (built : History.createFor c.settings r data now = .ok record) :
    (Write.put record).location = (c.settings.historyTable, r.historySlot) := by
  obtain ⟨table, key, -⟩ := createFor_eq_ok built
  simp [Write.location, Write.table, Write.key, table, key]

/-- Whichever call an update makes next, it names no rows but the two of its request. -/
theorem Stands.footprint {stage : Stage} {call : Call} {cont : call.Reply → Run}
    (h : Stands c now r stage (.call call cont)) : ∀ l ∈ call.footprint, l ∈ c.footprintOf r := by
  intro l hl
  cases h with
  | pairing =>
    simpa [Call.footprint, pairUpdate, location_findingUpdate, location_historyUpdate,
      footprintOf] using hl
  | reading =>
    obtain rfl := List.mem_singleton.mp hl
    exact List.mem_cons_self
  | creating valid built =>
    simpa [Call.footprint, creation, location_findingUpdate, location_record built,
      footprintOf] using hl
  | fallingBack =>
    rw [List.mem_singleton.mp hl, location_findingUpdate]
    exact List.mem_cons_self

end Coordinator

end RemediationLedger
