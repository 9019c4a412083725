/-
Rows and the keys that they are found by.

A row has a slot in its table, and its two key attributes tell the slot once
more. `Tables.Keyed` says that the two agree in every row. An insertion past the
clients and a put write the key over whatever they are given, and an update that
finds no row starts from its key. But an update carries out its assignments one
by one, whichever attributes they name, and an assignment of another value to a
key attribute stays in the row, which keeps its slot.

So the rows of a store agree with their slots throughout exactly as long as no
update is carried out that assigns its key attributes another value
(`rows_carry_their_keys`). The writes of a transaction have different rows,
hence a later write does not make good for an earlier one, and the condition is
exact for transactions as well. The ledger itself meets it: no update of a
finding or of a record assigns a key attribute (`keyed_run`).

## How the proof goes

A single write decides about a single row: an update leaves its row with its key
exactly if it keeps the key (`Update.carries_result_iff`), and a stamped put
always does. Writes with different rows do not meet, so a transaction leaves all
rows keyed exactly if each of its writes does (`Keyed.foldl_write_iff`), and
`keyed_perform_iff` says the same of any operation. `keyed_throughout_iff` is
the induction on operations. It has to speak of all moments on the way, because
an update that displaces a key can be followed by a put that restores it.

`update_displaces_key` is the case that the condition shuts out: an update which
assigns another finding id to a finding. The row is then found under one id and
tells another. `keyed_run` says that the ledger never does it, whatever other
clients insert and remove.
-/
import RemediationLedger.Proofs.ProtocolAttributes
import RemediationLedger.Proofs.Transactions

namespace RemediationLedger

namespace KeyMap

variable {κ ν : Type} [Ord κ] [Std.TransOrd κ] [Std.LawfulEqOrd κ] [DecidableEq κ]

/-- Whatever is found in a map that was made of a list is an entry of the list. -/
theorem mem_of_get?_ofList {l : List (κ × ν)} {k : κ} {v : ν}
    (found : (ofList l).get? k = some v) : (k, v) ∈ l := by
  rw [ofList, get?_insertAll] at found
  cases last : l.reverse.find? fun e => e.1 == k with
  | none =>
    rw [last] at found
    cases found
  | some e =>
    have same : e.1 = k := by simpa using List.find?_some last
    rw [last] at found
    cases found
    rw [← same]
    exact List.mem_reverse.mp (List.mem_of_find?_eq_some last)

end KeyMap

/-! ## Operations -/

/-- What can be done to a store in memory, by its clients and past them. -/
inductive Operation where
  | addTable (name partition sort : String)
  | insert (table : String) (key : Key) (attributes : Item)
  | remove (table : String) (key : Key)
  | call (c : Call)

/-- The put has the key attributes written over its row, whatever its condition is. -/
def Put.Stamped (p : Put) : Prop :=
  ∃ attributes, p = { Put.of p.table p.key attributes with condition := p.condition }

/-- The key attributes of a table have different names, and puts are stamped. -/
def Operation.Proper : Operation → Prop
  | addTable _ partition sort => partition ≠ sort
  | call c => ∀ p, .put p ∈ c.writes → p.Stamped
  | insert .. => True
  | remove .. => True

namespace Store

def perform (s : Store) : Operation → Store
  | .addTable name partition sort => s.addTable name partition sort
  | .insert table key attributes => (s.insert table key attributes).2
  | .remove table key => (s.remove table key).2
  | .call c => (s.answer c).2

def performAll (s : Store) (ops : List Operation) : Store := ops.foldl perform s

/-- The writes that the store carries out when an operation is performed. -/
def writesOf (s : Store) : Operation → List Write
  | .call c => c.carriedOut (s.answer c).1
  | _ => []

/-- The writes that the store carries out in the course of operations. -/
def carriedOut (s : Store) : List Operation → List Write
  | [] => []
  | op :: rest => s.writesOf op ++ (s.perform op).carriedOut rest

end Store

/-! ## Single rows -/

theorem carries_stamp {key : Key} (distinct : key.names.partition ≠ key.names.sort)
    (attributes : Item) : Carries (key.stamp attributes) key.attributes := by
  have apart : (key.attributes.map Prod.fst).Nodup := by simpa [Key.attributes] using distinct
  exact fun _ ha => KeyMap.get?_insertAll_of_mem apart ha attributes

/-- If an update assigns its key attributes at all, it assigns them the values of the key. -/
def Update.KeepsKey (u : Update) : Prop :=
  ∀ a ∈ u.key.attributes, ∀ value ∈ u.assigned? a.1, value = a.2

instance (u : Update) : Decidable u.KeepsKey :=
  inferInstanceAs (Decidable (∀ a ∈ u.key.attributes, ∀ value ∈ u.assigned? a.1, value = a.2))

theorem Update.keepsKey_of_unassigned {u : Update}
    (unassigned : ∀ a ∈ u.key.attributes, u.assigned? a.1 = none) : u.KeepsKey := by
  intro a ha value assigned
  rw [unassigned a ha] at assigned
  cases assigned

/-- An update leaves a row with its key exactly if it keeps the key, whether it found one or
not. -/
theorem Update.carries_result_iff {u : Update} {old : Option Item}
    (distinct : u.key.names.partition ≠ u.key.names.sort)
    (carried : ∀ row ∈ old, Carries row u.key.attributes) :
    Carries ((Write.update u).result old) u.key.attributes ↔ u.KeepsKey := by
  have start : Carries (old.getD u.key.toItem) u.key.attributes := by
    cases old with
    | none => exact carries_stamp distinct .empty
    | some row => exact carried row rfl
  refine forall₂_congr fun a ha => ?_
  rw [Write.result_update_get?, start a ha]
  cases u.assigned? a.1 with
  | none => simp
  | some value => simp

theorem Put.Stamped.carries {p : Put} (h : p.Stamped)
    (distinct : p.key.names.partition ≠ p.key.names.sort) : Carries p.item p.key.attributes := by
  obtain ⟨attributes, made⟩ := h
  rw [made]
  exact carries_stamp distinct attributes

/-! ## All rows of a store -/

namespace Tables

variable {t : Tables} {ws : List Write}

/-- Every row has the key attributes of its table with the values of its slot. -/
structure Keyed (t : Tables) : Prop where
  distinct : ∀ table names, t.names? table = some names → names.partition ≠ names.sort
  rows : ∀ table names slot row, t.names? table = some names → t.row? table slot = some row →
    Carries row (Key.mk names slot).attributes

theorem keyed_empty : Keyed .empty where
  distinct _ _ known := by cases known
  rows _ _ _ _ known := by cases known

theorem Keyed.register (keyed : t.Keyed) (name : String) {partition sort : String}
    (distinct : partition ≠ sort) : (t.register name ⟨partition, sort⟩).Keyed := by
  constructor
  · intro table names known
    rw [names?_register] at known
    rcases Option.or_eq_some_iff.mp known with known | ⟨-, new⟩
    · exact keyed.distinct table names known
    · split at new
      · cases new
        exact distinct
      · cases new
  · intro table names slot row known present
    rw [row?_register] at present
    obtain ⟨names', known'⟩ := exists_names_of_row? present
    rw [names?_register, known', Option.some_or] at known
    cases known
    exact keyed.rows table names slot row known' present

/-- While the tables stay the same ones, it comes to their rows. -/
theorem Keyed.of_rows {t' : Tables} (keyed : t.Keyed)
    (same : ∀ table, t'.names? table = t.names? table)
    (rows : ∀ table names slot row, t.names? table = some names → t'.row? table slot = some row →
      Carries row (Key.mk names slot).attributes) : t'.Keyed where
  distinct table names known := keyed.distinct table names ((same table).symm.trans known)
  rows table names slot row known := rows table names slot row ((same table).symm.trans known)

theorem Keyed.setRow (keyed : t.Keyed) {table : String} {key : Key} {row : Item}
    (sound : t.names? table = some key.names) (carried : Carries row key.attributes) :
    (t.setRow table key.slot row).Keyed := by
  refine keyed.of_rows (fun _ => names?_setRow ..) fun other names slot row' known present => ?_
  rw [row?_setRow (by simp [sound])] at present
  split at present
  · rename_i here
    obtain ⟨rfl, rfl⟩ := here
    cases present
    cases sound.symm.trans known
    exact carried
  · exact keyed.rows other names slot row' known present

theorem Keyed.dropRow (keyed : t.Keyed) (table : String) (slot : Slot) :
    (t.dropRow table slot).Keyed := by
  refine keyed.of_rows (fun _ => names?_dropRow ..) fun other names slot' row known present => ?_
  rw [row?_dropRow] at present
  split at present
  · cases present
  · exact keyed.rows other names slot' row known present

/-- Writes with different rows leave all rows keyed exactly if each of them does so in its own
row. -/
theorem Keyed.foldl_write_iff (keyed : t.Keyed) (inOrder : t.InOrder ws) :
    (ws.foldl write t).Keyed ↔
      ∀ w ∈ ws, Carries (w.result (t.row? w.table w.key.slot)) w.key.attributes := by
  constructor
  · intro after w hw
    exact after.rows w.table w.key.names w.key.slot _
      ((names?_foldl_write ..).trans (inOrder.sound w hw)) (row?_foldl_write_of_mem inOrder hw)
  · intro each
    refine keyed.of_rows (names?_foldl_write t ws) fun table names slot row known present => ?_
    by_cases written : (table, slot) ∈ ws.map Write.location
    · obtain ⟨w, hw, here⟩ := List.mem_map.mp written
      obtain ⟨rfl, rfl⟩ := Prod.mk.inj here
      rw [row?_foldl_write_of_mem inOrder hw] at present
      cases present
      cases (inOrder.sound w hw).symm.trans known
      exact each w hw
    · rw [row?_foldl_write_of_notMem written] at present
      exact keyed.rows table names slot row known present

/-- The puts are stamped, so it comes to the updates. -/
theorem Keyed.foldl_write_iff_updates (keyed : t.Keyed) (inOrder : t.InOrder ws)
    (stamped : ∀ p, .put p ∈ ws → p.Stamped) :
    (ws.foldl write t).Keyed ↔ ∀ u, .update u ∈ ws → u.KeepsKey := by
  have distinct : ∀ w ∈ ws, w.key.names.partition ≠ w.key.names.sort := fun w hw =>
    keyed.distinct w.table _ (inOrder.sound w hw)
  have carried : ∀ w ∈ ws, ∀ row ∈ t.row? w.table w.key.slot, Carries row w.key.attributes :=
    fun w hw row => keyed.rows w.table _ w.key.slot row (inOrder.sound w hw)
  have ofUpdate : ∀ u, .update u ∈ ws →
      (Carries ((Write.update u).result (t.row? u.table u.key.slot)) u.key.attributes ↔
        u.KeepsKey) := fun u hu =>
    Update.carries_result_iff (distinct _ hu) (carried _ hu)
  rw [keyed.foldl_write_iff inOrder]
  constructor
  · intro each u hu
    exact (ofUpdate u hu).mp (each _ hu)
  · intro keeps w hw
    cases w with
    | put p => exact (stamped p hw).carries (distinct _ hw)
    | update u => exact (ofUpdate u hw).mpr (keeps u hw)

end Tables

/-! ## Operations one after another -/

namespace Store

variable {s : Store}

/-- The writes that a call carries out have sound targets and different rows. -/
theorem inOrder_carriedOut (s : Store) (c : Call) :
    s.tables.InOrder (c.carriedOut (s.answer c).1) := by
  cases c with
  | get table key => exact Tables.inOrder_nil _
  | transact writes =>
    change s.tables.InOrder (Call.carriedOut (.transact writes) (s.transact writes).1)
    cases answered : (s.transact writes).1 with
    | error e => exact Tables.inOrder_nil _
    | ok => exact (transact_ok_iff.mp answered).2.1
  | update u =>
    change s.tables.InOrder (Call.carriedOut (.update u) (s.update u).1)
    cases answered : (s.update u).1 with
    | error e => exact Tables.inOrder_nil _
    | ok =>
      rcases s.tables.update_carried_or_refused u with ⟨-, sound⟩ | ⟨e, refused⟩
      · exact Tables.inOrder_cons.mpr ⟨sound, List.not_mem_nil, Tables.inOrder_nil _⟩
      · rw [update_of_tables refused] at answered
        cases answered

theorem mem_writes_of_carriedOut {c : Call} {reply : c.Reply} {w : Write}
    (h : w ∈ c.carriedOut reply) : w ∈ c.writes := by
  unfold Call.carriedOut at h
  split at h
  · exact h
  · cases h

/-- One operation leaves the rows keyed exactly if the updates that it carries out keep their
keys. -/
theorem keyed_perform_iff (keyed : s.tables.Keyed) (op : Operation) (proper : op.Proper) :
    (s.perform op).tables.Keyed ↔ ∀ u, .update u ∈ s.writesOf op → u.KeepsKey := by
  cases op with
  | addTable name partition sort =>
    exact iff_of_true (keyed.register name proper) (by simp [writesOf])
  | insert table key attributes =>
    refine iff_of_true ?_ (by simp [writesOf])
    refine insert_kept (P := Tables.Keyed) keyed fun sound => keyed.setRow sound ?_
    exact carries_stamp (keyed.distinct table _ sound) attributes
  | remove table key =>
    exact iff_of_true (remove_kept (P := Tables.Keyed) keyed (keyed.dropRow table key.slot))
      (by simp [writesOf])
  | call c =>
    change (s.answer c).2.tables.Keyed ↔ _
    rw [tables_answer]
    exact keyed.foldl_write_iff_updates (s.inOrder_carriedOut c) fun p hp =>
      proper p (mem_writes_of_carriedOut hp)

/-- The rows stay keyed throughout operations exactly if every update that is carried out on the
way keeps its key. -/
theorem keyed_throughout_iff (keyed : s.tables.Keyed) {ops : List Operation}
    (proper : ∀ op ∈ ops, op.Proper) :
    (∀ before, before <+: ops → (s.performAll before).tables.Keyed) ↔
      ∀ u, .update u ∈ s.carriedOut ops → u.KeepsKey := by
  induction ops generalizing s with
  | nil =>
    refine iff_of_true (fun before none => ?_) (by simp [carriedOut])
    rw [List.prefix_nil.mp none]
    exact keyed
  | cons op ops ih =>
    obtain ⟨first, rest⟩ := List.forall_mem_cons.mp proper
    have step := keyed_perform_iff keyed op first
    constructor
    · intro throughout u hu
      have next : (s.perform op).tables.Keyed := throughout [op] (by simp)
      rcases List.mem_append.mp hu with now | later
      · exact step.mp next u now
      · refine (ih next rest).mp (fun before within => ?_) u later
        exact throughout (op :: before) (List.cons_prefix_cons.mpr ⟨rfl, within⟩)
    · intro keeps before within
      have next := step.mpr fun u hu => keeps u (List.mem_append_left _ hu)
      rcases List.prefix_cons_iff.mp within with rfl | ⟨before, rfl, inRest⟩
      · exact keyed
      · exact (ih next rest).mpr (fun u hu => keeps u (List.mem_append_right _ hu)) before inRest

/-- A row that is read from keyed tables has all attributes of its key. -/
theorem toItem_of_get (keyed : s.tables.Keyed) {table : String} {key : Key} {row : Item}
    (found : s.get table key = .ok (some row)) :
    ∀ name value, key.toItem.get? name = some value → row.get? name = some value := by
  obtain ⟨sound, present⟩ := Tables.get_eq_ok_iff.mp found
  have carried := keyed.rows table _ key.slot row sound present
  exact fun name value own => carried _ (KeyMap.mem_of_get?_ofList own)

/-- **Rows agree with their slots** as long as no update assigns its key attributes another value.
Tables are registered with two different names for their key attributes, and puts are stamped.
Then every row has the key attributes of its slot throughout any operations on an empty store,
exactly if each update that was carried out keeps its key. While this is so, a row that is read
has all attributes of the key that it was read by. -/
theorem rows_carry_their_keys (ops : List Operation) (proper : ∀ op ∈ ops, op.Proper) :
    ((∀ before, before <+: ops → (empty.performAll before).tables.Keyed) ↔
      ∀ u, .update u ∈ empty.carriedOut ops → u.KeepsKey) ∧
    ∀ before, before <+: ops → (empty.performAll before).tables.Keyed →
      ∀ table key row, (empty.performAll before).get table key = .ok (some row) →
        ∀ name value, key.toItem.get? name = some value → row.get? name = some value :=
  ⟨keyed_throughout_iff Tables.keyed_empty proper, fun _ _ keyed _ _ _ => toItem_of_get keyed⟩

def f1Key : Key := Finding.key "EC2.1" "f1"

def keyedOperations : List Operation :=
  [.addTable "findings" "findingType" "findingId",
    .insert "findings" f1Key (.ofList [("findingId", .text "f2"), ("region", .text "r1")]),
    .call (.update ((Update.of "findings" f1Key).set "remediationStatus" (.text "QUEUED"))),
    .call (.transact [.put (.of "findings" f1Key (.ofList [("findingType", .text "S3.1")])),
      .update ((Update.of "findings" (Finding.key "EC2.1" "f2")).set "findingId" (.text "f2"))])]

/-- No update among these operations assigns a finding another id than its own. -/
theorem rows_carry_their_keys_of_findings :
    (∀ op ∈ keyedOperations, op.Proper) ∧
    (∀ before, before <+: keyedOperations → (empty.performAll before).tables.Keyed) ∧
    ∃ row, (empty.performAll keyedOperations).get "findings" f1Key = .ok (some row) ∧
      row.get? "findingId" = some (.text "f1") ∧ row.get? "findingType" = some (.text "EC2.1") := by
  have proper : ∀ op ∈ keyedOperations, op.Proper := by
    simp [keyedOperations, Operation.Proper, Call.writes, Put.Stamped, Put.of]
  obtain ⟨throughout, read⟩ := rows_carry_their_keys keyedOperations proper
  have carriedOut : empty.carriedOut keyedOperations =
      [.update ((Update.of "findings" f1Key).set "remediationStatus" (.text "QUEUED")),
        .put (.of "findings" f1Key (.ofList [("findingType", .text "S3.1")])),
        .update ((Update.of "findings" (Finding.key "EC2.1" "f2")).set
          "findingId" (.text "f2"))] := by
    decide +kernel
  have keyed := throughout.mpr fun u hu => by
    rw [carriedOut] at hu
    obtain rfl | rfl : u = _ ∨ u = _ := by simpa using hu
    · decide +kernel
    · decide +kernel
  have present : (empty.performAll keyedOperations).get "findings" f1Key =
      .ok (some f1Key.toItem) := by
    decide +kernel
  have here := read keyedOperations (List.prefix_refl _) (keyed _ (List.prefix_refl _))
    "findings" f1Key _ present
  exact ⟨proper, keyed, _, present, here _ _ (by decide +kernel), here _ _ (by decide +kernel)⟩

/-- An update gives a finding the id of another one. The row stays in its slot and is read there. -/
theorem update_displaces_key :
    let u := (Update.of "findings" f1Key).set "findingId" (.text "f2")
    let ops := [.addTable "findings" "findingType" "findingId", .call (.update u)]
    (∀ op ∈ ops, op.Proper) ∧ ¬(empty.performAll ops).tables.Keyed ∧
    ∃ row, (empty.performAll ops).get "findings" f1Key = .ok (some row) ∧
      f1Key.toItem.get? "findingId" = some (.text "f1") ∧
      row.get? "findingId" = some (.text "f2") := by
  intro u ops
  have present : (empty.performAll ops).get "findings" f1Key = .ok (some
      (.ofList [("findingId", .text "f2"), ("findingType", .text "EC2.1")])) := by
    decide +kernel
  have own : f1Key.toItem.get? "findingId" = some (.text "f1") := by decide +kernel
  refine ⟨by simp [ops, Operation.Proper, Call.writes], fun keyed => ?_, _, present, own, rfl⟩
  have read := toItem_of_get keyed present _ _ own
  exact absurd read (by decide +kernel)

end Store

/-! ## The updates of the ledger -/

namespace Coordinator

variable {c : Coordinator} {now : DateTime} {r : Request} {ι : Type} [DecidableEq ι]

theorem keepsKey_findingUpdate (c : Coordinator) (r : Request) (condition : Option Condition) :
    (c.findingUpdate r condition).KeepsKey := by
  refine Update.keepsKey_of_unassigned fun a ha => ?_
  rw [findingUpdate_key] at ha
  rw [findingUpdate_assigned?]
  rcases List.mem_pair.mp ha with rfl | rfl
  · rfl
  · rfl

theorem keepsKey_historyUpdate (settings : Settings) (r : Request) :
    (History.updateFor settings r).KeepsKey := by
  refine Update.keepsKey_of_unassigned fun a ha => ?_
  rw [historyUpdate_key] at ha
  rw [historyUpdate_assigned?]
  rcases List.mem_pair.mp ha with rfl | rfl
  · rfl
  · rfl

theorem stamped_record {settings : Settings} {data : Option FindingData} {record : Put}
    (built : History.createFor settings r data now = .ok record) : record.Stamped := by
  obtain ⟨-, key, -, stamp, expireAt, -, item⟩ := createFor_eq_ok built
  refine ⟨History.attributes settings r data stamp expireAt, ?_⟩
  rw [← key] at item
  cases record
  simpa [Put.of] using item

/-- Whichever call an update makes next, its puts are stamped and its updates keep their keys. -/
theorem Stands.keepsKeys {stage : Stage} {call : Call} {cont : call.Reply → Run}
    (h : Stands c now r stage (.call call cont)) :
    (∀ p, .put p ∈ call.writes → p.Stamped) ∧ ∀ u, .update u ∈ call.writes → u.KeepsKey := by
  cases h with
  | pairing =>
    simp [Call.writes, pairUpdate, keepsKey_findingUpdate, keepsKey_historyUpdate]
  | reading => simp [Call.writes]
  | creating valid built =>
    simp [Call.writes, creation, keepsKey_findingUpdate, stamped_record built]
  | fallingBack => simp [Call.writes, keepsKey_findingUpdate]

/-- **Updates of the ledger keep the rows with their slots**, under every interleaving, with every
choice of faults and of rows that are inserted or removed meanwhile. -/
theorem keyed_run (c : Coordinator) {s : Store} (keyed : s.tables.Keyed) (programs : ι → Run)
    (updates : ∀ i, ∃ now r, programs i = c.apply now r) (moves : List (Move ι)) :
    ((World.opening s programs).run moves).store.tables.Keyed := by
  have all : Underway c programs ((World.opening s programs).run moves) ∧
      ((World.opening s programs).run moves).store.tables.Keyed := by
    refine World.run_induction (P := fun w => Underway c programs w ∧ w.store.tables.Keyed)
      ⟨underway_opening c programs s, keyed⟩ ?_
    rintro v m v' - ⟨underway, keyed⟩ effect
    refine ⟨underway.effect effect, ?_⟩
    cases effect with
    | idle => exact keyed
    | @served i call cont reply s' pending answered =>
      obtain ⟨now, r, update⟩ := updates i
      obtain ⟨stage, stands⟩ := underway i now r update
      rw [pending] at stands
      obtain ⟨stamped, keeps⟩ := stands.keepsKeys
      have next := (Store.keyed_perform_iff keyed (.call call) stamped).mpr fun u hu =>
        keeps u (Store.mem_writes_of_carriedOut hu)
      rwa [Store.perform, answered] at next
    | refused => exact keyed
    | inserted table key attributes =>
      exact (Store.keyed_perform_iff keyed (.insert table key attributes) trivial).mpr
        (by simp [Store.writesOf])
    | removed table key =>
      exact (Store.keyed_perform_iff keyed (.remove table key) trivial).mpr
        (by simp [Store.writesOf])
  exact all.2

end Coordinator

end RemediationLedger
