/-
The record store held in memory.

Each table has the names of its two key attributes and its rows in slot order. A
transaction makes three passes over its writes: every target must be sound, then
every condition must hold of the tables as they were before the transaction, and
only then are the writes carried out. The third pass looks each table up once
more and could fail there, with the writes before it in place. So an operation
that writes comes to a reply and to tables, whatever the reply is; that a
refused transaction leaves the tables alone is a theorem about the first pass
(`Tables.writeAll_of_checkTargets`, `Tables.transact_of_error`) and no matter of
types.

* The first part is about `Tables`, the rows alone. `Tables.mapRows` is the one
  function that changes a table's rows, and it does nothing to a table that is
  not there; every operation goes through it.
* `Tables.checkTargets` walks through a transaction in order and stops at the
  first write that is wrong, while `Tables.reasons` has an entry for every
  write: a refusal for a wrong target tells one fault, a refusal for a false
  condition tells them all.
* `Store` adds the number of write calls. It counts calls and not writes, and
  those that were refused as well; direct insertions and removals are not calls.

No condition sees a write of its own transaction. Two writes of one row in one
transaction are refused in the first pass, so the order of the writes of a
transaction that is carried out makes no difference to the rows
(`Proofs.WriteOrder`).
-/
import RemediationLedger.Write
import RemediationLedger.Store.Error

namespace RemediationLedger

structure Table where
  names : KeyNames
  rows : KeyMap Slot Item
  deriving DecidableEq

abbrev Tables := KeyMap String Table

namespace Tables

/-! ## Rows -/

def row? (t : Tables) (table : String) (slot : Slot) : Option Item :=
  (t.get? table).bind fun entry => entry.rows.get? slot

/-- Replaces the rows of a known table. -/
def mapRows (t : Tables) (table : String) (f : KeyMap Slot Item → KeyMap Slot Item) : Tables :=
  match t.get? table with
  | none => t
  | some entry => t.insert table { entry with rows := f entry.rows }

def setRow (t : Tables) (table : String) (slot : Slot) (item : Item) : Tables :=
  t.mapRows table fun rows => rows.insert slot item

def dropRow (t : Tables) (table : String) (slot : Slot) : Tables :=
  t.mapRows table fun rows => rows.erase slot

/-! ## Requests -/

/-- Checks that the table is known and that the key has its attribute names. -/
def checkTarget (t : Tables) (table : String) (key : Key) : Except StoreError Unit :=
  match t.get? table with
  | none => .error (.tableNotFound table)
  | some entry =>
    if key.names = entry.names then .ok ()
    else .error (.invalidRequest (.keyMismatch key.names entry.names table))

def get (t : Tables) (table : String) (key : Key) : Except StoreError (Option Item) :=
  match t.checkTarget table key with
  | .error e => .error e
  | .ok () => .ok (t.row? table key.slot)

/-- Registers a table; a table that is registered already stays as it is. -/
def register (t : Tables) (name : String) (names : KeyNames) : Tables :=
  if t.contains name then t else t.insert name ⟨names, .empty⟩

def insertRow (t : Tables) (table : String) (key : Key) (attributes : Item) :
    Except StoreError Tables :=
  match t.checkTarget table key with
  | .error e => .error e
  | .ok () => .ok (t.setRow table key.slot (key.stamp attributes))

def removeRow (t : Tables) (table : String) (key : Key) :
    Except StoreError (Option Item × Tables) :=
  match t.checkTarget table key with
  | .error e => .error e
  | .ok () => .ok (t.row? table key.slot, t.dropRow table key.slot)

def items (t : Tables) (table : String) : List Item :=
  match t.get? table with
  | none => []
  | some entry => entry.rows.values

/-! ## Writes -/

def admits (t : Tables) (w : Write) : Bool :=
  w.admits (t.row? w.table w.key.slot).isSome

def write (t : Tables) (w : Write) : Tables :=
  t.setRow w.table w.key.slot (w.result (t.row? w.table w.key.slot))

/-- Carries out writes in order, up to the first one whose table is unknown. -/
def writeAll (t : Tables) : List Write → Except StoreError Unit × Tables
  | [] => (.ok (), t)
  | w :: rest =>
    match t.get? w.table with
    | none => (.error (.tableNotFound w.table), t)
    | some _ => (t.write w).writeAll rest

def update (t : Tables) (u : Update) : Except StoreError Unit × Tables :=
  match t.checkTarget u.table u.key with
  | .error e => (.error e, t)
  | .ok () =>
    if t.admits (.update u) then (.ok (), t.write (.update u))
    else (.error (.conditionFailed u.table), t)

/-- Checks the targets of a transaction in order: each must be sound and none may repeat one of
`seen` or of an earlier write. -/
def checkTargets (t : Tables) (seen : List (String × Slot)) : List Write → Except StoreError Unit
  | [] => .ok ()
  | w :: rest =>
    match t.checkTarget w.table w.key with
    | .error e => .error e
    | .ok () =>
      if (w.table, w.key.slot) ∈ seen then
        .error (.invalidRequest (.repeatedTarget w.table w.key.slot))
      else t.checkTargets ((w.table, w.key.slot) :: seen) rest

/-- The reason that each write has for cancelling a transaction. -/
def reasons (t : Tables) (writes : List Write) : List CancellationReason :=
  writes.map fun w => if t.admits w then .notAtFault else .conditionFailed

def transact (t : Tables) (writes : List Write) : Except StoreError Unit × Tables :=
  if writes.isEmpty then (.error (.invalidRequest .emptyTransaction), t)
  else
    match t.checkTargets [] writes with
    | .error e => (.error e, t)
    | .ok () =>
      if writes.all t.admits then t.writeAll writes
      else (.error (.transactionCanceled (t.reasons writes)), t)

end Tables

/-! ## The store -/

structure Store where
  tables : Tables
  writeCalls : Nat
  deriving DecidableEq

namespace Store

def empty : Store := ⟨.empty, 0⟩

/-- Registers a table; a table that is registered already keeps its rows and key names. -/
def addTable (s : Store) (name partition sort : String) : Store :=
  { s with tables := s.tables.register name ⟨partition, sort⟩ }

def get (s : Store) (table : String) (key : Key) : Except StoreError (Option Item) :=
  s.tables.get table key

def items (s : Store) (table : String) : List Item := s.tables.items table

/-- Puts a row directly, past conditions and the count of write calls. -/
def insert (s : Store) (table : String) (key : Key) (attributes : Item) :
    Except StoreError Unit × Store :=
  match s.tables.insertRow table key attributes with
  | .error e => (.error e, s)
  | .ok tables => (.ok (), { s with tables })

/-- Drops a row directly, past conditions and the count of write calls. -/
def remove (s : Store) (table : String) (key : Key) : Except StoreError (Option Item) × Store :=
  match s.tables.removeRow table key with
  | .error e => (.error e, s)
  | .ok (removed, tables) => (.ok removed, { s with tables })

/-- A single update outside any transaction; it counts as a write call. -/
def update (s : Store) (u : Update) : Except StoreError Unit × Store :=
  match s.tables.update u with
  | (reply, tables) => (reply, ⟨tables, s.writeCalls + 1⟩)

/-- All writes or none of them, and one write call. -/
def transact (s : Store) (writes : List Write) : Except StoreError Unit × Store :=
  match s.tables.transact writes with
  | (reply, tables) => (reply, ⟨tables, s.writeCalls + 1⟩)

end Store

end RemediationLedger
