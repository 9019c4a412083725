/-
Writes: what a caller asks a record store to change.

A put replaces a whole row, an update assigns single attributes, and either may
carry a condition on whether the row exists. Both come down to one function from
the row that is there to the row that is left (`Write.result`), which is all
that a store needs to know about them.

* `Put` holds the whole row. `Put.of` writes the key attributes over what it is
  given, so that a row that was put tells its slot.
* `Update` holds assignments in order, and a later one wins. They may name a key
  attribute: the row then stays in its slot and tells another one. No write of
  the ledger does so.
* `Condition` asks whether a row is there and nothing else, which is all that
  the protocol needs.

The functions on `Write` forget which kind it is. A transaction is a list of
them, and most of what is proved about transactions does not look inside.
-/
import RemediationLedger.Item

namespace RemediationLedger

/-- A predicate on the row that a write targets, checked by the store. -/
inductive Condition where
  /-- The row must exist already. -/
  | keyExists
  /-- The row must not exist yet. -/
  | keyNotExists
  deriving DecidableEq, Repr

def Condition.holds : Condition → (rowExists : Bool) → Bool
  | keyExists, rowExists => rowExists
  | keyNotExists, rowExists => !rowExists

/-- Writes a whole row in place of whatever has its key. -/
structure Put where
  table : String
  key : Key
  /-- The complete row, key attributes included. -/
  item : Item
  condition : Option Condition
  deriving DecidableEq

def Put.of (table : String) (key : Key) (attributes : Item) : Put :=
  ⟨table, key, key.stamp attributes, none⟩

/-- Assigns attributes of one row. Without a condition it creates the row if need be. -/
structure Update where
  table : String
  key : Key
  /-- The assignments, carried out in order. -/
  assignments : List (String × Value)
  condition : Option Condition
  deriving DecidableEq

namespace Update

def of (table : String) (key : Key) : Update := ⟨table, key, [], none⟩

def set (u : Update) (name : String) (value : Value) : Update :=
  { u with assignments := u.assignments ++ [(name, value)] }

/-- Adds an assignment of a text that is present and not empty; otherwise changes nothing. -/
def setIfPresent (u : Update) (name : String) (value : Option String) : Update :=
  match value with
  | none => u
  | some v => if v.isEmpty then u else u.set name (.text v)

/-- The value that `name` ends up with, if the update assigns it. -/
def assigned? (u : Update) (name : String) : Option Value :=
  (u.assignments.reverse.find? fun a => a.1 == name).map Prod.snd

end Update

inductive Write where
  | put (p : Put)
  | update (u : Update)
  deriving DecidableEq

namespace Write

def table : Write → String
  | put p => p.table
  | update u => u.table

def key : Write → Key
  | put p => p.key
  | update u => u.key

def condition : Write → Option Condition
  | put p => p.condition
  | update u => u.condition

/-- The row that the write leaves, from the row that it finds. An update of a missing row starts
from the key attributes. -/
def result : Write → Option Item → Item
  | put p, _ => p.item
  | update u, old => (old.getD u.key.toItem).insertAll u.assignments

/-- Whether the write's condition holds of a row that exists or does not. -/
def admits (w : Write) (rowExists : Bool) : Bool :=
  match w.condition with
  | none => true
  | some c => c.holds rowExists

end Write

end RemediationLedger
