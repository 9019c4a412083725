/-
Items, the rows of the ledger's tables, and the keys that address them.

A value is a text or a number, and a number is kept as the decimal text it was
given as. A key pairs the names of a table's two key attributes with the two
values that pick out one row; the pair of values alone is the row's slot.

* `Value.number` holds a text for the reason that a store hands numbers over as
  texts. Only `asInt?` asks what the text spells, and `ofInt` followed by
  `asInt?` gives back every integer of 64 bits (`Proofs.Numerals`).
* `Slot` is where a row stands in its table, and slots are what tables are
  ordered by. A table knows its key names once, so they are no part of a slot.
* `Key.stamp` writes a key over a row, as a put does with the row it is given:
  the row tells its slot, and attributes that it had under the two names give
  way.

The order of slots is lexicographic, first by partition value and then by sort
value, and it is lawful, as the maps that tables are kept in demand.
-/
import RemediationLedger.KeyMap
import RemediationLedger.Text.Word

namespace RemediationLedger

inductive Value where
  | text (s : String)
  | number (decimal : String)
  deriving DecidableEq, Repr, Inhabited

namespace Value

def ofInt (i : Int) : Value := .number (toString i)

def asText? : Value → Option String
  | text s => some s
  | number _ => none

/-- The integer of a number value that spells a signed 64-bit integer. -/
def asInt? : Value → Option Int
  | text _ => none
  | number decimal => readWord? decimal.toList

end Value

abbrev Item := KeyMap String Value

structure KeyNames where
  partition : String
  sort : String
  deriving DecidableEq, Repr

/-- The place of a row in its table: the values of the two key attributes. -/
structure Slot where
  partition : String
  sort : String
  deriving DecidableEq, Repr

namespace Slot

/-- Slots are ordered by partition value, then by sort value. Texts are ordered character by
character, which is also the order of their UTF-8 bytes. -/
instance : Ord Slot := ⟨compareLex (compareOn partition) (compareOn sort)⟩

instance : Std.TransOrd Slot :=
  inferInstanceAs (Std.TransCmp (compareLex (compareOn partition) (compareOn sort)))

theorem compare_eq (a b : Slot) :
    compare a b = (compare a.partition b.partition).then (compare a.sort b.sort) := rfl

instance : Std.LawfulEqOrd Slot where
  eq_of_compare {a b} h := by
    rw [compare_eq, Ordering.then_eq_eq] at h
    obtain ⟨hp, hs⟩ := h
    cases a
    cases b
    congr 1
    · exact Std.LawfulEqCmp.eq_of_compare hp
    · exact Std.LawfulEqCmp.eq_of_compare hs

end Slot

/-- The full address of a row within a table. -/
structure Key where
  names : KeyNames
  slot : Slot
  deriving DecidableEq, Repr

namespace Key

/-- A key from its two attributes, each a name and a value. -/
def of (partitionName partitionValue sortName sortValue : String) : Key :=
  ⟨⟨partitionName, sortName⟩, ⟨partitionValue, sortValue⟩⟩

/-- The two attributes that the key occupies on a row. If both have one name the sort value
stays. -/
def attributes (k : Key) : List (String × Value) :=
  [(k.names.partition, .text k.slot.partition), (k.names.sort, .text k.slot.sort)]

def toItem (k : Key) : Item := KeyMap.ofList k.attributes

/-- A row with the key attributes written over it. -/
def stamp (k : Key) (item : Item) : Item := item.insertAll k.attributes

end Key

end RemediationLedger
