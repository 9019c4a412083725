/-
An update on its own and as a transaction of one.

A store has two paths for an update. On its own it meets its target, its
condition and its row one after another; a transaction goes through all targets
first, turns all conditions into reasons and only then writes. `Tables.Fares`
lists how an update can fare on both paths at once, each case with what decides
it. The replies differ where a condition is false, and nowhere else: the update
names its table, the transaction gives one reason.

What an update leaves is built forwards, one assignment over another, starting
from the row that was there or from the key alone. It is read off backwards: the
last assignment to a name counts (`Update.assigned?`), and below the assignments
is what the update found (`Update.found?`).

`update_is_a_transaction_of_one` has three parts: both paths leave the same
store, with one more write call; their replies are paired by `Fares`, each pair
with the condition under which it occurs; and after an update that succeeds, a
read of its key finds a row, whose every attribute is named.

The third part is where the two ways in which an update can meet its row come
apart. A row that was there keeps what is not assigned. A row that was not there
is made of its key, so that what lies below the assignments is the two key
attributes; if both have one name, the sort value is what remains, as it is
written second. An assignment to a key attribute is carried out like any other,
and the row keeps its slot.
-/
import RemediationLedger.Proofs.Transactions

namespace RemediationLedger

/-! ## What an update finds -/

/-- The value of a key attribute. If both have one name the sort value counts. -/
def Key.attribute? (k : Key) (name : String) : Option Value :=
  if name = k.names.sort then some (.text k.slot.sort)
  else if name = k.names.partition then some (.text k.slot.partition)
  else none

theorem Key.get?_toItem (k : Key) (name : String) : k.toItem.get? name = k.attribute? name := by
  have written : k.toItem =
      (KeyMap.empty.insert k.names.partition (.text k.slot.partition)).insert
        k.names.sort (.text k.slot.sort) := rfl
  rw [written, KeyMap.get?_insert, KeyMap.get?_insert, KeyMap.get?_empty]
  rfl

/-- What an update finds under a name: the value in the row that is there, and if there is none
the attribute of the key that the update creates it by. -/
def Update.found? (u : Update) : Option Item → String → Option Value
  | some row, name => row.get? name
  | none, name => u.key.attribute? name

theorem Update.get?_result (u : Update) (old : Option Item) (name : String) :
    ((Write.update u).result old).get? name = (u.assigned? name).or (u.found? old name) := by
  rw [Write.result_update_get?]
  cases old with
  | some row => rfl
  | none => rw [Option.getD_none, Key.get?_toItem, found?]

namespace Tables

variable {t : Tables} {u : Update}

/-! ## Both paths -/

/-- How an update fares on its own and as a transaction of one. -/
inductive Fares (t : Tables) (u : Update) : (alone bundled : Except StoreError Unit) → Prop
  | unknown (unknown : t.names? u.table = none) :
      Fares t u (.error (.tableNotFound u.table)) (.error (.tableNotFound u.table))
  | mismatch {names : KeyNames} (known : t.names? u.table = some names)
      (differ : u.key.names ≠ names) :
      Fares t u (.error (.invalidRequest (.keyMismatch u.key.names names u.table)))
        (.error (.invalidRequest (.keyMismatch u.key.names names u.table)))
  | unmet (sound : t.names? u.table = some u.key.names) (unmet : ¬t.Meets (.update u)) :
      Fares t u (.error (.conditionFailed u.table))
        (.error (.transactionCanceled [.conditionFailed]))
  | carriedOut (sound : t.names? u.table = some u.key.names) (met : t.Meets (.update u)) :
      Fares t u (.ok ()) (.ok ())

theorem update_of_unknown (unknown : t.names? u.table = none) :
    t.update u = (.error (.tableNotFound u.table), t) := by
  rw [update, checkTarget_of_unknown unknown]

theorem update_of_mismatch {names : KeyNames} (known : t.names? u.table = some names)
    (differ : u.key.names ≠ names) :
    t.update u = (.error (.invalidRequest (.keyMismatch u.key.names names u.table)), t) := by
  rw [update, checkTarget_of_mismatch known differ]

/-- A transaction of one is refused for its target as soon as the target is at fault. -/
theorem transact_of_fault {w : Write} {e : StoreError} (fault : t.Fault [] w e) :
    t.transact [w] = (.error e, t) :=
  transact_of_firstFault ⟨[], w, [], rfl, inOrder_nil t, fault⟩

theorem inOrder_singleton {w : Write} (sound : t.names? w.table = some w.key.names) :
    t.InOrder [w] :=
  inOrder_cons.mpr ⟨sound, List.not_mem_nil, inOrder_nil t⟩

/-- Both paths leave the same tables, and their replies are of one of the cases. -/
theorem fares_of_fault {e : StoreError} (fault : t.Fault [] (.update u) e) :
    (t.update u).2 = (t.transact [.update u]).2 ∧
      t.Fares u (t.update u).1 (t.transact [.update u]).1 := by
  rw [transact_of_fault fault]
  cases fault with
  | unknown unknown =>
    rw [update_of_unknown unknown]
    exact ⟨rfl, .unknown unknown⟩
  | mismatch known differ =>
    rw [update_of_mismatch known differ]
    exact ⟨rfl, .mismatch known differ⟩
  | repeated _ taken =>
    -- Nothing is named before the only write.
    cases taken

theorem fares_of_sound (sound : t.names? u.table = some u.key.names) :
    (t.update u).2 = (t.transact [.update u]).2 ∧
      t.Fares u (t.update u).1 (t.transact [.update u]).1 := by
  have inOrder : t.InOrder [.update u] := inOrder_singleton sound
  rw [update_of_sound sound]
  by_cases met : t.Meets (.update u)
  · rw [if_pos (admits_iff.mpr met), transact_of_meets (by simp) inOrder (by simpa using met)]
    exact ⟨rfl, .carriedOut sound met⟩
  · have refused : ¬t.admits (.update u) = true := mt admits_iff.mp met
    have reasons : t.reasons [.update u] = [.conditionFailed] := by simp [Tables.reasons, refused]
    rw [if_neg refused, transact_of_not_meets inOrder List.mem_cons_self met, reasons]
    exact ⟨rfl, .unmet sound met⟩

theorem fares (t : Tables) (u : Update) :
    (t.update u).2 = (t.transact [.update u]).2 ∧
      t.Fares u (t.update u).1 (t.transact [.update u]).1 := by
  rcases fault_or_sound t [] (.update u) with ⟨e, fault⟩ | ⟨sound, -⟩
  · exact fares_of_fault fault
  · exact fares_of_sound sound

end Tables

namespace Store

variable {s : Store} {u : Update}

/-- After an update its row is what the update makes of the one that was there. -/
theorem get_after_update (done : (s.update u).1 = .ok ()) :
    ∃ old, s.get u.table u.key = .ok old ∧
      (s.update u).2.get u.table u.key = .ok (some ((Write.update u).result old)) := by
  rcases s.tables.update_carried_or_refused u with ⟨carried, sound⟩ | ⟨e, refused⟩
  · refine ⟨_, Tables.get_of_sound sound, ?_⟩
    rw [update_of_tables carried, get, Tables.get_of_sound (by simpa using sound)]
    have known : (s.tables.names? (Write.update u).table).isSome := by simp [Write.table, sound]
    exact congrArg Except.ok ((Tables.row?_write known _ _).trans (if_pos ⟨rfl, rfl⟩))
  · rw [update_of_tables refused] at done
    cases done

/-- **An update alone and a transaction of it** come to the same. They leave the same store, with
the same count of write calls. They succeed together and fail together, with one error for an
unknown table or a wrong key; a condition that is false is reported by the table of the update on
the one side and as the only reason on the other. After a success the row under the key holds under
every name the last value assigned to it, else what it held before, and if it was missing the key
attribute, else nothing. -/
theorem update_is_a_transaction_of_one (s : Store) (u : Update) :
    (s.update u).2 = (s.transact [.update u]).2 ∧
    s.tables.Fares u (s.update u).1 (s.transact [.update u]).1 ∧
    ((s.update u).1 = .ok () → ∃ old row, s.get u.table u.key = .ok old ∧
      (s.update u).2.get u.table u.key = .ok (some row) ∧
      ∀ name, row.get? name = (u.assigned? name).or (u.found? old name)) := by
  obtain ⟨left, replies⟩ := s.tables.fares u
  refine ⟨congrArg (Store.mk · (s.writeCalls + 1)) left, replies, fun done => ?_⟩
  obtain ⟨old, before, after⟩ := get_after_update done
  exact ⟨old, _, before, after, u.get?_result old⟩

-- The later of two assignments counts, and an assignment counts more than the key.
example :
    let key := Key.of "findingType" "EC2.1" "findingId" "f1"
    let u := (((Update.of "findings" key).set "severity" (.text "LOW")).set
      "findingId" (.text "f2")).set "severity" (.text "HIGH")
    ((empty.addTable "findings" "findingType" "findingId").update u).2.get "findings" key =
      .ok (some (.ofList [("findingId", .text "f2"), ("findingType", .text "EC2.1"),
        ("severity", .text "HIGH")])) := by
  decide +kernel

end Store

end RemediationLedger
