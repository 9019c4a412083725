/-
The order of the writes of a transaction.

Writes to different rows commute (`write_write_comm`), so what a transaction
leaves is the same for every order of its writes (`foldl_write_perm`). Whether
it goes through is the same as well: its conditions are all put to the tables as
they were, and in a sequence of single transactions a condition meets tables
that differ from those in rows of other writes only (`meets_write`).

The orders of a list are taken as permutations of its positions, so that the
reasons of a cancelled transaction can be said to move along with the writes
(`Reordered`).

## Statement

`transact_in_any_order` is about a list of any length of writes to different
rows, and any permutation of it. As one transaction, the list goes through in
the one order exactly if it does in the other, leaves the same tables, is
cancelled in the same cases, and then with the same reasons in the permuted
places. And it goes through exactly if single transactions do, one for each
write in the permuted order; then they leave the same tables as well.

The last part is the one that needs an argument about time. The second of two
single transactions meets tables that the first one has changed, but in another
row, and its condition looks at its own row only. If one of the single
transactions is refused, those before it have been carried out: the two ways
agree in success, and what they leave otherwise is not the same.
-/
import Mathlib.Data.Fintype.Perm
import Mathlib.Data.List.OfFn
import RemediationLedger.Proofs.Transactions

namespace RemediationLedger

/-! ## Orders -/

/-- The second list has at each position `i` what the first one has at `order i`. -/
def Reordered {α : Type} {n : Nat} (order : Equiv.Perm (Fin n)) (l l' : List α) : Prop :=
  ∃ f : Fin n → α, l = List.ofFn f ∧ l' = List.ofFn (f ∘ order)

namespace Reordered

variable {α β : Type} {n : Nat} {order : Equiv.Perm (Fin n)} {l l' : List α}

theorem perm (h : Reordered order l l') : l.Perm l' := by
  obtain ⟨f, rfl, rfl⟩ := h
  exact (order.ofFn_comp_perm f).symm

theorem map (h : Reordered order l l') (g : α → β) : Reordered order (l.map g) (l'.map g) := by
  obtain ⟨f, rfl, rfl⟩ := h
  exact ⟨g ∘ f, List.map_ofFn .., List.map_ofFn ..⟩

end Reordered

namespace Tables

variable {t : Tables} {v w : Write} {ws ws' : List Write}

/-! ## Writes to different rows -/

/-- Writes to different rows come to the same in either order. -/
theorem write_write_comm (apart : v.location ≠ w.location) (t : Tables) :
    (t.write v).write w = (t.write w).write v := by
  have unnoticed (v w : Write) (apart : v.location ≠ w.location) :
      ((t.write v).write w).row? v.table v.key.slot =
        ((t.write w).write v).row? v.table v.key.slot := by
    have agree : AgreeOn [v.location] t (t.write w) := by
      refine ⟨names?_write t w, fun table slot listed => row?_write_of_ne t w fun here => apart ?_⟩
      rw [← List.mem_singleton.mp listed]
      exact Prod.ext here.1 here.2
    rw [(agree.write v).rows v.table v.key.slot List.mem_cons_self]
    exact row?_write_of_ne _ w fun here => apart (Prod.ext here.1 here.2)
  refine ext_row? (fun table => by simp) fun table slot => ?_
  by_cases ofV : (table, slot) = v.location
  · cases ofV
    exact unnoticed v w apart
  by_cases ofW : (table, slot) = w.location
  · cases ofW
    exact (unnoticed w v apart.symm).symm
  · have notV : ¬(table = v.table ∧ slot = v.key.slot) := fun here => ofV (Prod.ext here.1 here.2)
    have notW : ¬(table = w.table ∧ slot = w.key.slot) := fun here => ofW (Prod.ext here.1 here.2)
    simp only [row?_write_of_ne _ _ notV, row?_write_of_ne _ _ notW]

/-- What is left by writes to different rows does not depend on their order. -/
theorem foldl_write_perm (perm : ws.Perm ws') (apart : (ws.map Write.location).Nodup)
    (t : Tables) : ws'.foldl write t = ws.foldl write t := by
  refine (perm.foldl_eq' (fun v hv w hw t => ?_) t).symm
  by_cases same : v = w
  · rw [same]
  · exact write_write_comm (fun here => same (List.inj_on_of_nodup_map apart hv hw here)) t

theorem InOrder.perm (h : t.InOrder ws) (perm : ws.Perm ws') : t.InOrder ws' :=
  ⟨fun w hw => h.sound w (perm.mem_iff.mpr hw), (perm.map _).nodup_iff.mp h.apart⟩

/-- A condition does not notice a write to another row. -/
theorem meets_write (apart : v.location ≠ w.location) : (t.write v).Meets w ↔ t.Meets w := by
  have other : ¬(w.table = v.table ∧ w.key.slot = v.key.slot) := fun same =>
    apart (Prod.ext same.1.symm same.2.symm)
  unfold Meets
  rw [row?_write_of_ne t v other]

end Tables

namespace Store

variable {s : Store} {ws ws' : List Write}

/-! ## One write after the other -/

def transactEach (s : Store) : List Write → List (Except StoreError Unit) × Store
  | [] => ([], s)
  | w :: rest =>
    let (reply, s) := s.transact [w]
    let (replies, s) := s.transactEach rest
    (reply :: replies, s)

/-- Single transactions all go through exactly if one transaction of all the writes would. -/
theorem transactEach_ok_iff (apart : (ws.map Write.location).Nodup) :
    (∀ reply ∈ (s.transactEach ws).1, reply = .ok ()) ↔
      s.tables.InOrder ws ∧ ∀ w ∈ ws, s.tables.Meets w := by
  induction ws generalizing s with
  | nil => simp [transactEach, Tables.inOrder_nil]
  | cons w ws ih =>
    obtain ⟨once, apart⟩ := List.nodup_cons.mp apart
    change (∀ reply ∈ (s.transact [w]).1 :: ((s.transact [w]).2.transactEach ws).1, _) ↔ _
    rw [List.forall_mem_cons, ih apart, Tables.inOrder_cons, List.forall_mem_cons]
    have single : (s.transact [w]).1 = .ok () ↔
        s.tables.names? w.table = some w.key.names ∧ s.tables.Meets w := by
      simp [transact_ok_iff, Tables.inOrder_cons, Tables.inOrder_nil]
    by_cases done : (s.transact [w]).1 = .ok ()
    · -- the other writes do not notice this one, as it is in a row of its own
      obtain ⟨sound, met⟩ := single.mp done
      rw [tables_transact_of_ok done, List.foldl_cons, List.foldl_nil, Tables.inOrder_write]
      have unnoticed : (∀ v ∈ ws, (s.tables.write w).Meets v) ↔ ∀ v ∈ ws, s.tables.Meets v :=
        forall₂_congr fun v hv => Tables.meets_write fun same =>
          once (same ▸ List.mem_map_of_mem hv)
      simp [done, sound, met, once, unnoticed]
    · have refused := mt single.mpr done
      constructor
      · rintro ⟨here, -⟩
        exact absurd here done
      · rintro ⟨⟨sound, -⟩, met, -⟩
        exact absurd ⟨sound, met⟩ refused

theorem tables_transactEach (done : ∀ reply ∈ (s.transactEach ws).1, reply = .ok ()) :
    (s.transactEach ws).2.tables = ws.foldl Tables.write s.tables := by
  induction ws generalizing s with
  | nil => rfl
  | cons w ws ih =>
    change ∀ reply ∈ (s.transact [w]).1 :: ((s.transact [w]).2.transactEach ws).1, _ at done
    obtain ⟨first, rest⟩ := List.forall_mem_cons.mp done
    have left := ih rest
    rwa [tables_transact_of_ok first] at left

theorem tables_transact_of_ne_ok (refused : (s.transact ws).1 ≠ .ok ()) :
    (s.transact ws).2.tables = s.tables := by
  cases reply : (s.transact ws).1 with
  | ok => exact absurd reply refused
  | error e => exact Tables.transact_of_error reply

/-- **The order of the writes does not matter.** A transaction on different rows goes through
exactly if each of its writes does as a transaction of its own, one after the other in whatever
order, and then leaves the same tables. In every other order of its writes it goes through or is
cancelled just as well, with the same tables left and with the reasons in that order. -/
theorem transact_in_any_order {n : Nat} (s : Store) (order : Equiv.Perm (Fin n))
    (nonempty : ws ≠ []) (apart : (ws.map Write.location).Nodup)
    (reordered : Reordered order ws ws') :
    ((s.transact ws).1 = .ok () ↔ ∀ reply ∈ (s.transactEach ws').1, reply = .ok ()) ∧
    ((s.transact ws).1 = .ok () → (s.transactEach ws').2.tables = (s.transact ws).2.tables) ∧
    ((s.transact ws').1 = .ok () ↔ (s.transact ws).1 = .ok ()) ∧
    (s.transact ws').2.tables = (s.transact ws).2.tables ∧
    ((∃ reasons, (s.transact ws).1 = .error (.transactionCanceled reasons)) ↔
      ∃ reasons', (s.transact ws').1 = .error (.transactionCanceled reasons')) ∧
    ∀ reasons reasons', (s.transact ws).1 = .error (.transactionCanceled reasons) →
      (s.transact ws').1 = .error (.transactionCanceled reasons') →
      Reordered order reasons reasons' := by
  have perm := reordered.perm
  have apart' := (perm.map Write.location).nodup_iff.mp apart
  have nonempty' : ws' ≠ [] := fun empty => nonempty (empty ▸ perm).eq_nil
  have inOrder : s.tables.InOrder ws' ↔ s.tables.InOrder ws :=
    ⟨fun h => h.perm perm.symm, fun h => h.perm perm⟩
  have met : (∀ w ∈ ws', s.tables.Meets w) ↔ ∀ w ∈ ws, s.tables.Meets w :=
    forall_congr' fun w => by rw [perm.mem_iff]
  have unmet : (∃ w ∈ ws', ¬s.tables.Meets w) ↔ ∃ w ∈ ws, ¬s.tables.Meets w :=
    exists_congr fun w => by rw [perm.mem_iff]
  have same : (s.transact ws').1 = .ok () ↔ (s.transact ws).1 = .ok () := by
    rw [transact_ok_iff, transact_ok_iff, inOrder, met]
    simp only [nonempty, nonempty', ne_eq, not_false_eq_true, true_and]
  have each : (s.transact ws).1 = .ok () ↔ ∀ reply ∈ (s.transactEach ws').1, reply = .ok () := by
    rw [← same, transact_ok_iff, transactEach_ok_iff apart', and_iff_right nonempty']
  have left : ws'.foldl Tables.write s.tables = ws.foldl Tables.write s.tables :=
    Tables.foldl_write_perm perm apart s.tables
  refine ⟨each, fun done => ?_, same, ?_, ?_, ?_⟩
  · rw [tables_transactEach (each.mp done), tables_transact_of_ok done, left]
  · by_cases done : (s.transact ws).1 = .ok ()
    · rw [tables_transact_of_ok (same.mpr done), tables_transact_of_ok done, left]
    · rw [tables_transact_of_ne_ok (mt same.mp done), tables_transact_of_ne_ok done]
  · simp only [transact_canceled_iff, inOrder, unmet, exists_and_left, exists_eq]
  · intro reasons reasons' canceled canceled'
    rw [(transact_canceled_iff.mp canceled).2.2, (transact_canceled_iff.mp canceled').2.2]
    exact reordered.map _

def oneFinding : Store where
  tables := .ofList [("findings", ⟨⟨"findingType", "findingId"⟩,
    .ofList [(⟨"EC2.1", "f1"⟩, .empty)]⟩)]
  writeCalls := 0

def queueing (finding : String) : Write :=
  .update ⟨"findings", .of "findingType" "EC2.1" "findingId" finding,
    [("remediationStatus", .text "QUEUED")], some .keyExists⟩

theorem transact_in_any_order_of_two :
    Reordered (Equiv.swap (0 : Fin 2) 1) [queueing "f1", queueing "f2"]
      [queueing "f2", queueing "f1"] ∧
    (oneFinding.transact [queueing "f1", queueing "f2"]).1 =
      .error (.transactionCanceled [.notAtFault, .conditionFailed]) ∧
    (oneFinding.transact [queueing "f2", queueing "f1"]).1 =
      .error (.transactionCanceled [.conditionFailed, .notAtFault]) ∧
    Reordered (Equiv.swap (0 : Fin 2) 1) [CancellationReason.notAtFault, .conditionFailed]
      [.conditionFailed, .notAtFault] := by
  have reordered : Reordered (Equiv.swap (0 : Fin 2) 1) [queueing "f1", queueing "f2"]
      [queueing "f2", queueing "f1"] :=
    ⟨[queueing "f1", queueing "f2"].get, rfl, rfl⟩
  have canceled : (oneFinding.transact [queueing "f1", queueing "f2"]).1 =
      .error (.transactionCanceled [.notAtFault, .conditionFailed]) := by decide +kernel
  have canceled' : (oneFinding.transact [queueing "f2", queueing "f1"]).1 =
      .error (.transactionCanceled [.conditionFailed, .notAtFault]) := by decide +kernel
  obtain ⟨-, -, -, -, -, reasons⟩ := transact_in_any_order oneFinding (Equiv.swap 0 1)
    (by simp) (by decide +kernel) reordered
  exact ⟨reordered, canceled, canceled', reasons _ _ canceled canceled'⟩

end Store

end RemediationLedger
