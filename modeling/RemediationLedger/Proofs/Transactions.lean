/-
The contract of a transaction.

A transaction is decided by two questions that are settled one after the other,
and by nothing else. The first is about its targets: each table must be known,
each key must have the attribute names of its table, and no row may be named
twice. The first write that offends decides the error (`FirstFault`), whatever
the conditions say. The second is about its conditions, all of them put to the
tables as they are before the transaction: if one is false, each write gets a
reason of its own (`Judged`). Only then are rows written, and as the targets are
sound and differ, each written row follows from the one that was there
(`row?_foldl_write_of_mem`).

`transaction_contract` is all of this as one statement about every store and
every list of writes. `Store.transact_ok_iff` and `Store.transact_canceled_iff`
are the parts of it that other proofs rewrite with.

## How the proof goes

* The check of the targets is a recursion that carries along which rows are
  taken. What it finds is said without the recursion: it passes exactly if every
  target is sound and no row is named twice (`checkTargets_nil_eq_ok`), and it
  fails exactly with the fault of the first write that has one
  (`checkTargets_nil_eq_error`). Which rows are taken matters here, and not the
  order in which they were named (`Fault.congr`).
* The reasons are a list with one entry for each write, and `judged_reasons`
  relates them position by position.
* Writes to different rows do not meet, so each leaves what it makes of the row
  that was there before the transaction, wherever in the list it stands.

Either the targets are in order or there is a first fault
(`inOrder_or_firstFault`); with that the three cases are exhaustive and the
contract leaves no transaction out, not even the one without writes.
-/
import Mathlib.Data.List.Forall2
import RemediationLedger.Proofs.Footprint

namespace RemediationLedger

namespace Tables

variable {t : Tables} {ws : List Write}

/-! ## Targets -/

inductive Fault (t : Tables) (named : List Location) (w : Write) : StoreError → Prop
  | unknown (unknown : t.names? w.table = none) : Fault t named w (.tableNotFound w.table)
  | mismatch {names : KeyNames} (known : t.names? w.table = some names)
      (differ : w.key.names ≠ names) :
      Fault t named w (.invalidRequest (.keyMismatch w.key.names names w.table))
  | repeated (sound : t.names? w.table = some w.key.names) (taken : w.location ∈ named) :
      Fault t named w (.invalidRequest (.repeatedTarget w.table w.key.slot))

/-- Every target is sound and no row is named twice. -/
structure InOrder (t : Tables) (ws : List Write) : Prop where
  sound : ∀ w ∈ ws, t.names? w.table = some w.key.names
  apart : (ws.map Write.location).Nodup

theorem inOrder_nil (t : Tables) : t.InOrder [] :=
  ⟨fun _ h => (List.not_mem_nil h).elim, List.nodup_nil⟩

theorem inOrder_cons {w : Write} :
    t.InOrder (w :: ws) ↔
      t.names? w.table = some w.key.names ∧ w.location ∉ ws.map Write.location ∧ t.InOrder ws := by
  constructor
  · intro ⟨sounds, apart⟩
    obtain ⟨sound, sounds⟩ := List.forall_mem_cons.mp sounds
    obtain ⟨once, apart⟩ := List.nodup_cons.mp apart
    exact ⟨sound, once, sounds, apart⟩
  · intro ⟨sound, once, sounds, apart⟩
    exact ⟨List.forall_mem_cons.mpr ⟨sound, sounds⟩, List.nodup_cons.mpr ⟨once, apart⟩⟩

theorem inOrder_write {v : Write} : (t.write v).InOrder ws ↔ t.InOrder ws := by
  constructor
  · intro ⟨sounds, apart⟩
    exact ⟨fun w hw => (names?_write t v w.table).symm.trans (sounds w hw), apart⟩
  · intro ⟨sounds, apart⟩
    exact ⟨fun w hw => (names?_write t v w.table).trans (sounds w hw), apart⟩

/-- The first write whose target is at fault, and what is wrong with it. -/
def FirstFault (t : Tables) (ws : List Write) (e : StoreError) : Prop :=
  ∃ before w rest, ws = before ++ w :: rest ∧ t.InOrder before ∧
    t.Fault (before.map Write.location) w e

theorem fault_or_sound (t : Tables) (named : List Location) (w : Write) :
    (∃ e, t.Fault named w e) ∨ (t.names? w.table = some w.key.names ∧ w.location ∉ named) := by
  cases known : t.names? w.table with
  | none => exact .inl ⟨_, .unknown known⟩
  | some names =>
    by_cases same : w.key.names = names
    · subst same
      by_cases taken : w.location ∈ named
      · exact .inl ⟨_, .repeated known taken⟩
      · exact .inr ⟨rfl, taken⟩
    · exact .inl ⟨_, .mismatch known same⟩

/-- Only which rows are taken matters, not in which order they were named. -/
theorem Fault.congr {named named' : List Location} {w : Write} {e : StoreError}
    (h : t.Fault named w e) (same : ∀ l, l ∈ named ↔ l ∈ named') : t.Fault named' w e := by
  cases h with
  | unknown unknown => exact .unknown unknown
  | mismatch known differ => exact .mismatch known differ
  | repeated sound taken => exact .repeated sound ((same _).mp taken)

theorem checkTarget_of_unknown {table : String} (unknown : t.names? table = none) (key : Key) :
    t.checkTarget table key = .error (.tableNotFound table) := by
  have absent : t.get? table = none := Option.map_eq_none_iff.mp unknown
  simp [checkTarget, absent]

theorem checkTarget_of_mismatch {table : String} {names : KeyNames} {key : Key}
    (known : t.names? table = some names) (differ : key.names ≠ names) :
    t.checkTarget table key = .error (.invalidRequest (.keyMismatch key.names names table)) := by
  obtain ⟨entry, present, rfl⟩ := Option.map_eq_some_iff.mp known
  simp [checkTarget, present, differ]

theorem Fault.checkTargets_cons {named : List Location} {w : Write} {e : StoreError}
    (h : t.Fault named w e) (rest : List Write) : t.checkTargets named (w :: rest) = .error e := by
  rw [checkTargets]
  cases h with
  | unknown unknown => rw [checkTarget_of_unknown unknown]
  | mismatch known differ => rw [checkTarget_of_mismatch known differ]
  | repeated sound taken =>
    rw [checkTarget_eq_ok.mpr sound]
    exact if_pos taken

theorem checkTargets_cons_of_sound {named : List Location} {w : Write}
    (sound : t.names? w.table = some w.key.names) (fresh : w.location ∉ named)
    (rest : List Write) :
    t.checkTargets named (w :: rest) = t.checkTargets (w.location :: named) rest := by
  rw [checkTargets, checkTarget_eq_ok.mpr sound]
  exact if_neg fresh

/-- The check passes where every target is sound and names a row that is still free. -/
theorem checkTargets_eq_ok {named : List Location} :
    t.checkTargets named ws = .ok () ↔ t.InOrder ws ∧ ∀ w ∈ ws, w.location ∉ named := by
  induction ws generalizing named with
  | nil => exact iff_of_true rfl ⟨inOrder_nil t, by simp⟩
  | cons v ws ih =>
    rcases fault_or_sound t named v with ⟨e, fault⟩ | ⟨sound, fresh⟩
    · rw [fault.checkTargets_cons]
      refine iff_of_false (by simp) ?_
      rintro ⟨inOrder, free⟩
      have sound := inOrder.sound v List.mem_cons_self
      cases fault with
      | unknown unknown => simp [unknown] at sound
      | mismatch known differ => exact differ (Option.some.inj (sound.symm.trans known))
      | repeated _ taken => exact free v List.mem_cons_self taken
    · rw [checkTargets_cons_of_sound sound fresh, ih, inOrder_cons, List.forall_mem_cons]
      constructor
      · rintro ⟨inOrder, free⟩
        refine ⟨⟨sound, fun again => ?_, inOrder⟩, fresh, fun w hw taken => ?_⟩
        · obtain ⟨w, hw, same⟩ := List.mem_map.mp again
          exact free w hw (same ▸ List.mem_cons_self)
        · exact free w hw (List.mem_cons_of_mem _ taken)
      · rintro ⟨⟨-, once, inOrder⟩, -, free⟩
        refine ⟨inOrder, fun w hw taken => ?_⟩
        rcases List.mem_cons.mp taken with same | taken
        · exact once (same ▸ List.mem_map_of_mem hw)
        · exact free w hw taken

/-- Writes that pass the check only take their rows from the writes behind them. -/
theorem checkTargets_append {named : List Location} {before : List Write}
    (passed : t.checkTargets named before = .ok ()) (rest : List Write) :
    t.checkTargets named (before ++ rest) =
      t.checkTargets ((before.map Write.location).reverse ++ named) rest := by
  induction before generalizing named with
  | nil => rfl
  | cons v before ih =>
    rcases fault_or_sound t named v with ⟨e, fault⟩ | ⟨sound, fresh⟩
    · rw [fault.checkTargets_cons] at passed
      cases passed
    · rw [checkTargets_cons_of_sound sound fresh] at passed
      rw [List.cons_append, checkTargets_cons_of_sound sound fresh, ih passed]
      simp

/-- A check that fails fails at a first write. -/
theorem fault_of_checkTargets {named : List Location} {e : StoreError}
    (refused : t.checkTargets named ws = .error e) :
    ∃ before w rest, ws = before ++ w :: rest ∧ t.checkTargets named before = .ok () ∧
      t.Fault ((before.map Write.location).reverse ++ named) w e := by
  induction ws generalizing named with
  | nil => cases refused
  | cons v ws ih =>
    rcases fault_or_sound t named v with ⟨e', fault⟩ | ⟨sound, fresh⟩
    · rw [fault.checkTargets_cons] at refused
      cases refused
      exact ⟨[], v, ws, rfl, rfl, fault⟩
    · rw [checkTargets_cons_of_sound sound fresh] at refused
      obtain ⟨before, w, rest, rfl, passed, fault⟩ := ih refused
      refine ⟨v :: before, w, rest, rfl, ?_, by simpa using fault⟩
      rw [checkTargets_cons_of_sound sound fresh, passed]

theorem checkTargets_nil_eq_ok : t.checkTargets [] ws = .ok () ↔ t.InOrder ws := by
  simp [checkTargets_eq_ok]

/-- The check fails with the fault of the first write that has one. -/
theorem checkTargets_nil_eq_error {e : StoreError} :
    t.checkTargets [] ws = .error e ↔ t.FirstFault ws e := by
  constructor
  · intro refused
    obtain ⟨before, w, rest, split, passed, fault⟩ := fault_of_checkTargets refused
    exact ⟨before, w, rest, split, checkTargets_nil_eq_ok.mp passed, fault.congr (by simp)⟩
  · rintro ⟨before, w, rest, rfl, inOrder, fault⟩
    rw [checkTargets_append (checkTargets_nil_eq_ok.mpr inOrder)]
    exact (fault.congr (by simp)).checkTargets_cons rest

/-! ## Conditions -/

def Meets (t : Tables) (w : Write) : Prop :=
  match w.condition with
  | none => True
  | some .keyExists => ∃ item, t.row? w.table w.key.slot = some item
  | some .keyNotExists => t.row? w.table w.key.slot = none

/-- The reason reported for a write tells whether its own condition was true. -/
structure Judged (t : Tables) (w : Write) (reason : CancellationReason) : Prop where
  atFault : reason = .conditionFailed ↔ ¬t.Meets w
  notAtFault : reason = .notAtFault ↔ t.Meets w

theorem admits_iff {w : Write} : t.admits w = true ↔ t.Meets w := by
  unfold admits Write.admits Meets
  cases w.condition with
  | none => simp
  | some condition =>
    cases condition with
    | keyExists => exact Option.isSome_iff_exists
    | keyNotExists => simp [Condition.holds]

theorem judged_reasons : List.Forall₂ t.Judged ws (t.reasons ws) := by
  refine List.forall₂_map_right_iff.mpr (List.forall₂_same.mpr fun w _ => ?_)
  have met := admits_iff (t := t) (w := w)
  by_cases admitted : t.admits w = true
  · rw [if_pos admitted]
    exact ⟨iff_of_false (by simp) (not_not_intro (met.mp admitted)),
      iff_of_true rfl (met.mp admitted)⟩
  · rw [if_neg admitted]
    exact ⟨iff_of_true rfl (mt met.mpr admitted),
      iff_of_false (by simp) (mt met.mpr admitted)⟩

/-! ## Rows -/

/-- Of writes that target different rows each leaves what it makes of the row that was there. -/
theorem row?_foldl_write_of_mem (inOrder : t.InOrder ws) {w : Write} (hw : w ∈ ws) :
    (ws.foldl write t).row? w.table w.key.slot =
      some (w.result (t.row? w.table w.key.slot)) := by
  induction ws generalizing t with
  | nil => cases hw
  | cons v ws ih =>
    obtain ⟨sound, once, later⟩ := inOrder_cons.mp inOrder
    rw [List.foldl_cons]
    rcases List.mem_cons.mp hw with rfl | hw
    · rw [row?_foldl_write_of_notMem once, row?_write (by simp [sound]), if_pos ⟨rfl, rfl⟩]
    · have other : ¬(w.table = v.table ∧ w.key.slot = v.key.slot) := fun same =>
        once (List.mem_map.mpr ⟨w, hw, Prod.ext same.1 same.2⟩)
      rw [ih (inOrder_write.mpr later) hw, row?_write_of_ne t v other]

theorem get?_foldl_write_of_ne {table : String} (other : ∀ w ∈ ws, w.table ≠ table)
    (t : Tables) : (ws.foldl write t).get? table = t.get? table := by
  induction ws generalizing t with
  | nil => rfl
  | cons w ws ih =>
    obtain ⟨here, later⟩ := List.forall_mem_cons.mp other
    rw [List.foldl_cons, ih later, write, setRow, get?_mapRows, if_neg here.symm]

/-- What a transaction leaves if it goes through. -/
structure Carried (t : Tables) (ws : List Write) (t' : Tables) : Prop where
  put : ∀ p, .put p ∈ ws → t'.row? p.table p.key.slot = some p.item
  update : ∀ u, .update u ∈ ws → t'.row? u.table u.key.slot =
    some (((t.row? u.table u.key.slot).getD u.key.toItem).insertAll u.assignments)
  otherRow : ∀ table slot, (table, slot) ∉ ws.map Write.location →
    t'.row? table slot = t.row? table slot
  otherTable : ∀ table, (∀ w ∈ ws, w.table ≠ table) → t'.get? table = t.get? table
  names : ∀ table, t'.names? table = t.names? table

theorem carried_foldl_write (inOrder : t.InOrder ws) : t.Carried ws (ws.foldl write t) where
  put _ hp := row?_foldl_write_of_mem inOrder hp
  update _ hu := row?_foldl_write_of_mem inOrder hu
  otherRow _ _ other := row?_foldl_write_of_notMem other t
  otherTable _ other := get?_foldl_write_of_ne other t
  names := names?_foldl_write t ws

/-! ## The whole transaction -/

theorem transact_of_firstFault {e : StoreError} (fault : t.FirstFault ws e) :
    t.transact ws = (.error e, t) := by
  have nonempty : ws ≠ [] := by
    obtain ⟨before, w, rest, rfl, -⟩ := fault
    simp
  simp [transact_eq, nonempty, checkTargets_nil_eq_error.mpr fault]

theorem transact_of_meets (nonempty : ws ≠ []) (inOrder : t.InOrder ws)
    (met : ∀ w ∈ ws, t.Meets w) : t.transact ws = (.ok (), ws.foldl write t) := by
  have admitted : ∀ w ∈ ws, t.admits w = true := fun w hw => admits_iff.mpr (met w hw)
  rw [transact_eq, if_neg nonempty, checkTargets_nil_eq_ok.mpr inOrder]
  exact if_pos admitted

theorem transact_of_not_meets (inOrder : t.InOrder ws) {w : Write} (hw : w ∈ ws)
    (unmet : ¬t.Meets w) :
    t.transact ws = (.error (.transactionCanceled (t.reasons ws)), t) := by
  have refused : ¬∀ w ∈ ws, t.admits w = true := fun admitted =>
    unmet (admits_iff.mp (admitted w hw))
  rw [transact_eq, if_neg (List.ne_nil_of_mem hw), checkTargets_nil_eq_ok.mpr inOrder]
  exact if_neg refused

theorem inOrder_or_firstFault (t : Tables) (ws : List Write) :
    t.InOrder ws ∨ ∃ e, t.FirstFault ws e := by
  cases checked : t.checkTargets [] ws with
  | ok => exact .inl (checkTargets_nil_eq_ok.mp checked)
  | error e => exact .inr ⟨e, checkTargets_nil_eq_error.mp checked⟩

theorem transact_ok_iff :
    (t.transact ws).1 = .ok () ↔ ws ≠ [] ∧ t.InOrder ws ∧ ∀ w ∈ ws, t.Meets w := by
  constructor
  · intro done
    obtain ⟨nonempty, admitted, -⟩ := transact_of_ok done
    refine ⟨nonempty, ?_, fun w hw => admits_iff.mp (admitted w hw)⟩
    rcases inOrder_or_firstFault t ws with inOrder | ⟨e, fault⟩
    · exact inOrder
    · rw [transact_of_firstFault fault] at done
      cases done
  · rintro ⟨nonempty, inOrder, met⟩
    rw [transact_of_meets nonempty inOrder met]

theorem transact_canceled_iff {reasons : List CancellationReason} :
    (t.transact ws).1 = .error (.transactionCanceled reasons) ↔
      t.InOrder ws ∧ (∃ w ∈ ws, ¬t.Meets w) ∧ reasons = t.reasons ws := by
  constructor
  · intro canceled
    rcases inOrder_or_firstFault t ws with inOrder | ⟨e, fault⟩
    · by_cases unmet : ∃ w ∈ ws, ¬t.Meets w
      · obtain ⟨w, hw, not⟩ := unmet
        rw [transact_of_not_meets inOrder hw not] at canceled
        cases canceled
        exact ⟨inOrder, ⟨w, hw, not⟩, rfl⟩
      · by_cases nonempty : ws = []
        · subst nonempty
          cases canceled
        · have met : ∀ w ∈ ws, t.Meets w := by simpa using unmet
          rw [transact_of_meets nonempty inOrder met] at canceled
          cases canceled
    · rw [transact_of_firstFault fault] at canceled
      obtain ⟨before, w, rest, -, -, here⟩ := fault
      cases canceled
      cases here
  · rintro ⟨inOrder, ⟨w, hw, unmet⟩, rfl⟩
    rw [transact_of_not_meets inOrder hw unmet]

end Tables

namespace Store

variable {s : Store} {ws : List Write}

theorem transact_ok_iff :
    (s.transact ws).1 = .ok () ↔
      ws ≠ [] ∧ s.tables.InOrder ws ∧ ∀ w ∈ ws, s.tables.Meets w :=
  Tables.transact_ok_iff

theorem transact_canceled_iff {reasons : List CancellationReason} :
    (s.transact ws).1 = .error (.transactionCanceled reasons) ↔
      s.tables.InOrder ws ∧ (∃ w ∈ ws, ¬s.tables.Meets w) ∧ reasons = s.tables.reasons ws :=
  Tables.transact_canceled_iff

theorem tables_transact_of_ok (done : (s.transact ws).1 = .ok ()) :
    (s.transact ws).2.tables = ws.foldl Tables.write s.tables :=
  (Tables.transact_of_ok done).2.2

/-- **The contract of a transaction.** Every transaction counts as one write call, and one that
is refused leaves all tables alone. Without writes it is refused as a malformed request. The
first write whose target is at fault decides the error, whatever the conditions are. If no
target is at fault, a condition that is false cancels the transaction, with a reason for each
write; and if all conditions are true, every write is carried out and nothing else changes. -/
theorem transaction_contract (s : Store) (ws : List Write) :
    (s.transact ws).2.writeCalls = s.writeCalls + 1 ∧
    (∀ e, (s.transact ws).1 = .error e → (s.transact ws).2.tables = s.tables) ∧
    (ws = [] → (s.transact ws).1 = .error (.invalidRequest .emptyTransaction)) ∧
    (∀ e, s.tables.FirstFault ws e → (s.transact ws).1 = .error e) ∧
    (ws ≠ [] → s.tables.InOrder ws →
      ((∃ w ∈ ws, ¬s.tables.Meets w) → ∃ reasons,
        (s.transact ws).1 = .error (.transactionCanceled reasons) ∧
        List.Forall₂ s.tables.Judged ws reasons) ∧
      ((∀ w ∈ ws, s.tables.Meets w) →
        (s.transact ws).1 = .ok () ∧ s.tables.Carried ws (s.transact ws).2.tables)) ∧
    (s.tables.InOrder ws ∨ ∃ e, s.tables.FirstFault ws e) := by
  refine ⟨s.answer_writeCalls (.transact ws), fun _ => Tables.transact_of_error, ?_, ?_, ?_,
    s.tables.inOrder_or_firstFault ws⟩
  · rintro rfl
    rfl
  · intro e fault
    exact congrArg Prod.fst (Tables.transact_of_firstFault fault)
  · intro nonempty inOrder
    constructor
    · intro unmet
      exact ⟨_, transact_canceled_iff.mpr ⟨inOrder, unmet, rfl⟩, Tables.judged_reasons⟩
    · intro met
      have done := transact_ok_iff.mpr ⟨nonempty, inOrder, met⟩
      rw [tables_transact_of_ok done]
      exact ⟨done, Tables.carried_foldl_write inOrder⟩

end Store

end RemediationLedger
