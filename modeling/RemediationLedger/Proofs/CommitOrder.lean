/-
Tasks with one transaction each, in any order.

A store carries out a transaction in one piece, so what any number of tasks come
to is decided by the order in which they are served. `World.tasksAfter` is the
world after some of them have been, and `World.ran_concat` says what one more
does to it. Whatever that keeps holds in every order, and in the middle of it
just as well (`tasks_induction`).

There are three such laws, each an invariant of its own. Of creations of one row
the first goes through and the others are told so (`OneCreated`). Creations of
different rows do not notice each other (`AllCreated`). And two rows that are
always updated together never part (`Together`).

## Statements

`tasks_in_any_order` has all three laws, for tasks of any index type, any
duplicate-free order in which they are served, and any number of them served so
far. Each law speaks of the results of all tasks served, of the rows that are
left and, for creations, of the winner by name.

## How the proof goes

Nothing is said about an order but that it is one: `tasks_induction` is an
induction on the list of tasks from its end, in which the task that is served
last meets the world that the others left. What it meets is decided by the row
that it writes to, and so a law needs three facts about single transactions:
what a creation comes to without the row (`Creates.of_absent`), with it
(`Creates.of_present`), and what it does to the rows (`Creates.row?_write`), and
the like for two assignments. The tables' names never change
(`names?_tasksAfter`), hence a sound target stays one.
-/
import Mathlib.Data.List.Induction
import RemediationLedger.Proofs.Recreated
import RemediationLedger.Proofs.SingleUpdate
import RemediationLedger.Proofs.WriteOrder

namespace RemediationLedger

namespace World

variable {ι : Type} [DecidableEq ι] {s : Store} {writes : ι → List Write} {ran : List ι}

/-! ## One task after another -/

/-- Tasks that make one transaction each, after some of them were served in this order. -/
def tasksAfter (s : Store) (writes : ι → List Write) (ran : List ι) :
    World ι (Except StoreError Unit) :=
  (opening s fun i => .transact (writes i)).run (ran.map .serve)

/-- A task that was not served has its transaction before it. -/
theorem pending_tasksAfter (s : Store) (writes : ι → List Write) {i : ι} (waiting : i ∉ ran) :
    (tasksAfter s writes ran).pending i = .call (.transact (writes i)) .done := by
  refine run_induction (P := fun w => w.pending i = .call (.transact (writes i)) .done) rfl ?_
  intro v m v' hm here effect
  obtain ⟨j, served, rfl⟩ := List.mem_map.mp hm
  have other : i ≠ j := fun same => waiting (same ▸ served)
  cases effect with
  | idle => exact here
  | served => rw [pending_afterTurn_of_ne _ other, here]

theorem names?_tasksAfter (s : Store) (writes : ι → List Write) (ran : List ι) (table : String) :
    (tasksAfter s writes ran).store.tables.names? table = s.tables.names? table :=
  run_induction (P := fun w => w.store.tables.names? table = s.tables.names? table) rfl
    fun _ _ _ _ same effect => (effect.names?_eq table).trans same

/-- What serving a task with these writes does to a world. -/
structure Ran (w : World ι (Except StoreError Unit)) (writes : List Write) (i : ι)
    (w' : World ι (Except StoreError Unit)) : Prop where
  store : w'.store = (w.store.transact writes).2
  result : w'.result? i = some (w.store.transact writes).1
  others : ∀ j, j ≠ i → w'.result? j = w.result? j

theorem ran_concat {i : ι} (waiting : i ∉ ran) :
    Ran (tasksAfter s writes ran) (writes i) i (tasksAfter s writes (ran ++ [i])) := by
  have effect := (tasksAfter s writes ran).effect_step (.serve i)
  have pending := pending_tasksAfter s writes waiting
  have next : tasksAfter s writes (ran ++ [i]) = (tasksAfter s writes ran).step (.serve i) := by
    rw [tasksAfter, List.map_append, List.map_singleton, run_concat, tasksAfter]
  rw [next]
  generalize (tasksAfter s writes ran).step (.serve i) = w' at effect ⊢
  cases effect with
  | @idle _ j result client ended =>
    obtain rfl : j = i := (Option.some.inj client).symm
    rw [pending] at ended
    cases ended
  | @served _ c cont reply s' here answered =>
    rw [pending] at here
    cases here
    have told : reply = _ := congrArg Prod.fst answered.symm
    refine ⟨congrArg Prod.snd answered.symm, ?_, fun j other => ?_⟩
    · rw [result?_eq_some, pending_afterTurn_self, told]
      rfl
    · rw [result?, result?, pending_afterTurn_of_ne _ other]

/-- Where all tasks have succeeded and one more does, all still have. -/
theorem Ran.all_done {ws : List Write} {i : ι} {w w' : World ι (Except StoreError Unit)}
    (step : Ran w ws i w') (done : (w.store.transact ws).1 = .ok ())
    (before : ∀ j ∈ ran, w.result? j = some (.ok ())) :
    ∀ j ∈ ran ++ [i], w'.result? j = some (.ok ()) := by
  intro j hj
  by_cases own : j = i
  · rw [own, step.result, done]
  · rw [step.others j own]
    exact before j (by simpa [own] using hj)

/-- What holds before any task is served, and is kept by serving one more, holds at each point of
every order. -/
theorem tasks_induction {P : List ι → World ι (Except StoreError Unit) → Prop}
    (start : P [] (tasksAfter s writes []))
    (step : ∀ ran i w w', i ∉ ran → (∀ table, w.store.tables.names? table = s.tables.names? table) →
      P ran w → Ran w (writes i) i w' → P (ran ++ [i]) w')
    (once : ran.Nodup) : P ran (tasksAfter s writes ran) := by
  induction ran using List.reverseRecOn with
  | nil => exact start
  | append_singleton ran i ih =>
    obtain ⟨once, -, apart⟩ := List.nodup_append.mp once
    have waiting : i ∉ ran := fun served => apart i served i List.mem_cons_self rfl
    exact step ran i _ _ waiting (names?_tasksAfter s writes ran) (ih once) (ran_concat waiting)

end World

/-! ## Creations -/

abbrev Put.location (p : Put) : Location := (Write.put p).location

/-- A put on a sound target, on the condition that there is no row. -/
structure Put.Creates (p : Put) (t : Tables) : Prop where
  sound : t.names? p.table = some p.key.names
  condition : p.condition = some .keyNotExists

namespace Put.Creates

variable {p : Put} {s : Store}

/-- What matters of the tables are the names of their keys. -/
theorem of_names {t t' : Tables} (h : p.Creates t)
    (names : ∀ table, t'.names? table = t.names? table) : p.Creates t' :=
  ⟨(names _).trans h.sound, h.condition⟩

theorem meets_iff {t : Tables} (h : p.Creates t) :
    t.Meets (.put p) ↔ t.row? p.table p.key.slot = none := by
  have condition : (Write.put p).condition = some .keyNotExists := h.condition
  simp only [Tables.Meets, condition]
  rfl

/-- Where there is no row the put makes one. -/
theorem of_absent (h : p.Creates s.tables) (absent : s.tables.row? p.table p.key.slot = none) :
    (s.transact [.put p]).1 = .ok () ∧
      (s.transact [.put p]).2.tables = s.tables.write (.put p) := by
  have done : (s.transact [.put p]).1 = .ok () := by
    rw [Store.transact_ok_iff]
    refine ⟨by simp, Tables.inOrder_singleton h.sound, ?_⟩
    simpa using h.meets_iff.mpr absent
  exact ⟨done, Store.tables_transact_of_ok done⟩

/-- Where there is a row the put is refused, and told why. -/
theorem of_present (h : p.Creates s.tables)
    (present : (s.tables.row? p.table p.key.slot).isSome) :
    (s.transact [.put p]).1 = .error (.transactionCanceled [.conditionFailed]) ∧
      (s.transact [.put p]).2.tables = s.tables := by
  have unmet : ¬s.tables.Meets (.put p) := by
    rw [h.meets_iff]
    exact Option.isSome_iff_ne_none.mp present
  have reasons : s.tables.reasons [.put p] = [.conditionFailed] := by
    simp [Tables.reasons, mt Tables.admits_iff.mp unmet]
  have canceled : (s.transact [.put p]).1 = .error (.transactionCanceled [.conditionFailed]) :=
    Store.transact_canceled_iff.mpr
      ⟨Tables.inOrder_singleton h.sound, ⟨_, List.mem_cons_self, unmet⟩, reasons.symm⟩
  refine ⟨canceled, Store.tables_transact_of_ne_ok ?_⟩
  simp [canceled]

/-- A row that was made is there, and the others are as they were. -/
theorem row?_write {t : Tables} (h : p.Creates t) (table : String) (slot : Slot) :
    (t.write (.put p)).row? table slot =
      if (table, slot) = p.location then some p.item else t.row? table slot := by
  have known : (t.names? (Write.put p).table).isSome := by simp [Write.table, h.sound]
  rw [Tables.row?_write known]
  simp [Put.location, Write.location, Write.result, Prod.ext_iff]

end Put.Creates

namespace World

variable {ι : Type} {puts : ι → Put} {ran : List ι}

/-! ### Of one row -/

/-- Tasks each create a row at one location: the first to be served has made it, and every other has
been told that it is there. -/
structure OneCreated (puts : ι → Put) (location : Location) (ran : List ι)
    (w : World ι (Except StoreError Unit)) : Prop where
  first : ∀ i ∈ ran, ran.head? = some i → w.result? i = some (.ok ())
  others : ∀ i ∈ ran, ran.head? ≠ some i →
    w.result? i = some (.error (.transactionCanceled [.conditionFailed]))
  row : w.store.tables.row? location.1 location.2 = ran.head?.map fun i => (puts i).item

theorem OneCreated.next {location : Location} {i : ι} {w w' : World ι (Except StoreError Unit)}
    (waiting : i ∉ ran) (creates : (puts i).Creates w.store.tables)
    (here : (puts i).location = location) (before : OneCreated puts location ran w)
    (step : Ran w [.put (puts i)] i w') : OneCreated puts location (ran ++ [i]) w' := by
  subst here
  have row := before.row
  cases ran with
  | nil =>
    -- this task is the first one and finds no row
    obtain ⟨done, left⟩ := creates.of_absent row
    refine ⟨?_, ?_, ?_⟩
    · intro j _ first
      obtain rfl : i = j := by simpa using first
      rw [step.result, done]
    · intro j hj late
      obtain rfl : j = i := by simpa using hj
      exact absurd rfl late
    · rw [step.store, left, creates.row?_write, if_pos rfl]
      rfl
  | cons first rest =>
    -- the row is there since the first task, and the tables stay as they are
    obtain ⟨refused, left⟩ := creates.of_present (Option.isSome_iff_exists.mpr ⟨_, row⟩)
    refine ⟨?_, ?_, ?_⟩
    · intro j _ head
      obtain rfl : first = j := by simpa using head
      rw [step.others first fun same => waiting (same ▸ List.mem_cons_self)]
      exact before.first first List.mem_cons_self rfl
    · intro j hj late
      rcases List.mem_append.mp hj with served | last
      · rw [step.others j fun same => waiting (same ▸ served)]
        exact before.others j served late
      · obtain rfl : j = i := by simpa using last
        rw [step.result, refused]
    · rw [step.store, left]
      exact row

/-! ### Of different rows -/

variable [DecidableEq ι]

/-- Tasks each create a row of its own: all that were served have made theirs, and no other is
there. -/
structure AllCreated (puts : ι → Put) (ran : List ι) (w : World ι (Except StoreError Unit)) :
    Prop where
  done : ∀ i ∈ ran, w.result? i = some (.ok ())
  row : ∀ i, w.store.tables.row? (puts i).table (puts i).key.slot =
    if i ∈ ran then some (puts i).item else none

theorem AllCreated.next {i : ι} {w w' : World ι (Except StoreError Unit)} (waiting : i ∉ ran)
    (creates : (puts i).Creates w.store.tables)
    (apart : Function.Injective fun i => (puts i).location) (before : AllCreated puts ran w)
    (step : Ran w [.put (puts i)] i w') : AllCreated puts (ran ++ [i]) w' := by
  have absent := before.row i
  rw [if_neg waiting] at absent
  obtain ⟨done, left⟩ := creates.of_absent absent
  refine ⟨step.all_done done before.done, fun j => ?_⟩
  rw [step.store, left, creates.row?_write]
  by_cases own : j = i
  · subst own
    simp [Put.location, Write.location, Write.table, Write.key]
  · have other : ((puts j).table, (puts j).key.slot) ≠ (puts i).location := fun same =>
      own (apart same)
    rw [if_neg other, before.row j]
    simp [own]

end World

/-! ## Two rows updated together -/

/-- An update on a sound target that gives a name a value, if the row is there. -/
structure Update.Assigns (u : Update) (t : Tables) (location : Location) (name : String)
    (value : Value) : Prop where
  location : (Write.update u).location = location
  sound : t.names? u.table = some u.key.names
  condition : u.condition ≠ some .keyNotExists
  value : u.assigned? name = some value

namespace Update.Assigns

variable {u : Update} {t : Tables} {location : Location} {name : String} {value : Value}

theorem of_names {t' : Tables} (h : u.Assigns t location name value)
    (names : ∀ table, t'.names? table = t.names? table) : u.Assigns t' location name value :=
  { h with sound := (names _).trans h.sound }

theorem meets (h : u.Assigns t location name value) {row : Item}
    (present : t.row? location.1 location.2 = some row) : t.Meets (.update u) := by
  obtain ⟨rfl, -, condition, -⟩ := h
  have same : (Write.update u).condition = u.condition := rfl
  unfold Tables.Meets
  rw [same]
  cases h : u.condition with
  | none => trivial
  | some c =>
    cases c with
    | keyExists => exact ⟨row, present⟩
    | keyNotExists => exact absurd h condition

/-- Two assignments to different rows go through together if the rows are there. -/
theorem of_present {s : Store} {v : Update} {other : Location}
    (hu : u.Assigns s.tables location name value) (hv : v.Assigns s.tables other name value)
    (apart : location ≠ other) {a b : Item}
    (first : s.tables.row? location.1 location.2 = some a)
    (second : s.tables.row? other.1 other.2 = some b) :
    (s.transact [.update u, .update v]).1 = .ok () ∧
      ∃ a' b', (s.transact [.update u, .update v]).2.tables.row? location.1 location.2 = some a' ∧
        (s.transact [.update u, .update v]).2.tables.row? other.1 other.2 = some b' ∧
        a'.get? name = some value ∧ b'.get? name = some value := by
  have inOrder : s.tables.InOrder [.update u, .update v] := by
    refine Tables.inOrder_cons.mpr ⟨hu.sound, ?_, Tables.inOrder_singleton hv.sound⟩
    simpa [hu.location, hv.location] using apart
  have done : (s.transact [.update u, .update v]).1 = .ok () := by
    rw [Store.transact_ok_iff]
    refine ⟨by simp, inOrder, ?_⟩
    simpa using ⟨hu.meets first, hv.meets second⟩
  have row (w : Write) (hw : w ∈ [.update u, .update v]) :=
    Tables.row?_foldl_write_of_mem inOrder hw
  rw [← Store.tables_transact_of_ok done] at row
  have left := row (.update u) List.mem_cons_self
  have right := row (.update v) (List.mem_cons_of_mem _ List.mem_cons_self)
  rw [← hu.location, ← hv.location]
  refine ⟨done, _, _, left, right, ?_, ?_⟩
  · rw [Write.result_update_get?, hu.value, Option.some_or]
  · rw [Write.result_update_get?, hv.value, Option.some_or]

end Update.Assigns

namespace World

variable {ι : Type} [DecidableEq ι] {ran : List ι} {left right : Location} {name : String}
  {value : ι → Value} {start : Option Value}

/-- Tasks each assign a value of their own to a name in both of two rows: all that were served have
done so, and both rows hold the value of the last one. -/
structure Together (left right : Location) (name : String) (value : ι → Value)
    (start : Option Value) (ran : List ι) (w : World ι (Except StoreError Unit)) : Prop where
  done : ∀ i ∈ ran, w.result? i = some (.ok ())
  rows : ∃ a b, w.store.tables.row? left.1 left.2 = some a ∧
    w.store.tables.row? right.1 right.2 = some b ∧ a.get? name = b.get? name ∧
    a.get? name = (ran.getLast?.map value).or start

theorem Together.next {i : ι} {u v : Update} {w w' : World ι (Except StoreError Unit)}
    (hu : u.Assigns w.store.tables left name (value i))
    (hv : v.Assigns w.store.tables right name (value i)) (apart : left ≠ right)
    (before : Together left right name value start ran w)
    (step : Ran w [.update u, .update v] i w') :
    Together left right name value start (ran ++ [i]) w' := by
  obtain ⟨a, b, first, second, -⟩ := before.rows
  obtain ⟨done, a', b', first', second', onLeft, onRight⟩ := hu.of_present hv apart first second
  refine ⟨step.all_done done before.done, a', b', ?_, ?_, onLeft.trans onRight.symm, ?_⟩
  · rw [step.store, first']
  · rw [step.store, second']
  · simp [onLeft]

/-! ## The laws -/

/-- **What any number of tasks come to, in any order.** The tasks make one transaction each, and
some of them have been served, each once. If they all create a row at one location that had none,
the first has made it and every other has been told by its only reason that it is there. If each
creates a row of its own, all have made theirs. If each assigns a value of its own to one name in
both of two rows, which agreed on it, all have done so, and the rows agree on the value of the
last. -/
theorem tasks_in_any_order (s : Store) (order : List ι) (once : order.Nodup) :
    (∀ (puts : ι → Put) (location : Location), (∀ i, (puts i).Creates s.tables) →
      (∀ i, (puts i).location = location) → s.tables.row? location.1 location.2 = none →
      ∀ ran, ran <+: order →
        OneCreated puts location ran (tasksAfter s (fun i => [.put (puts i)]) ran)) ∧
    (∀ puts : ι → Put, (∀ i, (puts i).Creates s.tables) →
      (Function.Injective fun i => (puts i).location) →
      (∀ i, s.tables.row? (puts i).table (puts i).key.slot = none) →
      ∀ ran, ran <+: order →
        AllCreated puts ran (tasksAfter s (fun i => [.put (puts i)]) ran)) ∧
    ∀ (u v : ι → Update) (left right : Location) (name : String) (value : ι → Value),
      (∀ i, (u i).Assigns s.tables left name (value i)) →
      (∀ i, (v i).Assigns s.tables right name (value i)) → left ≠ right →
      ∀ a b, s.tables.row? left.1 left.2 = some a → s.tables.row? right.1 right.2 = some b →
      a.get? name = b.get? name →
      ∀ ran, ran <+: order →
        Together left right name value (a.get? name) ran
          (tasksAfter s (fun i => [.update (u i), .update (v i)]) ran) := by
  refine ⟨?_, ?_, ?_⟩
  · intro puts location creates here absent ran part
    refine tasks_induction ⟨by simp, by simp, absent⟩ ?_ (once.sublist part.sublist)
    intro ran i w w' waiting names before step
    exact before.next waiting ((creates i).of_names names) (here i) step
  · intro puts creates apart absent ran part
    have start : AllCreated puts [] (tasksAfter s (fun i => [.put (puts i)]) []) :=
      ⟨by simp, absent⟩
    refine tasks_induction start ?_ (once.sublist part.sublist)
    intro ran i w w' waiting names before step
    exact before.next waiting ((creates i).of_names names) apart step
  · intro u v left right name value hu hv apart a b first second equal ran part
    have start : Together left right name value (a.get? name) []
        (tasksAfter s (fun i => [.update (u i), .update (v i)]) []) :=
      ⟨by simp, a, b, first, second, equal, rfl⟩
    refine tasks_induction start ?_ (once.sublist part.sublist)
    intro ran i w w' waiting names before step
    exact before.next ((hu i).of_names names) ((hv i).of_names names) apart step

def twoFindings : Store where
  tables := .ofList [("findings", ⟨⟨"findingType", "findingId"⟩,
    .ofList [(⟨"EC2.1", "f1"⟩, .empty), (⟨"EC2.1", "f2"⟩, .empty)]⟩)]
  writeCalls := 0

def creating (finding status : String) : Put :=
  ⟨"findings", .of "findingType" "EC2.1" "findingId" finding,
    .ofList [("remediationStatus", .text status)], some .keyNotExists⟩

def assigning (finding status : String) : Update :=
  ⟨"findings", .of "findingType" "EC2.1" "findingId" finding,
    [("remediationStatus", .text status)], some .keyExists⟩

theorem names?_twoFindings :
    twoFindings.tables.names? "findings" = some ⟨"findingType", "findingId"⟩ := by
  decide +kernel

theorem creates_creating (finding status : String) :
    (creating finding status).Creates twoFindings.tables :=
  ⟨names?_twoFindings, rfl⟩

theorem assigns_assigning (finding status : String) :
    (assigning finding status).Assigns twoFindings.tables ("findings", ⟨"EC2.1", finding⟩)
      "remediationStatus" (.text status) :=
  ⟨rfl, names?_twoFindings, by simp [assigning], rfl⟩

/-- One task writes `QUEUED` and one `SUCCESS`. They create one finding, or one finding each, or
update the two that are there. -/
theorem tasks_in_any_order_of_two :
    let status (i : Bool) := if i then "SUCCESS" else "QUEUED"
    let finding (i : Bool) := if i then "f4" else "f3"
    OneCreated (fun i => creating "f3" (status i)) ("findings", ⟨"EC2.1", "f3"⟩) [true, false]
      (tasksAfter twoFindings (fun i => [.put (creating "f3" (status i))]) [true, false]) ∧
    AllCreated (fun i => creating (finding i) (status i)) [true, false]
      (tasksAfter twoFindings (fun i => [.put (creating (finding i) (status i))]) [true, false]) ∧
    Together ("findings", ⟨"EC2.1", "f1"⟩) ("findings", ⟨"EC2.1", "f2"⟩) "remediationStatus"
      (fun i => .text (status i)) none [true]
      (tasksAfter twoFindings (fun i => [.update (assigning "f1" (status i)),
        .update (assigning "f2" (status i))]) [true]) := by
  intro status finding
  obtain ⟨one, all, together⟩ := tasks_in_any_order twoFindings [true, false] (by decide)
  refine ⟨?_, ?_, ?_⟩
  · exact one _ ("findings", ⟨"EC2.1", "f3"⟩) (fun _ => creates_creating ..) (fun _ => rfl)
      (by decide +kernel) _ (List.prefix_refl _)
  · exact all _ (fun _ => creates_creating ..) (by decide +kernel) (by decide +kernel) _
      (List.prefix_refl _)
  · exact together _ _ _ _ _ _ (fun _ => assigns_assigning ..) (fun _ => assigns_assigning ..)
      (by decide +kernel) .empty .empty (by decide +kernel) (by decide +kernel) rfl [true]
      ⟨[false], rfl⟩

end World

end RemediationLedger
