/-
What a table lists.

A table is read in two ways. A read by key finds the row at one slot, and
`items` lists all rows at once, without their slots. `Store.Lists` says that the
two agree: the items are the rows of a listing that has every slot where a read
finds something, with what it finds there, and the slots are in the order of
their bytes. No slot comes before itself, so none is listed twice. Reads decide
what is listed and the order decides where, so there is one such listing
(`Store.Lists.unique`).

A table keeps its rows in the order of the characters of their slots, which is
that of their bytes (`Slot.compare_eq_lt`), and the order is part of the type of
its rows. So there is nothing to follow through a run but the names of the keys:
they are those that the table was registered with first (`names?_performAll`).

## How the proof goes

The rows of a table are a map, and a map is its entries in increasing order. So
the listing that is asked for is there from the beginning (`exists_lists`): it
is the list of entries, reads find in it what they find in the map, and its
order is that of slots. That the order is the one of bytes is the only part with
some work in it, and that work is done in `Proofs.ByteOrder` for single texts;
slots compare the second values where the first ones are equal.

Uniqueness (`unique`) needs no more than that a strictly increasing list is
determined by its members.

`tables_list_what_reads_find` is about every run of operations on an empty
store. A table that was never registered has an empty listing and no read finds
anything in it, and registering a table a second time changes nothing that
follows.
-/
import RemediationLedger.Proofs.ByteOrder
import RemediationLedger.Proofs.KeyAttributes

namespace RemediationLedger

/-! ## The order of slots -/

namespace Slot

/-- By the bytes of the partition values, and where these are the same by those of the sort
values. -/
def Before (a b : Slot) : Prop :=
  utf8 a.partition < utf8 b.partition ∨
    a.partition = b.partition ∧ utf8 a.sort < utf8 b.sort

theorem compare_eq_lt {a b : Slot} : compare a b = .lt ↔ a.Before b := by
  have texts : ∀ s t : String, compare s t = .lt ↔ utf8 s < utf8 t := fun _ _ =>
    compareOfLessAndEq_eq_lt.trans utf8_lt_iff.symm
  rw [compare_eq, Ordering.then_eq_lt, texts, texts, Std.LawfulEqOrd.compare_eq_iff_eq]
  rfl

theorem Before.asymm {a b : Slot} (h : a.Before b) : ¬b.Before a := by
  intro back
  have first := compare_eq_lt.mpr h
  rw [Std.OrientedOrd.eq_swap, compare_eq_lt.mpr back] at first
  cases first

end Slot

namespace Store

variable {s : Store} {table : String} {slot : Slot} {row : Item}

/-! ## Reading and listing -/

def Finds (s : Store) (table : String) (slot : Slot) (row : Item) : Prop :=
  ∃ names, s.get table ⟨names, slot⟩ = .ok (some row)

theorem finds_iff : s.Finds table slot row ↔ s.tables.row? table slot = some row := by
  constructor
  · rintro ⟨names, found⟩
    exact (Tables.get_eq_ok_iff.mp found).2
  · intro present
    obtain ⟨names, known⟩ := Tables.exists_names_of_row? present
    exact ⟨names, Tables.get_eq_ok_iff.mpr ⟨known, present⟩⟩

/-- The items of the table are the rows that reads find in it, each with its slot here, in the order
of the slots. -/
structure Lists (s : Store) (table : String) (listing : List (Slot × Item)) : Prop where
  items : s.items table = listing.map Prod.snd
  ordered : listing.Pairwise fun a b => a.1.Before b.1
  found : ∀ slot row, (slot, row) ∈ listing ↔ s.Finds table slot row

theorem exists_lists (s : Store) (table : String) : ∃ listing, s.Lists table listing := by
  cases known : s.tables.get? table with
  | none =>
    refine ⟨[], by simp [items, Tables.items, known], .nil, fun slot row => ?_⟩
    simp [finds_iff, Tables.row?, known]
  | some entry =>
    refine ⟨entry.rows.entries, by simp [items, Tables.items, known, KeyMap.values], ?_, ?_⟩
    · exact entry.rows.increasing.imp Slot.compare_eq_lt.mp
    · intro slot row
      rw [KeyMap.mem_entries, finds_iff, Tables.row?, known, Option.bind_some]

namespace Lists

variable {listing listing' : List (Slot × Item)}

theorem nodup (h : s.Lists table listing) : listing.Nodup := by
  refine List.nodup_iff_pairwise_ne.mpr (h.ordered.imp fun {a b} before same => ?_)
  subst same
  exact before.asymm before

/-- What reads find decides what is listed. -/
theorem unique (h : s.Lists table listing) (h' : s.Lists table listing') :
    listing = listing' := by
  have same : listing.Perm listing' := by
    rw [List.perm_ext_iff_of_nodup h.nodup h'.nodup]
    rintro ⟨slot, row⟩
    rw [h.found, h'.found]
  refine same.eq_of_pairwise (fun a b _ _ before after => ?_) h.ordered h'.ordered
  exact absurd after before.asymm

end Lists

end Store

/-! ## Registrations -/

def Operation.registration? (table : String) : Operation → Option KeyNames
  | addTable name partition sort => if table = name then some ⟨partition, sort⟩ else none
  | insert .. => none
  | remove .. => none
  | call _ => none

namespace Store

variable {s : Store} {table : String}

/-- An operation gives a table names only by registering it, and only if it has none yet. -/
theorem names?_perform (s : Store) (op : Operation) (table : String) :
    (s.perform op).tables.names? table =
      (s.tables.names? table).or (op.registration? table) := by
  cases op with
  | addTable name partition sort => exact s.tables.names?_register name table ⟨partition, sort⟩
  | insert other key attributes =>
    rw [Operation.registration?, Option.or_none]
    exact insert_kept (P := fun t => t.names? table = s.tables.names? table) rfl
      fun _ => Tables.names?_setRow ..
  | remove other key =>
    rw [Operation.registration?, Option.or_none]
    exact remove_kept (P := fun t => t.names? table = s.tables.names? table) rfl
      (Tables.names?_dropRow ..)
  | call c =>
    rw [Operation.registration?, Option.or_none]
    exact s.names?_answer c table

/-- In the course of operations the first registration counts. -/
theorem names?_performAll (s : Store) (ops : List Operation) (table : String) :
    (s.performAll ops).tables.names? table =
      (s.tables.names? table).or (ops.findSome? fun op => op.registration? table) := by
  induction ops generalizing s with
  | nil => simp [performAll]
  | cons op ops ih =>
    have rest : s.performAll (op :: ops) = (s.perform op).performAll ops := rfl
    rw [rest, ih, names?_perform, Option.or_assoc, List.findSome?_cons]
    cases op.registration? table with
    | none => rw [Option.none_or]
    | some names => rw [Option.some_or]

theorem addTable_of_known (known : (s.tables.names? table).isSome) (partition sort : String) :
    s.addTable table partition sort = s := by
  have present : s.tables.contains table = true := by
    simpa [Tables.names?, KeyMap.contains] using known
  simp [addTable, Tables.register, present]

/-- **A table lists what reads find in it**, after any operations on an empty store: the row of each
slot that is occupied, once, in the order of the bytes of the slots. The names of its key attributes
are those of its first registration, and a later one is as good as none, for its items, for its
names and for all that follows. -/
theorem tables_list_what_reads_find (ops : List Operation) (table : String) :
    (∃! listing, (empty.performAll ops).Lists table listing) ∧
    (empty.performAll ops).tables.names? table =
      ops.findSome? (fun op => op.registration? table) ∧
    ∀ partition sort, .addTable table partition sort ∈ ops → ∀ partition' sort' later,
      empty.performAll (ops ++ .addTable table partition' sort' :: later) =
        empty.performAll (ops ++ later) := by
  have names : (empty.performAll ops).tables.names? table =
      ops.findSome? fun op => op.registration? table :=
    (names?_performAll empty ops table).trans (Option.none_or ..)
  obtain ⟨listing, lists⟩ := (empty.performAll ops).exists_lists table
  refine ⟨⟨listing, lists, fun _ other => other.unique lists⟩, names, ?_⟩
  intro partition sort registered partition' sort' later
  have known : ((empty.performAll ops).tables.names? table).isSome := by
    rw [names, List.findSome?_isSome_iff]
    exact ⟨_, registered, by simp [Operation.registration?]⟩
  simp only [performAll, List.foldl_append, List.foldl_cons]
  exact congrArg (later.foldl perform) (addTable_of_known known partition' sort')

def listedOperations : List Operation :=
  [.addTable "findings" "findingType" "findingId",
    .insert "findings" (Finding.key "EC2.1" "a") .empty,
    .insert "findings" (Finding.key "EC2" "b") .empty,
    .call (.transact [.put (.of "findings" (Finding.key "EC2" "𝄞") .empty),
      .update (Update.of "findings" (Finding.key "EC2" "～"))]),
    .remove "findings" (Finding.key "EC2" "b"),
    .call (.update ((Update.of "findings" (Finding.key "EC2" "𝄞")).set "severity" (.text "LOW")))]

/-- The shorter type comes first, although the joined texts are in another order. -/
theorem tables_list_findings_by_bytes :
    .addTable "findings" "findingType" "findingId" ∈ listedOperations ∧
    (∃ listing, (empty.performAll listedOperations).Lists "findings" listing ∧
      listing.map Prod.snd =
        [(Finding.key "EC2" "～").toItem,
          (Finding.key "EC2" "𝄞").toItem.insert "severity" (.text "LOW"),
          (Finding.key "EC2.1" "a").toItem]) ∧
    (empty.performAll listedOperations).tables.names? "findings" =
      some ⟨"findingType", "findingId"⟩ ∧
    empty.performAll (listedOperations ++ [.addTable "findings" "pk" "sk"]) =
      empty.performAll listedOperations := by
  have registered : .addTable "findings" "findingType" "findingId" ∈ listedOperations :=
    List.mem_cons_self
  obtain ⟨⟨listing, lists, -⟩, names, again⟩ :=
    tables_list_what_reads_find listedOperations "findings"
  refine ⟨registered, ⟨listing, lists, ?_⟩, names, ?_⟩
  · rw [← lists.items]
    decide +kernel
  · simpa using again _ _ registered "pk" "sk" []

end Store

end RemediationLedger
