/-
Which updates share a history record.

The sort value of a record joins the finding id and the execution id with `#`.
Nothing keeps an id from containing that character, so different ids may be
joined to one text. They are exactly if they overlap (`historyKey_eq_iff`): one
finding id goes on where the other one ends, and the text in between is the
beginning of the other execution id. Ids without the character never overlap.

Updates one after another leave one record for each key that they have. So they
leave one record for each finding and execution as long as no two of these
overlap. Where two do, the later update takes the record of the other execution
for its own (`executions_can_share_a_record`).

## How the proof goes

Joined ids are lists of characters with a mark in between, and two such lists
are the same only if they are cut at the same mark or at two different ones
(`joined_eq_iff`); in the second case what lies between the marks belongs to one
finding's id and to the other one's execution. `historyKey_eq_iff` puts it in
terms of requests.

Counting needs two facts about lists: a map that keeps different members apart
keeps their number (`length_dedup_map`), and a table has as many items as it has
slots with a row (`Tables.length_items_eq`). What updates one after another
leave is known from `Proofs.Alone`.

`executions_share_records_only_by_overlap` says all of it for a list of
unhindered updates on an empty history table, the number of records and the
rows, and ends with the exact condition: each execution has a record of its own
if and only if no two of them overlap.
-/
import Mathlib.Data.Finset.Card
import RemediationLedger.Proofs.Alone

namespace RemediationLedger

/-! ## Joined ids -/

namespace Request

/-- Two requests of one finding type overlap: the finding id of the second goes on where that of the
first ends, and what it goes on with is the beginning of the first one's execution id. -/
def Overlaps (a b : Request) : Prop :=
  a.findingType = b.findingType ∧
    ∃ middle, b.findingId = a.findingId ++ "#" ++ middle ∧
      a.executionId = middle ++ "#" ++ b.executionId

/-- Requests overlap only if the ids that are cut in two contain the character that joins them. -/
theorem Overlaps.contains {a b : Request} (h : a.Overlaps b) :
    '#' ∈ b.findingId.toList ∧ '#' ∈ a.executionId.toList := by
  obtain ⟨-, middle, finding, execution⟩ := h
  rw [finding, execution]
  simp

/-- Overlapping requests are requests of different executions. -/
theorem Overlaps.ids_ne {a b : Request} (h : a.Overlaps b) : a.ids ≠ b.ids := by
  obtain ⟨-, middle, finding, -⟩ := h
  intro same
  have same : a.findingId = b.findingId := congrArg UpdateIds.findingId same
  -- no text is as long as itself with something behind it
  have lengths := congrArg String.length (same.trans finding)
  rw [String.length_append, String.length_append] at lengths
  change _ = _ + 1 + _ at lengths
  omega

end Request

/-- Two joins are the same text if they join the same parts, or if one cuts the text at an earlier
`#` than the other. -/
theorem joined_eq_iff {f e g d : String} :
    f ++ "#" ++ e = g ++ "#" ++ d ↔
      (f = g ∧ e = d) ∨ (∃ m, g = f ++ "#" ++ m ∧ e = m ++ "#" ++ d) ∨
        ∃ m, f = g ++ "#" ++ m ∧ d = m ++ "#" ++ e := by
  constructor
  · intro h
    have letters : f.toList ++ '#' :: e.toList = g.toList ++ '#' :: d.toList := by
      simpa using congrArg String.toList h
    -- one of `f` and `g` begins with the other; what it has in excess begins with `#`
    rcases List.append_eq_append_iff.mp letters with ⟨m, hg, he⟩ | ⟨m, hf, hd⟩
    · cases m with
      | nil =>
        refine .inl ⟨String.toList_inj.mp (by simpa using hg.symm), String.toList_inj.mp ?_⟩
        simpa using he
      | cons x m =>
        obtain ⟨rfl, he⟩ := List.cons.inj he
        refine .inr (.inl ⟨String.ofList m, String.toList_inj.mp ?_, String.toList_inj.mp ?_⟩)
        · simpa using hg
        · simpa using he
    · cases m with
      | nil =>
        refine .inl ⟨String.toList_inj.mp (by simpa using hf), String.toList_inj.mp ?_⟩
        simpa using hd.symm
      | cons x m =>
        obtain ⟨rfl, hd⟩ := List.cons.inj hd
        refine .inr (.inr ⟨String.ofList m, String.toList_inj.mp ?_, String.toList_inj.mp ?_⟩)
        · simpa using hf
        · simpa using hd
  · rintro (⟨rfl, rfl⟩ | ⟨m, rfl, rfl⟩ | ⟨m, rfl, rfl⟩)
    · rfl
    · simp only [String.append_assoc]
    · simp only [String.append_assoc]

/-- Requests share a record exactly if their ids are the same or overlap. -/
theorem historyKey_eq_iff {a b : Request} :
    History.key a = History.key b ↔ a.ids = b.ids ∨ a.Overlaps b ∨ b.Overlaps a := by
  have joined : a.historySortKey = b.historySortKey ↔ _ := joined_eq_iff
  simp only [History.key, Key.of, Key.mk.injEq, Slot.mk.injEq, true_and, joined, Request.ids,
    UpdateIds.mk.injEq, Request.Overlaps]
  constructor
  · rintro ⟨sameType, ⟨finding, execution⟩ | between | between⟩
    · exact .inl ⟨finding, execution, sameType⟩
    · exact .inr (.inl ⟨sameType, between⟩)
    · exact .inr (.inr ⟨sameType.symm, between⟩)
  · rintro (⟨finding, execution, sameType⟩ | ⟨sameType, between⟩ | ⟨sameType, between⟩)
    · exact ⟨sameType, .inl ⟨finding, execution⟩⟩
    · exact ⟨sameType, .inr (.inl between)⟩
    · exact ⟨sameType.symm, .inr (.inr between)⟩

def UpdateIds.historyKey (ids : UpdateIds) : Key :=
  .of Attribute.findingType ids.findingType
    Attribute.findingIdExecutionId (ids.findingId ++ "#" ++ ids.executionId)

theorem historyKey_ids (r : Request) : r.ids.historyKey = History.key r := rfl

theorem historyKey_eq_iff_slot {a b : Request} :
    History.key a = History.key b ↔ a.historySlot = b.historySlot := by
  simp [History.key, Key.of, Request.historySlot]

/-! ## Counting records -/

/-- A list keeps the number of its different members under a map exactly if the map keeps them
apart. -/
theorem length_dedup_map {α β : Type} [DecidableEq α] [DecidableEq β] {f : α → β} {l : List α} :
    (l.map f).dedup.length = l.dedup.length ↔ ∀ x ∈ l, ∀ y ∈ l, f x = f y → x = y := by
  have image : (l.map f).toFinset = l.toFinset.image f := by
    ext y
    simp
  rw [← List.card_toFinset, ← List.card_toFinset, image, Finset.card_image_iff]
  constructor
  · intro injective x hx y hy
    exact injective (by simpa using hx) (by simpa using hy)
  · intro apart x hx y hy
    exact apart x (by simpa using hx) y (by simpa using hy)

/-- A table has as many items as different slots are listed, if those are the slots with a row. -/
theorem Tables.length_items_eq {t : Tables} {table : String} {l : List Slot}
    (listed : ∀ slot, (t.row? table slot).isSome ↔ slot ∈ l) :
    (t.items table).length = l.dedup.length := by
  rw [t.length_items]
  refine List.Perm.length_eq ((List.perm_ext_iff_of_nodup (t.nodup_slots table) l.nodup_dedup).mpr ?_)
  intro slot
  rw [Tables.mem_slots, listed, List.mem_dedup]

namespace Coordinator

variable {c : Coordinator} {s : Store} {updates : List (DateTime × Request)}

/-- Unhindered updates one after another leave as many records as they have keys. -/
theorem length_items_applyAll (reg : c.Registered s.tables)
    (empty : ∀ slot, s.tables.row? c.settings.historyTable slot = none)
    (unhindered : ∀ u ∈ updates, c.Unhindered s.tables u.1 u.2) :
    ((c.applyAll s updates).items c.settings.historyTable).length =
      (updates.map fun u => History.key u.2).dedup.length := by
  obtain ⟨-, -, records⟩ := applyAll_rows reg unhindered
  have counted : ((c.applyAll s updates).tables.items c.settings.historyTable).length =
      ((updates.map fun u => History.key u.2).map Key.slot).dedup.length :=
    Tables.length_items_eq fun slot => by rw [records, empty]; simp
  rw [Store.items, counted, length_dedup_map]
  simp only [List.mem_map]
  rintro _ ⟨u, -, rfl⟩ _ ⟨v, -, rfl⟩ same
  exact historyKey_eq_iff_slot.mpr same

/-- None of them changes a record that is not its own. -/
theorem historyRow_applyAll_concat (reg : c.Registered s.tables) {u : DateTime × Request}
    (unhindered : ∀ v ∈ updates ++ [u], c.Unhindered s.tables v.1 v.2) {r : Request}
    (other : History.key r ≠ History.key u.2) :
    c.historyRow? (c.applyAll s (updates ++ [u])).tables r =
      c.historyRow? (c.applyAll s updates).tables r := by
  obtain ⟨reg', stay, -⟩ := applyAll_rows reg fun v hv => unhindered v (List.mem_append_left _ hv)
  obtain ⟨-, -, row, rows⟩ := ((unhindered u (by simp)).mono stay).rows reg'
  rw [applyAll_concat, historyRow?, rows, if_neg (mt historyKey_eq_iff_slot.mpr other)]
  rfl

/-- Executions have as many keys as there are executions exactly if no two of them overlap. -/
theorem length_keys_eq_iff {l : List Request} :
    (l.map History.key).dedup.length = (l.map Request.ids).dedup.length ↔
      ∀ a ∈ l, ∀ b ∈ l, ¬a.Overlaps b := by
  have keys : l.map History.key = (l.map Request.ids).map UpdateIds.historyKey := by
    rw [List.map_map]
    exact List.map_congr_left fun r _ => (historyKey_ids r).symm
  rw [keys, length_dedup_map]
  simp only [List.mem_map]
  constructor
  · intro apart a ha b hb overlap
    refine overlap.ids_ne (apart _ ⟨a, ha, rfl⟩ _ ⟨b, hb, rfl⟩ ?_)
    exact historyKey_eq_iff.mpr (.inr (.inl overlap))
  · rintro apart _ ⟨a, ha, rfl⟩ _ ⟨b, hb, rfl⟩ same
    rcases historyKey_eq_iff.mp same with same | overlap | overlap
    · exact same
    · exact absurd overlap (apart a ha b hb)
    · exact absurd overlap (apart b hb a ha)

/-- **Executions share a record exactly if their ids overlap.** Two requests have one history key
exactly if their ids are the same or overlap; ids that overlap contain `#`. Updates that nothing
hinders run one after another on a store without records. Then there are as many records as
different keys, each update has its record, and no update changes the record of another key. So
there are as many records as executions exactly if no two of the requests overlap, and then no
update changes the record of another execution. -/
theorem executions_share_records_only_by_overlap (c : Coordinator) (s : Store)
    (updates : List (DateTime × Request)) (reg : c.Registered s.tables)
    (empty : ∀ slot, s.tables.row? c.settings.historyTable slot = none)
    (unhindered : ∀ u ∈ updates, c.Unhindered s.tables u.1 u.2) :
    let records := (c.applyAll s updates).items c.settings.historyTable
    (∀ a b : Request, History.key a = History.key b ↔
      a.ids = b.ids ∨ a.Overlaps b ∨ b.Overlaps a) ∧
    (∀ a b : Request, a.Overlaps b → '#' ∈ b.findingId.toList ∧ '#' ∈ a.executionId.toList) ∧
    records.length = (updates.map fun u => History.key u.2).dedup.length ∧
    (∀ u ∈ updates, (c.historyRow? (c.applyAll s updates).tables u.2).isSome) ∧
    (∀ before u later, updates = before ++ u :: later →
      ∀ r, History.key r ≠ History.key u.2 →
        c.historyRow? (c.applyAll s (before ++ [u])).tables r =
          c.historyRow? (c.applyAll s before).tables r) ∧
    (records.length = (updates.map fun u => u.2.ids).dedup.length ↔
      ∀ u ∈ updates, ∀ v ∈ updates, ¬u.2.Overlaps v.2) ∧
    ((∀ u ∈ updates, ∀ v ∈ updates, ¬u.2.Overlaps v.2) →
      ∀ before u later, updates = before ++ u :: later → ∀ v ∈ updates, v.2.ids ≠ u.2.ids →
        c.historyRow? (c.applyAll s (before ++ [u])).tables v.2 =
          c.historyRow? (c.applyAll s before).tables v.2) := by
  intro records
  have unchanged : ∀ before u later, updates = before ++ u :: later →
      ∀ r, History.key r ≠ History.key u.2 →
        c.historyRow? (c.applyAll s (before ++ [u])).tables r =
          c.historyRow? (c.applyAll s before).tables r := by
    rintro before u later rfl r other
    refine historyRow_applyAll_concat reg (fun v hv => unhindered v ?_) other
    simp only [List.mem_append, List.mem_singleton] at hv
    simpa using hv.imp_right .inl
  have count : records.length = (updates.map fun u => History.key u.2).dedup.length :=
    length_items_applyAll reg empty unhindered
  have each := @length_keys_eq_iff (updates.map Prod.snd)
  simp only [List.map_map, List.forall_mem_map] at each
  refine ⟨fun a b => historyKey_eq_iff, fun a b => Request.Overlaps.contains, count,
    fun u hu => ?_, unchanged, ?_, ?_⟩
  · obtain ⟨-, -, rows⟩ := applyAll_rows reg unhindered
    exact (rows _).mpr (.inl (List.mem_map_of_mem hu))
  · rw [count]
    exact each
  · intro apart before u later split v hv different
    have hu : u ∈ updates := by simp [split]
    refine unchanged before u later split v.2 fun same => ?_
    rcases historyKey_eq_iff.mp same with same | overlap | overlap
    · exact different same
    · exact apart v hv u hu overlap
    · exact apart u hu v hv overlap

def separateUpdates : List (DateTime × Request) :=
  [(newYear, pairRequest false), (newYear, { pairRequest true with executionId := "e2" })]

theorem unhindered_separateUpdates :
    ∀ u ∈ separateUpdates, pairLedger.Unhindered pairStore.tables u.1 u.2 := by
  intro u hu
  obtain rfl | rfl : u = (newYear, pairRequest false) ∨ u = (newYear, _) := by
    simpa [separateUpdates] using hu
  · exact ⟨rfl, by decide +kernel, ⟨_, rfl⟩, by decide +kernel⟩
  · exact ⟨rfl, by decide +kernel, ⟨_, rfl⟩, by decide +kernel⟩

/-- Separate executions get separate records. -/
theorem executions_share_no_records_of_separate :
    ((pairLedger.applyAll pairStore separateUpdates).items "history").length = 2 := by
  obtain ⟨-, -, -, -, -, each, -⟩ := executions_share_records_only_by_overlap pairLedger pairStore
    separateUpdates registered_pairStore (fun slot => rfl) unhindered_separateUpdates
  have plain : ∀ v ∈ separateUpdates, '#' ∉ v.2.findingId.toList := by decide +kernel
  have apart : ∀ u ∈ separateUpdates, ∀ v ∈ separateUpdates, ¬u.2.Overlaps v.2 :=
    fun u _ v hv overlap => plain v hv overlap.contains.1
  rw [show "history" = pairLedger.settings.historyTable from rfl, each.mpr apart]
  decide +kernel

/-! ## Two executions with one record -/

def overlappingRequest (second : Bool) : Request where
  findingId := if second then "f1" else "f1#x"
  executionId := if second then "x#e1" else "e1"
  findingType := "EC2.1"
  remediationStatus := if second then "SUCCESS" else "FAILED"

def overlappingStore : Store where
  tables := .ofList [
    ("findings", ⟨⟨Attribute.findingType, Attribute.findingId⟩,
      .ofList [(⟨"EC2.1", "f1"⟩, .empty), (⟨"EC2.1", "f1#x"⟩, .empty)]⟩),
    ("history", ⟨⟨Attribute.findingType, Attribute.findingIdExecutionId⟩, .empty⟩)]
  writeCalls := 0

theorem registered_overlappingStore : pairLedger.Registered overlappingStore.tables :=
  ⟨by decide +kernel, by decide +kernel⟩

theorem unhindered_overlappingRequest (second : Bool) :
    pairLedger.Unhindered overlappingStore.tables newYear (overlappingRequest second) := by
  cases second
  · exact ⟨rfl, by decide +kernel, ⟨_, rfl⟩, by decide +kernel⟩
  · exact ⟨rfl, by decide +kernel, ⟨_, rfl⟩, by decide +kernel⟩

/-- Different executions of different findings can have one record: the update of the second one
overwrites the status of the first one's. -/
theorem executions_can_share_a_record :
    let a := overlappingRequest false
    let b := overlappingRequest true
    let afterA := pairLedger.applyAll overlappingStore [(newYear, a)]
    let afterBoth := pairLedger.applyAll overlappingStore [(newYear, a), (newYear, b)]
    (pairLedger.Registered overlappingStore.tables ∧
      pairLedger.Unhindered overlappingStore.tables newYear a ∧
      pairLedger.Unhindered overlappingStore.tables newYear b ∧
      (overlappingStore.items "history").length = 0) ∧
    a.ids ≠ b.ids ∧ History.key a = History.key b ∧ (afterBoth.items "history").length = 1 ∧
    (pairLedger.historyRow? afterA.tables a).bind (·.get? Attribute.remediationStatus) =
      some (.text "FAILED") ∧
    (pairLedger.historyRow? afterBoth.tables a).bind (·.get? Attribute.remediationStatus) =
      some (.text "SUCCESS") :=
  ⟨⟨registered_overlappingStore, unhindered_overlappingRequest false,
    unhindered_overlappingRequest true, by decide +kernel⟩, by decide +kernel, by decide +kernel,
    by decide +kernel, by decide +kernel, by decide +kernel⟩

end Coordinator

end RemediationLedger
