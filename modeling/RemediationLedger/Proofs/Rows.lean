/-
What writes do to rows.

An update is an ordered list of assignments, and what a row holds afterwards is
read off backwards: the last assignment to a name counts, and a name that is not
assigned keeps its value (`result_update_get?`). A write on a known table
changes the row at its own slot and no other (`row?_write`), and no operation on
rows changes which tables are known or how their keys are named.

A transaction looks its tables up once to check its targets and once to write.
The second look-up cannot fail where the first did not (`writeAll_of_known`,
`sound_of_checkTargets`), and from there on `transact_eq` is what the rest of
the theory knows of transactions: it has no half done writing in it.
`transact_of_ok` and `transact_of_error` read from it that a transaction carries
out all of its writes or none, and `transact_pair` says in full what becomes of
two writes whose targets are sound and differ, which is the shape of every
transaction of the status protocol.

## What is proved here and what is not

These are the equations of the store's operations. There is one for each
question that can be asked of an operation: what it replies, what it leaves in a
row, which tables are known afterwards. Most of them are used throughout, and a
proof that needs the body of an operation is a sign that one is missing.

The equations are stated by location, a table's name and a slot. `row?_write` is
the one that the others come down to, because a put, an update and an insertion
past the clients all replace one row. Counting rows is not done with them:
`length_items` goes through the slots that hold a row (`slots`), as a list of
entries is counted more easily than a function.
-/
import RemediationLedger.Store

namespace RemediationLedger

/-! ## Maps -/

namespace KeyMap

variable {κ ν : Type} [Ord κ] [Std.LawfulEqOrd κ]

/-- The entries under one key are at most one. -/
theorem filter_key_eq_toList [DecidableEq κ] (m : KeyMap κ ν) (k : κ) :
    (m.entries.filter fun e => e.1 = k).map Prod.snd = (m.get? k).toList := by
  obtain ⟨entries, increasing⟩ := m
  unfold get?
  induction entries with
  | nil => rfl
  | cons e rest ih =>
    obtain ⟨k', v⟩ := e
    by_cases h : k' = k
    · subst h
      have later : ∀ e ∈ rest, e.1 ≠ k' := by
        intro e he heq
        have hlt := List.rel_of_pairwise_cons increasing he
        simp [heq] at hlt
      have none_later : rest.filter (fun e => e.1 = k') = [] :=
        List.filter_eq_nil_iff.mpr fun e he => by simpa using later e he
      simp [findEntry, none_later]
    · have hc : compare k k' ≠ .eq := fun hc => h (Std.LawfulEqCmp.eq_of_compare hc).symm
      simpa [findEntry, h, hc] using ih increasing.of_cons

/-- No key is listed twice. -/
theorem nodup_keys (m : KeyMap κ ν) : m.keys.Nodup := by
  rw [keys, List.nodup_iff_pairwise_ne, List.pairwise_map]
  refine m.increasing.imp fun {a b} below same => ?_
  rw [same] at below
  simp at below

/-- The listed entries are those that are found. -/
theorem mem_entries [DecidableEq κ] {m : KeyMap κ ν} {k : κ} {v : ν} :
    (k, v) ∈ m.entries ↔ m.get? k = some v := by
  have found := m.filter_key_eq_toList k
  constructor
  · intro listed
    have here : v ∈ (m.entries.filter fun e => e.1 = k).map Prod.snd :=
      List.mem_map.mpr ⟨(k, v), by simpa using listed, rfl⟩
    simpa [found] using here
  · intro present
    have here : v ∈ (m.entries.filter fun e => e.1 = k).map Prod.snd := by simp [found, present]
    obtain ⟨e, he, rfl⟩ := List.mem_map.mp here
    obtain ⟨listed, rfl⟩ : e ∈ m.entries ∧ e.1 = k := by simpa using he
    exact listed

/-- The listed keys are those that are found. -/
theorem mem_keys [DecidableEq κ] {m : KeyMap κ ν} {k : κ} : k ∈ m.keys ↔ (m.get? k).isSome := by
  simp [keys, mem_entries, Option.isSome_iff_exists]

variable [Std.TransOrd κ]

@[simp] theorem insertAll_nil (m : KeyMap κ ν) : m.insertAll [] = m := rfl

theorem insertAll_cons (m : KeyMap κ ν) (e : κ × ν) (l : List (κ × ν)) :
    m.insertAll (e :: l) = (m.insert e.1 e.2).insertAll l := rfl

theorem insertAll_append (m : KeyMap κ ν) (l l' : List (κ × ν)) :
    m.insertAll (l ++ l') = (m.insertAll l).insertAll l' := by
  simp [insertAll]

/-- Of several insertions under one key the last one counts. -/
theorem get?_insertAll [DecidableEq κ] (m : KeyMap κ ν) (l : List (κ × ν)) (k : κ) :
    (m.insertAll l).get? k =
      ((l.reverse.find? fun e => e.1 == k).map Prod.snd).or (m.get? k) := by
  induction l generalizing m with
  | nil => simp
  | cons e l ih =>
    rw [insertAll_cons, ih, List.reverse_cons, List.find?_append, get?_insert]
    cases l.reverse.find? fun e => e.1 == k with
    | some hit => simp
    | none =>
      by_cases h : e.1 = k
      · simp [h]
      · simp [h, Ne.symm h]

theorem get?_insertAll_of_notMem [DecidableEq κ] {l : List (κ × ν)} {k : κ}
    (other : ∀ e ∈ l, e.1 ≠ k) (m : KeyMap κ ν) : (m.insertAll l).get? k = m.get? k := by
  have none : (l.reverse.find? fun e => e.1 == k) = none := by
    rw [List.find?_eq_none]
    intro e he
    simpa using other e (List.mem_reverse.mp he)
  rw [get?_insertAll, none, Option.map_none, Option.none_or]

end KeyMap

/-! ## Updates -/

namespace Update

@[simp] theorem assigned?_of (table : String) (key : Key) (name : String) :
    (of table key).assigned? name = none := rfl

theorem assigned?_set (u : Update) (name other : String) (value : Value) :
    (u.set name value).assigned? other =
      if name = other then some value else u.assigned? other := by
  by_cases h : name = other
  · simp [assigned?, set, h]
  · simp [assigned?, set, h]

theorem assigned?_setIfPresent (u : Update) (name other : String) (value : Option String) :
    (u.setIfPresent name value).assigned? other =
      if name = other then
        ((value.filter fun v => !v.isEmpty).map Value.text).or (u.assigned? other)
      else u.assigned? other := by
  cases value with
  | none => simp [setIfPresent]
  | some v =>
    by_cases hv : v.isEmpty = true
    · simp [setIfPresent, Option.filter, hv]
    · simp [setIfPresent, Option.filter, hv, assigned?_set]

@[simp] theorem setIfPresent_table (u : Update) (name : String) (value : Option String) :
    (u.setIfPresent name value).table = u.table := by
  cases value with
  | none => rfl
  | some v => simp only [setIfPresent]; split <;> rfl

@[simp] theorem setIfPresent_key (u : Update) (name : String) (value : Option String) :
    (u.setIfPresent name value).key = u.key := by
  cases value with
  | none => rfl
  | some v => simp only [setIfPresent]; split <;> rfl

end Update

/-- What a name holds after an update: the value assigned to it, else the old one. -/
theorem Write.result_update_get? (u : Update) (old : Option Item) (name : String) :
    ((Write.update u).result old).get? name =
      (u.assigned? name).or ((old.getD u.key.toItem).get? name) :=
  KeyMap.get?_insertAll _ _ _

/-! ## Tables -/

namespace Tables

/-- The names of a table's key attributes, if the table is known. -/
def names? (t : Tables) (table : String) : Option KeyNames := (t.get? table).map Table.names

theorem get?_mapRows (t : Tables) (table other : String)
    (f : KeyMap Slot Item → KeyMap Slot Item) :
    (t.mapRows table f).get? other =
      if other = table then (t.get? table).map fun e => { e with rows := f e.rows }
      else t.get? other := by
  unfold mapRows
  cases h : t.get? table with
  | none =>
    by_cases ho : other = table
    · simp [ho, h]
    · simp [ho]
  | some entry => simp [KeyMap.get?_insert]

@[simp] theorem names?_mapRows (t : Tables) (table other : String)
    (f : KeyMap Slot Item → KeyMap Slot Item) :
    (t.mapRows table f).names? other = t.names? other := by
  unfold names?
  rw [get?_mapRows]
  by_cases h : other = table
  · subst h; simp [Function.comp_def]
  · simp [h]

@[simp] theorem names?_setRow (t : Tables) (table other : String) (slot : Slot) (item : Item) :
    (t.setRow table slot item).names? other = t.names? other :=
  names?_mapRows ..

@[simp] theorem names?_dropRow (t : Tables) (table other : String) (slot : Slot) :
    (t.dropRow table slot).names? other = t.names? other :=
  names?_mapRows ..

@[simp] theorem names?_write (t : Tables) (w : Write) (other : String) :
    (t.write w).names? other = t.names? other :=
  names?_setRow ..

@[simp] theorem names?_foldl_write (t : Tables) (ws : List Write) (other : String) :
    (ws.foldl write t).names? other = t.names? other := by
  induction ws generalizing t with
  | nil => rfl
  | cons w ws ih => rw [List.foldl_cons, ih, names?_write]

/-- A row that is put under a known table is found there, and all others stay. -/
theorem row?_setRow {t : Tables} {table : String} (known : (t.names? table).isSome)
    (other : String) (slot at' : Slot) (item : Item) :
    (t.setRow table slot item).row? other at' =
      if other = table ∧ at' = slot then some item else t.row? other at' := by
  obtain ⟨names, hn⟩ := Option.isSome_iff_exists.mp known
  obtain ⟨entry, he, -⟩ := Option.map_eq_some_iff.mp hn
  unfold row? setRow
  rw [get?_mapRows]
  by_cases ht : other = table
  · subst ht
    simp [he, KeyMap.get?_insert]
  · simp [ht]

/-- A dropped row is gone, and all others stay. -/
theorem row?_dropRow (t : Tables) (table other : String) (slot at' : Slot) :
    (t.dropRow table slot).row? other at' =
      if other = table ∧ at' = slot then none else t.row? other at' := by
  unfold row? dropRow
  rw [get?_mapRows]
  by_cases ht : other = table
  · subst ht
    cases t.get? other with
    | none => simp
    | some entry => simp [KeyMap.get?_erase]
  · simp [ht]

/-- A table keeps the names that it was registered with first. -/
theorem names?_register (t : Tables) (name other : String) (names : KeyNames) :
    (t.register name names).names? other =
      (t.names? other).or (if other = name then some names else none) := by
  unfold register
  split
  · rename_i known
    obtain ⟨entry, present⟩ := Option.isSome_iff_exists.mp known
    by_cases same : other = name
    · simp [names?, same, present]
    · simp [same]
  · rename_i unknown
    have absent : t.get? name = none := by simpa [KeyMap.contains] using unknown
    by_cases same : other = name
    · simp [names?, KeyMap.get?_insert, same, absent]
    · simp [names?, KeyMap.get?_insert, same]

/-- Registering a table neither makes a row nor drops one. -/
theorem row?_register (t : Tables) (name other : String) (names : KeyNames) (slot : Slot) :
    (t.register name names).row? other slot = t.row? other slot := by
  unfold register
  split
  · rfl
  · rename_i unknown
    have absent : t.get? name = none := by simpa [KeyMap.contains] using unknown
    by_cases same : other = name
    · simp [row?, KeyMap.get?_insert, same, absent]
    · simp [row?, KeyMap.get?_insert, same]

/-- A table with a row is known. -/
theorem exists_names_of_row? {t : Tables} {table : String} {slot : Slot} {row : Item}
    (present : t.row? table slot = some row) : ∃ names, t.names? table = some names := by
  obtain ⟨entry, known, -⟩ := Option.bind_eq_some_iff.mp present
  exact ⟨entry.names, by simp [names?, known]⟩

/-- A write on a known table changes the row at its own slot and no other. -/
theorem row?_write {t : Tables} {w : Write} (known : (t.names? w.table).isSome)
    (other : String) (at' : Slot) :
    (t.write w).row? other at' =
      if other = w.table ∧ at' = w.key.slot then
        some (w.result (t.row? w.table w.key.slot))
      else t.row? other at' :=
  row?_setRow known ..

/-- Rows at other places survive a write, whether its table is known or not. -/
theorem row?_write_of_ne (t : Tables) (w : Write) {other : String} {at' : Slot}
    (h : ¬(other = w.table ∧ at' = w.key.slot)) :
    (t.write w).row? other at' = t.row? other at' := by
  by_cases known : (t.names? w.table).isSome
  · rw [row?_write known, if_neg h]
  · have hnone : t.get? w.table = none := by simpa [names?] using known
    simp [write, setRow, mapRows, hnone]

/-- A target is sound exactly if its table is known and the key has the table's names. -/
theorem checkTarget_eq_ok {t : Tables} {table : String} {key : Key} :
    t.checkTarget table key = .ok () ↔ t.names? table = some key.names := by
  unfold checkTarget names?
  cases t.get? table with
  | none => simp
  | some entry =>
    by_cases h : key.names = entry.names
    · simp [h]
    · simp [h, Ne.symm h]

/-- A read succeeds exactly if its target is sound, and then returns the row. -/
theorem get_eq_ok_iff {t : Tables} {table : String} {key : Key} {found : Option Item} :
    t.get table key = .ok found ↔
      t.names? table = some key.names ∧ t.row? table key.slot = found := by
  rw [← checkTarget_eq_ok, get]
  cases t.checkTarget table key with
  | error e => simp
  | ok => simp

theorem get_of_sound {t : Tables} {table : String} {key : Key}
    (sound : t.names? table = some key.names) : t.get table key = .ok (t.row? table key.slot) :=
  get_eq_ok_iff.mpr ⟨sound, rfl⟩

/-! ## Transactions -/

/-- An unsound target is no matter of conditions. -/
theorem reasons?_of_checkTarget {t : Tables} {table : String} {key : Key} {e : StoreError}
    (h : t.checkTarget table key = .error e) : e.reasons? = none := by
  unfold checkTarget at h
  split at h
  · cases h; rfl
  · split at h
    · cases h
    · cases h; rfl

/-- Targets that are not in order are no matter of conditions either. -/
theorem reasons?_of_checkTargets {t : Tables} {seen : List (String × Slot)} {ws : List Write}
    {e : StoreError} (h : t.checkTargets seen ws = .error e) : e.reasons? = none := by
  induction ws generalizing seen with
  | nil => cases h
  | cons w ws ih =>
    rw [checkTargets] at h
    split at h
    · rename_i unsound
      cases h
      exact reasons?_of_checkTarget unsound
    · split at h
      · cases h; rfl
      · exact ih h

/-- Targets that are in order are sound, each of them. -/
theorem sound_of_checkTargets {t : Tables} {seen : List (String × Slot)} {ws : List Write}
    (h : t.checkTargets seen ws = .ok ()) : ∀ w ∈ ws, t.names? w.table = some w.key.names := by
  induction ws generalizing seen with
  | nil => intro w hw; cases hw
  | cons v ws ih =>
    rw [checkTargets] at h
    split at h
    · cases h
    · rename_i sound
      split at h
      · cases h
      · intro w hw
        rcases List.mem_cons.mp hw with rfl | hw
        · exact checkTarget_eq_ok.mp sound
        · exact ih h w hw

/-- Writes whose tables are known are carried out to the last one. -/
theorem writeAll_of_known {t : Tables} {ws : List Write}
    (known : ∀ w ∈ ws, (t.names? w.table).isSome) :
    t.writeAll ws = (.ok (), ws.foldl write t) := by
  induction ws generalizing t with
  | nil => rfl
  | cons w ws ih =>
    obtain ⟨here, later⟩ := List.forall_mem_cons.mp known
    obtain ⟨entry, present⟩ : ∃ entry, t.get? w.table = some entry := by
      simpa [names?, Option.isSome_iff_exists] using here
    simp only [writeAll, present]
    exact ih fun v hv => by simpa using later v hv

/-- Once the targets have passed the check the writing does not fail. -/
theorem writeAll_of_checkTargets {t : Tables} {seen : List (String × Slot)} {ws : List Write}
    (passed : t.checkTargets seen ws = .ok ()) :
    t.writeAll ws = (.ok (), ws.foldl write t) :=
  writeAll_of_known fun w hw => by simp [sound_of_checkTargets passed w hw]

/-- What a transaction comes to: where it is refused the tables stay, and where it is not all of
its writes are carried out. -/
theorem transact_eq (t : Tables) (ws : List Write) :
    t.transact ws =
      if ws = [] then (.error (.invalidRequest .emptyTransaction), t)
      else
        match t.checkTargets [] ws with
        | .error e => (.error e, t)
        | .ok () =>
          if ∀ w ∈ ws, t.admits w = true then (.ok (), ws.foldl write t)
          else (.error (.transactionCanceled (t.reasons ws)), t) := by
  simp only [transact, List.isEmpty_iff, List.all_eq_true]
  cases targets : t.checkTargets [] ws with
  | error e => rfl
  | ok => rw [writeAll_of_checkTargets targets]

/-- A transaction is carried out whole or refused, and there is nothing in between. -/
theorem transact_carried_or_refused (t : Tables) (ws : List Write) :
    (t.transact ws = (.ok (), ws.foldl write t) ∧ ws ≠ [] ∧ ∀ w ∈ ws, t.admits w = true) ∨
      ∃ e, t.transact ws = (.error e, t) := by
  rw [transact_eq]
  split
  · exact .inr ⟨_, rfl⟩
  · rename_i nonempty
    split
    · exact .inr ⟨_, rfl⟩
    · split
      · rename_i admitted
        exact .inl ⟨rfl, nonempty, admitted⟩
      · exact .inr ⟨_, rfl⟩

/-- A transaction that went through found every condition true beforehand and carried out all of
its writes. -/
theorem transact_of_ok {t : Tables} {ws : List Write} (h : (t.transact ws).1 = .ok ()) :
    ws ≠ [] ∧ (∀ w ∈ ws, t.admits w = true) ∧ (t.transact ws).2 = ws.foldl write t := by
  rcases t.transact_carried_or_refused ws with ⟨carried, nonempty, admitted⟩ | ⟨e, refused⟩
  · exact ⟨nonempty, admitted, congrArg Prod.snd carried⟩
  · rw [refused] at h
    cases h

/-- A refused transaction leaves the tables alone. -/
theorem transact_of_error {t : Tables} {ws : List Write} {e : StoreError}
    (h : (t.transact ws).1 = .error e) : (t.transact ws).2 = t := by
  rcases t.transact_carried_or_refused ws with ⟨carried, -⟩ | ⟨e, refused⟩
  · rw [carried] at h
    cases h
  · exact congrArg Prod.snd refused

/-- Two writes on sound and different targets: both are carried out if both conditions hold, and
otherwise each has its own reason. -/
theorem transact_pair {t : Tables} {v w : Write}
    (hv : t.names? v.table = some v.key.names) (hw : t.names? w.table = some w.key.names)
    (hne : w.table ≠ v.table) :
    t.transact [v, w] =
      if t.admits v ∧ t.admits w then (.ok (), (t.write v).write w)
      else (.error (.transactionCanceled (t.reasons [v, w])), t) := by
  have hsound : t.checkTargets [] [v, w] = .ok () := by
    simp [checkTargets, checkTarget_eq_ok.mpr hv, checkTarget_eq_ok.mpr hw, hne]
  simp [transact_eq, hsound]

/-- A single update on a sound target. -/
theorem update_of_sound {t : Tables} {u : Update} (h : t.names? u.table = some u.key.names) :
    t.update u =
      if t.admits (.update u) then (.ok (), t.write (.update u))
      else (.error (.conditionFailed u.table), t) := by
  simp [update, checkTarget_eq_ok.mpr h]

/-- A single update is carried out on a sound target or refused. -/
theorem update_carried_or_refused (t : Tables) (u : Update) :
    (t.update u = (.ok (), t.write (.update u)) ∧ t.names? u.table = some u.key.names) ∨
      ∃ e, t.update u = (.error e, t) := by
  unfold update
  split
  · exact .inr ⟨_, rfl⟩
  · rename_i sound
    split
    · exact .inl ⟨rfl, checkTarget_eq_ok.mp sound⟩
    · exact .inr ⟨_, rfl⟩

def rowsAt (t : Tables) (table : String) (slot : Slot) : List Item :=
  match t.get? table with
  | none => []
  | some entry => (entry.rows.entries.filter fun e => e.1 = slot).map Prod.snd

/-- A table never holds two rows at one slot. -/
theorem rowsAt_eq_toList (t : Tables) (table : String) (slot : Slot) :
    t.rowsAt table slot = (t.row? table slot).toList := by
  unfold rowsAt row?
  cases t.get? table with
  | none => rfl
  | some entry => exact entry.rows.filter_key_eq_toList slot

def slots (t : Tables) (table : String) : List Slot :=
  match t.get? table with
  | none => []
  | some entry => entry.rows.keys

theorem nodup_slots (t : Tables) (table : String) : (t.slots table).Nodup := by
  unfold slots
  cases t.get? table with
  | none => exact List.nodup_nil
  | some entry => exact entry.rows.nodup_keys

theorem mem_slots {t : Tables} {table : String} {slot : Slot} :
    slot ∈ t.slots table ↔ (t.row? table slot).isSome := by
  unfold slots row?
  cases t.get? table with
  | none => simp
  | some entry => exact KeyMap.mem_keys

/-- There is one item for each slot. -/
theorem length_items (t : Tables) (table : String) :
    (t.items table).length = (t.slots table).length := by
  unfold items slots
  cases t.get? table with
  | none => rfl
  | some entry => simp [KeyMap.values, KeyMap.keys]

end Tables

/-! ## Write calls -/

namespace Store

/-- A transaction takes over the tables that it came to, and is counted. -/
theorem transact_of_tables {s : Store} {ws : List Write} {reply : Except StoreError Unit}
    {t : Tables} (h : s.tables.transact ws = (reply, t)) :
    s.transact ws = (reply, ⟨t, s.writeCalls + 1⟩) := by
  rw [transact, h]

theorem update_of_tables {s : Store} {u : Update} {reply : Except StoreError Unit} {t : Tables}
    (h : s.tables.update u = (reply, t)) : s.update u = (reply, ⟨t, s.writeCalls + 1⟩) := by
  rw [update, h]

end Store

/-! ## Access past the clients -/

/-- An insertion past the clients puts one row of a known table, or has no effect. -/
theorem Store.insert_kept {P : Tables → Prop} {s : Store} {table : String} {key : Key}
    {attributes : Item} (same : P s.tables)
    (put : s.tables.names? table = some key.names →
      P (s.tables.setRow table key.slot (key.stamp attributes))) :
    P (s.insert table key attributes).2.tables := by
  unfold Store.insert Tables.insertRow
  cases h : s.tables.checkTarget table key with
  | error e => exact same
  | ok => exact put (Tables.checkTarget_eq_ok.mp h)

/-- A removal past the clients drops one row, or has no effect. -/
theorem Store.remove_kept {P : Tables → Prop} {s : Store} {table : String} {key : Key}
    (same : P s.tables) (dropped : P (s.tables.dropRow table key.slot)) :
    P (s.remove table key).2.tables := by
  unfold Store.remove Tables.removeRow
  cases s.tables.checkTarget table key with
  | error e => exact same
  | ok => exact dropped

end RemediationLedger
