/-
The layers of a new record, name by name.

A new record is written in a row of some twenty entries, many of them left out
if they are empty, and their names can coincide: a finding may have an extra
attribute of any name, and so may the scan helper. What stays under a name is
the last entry written to it (`lastUnder`), so the record is read from the end:
`layers` lists what can hold a value under a name, the strongest first, and the
record has the first that does (`get?_of_createFor`).

Each layer speaks for itself and says nothing of the others. Metadata is looked
up under its name in a table of named texts, and an extra attribute in the map
of extras; neither can have two entries of one name, so there the order of
writing does not matter (`lastUnder_given`).

* `lastUnder` is looking up from the end, and `get?_insertAll_eq` says that this
  is what a row holds after entries are inserted one by one. From there on no
  proof about a record speaks of insertion.
* `layers` is a list of optional values, one for each source that an attribute
  may have, and `strongest` is its first value. The order of the list is the
  whole content of the rule that a later layer wins.
* `new_record_in_layers` states the rule for every name and adds what else a
  creation consists of: its table, its key and its condition. It also says when
  there is a creation at all.

Nothing is assumed of the settings. Where two sources have one name, as when the
scan helper is called like an attribute of the protocol, the list says which of
them the record shows; what follows from such a choice of names is the business
of `Proofs.BlankTexts`, `Proofs.ProtocolAttributes` and `Proofs.StampOrder`.
-/
import RemediationLedger.Proofs.ProtocolAttributes

namespace RemediationLedger

namespace History

variable {n : String}

/-! ## The last entry of a name -/

/-- The value of the last entry under a name. -/
def lastUnder (n : String) (entries : List (String × Value)) : Option Value :=
  (entries.reverse.find? fun e => e.1 == n).map Prod.snd

def under (name : String) (value : Option Value) (n : String) : Option Value :=
  if n = name then value else none

def nonempty (text : Option String) : Option Value := (text.filter fun s => !s.isEmpty).map .text

@[simp] theorem nonempty_none : nonempty none = none := rfl

theorem nonempty_some (text : String) :
    nonempty (some text) = if text = "" then none else some (.text text) := by
  by_cases blank : text = ""
  · simp [nonempty, blank]
  · simp [nonempty, Option.filter, blank]

@[simp] theorem lastUnder_nil : lastUnder n [] = none := rfl

theorem lastUnder_append (l l' : List (String × Value)) :
    lastUnder n (l ++ l') = (lastUnder n l').or (lastUnder n l) := by
  unfold lastUnder
  rw [List.reverse_append, List.find?_append]
  cases l'.reverse.find? fun e => e.1 == n with
  | none => rfl
  | some e => rfl

theorem lastUnder_cons (e : String × Value) (l : List (String × Value)) :
    lastUnder n (e :: l) = (lastUnder n l).or (under e.1 (some e.2) n) := by
  have single : lastUnder n [e] = under e.1 (some e.2) n := by
    by_cases own : n = e.1
    · simp [lastUnder, under, own]
    · simp [lastUnder, under, own, Ne.symm own]
  rw [← List.singleton_append, lastUnder_append, single]

theorem get?_insertAll_eq (row : Item) (entries : List (String × Value)) :
    (row.insertAll entries).get? n = (lastUnder n entries).or (row.get? n) :=
  KeyMap.get?_insertAll row entries n

theorem lastUnder_textEntries_cons (name text : String) (l : List (String × String)) :
    lastUnder n (textEntries ((name, text) :: l)) =
      (lastUnder n (textEntries l)).or (under name (nonempty (some text)) n) := by
  rw [nonempty_some]
  by_cases blank : text = ""
  · have left : textEntries ((name, text) :: l) = textEntries l := by simp [textEntries, blank]
    rw [left]
    simp [under, blank]
  · have kept : textEntries ((name, text) :: l) = (name, .text text) :: textEntries l := by
      simp [textEntries, blank]
    rw [kept, lastUnder_cons, if_neg blank]

/-- In a table of named texts, each name once, the last entry is the one that is looked up. -/
theorem lastUnder_given {table : List (String × Option String)}
    (once : (table.map Prod.fst).Nodup) :
    lastUnder n (textEntries (Attribute.given table)) = nonempty (table.lookup n).join := by
  unfold Attribute.given
  induction table with
  | nil => rfl
  | cons entry table ih =>
    obtain ⟨name, text⟩ := entry
    obtain ⟨apart, once⟩ := List.nodup_cons.mp once
    rw [List.lookup_cons]
    by_cases own : n = name
    · have notLater : table.lookup n = none := by
        rw [List.lookup_eq_none_iff]
        intro e he
        have listed : e.1 ∈ table.map Prod.fst := List.mem_map_of_mem he
        have other : name ≠ e.1 := fun same => apart (same ▸ listed)
        simpa [own] using other
      have later := ih once
      rw [notLater] at later
      cases text with
      | none => simpa [own] using later
      | some s =>
        simp only [List.filterMap_cons, Option.map_some]
        rw [lastUnder_textEntries_cons, later]
        simp [under, own]
    · have other : (n == name) = false := by simpa using own
      rw [other, ← ih once]
      cases text with
      | none => rfl
      | some s =>
        simp only [List.filterMap_cons, Option.map_some]
        rw [lastUnder_textEntries_cons]
        simp [under, own]

theorem lookup_entries (m : KeyMap String String) :
    (m.entries.map fun e => (e.1, some e.2)).lookup n = (m.get? n).map some := by
  unfold KeyMap.get?
  induction m.entries with
  | nil => rfl
  | cons e l ih =>
    obtain ⟨k, v⟩ := e
    rw [List.map_cons, List.lookup_cons, findEntry, ih]
    by_cases own : n = k
    · simp [own]
    · have other : (n == k) = false := by simpa using own
      have other' : compare n k ≠ .eq := fun same => own (Std.LawfulEqCmp.eq_of_compare same)
      simp [other, other']

/-- Of the entries of a map the last one under a name is the one that is found there. -/
theorem lastUnder_entries (m : KeyMap String String) :
    lastUnder n (textEntries m.entries) = nonempty (m.get? n) := by
  have once : ((m.entries.map fun e => (e.1, some e.2)).map Prod.fst).Nodup := by
    rw [List.map_map]
    exact m.nodup_keys
  have found := lastUnder_given (n := n) once
  have all : Attribute.given (m.entries.map fun e => (e.1, some e.2)) = m.entries := by
    rw [Attribute.given, List.filterMap_map]
    exact List.filterMap_some
  rw [all, lookup_entries] at found
  rw [found]
  cases m.get? n with
  | none => rfl
  | some text => rfl

/-! ## The layers -/

/-- What can hold a value of a new record under a name, the strongest first: the key, the error, the
expiry, the scan helper, the times, the status, the ids, the actor, what the request tells about
its finding, what the finding tells about itself, and its extra attributes. -/
def layers (settings : Settings) (r : Request) (data : Option FindingData) (stamp : String)
    (expireAt : Int) : List (String → Option Value) :=
  [under Attribute.findingIdExecutionId (some (.text r.historySortKey)),
    under Attribute.findingType (some (.text r.findingType)),
    under Attribute.error (nonempty r.error),
    under Attribute.expireAt (some (.ofInt expireAt)),
    under settings.scanHelperAttribute (some (.text settings.scanHelperValue)),
    under Attribute.lastUpdatedTime (some (.text stamp)),
    under Attribute.lastUpdatedTimeFindingId (some (.text (stamp ++ "#" ++ r.findingId))),
    under Attribute.remediationStatus (some (.text r.remediationStatus)),
    under Attribute.executionId (nonempty (some r.executionId)),
    under Attribute.findingId (nonempty (some r.findingId)),
    under Attribute.lastUpdatedBy
      ((nonempty (some r.lastUpdatedBy)).or (nonempty (some settings.defaultActor))),
    fun n => nonempty ((requestTold r).lookup n).join,
    fun n => nonempty (data.bind fun d => (d.told.lookup n).join),
    fun n => nonempty (data.bind fun d => d.extra.get? n)]

/-- The value of a new record under a name: that of the strongest layer that holds one. -/
def strongest (layers : List (String → Option Value)) (n : String) : Option Value :=
  layers.findSome? fun layer => layer n

theorem strongest_cons (layer : String → Option Value) (weaker : List (String → Option Value)) :
    strongest (layer :: weaker) n = (layer n).or (strongest weaker n) := by
  unfold strongest
  rw [List.findSome?_cons]
  cases layer n with
  | none => rfl
  | some value => rfl

theorem strongest_append (stronger weaker : List (String → Option Value)) :
    strongest (stronger ++ weaker) n = (strongest stronger n).or (strongest weaker n) := by
  unfold strongest
  rw [List.findSome?_append]

theorem nonempty_actor (settings : Settings) (r : Request) :
    nonempty (some (actor settings r)) =
      (nonempty (some r.lastUpdatedBy)).or (nonempty (some settings.defaultActor)) := by
  unfold actor
  split
  · rename_i blank
    simp [nonempty, Option.filter, blank]
  · rename_i given
    simp [nonempty, Option.filter, given]

theorem lastUnder_requestLayer (settings : Settings) (r : Request) :
    lastUnder n (requestLayer settings r) =
      strongest [under Attribute.executionId (nonempty (some r.executionId)),
        under Attribute.findingId (nonempty (some r.findingId)),
        under Attribute.lastUpdatedBy
          ((nonempty (some r.lastUpdatedBy)).or (nonempty (some settings.defaultActor))),
        fun n => nonempty ((requestTold r).lookup n).join] n := by
  have once : ((requestTold r).map Prod.fst).Nodup := by
    have names : [Attribute.accountId, Attribute.resourceId, Attribute.resourceType,
        Attribute.severity, Attribute.region].Nodup := by decide
    exact names
  have metadata : lastUnder n (textEntries (requestMetadata r)) =
      nonempty ((requestTold r).lookup n).join := lastUnder_given once
  rw [requestLayer, textEntries_append, lastUnder_append, metadata]
  simp only [lastUnder_textEntries_cons, nonempty_actor, strongest_cons]
  simp [textEntries, strongest, Option.or_assoc]

theorem lastUnder_findingLayer (data : Option FindingData) :
    lastUnder n (findingLayer data) =
      strongest [fun n => nonempty (data.bind fun d => (d.told.lookup n).join),
        fun n => nonempty (data.bind fun d => d.extra.get? n)] n := by
  cases data with
  | none => rfl
  | some d =>
    have once : (d.told.map Prod.fst).Nodup := by
      have names : Attribute.metadata.Nodup := by decide
      exact names
    have named : lastUnder n (textEntries d.metadata) =
        nonempty (d.told.lookup n).join := lastUnder_given once
    rw [findingLayer, textEntries_append, lastUnder_append, named, lastUnder_entries,
      strongest_cons, strongest_cons]
    simp [strongest]

theorem lastUnder_protocolLayer (settings : Settings) (r : Request) (stamp : String)
    (expireAt : Int) :
    lastUnder n (protocolLayer settings r stamp expireAt) =
      strongest [under Attribute.error (nonempty r.error),
        under Attribute.expireAt (some (.ofInt expireAt)),
        under settings.scanHelperAttribute (some (.text settings.scanHelperValue)),
        under Attribute.lastUpdatedTime (some (.text stamp)),
        under Attribute.lastUpdatedTimeFindingId (some (.text (stamp ++ "#" ++ r.findingId))),
        under Attribute.remediationStatus (some (.text r.remediationStatus))] n := by
  have error : lastUnder n (textEntries ((r.error.map fun e => (Attribute.error, e)).toList)) =
      under Attribute.error (nonempty r.error) n := by
    cases r.error with
    | none => simp [textEntries, under, nonempty]
    | some e =>
      rw [Option.map_some, Option.toList_some, lastUnder_textEntries_cons]
      rfl
  rw [protocolLayer, lastUnder_append, error]
  simp only [lastUnder_cons, strongest_cons]
  simp [strongest, Option.or_assoc]

theorem get?_stamp_attributes (settings : Settings) (r : Request) (data : Option FindingData)
    (stamp : String) (expireAt : Int) :
    ((key r).stamp (attributes settings r data stamp expireAt)).get? n =
      strongest (layers settings r data stamp expireAt) n := by
  rw [Key.stamp, get?_insertAll_eq, attributes, KeyMap.ofList, get?_insertAll_eq,
    lastUnder_append, lastUnder_append, lastUnder_protocolLayer, lastUnder_requestLayer,
    lastUnder_findingLayer, layers]
  simp only [Key.attributes, lastUnder_cons, strongest_cons]
  simp [strongest, Option.or_assoc, key, Key.of]

variable {settings : Settings} {r : Request} {data : Option FindingData} {now : DateTime}
  {record : Put}

/-- A record that is put together holds under every name what its strongest layer does. -/
theorem get?_of_createFor {stamp : String} {expireAt : Int}
    (stamped : now.timestamp? = some stamp)
    (computed : Retention.expireAt now settings.historyTtlDays = .ok expireAt)
    (built : createFor settings r data now = .ok record) (n : String) :
    record.item.get? n = strongest (layers settings r data stamp expireAt) n := by
  obtain ⟨stamp', expireAt', stamped', computed', item⟩ := createFor_computed built
  obtain rfl := Option.some.inj (stamped.symm.trans stamped')
  obtain rfl := Except.ok.inj (computed.symm.trans computed')
  rw [item, get?_stamp_attributes]

/-- **A new record in layers.** A put creates a request's record exactly if it goes to the record's
place in the history table, on condition that there is none, and holds under every name, of the
protocol, of the settings or of the finding's own choice, what the strongest layer holds there. The
stamp and the expiry are those of the moment, and without one of the two there is no record. -/
theorem new_record_in_layers (settings : Settings) (r : Request) (data : Option FindingData)
    (now : DateTime) (record : Put) :
    createFor settings r data now = .ok record ↔
      record.table = settings.historyTable ∧ record.key = key r ∧
        record.condition = some .keyNotExists ∧
        ∃ stamp expireAt, now.timestamp? = some stamp ∧
          Retention.expireAt now settings.historyTtlDays = .ok expireAt ∧
          ∀ n, record.item.get? n = strongest (layers settings r data stamp expireAt) n := by
  constructor
  · intro built
    obtain ⟨table, target, condition, -⟩ := Coordinator.createFor_eq_ok built
    obtain ⟨stamp, expireAt, stamped, computed, -⟩ := createFor_computed built
    exact ⟨table, target, condition, stamp, expireAt, stamped, computed,
      get?_of_createFor stamped computed built⟩
  · rintro ⟨table, target, condition, stamp, expireAt, stamped, computed, holds⟩
    obtain ⟨record', built⟩ := Coordinator.createFor_of_ok computed stamped r data
    obtain ⟨table', target', condition', -⟩ := Coordinator.createFor_eq_ok built
    have item : record'.item = record.item := KeyMap.ext_get? fun n => by
      rw [get?_of_createFor stamped computed built, holds]
    obtain rfl : record' = record := by
      cases record
      cases record'
      simp_all
    exact built

end History

end RemediationLedger
