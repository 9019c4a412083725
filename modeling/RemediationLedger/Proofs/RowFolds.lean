/-
What requests leave in a row, one after another.

An update changes a row attribute by attribute, so a list of updates is a fold
over the row, and what it comes to can be said without any store. The status and
the execution are those of the last request, and the error is that of the last
request that had one, since a request without an error lets the old one stand.
After that the last request finds everything as it would write it, so one more
application changes nothing (`onRecord_eq_self`, `onFinding_eq_self`).

A record begins with a put, not with an update, and the fold only starts right
if the put agrees with an update on the status and the error. For the error this
takes that a finding passes none on to its records: `error` is an attribute of
the protocol, and those are no extras (`record_error`).

* `get?_onRecord` and `get?_onFinding` say of one request what it leaves under
  each name. Under every name but the three it assigns, an update leaves what
  was there (`agreeExcept_onRecord`, `agreeExcept_onFinding`).
* `get?_foldl_of_set` and `get?_foldl_of_report` are the two kinds of attributes
  in a fold: one that every request sets, and one that a request sets only if it
  has something to report. The status is of the first kind and the error of the
  second.
* `record_after_updates` and `finding_after_updates` put the attributes together
  to a statement about a row.

`record_error` is the only place where the layers of a new record come in.
Everything else here would be true of any row to begin with.
-/
import RemediationLedger.Proofs.Alone
import RemediationLedger.Proofs.Frame

namespace RemediationLedger

/-! ## What a request leaves in a row -/

namespace Request

theorem get?_reportOn (r : Request) (row : Item) (name : String) :
    (r.reportOn row).get? name =
      if name = Attribute.error then (r.newError?.map Value.text).or (row.get? Attribute.error)
      else row.get? name := by
  unfold reportOn
  by_cases own : name = Attribute.error
  · subst own
    cases r.newError? with
    | none => simp
    | some e => simp [KeyMap.get?_insert]
  · cases r.newError? with
    | none => simp [own]
    | some e => simp [KeyMap.get?_insert, own]

theorem get?_onRecord (r : Request) (row : Item) (name : String) :
    (r.onRecord row).get? name =
      if name = Attribute.error then (r.newError?.map Value.text).or (row.get? Attribute.error)
      else if name = Attribute.remediationStatus then some (.text r.remediationStatus)
      else row.get? name := by
  have other : Attribute.error ≠ Attribute.remediationStatus := by decide
  rw [onRecord, get?_reportOn, KeyMap.get?_insert, KeyMap.get?_insert, if_neg other]

theorem get?_onFinding (r : Request) (row : Item) (name : String) :
    (r.onFinding row).get? name =
      if name = Attribute.error then (r.newError?.map Value.text).or (row.get? Attribute.error)
      else if name = Attribute.executionId then some (.text r.executionId)
      else if name = Attribute.remediationStatus then some (.text r.remediationStatus)
      else row.get? name := by
  have otherExecution : Attribute.error ≠ Attribute.executionId := by decide
  have otherStatus : Attribute.error ≠ Attribute.remediationStatus := by decide
  rw [onFinding, get?_reportOn, KeyMap.get?_insert, KeyMap.get?_insert, KeyMap.get?_insert,
    KeyMap.get?_insert, if_neg otherExecution, if_neg otherStatus]

theorem agreeExcept_onRecord (r : Request) (row : Item) :
    AgreeExcept Attribute.updatedInRecord row (r.onRecord row) := by
  intro name spared
  obtain ⟨status, error⟩ := Attribute.notMem_updatedInRecord.mp spared
  rw [get?_onRecord, if_neg error, if_neg status]

theorem agreeExcept_onFinding (r : Request) (row : Item) :
    AgreeExcept Attribute.updatedInFinding row (r.onFinding row) := by
  intro name spared
  obtain ⟨status, execution, error⟩ := Attribute.notMem_updatedInFinding.mp spared
  rw [get?_onFinding, if_neg error, if_neg execution, if_neg status]

/-- To report an error that is there already changes nothing. -/
theorem newError?_or_eq_self {r : Request} {old : Option Value}
    (error : ∀ e, r.newError? = some e → old = some (.text e)) :
    (r.newError?.map Value.text).or old = old := by
  cases reported : r.newError? with
  | none => rfl
  | some e => exact (error e reported).symm

/-- A record that has the status and the error of a request stays as it is. -/
theorem onRecord_eq_self {r : Request} {row : Item}
    (status : row.get? Attribute.remediationStatus = some (.text r.remediationStatus))
    (error : ∀ e, r.newError? = some e → row.get? Attribute.error = some (.text e)) :
    r.onRecord row = row := by
  refine KeyMap.ext_get? fun name => ?_
  rw [get?_onRecord]
  split
  · rename_i own
    subst own
    exact newError?_or_eq_self error
  · split
    · rename_i own
      exact own ▸ status.symm
    · rfl

/-- A finding that has the status, the execution and the error of a request stays as it is. -/
theorem onFinding_eq_self {r : Request} {row : Item}
    (status : row.get? Attribute.remediationStatus = some (.text r.remediationStatus))
    (execution : row.get? Attribute.executionId = some (.text r.executionId))
    (error : ∀ e, r.newError? = some e → row.get? Attribute.error = some (.text e)) :
    r.onFinding row = row := by
  refine KeyMap.ext_get? fun name => ?_
  rw [get?_onFinding]
  split
  · rename_i own
    subst own
    exact newError?_or_eq_self error
  · split
    · rename_i own
      exact own ▸ execution.symm
    · split
      · rename_i own
        exact own ▸ status.symm
      · rfl

end Request

/-! ## What several requests leave in a row -/

def lastError? (requests : List Request) : Option String :=
  (requests.filterMap Request.newError?).getLast?

theorem lastError?_cons (r : Request) (requests : List Request) :
    lastError? (r :: requests) = (lastError? requests).or r.newError? := by
  unfold lastError?
  cases reported : r.newError? with
  | none => simp [reported]
  | some e =>
    rw [List.filterMap_cons, reported, List.getLast?_cons]
    cases (requests.filterMap Request.newError?).getLast? with
    | none => rfl
    | some e' => rfl

/-- If the last request has an error it is the last error. -/
theorem lastError?_of_getLast {requests : List Request} (nonempty : requests ≠ []) {e : String}
    (reported : (requests.getLast nonempty).newError? = some e) :
    lastError? requests = some e := by
  rw [lastError?, ← List.dropLast_concat_getLast nonempty, List.filterMap_append,
    List.filterMap_cons, reported]
  simp

section Folds

variable {step : Item → Request → Item}

/-- Where each request sets an attribute to a value of its own, the last one decides. -/
theorem get?_foldl_of_set {name : String} {value : Request → Value}
    (sets : ∀ row r, (step row r).get? name = some (value r)) {first : Request} {row : Item}
    (start : row.get? name = some (value first)) (later : List Request) :
    (later.foldl step row).get? name =
      some (value ((first :: later).getLast (List.cons_ne_nil _ _))) := by
  induction later generalizing first row with
  | nil => exact start
  | cons r later ih =>
    rw [List.foldl_cons, ih (sets row r), List.getLast_cons (List.cons_ne_nil _ _)]

/-- Where each request reports its error or lets the old one stand, the last error counts. -/
theorem get?_foldl_of_report
    (reports : ∀ row r, (step row r).get? Attribute.error =
      (r.newError?.map Value.text).or (row.get? Attribute.error)) (requests : List Request)
    (row : Item) :
    (requests.foldl step row).get? Attribute.error =
      ((lastError? requests).map Value.text).or (row.get? Attribute.error) := by
  induction requests generalizing row with
  | nil => rfl
  | cons r requests ih =>
    rw [List.foldl_cons, ih, reports, lastError?_cons]
    cases lastError? requests with
    | none => rfl
    | some e => rfl

theorem AgreeExcept.foldl {names : List String}
    (spares : ∀ row r, AgreeExcept names row (step row r)) (requests : List Request) (row : Item) :
    AgreeExcept names row (requests.foldl step row) := by
  induction requests generalizing row with
  | nil => exact .refl _ _
  | cons r requests ih => exact (spares row r).trans (ih (step row r))

end Folds

/-! ## The error of a new record -/

namespace Coordinator

variable {now : DateTime} {r : Request}

theorem mem_textEntries {entries : List (String × String)} {e : String × Value}
    (h : e ∈ History.textEntries entries) : e.1 ∈ entries.map Prod.fst := by
  obtain ⟨⟨name, value⟩, listed, here⟩ := List.mem_filterMap.mp h
  have same : name = e.1 := by
    by_cases blank : value.isEmpty = true
    · simp [blank] at here
    · simpa [blank] using congrArg (Option.map Prod.fst) here
  rw [← same]
  exact List.mem_map_of_mem listed

/-- The texts that are given at all keep their names. -/
theorem mem_given {l : List (String × Option String)} {name : String}
    (h : name ∈ (Attribute.given l).map Prod.fst) :
    name ∈ l.map Prod.fst := by
  obtain ⟨e, he, rfl⟩ := List.mem_map.mp h
  obtain ⟨⟨name, value⟩, listed, here⟩ := List.mem_filterMap.mp he
  obtain ⟨text, -, rfl⟩ := Option.map_eq_some_iff.mp here
  exact List.mem_map_of_mem (f := Prod.fst) listed

/-- A finding's error is none of its extras. -/
theorem extra_ne_error (settings : Settings) (row : Item) :
    Attribute.error ∉ (Finding.extract settings row).extra.keys := by
  have refused : Finding.isExtra settings Attribute.error = false := by
    simp [Finding.isExtra, Attribute.ofProtocol]
  have unlisted : ∀ e ∈ Finding.extraEntries settings row, e.1 ≠ Attribute.error := by
    rintro ⟨name, value⟩ listed rfl
    obtain ⟨⟨name', value'⟩, -, here⟩ := List.mem_filterMap.mp listed
    by_cases extra : Finding.isExtra settings name' = true
    · simp only [extra, if_true, Option.map_eq_some_iff, Prod.mk.injEq] at here
      obtain ⟨_, -, rfl, -⟩ := here
      rw [refused] at extra
      cases extra
    · simp [extra] at here
  rw [KeyMap.mem_keys]
  change ¬((KeyMap.empty.insertAll (Finding.extraEntries settings row)).get? _).isSome
  rw [KeyMap.get?_insertAll_of_notMem unlisted]
  simp

theorem findingLayer_ne_error (settings : Settings) (row : Item) :
    ∀ e ∈ History.findingLayer (some (Finding.extract settings row)), e.1 ≠ Attribute.error := by
  intro e he own
  have named := mem_textEntries he
  rw [own, List.map_append, List.mem_append] at named
  rcases named with extra | metadata
  · exact extra_ne_error settings row extra
  · have listed : Attribute.error ∈ Attribute.metadata := mem_given metadata
    exact absurd listed (by decide)

theorem requestLayer_ne_error (settings : Settings) (r : Request) :
    ∀ e ∈ History.requestLayer settings r, e.1 ≠ Attribute.error := by
  intro e he own
  have named := mem_textEntries he
  rw [own, List.map_append, List.mem_append] at named
  rcases named with metadata | ids
  · have listed : Attribute.error ∈ [Attribute.accountId, Attribute.resourceId,
        Attribute.resourceType, Attribute.severity, Attribute.region] := mem_given metadata
    exact absurd listed (by decide)
  · have listed : Attribute.error ∈ [Attribute.lastUpdatedBy, Attribute.findingId,
        Attribute.executionId] := ids
    exact absurd listed (by decide)

/-- The error of a request is the last thing that is written to a new record. -/
theorem protocolLayer_eq_append (settings : Settings) (r : Request) (stamp : String)
    (expireAt : Int) :
    History.protocolLayer settings r stamp expireAt =
      History.protocolLayer settings { r with error := none } stamp expireAt ++
        (r.newError?.map fun e => (Attribute.error, Value.text e)).toList := by
  have entries : History.textEntries ((r.error.map fun e => (Attribute.error, e)).toList) =
      (r.newError?.map fun e => (Attribute.error, Value.text e)).toList := by
    unfold Request.newError?
    cases r.error with
    | none => rfl
    | some e =>
      by_cases blank : e = ""
      · subst blank
        rfl
      · simp [History.textEntries, blank, Option.filter]
  unfold History.protocolLayer
  rw [entries]
  rfl

/-- Nothing else in the layer of the protocol is an error. -/
theorem protocolLayer_ne_error {settings : Settings}
    (other : settings.scanHelperAttribute ≠ Attribute.error) (r : Request) (stamp : String)
    (expireAt : Int) :
    ∀ e ∈ History.protocolLayer settings { r with error := none } stamp expireAt,
      e.1 ≠ Attribute.error := by
  have other' : settings.scanHelperAttribute ≠ "error" := other
  simp [History.protocolLayer, History.textEntries, Attribute.remediationStatus,
    Attribute.lastUpdatedTimeFindingId, Attribute.lastUpdatedTime, Attribute.expireAt,
    Attribute.error, other']

/-- **A new record has the error of its request**, and none if the request has none: its finding
passes none on. -/
theorem record_error {settings : Settings} {row : Item} {record : Put}
    (other : settings.scanHelperAttribute ≠ Attribute.error)
    (built : History.createFor settings r (some (Finding.extract settings row)) now = .ok record) :
    record.item.get? Attribute.error = r.newError?.map Value.text := by
  obtain ⟨-, -, -, stamp, expireAt, -, item⟩ := createFor_eq_ok built
  have keys : ∀ e ∈ (History.key r).attributes, e.1 ≠ Attribute.error := by
    simp [History.key, Key.of, Key.attributes, Attribute.findingType,
      Attribute.findingIdExecutionId, Attribute.error]
  rw [item, Key.stamp, KeyMap.get?_insertAll_of_notMem keys, History.attributes, KeyMap.ofList,
    protocolLayer_eq_append, ← List.append_assoc, KeyMap.insertAll_append,
    KeyMap.insertAll_append, KeyMap.insertAll_append]
  cases r.newError? with
  | some e => exact KeyMap.get?_insert _ _ _ _
  | none =>
    rw [Option.map_none, Option.toList_none, KeyMap.insertAll_nil,
      KeyMap.get?_insertAll_of_notMem (protocolLayer_ne_error other r stamp expireAt),
      KeyMap.get?_insertAll_of_notMem (requestLayer_ne_error settings r),
      KeyMap.get?_insertAll_of_notMem (findingLayer_ne_error settings row)]
    rfl

/-! ## The rows after all -/

/-- The record that updates of one execution leave, from the one that the first of them creates. -/
theorem record_after_updates {first : Request} {created : Item}
    (status : created.get? Attribute.remediationStatus = some (.text first.remediationStatus))
    (error : created.get? Attribute.error = first.newError?.map Value.text)
    (later : List Request) :
    let record := later.foldl (fun row r => r.onRecord row) created
    let last := (first :: later).getLast (List.cons_ne_nil _ _)
    record.get? Attribute.remediationStatus = some (.text last.remediationStatus) ∧
      record.get? Attribute.error = (lastError? (first :: later)).map Value.text ∧
      AgreeExcept Attribute.updatedInRecord created record ∧ last.onRecord record = record := by
  intro record last
  have sets : ∀ (row : Item) (r : Request),
      (r.onRecord row).get? Attribute.remediationStatus = some (.text r.remediationStatus) :=
    fun row r => r.get?_onRecord row _
  have reports : ∀ (row : Item) (r : Request), (r.onRecord row).get? Attribute.error =
      (r.newError?.map Value.text).or (row.get? Attribute.error) :=
    fun row r => r.get?_onRecord row _
  have lastStatus := get?_foldl_of_set sets status later
  have lastError : record.get? Attribute.error =
      (lastError? (first :: later)).map Value.text := by
    rw [get?_foldl_of_report reports, error, lastError?_cons]
    cases lastError? later with
    | none => rfl
    | some e => rfl
  refine ⟨lastStatus, lastError, .foldl (fun row r => r.agreeExcept_onRecord row) later created,
    Request.onRecord_eq_self lastStatus fun e reported => ?_⟩
  rw [lastError, lastError?_of_getLast (List.cons_ne_nil _ _) reported]
  rfl

/-- The finding that updates of one execution leave. -/
theorem finding_after_updates (first : Request) (later : List Request) (old : Item) :
    let finding := (first :: later).foldl (fun row r => r.onFinding row) old
    let last := (first :: later).getLast (List.cons_ne_nil _ _)
    finding.get? Attribute.remediationStatus = some (.text last.remediationStatus) ∧
      finding.get? Attribute.executionId = some (.text last.executionId) ∧
      finding.get? Attribute.error =
        ((lastError? (first :: later)).map Value.text).or (old.get? Attribute.error) ∧
      AgreeExcept Attribute.updatedInFinding old finding ∧ last.onFinding finding = finding := by
  intro finding last
  have setsStatus : ∀ (row : Item) (r : Request),
      (r.onFinding row).get? Attribute.remediationStatus = some (.text r.remediationStatus) :=
    fun row r => r.get?_onFinding row _
  have setsExecution : ∀ (row : Item) (r : Request),
      (r.onFinding row).get? Attribute.executionId = some (.text r.executionId) :=
    fun row r => r.get?_onFinding row _
  have reports : ∀ (row : Item) (r : Request), (r.onFinding row).get? Attribute.error =
      (r.newError?.map Value.text).or (row.get? Attribute.error) :=
    fun row r => r.get?_onFinding row _
  have lastStatus := get?_foldl_of_set setsStatus (setsStatus old first) later
  have lastExecution := get?_foldl_of_set setsExecution (setsExecution old first) later
  have lastError := get?_foldl_of_report reports (first :: later) old
  refine ⟨lastStatus, lastExecution, lastError,
    .foldl (fun row r => r.agreeExcept_onFinding row) _ old,
    Request.onFinding_eq_self lastStatus lastExecution fun e reported => ?_⟩
  rw [lastError, lastError?_of_getLast (List.cons_ne_nil _ _) reported]
  rfl

end Coordinator

end RemediationLedger
