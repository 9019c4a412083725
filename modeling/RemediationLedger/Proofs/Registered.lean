/-
The status protocol on a store that has both of its tables.

Where the findings and the history table are registered with the names that the
protocol uses, a reply is no longer arbitrary: it is decided by whether the
finding and the history record exist at the moment of the call. `Served` is the
automaton that is left then. It has no faults, and each of its steps says what
it found. `served_of_registered` derives it from the automaton for arbitrary
stores and the two transactions' specifications.

## How the proof goes

The writes of an update go to two tables that are different because their key
names are (`Registered.tables_ne`), hence a transaction of an update has two
different targets, both sound, and `transact_pair` applies to it. What becomes
of the three calls that write is said by `Registered.transact_pairUpdate`,
`Registered.transact_creation` and `Registered.update_finding`, each with the
rows that decide and the reasons that are given. `Registered.refused_pairUpdate`
and `Registered.refused_creation` pass the reasons through the classifiers, and
then a refusal is one of the two conflicts that the stage can meet.

`Served` collects this, one constructor for each way on. A constructor carries
what the step found in the two rows and what was written, so a proof by cases on
it has all it needs and looks neither at programs nor at replies. Two
computations remain visible in it, since they do not depend on the store: the
expiry of a new record and its stamp.
-/
import RemediationLedger.Proofs.Stages

namespace RemediationLedger

def Request.findingSlot (r : Request) : Slot := ⟨r.findingType, r.findingId⟩

def Request.historySlot (r : Request) : Slot := ⟨r.findingType, r.historySortKey⟩

namespace Coordinator

/-- Both tables are known, with the key names of the protocol. -/
structure Registered (c : Coordinator) (t : Tables) : Prop where
  findings : t.names? c.settings.findingsTable =
    some ⟨Attribute.findingType, Attribute.findingId⟩
  history : t.names? c.settings.historyTable =
    some ⟨Attribute.findingType, Attribute.findingIdExecutionId⟩

def findingRow? (c : Coordinator) (t : Tables) (r : Request) : Option Item :=
  t.row? c.settings.findingsTable r.findingSlot

def historyRow? (c : Coordinator) (t : Tables) (r : Request) : Option Item :=
  t.row? c.settings.historyTable r.historySlot

variable {c : Coordinator} {now : DateTime} {r : Request} {t : Tables}

/-- The two tables have different key names, so they are two. -/
theorem Registered.tables_ne (reg : c.Registered t) :
    c.settings.historyTable ≠ c.settings.findingsTable := by
  intro h
  have hn := reg.history
  rw [h, reg.findings] at hn
  exact absurd hn (by decide)

/-- Only the names of the tables' keys matter. -/
theorem Registered.of_names?_eq {t' : Tables} (reg : c.Registered t)
    (same : ∀ table, t'.names? table = t.names? table) : c.Registered t' where
  findings := (same _).trans reg.findings
  history := (same _).trans reg.history

theorem Registered.foldl_write (reg : c.Registered t) (ws : List Write) :
    c.Registered (ws.foldl Tables.write t) :=
  reg.of_names?_eq fun table => Tables.names?_foldl_write t ws table

/-- The tables stay registered, whatever happens to their rows. -/
theorem Registered.effect {ι α : Type} [DecidableEq ι] {w w' : World ι α} {m : Move ι}
    (reg : c.Registered w.store.tables) (effect : w.Effect m w') :
    c.Registered w'.store.tables :=
  reg.of_names?_eq effect.names?_eq

theorem Registered.findings_known (reg : c.Registered t) :
    (t.names? c.settings.findingsTable).isSome := by rw [reg.findings]; rfl

theorem Registered.history_known (reg : c.Registered t) :
    (t.names? c.settings.historyTable).isSome := by rw [reg.history]; rfl

/-! ## The writes of an update -/

@[simp] theorem findingUpdate_table (c : Coordinator) (r : Request) (cond : Option Condition) :
    (c.findingUpdate r cond).table = c.settings.findingsTable := by
  simp [Finding.updateFor, Update.set, Update.of]

@[simp] theorem findingUpdate_key (c : Coordinator) (r : Request) (cond : Option Condition) :
    (c.findingUpdate r cond).key = Finding.key r.findingType r.findingId := by
  simp [Finding.updateFor, Update.set, Update.of]

@[simp] theorem historyUpdate_table (settings : Settings) (r : Request) :
    (History.updateFor settings r).table = settings.historyTable := by
  simp [History.updateFor, Update.set, Update.of]

@[simp] theorem historyUpdate_key (settings : Settings) (r : Request) :
    (History.updateFor settings r).key = History.key r := by
  simp [History.updateFor, Update.set, Update.of]

@[simp] theorem findingKey_names (findingType findingId : String) :
    (Finding.key findingType findingId).names =
      ⟨Attribute.findingType, Attribute.findingId⟩ := rfl

@[simp] theorem findingKey_slot (r : Request) :
    (Finding.key r.findingType r.findingId).slot = r.findingSlot := rfl

@[simp] theorem historyKey_names (r : Request) :
    (History.key r).names = ⟨Attribute.findingType, Attribute.findingIdExecutionId⟩ := rfl

@[simp] theorem historyKey_slot (r : Request) : (History.key r).slot = r.historySlot := rfl

/-- A record that is put together goes to its slot of the history table, if there is none yet. -/
theorem createFor_eq_ok {settings : Settings} {data : Option FindingData} {record : Put}
    (h : History.createFor settings r data now = .ok record) :
    record.table = settings.historyTable ∧ record.key = History.key r ∧
      record.condition = some .keyNotExists ∧
      ∃ stamp expireAt, now.timestamp? = some stamp ∧ record.item =
        (History.key r).stamp (History.attributes settings r data stamp expireAt) := by
  unfold History.createFor at h
  split at h
  · cases h
  · split at h
    · cases h
    · rename_i stamped
      cases h
      exact ⟨rfl, rfl, rfl, _, _, stamped, rfl⟩

/-- If the expiry can be computed, a record fails to be put together only for want of a UTC form
of the clock. -/
theorem createFor_eq_error {settings : Settings} {data : Option FindingData} {f : Failure}
    (computable : ∃ moment, Retention.expireAt now settings.historyTtlDays = .ok moment)
    (h : History.createFor settings r data now = .error f) :
    now.timestamp? = none ∧ f = .noUtcForm now := by
  obtain ⟨moment, computed⟩ := computable
  simp only [History.createFor, computed] at h
  split at h
  · rename_i unstamped
    cases h
    exact ⟨unstamped, rfl⟩
  · cases h

/-- An expiry that cannot be computed is out of range, and is reported so where the moment has a UTC
form. -/
theorem expireAt_eq_error {days : Int} {f : Failure} {stamp : String}
    (stamped : now.timestamp? = some stamp) (h : Retention.expireAt now days = .error f) :
    f = .reported (.settings (.expiryOutOfRange days stamp)) := by
  have outOfRange : Retention.outOfRange now days =
      .reported (.settings (.expiryOutOfRange days stamp)) := by
    unfold Retention.outOfRange
    rw [stamped]
  rw [← outOfRange]
  unfold Retention.expireAt Retention.expiry at h
  cases date : Retention.expiryDate? now.date days with
  | some date' => simp [date] at h
  | none => simpa [date] using h.symm

theorem createFor_of_error {f : Failure} {settings : Settings}
    (h : Retention.expireAt now settings.historyTtlDays = .error f) (r : Request)
    (data : Option FindingData) : History.createFor settings r data now = .error f := by
  unfold History.createFor
  rw [h]

theorem createFor_of_ok {moment : Int} {stamp : String} {settings : Settings}
    (h : Retention.expireAt now settings.historyTtlDays = .ok moment)
    (stamped : now.timestamp? = some stamp) (r : Request) (data : Option FindingData) :
    ∃ record, History.createFor settings r data now = .ok record := by
  unfold History.createFor
  rw [h, stamped]
  exact ⟨_, rfl⟩

def reason (held : Bool) : CancellationReason := if held then .notAtFault else .conditionFailed

theorem admits_findingUpdate (c : Coordinator) (t : Tables) (r : Request) :
    t.admits (.update (c.findingUpdate r (some .keyExists))) = (c.findingRow? t r).isSome := by
  simp only [Tables.admits, Write.table, Write.key, findingUpdate_table, findingUpdate_key]
  rfl

theorem admits_historyUpdate (c : Coordinator) (t : Tables) (r : Request) :
    t.admits (.update (History.updateFor c.settings r)) = (c.historyRow? t r).isSome := by
  simp only [Tables.admits, Write.table, Write.key, historyUpdate_table, historyUpdate_key]
  rfl

theorem admits_record {data : Option FindingData} {record : Put}
    (built : History.createFor c.settings r data now = .ok record) (t : Tables) :
    t.admits (.put record) = !(c.historyRow? t r).isSome := by
  obtain ⟨htable, hkey, hcond, -⟩ := createFor_eq_ok built
  simp only [Tables.admits, Write.admits, Write.table, Write.key, Write.condition, htable, hkey,
    hcond]
  rfl

/-- What becomes of the update of both rows. -/
theorem Registered.transact_pairUpdate (reg : c.Registered t) (r : Request) :
    t.transact (c.pairUpdate r) =
      if (c.findingRow? t r).isSome ∧ (c.historyRow? t r).isSome then
        (.ok (), (c.pairUpdate r).foldl Tables.write t)
      else
        (.error (.transactionCanceled
          [reason (c.findingRow? t r).isSome, reason (c.historyRow? t r).isSome]), t) := by
  have h := Tables.transact_pair (t := t)
    (v := .update (c.findingUpdate r (some .keyExists)))
    (w := .update (History.updateFor c.settings r))
    (by simpa [Write.table, Write.key] using reg.findings)
    (by simpa [Write.table, Write.key] using reg.history)
    (by simpa [Write.table] using reg.tables_ne)
  simp only [Tables.reasons, List.map_cons, List.map_nil, admits_findingUpdate,
    admits_historyUpdate] at h
  exact h

/-- What becomes of the creation of the record. -/
theorem Registered.transact_creation (reg : c.Registered t) {data : Option FindingData}
    {record : Put} (built : History.createFor c.settings r data now = .ok record) :
    t.transact (c.creation r record) =
      if (c.findingRow? t r).isSome ∧ !(c.historyRow? t r).isSome then
        (.ok (), (c.creation r record).foldl Tables.write t)
      else
        (.error (.transactionCanceled
          [reason (c.findingRow? t r).isSome, reason !(c.historyRow? t r).isSome]), t) := by
  obtain ⟨htable, hkey, -, -⟩ := createFor_eq_ok built
  have h := Tables.transact_pair (t := t)
    (v := .update (c.findingUpdate r (some .keyExists))) (w := .put record)
    (by simpa [Write.table, Write.key] using reg.findings)
    (by simpa [Write.table, Write.key, htable, hkey] using reg.history)
    (by simpa [Write.table, htable] using reg.tables_ne)
  simp only [Tables.reasons, List.map_cons, List.map_nil, admits_findingUpdate,
    admits_record built] at h
  exact h

/-- The update of the finding alone always goes through. -/
theorem Registered.update_finding (reg : c.Registered t) (r : Request) :
    t.update (c.findingUpdate r none) =
      (.ok (), t.write (.update (c.findingUpdate r none))) := by
  rw [Tables.update_of_sound (by simpa using reg.findings)]
  exact if_pos rfl

/-- Reading the finding returns its row. -/
theorem Registered.get_finding (reg : c.Registered t) (r : Request) :
    t.get c.settings.findingsTable (Finding.key r.findingType r.findingId) =
      .ok (c.findingRow? t r) :=
  Tables.get_of_sound reg.findings

/-! ## What the refusals mean -/

/-- A refused update of both rows blames the finding if it is missing, and else the record. -/
theorem Registered.refused_pairUpdate {s s' : Store} (reg : c.Registered s.tables)
    {e : StoreError} (answered : s.answer (.transact (c.pairUpdate r)) = (.error e, s')) :
    ((c.findingRow? s.tables r).isSome → c.historyRow? s.tables r = none) ∧
      Conflict.afterUpdateUpdate e =
        if (c.findingRow? s.tables r).isSome then .historyMissing else .findingMissing := by
  have reply : (s.tables.transact (c.pairUpdate r)).1 = .error e := congrArg Prod.fst answered
  rw [reg.transact_pairUpdate] at reply
  split at reply
  · cases reply
  rename_i refused
  cases reply
  cases hf : (c.findingRow? s.tables r).isSome with
  | false =>
    refine ⟨fun h => (Bool.false_ne_true h).elim, ?_⟩
    cases (c.historyRow? s.tables r).isSome <;> rfl
  | true =>
    cases hh : (c.historyRow? s.tables r).isSome with
    | false => exact ⟨fun _ => by simpa using hh, rfl⟩
    | true => exact absurd ⟨hf, hh⟩ refused

/-- A refused creation is a conflict that the protocol expects. -/
theorem Registered.refused_creation {s s' : Store} (reg : c.Registered s.tables)
    {data : Option FindingData} {record : Put} {e : StoreError}
    (built : History.createFor c.settings r data now = .ok record)
    (answered : s.answer (.transact (c.creation r record)) = (.error e, s')) :
    (c.findingRow? s.tables r = none ∨ (c.historyRow? s.tables r).isSome) ∧
      Conflict.afterCreateHistory e =
        if (c.historyRow? s.tables r).isSome then .historyAlreadyExists else .findingMissing := by
  have reply : (s.tables.transact (c.creation r record)).1 = .error e := congrArg Prod.fst answered
  rw [reg.transact_creation built] at reply
  split at reply
  · cases reply
  rename_i refused
  cases reply
  cases hh : (c.historyRow? s.tables r).isSome with
  | true =>
    refine ⟨.inr rfl, ?_⟩
    cases (c.findingRow? s.tables r).isSome <;> rfl
  | false =>
    cases hf : (c.findingRow? s.tables r).isSome with
    | false => exact ⟨.inl (by simpa using hf), rfl⟩
    | true => exact absurd ⟨hf, by rw [hh]; rfl⟩ refused

/-! ## The automaton on registered tables -/

/-- Every way on from a stage that a store with both tables allows, and what it found there. -/
inductive Served (c : Coordinator) (now : DateTime) (r : Request) (t : Tables) :
    Stage → (call : Call) → call.Reply → Stage → Prop
  | paired (finding : (c.findingRow? t r).isSome) (history : (c.historyRow? t r).isSome) :
      Served c now r t .pairing (.transact (c.pairUpdate r)) (.ok ())
        (.ended (.ok .updatedExisting))
  | findingMissing {e : StoreError} (finding : c.findingRow? t r = none) :
      Served c now r t .pairing (.transact (c.pairUpdate r)) (.error e)
        (.ended (.error (.reported (.findingMissing r.findingType r.findingId))))
  | historyMissing {e : StoreError} (finding : (c.findingRow? t r).isSome)
      (history : c.historyRow? t r = none) :
      Served c now r t .pairing (.transact (c.pairUpdate r)) (.error e) .reading
  | built {record : Put}
      (built : History.createFor c.settings r
        ((c.findingRow? t r).map (Finding.extract c.settings)) now = .ok record) :
      Served c now r t .reading (c.readCall r) (.ok (c.findingRow? t r)) (.creating record)
  | notBuilt {f : Failure}
      (failed : History.createFor c.settings r
        ((c.findingRow? t r).map (Finding.extract c.settings)) now = .error f) :
      Served c now r t .reading (c.readCall r) (.ok (c.findingRow? t r)) (.ended (.error f))
  | created {data : Option FindingData} {record : Put}
      (built : History.createFor c.settings r data now = .ok record)
      (finding : (c.findingRow? t r).isSome) (history : c.historyRow? t r = none) :
      Served c now r t (.creating record) (.transact (c.creation r record)) (.ok ())
        (.ended (.ok .createdHistory))
  | outrun {record : Put} {e : StoreError}
      (late : c.findingRow? t r = none ∨ (c.historyRow? t r).isSome) :
      Served c now r t (.creating record) (.transact (c.creation r record)) (.error e)
        .fallingBack
  | fellBack :
      Served c now r t .fallingBack (.update (c.findingUpdate r none)) (.ok ())
        (.ended (.ok .findingOnly))

/-- A reply of a store with both tables takes an update one of these ways. -/
theorem served_of_registered {s s' : Store} (reg : c.Registered s.tables) {stage next : Stage}
    {p : Run} {call : Call} {reply : call.Reply} (stands : Stands c now r stage p)
    (step : Transition c now r stage call reply next) (answered : s.answer call = (reply, s')) :
    Served c now r s.tables stage call reply next := by
  cases step with
  | paired =>
    have reply : (s.tables.transact (c.pairUpdate r)).1 = .ok () := congrArg Prod.fst answered
    rw [reg.transact_pairUpdate] at reply
    split at reply
    · rename_i both; exact .paired both.1 both.2
    · cases reply
  | findingMissing conflict =>
    obtain ⟨-, meaning⟩ := reg.refused_pairUpdate answered
    rw [meaning] at conflict
    split at conflict
    · cases conflict
    · rename_i hf; exact .findingMissing (by simpa using hf)
  | historyMissing conflict =>
    obtain ⟨history, meaning⟩ := reg.refused_pairUpdate answered
    rw [meaning] at conflict
    split at conflict
    · rename_i hf; exact .historyMissing hf (history hf)
    · cases conflict
  | pairingFault conflict =>
    obtain ⟨-, meaning⟩ := reg.refused_pairUpdate answered
    rw [meaning] at conflict
    split at conflict
    · exact absurd rfl conflict.2
    · exact absurd rfl conflict.1
  | built built =>
    obtain ⟨rfl, -⟩ := Prod.mk.inj answered
    have read := reg.get_finding r
    simp only [Store.get] at built ⊢
    rw [read] at built ⊢
    exact .built built
  | notBuilt failed =>
    obtain ⟨rfl, -⟩ := Prod.mk.inj answered
    have read := reg.get_finding r
    simp only [Store.get] at failed ⊢
    rw [read] at failed ⊢
    exact .notBuilt failed
  | created =>
    cases stands with
    | creating valid built =>
      have reply : (s.tables.transact (c.creation r _)).1 = .ok () := congrArg Prod.fst answered
      rw [reg.transact_creation built] at reply
      split at reply
      · rename_i both; exact .created built both.1 (by simpa using both.2)
      · cases reply
  | outrun conflict =>
    cases stands with
    | creating valid built => exact .outrun (reg.refused_creation built answered).1
  | creationFault conflict =>
    cases stands with
    | creating valid built =>
      obtain ⟨-, meaning⟩ := reg.refused_creation built answered
      rw [meaning] at conflict
      split at conflict
      · exact absurd rfl conflict.1
      · exact absurd rfl conflict.2
  | fellBack => exact .fellBack
  | fallbackFault =>
    have reply : (s.tables.update (c.findingUpdate r none)).1 = .error _ :=
      congrArg Prod.fst answered
    rw [reg.update_finding] at reply
    cases reply

end Coordinator

end RemediationLedger
