/-
Findings that come back.

The third stage of an update writes to its finding without any condition, so it
can put a finding into an empty slot. It is reached by way of the first stage
only, which goes on to the second one only if it found the finding
(`Served.afterPairing`). So if the slot is empty when the third stage gets to
it, the finding went missing while the update was under way, and as no call ever
takes a row away, somebody removed it (`removed_of_gone`).

The law is about moments of one schedule, which are its prefixes. What an update
at a later stage has behind it is therefore carried along as a splitting of the
moves so far (`Paired`), by an induction that adds the moves at the end
(`paired_run`).

* `removed_of_gone` and `Effect.served_or_inserted_of_new` are about arbitrary
  programs: a row that is gone was removed, and a row that is new was written or
  inserted.
* `recreation_of_new` is about updates. A call that makes a finding appear is
  that of the third stage; the first transaction of the same update found the
  finding, a removal lies in between, and the row is the key with the status,
  the execution and the error of the request.
* `findings_unchanged_by_call` and `origin_of_finding` are the case without
  removals, in which no call makes a finding appear at all: the findings are
  those of the start and those that were inserted.

`finding_comes_back_only_after_removal` has both, for each served move of each
schedule and, without removals, for the set of findings at any moment. Refusals
are excluded, since a refusal that is made up in the store's place can send an
update to its third stage although no transaction has looked at the finding.
-/
import Mathlib.Data.List.Induction
import RemediationLedger.Proofs.Alone
import RemediationLedger.Proofs.Footprint

namespace RemediationLedger

/-! ## Rows that come and go -/

/-- No write takes a row away. -/
theorem Tables.isSome_row?_write {t : Tables} {table : String} {slot : Slot}
    (present : (t.row? table slot).isSome) (w : Write) :
    ((t.write w).row? table slot).isSome := by
  by_cases known : (t.names? w.table).isSome
  · rw [row?_write known]
    split
    · rfl
    · exact present
  · rw [write_of_unknown (by simpa using known)]
    exact present

theorem Tables.isSome_row?_foldl_write {t : Tables} {table : String} {slot : Slot}
    (present : (t.row? table slot).isSome) (ws : List Write) :
    ((ws.foldl write t).row? table slot).isSome := by
  induction ws generalizing t with
  | nil => exact present
  | cons w ws ih => exact ih (isSome_row?_write present w)

theorem Store.tables_insert_of_sound {s : Store} {table : String} {key : Key}
    (sound : s.tables.names? table = some key.names) (attributes : Item) :
    (s.insert table key attributes).2.tables =
      s.tables.setRow table key.slot (key.stamp attributes) := by
  simp [insert, Tables.insertRow, Tables.checkTarget_eq_ok.mpr sound]

namespace World

variable {ι α : Type} [DecidableEq ι] {w w' : World ι α} {m : Move ι} {moves : List (Move ι)}
  {table : String} {slot : Slot}

theorem run_append (w : World ι α) (moves moves' : List (Move ι)) :
    w.run (moves ++ moves') = (w.run moves).run moves' :=
  List.foldl_append

theorem run_concat (w : World ι α) (moves : List (Move ι)) (m : Move ι) :
    w.run (moves ++ [m]) = (w.run moves).step m :=
  w.run_append moves [m]

/-- What holds at the start of a run and not at its end is ended by one of the moves. -/
theorem ended_by_move (P : World ι α → Prop) (held : P w) (moves : List (Move ι))
    (lost : ¬P (w.run moves)) :
    ∃ early m late, moves = early ++ m :: late ∧ P (w.run early) ∧ ¬P (w.run (early ++ [m])) := by
  induction moves generalizing w with
  | nil => exact absurd held lost
  | cons m moves ih =>
    by_cases here : P (w.step m)
    · obtain ⟨early, m', late, rfl, before, after⟩ := ih here lost
      exact ⟨m :: early, m', late, rfl, before, after⟩
    · exact ⟨[], m, moves, rfl, held, here⟩

/-- Only a removal takes a row away. -/
theorem Effect.removed_of_gone (effect : w.Effect m w')
    (present : (w.store.tables.row? table slot).isSome)
    (gone : w'.store.tables.row? table slot = none) :
    ∃ key, m = .remove table key ∧ key.slot = slot := by
  have stays : ¬(w'.store.tables.row? table slot).isSome := by simp [gone]
  cases effect with
  | idle | refused => exact absurd present stays
  | @served i c cont reply s pending answered =>
    refine absurd ?_ stays
    change (s.tables.row? table slot).isSome
    rw [Store.answer_tables answered]
    exact Tables.isSome_row?_foldl_write present _
  | inserted table' key attributes =>
    refine absurd (Store.insert_kept (P := fun t => (t.row? table slot).isSome) present ?_) stays
    intro sound
    rw [Tables.row?_setRow (by simp [sound])]
    split
    · rfl
    · exact present
  | removed table' key =>
    by_cases here : table = table' ∧ slot = key.slot
    · obtain ⟨rfl, rfl⟩ := here
      exact ⟨key, rfl, rfl⟩
    · refine absurd (Store.remove_kept (P := fun t => (t.row? table slot).isSome) present ?_) stays
      rw [Tables.row?_dropRow, if_neg here]
      exact present

/-- A row that is there before a run and not after it was removed. -/
theorem removed_of_gone (present : (w.store.tables.row? table slot).isSome)
    (gone : (w.run moves).store.tables.row? table slot = none) :
    ∃ early key late, moves = early ++ .remove table key :: late ∧ key.slot = slot ∧
      ((w.run early).store.tables.row? table slot).isSome ∧
      (w.run (early ++ [.remove table key])).store.tables.row? table slot = none := by
  obtain ⟨early, m, late, rfl, before, after⟩ :=
    ended_by_move (fun w => (w.store.tables.row? table slot).isSome) present moves (by simp [gone])
  have after : (w.run (early ++ [m])).store.tables.row? table slot = none := by simpa using after
  have effect := (w.run early).effect_step m
  rw [← run_concat] at effect
  obtain ⟨key, rfl, here⟩ := effect.removed_of_gone before after
  exact ⟨early, key, late, rfl, here, before, after⟩

theorem stays_of_unremoved (present : (w.store.tables.row? table slot).isSome)
    (unremoved : ∀ key, Move.remove table key ∉ moves) :
    ((w.run moves).store.tables.row? table slot).isSome := by
  by_contra gone
  obtain ⟨early, key, late, rfl, -⟩ :=
    removed_of_gone present (Option.not_isSome_iff_eq_none.mp gone)
  exact unremoved key (by simp)

/-- Only a call or an insertion makes a row appear. -/
theorem Effect.served_or_inserted_of_new (effect : w.Effect m w')
    (absent : w.store.tables.row? table slot = none)
    (present : (w'.store.tables.row? table slot).isSome) :
    (∃ i, m = .serve i) ∨ ∃ key attributes, m = .insert table key attributes ∧ key.slot = slot ∧
      w.store.tables.names? table = some key.names := by
  have nothing : ¬(w.store.tables.row? table slot).isSome := by simp [absent]
  cases effect with
  | idle | refused => exact absurd present nothing
  | served => exact .inl ⟨_, rfl⟩
  | inserted table' key attributes =>
    refine .inr ?_
    have own : ((w.store.insert table' key attributes).2.tables.row? table slot).isSome →
        table' = table ∧ key.slot = slot ∧ w.store.tables.names? table' = some key.names := by
      refine Store.insert_kept (P := fun t => (t.row? table slot).isSome → _)
        (fun there => absurd there nothing) fun sound there => ?_
      rw [Tables.row?_setRow (by simp [sound])] at there
      split at there
      · rename_i here
        exact ⟨here.1.symm, here.2.symm, sound⟩
      · exact absurd there nothing
    obtain ⟨rfl, here, sound⟩ := own present
    exact ⟨key, attributes, rfl, here, sound⟩
  | removed table' key =>
    refine absurd present (Store.remove_kept (P := fun t => ¬(t.row? table slot).isSome) nothing ?_)
    rw [Tables.row?_dropRow]
    split
    · simp
    · exact nothing

end World

def Request.recreated (r : Request) : Item :=
  .ofList ([(Attribute.findingType, .text r.findingType), (Attribute.findingId, .text r.findingId),
    (Attribute.remediationStatus, .text r.remediationStatus),
    (Attribute.executionId, .text r.executionId)] ++
    (r.newError?.map fun e => (Attribute.error, .text e)).toList)

namespace Coordinator

variable {ι : Type} {c : Coordinator} {now : ι → DateTime} {req : ι → Request} {s : Store}
  {moves : List (Move ι)}

/-! ## The way to the third stage -/

def Stage.afterPairing : Stage → Prop
  | .reading | .creating _ | .fallingBack => True
  | .pairing | .ended _ => False

/-- An update gets there by its first transaction only, and that found the finding. -/
theorem Served.afterPairing {now : DateTime} {r : Request} {t : Tables} {stage next : Stage}
    {call : Call} {reply : call.Reply} (step : Served c now r t stage call reply next)
    (after : next.afterPairing) :
    stage.afterPairing ∨ (call = .transact (c.pairUpdate r) ∧ (c.findingRow? t r).isSome) := by
  cases step with
  | historyMissing finding => exact .inr ⟨rfl, finding⟩
  | built | outrun => exact .inl trivial
  | paired | findingMissing | notBuilt | created | fellBack => exact after.elim

theorem result_findingUpdate_none {r : Request} (valid : r.isValid = true) :
    (Write.update (c.findingUpdate r none)).result none = r.recreated := by
  have fresh : (Write.update (c.findingUpdate r none)).result none =
      (Write.update (c.findingUpdate r none)).result
        (some (Finding.key r.findingType r.findingId).toItem) := by
    simp [Write.result]
  rw [fresh, result_findingUpdate c valid, Request.recreated, KeyMap.ofList,
    KeyMap.insertAll_append]
  unfold Request.onFinding Request.reportOn
  cases r.newError? <;> rfl

/-- A call of an update makes a finding appear only if it is the call of the third stage, and then
it leaves there what it makes of an empty slot. -/
theorem Served.finding_appeared {now : DateTime} {r : Request} {t : Tables} {stage next : Stage}
    {call : Call} {reply : call.Reply} (step : Served c now r t stage call reply next)
    (reg : c.Registered t) {slot : Slot}
    (absent : t.row? c.settings.findingsTable slot = none)
    (present : (((call.carriedOut reply).foldl Tables.write t).row?
      c.settings.findingsTable slot).isSome) :
    slot = r.findingSlot ∧ stage = .fallingBack ∧ call = .update (c.findingUpdate r none) ∧
      ((call.carriedOut reply).foldl Tables.write t).row? c.settings.findingsTable slot =
        some ((Write.update (c.findingUpdate r none)).result none) := by
  rw [step.findingRow_after reg] at present ⊢
  split at present
  · rename_i own
    obtain ⟨committed, rfl⟩ := own
    have missing : c.findingRow? t r = none := absent
    rw [if_pos ⟨committed, rfl⟩, missing]
    cases step with
    | fellBack => exact ⟨rfl, rfl, rfl, rfl⟩
    | paired finding | created _ finding => simp [missing] at finding
    | findingMissing | historyMissing | built | notBuilt | outrun =>
      simp [Call.committed] at committed
  · simp [absent] at present

variable [DecidableEq ι]

/-- Among the moves so far is the first transaction of a client's update, and it found the
finding. -/
def Paired (c : Coordinator) (r : Request) (w : World ι (Except Failure Outcome))
    (moves : List (Move ι)) (i : ι) : Prop :=
  ∃ before later, moves = before ++ .serve i :: later ∧
    (∃ cont, (w.run before).pending i = .call (.transact (c.pairUpdate r)) cont) ∧
    (c.findingRow? (w.run before).store.tables r).isSome

theorem Paired.concat {r : Request} {w : World ι (Except Failure Outcome)} {i : ι}
    (h : Paired c r w moves i) (m : Move ι) : Paired c r w (moves ++ [m]) i := by
  obtain ⟨before, later, rfl, pending, finding⟩ := h
  exact ⟨before, later ++ [m], by simp, pending, finding⟩

/-- Every update at the second or third stage has its first transaction behind it. -/
theorem paired_run (c : Coordinator) (now : ι → DateTime) (req : ι → Request) (s : Store)
    (reg : c.Registered s.tables) (moves : List (Move ι))
    (unrefused : ∀ i e, Move.refuse i e ∉ moves) :
    c.Registered ((updates c now req s).run moves).store.tables ∧
      ∀ i, ∃ stage,
        Stands c (now i) (req i) stage (((updates c now req s).run moves).pending i) ∧
        (stage.afterPairing → Paired c (req i) (updates c now req s) moves i) := by
  induction moves using List.reverseRecOn with
  | nil =>
    -- at the start an update stands before its first transaction, or has ended
    refine ⟨reg, fun i => ⟨_, stands_first c (now i) (req i), fun after => ?_⟩⟩
    unfold Stage.first at after
    split at after <;> exact after.elim
  | append_singleton moves m ih =>
    obtain ⟨reg, stands⟩ := ih fun i e hm => unrefused i e (List.mem_append_left _ hm)
    have effect := ((updates c now req s).run moves).effect_step m
    rw [World.run_concat]
    refine ⟨reg.effect effect, fun i => ?_⟩
    obtain ⟨stage, here, paired⟩ := stands i
    have kept : stage.afterPairing → Paired c (req i) (updates c now req s) (moves ++ [m]) i :=
      fun after => (paired after).concat m
    generalize ((updates c now req s).run moves).step m = w' at effect ⊢
    cases effect with
    | idle => exact ⟨stage, here, kept⟩
    | @served j call cont reply s' pending answered =>
      by_cases own : i = j
      · subst own
        rw [pending] at here
        obtain ⟨next, step, there⟩ := here.reply reply
        rw [World.pending_afterTurn_self]
        refine ⟨next, there, fun after => ?_⟩
        rcases (served_of_registered reg here step answered).afterPairing after with
          earlier | ⟨rfl, finding⟩
        · exact kept earlier
        · exact ⟨moves, [], rfl, ⟨cont, pending⟩, finding⟩
      · rw [World.pending_afterTurn_of_ne _ own]
        exact ⟨stage, here, kept⟩
    | @refused j e =>
      exact absurd (List.mem_append_right _ List.mem_cons_self) (unrefused j e)
    | inserted | removed => exact ⟨stage, here, kept⟩

/-! ## Findings that come back -/

abbrev findingAt? (c : Coordinator) (w : World ι (Except Failure Outcome)) (slot : Slot) :
    Option Item :=
  w.store.tables.row? c.settings.findingsTable slot

/-- How the next call of a client makes a finding appear. -/
structure Recreation (c : Coordinator) (r : Request) (w : World ι (Except Failure Outcome))
    (moves : List (Move ι)) (i : ι) (slot : Slot) : Prop where
  own : slot = r.findingSlot
  fallback : ∃ cont, (w.run moves).pending i = .call (.update (c.findingUpdate r none)) cont
  row : c.findingAt? (w.run (moves ++ [.serve i])) slot = some r.recreated
  vanished : ∃ before early key late,
    moves = before ++ .serve i :: (early ++ .remove c.settings.findingsTable key :: late) ∧
    key.slot = slot ∧
    (∃ cont, (w.run before).pending i = .call (.transact (c.pairUpdate r)) cont) ∧
    (c.findingAt? (w.run before) slot).isSome ∧
    (c.findingAt? (w.run (before ++ .serve i :: early)) slot).isSome ∧
    c.findingAt?
      (w.run (before ++ .serve i :: (early ++ [.remove c.settings.findingsTable key]))) slot = none

/-- A call that makes a finding appear recreates one that was removed meanwhile. -/
theorem recreation_of_new (reg : c.Registered s.tables)
    (unrefused : ∀ i e, Move.refuse i e ∉ moves) {i : ι} {slot : Slot}
    (absent : c.findingAt? ((updates c now req s).run moves) slot = none)
    (present : (c.findingAt? ((updates c now req s).run (moves ++ [.serve i])) slot).isSome) :
    Recreation c (req i) (updates c now req s) moves i slot := by
  obtain ⟨reg, stands⟩ := paired_run c now req s reg moves unrefused
  obtain ⟨stage, here, paired⟩ := stands i
  have effect := ((updates c now req s).run moves).effect_step (.serve i)
  rw [← World.run_concat] at effect
  generalize after : (updates c now req s).run (moves ++ [.serve i]) = w' at effect present
  cases effect with
  | idle => simp [absent] at present
  | @served _ call cont reply s' pending answered =>
    rw [pending] at here
    obtain ⟨next, step, -⟩ := here.reply reply
    have step := served_of_registered reg here step answered
    have left := Store.answer_tables answered
    change (s'.tables.row? _ _).isSome at present
    rw [left] at present
    obtain ⟨rfl, rfl, rfl, row⟩ := step.finding_appeared reg absent present
    refine ⟨rfl, ⟨cont, pending⟩, ?_, ?_⟩
    · rw [after]
      change s'.tables.row? _ _ = _
      rw [left, row, result_findingUpdate_none here.valid]
    · obtain ⟨before, later, rfl, first, finding⟩ := paired trivial
      rw [World.run_append] at absent
      obtain ⟨early, key, late, split, here, there, gone⟩ := World.removed_of_gone finding absent
      -- the first of these moves is the call itself, so the removal is one of the later ones
      cases early with
      | nil => cases split
      | cons m early =>
        obtain ⟨rfl, rfl⟩ := List.cons.inj split
        rw [← World.run_append] at there gone
        exact ⟨before, early, key, late, rfl, here, first, finding, there, gone⟩

/-- A recreated finding was removed before. -/
theorem Recreation.removed {r : Request} {w : World ι (Except Failure Outcome)} {i : ι}
    {slot : Slot} (h : Recreation c r w moves i slot) :
    ∃ key, Move.remove c.settings.findingsTable key ∈ moves := by
  obtain ⟨before, early, key, late, rfl, -⟩ := h.vanished
  exact ⟨key, by simp⟩

/-- Where no finding is removed, a call neither adds a finding nor takes one away. -/
theorem findings_unchanged_by_call (reg : c.Registered s.tables)
    (unrefused : ∀ i e, Move.refuse i e ∉ moves)
    (unremoved : ∀ key, Move.remove c.settings.findingsTable key ∉ moves) (i : ι) (slot : Slot) :
    (c.findingAt? ((updates c now req s).run (moves ++ [.serve i])) slot).isSome =
      (c.findingAt? ((updates c now req s).run moves) slot).isSome := by
  cases present : (c.findingAt? ((updates c now req s).run moves) slot).isSome with
  | true =>
    by_contra gone
    have effect := ((updates c now req s).run moves).effect_step (.serve i)
    rw [← World.run_concat] at effect
    obtain ⟨key, removal, -⟩ := effect.removed_of_gone present (by simpa using gone)
    cases removal
  | false =>
    by_contra appeared
    have absent := Option.isSome_eq_false_iff.mp present
    have recreation := recreation_of_new reg unrefused (by simpa using absent)
      ((Bool.not_eq_false _).mp appeared)
    obtain ⟨key, removal⟩ := recreation.removed
    exact unremoved key removal

/-- Where no finding is removed, a finding is there from the start, or it was inserted. -/
theorem origin_of_finding (reg : c.Registered s.tables)
    (unrefused : ∀ i e, Move.refuse i e ∉ moves)
    (unremoved : ∀ key, Move.remove c.settings.findingsTable key ∉ moves) {slot : Slot}
    (absent : s.tables.row? c.settings.findingsTable slot = none)
    (present : (c.findingAt? ((updates c now req s).run moves) slot).isSome) :
    ∃ key attributes, .insert c.settings.findingsTable key attributes ∈ moves ∧
      key.slot = slot ∧ key.names = ⟨Attribute.findingType, Attribute.findingId⟩ := by
  obtain ⟨early, m, late, rfl, before, after⟩ :=
    World.ended_by_move (w := updates c now req s)
      (fun w => w.store.tables.row? c.settings.findingsTable slot = none) absent moves
      (Option.isSome_iff_ne_none.mp present)
  have appears := Option.isSome_iff_ne_none.mpr after
  have unrefused' : ∀ i e, Move.refuse i e ∉ early := fun i e hm =>
    unrefused i e (List.mem_append_left _ hm)
  have effect := ((updates c now req s).run early).effect_step m
  rw [← World.run_concat] at effect
  rcases effect.served_or_inserted_of_new before appears with
    ⟨i, rfl⟩ | ⟨key, attributes, rfl, here, sound⟩
  · obtain ⟨key, removal⟩ := (recreation_of_new reg unrefused' before appears).removed
    exact absurd (List.mem_append_left _ removal) (unremoved key)
  · have reg' := (paired_run c now req s reg early unrefused').1
    exact ⟨key, attributes, by simp, here, Option.some.inj (sound.symm.trans reg'.findings)⟩

/-- An inserted finding is there from then on, unless a finding is removed. -/
theorem inserted_finding_stays (reg : c.Registered s.tables)
    (unrefused : ∀ i e, Move.refuse i e ∉ moves)
    (unremoved : ∀ key, Move.remove c.settings.findingsTable key ∉ moves) {key : Key}
    {attributes : Item} (inserted : .insert c.settings.findingsTable key attributes ∈ moves)
    (named : key.names = ⟨Attribute.findingType, Attribute.findingId⟩) :
    (c.findingAt? ((updates c now req s).run moves) key.slot).isSome := by
  obtain ⟨early, late, rfl⟩ := List.append_of_mem inserted
  have reg' := (paired_run c now req s reg early fun i e hm =>
    unrefused i e (List.mem_append_left _ hm)).1
  have sound := reg'.findings
  rw [← named] at sound
  have put : (c.findingAt? (((updates c now req s).run early).step
      (.insert c.settings.findingsTable key attributes)) key.slot).isSome := by
    change ((((updates c now req s).run early).store.insert _ key attributes).2.tables.row?
      _ _).isSome
    rw [Store.tables_insert_of_sound sound, Tables.row?_setRow (by simp [sound]),
      if_pos ⟨rfl, rfl⟩]
    rfl
  rw [World.run_append]
  have later : ∀ key, Move.remove c.settings.findingsTable key ∉ late := fun key hm =>
    unremoved key (List.mem_append_right _ (List.mem_cons_of_mem _ hm))
  have stays := World.stays_of_unremoved put later
  exact stays

/-- **A finding comes back only if it went missing on the way.** Any updates run on both tables
among arbitrary insertions and removals, and no call is refused in the store's place. If a call
makes a finding appear, it is the last call of its update, on the update's own finding, and what
it leaves there is the key, the status, the execution and the error of the request alone. The
finding was there when the first call of the update was served, and it was removed since. So where
no finding is removed, no call changes which findings there are; at the end there are those from
the start and those that were inserted past the updates. -/
theorem finding_comes_back_only_after_removal (c : Coordinator) (now : ι → DateTime)
    (req : ι → Request) (s : Store) (reg : c.Registered s.tables) (moves : List (Move ι))
    (unrefused : ∀ i e, Move.refuse i e ∉ moves) :
    let w := updates c now req s
    (∀ before i after, moves = before ++ .serve i :: after → ∀ slot,
      c.findingAt? (w.run before) slot = none →
      (c.findingAt? (w.run (before ++ [.serve i])) slot).isSome →
        Recreation c (req i) w before i slot) ∧
    ((∀ key, Move.remove c.settings.findingsTable key ∉ moves) →
      (∀ before i after, moves = before ++ .serve i :: after → ∀ slot,
        (c.findingAt? (w.run (before ++ [.serve i])) slot).isSome =
          (c.findingAt? (w.run before) slot).isSome) ∧
      ∀ slot, (c.findingAt? (w.run moves) slot).isSome ↔
        (s.tables.row? c.settings.findingsTable slot).isSome ∨
        ∃ key attributes, .insert c.settings.findingsTable key attributes ∈ moves ∧
          key.slot = slot ∧ key.names = ⟨Attribute.findingType, Attribute.findingId⟩) := by
  intro w
  refine ⟨fun before i after split slot => ?_, fun unremoved => ⟨?_, fun slot => ⟨?_, ?_⟩⟩⟩
  · exact recreation_of_new reg fun i e hm => unrefused i e (by simp [split, hm])
  · intro before i after split slot
    exact findings_unchanged_by_call reg (fun i e hm => unrefused i e (by simp [split, hm]))
      (fun key hm => unremoved key (by simp [split, hm])) i slot
  · intro present
    refine or_iff_not_imp_left.mpr fun absent => ?_
    exact origin_of_finding reg unrefused unremoved (Option.not_isSome_iff_eq_none.mp absent)
      present
  · rintro (present | ⟨key, attributes, inserted, rfl, named⟩)
    · exact World.stays_of_unremoved (w := w) present unremoved
    · exact inserted_finding_stays reg unrefused unremoved inserted named

/-- The finding is removed after it was read, so the second transaction is outrun and the third
stage recreates it. -/
theorem finding_comes_back_of_pair :
    let moves : List (Move Bool) := [.serve false, .serve false,
      .remove "findings" (Finding.key "EC2.1" "f1"), .serve false]
    Recreation pairLedger (pairRequest false)
      (updates pairLedger (fun _ => newYear) pairRequest pairStore) moves false
      ⟨"EC2.1", "f1"⟩ := by
  intro moves
  obtain ⟨recreated, -⟩ := finding_comes_back_only_after_removal pairLedger (fun _ => newYear)
    pairRequest pairStore registered_pairStore (moves ++ [.serve false]) (by simp [moves])
  refine recreated moves false [] rfl _ ?_ ?_
  · decide +kernel
  · decide +kernel

end Coordinator

end RemediationLedger
