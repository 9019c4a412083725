/-
Any number of clients of one store, call by call.

A `World` is a store in memory, what is left of each client's program, and the
turns that the clients have had at the store, the latest first. In one move the
pending call of one client reaches the store, or is refused in the store's
place, or a row is inserted or removed past all clients. A schedule is a list of
moves, so a statement about every schedule is a statement about every
interleaving with every choice of faults and of foreign writes.

Nothing is assumed of the clients here. They are arbitrary programs, of which
only the calls matter: `Program.quiet` passes over the events before the next
call. The two facts that everything else builds on are `effect_step`, which says
in full what one move does, and `Turn.Faithful`, which holds of every turn of
every run: the tables after a turn are those before it with the carried out
writes applied, and a turn that was not committed carried out none.

## Using it

A proof about all schedules has three parts. An invariant of a world is stated;
`effect_step` gives the cases of one move, each with all that is known in it,
and the invariant is shown to be kept in each; and `run_induction` does the
rest. Most invariants are about one client and its turns, and for them
`Effect.own_or_elsewhere` has two cases only.

Time is kept by the list of turns, each of which has the tables before and after
it. An invariant can speak of the past through it, and a statement about what
was written when needs no ghost state of its own. What the turns say can be
relied on, since they are faithful in every run (`faithful_run`).

A client whose program has ended may be scheduled again and does nothing, and a
move for a client that there is none of is one of those. Hence there is no
condition that a schedule has to meet.
-/
import Mathlib.Logic.Function.Basic
import RemediationLedger.Program
import RemediationLedger.Proofs.Rows

namespace RemediationLedger

/-! ## Calls -/

namespace Call

def writes : Call → List Write
  | get _ _ => []
  | transact writes => writes
  | update u => [.update u]

/-- Whether the reply says that the writes of the call were carried out. -/
def committed : (c : Call) → c.Reply → Bool
  | get _ _, _ => false
  | transact _, .ok () => true
  | transact _, .error _ => false
  | update _, .ok () => true
  | update _, .error _ => false

/-- The writes that the store carried out, going by its reply. -/
def carriedOut (c : Call) (reply : c.Reply) : List Write :=
  if c.committed reply then c.writes else []

@[simp] theorem committed_refusal (c : Call) (e : StoreError) :
    c.committed (c.refusal e) = false := by
  cases c <;> rfl

@[simp] theorem carriedOut_refusal (c : Call) (e : StoreError) :
    c.carriedOut (c.refusal e) = [] := by
  simp [carriedOut]

end Call

/-- The store in memory does what its replies say: it carries out all writes of a call or none. -/
theorem Store.answer_tables {s s' : Store} {c : Call} {reply : c.Reply}
    (h : s.answer c = (reply, s')) :
    s'.tables = (c.carriedOut reply).foldl Tables.write s.tables := by
  cases c with
  | get table key => cases h; rfl
  | transact writes =>
    rcases s.tables.transact_carried_or_refused writes with ⟨carried, -⟩ | ⟨e, refused⟩
    · rw [answer, transact_of_tables carried] at h
      cases h
      rfl
    · rw [answer, transact_of_tables refused] at h
      cases h
      rfl
  | update u =>
    rcases s.tables.update_carried_or_refused u with ⟨carried, -⟩ | ⟨e, refused⟩
    · rw [answer, update_of_tables carried] at h
      cases h
      rfl
    · rw [answer, update_of_tables refused] at h
      cases h
      rfl

/-! ## Worlds -/

def Program.quiet {α : Type} : Program α → Program α
  | done result => done result
  | note _ rest => rest.quiet
  | call c rest => call c rest

structure Turn (ι : Type) where
  client : ι
  call : Call
  reply : call.Reply
  before : Tables
  after : Tables

namespace Turn

variable {ι : Type}

def committed (t : Turn ι) : Bool := t.call.committed t.reply

def wrote (t : Turn ι) (table : String) (slot : Slot) : Bool :=
  t.committed && t.call.writes.any fun w => w.table == table && w.key.slot == slot

/-- The tables changed exactly by the carried out writes. -/
def Faithful (t : Turn ι) : Prop :=
  t.after = (t.call.carriedOut t.reply).foldl Tables.write t.before

/-- A turn that committed nothing changed nothing. -/
theorem Faithful.unchanged {t : Turn ι} (h : t.Faithful) (hc : t.committed = false) :
    t.after = t.before := by
  unfold committed at hc
  simpa [Faithful, Call.carriedOut, hc] using h

/-- A committed turn carried out all of its writes in order. -/
theorem Faithful.changed {t : Turn ι} (h : t.Faithful) (hc : t.committed = true) :
    t.after = t.call.writes.foldl Tables.write t.before := by
  unfold committed at hc
  simpa [Faithful, Call.carriedOut, hc] using h

end Turn

/-- Clients of one store in memory, in the middle of their programs. -/
structure World (ι α : Type) where
  store : Store
  /-- What is left of each client's program. -/
  rest : ι → Program α
  /-- The turns so far, the latest first. -/
  turns : List (Turn ι)

/-- What may happen next. -/
inductive Move (ι : Type) where
  /-- The pending call of a client reaches the store. -/
  | serve (client : ι)
  /-- The pending call of a client is refused in the store's place. -/
  | refuse (client : ι) (e : StoreError)
  /-- A row is inserted past all clients. -/
  | insert (table : String) (key : Key) (attributes : Item)
  /-- A row is removed past all clients. -/
  | remove (table : String) (key : Key)

def Move.client? {ι : Type} : Move ι → Option ι
  | serve i => some i
  | refuse i _ => some i
  | insert .. => none
  | remove .. => none

namespace World

variable {ι α : Type}

def opening (s : Store) (programs : ι → Program α) : World ι α := ⟨s, programs, []⟩

def pending (w : World ι α) (i : ι) : Program α := (w.rest i).quiet

def result? (w : World ι α) (i : ι) : Option α :=
  match w.pending i with
  | .done result => some result
  | _ => none

/-- The calls of a client that the store carried out, the latest first. -/
def commitsOf [DecidableEq ι] (w : World ι α) (i : ι) : List Call :=
  (w.turns.filter fun t => t.client = i ∧ t.committed).map Turn.call

theorem result?_eq_some {w : World ι α} {i : ι} {result : α} :
    w.result? i = some result ↔ w.pending i = .done result := by
  unfold result?
  split
  · rename_i h; simp [h]
  · rename_i h
    constructor
    · intro h'; cases h'
    · intro h'; exact absurd h' (h _)

theorem pending_opening (s : Store) (programs : ι → Program α) (i : ι) :
    (opening s programs).pending i = (programs i).quiet := rfl

/-- A client that has not ended has a call pending. -/
theorem done_or_call_of_quiet (p : Program α) :
    (∃ result, p.quiet = .done result) ∨ ∃ c cont, p.quiet = .call c cont := by
  induction p with
  | done result => exact .inl ⟨result, rfl⟩
  | note _ rest ih => exact ih
  | call c cont => exact .inr ⟨c, cont, rfl⟩

variable [DecidableEq ι]

/-- The world after a client's call was given a reply, with `cont` what the client goes on with. -/
def afterTurn (w : World ι α) (i : ι) (c : Call) (cont : c.Reply → Program α)
    (reply : c.Reply) (s : Store) : World ι α where
  store := s
  rest := Function.update w.rest i (cont reply)
  turns := ⟨i, c, reply, w.store.tables, s.tables⟩ :: w.turns

/-- One move. A client whose program has ended does nothing when its turn comes. -/
def step (w : World ι α) : Move ι → World ι α
  | .serve i =>
    match w.pending i with
    | .call c cont =>
      match w.store.answer c with
      | (reply, s) => w.afterTurn i c cont reply s
    | _ => w
  | .refuse i e =>
    match w.pending i with
    | .call c cont => w.afterTurn i c cont (c.refusal e) w.store
    | _ => w
  | .insert table key attributes => { w with store := (w.store.insert table key attributes).2 }
  | .remove table key => { w with store := (w.store.remove table key).2 }

def run (w : World ι α) (moves : List (Move ι)) : World ι α := moves.foldl step w

/-! ## What a move does -/

@[simp] theorem pending_afterTurn_self (w : World ι α) (i : ι) (c : Call)
    (cont : c.Reply → Program α) (reply : c.Reply) (s : Store) :
    (w.afterTurn i c cont reply s).pending i = (cont reply).quiet := by
  simp [pending, afterTurn]

theorem pending_afterTurn_of_ne (w : World ι α) {i j : ι} (h : j ≠ i) (c : Call)
    (cont : c.Reply → Program α) (reply : c.Reply) (s : Store) :
    (w.afterTurn i c cont reply s).pending j = w.pending j := by
  simp [pending, afterTurn, h]

/-- What one move can do, with everything that is known in each case. -/
inductive Effect (w : World ι α) : Move ι → World ι α → Prop
  | idle {m : Move ι} {i : ι} {result : α} (client : m.client? = some i)
      (ended : w.pending i = .done result) : Effect w m w
  | served {i : ι} {c : Call} {cont : c.Reply → Program α} {reply : c.Reply} {s : Store}
      (pending : w.pending i = .call c cont) (answered : w.store.answer c = (reply, s)) :
      Effect w (.serve i) (w.afterTurn i c cont reply s)
  | refused {i : ι} {e : StoreError} {c : Call} {cont : c.Reply → Program α}
      (pending : w.pending i = .call c cont) :
      Effect w (.refuse i e) (w.afterTurn i c cont (c.refusal e) w.store)
  | inserted (table : String) (key : Key) (attributes : Item) :
      Effect w (.insert table key attributes)
        { w with store := (w.store.insert table key attributes).2 }
  | removed (table : String) (key : Key) :
      Effect w (.remove table key) { w with store := (w.store.remove table key).2 }

theorem effect_step (w : World ι α) (m : Move ι) : Effect w m (w.step m) := by
  cases m with
  | serve i =>
    simp only [step]
    rcases done_or_call_of_quiet (w.rest i) with ⟨result, h⟩ | ⟨c, cont, h⟩
    · rw [show w.pending i = _ from h]
      exact .idle rfl h
    · rw [show w.pending i = _ from h]
      exact .served h rfl
  | refuse i e =>
    simp only [step]
    rcases done_or_call_of_quiet (w.rest i) with ⟨result, h⟩ | ⟨c, cont, h⟩
    · rw [show w.pending i = _ from h]
      exact .idle rfl h
    · rw [show w.pending i = _ from h]
      exact .refused h
  | insert table key attributes => exact .inserted table key attributes
  | remove table key => exact .removed table key

/-- No move changes which tables are known or how their keys are named. -/
theorem Effect.names?_eq {w w' : World ι α} {m : Move ι} (h : w.Effect m w') (table : String) :
    w'.store.tables.names? table = w.store.tables.names? table := by
  cases h with
  | idle => rfl
  | @served i c cont reply s pending answered =>
    change s.tables.names? table = _
    rw [Store.answer_tables answered, Tables.names?_foldl_write]
  | refused => rfl
  | inserted =>
    exact Store.insert_kept (P := fun t => t.names? table = w.store.tables.names? table) rfl
      fun _ => Tables.names?_setRow ..
  | removed =>
    exact Store.remove_kept (P := fun t => t.names? table = w.store.tables.names? table) rfl
      (Tables.names?_dropRow ..)

/-- A move as one client sees it: a turn of its own, or something that leaves alone what it has done
and what it has left to do. -/
theorem Effect.own_or_elsewhere {w w' : World ι α} {m : Move ι} (h : w.Effect m w') (i : ι) :
    (∃ (c : Call) (cont : c.Reply → Program α) (reply : c.Reply) (s : Store),
      w.pending i = .call c cont ∧ w' = w.afterTurn i c cont reply s ∧
      (w.store.answer c = (reply, s) ∨ ∃ e, m = .refuse i e)) ∨
    ((m.client? = some i → ∃ result, w.pending i = .done result) ∧
      w'.pending i = w.pending i ∧
      (w'.turns = w.turns ∨ ∃ t : Turn ι, t.client ≠ i ∧ w'.turns = t :: w.turns)) := by
  cases h with
  | @idle m j result client ended =>
    refine .inr ⟨fun own => ?_, rfl, .inl rfl⟩
    obtain rfl : j = i := Option.some.inj (client.symm.trans own)
    exact ⟨result, ended⟩
  | @served j c cont reply s pending answered =>
    by_cases own : i = j
    · subst own
      exact .inl ⟨c, cont, reply, s, pending, rfl, .inl answered⟩
    · exact .inr ⟨fun h => absurd (Option.some.inj h).symm own, pending_afterTurn_of_ne w own ..,
        .inr ⟨_, Ne.symm own, rfl⟩⟩
  | @refused j e c cont pending =>
    by_cases own : i = j
    · subst own
      exact .inl ⟨c, cont, _, _, pending, rfl, .inr ⟨e, rfl⟩⟩
    · exact .inr ⟨fun h => absurd (Option.some.inj h).symm own, pending_afterTurn_of_ne w own ..,
        .inr ⟨_, Ne.symm own, rfl⟩⟩
  | inserted => exact .inr ⟨by simp [Move.client?], rfl, .inl rfl⟩
  | removed => exact .inr ⟨by simp [Move.client?], rfl, .inl rfl⟩

/-- What holds at the start and is kept by every move of a schedule holds at its end. -/
theorem run_induction {P : World ι α → Prop} {w : World ι α} {moves : List (Move ι)}
    (start : P w) (kept : ∀ v m v', m ∈ moves → P v → Effect v m v' → P v') :
    P (w.run moves) := by
  induction moves generalizing w with
  | nil => exact start
  | cons m moves ih =>
    refine ih (kept w m _ List.mem_cons_self start (effect_step w m)) ?_
    exact fun v m' v' hm => kept v m' v' (List.mem_cons_of_mem m hm)

/-- In every run each turn changed the tables exactly by the writes that it carried out. -/
theorem faithful_run (s : Store) (programs : ι → Program α) (moves : List (Move ι)) :
    ∀ t ∈ ((opening s programs).run moves).turns, t.Faithful := by
  refine run_induction (P := fun w => ∀ t ∈ w.turns, t.Faithful) ?_ ?_
  · intro t ht; cases ht
  · intro v m v' _ hv heff
    cases heff with
    | idle => exact hv
    | served pending answered =>
      intro t ht
      rcases List.mem_cons.mp ht with rfl | ht
      · exact Store.answer_tables answered
      · exact hv t ht
    | refused pending =>
      intro t ht
      rcases List.mem_cons.mp ht with rfl | ht
      · simp [Turn.Faithful]
      · exact hv t ht
    | inserted => exact hv
    | removed => exact hv

end World

end RemediationLedger
