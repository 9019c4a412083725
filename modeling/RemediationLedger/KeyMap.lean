/-
Finite maps with ordered keys.

A map is its list of entries in strictly increasing key order, and the order is
part of the type: two maps that answer every look-up alike are equal, and
listing a map needs no sorting. Insertion and removal are single passes over the
list, so their look-up equations hold without side conditions.

* `findEntry`, `insertEntry` and `eraseEntry` work on lists of entries, and
  `KeyMap` wraps them up with the proof that the order is kept. Proofs about
  maps rarely go below the wrapping.
* The look-up equations (`get?_insert`, `get?_erase`) say what an operation does
  to every key. Together with `ext_get?`, by which maps with equal look-ups are
  equal, they settle most questions about a map without a word about its list.

Rows, tables and the database are maps of this kind. A row is equal to another
exactly if it has the same attributes, however the two came about, and a
snapshot of a table lists its rows in the order of their slots.
-/

namespace RemediationLedger

/-! ## Entry lists -/

def Increasing {κ ν : Type} [Ord κ] (entries : List (κ × ν)) : Prop :=
  entries.Pairwise fun a b => compare a.1 b.1 = .lt

def findEntry {κ ν : Type} [Ord κ] (k : κ) : List (κ × ν) → Option ν
  | [] => none
  | (k', v) :: rest => if compare k k' = .eq then some v else findEntry k rest

/-- Puts `v` under `k`, in place of the value that was there. -/
def insertEntry {κ ν : Type} [Ord κ] (k : κ) (v : ν) : List (κ × ν) → List (κ × ν)
  | [] => [(k, v)]
  | (k', v') :: rest =>
    match compare k k' with
    | .lt => (k, v) :: (k', v') :: rest
    | .eq => (k, v) :: rest
    | .gt => (k', v') :: insertEntry k v rest

def eraseEntry {κ ν : Type} [Ord κ] (k : κ) (entries : List (κ × ν)) : List (κ × ν) :=
  entries.filter fun e => compare k e.1 != .eq

section Entries

variable {κ ν : Type} [Ord κ]

theorem mem_insertEntry {k : κ} {v : ν} {e : κ × ν} {l : List (κ × ν)}
    (h : e ∈ insertEntry k v l) : e = (k, v) ∨ e ∈ l := by
  induction l with
  | nil => simpa [insertEntry] using h
  | cons hd tl ih =>
    obtain ⟨k', v'⟩ := hd
    rw [insertEntry] at h
    split at h
    · simpa using h
    · rcases List.mem_cons.mp h with h | h
      · exact .inl h
      · exact .inr (List.mem_cons_of_mem _ h)
    · rcases List.mem_cons.mp h with h | h
      · exact .inr (h ▸ List.mem_cons_self)
      · exact (ih h).imp_right (List.mem_cons_of_mem _)

theorem increasing_insertEntry [Std.TransOrd κ] [Std.LawfulEqOrd κ] (k : κ) (v : ν)
    {l : List (κ × ν)} (h : Increasing l) : Increasing (insertEntry k v l) := by
  induction l with
  | nil => exact List.pairwise_singleton _ _
  | cons hd tl ih =>
    obtain ⟨k', v'⟩ := hd
    have hhd : ∀ e ∈ tl, compare k' e.1 = .lt := fun _ he => List.rel_of_pairwise_cons h he
    have htl : Increasing tl := h.of_cons
    rw [insertEntry]
    split
    · rename_i hlt
      refine List.Pairwise.cons (fun e he => ?_) h
      rcases List.mem_cons.mp he with rfl | he
      · exact hlt
      · exact Std.TransCmp.lt_trans hlt (hhd e he)
    · rename_i heq
      have : k = k' := Std.LawfulEqCmp.eq_of_compare heq
      subst this
      exact List.Pairwise.cons hhd htl
    · rename_i hgt
      refine List.Pairwise.cons (fun e he => ?_) (ih htl)
      rcases mem_insertEntry he with rfl | he
      · exact Std.OrientedCmp.gt_iff_lt.mp hgt
      · exact hhd e he

theorem increasing_eraseEntry (k : κ) {l : List (κ × ν)} (h : Increasing l) :
    Increasing (eraseEntry k l) :=
  List.Pairwise.sublist List.filter_sublist h

end Entries

/-! ## Maps -/

/-- A finite map from `κ` to `ν`, listed in increasing key order. -/
structure KeyMap (κ ν : Type) [Ord κ] where
  entries : List (κ × ν)
  increasing : Increasing entries
  deriving DecidableEq

namespace KeyMap

variable {κ ν : Type} [Ord κ]

def empty : KeyMap κ ν := ⟨[], .nil⟩

instance : Inhabited (KeyMap κ ν) := ⟨empty⟩

def get? (m : KeyMap κ ν) (k : κ) : Option ν := findEntry k m.entries

def contains (m : KeyMap κ ν) (k : κ) : Bool := (m.get? k).isSome

def keys (m : KeyMap κ ν) : List κ := m.entries.map Prod.fst

def values (m : KeyMap κ ν) : List ν := m.entries.map Prod.snd

def erase (m : KeyMap κ ν) (k : κ) : KeyMap κ ν :=
  ⟨eraseEntry k m.entries, increasing_eraseEntry k m.increasing⟩

def filter (m : KeyMap κ ν) (p : κ → ν → Bool) : KeyMap κ ν :=
  ⟨m.entries.filter fun e => p e.1 e.2, List.Pairwise.sublist List.filter_sublist m.increasing⟩

section Insertion

variable [Std.TransOrd κ] [Std.LawfulEqOrd κ]

def insert (m : KeyMap κ ν) (k : κ) (v : ν) : KeyMap κ ν :=
  ⟨insertEntry k v m.entries, increasing_insertEntry k v m.increasing⟩

/-- Puts entries one after another, so that a later one wins. -/
def insertAll (m : KeyMap κ ν) (entries : List (κ × ν)) : KeyMap κ ν :=
  entries.foldl (fun m e => m.insert e.1 e.2) m

/-- The map of the given entries; of two under one key the later one counts. -/
def ofList (entries : List (κ × ν)) : KeyMap κ ν := empty.insertAll entries

end Insertion

/-! ## Look-up equations -/

@[simp] theorem get?_empty (k : κ) : (empty : KeyMap κ ν).get? k = none := rfl

section Lookup

variable [Std.LawfulEqOrd κ] [DecidableEq κ]

theorem findEntry_insertEntry (k k' : κ) (v : ν) (l : List (κ × ν)) :
    findEntry k' (insertEntry k v l) = if k' = k then some v else findEntry k' l := by
  have hk : compare k' k = .eq ↔ k' = k := Std.LawfulEqOrd.compare_eq_iff_eq
  induction l with
  | nil => simp [insertEntry, findEntry, hk]
  | cons hd tl ih =>
    obtain ⟨k'', v''⟩ := hd
    rw [insertEntry]
    split
    · simp [findEntry, hk]
    · rename_i heq
      obtain rfl : k = k'' := Std.LawfulEqCmp.eq_of_compare heq
      by_cases h : k' = k <;> simp [findEntry, hk, h]
    · rename_i hgt
      by_cases h : k' = k
      · subst h; simp [findEntry, ih, hgt]
      · simp [findEntry, ih, h]

theorem findEntry_eraseEntry (k k' : κ) (l : List (κ × ν)) :
    findEntry k' (eraseEntry k l) = if k' = k then none else findEntry k' l := by
  induction l with
  | nil => simp [eraseEntry, findEntry]
  | cons hd tl ih =>
    obtain ⟨k'', v''⟩ := hd
    have hk : compare k' k'' = .eq ↔ k' = k'' := Std.LawfulEqOrd.compare_eq_iff_eq
    by_cases h : k = k''
    · subst h
      have hstep : eraseEntry k ((k, v'') :: tl) = eraseEntry k tl := by simp [eraseEntry]
      rw [hstep, ih]
      by_cases h' : k' = k <;> simp [findEntry, h', hk]
    · have hne : compare k k'' ≠ .eq := fun e => h (Std.LawfulEqCmp.eq_of_compare e)
      have hstep : eraseEntry k ((k'', v'') :: tl) = (k'', v'') :: eraseEntry k tl := by
        simp [eraseEntry, hne]
      rw [hstep]
      by_cases h' : k' = k
      · subst h'; simp [findEntry, ih, hne]
      · simp [findEntry, ih, h']

/-- Look-up after a removal. -/
theorem get?_erase (m : KeyMap κ ν) (k k' : κ) :
    (m.erase k).get? k' = if k' = k then none else m.get? k' :=
  findEntry_eraseEntry k k' m.entries

/-- Look-up after an insertion. -/
theorem get?_insert [Std.TransOrd κ] (m : KeyMap κ ν) (k k' : κ) (v : ν) :
    (m.insert k v).get? k' = if k' = k then some v else m.get? k' :=
  findEntry_insertEntry k k' v m.entries

end Lookup

/-! ## Extensionality -/

/-- A key below every key of a list is not found in it. -/
theorem findEntry_eq_none_of_lt {k : κ} {l : List (κ × ν)}
    (h : ∀ e ∈ l, compare k e.1 = .lt) : findEntry k l = none := by
  induction l with
  | nil => rfl
  | cons hd tl ih =>
    obtain ⟨k', v'⟩ := hd
    have hhd : compare k k' = .lt := h _ List.mem_cons_self
    simp [findEntry, hhd, ih fun e he => h e (List.mem_cons_of_mem _ he)]

section Extensionality

variable [Std.TransOrd κ] [Std.LawfulEqOrd κ]

/-- The entry list of a map is determined by its look-ups. -/
theorem entries_eq_of_findEntry_eq {l₁ l₂ : List (κ × ν)} (h₁ : Increasing l₁)
    (h₂ : Increasing l₂) (h : ∀ k, findEntry k l₁ = findEntry k l₂) : l₁ = l₂ := by
  induction l₁ generalizing l₂ with
  | nil =>
    cases l₂ with
    | nil => rfl
    | cons hd tl => simpa [findEntry] using h hd.1
  | cons hd₁ tl₁ ih =>
    obtain ⟨k₁, v₁⟩ := hd₁
    have below₁ : ∀ e ∈ tl₁, compare k₁ e.1 = .lt := fun _ he => List.rel_of_pairwise_cons h₁ he
    cases l₂ with
    | nil => simpa [findEntry] using h k₁
    | cons hd₂ tl₂ =>
      obtain ⟨k₂, v₂⟩ := hd₂
      have below₂ : ∀ e ∈ tl₂, compare k₂ e.1 = .lt := fun _ he => List.rel_of_pairwise_cons h₂ he
      have hkeys : compare k₁ k₂ = .eq := by
        cases hc : compare k₁ k₂ with
        | eq => rfl
        | lt =>
          have hnone : findEntry k₁ ((k₂, v₂) :: tl₂) = none := by
            refine findEntry_eq_none_of_lt fun e he => ?_
            rcases List.mem_cons.mp he with rfl | he
            · exact hc
            · exact Std.TransCmp.lt_trans hc (below₂ e he)
          have := (h k₁).trans hnone
          simp [findEntry] at this
        | gt =>
          have hc' : compare k₂ k₁ = .lt := Std.OrientedCmp.gt_iff_lt.mp hc
          have hnone : findEntry k₂ ((k₁, v₁) :: tl₁) = none := by
            refine findEntry_eq_none_of_lt fun e he => ?_
            rcases List.mem_cons.mp he with rfl | he
            · exact hc'
            · exact Std.TransCmp.lt_trans hc' (below₁ e he)
          have := (h k₂).symm.trans hnone
          simp [findEntry] at this
      obtain rfl : k₁ = k₂ := Std.LawfulEqCmp.eq_of_compare hkeys
      have hvals : v₁ = v₂ := by simpa [findEntry] using h k₁
      subst hvals
      refine congrArg _ (ih h₁.of_cons h₂.of_cons fun k => ?_)
      by_cases hk : compare k k₁ = .eq
      · obtain rfl : k = k₁ := Std.LawfulEqCmp.eq_of_compare hk
        rw [findEntry_eq_none_of_lt below₁, findEntry_eq_none_of_lt below₂]
      · simpa [findEntry, hk] using h k

/-- Maps that answer every look-up alike are equal. -/
theorem ext_get? {m₁ m₂ : KeyMap κ ν} (h : ∀ k, m₁.get? k = m₂.get? k) : m₁ = m₂ := by
  obtain ⟨l₁, s₁⟩ := m₁
  obtain ⟨l₂, s₂⟩ := m₂
  obtain rfl : l₁ = l₂ := entries_eq_of_findEntry_eq s₁ s₂ h
  rfl

end Extensionality

end KeyMap

end RemediationLedger
