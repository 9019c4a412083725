/-
Reading records, and the values that stand in them.

A record is an object with known keys, or a list of the values in the order of
the record's fields. Reading keeps what it meets, in text order, and leaves it
to the record to say what a missing field means. A key that comes twice is wrong
as soon as it is read; a key that nobody knows is passed over with its value,
and may come as often as it likes.

* `RecordShape` is all that the readers know of a kind of record. Requests and
  settings are read by the same functions, each with a shape of its own
  (`Request.Json`, `Settings.Json`), and what holds of `readRecord` holds of
  both.
* `findNext` finds the next element of a list or an object; the comma before it
  is its business and nobody else's.
* `decodeRecord` reads a text that holds one record. Whether the record lacks
  something is decided before the text behind it is looked at, so the fault that
  is told is the first one in reading order.

The loops are recursions on the length of the text that is left. The lemmas
between the readers say that each reader takes something off the front, and the
loops end because of them.
-/
import RemediationLedger.Json.Number
import RemediationLedger.Json.Skip

namespace RemediationLedger.Json

/-! ## Values -/

/-- Reads the given letters. -/
def readWord : (letters : List Char) → List Char → Except Fault (List Char)
  | [], cs => .ok cs
  | _ :: _, [] => .error .truncated
  | letter :: letters, c :: rest =>
    if c = letter then readWord letters rest else .error .malformed

/-- What is wrong with a value of another kind than the one that is asked for. The value is read
as far as it takes to name it. -/
def mismatch (expected : String) (cs : List Char) : Fault :=
  let named (found : Found) (after : Except Fault (List Char)) : Fault :=
    match after with
    | .ok _ => .shape (.invalidType found expected)
    | .error e => e
  match cs with
  | [] => .truncated
  | c :: rest =>
    if c = 'n' then named .null (readWord ['u', 'l', 'l'] rest)
    else if c = 't' then named (.boolean true) (readWord ['r', 'u', 'e'] rest)
    else if c = 'f' then named (.boolean false) (readWord ['a', 'l', 's', 'e'] rest)
    else if c = '-' ∨ c.isDigit then
      match readNumber (c :: rest) with
      | .ok (n, _) => .shape (.invalidType n.found expected)
      | .error e => e
    else if c = '"' then
      match unquote rest with
      | .ok (s, _) => .shape (.invalidType (.text (String.ofList s)) expected)
      | .error e => e
    else if c = '[' then named .list (.ok rest)
    else if c = '{' then named .object (.ok rest)
    else .malformed

def readText : Reader String := fun cs =>
  match dropGaps cs with
  | [] => .error .truncated
  | c :: rest =>
    if c = '"' then
      match unquote rest with
      | .ok (s, after) => .ok (String.ofList s, after)
      | .error e => .error e
    else .error (mismatch "a string" (c :: rest))

def readOptionalText : Reader (Option String) := fun cs =>
  match dropGaps cs with
  | [] => .error .truncated
  | c :: rest =>
    if c = 'n' then
      match readWord ['u', 'l', 'l'] rest with
      | .ok after => .ok (none, after)
      | .error e => .error e
    else
      match readText (c :: rest) with
      | .ok (s, after) => .ok (some s, after)
      | .error e => .error e

def readInteger : Reader Int := fun cs =>
  match dropGaps cs with
  | [] => .error .truncated
  | c :: rest =>
    if c = '-' ∨ c.isDigit then
      match readNumber (c :: rest) with
      | .ok (.integer i, after) =>
        if FitsWord i then .ok (i, after)
        else .error (.shape (.invalidValue (.integer i) "i64"))
      | .ok (.floating x, _) =>
        .error (.shape (.invalidType (Number.floating x).found "i64"))
      | .error e => .error e
    else .error (mismatch "i64" (c :: rest))

/-! ## Lists -/

inductive Next where
  /-- An element, which starts here. -/
  | element (cs : List Char)
  /-- The end, and what follows it. -/
  | close (rest : List Char)

/-- Finds the next element of what `closer` ends. All but the first need a comma before them, and a
comma needs an element behind it. -/
def findNext (closer : Char) (isFirst : Bool) (cs : List Char) : Except Fault Next :=
  match dropGaps cs with
  | [] => .error .truncated
  | c :: rest =>
    if c = closer then .ok (.close rest)
    else if isFirst then .ok (.element (c :: rest))
    else if c = ',' then
      match dropGaps rest with
      | [] => .error .truncated
      | c' :: rest' => if c' = closer then .error .malformed else .ok (.element (c' :: rest'))
    else .error .malformed

/-! ## Every reader takes something -/

theorem length_dropGaps_le (cs : List Char) : (dropGaps cs).length ≤ cs.length :=
  (List.dropWhile_suffix isGap).length_le

theorem length_le_of_readWord {letters cs rest : List Char}
    (h : readWord letters cs = .ok rest) : rest.length ≤ cs.length := by
  induction letters generalizing cs with
  | nil => cases h; exact Nat.le_refl _
  | cons letter letters ih =>
    cases cs with
    | nil => cases h
    | cons c tail =>
      rw [readWord] at h
      split at h
      · exact Nat.le_succ_of_le (ih h)
      · cases h

theorem prepend_eq_ok {c : Char} {r : Except Fault (List Char × List Char)} {cs rest : List Char}
    (h : prepend c r = .ok (cs, rest)) : ∃ cs', r = .ok (cs', rest) ∧ cs = c :: cs' := by
  cases r with
  | error e => cases h
  | ok p => obtain ⟨cs', rest'⟩ := p; cases h; exact ⟨cs', rfl, rfl⟩

mutual

theorem shrinks_unquoteAfter (lead : Option Nat) : Shrinks (unquoteAfter lead)
  | [], _, _, h => by rw [unquoteAfter] at h; cases h
  | c :: tail, s, rest, h => by
    rw [unquoteAfter] at h
    split at h
    · exact Nat.lt_succ_of_lt (shrinks_unescape lead h)
    · split at h
      · cases h
      · split at h
        · cases h; exact Nat.lt_succ_self _
        · split at h
          · cases h
          · obtain ⟨_, h', _⟩ := prepend_eq_ok h
            exact Nat.lt_succ_of_lt (shrinks_unquoteAfter none h')

theorem shrinks_unescape (lead : Option Nat) : Shrinks (unescape lead)
  | [], _, _, h => by rw [unescape] at h; cases h
  | c :: tail, s, rest, h => by
    rw [unescape] at h
    split at h
    · exact Nat.lt_succ_of_lt (shrinks_unescapeUnit lead h)
    · split at h
      · cases h
      · split at h
        · cases h
        · obtain ⟨_, h', _⟩ := prepend_eq_ok h
          exact Nat.lt_succ_of_lt (shrinks_unquoteAfter none h')

theorem shrinks_unescapeUnit (lead : Option Nat) : Shrinks (unescapeUnit lead)
  | a :: b :: c :: d :: tail, s, rest, h => by
    have step {lead : Option Nat} {s : List Char}
        (h : unquoteAfter lead tail = .ok (s, rest)) :
        rest.length < (a :: b :: c :: d :: tail).length := by
      have := shrinks_unquoteAfter lead h
      simp only [List.length_cons]
      omega
    rw [unescapeUnit] at h
    split at h
    · cases h
    · split at h
      · split at h
        · obtain ⟨_, h', _⟩ := prepend_eq_ok h; exact step h'
        · cases h
      · split at h
        · cases h
        · split at h
          · exact step h
          · obtain ⟨_, h', _⟩ := prepend_eq_ok h; exact step h'
  | [], _, _, h => by simp only [unescapeUnit] at h; split at h <;> cases h
  | [_], _, _, h => by simp only [unescapeUnit] at h; split at h <;> cases h
  | [_, _], _, _, h => by simp only [unescapeUnit] at h; split at h <;> cases h
  | [_, _, _], _, _, h => by simp only [unescapeUnit] at h; split at h <;> cases h

end

theorem shrinks_readText : Shrinks readText := by
  intro cs s rest h
  have hgaps := length_dropGaps_le cs
  unfold readText at h
  split at h
  · cases h
  · rename_i c tail htail
    rw [htail, List.length_cons] at hgaps
    split at h
    · split at h
      · rename_i hq
        cases h
        have := shrinks_unquoteAfter none hq
        omega
      · cases h
    · cases h

theorem shrinks_readOptionalText : Shrinks readOptionalText := by
  intro cs s rest h
  have hgaps := length_dropGaps_le cs
  unfold readOptionalText at h
  split at h
  · cases h
  · rename_i c tail htail
    rw [htail, List.length_cons] at hgaps
    split at h
    · split at h
      · rename_i hw
        cases h
        have := length_le_of_readWord hw
        omega
      · cases h
    · split at h
      · rename_i ht
        cases h
        have := shrinks_readText ht
        rw [List.length_cons] at this
        omega
      · cases h

theorem shrinks_readInteger : Shrinks readInteger := by
  intro cs i rest h
  have hgaps := length_dropGaps_le cs
  unfold readInteger at h
  split at h
  · cases h
  · rename_i c tail htail
    rw [htail] at hgaps
    split at h
    · split at h
      · rename_i hn
        have := shrinks_readNumber hn
        split at h
        · cases h; omega
        · cases h
      · cases h
      · cases h
    · cases h

theorem length_le_of_skipFrom {stack : List Frame} {expect : Expect} {cs rest : List Char}
    (h : skipFrom stack expect cs = .ok rest) : rest.length ≤ cs.length := by
  induction cs generalizing stack expect with
  | nil =>
    cases expect <;> grind [skipFrom, atEnd]
  | cons c tail ih =>
    rw [skipFrom] at h
    split at h
    · exact Nat.le_succ_of_le (ih h)
    · cases h; exact Nat.le_succ _
    · cases h; exact Nat.le_refl _
    · cases h

theorem length_le_of_skipValue {cs rest : List Char} (h : skipValue cs = .ok rest) :
    rest.length ≤ cs.length := length_le_of_skipFrom h

/-- The text behind the next element or the end is no longer than the text that was searched. -/
theorem length_le_of_findNext {closer : Char} {isFirst : Bool} {cs rest : List Char}
    (h : findNext closer isFirst cs = .ok (.element rest)) : rest.length ≤ cs.length := by
  have hgaps := length_dropGaps_le cs
  unfold findNext at h
  split at h
  · cases h
  · rename_i c tail htail
    rw [htail, List.length_cons] at hgaps
    have htailgaps := length_dropGaps_le tail
    split at h
    · cases h
    · split at h
      · cases h; exact hgaps
      · split at h
        · split at h
          · cases h
          · rename_i c' tail' htail'
            rw [htail'] at htailgaps
            split at h
            · cases h
            · cases h; omega
        · cases h

/-- The text behind the end is no longer than the text that was searched. -/
theorem length_le_of_findNext_close {closer : Char} {isFirst : Bool} {cs rest : List Char}
    (h : findNext closer isFirst cs = .ok (.close rest)) : rest.length ≤ cs.length := by
  have hgaps := length_dropGaps_le cs
  unfold findNext at h
  split at h
  · cases h
  · rename_i c tail htail
    rw [htail, List.length_cons] at hgaps
    split at h
    · cases h; omega
    · split at h
      · cases h
      · split at h
        · split at h
          · cases h
          · split at h <;> cases h
        · cases h

/-! ## Lists of strings -/

def readTextsFrom (isFirst : Bool) (cs : List Char) : Except Fault (List String × List Char) :=
  match _found : findNext ']' isFirst cs with
  | .error e => .error e
  | .ok (.close rest) => .ok ([], rest)
  | .ok (.element start) =>
    match _read : readText start with
    | .error e => .error e
    | .ok (s, after) =>
      match readTextsFrom false after with
      | .error e => .error e
      | .ok (more, rest) => .ok (s :: more, rest)
termination_by cs.length
decreasing_by
  have := length_le_of_findNext _found
  have := shrinks_readText _read
  omega

def readTextList : Reader (List String) := fun cs =>
  match dropGaps cs with
  | [] => .error .truncated
  | c :: rest =>
    if c = '[' then readTextsFrom true rest else .error (mismatch "a sequence" (c :: rest))

theorem length_le_of_readTextsFrom {isFirst : Bool} {cs rest : List Char} {l : List String}
    (h : readTextsFrom isFirst cs = .ok (l, rest)) : rest.length ≤ cs.length := by
  fun_induction readTextsFrom isFirst cs generalizing l with
  | case1 => cases h
  | case2 isFirst cs rest' hclose =>
    cases h
    exact length_le_of_findNext_close hclose
  | case3 => cases h
  | case4 => cases h
  | case5 isFirst cs start hstart s after hread more rest' hmore ih =>
    cases h
    have := length_le_of_findNext hstart
    have := shrinks_readText hread
    have := ih hmore
    omega

theorem shrinks_readTextList : Shrinks readTextList := by
  intro cs l rest h
  have hgaps := length_dropGaps_le cs
  unfold readTextList at h
  split at h
  · cases h
  · rename_i c tail htail
    rw [htail, List.length_cons] at hgaps
    split at h
    · have := length_le_of_readTextsFrom h
      omega
    · cases h

/-! ## Records -/

/-- A kind of record: its fields in order, their names, and how their values are read. -/
structure RecordShape (φ ν : Type) where
  /-- The kind of record as reports name it. -/
  expected : String
  fields : List φ
  name : φ → String
  read : φ → Reader ν
  shrinks : ∀ f, Shrinks (read f)

/-- What was read of a record: values under their fields, in text order. -/
inductive Entries (φ ν : Type) where
  /-- From an object. -/
  | named (entries : List (φ × ν))
  /-- From a list. -/
  | listed (entries : List (φ × ν))

section

variable {φ ν : Type} [DecidableEq φ]

def RecordShape.field? (shape : RecordShape φ ν) (name : String) : Option φ :=
  shape.fields.find? fun f => shape.name f == name

def findColon (cs : List Char) : Except Fault (List Char) :=
  match dropGaps cs with
  | [] => .error .truncated
  | c :: rest => if c = ':' then .ok rest else .error .malformed

def readKey : Reader String
  | [] => .error .truncated
  | c :: rest =>
    if c = '"' then
      match unquote rest with
      | .ok (s, after) => .ok (String.ofList s, after)
      | .error e => .error e
    else .error .malformed

/-- Reads one member of an object: an entry if the key is that of a field, which must not be among
`seen`, and nothing if the key is unknown. -/
def readMember (shape : RecordShape φ ν) (seen : List φ) : Reader (Option (φ × ν)) := fun cs => do
  let (name, afterKey) ← readKey cs
  match shape.field? name with
  | none => do
    let value ← findColon afterKey
    let rest ← skipValue value
    return (none, rest)
  | some f =>
    if f ∈ seen then .error (.shape (.duplicateField name))
    else do
      let value ← findColon afterKey
      let (v, rest) ← shape.read f value
      return (some (f, v), rest)

theorem length_le_of_findColon {cs rest : List Char} (h : findColon cs = .ok rest) :
    rest.length ≤ cs.length := by
  have hgaps := length_dropGaps_le cs
  unfold findColon at h
  split at h
  · cases h
  · rename_i c tail htail
    rw [htail, List.length_cons] at hgaps
    split at h
    · cases h; omega
    · cases h

theorem shrinks_readKey : Shrinks readKey := by
  intro cs s rest h
  unfold readKey at h
  split at h
  · cases h
  · split at h
    · split at h
      · rename_i hq
        cases h
        exact Nat.lt_succ_of_lt (shrinks_unquoteAfter none hq)
      · cases h
    · cases h

theorem shrinks_readMember (shape : RecordShape φ ν) (seen : List φ) :
    Shrinks (readMember shape seen) := by
  intro cs entry rest h
  simp only [readMember, bind, Except.bind] at h
  split at h
  · cases h
  · rename_i key hkey
    have hk := shrinks_readKey hkey
    split at h
    · split at h
      · cases h
      · rename_i hcolon
        have hc := length_le_of_findColon hcolon
        split at h
        · cases h
        · rename_i hskip
          have hs := length_le_of_skipValue hskip
          cases h
          omega
    · split at h
      · cases h
      · split at h
        · cases h
        · rename_i hcolon
          have hc := length_le_of_findColon hcolon
          split at h
          · cases h
          · rename_i hread
            have hr := shape.shrinks _ hread
            cases h
            omega

/-- Reads the members of an object up to its end. -/
def readMembers (shape : RecordShape φ ν) (seen : List φ) (isFirst : Bool) (cs : List Char) :
    Except Fault (List (φ × ν) × List Char) :=
  match _found : findNext '}' isFirst cs with
  | .error e => .error e
  | .ok (.close rest) => .ok ([], rest)
  | .ok (.element start) =>
    match _read : readMember shape seen start with
    | .error e => .error e
    | .ok (none, after) => readMembers shape seen false after
    | .ok (some (f, v), after) =>
      match readMembers shape (f :: seen) false after with
      | .error e => .error e
      | .ok (more, rest) => .ok ((f, v) :: more, rest)
termination_by cs.length
decreasing_by
  all_goals
    have := length_le_of_findNext _found
    have := shrinks_readMember shape seen _read
    omega

/-- Reads values for the given fields, in order, up to the end of a list. A list that is longer
is malformed. -/
def readListed (shape : RecordShape φ ν) (isFirst : Bool) :
    List φ → List Char → Except Fault (List (φ × ν) × List Char)
  | [], cs =>
    match dropGaps cs with
    | [] => .error .truncated
    | c :: rest => if c = ']' then .ok ([], rest) else .error .malformed
  | f :: fs, cs =>
    match findNext ']' isFirst cs with
    | .error e => .error e
    | .ok (.close rest) => .ok ([], rest)
    | .ok (.element start) => do
      let (v, after) ← shape.read f start
      let (more, rest) ← readListed shape false fs after
      return ((f, v) :: more, rest)

def readRecord (shape : RecordShape φ ν) : Reader (Entries φ ν) := fun cs =>
  match dropGaps cs with
  | [] => .error .truncated
  | c :: rest =>
    if c = '{' then do
      let (entries, after) ← readMembers shape [] true rest
      return (.named entries, after)
    else if c = '[' then do
      let (entries, after) ← readListed shape true shape.fields rest
      return (.listed entries, after)
    else .error (mismatch shape.expected (c :: rest))

/-- Reads a text that holds one record and nothing else. What the entries amount to is decided
before the text behind them is looked at. -/
def decodeRecord {α : Type} (shape : RecordShape φ ν)
    (finish : Entries φ ν → Except ShapeProblem α) (text : String) : Except Fault α := do
  let (entries, rest) ← readRecord shape text.toList
  match finish entries with
  | .error p => .error (.shape p)
  | .ok a => if rest.all isGap then .ok a else .error .malformed

end

end RemediationLedger.Json
