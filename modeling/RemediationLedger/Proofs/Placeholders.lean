/-
Renderings read back.

A rendering is two texts over placeholders and two maps that say what the
placeholders stand for. Here the texts are read as expressions, without a look
at how they were written: `tokens` splits a text into words and marks, and
`readAssignments` and `readTests` are the two forms that an expression can have.
What a rendering says (`Rendering.assignments?`, `Rendering.tests?`) is what is
read, with every placeholder looked up.

The placeholders of an update are words without blanks and marks, so the split
gives them back whole (`split_assignmentsText`), and no two of them are the same
(`nodup_nameEntries`), so nothing in the maps is written over. An attribute's
own name is never part of a text and may be anything.

## Statement

`rendering_loses_nothing` takes any update, with attribute names and values of
any kind and any number of them, and says four things. There is an expression
exactly if there is something to express, for the assignments as for the
condition. What the expressions say, with the placeholders looked up, is the
assignments in their order and the condition on both key attributes. The maps
define the placeholders that are used and no others. And so an update can be
told from its rendering, but for its table and the values of its key, which
travel beside it.

Repeated names are allowed: each assignment has a placeholder of its own, so
that two assignments to one attribute stay two, and the later one still wins.
Numbers are told apart by their digits (`Numbered.injective`), and that the
placeholders of a key are none of an assignment is a matter of their first
letters.
-/
import Mathlib.Data.List.Nodup
import RemediationLedger.Proofs.ProtocolAttributes
import RemediationLedger.Write.Rendering

namespace RemediationLedger

/-! ## Expressions as tokens -/

inductive Token where
  | word (letters : String)
  | mark (c : Char)
  deriving DecidableEq

namespace Token

def isMark (c : Char) : Bool := c = ',' || c = '=' || c = '(' || c = ')'

def ofLetters : List Char → List Token
  | [] => []
  | letters => [.word (.ofList letters)]

/-- Splits a text behind the first letters of a word. A blank ends the word and is dropped, a mark
ends it and is kept. -/
def split (letters : List Char) : List Char → List Token
  | [] => ofLetters letters
  | c :: rest =>
    if c = ' ' then ofLetters letters ++ split [] rest
    else if isMark c then ofLetters letters ++ .mark c :: split [] rest
    else split (letters ++ [c]) rest

end Token

def tokens (text : String) : List Token := Token.split [] text.toList

/-- Reads assignments with commas between them: of each its two sides. -/
def readAssignments : List Token → Option (List (String × String))
  | [.word name, .mark '=', .word value] => some [(name, value)]
  | .word name :: .mark '=' :: .word value :: .mark ',' :: rest =>
    (readAssignments rest).map ((name, value) :: ·)
  | _ => none

def readSet : List Token → Option (List (String × String))
  | .word "SET" :: rest => readAssignments rest
  | _ => none

/-- Reads tests that must all hold: of each its function and the operand. -/
def readTests : List Token → Option (List (String × String))
  | [.word function, .mark '(', .word operand, .mark ')'] => some [(function, operand)]
  | .word function :: .mark '(' :: .word operand :: .mark ')' :: .word "AND" :: rest =>
    (readTests rest).map ((function, operand) :: ·)
  | _ => none

def testOf? (function : String) : Option Condition :=
  if function = "attribute_exists" then some .keyExists
  else if function = "attribute_not_exists" then some .keyNotExists
  else none

namespace Rendering

def assignments? (r : Rendering) : Option (List (String × Value)) :=
  match r.update with
  | none => some []
  | some text => do
    (← readSet (tokens text)).mapM fun (name, value) =>
      return (← r.names.get? name, ← r.values.get? value)

/-- The tests that a rendering stands for: what is asked of which attribute. -/
def tests? (r : Rendering) : Option (List (Condition × String)) :=
  match r.condition with
  | none => some []
  | some text => do
    (← readTests (tokens text)).mapM fun (function, operand) =>
      return (← testOf? function, ← r.names.get? operand)

/-- A word of one of the expressions that starts with `kind`: with `#` it is a placeholder for a
name, with a colon one for a value. -/
def Uses (r : Rendering) (kind : Char) (p : String) : Prop :=
  p.toList.head? = some kind ∧
    ∃ text, (r.update = some text ∨ r.condition = some text) ∧ .word p ∈ tokens text

end Rendering

/-! ## Splitting -/

namespace Token

/-- A word that the split gives back whole. -/
def Plain (word : String) : Prop :=
  word.toList ≠ [] ∧ ∀ c ∈ word.toList, c ≠ ' ' ∧ isMark c = false

theorem split_letters {more : List Char} (plain : ∀ c ∈ more, c ≠ ' ' ∧ isMark c = false)
    (letters rest : List Char) : split letters (more ++ rest) = split (letters ++ more) rest := by
  induction more generalizing letters with
  | nil => simp
  | cons c more ih =>
    obtain ⟨⟨notBlank, notMark⟩, plain⟩ := List.forall_mem_cons.mp plain
    rw [List.cons_append, split, if_neg notBlank, notMark, if_neg Bool.false_ne_true, ih plain,
      List.append_assoc, List.singleton_append]

theorem ofLetters_of_plain {word : String} (plain : Plain word) :
    ofLetters word.toList = [.word word] := by
  rw [ofLetters, String.ofList_toList]
  exact plain.1

theorem split_blank (rest : List Char) : split [] (' ' :: rest) = split [] rest := by
  rw [split, if_pos rfl]
  rfl

theorem split_mark {c : Char} (notBlank : c ≠ ' ') (mark : isMark c = true) (rest : List Char) :
    split [] (c :: rest) = .mark c :: split [] rest := by
  rw [split, if_neg notBlank, if_pos mark]
  rfl

theorem split_word {word : String} (plain : Plain word) : split [] word.toList = [.word word] := by
  have whole := split_letters plain.2 [] []
  rw [List.append_nil, List.nil_append] at whole
  rw [whole, split, ofLetters_of_plain plain]

theorem split_word_blank {word : String} (plain : Plain word) (rest : List Char) :
    split [] (word.toList ++ ' ' :: rest) = .word word :: split [] rest := by
  rw [split_letters plain.2, List.nil_append, split, if_pos rfl, ofLetters_of_plain plain]
  rfl

theorem split_word_mark {word : String} (plain : Plain word) {c : Char} (notBlank : c ≠ ' ')
    (mark : isMark c = true) (rest : List Char) :
    split [] (word.toList ++ c :: rest) = .word word :: .mark c :: split [] rest := by
  rw [split_letters plain.2, List.nil_append, split, if_neg notBlank, if_pos mark,
    ofLetters_of_plain plain]
  rfl

end Token

/-! ## Assignments -/

def assignmentText (sides : String × String) : String := sides.1 ++ " = " ++ sides.2

def assignmentTokens : List (String × String) → List Token
  | [] => []
  | [(name, value)] => [.word name, .mark '=', .word value]
  | (name, value) :: rest =>
    .word name :: .mark '=' :: .word value :: .mark ',' :: assignmentTokens rest

open Token in
theorem split_assignmentText {sides : String × String} (plain : Plain sides.1) (rest : List Char) :
    split [] ((assignmentText sides).toList ++ rest) =
      .word sides.1 :: .mark '=' :: split [] (sides.2.toList ++ rest) := by
  have text : (assignmentText sides).toList ++ rest =
      sides.1.toList ++ ' ' :: '=' :: ' ' :: (sides.2.toList ++ rest) := by
    simp [assignmentText]
  rw [text, split_word_blank plain, split_mark (by decide) (by decide), split_blank]

open Token in
/-- Assignments of plain words split into what they were made of. -/
theorem split_assignmentsText {pairs : List (String × String)}
    (plain : ∀ p ∈ pairs, Plain p.1 ∧ Plain p.2) :
    split [] (", ".intercalate (pairs.map assignmentText)).toList = assignmentTokens pairs := by
  induction pairs with
  | nil => rfl
  | cons p pairs ih =>
    obtain ⟨⟨name, value⟩, plain⟩ := List.forall_mem_cons.mp plain
    cases pairs with
    | nil =>
      have last := split_assignmentText name []
      rw [List.append_nil, List.append_nil, split_word value] at last
      simpa [assignmentTokens] using last
    | cons q pairs =>
      have text : (", ".intercalate ((p :: q :: pairs).map assignmentText)).toList =
          (assignmentText p).toList ++
            ',' :: ' ' :: (", ".intercalate ((q :: pairs).map assignmentText)).toList := by
        simp
      rw [text, split_assignmentText name, split_word_mark value (by decide) (by decide),
        split_blank, ih plain]
      rfl

theorem readAssignments_assignmentTokens {pairs : List (String × String)} (nonempty : pairs ≠ []) :
    readAssignments (assignmentTokens pairs) = some pairs := by
  induction pairs with
  | nil => exact absurd rfl nonempty
  | cons p pairs ih =>
    cases pairs with
    | nil => rfl
    | cons q pairs =>
      rw [assignmentTokens, readAssignments, ih (List.cons_ne_nil q pairs)]
      · rfl
      · simp

theorem word_mem_assignmentTokens {word : String} {pairs : List (String × String)} :
    .word word ∈ assignmentTokens pairs ↔ ∃ p ∈ pairs, word = p.1 ∨ word = p.2 := by
  induction pairs with
  | nil => simp [assignmentTokens]
  | cons p pairs ih =>
    cases pairs with
    | nil => simp [assignmentTokens]
    | cons q pairs => simp [assignmentTokens, ih, or_assoc]

/-! ## Placeholders -/

namespace Rendering

def placeholders (i : Nat) : String × String := (namePlaceholder i, valuePlaceholder i)

/-- A digit is part of a word. -/
theorem plain_digit {c : Char} (digit : c.isDigit = true) : c ≠ ' ' ∧ Token.isMark c = false := by
  have other (m : Char) (notDigit : m.isDigit = false) : c ≠ m := by
    rintro rfl
    simp [digit] at notDigit
  refine ⟨other ' ' rfl, ?_⟩
  simp [Token.isMark, other ',' rfl, other '=' rfl, other '(' rfl, other ')' rfl]

/-- Words that differ in a number at their end. -/
def Numbered (kind : List Char) (word : Nat → String) : Prop :=
  ∀ i, (word i).toList = kind ++ Nat.toDigits 10 i

theorem numbered_namePlaceholder : Numbered ['#', 'a'] namePlaceholder := by
  intro i
  rw [namePlaceholder, String.toList_append, Nat.toString_eq_repr, Nat.toList_repr]
  rfl

theorem numbered_valuePlaceholder : Numbered [':', 'v'] valuePlaceholder := by
  intro i
  rw [valuePlaceholder, String.toList_append, Nat.toString_eq_repr, Nat.toList_repr]
  rfl

theorem Numbered.plain {kind : List Char} {word : Nat → String} (numbered : Numbered kind word)
    (nonempty : kind ≠ []) (plain : ∀ c ∈ kind, c ≠ ' ' ∧ Token.isMark c = false) (i : Nat) :
    Token.Plain (word i) := by
  rw [Token.Plain, numbered i]
  refine ⟨by simp [nonempty], fun c hc => ?_⟩
  rcases List.mem_append.mp hc with hc | hc
  · exact plain c hc
  · exact plain_digit (Nat.isDigit_of_mem_toDigits (by decide) (by decide) hc)

/-- Numbers differ if their digits do. -/
theorem Numbered.injective {kind : List Char} {word : Nat → String}
    (numbered : Numbered kind word) : Function.Injective word := by
  intro i j same
  have digits : Nat.toDigits 10 i = Nat.toDigits 10 j := by
    rw [← List.append_right_inj kind, ← numbered i, ← numbered j, same]
  rw [← Nat.ofDigitChars_ten_toDigits (n := i), digits, Nat.ofDigitChars_ten_toDigits]

theorem plain_placeholders (i : Nat) :
    Token.Plain (placeholders i).1 ∧ Token.Plain (placeholders i).2 :=
  ⟨numbered_namePlaceholder.plain (by simp) (by simp [Token.isMark]) i,
    numbered_valuePlaceholder.plain (by simp) (by simp [Token.isMark]) i⟩

/-- The placeholders of a key are none of an assignment. -/
theorem namePlaceholder_ne_key (i : Nat) :
    namePlaceholder i ≠ partitionPlaceholder ∧ namePlaceholder i ≠ sortPlaceholder := by
  have second : (namePlaceholder i).toList[1]? = some 'a' := by rw [numbered_namePlaceholder i]; rfl
  constructor
  · intro same
    rw [same] at second
    cases second
  · intro same
    rw [same] at second
    cases second

/-! ## What the texts say -/

theorem tokens_updateText {count : Nat} {text : String} (written : updateText count = some text) :
    tokens text = .word "SET" :: assignmentTokens ((List.range count).map placeholders) := by
  unfold updateText at written
  split at written
  · cases written
  · obtain rfl := Option.some.inj written
    have plain : ∀ p ∈ (List.range count).map placeholders, Token.Plain p.1 ∧ Token.Plain p.2 := by
      simpa using fun i _ => plain_placeholders i
    have split := split_assignmentsText plain
    rw [List.map_map] at split
    have set : Token.Plain "SET" := ⟨by simp, by simp [Token.isMark]⟩
    rw [tokens, String.toList_append, ← split]
    exact Token.split_word_blank set _

theorem updateText_eq_none_iff {count : Nat} : updateText count = none ↔ count = 0 := by
  simp [updateText]

theorem tokens_conditionText (c : Condition) :
    tokens (conditionText c) =
      [.word (testName c), .mark '(', .word partitionPlaceholder, .mark ')', .word "AND",
        .word (testName c), .mark '(', .word sortPlaceholder, .mark ')'] := by
  cases c <;> rfl

theorem testOf?_testName (c : Condition) : testOf? (testName c) = some c := by
  cases c <;> rfl

end Rendering

/-! ## What the placeholders stand for -/

namespace KeyMap

variable {κ ν : Type} [Ord κ] [Std.TransOrd κ] [Std.LawfulEqOrd κ] [DecidableEq κ]

theorem isSome_get?_ofList {l : List (κ × ν)} {k : κ} :
    ((ofList l).get? k).isSome ↔ k ∈ l.map Prod.fst := by
  simp [ofList, get?_insertAll]

end KeyMap

/-- Looking up numbered entries one after another gives the list back. -/
theorem mapM_numbered {α β : Type} {lookup : β → Option α} {entry : Nat → β} {l : List α}
    (found : ∀ i (h : i < l.length), lookup (entry i) = some l[i]) :
    ((List.range l.length).map entry).mapM lookup = some l := by
  induction l generalizing entry with
  | nil => rfl
  | cons a l ih =>
    have first : lookup (entry 0) = some a := found 0 (Nat.zero_lt_succ _)
    have rest := ih fun i h => found (i + 1) (Nat.succ_lt_succ h)
    rw [List.length_cons, List.range_succ_eq_map, List.map_cons, List.map_map, List.mapM_cons,
      first]
    change (((List.range l.length).map fun i => entry (i + 1)).mapM lookup).bind _ = _
    rw [rest]
    rfl

namespace Update

open Rendering

variable {u v : Update} {c : Condition}

def nameEntries (u : Update) : List (String × String) :=
  u.assignments.mapIdx (fun i a => (namePlaceholder i, a.1)) ++ conditionNames u.key u.condition

def valueEntries (u : Update) : List (String × Value) :=
  u.assignments.mapIdx fun i a => (valuePlaceholder i, a.2)

theorem names_render (u : Update) : u.render.names = .ofList u.nameEntries := rfl

theorem values_render (u : Update) : u.render.values = .ofList u.valueEntries := rfl

theorem keys_nameEntries (u : Update) :
    u.nameEntries.map Prod.fst = (List.range u.assignments.length).map namePlaceholder ++
      if u.condition = none then [] else [partitionPlaceholder, sortPlaceholder] := by
  have numbered : (u.assignments.mapIdx fun i a => (namePlaceholder i, a.1)).map Prod.fst =
      (List.range u.assignments.length).map namePlaceholder :=
    List.ext_getElem (by simp) (by simp)
  rw [nameEntries, List.map_append, numbered]
  cases u.condition <;> rfl

theorem keys_valueEntries (u : Update) :
    u.valueEntries.map Prod.fst = (List.range u.assignments.length).map valuePlaceholder :=
  List.ext_getElem (by simp [valueEntries]) (by simp [valueEntries])

/-- No placeholder for a name is defined twice. -/
theorem nodup_nameEntries (u : Update) : (u.nameEntries.map Prod.fst).Nodup := by
  rw [keys_nameEntries, List.nodup_append]
  refine ⟨List.Nodup.map numbered_namePlaceholder.injective List.nodup_range, ?_, ?_⟩
  · split
    · exact List.nodup_nil
    · decide
  · intro name assigned other ofKey
    obtain ⟨i, -, rfl⟩ := List.mem_map.mp assigned
    split at ofKey
    · cases ofKey
    · obtain ⟨notPartition, notSort⟩ := namePlaceholder_ne_key i
      rcases List.mem_cons.mp ofKey with rfl | ofKey
      · exact notPartition
      · rwa [List.mem_singleton.mp ofKey]

theorem nodup_valueEntries (u : Update) : (u.valueEntries.map Prod.fst).Nodup := by
  rw [keys_valueEntries]
  exact List.Nodup.map numbered_valuePlaceholder.injective List.nodup_range

theorem get?_names_render {e : String × String} (he : e ∈ u.nameEntries) :
    u.render.names.get? e.1 = some e.2 :=
  KeyMap.get?_insertAll_of_mem u.nodup_nameEntries he .empty

theorem get?_values_render {e : String × Value} (he : e ∈ u.valueEntries) :
    u.render.values.get? e.1 = some e.2 :=
  KeyMap.get?_insertAll_of_mem u.nodup_valueEntries he .empty

/-- The placeholders of an assignment stand for its name and its value. -/
theorem get?_placeholders {i : Nat} (h : i < u.assignments.length) :
    u.render.names.get? (namePlaceholder i) = some u.assignments[i].1 ∧
      u.render.values.get? (valuePlaceholder i) = some u.assignments[i].2 := by
  have name : (namePlaceholder i, u.assignments[i].1) ∈ u.nameEntries :=
    List.mem_append_left _ (List.mem_mapIdx.mpr ⟨i, h, rfl⟩)
  have value : (valuePlaceholder i, u.assignments[i].2) ∈ u.valueEntries :=
    List.mem_mapIdx.mpr ⟨i, h, rfl⟩
  exact ⟨get?_names_render name, get?_values_render value⟩

/-- The placeholders of a key stand for the names of its attributes. -/
theorem get?_keyPlaceholders (conditional : u.condition = some c) :
    u.render.names.get? partitionPlaceholder = some u.key.names.partition ∧
      u.render.names.get? sortPlaceholder = some u.key.names.sort := by
  have ofKey {e : String × String} (he : e ∈ conditionNames u.key (some c)) :
      e ∈ u.nameEntries := List.mem_append_right _ (conditional ▸ he)
  exact ⟨get?_names_render (ofKey List.mem_cons_self),
    get?_names_render (ofKey (List.mem_cons_of_mem _ List.mem_cons_self))⟩

/-! ## The rendering read back -/

theorem update_render_eq_none_iff : u.render.update = none ↔ u.assignments = [] :=
  updateText_eq_none_iff.trans List.length_eq_zero_iff

theorem condition_render_eq_none_iff : u.render.condition = none ↔ u.condition = none :=
  Option.map_eq_none_iff

/-- What the rendering sets is what the update sets. -/
theorem assignments?_render (u : Update) : u.render.assignments? = some u.assignments := by
  unfold assignments?
  split
  · rename_i unwritten
    rw [update_render_eq_none_iff.mp unwritten]
  · rename_i text written
    have nonempty : (List.range u.assignments.length).map placeholders ≠ [] := by
      intro empty
      have none := List.length_eq_zero_iff.mp (by simpa using congrArg List.length empty)
      rw [update_render_eq_none_iff.mpr none] at written
      cases written
    rw [tokens_updateText written, readSet, readAssignments_assignmentTokens nonempty]
    refine mapM_numbered fun i h => ?_
    obtain ⟨name, value⟩ := get?_placeholders h
    simp [placeholders, name, value]

/-- What the rendering asks is what the condition asks of both key attributes. -/
theorem tests?_render (conditional : u.condition = some c) :
    u.render.tests? = some [(c, u.key.names.partition), (c, u.key.names.sort)] := by
  have text : u.render.condition = some (conditionText c) := congrArg (Option.map _) conditional
  obtain ⟨partition, sort⟩ := get?_keyPlaceholders conditional
  rw [tests?, text]
  simp [tokens_conditionText, readTests, testOf?_testName, partition, sort]

/-! ## Which placeholders are used -/

theorem word_mem_update {p : String} :
    (∃ text, u.render.update = some text ∧ .word p ∈ tokens text) ↔
      ∃ i < u.assignments.length, p = "SET" ∨ p = namePlaceholder i ∨ p = valuePlaceholder i := by
  cases written : u.render.update with
  | none =>
    rw [update_render_eq_none_iff.mp written]
    simp
  | some text =>
    have nonempty : 0 < u.assignments.length := by
      refine List.length_pos_iff.mpr fun empty => ?_
      rw [update_render_eq_none_iff.mpr empty] at written
      cases written
    have words : .word p ∈ tokens text ↔ p = "SET" ∨
        ∃ i < u.assignments.length, p = namePlaceholder i ∨ p = valuePlaceholder i := by
      rw [tokens_updateText written]
      simp [word_mem_assignmentTokens, placeholders]
    simp only [Option.some.injEq, exists_eq_left', words]
    constructor
    · rintro (set | ⟨i, h, used⟩)
      · exact ⟨0, nonempty, .inl set⟩
      · exact ⟨i, h, .inr used⟩
    · rintro ⟨i, h, set | used⟩
      · exact .inl set
      · exact .inr ⟨i, h, used⟩

theorem word_mem_condition {p : String} :
    (∃ text, u.render.condition = some text ∧ .word p ∈ tokens text) ↔
      ∃ c, u.condition = some c ∧
        (p = testName c ∨ p = "AND" ∨ p = partitionPlaceholder ∨ p = sortPlaceholder) := by
  cases conditional : u.condition with
  | none =>
    rw [condition_render_eq_none_iff.mpr conditional]
    simp
  | some c =>
    have text : u.render.condition = some (conditionText c) := congrArg (Option.map _) conditional
    have words : .word p ∈ tokens (conditionText c) ↔
        p = testName c ∨ p = "AND" ∨ p = partitionPlaceholder ∨ p = sortPlaceholder := by
      simp only [tokens_conditionText, List.mem_cons, Token.word.injEq, reduceCtorEq]
      tauto
    simp only [text, Option.some.injEq, exists_eq_left', words]

theorem uses_render_iff {kind : Char} {p : String} :
    u.render.Uses kind p ↔ p.toList.head? = some kind ∧
      ((∃ i < u.assignments.length, p = "SET" ∨ p = namePlaceholder i ∨ p = valuePlaceholder i) ∨
        ∃ c, u.condition = some c ∧
          (p = testName c ∨ p = "AND" ∨ p = partitionPlaceholder ∨ p = sortPlaceholder)) := by
  simp only [Uses, or_and_right, exists_or, word_mem_update, word_mem_condition]

theorem head?_namePlaceholder (i : Nat) : (namePlaceholder i).toList.head? = some '#' := by
  rw [numbered_namePlaceholder i]
  rfl

theorem head?_valuePlaceholder (i : Nat) : (valuePlaceholder i).toList.head? = some ':' := by
  rw [numbered_valuePlaceholder i]
  rfl

theorem head?_testName (c : Condition) : (testName c).toList.head? = some 'a' := by
  cases c <;> rfl

/-- The names that are defined are those of the placeholders that are used. -/
theorem isSome_names_iff (u : Update) (p : String) :
    (u.render.names.get? p).isSome ↔ u.render.Uses '#' p := by
  rw [names_render, KeyMap.isSome_get?_ofList, keys_nameEntries, uses_render_iff, List.mem_append]
  constructor
  · rintro (assigned | ofKey)
    · obtain ⟨i, h, rfl⟩ := List.mem_map.mp assigned
      exact ⟨head?_namePlaceholder i, .inl ⟨i, List.mem_range.mp h, .inr (.inl rfl)⟩⟩
    · split at ofKey
      · cases ofKey
      · rename_i conditional
        obtain ⟨c, conditional⟩ := Option.ne_none_iff_exists'.mp conditional
        rcases List.mem_cons.mp ofKey with rfl | ofKey
        · exact ⟨rfl, .inr ⟨c, conditional, by simp⟩⟩
        · obtain rfl := List.mem_singleton.mp ofKey
          exact ⟨rfl, .inr ⟨c, conditional, by simp⟩⟩
  · rintro ⟨kind, ⟨i, h, rfl | rfl | rfl⟩ | ⟨c, conditional, rfl | rfl | ofKey⟩⟩
    · cases kind
    · exact .inl (List.mem_map_of_mem (List.mem_range.mpr h))
    · rw [head?_valuePlaceholder] at kind
      cases kind
    · rw [head?_testName] at kind
      cases kind
    · cases kind
    · exact .inr (by simpa [conditional] using ofKey)

theorem isSome_values_iff (u : Update) (p : String) :
    (u.render.values.get? p).isSome ↔ u.render.Uses ':' p := by
  rw [values_render, KeyMap.isSome_get?_ofList, keys_valueEntries, uses_render_iff]
  constructor
  · intro assigned
    obtain ⟨i, h, rfl⟩ := List.mem_map.mp assigned
    exact ⟨head?_valuePlaceholder i, .inl ⟨i, List.mem_range.mp h, .inr (.inr rfl)⟩⟩
  · rintro ⟨kind, ⟨i, h, rfl | rfl | rfl⟩ | ⟨c, -, rfl | rfl | rfl | rfl⟩⟩
    · cases kind
    · rw [head?_namePlaceholder] at kind
      cases kind
    · exact List.mem_map_of_mem (List.mem_range.mpr h)
    · rw [head?_testName] at kind
      cases kind
    · cases kind
    · cases kind
    · cases kind

/-- **Rendering loses nothing.** There is no update expression exactly if nothing is assigned, and
what is read from it through the placeholders are the assignments in their order. There is a
condition expression exactly if there is a condition, and what is read from it is that condition on
the two key attributes. The placeholders that are defined are those that the expressions use. So
updates with one rendering have the same assignments and the same condition, and if they have one
the same names of key attributes. -/
theorem rendering_loses_nothing (u : Update) :
    (u.render.update = none ↔ u.assignments = []) ∧
    u.render.assignments? = some u.assignments ∧
    (u.render.condition = none ↔ u.condition = none) ∧
    (∀ c ∈ u.condition,
      u.render.tests? = some [(c, u.key.names.partition), (c, u.key.names.sort)]) ∧
    (∀ p, (u.render.names.get? p).isSome ↔ u.render.Uses '#' p) ∧
    (∀ p, (u.render.values.get? p).isSome ↔ u.render.Uses ':' p) ∧
    ∀ v : Update, v.render = u.render →
      v.assignments = u.assignments ∧ v.condition = u.condition ∧
        (u.condition ≠ none → v.key.names = u.key.names) := by
  refine ⟨update_render_eq_none_iff, assignments?_render u, condition_render_eq_none_iff,
    fun c => tests?_render, isSome_names_iff u, isSome_values_iff u, fun v same => ?_⟩
  have assignments : v.assignments = u.assignments := by
    have read := assignments?_render v
    rw [same, assignments?_render u] at read
    exact (Option.some.inj read).symm
  cases conditional : u.condition with
  | none =>
    have unwritten := condition_render_eq_none_iff.mpr conditional
    rw [← same] at unwritten
    exact ⟨assignments, condition_render_eq_none_iff.mp unwritten, fun given => absurd rfl given⟩
  | some c =>
    have written : v.condition ≠ none := by
      rw [Ne, ← condition_render_eq_none_iff, same, condition_render_eq_none_iff, conditional]
      exact Option.some_ne_none c
    obtain ⟨c', conditional'⟩ := Option.ne_none_iff_exists'.mp written
    have read := tests?_render conditional'
    rw [same, tests?_render conditional] at read
    obtain ⟨⟨rfl, partition⟩, -, sort⟩ : (c = c' ∧ u.key.names.partition = v.key.names.partition) ∧
        c = c' ∧ u.key.names.sort = v.key.names.sort := by simpa using read
    have names : v.key.names = u.key.names :=
      calc v.key.names = ⟨v.key.names.partition, v.key.names.sort⟩ := rfl
        _ = ⟨u.key.names.partition, u.key.names.sort⟩ := by rw [partition, sort]
    exact ⟨assignments, conditional', fun _ => names⟩

-- Names that look like placeholders are looked up like any others.
example :
    let u := ((Update.of "findings" (.of "#pk" "EC2.1" "#a1" "f1")).set "#a1" (.text "QUEUED")).set
      "#pk" (.text "SUCCESS")
    u.render.update = some "SET #a0 = :v0, #a1 = :v1" ∧
      u.render.assignments? = some [("#a1", .text "QUEUED"), ("#pk", .text "SUCCESS")] := by
  decide +kernel

end Update

end RemediationLedger
