/-
Reading back what was written in JSON.

A text is written character by character, and each written character is read
back as itself wherever it stands (`unquoteAfter_quoteChar`): what is not
escaped is no quote, backslash or control, and what is escaped has its escape
undone. So a quoted text is read back with whatever follows it left over
(`unquote_flatMap_quoteChar`), and the same goes for keys, values and members.

An object is read member by member with the fields seen so far in hand.
`readMembers_of_close` and `readMembers_of_member` say what one step of that is,
for any layout of the object, and `readMembers_commas` takes them along the
members of an object that was written.

## How the proof goes

The middle part is for any shape of records that can tell texts from its other
values (`ReadsTexts`) and finds its fields by their names (`FindsFields`). So
the result for objects (`readRecord_quoteMembers`) is about any list of members
with different fields, and requests are one case of it.

A request is written with the fields that have a text, in their order. Reading
gives back the same entries, and a request is made of entries by looking fields
up; a field that was left out is looked up in vain, which is what its value was
(`join_lookup_filter`). For the required fields and the actor there is always an
entry.

`request_survives_json` is for every request, valid or not, with any characters
in its texts: quotes, controls, characters beyond U+FFFF, and the empty text.
-/
import RemediationLedger.Request.Json

namespace RemediationLedger

open Json

namespace Json

/-! ## Characters -/

theorem hexValue?_hexDigit : ∀ n < 16, hexValue? (hexDigit n) = some n := by decide

/-- The four digits that a control is written with stand for it. -/
theorem unitValue?_control {n : Nat} (control : n < 0x20) :
    unitValue? '0' '0' (hexDigit (n / 16)) (hexDigit (n % 16)) = some n := by
  have zero : hexValue? '0' = some 0 := by decide
  simp only [unitValue?, zero, hexValue?_hexDigit _ (show n / 16 < 16 by omega),
    hexValue?_hexDigit _ (show n % 16 < 16 by omega), bind, Option.bind, pure]
  congr 1
  omega

/-- A character is written with a letter of its own, or as a control, or as it is. -/
theorem quoteChar_cases (c : Char) :
    (∃ letter, letter ≠ 'u' ∧ shortEscape? letter = some c ∧ quoteChar c = ['\\', letter]) ∨
    (c.toNat < 0x20 ∧ quoteChar c =
      ['\\', 'u', '0', '0', hexDigit (c.toNat / 16), hexDigit (c.toNat % 16)]) ∨
    (c ≠ '"' ∧ c ≠ '\\' ∧ ¬ c.toNat < 0x20 ∧ quoteChar c = [c]) := by
  by_cases listed : c ∈ ['"', '\\', '\n', '\r', '\t', '\x08', '\x0c']
  · left
    simp only [List.mem_cons, List.not_mem_nil, or_false] at listed
    rcases listed with rfl | rfl | rfl | rfl | rfl | rfl | rfl
    all_goals exact ⟨_, by decide, rfl, rfl⟩
  · right
    simp only [List.mem_cons, List.not_mem_nil, or_false, not_or] at listed
    obtain ⟨noQuote, noBackslash, noLineFeed, noReturn, noTab, noBackspace, noFormFeed⟩ := listed
    rw [quoteChar, if_neg noQuote, if_neg noBackslash, if_neg noLineFeed, if_neg noReturn,
      if_neg noTab, if_neg noBackspace, if_neg noFormFeed]
    split
    · rename_i control
      exact .inl ⟨control, rfl⟩
    · rename_i noControl
      exact .inr ⟨noQuote, noBackslash, noControl, rfl⟩

/-- A written character is read back as itself. -/
theorem unquoteAfter_quoteChar (c : Char) (cs : List Char) :
    unquoteAfter none (quoteChar c ++ cs) = prepend c (unquoteAfter none cs) := by
  obtain ⟨letter, other, short, written⟩ | ⟨control, written⟩ | ⟨noQuote, noBackslash, noControl,
    written⟩ := quoteChar_cases c
  · rw [written, List.cons_append, List.cons_append, List.nil_append, unquoteAfter, if_pos rfl,
      unescape, if_neg other, Option.isSome_none, if_neg Bool.false_ne_true, short]
  · -- no control is half of a surrogate pair
    have noTrailing : isTrailing c.toNat = false := by
      simp only [isTrailing, Bool.and_eq_false_iff, decide_eq_false_iff_not]
      omega
    have noLeading : isLeading c.toNat = false := by
      simp only [isLeading, Bool.and_eq_false_iff, decide_eq_false_iff_not]
      omega
    simp only [written, List.cons_append, List.nil_append]
    rw [unquoteAfter, if_pos rfl, unescape, if_pos rfl, unescapeUnit, unitValue?_control control]
    simp only [noTrailing, noLeading, Bool.false_eq_true, if_false, Char.ofNat_toNat]
  · rw [written, List.cons_append, List.nil_append, unquoteAfter, if_neg noBackslash,
      Option.isSome_none, if_neg Bool.false_ne_true, if_neg noQuote, if_neg noControl]

/-- So is a written text, and what follows its closing quote is left over. -/
theorem unquote_flatMap_quoteChar (cs rest : List Char) :
    unquote (cs.flatMap quoteChar ++ '"' :: rest) = .ok (cs, rest) := by
  unfold unquote
  induction cs with
  | nil => rw [List.flatMap_nil, List.nil_append, unquoteAfter]; rfl
  | cons c cs ih =>
    rw [List.flatMap_cons, List.append_assoc, unquoteAfter_quoteChar, ih]
    rfl

/-! ## Keys and values -/

theorem quote_append (s : String) (rest : List Char) :
    quote s ++ rest = '"' :: (s.toList.flatMap quoteChar ++ '"' :: rest) := by
  simp [quote]

/-- A quote is no gap. -/
theorem dropGaps_quote (s : String) (rest : List Char) :
    dropGaps (quote s ++ rest) = quote s ++ rest := by
  rw [quote_append]
  rfl

theorem readKey_quote (s : String) (rest : List Char) :
    readKey (quote s ++ rest) = .ok (s, rest) := by
  rw [quote_append, readKey, if_pos rfl, unquote_flatMap_quoteChar]
  simp

theorem readText_quote (s : String) (rest : List Char) :
    readText (quote s ++ rest) = .ok (s, rest) := by
  rw [readText, dropGaps_quote, quote_append]
  simp [unquote_flatMap_quoteChar]

theorem readOptionalText_quote (s : String) (rest : List Char) :
    readOptionalText (quote s ++ rest) = .ok (some s, rest) := by
  have text := readText_quote s rest
  rw [readOptionalText, dropGaps_quote]
  rw [quote_append] at text ⊢
  simp [text]

/-! ## Members -/

def quoteMember (member : String × String) : List Char := quote member.1 ++ ':' :: quote member.2

theorem quoteList_cons (member : String × String) (members : List (String × String)) :
    quoteList (member :: members) =
      quoteMember member ++ members.flatMap fun m => ',' :: quoteMember m := by
  induction members generalizing member with
  | nil => simp [quoteList, quoteMember]
  | cons next members ih =>
    rw [quoteList, ih next, List.flatMap_cons]
    · simp [quoteMember]
    · simp

theorem quoteMember_append (member : String × String) (rest : List Char) :
    quoteMember member ++ rest = quote member.1 ++ ':' :: (quote member.2 ++ rest) := by
  simp [quoteMember]

/-- The first member stands right behind the brace. -/
theorem findNext_quoteMember (member : String × String) (rest : List Char) :
    findNext '}' true (quoteMember member ++ rest) =
      .ok (.element (quoteMember member ++ rest)) := by
  rw [quoteMember_append, quote_append]
  rfl

/-- Every other one has a comma before it. -/
theorem findNext_comma_quoteMember (member : String × String) (rest : List Char) :
    findNext '}' false (',' :: (quoteMember member ++ rest)) =
      .ok (.element (quoteMember member ++ rest)) := by
  rw [quoteMember_append, quote_append]
  rfl

theorem findNext_close (isFirst : Bool) (rest : List Char) :
    findNext '}' isFirst ('}' :: rest) = .ok (.close rest) := rfl

section Members

variable {φ ν : Type} [DecidableEq φ] {shape : RecordShape φ ν} {seen : List φ} {isFirst : Bool}
  {cs start after rest : List Char} {f : φ} {v : ν}

theorem readMembers_of_close (found : findNext '}' isFirst cs = .ok (.close rest)) :
    readMembers shape seen isFirst cs = .ok ([], rest) := by
  rw [readMembers]
  split
  · rename_i h
    cases found.symm.trans h
  · rename_i h
    cases found.symm.trans h
    rfl
  · rename_i h
    cases found.symm.trans h

theorem readMembers_of_member (found : findNext '}' isFirst cs = .ok (.element start))
    (read : readMember shape seen start = .ok (some (f, v), after)) {more : List (φ × ν)}
    (others : readMembers shape (f :: seen) false after = .ok (more, rest)) :
    readMembers shape seen isFirst cs = .ok ((f, v) :: more, rest) := by
  rw [readMembers]
  split
  · rename_i h
    cases found.symm.trans h
  · rename_i h
    cases found.symm.trans h
  · rename_i h
    cases found.symm.trans h
    split
    · rename_i h
      cases read.symm.trans h
    · rename_i h
      cases read.symm.trans h
    · rename_i h
      cases read.symm.trans h
      rw [others]

/-- Texts can be told from other values of a record: whatever field a quoted text stands in, it is
read as the value that it makes. -/
def ReadsTexts (shape : RecordShape φ ν) (value : String → ν) : Prop :=
  ∀ f s rest, shape.read f (quote s ++ rest) = .ok (value s, rest)

def FindsFields (shape : RecordShape φ ν) : Prop := ∀ f, shape.field? (shape.name f) = some f

variable {value : String → ν}

theorem readMember_quoteMember (finds : FindsFields shape) (reads : ReadsTexts shape value)
    (fresh : f ∉ seen) (s : String) (rest : List Char) :
    readMember shape seen (quoteMember (shape.name f, s) ++ rest) =
      .ok (some (f, value s), rest) := by
  have colon : findColon (':' :: (quote s ++ rest)) = .ok (quote s ++ rest) := rfl
  rw [quoteMember_append]
  simp only [readMember, readKey_quote, finds f, if_neg fresh, colon, reads f s rest, bind,
    Except.bind, pure, Except.pure]

def members (shape : RecordShape φ ν) (entries : List (φ × String)) : List (String × String) :=
  entries.map fun e => (shape.name e.1, e.2)

theorem readMembers_commas (finds : FindsFields shape) (reads : ReadsTexts shape value)
    {entries : List (φ × String)} (apart : (entries.map Prod.fst).Nodup)
    (fresh : ∀ e ∈ entries, e.1 ∉ seen) (rest : List Char) :
    readMembers shape seen false
      ((members shape entries).flatMap (fun m => ',' :: quoteMember m) ++ '}' :: rest) =
      .ok (entries.map fun e => (e.1, value e.2), rest) := by
  induction entries generalizing seen with
  | nil => exact readMembers_of_close (findNext_close false rest)
  | cons e entries ih =>
    obtain ⟨once, apart⟩ := List.nodup_cons.mp apart
    obtain ⟨new, fresh⟩ := List.forall_mem_cons.mp fresh
    simp only [members, List.map_cons, List.flatMap_cons, List.cons_append, List.append_assoc]
    refine readMembers_of_member (findNext_comma_quoteMember _ _)
      (readMember_quoteMember finds reads new e.2 _) (ih apart fun e' he' => ?_)
    rw [List.mem_cons, not_or]
    exact ⟨fun same => once (same ▸ List.mem_map_of_mem he'), fresh e' he'⟩

/-- An object that was written is read back member by member. -/
theorem readRecord_quoteMembers (finds : FindsFields shape) (reads : ReadsTexts shape value)
    {entries : List (φ × String)} (apart : (entries.map Prod.fst).Nodup) (rest : List Char) :
    readRecord shape (quoteMembers (members shape entries) ++ rest) =
      .ok (.named (entries.map fun e => (e.1, value e.2)), rest) := by
  have read : readMembers shape [] true (quoteList (members shape entries) ++ '}' :: rest) =
      .ok (entries.map fun e => (e.1, value e.2), rest) := by
    cases entries with
    | nil => exact readMembers_of_close (findNext_close true rest)
    | cons e entries =>
      obtain ⟨once, apart⟩ := List.nodup_cons.mp apart
      rw [members, List.map_cons, quoteList_cons, List.append_assoc]
      refine readMembers_of_member (findNext_quoteMember _ _)
        (readMember_quoteMember finds reads (List.not_mem_nil) e.2 _)
        (readMembers_commas finds reads apart (fun e' he' => ?_) rest)
      rw [List.mem_singleton]
      exact fun same => once (same ▸ List.mem_map_of_mem he')
  have brace : dropGaps (quoteMembers (members shape entries) ++ rest) =
      '{' :: (quoteList (members shape entries) ++ '}' :: rest) := by
    simp [quoteMembers, dropGaps, isGap]
  simp only [readRecord, brace, read, bind, Except.bind, pure, Except.pure, if_true]

end Members

end Json

/-! ## Requests -/

namespace Request

theorem findsFields_shape : FindsFields shape := fun f => by cases f <;> rfl

theorem readsTexts_shape : ReadsTexts shape some := by
  intro f s rest
  change f.read _ = _
  unfold RequestField.read
  split
  · exact readOptionalText_quote s rest
  · rw [readText_quote]

def given (r : Request) : List (RequestField × String) :=
  r.values.filterMap fun (f, value) => value.map fun v => (f, v)

theorem toJson_eq (r : Request) :
    r.toJson = String.ofList (quoteMembers (members shape r.given)) := by
  have present : members shape r.given =
      r.values.filterMap fun (f, value) => value.map fun v => (f.name, v) := by
    simp only [members, given, List.map_filterMap, Option.map_map]
    rfl
  rw [present]
  rfl

theorem map_given (r : Request) :
    (r.given.map fun e => (e.1, some e.2)) = r.values.filter fun e => e.2.isSome := by
  unfold given
  induction r.values with
  | nil => rfl
  | cons e values ih =>
    obtain ⟨f, _ | v⟩ := e
    · simpa using ih
    · simpa using ih

theorem nodup_values (r : Request) : (r.values.map Prod.fst).Nodup :=
  (by decide : RequestField.all.Nodup)

theorem nodup_given (r : Request) : (r.given.map Prod.fst).Nodup := by
  have fields : r.given.map Prod.fst = (r.values.filter fun e => e.2.isSome).map Prod.fst := by
    rw [← map_given, List.map_map]
    rfl
  rw [fields]
  exact r.nodup_values.sublist (List.filter_sublist.map Prod.fst)

/-- To leave a field out is to give it no text. -/
theorem join_lookup_filter {l : List (RequestField × Option String)}
    (apart : (l.map Prod.fst).Nodup) (f : RequestField) :
    ((l.filter fun e => e.2.isSome).lookup f).join = (l.lookup f).join := by
  induction l with
  | nil => rfl
  | cons e l ih =>
    obtain ⟨g, value⟩ := e
    rw [List.map_cons, List.nodup_cons] at apart
    obtain ⟨once, apart⟩ := apart
    by_cases here : f = g
    · subst here
      cases value with
      | none =>
        have later : l.lookup f = none := by
          rw [List.lookup_eq_none_iff]
          intro e he
          exact bne_iff_ne.mpr fun same => once (List.mem_map.mpr ⟨e, he, same.symm⟩)
        rw [List.filter_cons_of_neg (by simp), ih apart, later]
        simp
      | some v => simp
    · have other : (f == g) = false := beq_false_of_ne here
      cases value with
      | none => simpa [List.lookup_cons, other] using ih apart
      | some v => simpa [List.lookup_cons, other] using ih apart

theorem required_eq (entries : List (RequestField × Option String))
    (missing : String → ShapeProblem) (f : RequestField) :
    required entries missing f =
      match (entries.lookup f).join with
      | some s => .ok s
      | none => .error (missing f.name) := by
  unfold required
  rcases entries.lookup f with _ | _ | s
  all_goals rfl

/-- What a request amounts to depends only on which text each field has, if any. -/
theorem ofEntries_congr {entries entries' : List (RequestField × Option String)}
    (same : ∀ f, (entries.lookup f).join = (entries'.lookup f).join)
    (missing : String → ShapeProblem) : ofEntries entries missing = ofEntries entries' missing := by
  simp only [ofEntries, required_eq, same]

theorem ofEntries_values (r : Request) (missing : String → ShapeProblem) :
    ofEntries r.values missing = .ok r := rfl

/-- **Requests survive JSON.** A request is written as an object that has a member for each field
with a text, be it empty, and none for a field without one. Read back, it is the same request. -/
theorem request_survives_json (r : Request) :
    readRecord shape r.toJson.toList = .ok (.named (r.values.filter fun e => e.2.isSome), []) ∧
      ofJson r.toJson = .ok r := by
  have read : readRecord shape r.toJson.toList =
      .ok (.named (r.values.filter fun e => e.2.isSome), []) := by
    have written := readRecord_quoteMembers findsFields_shape readsTexts_shape r.nodup_given []
    rw [List.append_nil, map_given] at written
    rw [toJson_eq, String.toList_ofList, written]
  refine ⟨read, ?_⟩
  have finished : ofRecord (.named (r.values.filter fun e => e.2.isSome)) = .ok r := by
    rw [ofRecord, ofEntries_congr (join_lookup_filter r.nodup_values), ofEntries_values]
  simp only [ofJson, decodeRecord, read, finished, bind, Except.bind, List.all_nil, if_true]

end Request

end RemediationLedger
