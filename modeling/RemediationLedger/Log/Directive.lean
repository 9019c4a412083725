/-
Directives, of which filters consist.

A directive is a level, or a target, or both as `target=level`. It speaks of all
targets that begin with its own, and of these it admits what matters at least as
much as its level. Between target and level it can be narrowed in brackets to
what happens inside a span, or to the events that have a certain field.

Blanks around a directive do not count when its parts are looked for, but the
places of the parts are then taken in the text with its blanks. So behind
leading blanks every part is taken from too far left: such a directive speaks of
nothing that happens, it cannot have a level, and a part can begin or end within
a character.

* `Directive.ofText` takes a text apart from left to right: the target, a
  bracket (`readReach`), the level (`readLeast`). Places are counted in bytes,
  and `cut` takes a part out of the text between two of them.
* A part that begins or ends within a character is no text at all. That is a
  fault of its own, because reading does not go on from it.
* `Reach.le` and `outranks` are the order in which directives count. It is not
  the order in which they are written; only of two alike the later one counts.
-/
import RemediationLedger.Event
import RemediationLedger.Log.Pattern
import RemediationLedger.Text.AsciiCase
import RemediationLedger.Text.Bytes
import RemediationLedger.Text.Word

namespace RemediationLedger

/-- What a directive is narrowed to. -/
inductive Reach where
  /-- Every event. -/
  | everywhere
  /-- Events that have a field of this name. -/
  | withField (name : String)
  /-- What happens inside a span that is known by its name or by the value of a field. No event of
  the ledger does. -/
  | insideSpan
  deriving DecidableEq, Repr

/-- Whether the second asks for as much as the first. Of two fields, the one counts as more whose
name comes later. -/
def Reach.le : Reach → Reach → Bool
  | withField a, withField b => !decide (b < a)
  | withField _, _ => false
  | _, _ => true

structure Directive where
  /-- What the targets begin with; nothing, if it speaks of every target. -/
  target : String
  /-- What it is narrowed to. -/
  reach : Reach
  /-- The least level that it admits; none, if it admits nothing. -/
  least : Option Level
  deriving DecidableEq, Repr

inductive DirectiveFault where
  /-- It is not written like one. -/
  | malformed
  /-- One of its parts begins or ends within a character. Nothing more can be read then. -/
  | splitCharacter
  deriving DecidableEq, Repr

namespace Directive

/-! ## Levels -/

/-- The least level that a number stands for, where 0 stands for none. -/
def leastOfNumber? : Nat → Option (Option Level)
  | 0 => some none
  | 1 => some (some .error)
  | 2 => some (some .warn)
  | 3 => some (some .info)
  | 4 => some (some .debug)
  | 5 => some (some .trace)
  | _ => none

/-- The least level that a word stands for, where `off` stands for none. -/
def leastOfWord? (s : String) : Option (Option Level) :=
  let word := asciiUpper s
  if word = "OFF" then some none
  else if word = "ERROR" then some (some .error)
  else if word = "WARN" then some (some .warn)
  else if word = "INFO" then some (some .info)
  else if word = "DEBUG" then some (some .debug)
  else if word = "TRACE" then some (some .trace)
  else none

def leastOfText? (cs : List Char) : Option (Option Level) :=
  match readDigits? (if cs.head? = some '+' then cs.tail else cs) with
  | some n => leastOfNumber? n
  | none => leastOfWord? (String.ofList cs)

/-! ## Values of fields -/

/-- The text behind a sign, if there is one. -/
def dropSign (cs : List Char) : List Char :=
  if cs.head? = some '+' || cs.head? = some '-' then cs.tail else cs

def isExponent : List Char → Bool
  | [] => true
  | c :: cs => (c == 'e' || c == 'E') && (readDigits? (dropSign cs)).isSome

def isDecimal (cs : List Char) : Bool :=
  let whole := cs.takeWhile Char.isDigit
  match cs.drop whole.length with
  | '.' :: rest =>
    let fraction := rest.takeWhile Char.isDigit
    !(whole ++ fraction).isEmpty && isExponent (rest.drop fraction.length)
  | rest => !whole.isEmpty && isExponent rest

def isNumber (cs : List Char) : Bool :=
  let size := dropSign cs
  ["INF", "INFINITY", "NAN"].contains (asciiUpper (String.ofList size)) || isDecimal size

/-- Whether a text may be the value of a field: a number or a pattern. -/
def isValue (cs : List Char) : Bool := isNumber cs || isPattern cs

/-- What a directive is narrowed to by a field, and by its value if there is one behind an equals
sign. What stands behind a second equals sign does not count. -/
def reachOfField? (field : List Char) : Option Reach :=
  let name := field.takeWhile (· != '=')
  match field.drop name.length with
  | [] => if name.isEmpty then none else some (.withField (String.ofList name))
  | _ :: rest => if isValue (rest.takeWhile (· != '=')) then some .insideSpan else none

/-! ## Reading -/

/-- Whether a character may be the first of a target. Behind it all may that do not end the target. -/
def opensTarget (c : Char) : Bool := isAlphanumeric c || c == '-' || c == ':' || c == '_'

def endsTarget (c : Char) : Bool := c == '=' || c == '['

def endsSpan (c : Char) : Bool := c == ']' || c == '{'

def cut (text : List Char) (start stop : Nat) : Except DirectiveFault (List Char) :=
  match slice? start stop text with
  | some part => .ok part
  | none => .error .splitCharacter

def orMalformed {α : Type} : Option α → Except DirectiveFault α
  | some a => .ok a
  | none => .error .malformed

def readLeast (text : List Char) (place : Nat) : Except DirectiveFault (Option Level) := do
  let level ← cut text place (byteSize text)
  if level.isEmpty then return some .trace
  else orMalformed (leastOfText? level)

/-- Reads what a directive is narrowed to. What is left behind the opening bracket is `rest`, and it
begins at `place`. The place behind the closing bracket is returned and what is left there. -/
def readReach (text : List Char) (place : Nat) (rest : List Char) :
    Except DirectiveFault (Reach × Nat × List Char) := do
  let span := rest.takeWhile fun c => !endsSpan c
  let spanEnd := place + byteSize span
  match rest.drop span.length with
  | [] => throw .malformed
  | ']' :: rest =>
    let _ ← cut text place spanEnd
    return (.insideSpan, spanEnd + 1, rest)
  | _ :: rest =>
    let name ← cut text place spanEnd
    let field := rest.takeWhile (· != '}')
    let fieldEnd := spanEnd + 1 + byteSize field
    match rest.drop field.length with
    | [] => throw .malformed
    | _ :: rest =>
      let reach ← orMalformed (reachOfField? (← cut text (spanEnd + 1) fieldEnd))
      match rest with
      | ']' :: rest => return (if name.isEmpty then reach else .insideSpan, fieldEnd + 2, rest)
      | _ => throw .malformed

/-- Reads what begins with the character that ends a target: a level, or a bracket that narrows the
directive and maybe a level behind it. -/
def readBehindTarget (text target : List Char) (place : Nat) (c : Char) (rest : List Char) :
    Except DirectiveFault Directive := do
  if c = '=' then
    return ⟨String.ofList target, .everywhere, ← readLeast text (place + 1)⟩
  else
    let (reach, place, rest) ← readReach text (place + 1) rest
    match rest with
    | [] => return ⟨String.ofList target, reach, some .trace⟩
    | '=' :: _ => return ⟨String.ofList target, reach, ← readLeast text (place + 1)⟩
    | _ => throw .malformed

def ofText (s : String) : Except DirectiveFault Directive := do
  let text := s.toList
  let trimmed := trimBlanks text
  if trimmed.head?.any fun c => c == '[' || opensTarget c then
    let target := trimmed.takeWhile fun c => !endsTarget c
    match trimmed.drop target.length with
    | [] =>
      match leastOfText? text with
      | some least => return ⟨"", .everywhere, least⟩
      | none => return ⟨s, .everywhere, some .trace⟩
    | c :: rest =>
      let place := byteSize target
      readBehindTarget text (← cut text 0 place) place c rest
  else throw .malformed

/-! ## Admission -/

def speaksOf (d : Directive) (e : Event) : Bool :=
  d.target.toList.isPrefixOf e.target.toList &&
    match d.reach with
    | .everywhere => true
    | .withField name => name == "message" || e.fields.any fun field => field.1 == name
    | .insideSpan => false

/-- Whether `d` counts before `b` where both speak of an event and `d` comes later. -/
def outranks (d b : Directive) : Bool :=
  b.target.length < d.target.length || (b.target.length == d.target.length && b.reach.le d.reach)

def admits (d : Directive) (level : Level) : Bool :=
  d.least.any fun least => level.rank ≤ least.rank

end Directive

end RemediationLedger
