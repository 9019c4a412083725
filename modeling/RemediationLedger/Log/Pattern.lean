/-
Patterns, by which a directive tells what the value of a field looks like.

A pattern is a choice of branches, each a sequence of items: characters, classes
of characters, places, groups and repetitions of them. No event of the ledger
happens inside a span, so no pattern is ever matched here; what counts is which
texts are patterns.

A pattern speaks of characters, or of bytes where it is told to. Which
characters are one another's other case and which ones are digits, blanks or
parts of words is known of ASCII alone. So a pattern of characters has to tell
cases apart and cannot use the names of those sets, while a pattern of bytes
must not match a part of a longer character. A repetition with counts needs a
closing brace, and the value of a field ends before the first one.

* `Modes` is what the letters in a group can switch. It is handed down to
  whatever stands in the group and given up at its end.
* `Bracket` is an open class and `Scope` an open group: what has been read of it
  and how deep that is nested. Nothing else of a class or a group is kept.
* `Draft` is a pattern under way, a stack of scopes, and `Draft.step?` reads its
  next part. A pattern is complete when no group is open.

The two loops, over the parts of a class and over those of a pattern, take a
limit. It is taken from the length of the text, and as every part takes a
character no text needs more.
-/
import RemediationLedger.Text.Alphanumeric
import RemediationLedger.Text.Blank
import RemediationLedger.Text.Hexadecimal

namespace RemediationLedger.Pattern

/-! ## Modes -/

structure Modes where
  /-- Whether it speaks of characters; otherwise it speaks of bytes. -/
  unicode : Bool
  /-- Whether letters stand for both their cases. -/
  caseless : Bool
  /-- Whether there may be blanks and comments between its parts. -/
  verbose : Bool
  deriving DecidableEq, Repr

namespace Modes

def atStart : Modes := ⟨true, false, false⟩

def letters : List Char := ['i', 'm', 's', 'U', 'u', 'R', 'x']

/-- The modes after some were switched on and some off, each by its letter. -/
def switch (m : Modes) (on off : List Char) : Modes :=
  let state (letter : Char) (present : Bool) : Bool :=
    on.contains letter || present && !off.contains letter
  ⟨state 'u' m.unicode, state 'i' m.caseless, state 'x' m.verbose⟩

/-- What is left of a text behind blanks and comments. A comment goes from a hash to the end of its
line. -/
def dropGaps (inComment : Bool) : List Char → List Char
  | [] => []
  | c :: cs =>
    if inComment then dropGaps (c != '\n') cs
    else if c == '#' then dropGaps true cs
    else if isBlank c then dropGaps false cs
    else c :: cs

/-- The text at which the next part begins. -/
def skip (m : Modes) (cs : List Char) : List Char := if m.verbose then dropGaps false cs else cs

/-- The character that comes next. Of a comment, the hash is looked over but not the rest. -/
def peek? (m : Modes) (cs : List Char) : Option Char :=
  if m.verbose then
    match cs.dropWhile isBlank with
    | '#' :: comment => (comment.dropWhile isBlank).head?
    | rest => rest.head?
  else cs.head?

end Modes

/-- A reader takes a part of a pattern from the front of a text and returns what follows. -/
abbrev Reader (α : Type) : Type := List Char → Option (α × List Char)

/-! ## Elements -/

inductive Element where
  /-- A character that stands for itself. -/
  | character (c : Char)
  /-- A character that is given as a byte. -/
  | byte (c : Char)
  /-- Any character but a line end. -/
  | any
  /-- The digits, the blanks or what words consist of. -/
  | familiar
  /-- The start or the end of a line or of the text. -/
  | limit
  /-- The start or the end of a word, or a place that is neither. -/
  | wordLimit
  deriving DecidableEq, Repr

namespace Element

def isItem (m : Modes) : Element → Bool
  | character _ => !m.unicode || !m.caseless
  | byte c => if m.unicode then !m.caseless else c.toNat < 0x80
  | any => m.unicode
  | familiar => !m.unicode
  | limit => true
  | wordLimit => !m.unicode

def isMember (m : Modes) : Element → Bool
  | character c | byte c => if m.unicode then !m.caseless else c.toNat < 0x80
  | familiar => !m.unicode
  | any | limit | wordLimit => false

def character? : Element → Option Char
  | character c | byte c => some c
  | _ => none

end Element

def readHex? (m : Modes) : (count : Nat) → Reader (List Char)
  | 0, cs => some ([], cs)
  | count + 1, cs =>
    match m.skip cs with
    | [] => none
    | c :: rest => do
      let (digits, rest) ← readHex? m count rest
      return (c :: digits, rest)

def readCodePoint? (m : Modes) (count : Nat) : Reader Char := fun cs => do
  let (digits, rest) ← readHex? m count cs
  return (← charOf? (← hexNumber? digits), rest)

def controlOf? (c : Char) : Option Char :=
  if c = 'a' then some '\x07'
  else if c = 'f' then some '\x0c'
  else if c = 'n' then some '\n'
  else if c = 'r' then some '\r'
  else if c = 't' then some '\t'
  else if c = 'v' then some '\x0b'
  else none

def isEscapable (c : Char) : Bool :=
  c.toNat < 0x80 && !c.isAlphanum && c != '<' && c != '>'

/-- Reads what stands behind a backslash. The sets of all characters but the digits, the blanks or
the parts of words, and those of a Unicode property, can be had in no mode. -/
def readEscape? (m : Modes) : Reader Element
  | [] => none
  | c :: cs =>
    if c = 'x' then (readCodePoint? m 2 cs).map fun (c, rest) => (.byte c, rest)
    else if c = 'u' then (readCodePoint? m 4 cs).map fun (c, rest) => (.character c, rest)
    else if c = 'U' then (readCodePoint? m 8 cs).map fun (c, rest) => (.character c, rest)
    else if ['d', 's', 'w'].contains c then some (.familiar, cs)
    else if ['A', 'z'].contains c then some (.limit, cs)
    else if ['b', 'B', '<', '>'].contains c then some (.wordLimit, cs)
    else if isEscapable c then some (.character c, cs)
    else (controlOf? c).map fun c => (.character c, cs)

def readElement? (m : Modes) (c : Char) : Reader Element := fun cs =>
  if c = '\\' then readEscape? m cs
  else if c = '.' then some (.any, cs)
  else if c = '^' || c = '$' then some (.limit, cs)
  else some (.character c, cs)

/-! ## Nesting -/

def maxDepth : Nat := 250

/-- The depth of what consists of parts. A single part counts as itself. -/
def joinedDepth : List Nat → Nat
  | [] => 0
  | [depth] => depth
  | depths => 1 + depths.foldl max 0

/-! ## Classes -/

structure Bracket where
  /-- The depth of what stands before the last operator, if there is one. -/
  left? : Option Nat
  /-- The depths of the members behind it. -/
  members : List Nat
  /-- Whether nothing but dashes has been read, which are members then. -/
  isFresh : Bool
  deriving DecidableEq, Repr

namespace Bracket

def opened : Bracket := ⟨none, [], true⟩

def add (b : Bracket) (depth : Nat) : Bracket :=
  { b with members := depth :: b.members, isFresh := false }

def depth (b : Bracket) : Nat :=
  match b.left? with
  | none => joinedDepth b.members
  | some left => joinedDepth [left, joinedDepth b.members]

end Bracket

def setNames : List String :=
  ["alnum", "alpha", "ascii", "blank", "cntrl", "digit", "graph", "lower", "print", "punct",
    "space", "upper", "word", "xdigit"]

/-- Reads the name of a set between colons, behind the first of two brackets. It tells whether the
set's complement is meant. -/
def readSetName? : Reader Bool
  | ':' :: cs =>
    let isComplement := cs.head? == some '^'
    let cs := if isComplement then cs.tail else cs
    let name := cs.takeWhile (· != ':')
    match cs.drop name.length with
    | ':' :: ']' :: rest =>
      if setNames.contains (String.ofList name) then some (isComplement, rest) else none
    | _ => none
  | _ => none

def isSet (m : Modes) (isComplement : Bool) : Bool :=
  if m.unicode then !m.caseless else !isComplement

/-- The text behind an opening bracket and the circumflex of a complement. Where bytes are meant,
there is none. -/
def openBracket? (m : Modes) (cs : List Char) : Option (List Char) :=
  match m.skip cs with
  | '^' :: rest => if m.unicode then some rest else none
  | rest => some rest

/-- Reads an element of a class that begins with `c`. -/
def readInClass? (m : Modes) (c : Char) : Reader Element := fun cs =>
  if c = '\\' then readEscape? m cs else some (.character c, cs)

/-- The text behind a member of a class that begins with `c`. It is an element, or a range from one
character to another. A dash before another one or before the closing bracket makes no range. -/
def dropMember? (m : Modes) (c : Char) (cs : List Char) : Option (List Char) := do
  let (first, rest) ← readInClass? m c cs
  if !first.isMember m then none
  else
    match m.skip rest with
    | '-' :: behind =>
      if [']', '-'].any (m.peek? behind == some ·) then some rest
      else
        match m.skip behind with
        | [] => none
        | c :: cs =>
          let (last, rest) ← readInClass? m c cs
          if !last.isMember m then none
          else if (← last.character?) < (← first.character?) then none
          else some rest
    | _ => some rest

/-- Reads a class behind its opening bracket, and returns its depth. `outer` are the classes around
it, the next one first; `limit` bounds the number of parts. -/
def readClassIn? (m : Modes) : (limit : Nat) → Bracket → (outer : List Bracket) → Reader Nat
  | 0, _, _, _ => none
  | limit + 1, b, outer, cs =>
    match m.skip cs with
    | [] => none
    | c :: rest =>
      if b.isFresh && (c == '-' || (c == ']' && b.members.isEmpty)) then
        if (Element.character c).isMember m then
          readClassIn? m limit { b.add 0 with isFresh := c == '-' } outer rest
        else none
      else if c == '[' then
        match readSetName? rest with
        | some (isComplement, rest) =>
          if isSet m isComplement then readClassIn? m limit (b.add 0) outer rest else none
        | none => do
          readClassIn? m limit .opened ({ b with isFresh := false } :: outer)
            (← openBracket? m rest)
      else if c == ']' then
        match outer with
        | [] => some (1 + b.depth, rest)
        | around :: outer => readClassIn? m limit (around.add (1 + b.depth)) outer rest
      else if ['&', '-', '~'].contains c && rest.head? == some c then
        readClassIn? m limit ⟨some b.depth, [], false⟩ outer rest.tail
      else do
        readClassIn? m limit (b.add 0) outer (← dropMember? m c rest)

def readClass? (m : Modes) : Reader Nat := fun cs => do
  readClassIn? m (cs.length + 1) .opened [] (← openBracket? m cs)

/-! ## Groups -/

inductive Opening where
  /-- A group, with the modes inside it. -/
  | group (modes : Modes)
  /-- A group that has a name. -/
  | named (name : List Char)
  /-- New modes for the rest of the group around it. -/
  | modes (modes : Modes)
  deriving DecidableEq, Repr

def isGroupName : List Char → Bool
  | [] => false
  | c :: cs =>
    (c == '_' || isAlphabetic c)
      && cs.all fun c => ['_', '.', '[', ']'].contains c || isAlphanumeric c

/-- Reads the name of a group, which ends with an angle bracket. -/
def readGroupName? : Reader Opening := fun cs =>
  let name := cs.takeWhile (· != '>')
  match cs.drop name.length with
  | _ :: rest => if isGroupName name then some (.named name, rest) else none
  | [] => none

def readModes? (m : Modes) : Reader Opening := fun cs =>
  let switches := cs.takeWhile fun c => c != ':' && c != ')'
  let on := switches.takeWhile (· != '-')
  let off := switches.drop (on.length + 1)
  let modes := m.switch on off
  if !(on ++ off).all Modes.letters.contains || !decide (on ++ off).Nodup
      || switches.getLast? == some '-' then none
  else
    match cs.drop switches.length with
    | ':' :: rest => some (.group modes, rest)
    | ')' :: rest => if switches.isEmpty then none else some (.modes modes, rest)
    | _ => none

def readOpening? (m : Modes) : Reader Opening := fun cs =>
  match m.skip cs with
  | '?' :: 'P' :: '<' :: rest => readGroupName? rest
  | '?' :: '<' :: rest => readGroupName? rest
  | '?' :: rest => readModes? m rest
  | rest => some (.group m, rest)

/-! ## Patterns -/

structure Scope where
  /-- The modes of what comes next. -/
  modes : Modes
  /-- The depths of the branches that are complete. -/
  branches : List Nat
  /-- The depths of the items of the last branch, the last one first. New modes are an item that has
  none and cannot be repeated. -/
  items : List (Option Nat)
  deriving DecidableEq, Repr

namespace Scope

def opened (modes : Modes) : Scope := ⟨modes, [], []⟩

def add (s : Scope) (depth : Nat) : Scope := { s with items := some depth :: s.items }

def branchDepth (s : Scope) : Nat := joinedDepth (s.items.map (·.getD 0))

def branch (s : Scope) : Scope := ⟨s.modes, s.branchDepth :: s.branches, []⟩

def depth (s : Scope) : Nat := joinedDepth s.branch.branches

def addElement? (s : Scope) (e : Element) : Option Scope :=
  if e.isItem s.modes then some (s.add 0) else none

def repeat? (s : Scope) : Option Scope :=
  match s.items with
  | some depth :: items => some { s with items := some (1 + depth) :: items }
  | _ => none

end Scope

structure Draft where
  /-- The innermost open group, or the pattern as a whole. -/
  scope : Scope
  /-- What is around it, the next one first. -/
  outer : List Scope
  /-- The names of groups. -/
  names : List (List Char)
  deriving DecidableEq, Repr

namespace Draft

def start : Draft := ⟨.opened .atStart, [], []⟩

def enter (d : Draft) (modes : Modes) : Draft :=
  { d with scope := .opened modes, outer := d.scope :: d.outer }

/-- Begins what a parenthesis begins. No two groups have the same name. -/
def begin? (d : Draft) : Opening → Option Draft
  | .group modes => some (d.enter modes)
  | .named name =>
    if d.names.contains name then none
    else some { d.enter d.scope.modes with names := name :: d.names }
  | .modes modes =>
    some { d with scope := { d.scope with modes, items := none :: d.scope.items } }

def finish? (d : Draft) : Option Draft :=
  match d.outer with
  | [] => none
  | around :: outer => some { d with scope := around.add (1 + d.scope.depth), outer }

def step? (d : Draft) (c : Char) : Reader Draft := fun cs =>
  if c = '(' then do
    let (opening, rest) ← readOpening? d.scope.modes cs
    return (← d.begin? opening, rest)
  else if c = ')' then do
    return (← d.finish?, cs)
  else if c = '|' then some ({ d with scope := d.scope.branch }, cs)
  else if c = '[' then do
    let (depth, rest) ← readClass? d.scope.modes cs
    return ({ d with scope := d.scope.add depth }, rest)
  else if c = '?' || c = '*' || c = '+' then do
    return ({ d with scope := ← d.scope.repeat? }, if cs.head? = some '?' then cs.tail else cs)
  else if c = '{' then none
  else do
    let (element, rest) ← readElement? d.scope.modes c cs
    return ({ d with scope := ← d.scope.addElement? element }, rest)

/-- Reads part after part to the end of a text; `limit` bounds their number. -/
def read? : (limit : Nat) → Draft → List Char → Option Draft
  | limit, d, cs =>
    match d.scope.modes.skip cs, limit with
    | [], _ => some d
    | _ :: _, 0 => none
    | c :: rest, limit + 1 => do
      let (d, rest) ← d.step? c rest
      read? limit d rest

/-- Whether a pattern is complete: no group is open, and it is not nested too deep. -/
def isComplete (d : Draft) : Bool := d.outer.isEmpty && d.scope.depth ≤ maxDepth

end Draft

end RemediationLedger.Pattern

namespace RemediationLedger

def isPattern (cs : List Char) : Bool :=
  (Pattern.Draft.read? cs.length .start cs).any Pattern.Draft.isComplete

end RemediationLedger
