/-
The texts of TOML: blanks, comments, keys and strings.

A string stands on one line in single quotation marks or on several in triple
ones. Within double marks a backslash starts an escape, within apostrophes
everything stands for itself.

* `Scan` is the type of the readers of this format. There are no faults to tell
  apart, so a scanner has a result or none.
* The functions for layout come in two kinds: blanks within a line, and blanks,
  comments and line ends together. A line end is a line feed, maybe behind a
  carriage return, and a carriage return alone is none.
* Strings of several lines may hold quotation marks, up to two in a row, and up
  to two more may stand before the closing three; `splitMarks` divides a run of
  them.

Loops over characters take a limit, the length of the text. It is never reached,
since every round takes a character.
-/
import RemediationLedger.Text.Hexadecimal

namespace RemediationLedger.Toml

/-- A scanner takes something from the front of a text, if it is there, and returns what follows. -/
abbrev Scan (α : Type) : Type := List Char → Option (α × List Char)

/-! ## Blanks and comments -/

def isSpace (c : Char) : Bool := c == ' ' || c == '\t'

def dropSpaces (cs : List Char) : List Char := cs.dropWhile isSpace

def newline? : List Char → Option (List Char)
  | '\n' :: rest => some rest
  | '\r' :: '\n' :: rest => some rest
  | _ => none

/-- Whether a character may stand in a comment: no control but the tab. -/
def isVisible (c : Char) : Bool := c == '\t' || (0x20 ≤ c.toNat && c.toNat != 0x7F)

def dropComment (cs : List Char) : List Char :=
  match dropSpaces cs with
  | '#' :: rest => rest.dropWhile isVisible
  | rest => rest

/-- The text behind the rest of a line, on which there may be a comment and nothing else. -/
def endLine? (cs : List Char) : Option (List Char) :=
  match dropComment cs with
  | [] => some []
  | rest => newline? rest

/-- The text behind blanks, comments and line ends; `limit` bounds the number of lines. -/
def dropLines : (limit : Nat) → List Char → List Char
  | 0, cs => cs
  | limit + 1, cs =>
    let rest := dropComment cs
    match newline? rest with
    | some after => dropLines limit after
    | none => rest

def dropLayout (cs : List Char) : List Char := dropLines cs.length cs

/-! ## Escapes -/

def escape : Scan Char
  | 'b' :: rest => some ('\x08', rest)
  | 't' :: rest => some ('\t', rest)
  | 'n' :: rest => some ('\n', rest)
  | 'f' :: rest => some ('\x0c', rest)
  | 'r' :: rest => some ('\r', rest)
  | '"' :: rest => some ('"', rest)
  | '\\' :: rest => some ('\\', rest)
  | 'u' :: rest => unicode 4 rest
  | 'U' :: rest => unicode 8 rest
  | _ => none
where
  /-- Reads a code point in so many hexadecimal digits. -/
  unicode (count : Nat) (cs : List Char) : Option (Char × List Char) := do
    if cs.length < count then none
    let n ← hexNumber? (cs.take count)
    return (← charOf? n, cs.drop count)

/-! ## Strings

The functions below read up to the closing marks; `limit` bounds the number of characters and
escapes. -/

/-- Reads a string of one line in double marks, behind the opening mark. -/
def basicFrom : (limit : Nat) → Scan (List Char)
  | 0, _ => none
  | _ + 1, [] => none
  | limit + 1, c :: rest =>
    if c = '"' then some ([], rest)
    else if c = '\\' then do
      let (c', rest) ← escape rest
      let (more, rest) ← basicFrom limit rest
      return (c' :: more, rest)
    else if isVisible c then do
      let (more, rest) ← basicFrom limit rest
      return (c :: more, rest)
    else none

def literal (cs : List Char) : Option (List Char × List Char) :=
  let isPlain c := isVisible c && c != '\x27'
  match cs.dropWhile isPlain with
  | '\x27' :: rest => some (cs.takeWhile isPlain, rest)
  | _ => none

/-- What a run of quotation marks does within triple marks: how many of them belong to the text,
and whether the others close it. Up to two marks may stand before the closing three. -/
def splitMarks (count : Nat) : Nat × Bool :=
  if count < 3 then (count, false) else (min (count - 3) 2, true)

/-- The text behind a backslash at the end of a line, the blanks and line ends that follow it
included. -/
def dropFold? (cs : List Char) : Option (List Char) :=
  match newline? (dropSpaces cs) with
  | none => none
  | some rest => some (blankLines rest.length rest)
where
  /-- The text behind blanks and line ends. -/
  blankLines : (limit : Nat) → List Char → List Char
    | 0, cs => cs
    | limit + 1, cs =>
      match newline? (dropSpaces cs) with
      | some rest => blankLines limit rest
      | none => dropSpaces cs

/-- Reads a string of several lines between triple marks, behind the opening ones. -/
def multilineFrom (mark : Char) (escapes : Bool) : (limit : Nat) → Scan (List Char)
  | 0, _ => none
  | _ + 1, [] => none
  | limit + 1, c :: rest =>
    let go (cs : List Char) (rest : List Char) : Option (List Char × List Char) := do
      let (more, rest) ← multilineFrom mark escapes limit rest
      return (cs ++ more, rest)
    if c = mark then
      let (kept, closes) := splitMarks ((c :: rest).takeWhile (· == mark)).length
      let text := List.replicate kept mark
      if closes then some (text, (c :: rest).drop (kept + 3))
      else go text ((c :: rest).drop kept)
    else if c = '\\' ∧ escapes then
      match dropFold? rest with
      | some rest => go [] rest
      | none => do
        let (c', rest) ← escape rest
        go [c'] rest
    else
      match newline? (c :: rest) with
      | some rest => go ['\n'] rest
      | none => if isVisible c then go [c] rest else none

def dropFirstNewline (cs : List Char) : List Char := (newline? cs).getD cs

def string : Scan String
  | '"' :: '"' :: '"' :: rest => do
    let (s, after) ← multilineFrom '"' true (rest.length + 1) (dropFirstNewline rest)
    return (String.ofList s, after)
  | '\x27' :: '\x27' :: '\x27' :: rest => do
    let (s, after) ← multilineFrom '\x27' false (rest.length + 1) (dropFirstNewline rest)
    return (String.ofList s, after)
  | '"' :: rest => do
    let (s, after) ← basicFrom (rest.length + 1) rest
    return (String.ofList s, after)
  | '\x27' :: rest => do
    let (s, after) ← literal rest
    return (String.ofList s, after)
  | _ => none

/-! ## Keys -/

def isBare (c : Char) : Bool := c.isAlphanum || c == '_' || c == '-'

def keyPart : Scan String
  | '"' :: rest => do
    let (s, after) ← basicFrom (rest.length + 1) rest
    return (String.ofList s, after)
  | '\x27' :: rest => do
    let (s, after) ← literal rest
    return (String.ofList s, after)
  | cs =>
    if (cs.takeWhile isBare).isEmpty then none
    else some (String.ofList (cs.takeWhile isBare), cs.dropWhile isBare)

/-- The number of parts that a key must stay below, and of lists and tables in braces that may not
be nested in one another. -/
def depthLimit : Nat := 80

/-- Reads the parts of a key with the dots between them; `limit` bounds their number. -/
def keyParts : (limit : Nat) → Scan (List String)
  | 0, _ => none
  | limit + 1, cs => do
    let (part, rest) ← keyPart (dropSpaces cs)
    match dropSpaces rest with
    | '.' :: rest => do
      let (more, rest) ← keyParts limit rest
      return (part :: more, rest)
    | rest => return ([part], rest)

/-- Reads a key: the path to its table and its last part. -/
def key (cs : List Char) : Option ((List String × String) × List Char) := do
  let (parts, rest) ← keyParts (depthLimit - 1) cs
  let last ← parts.getLast?
  return ((parts.dropLast, last), rest)

end RemediationLedger.Toml
