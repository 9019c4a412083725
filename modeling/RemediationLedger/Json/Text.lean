/-
JSON strings: writing them, by themselves and as the members of an object, and
reading what stands between the quotes.

`quote` writes a text, and only the quote, the backslash and the control
characters need an escape; a character beyond ASCII stands for itself.
`quoteMembers` writes an object whose members are texts, in the order given, as
a request is written, and the fields of an event.

`unquote` reads behind an opening quote. A character beyond U+FFFF may be
written as two escapes that make a surrogate pair; after the first of them the
reader carries it along and accepts nothing but the second. Reading is therefore
more lenient than writing: every character has several spellings, and what they
all are is the subject of `Proofs.SpelledTexts`.

The three readers call one another, and each call is on a shorter text. A text
that is too short for an escape is told by the number of bytes that are left
(`hasBytes`), since it decides whether the text is malformed or stops too early.
-/
import RemediationLedger.Json.Fault
import RemediationLedger.Text.Hexadecimal

namespace RemediationLedger.Json

/-! ## Writing -/

def hexDigit (n : Nat) : Char := if n < 10 then Char.ofNat (48 + n) else Char.ofNat (87 + n)

/-- A character as it is written between quotes. Only the quote, the backslash and the controls
are escaped. -/
def quoteChar (c : Char) : List Char :=
  if c = '"' then ['\\', '"']
  else if c = '\\' then ['\\', '\\']
  else if c = '\n' then ['\\', 'n']
  else if c = '\r' then ['\\', 'r']
  else if c = '\t' then ['\\', 't']
  else if c = '\x08' then ['\\', 'b']
  else if c = '\x0c' then ['\\', 'f']
  else if c.toNat < 0x20 then
    ['\\', 'u', '0', '0', hexDigit (c.toNat / 16), hexDigit (c.toNat % 16)]
  else [c]

def quote (s : String) : List Char := '"' :: s.toList.flatMap quoteChar ++ ['"']

def quoteList : List (String × String) → List Char
  | [] => []
  | [(name, value)] => quote name ++ ':' :: quote value
  | (name, value) :: rest => quote name ++ ':' :: quote value ++ ',' :: quoteList rest

def quoteMembers (members : List (String × String)) : List Char :=
  '{' :: quoteList members ++ ['}']

/-! ## Reading -/

def shortEscape? (c : Char) : Option Char :=
  if c = '"' then some '"'
  else if c = '\\' then some '\\'
  else if c = '/' then some '/'
  else if c = 'b' then some '\x08'
  else if c = 'f' then some '\x0c'
  else if c = 'n' then some '\n'
  else if c = 'r' then some '\r'
  else if c = 't' then some '\t'
  else none

def unitValue? (a b c d : Char) : Option Nat := do
  return ((← hexValue? a) * 16 + (← hexValue? b)) * 256
    + (← hexValue? c) * 16 + (← hexValue? d)

/-- Whether the UTF-8 form of a text has at least `n` bytes. -/
def hasBytes : (n : Nat) → List Char → Bool
  | 0, _ => true
  | _ + 1, [] => false
  | n + 1, c :: rest => hasBytes (n + 1 - c.utf8Size) rest
termination_by _ cs => cs.length

def isLeading (n : Nat) : Bool := 0xD800 ≤ n && n < 0xDC00

def isTrailing (n : Nat) : Bool := 0xDC00 ≤ n && n < 0xE000

/-- Puts a character in front of what was read after it. -/
def prepend (c : Char) : Except Fault (List Char × List Char) → Except Fault (List Char × List Char)
  | .ok (cs, rest) => .ok (c :: cs, rest)
  | .error e => .error e

mutual

/-- Reads up to the closing quote. `lead` is the first half of a surrogate pair whose second half
must come next. -/
def unquoteAfter (lead : Option Nat) : Reader (List Char)
  | [] => .error .truncated
  | c :: rest =>
    if c = '\\' then unescape lead rest
    else if lead.isSome then .error .malformed
    else if c = '"' then .ok ([], rest)
    else if c.toNat < 0x20 then .error .malformed
    else prepend c (unquoteAfter none rest)

def unescape (lead : Option Nat) : Reader (List Char)
  | [] => .error .truncated
  | c :: rest =>
    if c = 'u' then unescapeUnit lead rest
    else if lead.isSome then .error .malformed
    else
      match shortEscape? c with
      | none => .error .malformed
      | some c' => prepend c' (unquoteAfter none rest)

def unescapeUnit (lead : Option Nat) : Reader (List Char)
  | a :: b :: c :: d :: rest =>
    match unitValue? a b c d with
    | none => .error .malformed
    | some n =>
      match lead with
      | some high =>
        if isTrailing n then
          prepend (Char.ofNat (0x10000 + (high - 0xD800) * 0x400 + (n - 0xDC00)))
            (unquoteAfter none rest)
        else .error .malformed
      | none =>
        if isTrailing n then .error .malformed
        else if isLeading n then unquoteAfter (some n) rest
        else prepend (Char.ofNat n) (unquoteAfter none rest)
  | cs => if hasBytes 4 cs then .error .malformed else .error .truncated

end

/-- Reads the text between quotes, behind the opening one. -/
def unquote : Reader (List Char) := unquoteAfter none

end RemediationLedger.Json
