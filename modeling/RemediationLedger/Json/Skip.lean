/-
Passing over a value without keeping it.

What a record does not know is passed over, however deeply it nests. The reader
is a pushdown machine: it moves on by one character at a time, its stack holds
the lists and objects that are open, and its state says what may come next. So
it needs no recursion of its own and no bound on the nesting. It is more lenient
than reading: surrogates need no partner. And it is stricter in one point: a
number that stops too early is malformed, not truncated.

* `move` is the machine's table, one row for each state. `startValue`,
  `startKey`, `separate` and `endNumber` are the parts of it that several states
  share.
* `skipFrom` runs the table over a text. It is a recursion on the text, one
  character a step, so there is nothing to prove for it to end.
* `atEnd` says what the end of the text means in each state.

That the machine passes over exactly the values of JSON, and ends where the
value does, is proved in `Proofs.SkippedTexts`. There a run is followed value by
value, with whatever is on the stack below left alone.
-/
import RemediationLedger.Json.Text

namespace RemediationLedger.Json

inductive Frame where
  | list
  | object
  deriving DecidableEq, Repr

inductive Expect where
  /-- A value. -/
  | value
  /-- A value, or the end of a list that has just begun. -/
  | firstElement
  /-- A key, or the end of an object that has just begun. -/
  | firstKey
  /-- A key. -/
  | key
  /-- The colon behind a key. -/
  | colon
  /-- A comma or the end of what is open. -/
  | separator
  /-- More of a string, which is a key or a value. -/
  | text (isKey : Bool)
  /-- The rest of an escape. -/
  | escape (isKey : Bool)
  /-- So many hexadecimal digits of an escape. -/
  | unit (isKey : Bool) (digits : Nat)
  /-- The rest of a literal name. -/
  | word (letters : List Char)
  /-- The first digit of a number. -/
  | whole
  /-- What may follow a leading zero. -/
  | afterZero
  /-- More digits of a whole number, or what may follow them. -/
  | wholeDigits
  /-- The first digit behind a decimal point. -/
  | fraction
  /-- More digits behind a decimal point, or what may follow them. -/
  | fractionDigits
  /-- The sign or the first digit of an exponent. -/
  | exponent
  /-- The first digit of an exponent behind its sign. -/
  | exponentDigit
  /-- More digits of an exponent, or the end of the number. -/
  | exponentDigits
  deriving DecidableEq, Repr

inductive Move where
  /-- The character is taken and the machine goes on. -/
  | go (stack : List Frame) (next : Expect)
  /-- The character is the last one of the outermost value. -/
  | finish
  /-- The outermost value, a number, ended before the character. -/
  | finishBefore
  | fail (e : Fault)
  deriving DecidableEq, Repr

def Move.complete : List Frame → Move
  | [] => .finish
  | stack => .go stack .separator

def startValue (stack : List Frame) (c : Char) : Move :=
  if isGap c then .go stack .value
  else if c = '"' then .go stack (.text false)
  else if c = '[' then .go (.list :: stack) .firstElement
  else if c = '{' then .go (.object :: stack) .firstKey
  else if c = 'n' then .go stack (.word ['u', 'l', 'l'])
  else if c = 't' then .go stack (.word ['r', 'u', 'e'])
  else if c = 'f' then .go stack (.word ['a', 'l', 's', 'e'])
  else if c = '-' then .go stack .whole
  else if c = '0' then .go stack .afterZero
  else if c.isDigit then .go stack .wholeDigits
  else .fail .malformed

def startKey (stack : List Frame) (c : Char) : Move :=
  if isGap c then .go stack .key
  else if c = '"' then .go stack (.text true)
  else .fail .malformed

def separate (stack : List Frame) (c : Char) : Move :=
  if isGap c then .go stack .separator
  else
    match stack with
    | .list :: outer =>
      if c = ',' then .go stack .value
      else if c = ']' then .complete outer
      else .fail .malformed
    | .object :: outer =>
      if c = ',' then .go stack .key
      else if c = '}' then .complete outer
      else .fail .malformed
    | [] => .finishBefore

/-- A character that is no part of the number before it. -/
def endNumber : List Frame → Char → Move
  | [], _ => .finishBefore
  | stack, c => separate stack c

/-- What the character `c`, with `rest` behind it, does to the machine. -/
def move (stack : List Frame) (c : Char) (rest : List Char) : Expect → Move
  | .value => startValue stack c
  | .firstElement =>
    if isGap c then .go stack .firstElement
    else if c = ']' then .complete stack.tail
    else startValue stack c
  | .firstKey =>
    if isGap c then .go stack .firstKey
    else if c = '}' then .complete stack.tail
    else startKey stack c
  | .key => startKey stack c
  | .colon =>
    if isGap c then .go stack .colon
    else if c = ':' then .go stack .value
    else .fail .malformed
  | .separator => separate stack c
  | .text isKey =>
    if c = '"' then (if isKey then .go stack .colon else .complete stack)
    else if c = '\\' then .go stack (.escape isKey)
    else if c.toNat < 0x20 then .fail .malformed
    else .go stack (.text isKey)
  | .escape isKey =>
    if c = 'u' then (if hasBytes 4 rest then .go stack (.unit isKey 3) else .fail .truncated)
    else if (shortEscape? c).isSome then .go stack (.text isKey)
    else .fail .malformed
  | .unit isKey digits =>
    if (hexValue? c).isNone then .fail .malformed
    else
      match digits with
      | 0 => .go stack (.text isKey)
      | more + 1 => .go stack (.unit isKey more)
  | .word [] => .fail .malformed
  | .word (letter :: letters) =>
    if c ≠ letter then .fail .malformed
    else if letters.isEmpty then .complete stack
    else .go stack (.word letters)
  | .whole =>
    if c = '0' then .go stack .afterZero
    else if c.isDigit then .go stack .wholeDigits
    else .fail .malformed
  | .afterZero =>
    if c.isDigit then .fail .malformed
    else if c = '.' then .go stack .fraction
    else if c = 'e' ∨ c = 'E' then .go stack .exponent
    else endNumber stack c
  | .wholeDigits =>
    if c.isDigit then .go stack .wholeDigits
    else if c = '.' then .go stack .fraction
    else if c = 'e' ∨ c = 'E' then .go stack .exponent
    else endNumber stack c
  | .fraction => if c.isDigit then .go stack .fractionDigits else .fail .malformed
  | .fractionDigits =>
    if c.isDigit then .go stack .fractionDigits
    else if c = 'e' ∨ c = 'E' then .go stack .exponent
    else endNumber stack c
  | .exponent =>
    if c = '+' ∨ c = '-' then .go stack .exponentDigit
    else if c.isDigit then .go stack .exponentDigits
    else .fail .malformed
  | .exponentDigit => if c.isDigit then .go stack .exponentDigits else .fail .malformed
  | .exponentDigits => if c.isDigit then .go stack .exponentDigits else endNumber stack c

/-- The end of the text: a number outside everything may end here, and one that lacks digits is
malformed. -/
def atEnd (stack : List Frame) : Expect → Except Fault (List Char)
  | .whole | .fraction | .exponent | .exponentDigit => .error .malformed
  | .afterZero | .wholeDigits | .fractionDigits | .exponentDigits =>
    if stack.isEmpty then .ok [] else .error .truncated
  | _ => .error .truncated

/-- Runs the machine and returns what follows the outermost value. -/
def skipFrom (stack : List Frame) (expect : Expect) : List Char → Except Fault (List Char)
  | [] => atEnd stack expect
  | c :: rest =>
    match move stack c rest expect with
    | .go stack' next => skipFrom stack' next rest
    | .finish => .ok rest
    | .finishBefore => .ok (c :: rest)
    | .fail e => .error e

def skipValue (cs : List Char) : Except Fault (List Char) := skipFrom [] .value cs

end RemediationLedger.Json
