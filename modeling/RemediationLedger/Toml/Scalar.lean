/-
The numbers and dates of TOML.

An underscore may stand between two digits. An integer has to fit into 64 bits
with its sign, and only a decimal one may have a sign. A number with a fraction
or an exponent must not be larger than every double. A date must be one of the
calendar.

Settings have no number with a fraction and no date, but a document with one of
them may be a good document all the same, and one with a bad date is not. So
these values are read for their form, and of what they say only the kind is kept
in a node. `isDouble` compares exactly, in natural numbers, where a number is
too large.

`scalar` tries a date first, because the year of a date would do for an integer.
A text that looks like a date and is none is then read as an integer, with
something behind it that belongs nowhere, and the document is refused all the
same.
-/
import RemediationLedger.Calendar.Date
import RemediationLedger.Text.Word
import RemediationLedger.Toml.Node
import RemediationLedger.Toml.Text

namespace RemediationLedger.Toml

/-! ## Digits -/

/-- Reads one or more digits with single underscores between them, and drops the underscores. -/
def digits (isDigit : Char → Bool) : Scan (List Char)
  | [] => none
  | c :: rest =>
    if !isDigit c then none
    else
      match rest with
      | '_' :: c' :: rest' =>
        if isDigit c' then
          (digits isDigit (c' :: rest')).map fun (more, after) => (c :: more, after)
        else some ([c], rest)
      | c' :: rest' =>
        if isDigit c' then
          (digits isDigit (c' :: rest')).map fun (more, after) => (c :: more, after)
        else some ([c], rest)
      | [] => some ([c], [])

def sign : List Char → Bool × List Char
  | '+' :: rest => (false, rest)
  | '-' :: rest => (true, rest)
  | cs => (false, cs)

/-- Reads the digits of a decimal number, which starts with a zero only if it is one. -/
def wholeDigits (cs : List Char) : Option (List Char × List Char) :=
  match cs with
  | '0' :: rest => some (['0'], rest)
  | _ => digits Char.isDigit cs

/-! ## Integers -/

/-- Reads a number in the given base and accepts it if it fits into 64 bits with a sign. -/
def based (base : Nat) (isDigit : Char → Bool) (cs : List Char) : Option (Node × List Char) := do
  let (ds, rest) ← digits isDigit cs
  let value (c : Char) : Nat :=
    if c.isDigit then c.toNat - 48 else if c.isLower then c.toNat - 87 else c.toNat - 55
  let n := ds.foldl (fun n c => base * n + value c) 0
  if FitsWord n then return (.integer n, rest) else none

def isHexDigit (c : Char) : Bool :=
  c.isDigit || ('a' ≤ c && c ≤ 'f') || ('A' ≤ c && c ≤ 'F')

def integer : Scan Node
  | '0' :: 'x' :: rest => based 16 isHexDigit rest
  | '0' :: 'o' :: rest => based 8 (fun c => '0' ≤ c && c ≤ '7') rest
  | '0' :: 'b' :: rest => based 2 (fun c => c == '0' || c == '1') rest
  | cs => do
    let (negative, rest) := sign cs
    let (ds, rest) ← wholeDigits rest
    let n : Int := digitsValue ds
    let i := if negative then -n else n
    if FitsWord i then return (.integer i, rest) else none

/-! ## Numbers with a fraction or an exponent -/

/-- Whether `n * 10 ^ e` rounds to a double, half of the last place going up. -/
def isDouble (n : Nat) (e : Int) : Bool :=
  let bound := (Nat.pow 2 54 - 1) * Nat.pow 2 970
  let size : Int := (Nat.toDigits 10 n).length + e
  if n = 0 ∨ size < 300 then true
  else if 320 < size then false
  else if 0 ≤ e then n * Nat.pow 10 e.toNat < bound
  else n < bound * Nat.pow 10 (-e).toNat

def exponent? : Scan Int
  | c :: rest =>
    if c = 'e' ∨ c = 'E' then do
      let (negative, rest) := sign rest
      let (ds, rest) ← digits Char.isDigit rest
      let n : Int := digitsValue ds
      return (if negative then -n else n, rest)
    else none
  | [] => none

def real (cs : List Char) : Option (Node × List Char) := do
  let (negative, rest) := sign cs
  match rest with
  | 'i' :: 'n' :: 'f' :: rest => return (.real, rest)
  | 'n' :: 'a' :: 'n' :: rest => return (.real, rest)
  | _ =>
    let (whole, rest) ← wholeDigits rest
    let finish (ds : List Char) (e : Int) (rest : List Char) : Option (Node × List Char) :=
      if negative || isDouble (digitsValue ds) e then some (.real, rest) else none
    match rest with
    | '.' :: rest =>
      let (fraction, rest) ← digits Char.isDigit rest
      let ds := whole ++ fraction
      match exponent? rest with
      | some (e, rest) => finish ds (e - fraction.length) rest
      | none => finish ds (-fraction.length) rest
    | _ =>
      let (e, rest) ← exponent? rest
      finish whole e rest

/-! ## Dates and times -/

def fixedDigits (count : Nat) (cs : List Char) : Option (Nat × List Char) :=
  let ds := cs.take count
  if ds.length = count ∧ ds.all Char.isDigit then some (digitsValue ds, cs.drop count) else none

/-- Reads a number of two digits up to a bound. -/
def twoDigits (bound : Nat) (cs : List Char) : Option (Nat × List Char) := do
  let (n, rest) ← fixedDigits 2 cs
  if n ≤ bound then return (n, rest) else none

def expect? (c : Char) : List Char → Option (List Char)
  | [] => none
  | c' :: rest => if c' = c then some rest else none

/-- The text behind a time of day. A minute may have a leap second. -/
def timeOfDay? (cs : List Char) : Option (List Char) := do
  let (_, rest) ← twoDigits 23 cs
  let (_, rest) ← twoDigits 59 (← expect? ':' rest)
  let (_, rest) ← twoDigits 60 (← expect? ':' rest)
  match rest with
  | '.' :: fraction =>
    if (fraction.takeWhile Char.isDigit).isEmpty then return rest
    else return fraction.dropWhile Char.isDigit
  | _ => return rest

/-- The text behind an offset from UTC, if there is one. -/
def dropOffset (cs : List Char) : List Char :=
  let signed (rest : List Char) : Option (List Char) := do
    let (_, rest) ← twoDigits 23 rest
    let (_, rest) ← twoDigits 59 (← expect? ':' rest)
    return rest
  match cs with
  | 'Z' :: rest => rest
  | 'z' :: rest => rest
  | '+' :: rest => (signed rest).getD cs
  | '-' :: rest => (signed rest).getD cs
  | _ => cs

def date? (cs : List Char) : Option (List Char) := do
  let (year, rest) ← fixedDigits 4 cs
  let (month, rest) ← fixedDigits 2 (← expect? '-' rest)
  let (day, rest) ← fixedDigits 2 (← expect? '-' rest)
  if IsDate year month day then return rest else none

/-- The text behind the time of day that follows a date, if one does. -/
def dropTime (cs : List Char) : List Char :=
  match cs with
  | c :: rest =>
    if c = 'T' ∨ c = 't' ∨ c = ' ' then
      match timeOfDay? rest with
      | some rest => dropOffset rest
      | none => cs
    else cs
  | [] => []

def moment (cs : List Char) : Option (Node × List Char) :=
  match date? cs with
  | some rest => some (.moment, dropTime rest)
  | none => (timeOfDay? cs).map fun rest => (.moment, rest)

/-! ## Scalars -/

/-- Reads a value that consists of no others. What could be a date is one. -/
def scalar (cs : List Char) : Option (Node × List Char) :=
  match cs with
  | [] => none
  | c :: _ =>
    if c = '"' ∨ c = '\x27' then (string cs).map fun (s, rest) => (.text s, rest)
    else
      match cs with
      | 't' :: 'r' :: 'u' :: 'e' :: rest => some (.boolean true, rest)
      | 'f' :: 'a' :: 'l' :: 's' :: 'e' :: rest => some (.boolean false, rest)
      | _ => moment cs <|> real cs <|> integer cs

end RemediationLedger.Toml
