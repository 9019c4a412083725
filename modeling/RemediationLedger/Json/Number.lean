/-
JSON numbers, and the decimal form in which a number that is no integer is
reported.

A number without point and exponent that fits into 64 bits is an integer. Any
other is a double: the digits that fit into an unsigned 64-bit significand,
times or divided by a power of ten, each step rounded. Minus zero is a double
too, since integers have none.

* Reading is one function for each place in a number: `readUnsigned` behind the
  sign, `readFraction` behind the point, `readExponent` behind its letter. Each
  hands on what was read so far, the sign, the significand and the exponent, and
  the last one makes a number of it.
* Digits beyond the 64 bits are not rounded to but dropped, in a fraction, or
  counted as powers of ten, in a whole number. The double is therefore not
  always the one nearest to the text, and that is how the reports show it.
* `layOut` writes a double as a report does: positional in the middle range and
  with an exponent outside of it.

Doubles matter to reports alone; nothing that the ledger stores is one. The
lemmas at the end say that a number takes something, for the loops of
`Json.Record`.
-/
import RemediationLedger.Decimal.Shortest
import RemediationLedger.Json.Fault
import RemediationLedger.Text.Word

namespace RemediationLedger.Json

inductive Number where
  | integer (i : Int)
  | floating (x : Float)

/-! ## Doubles in decimal -/

/-- An exponent behind its letter, with its sign in either case. -/
def exponentText (e : Int) : List Char :=
  if 0 ≤ e then '+' :: (toString e).toList else (toString e).toList

/-- The digits of a decimal with the point that `s.exponent` says: positional up to sixteen places
before the point and four zeros behind it, with an exponent beyond that. -/
def layOut (s : Decimal.Scientific) : List Char :=
  let digits := Nat.toDigits 10 s.coefficient
  let point : Int := digits.length + s.exponent
  if 0 ≤ s.exponent ∧ point ≤ 16 then
    digits ++ List.replicate s.exponent.toNat '0' ++ ['.', '0']
  else if 0 < point ∧ point ≤ 16 then
    digits.take point.toNat ++ '.' :: digits.drop point.toNat
  else if -5 < point ∧ point ≤ 0 then
    '0' :: '.' :: List.replicate (-point).toNat '0' ++ digits
  else
    let mantissa := match digits with
      | [d] => [d]
      | d :: ds => d :: '.' :: ds
      | [] => []
    mantissa ++ 'e' :: exponentText (point - 1)

def floatText (x : Float) : String :=
  let bits := x.toBits.toNat
  let sign := if bits / 0x8000000000000000 = 1 then ['-'] else []
  let fractionBits := bits % 0x10000000000000
  let exponentBits := bits / 0x10000000000000 % 0x800
  let magnitude :=
    if fractionBits = 0 ∧ exponentBits = 0 then ['0', '.', '0']
    else layOut (Decimal.shortest fractionBits exponentBits)
  String.ofList (sign ++ magnitude)

def Number.found : Number → Found
  | integer i => .integer i
  | floating x => .floating (floatText x)

/-! ## Reading -/

def digitValue (c : Char) : Nat := c.toNat - '0'.toNat

def startsWithDigit : List Char → Bool
  | [] => false
  | c :: _ => c.isDigit

/-- Takes digits into a significand as long as it fits into 64 bits. -/
def takeSignificand (significand : Nat) : List Char → Nat × List Char
  | [] => (significand, [])
  | c :: rest =>
    if c.isDigit ∧ 10 * significand + digitValue c < 0x10000000000000000 then
      takeSignificand (10 * significand + digitValue c) rest
    else (significand, c :: rest)

/-- The power of ten with an exponent up to 308, rounded. -/
def powerOfTen (e : Nat) : Float := Float.ofScientific 1 false e

/-- `x` times a power of ten: one step if the power is a double, else steps of 308 downwards. No
double is that large. -/
def scale (x : Float) (e : Int) : Option Float :=
  if 308 < e then (if x == 0 then some x else none)
  else if 0 ≤ e then
    let y := x * powerOfTen e.toNat
    if y.isInf then none else some y
  else if -308 ≤ e then some (x / powerOfTen (-e).toNat)
  else if x == 0 then some x
  else scale (x / powerOfTen 308) (e + 308)
termination_by (-e).toNat
decreasing_by omega

def assemble (positive : Bool) (significand : Nat) (e : Int) (rest : List Char) :
    Except Fault (Number × List Char) :=
  match scale (UInt64.ofNat significand).toFloat e with
  | none => .error .malformed
  | some x => .ok (.floating (if positive then x else -x), rest)

/-- Reads the digits of an exponent behind its sign. One that fits into no 31 bits makes zero of a
negative power and of the significand zero. -/
def readPower (positive : Bool) (significand : Nat) (e : Int) (negative : Bool) (cs : List Char) :
    Except Fault (Number × List Char) :=
  let power := digitsValue (cs.takeWhile Char.isDigit)
  let rest := cs.dropWhile Char.isDigit
  if cs.isEmpty then .error .truncated
  else if !startsWithDigit cs then .error .malformed
  else if 0x80000000 ≤ power then
    if significand ≠ 0 ∧ !negative then .error .malformed
    else .ok (.floating (if positive then 0 else -0.0), rest)
  else assemble positive significand (if negative then e - power else e + power) rest

def readExponent (positive : Bool) (significand : Nat) (e : Int) :
    List Char → Except Fault (Number × List Char)
  | '+' :: rest => readPower positive significand e false rest
  | '-' :: rest => readPower positive significand e true rest
  | cs => readPower positive significand e false cs

def readTail (positive : Bool) (significand : Nat) (e : Int) :
    List Char → Except Fault (Number × List Char)
  | [] => assemble positive significand e []
  | c :: rest =>
    if c = 'e' ∨ c = 'E' then readExponent positive significand e rest
    else assemble positive significand e (c :: rest)

/-- Reads the digits behind a decimal point. Those that the significand has no room for are
dropped. -/
def readFraction (positive : Bool) (significand : Nat) (e : Int) (cs : List Char) :
    Except Fault (Number × List Char) :=
  let (significand', rest) := takeSignificand significand cs
  let e' := e - (cs.length - rest.length : Nat)
  if startsWithDigit rest then readTail positive significand' e' (rest.dropWhile Char.isDigit)
  else if rest.length = cs.length then
    (if rest.isEmpty then .error .truncated else .error .malformed)
  else readTail positive significand' e' rest

def readAfterWhole (positive : Bool) (significand : Nat) (cs : List Char) :
    Except Fault (Number × List Char) :=
  match cs with
  | '.' :: rest => readFraction positive significand 0 rest
  | 'e' :: rest => readExponent positive significand 0 rest
  | 'E' :: rest => readExponent positive significand 0 rest
  | _ =>
    if positive then .ok (.integer significand, cs)
    else if 1 ≤ significand ∧ significand ≤ 0x8000000000000000 then .ok (.integer (-significand), cs)
    else assemble false significand 0 cs

/-- Reads a number behind its sign. Whole digits that the significand has no room for count as
powers of ten. -/
def readUnsigned (positive : Bool) : List Char → Except Fault (Number × List Char)
  | [] => .error .truncated
  | c :: cs =>
    if c = '0' then
      (if startsWithDigit cs then .error .malformed else readAfterWhole positive 0 cs)
    else if c.isDigit then
      let (significand, rest) := takeSignificand (digitValue c) cs
      if startsWithDigit rest then
        let e := (rest.takeWhile Char.isDigit).length
        match rest.dropWhile Char.isDigit with
        | '.' :: rest => readFraction positive significand e rest
        | rest => readTail positive significand e rest
      else readAfterWhole positive significand rest
    else .error .malformed

def readNumber : Reader Number
  | '-' :: rest => readUnsigned false rest
  | cs => readUnsigned true cs

/-! ## A number takes something -/

theorem length_takeSignificand_le (significand : Nat) (cs : List Char) :
    (takeSignificand significand cs).2.length ≤ cs.length := by
  induction cs generalizing significand with
  | nil => exact Nat.le_refl _
  | cons c rest ih =>
    rw [takeSignificand]
    split
    · exact Nat.le_succ_of_le (ih _)
    · exact Nat.le_refl _

theorem length_dropDigits_le (cs : List Char) :
    (cs.dropWhile Char.isDigit).length ≤ cs.length :=
  (List.dropWhile_suffix Char.isDigit).length_le

theorem eq_of_assemble {positive : Bool} {significand : Nat} {e : Int} {cs rest : List Char}
    {n : Number} (h : assemble positive significand e cs = .ok (n, rest)) : rest = cs := by
  unfold assemble at h
  split at h
  · cases h
  · cases h; rfl

theorem length_le_of_readExponent {positive : Bool} {significand : Nat} {e : Int}
    {cs rest : List Char} {n : Number}
    (h : readExponent positive significand e cs = .ok (n, rest)) : rest.length ≤ cs.length := by
  have unsigned {negative : Bool} {cs : List Char}
      (h : readPower positive significand e negative cs = .ok (n, rest)) :
      rest.length ≤ cs.length := by
    have := length_dropDigits_le cs
    simp only [readPower] at h
    split at h
    · cases h
    · split at h
      · cases h
      · split at h
        · split at h
          · cases h
          · cases h; exact this
        · rw [eq_of_assemble h]; exact this
  unfold readExponent at h
  split at h
  · exact Nat.le_succ_of_le (unsigned h)
  · exact Nat.le_succ_of_le (unsigned h)
  · exact unsigned h

theorem length_le_of_readTail {positive : Bool} {significand : Nat} {e : Int}
    {cs rest : List Char} {n : Number}
    (h : readTail positive significand e cs = .ok (n, rest)) : rest.length ≤ cs.length := by
  unfold readTail at h
  split at h
  · exact Nat.le_of_eq (congrArg List.length (eq_of_assemble h))
  · split at h
    · exact Nat.le_succ_of_le (length_le_of_readExponent h)
    · exact Nat.le_of_eq (congrArg List.length (eq_of_assemble h))

theorem length_le_of_readFraction {positive : Bool} {significand : Nat} {e : Int}
    {cs rest : List Char} {n : Number}
    (h : readFraction positive significand e cs = .ok (n, rest)) : rest.length ≤ cs.length := by
  have htake := length_takeSignificand_le significand cs
  simp only [readFraction] at h
  split at h
  · have := length_le_of_readTail h
    have := length_dropDigits_le (takeSignificand significand cs).2
    omega
  · split at h
    · split at h <;> cases h
    · have := length_le_of_readTail h
      omega

theorem length_le_of_readAfterWhole {positive : Bool} {significand : Nat} {cs rest : List Char}
    {n : Number} (h : readAfterWhole positive significand cs = .ok (n, rest)) :
    rest.length ≤ cs.length := by
  unfold readAfterWhole at h
  split at h
  · exact Nat.le_succ_of_le (length_le_of_readFraction h)
  · exact Nat.le_succ_of_le (length_le_of_readExponent h)
  · exact Nat.le_succ_of_le (length_le_of_readExponent h)
  · split at h
    · cases h; exact Nat.le_refl _
    · split at h
      · cases h; exact Nat.le_refl _
      · exact Nat.le_of_eq (congrArg List.length (eq_of_assemble h))

theorem shrinks_readUnsigned (positive : Bool) : Shrinks (readUnsigned positive) := by
  intro cs n rest h
  cases cs with
  | nil => cases h
  | cons c tail =>
    have htake := length_takeSignificand_le (digitValue c) tail
    simp only [readUnsigned] at h
    split at h
    · split at h
      · cases h
      · exact Nat.lt_succ_of_le (length_le_of_readAfterWhole h)
    · split at h
      · split at h
        · have hdrop := length_dropDigits_le (takeSignificand (digitValue c) tail).2
          split at h
          · rename_i heq
            have := length_le_of_readFraction h
            rw [heq] at hdrop
            simp only [List.length_cons] at hdrop ⊢
            omega
          · have := length_le_of_readTail h
            simp only [List.length_cons]
            omega
        · have := length_le_of_readAfterWhole h
          simp only [List.length_cons]
          omega
      · cases h

theorem shrinks_readNumber : Shrinks readNumber := by
  intro cs n rest h
  unfold readNumber at h
  split at h
  · exact Nat.lt_succ_of_lt (shrinks_readUnsigned false h)
  · exact shrinks_readUnsigned true h

end RemediationLedger.Json
