/-
Decimal text of signed 64-bit integers.

The values are ordinary integers; what has a fixed width is the text, because a
reader accepts only what lies between `-2^63` and `2^63 - 1`.

* `readSigned?` takes a sign and digits and gives an integer of any size, and
  `readWord?` accepts it if it fits. A plus is a sign, zeros may stand in front,
  and a sign alone is no number. Which texts these are exactly is the subject of
  `Proofs.Numerals`.
* `paddedNat` and `paddedInt` write with a least width, as time stamps need it.
  A minus sign takes up one of the places, and a number that is longer than the
  width is not cut off.

Reading and writing are on lists of characters, because the texts around them
are taken apart and put together in that form.
-/

namespace RemediationLedger

def FitsWord (i : Int) : Prop := -0x8000000000000000 ≤ i ∧ i < 0x8000000000000000

instance (i : Int) : Decidable (FitsWord i) := inferInstanceAs (Decidable (_ ∧ _))

/-- The number that a list of decimal digits stands for. -/
def digitsValue (digits : List Char) : Nat :=
  digits.foldl (fun n c => 10 * n + (c.toNat - '0'.toNat)) 0

def readDigits? (cs : List Char) : Option Nat :=
  if !cs.isEmpty && cs.all Char.isDigit then some (digitsValue cs) else none

/-- Reads an optional sign and one or more ASCII digits, whatever the size of the number. -/
def readSigned? : List Char → Option Int
  | [] => none
  | c :: cs =>
    if c = '+' then (readDigits? cs).map Int.ofNat
    else if c = '-' then (readDigits? cs).map fun n => -Int.ofNat n
    else (readDigits? (c :: cs)).map Int.ofNat

def readWord? (cs : List Char) : Option Int :=
  (readSigned? cs).filter fun i => FitsWord i

/-- Fills `s` up with zeros on the left to at least `width` characters. -/
def zeroPadded (width : Nat) (s : List Char) : List Char :=
  List.replicate (width - s.length) '0' ++ s

def paddedNat (width n : Nat) : List Char := zeroPadded width n.repr.toList

/-- An integer in at least `width` characters, its minus sign being one of them. -/
def paddedInt (width : Nat) : Int → List Char
  | .ofNat n => paddedNat width n
  | .negSucc n => '-' :: paddedNat (width - 1) (n + 1)

end RemediationLedger
