/-
Hexadecimal digits, and the characters that code points stand for.

Escapes in TOML and in patterns name a character by its code point. Digits are
accepted in either case and any number of them stands for a number; how many
there must be is for the reader of the escape to say. Half of a surrogate pair
has a code point and is no character, so `charOf?` has no result there, and
neither beyond the last code point. JSON puts characters together from
surrogates and has a reader of its own (`Json.Text`).
-/

namespace RemediationLedger

def hexValue? (c : Char) : Option Nat :=
  if '0' ≤ c ∧ c ≤ '9' then some (c.toNat - 48)
  else if 'a' ≤ c ∧ c ≤ 'f' then some (c.toNat - 87)
  else if 'A' ≤ c ∧ c ≤ 'F' then some (c.toNat - 55)
  else none

def hexNumber? (digits : List Char) : Option Nat :=
  digits.foldlM (fun n c => (hexValue? c).map fun digit => 16 * n + digit) 0

/-- The character with a given code point; surrogates are none. -/
def charOf? (n : Nat) : Option Char := if n.isValidChar then some (Char.ofNat n) else none

end RemediationLedger
