/-
Blank characters in the sense of the Unicode property White_Space, and the
removal of them from both ends of a text.

Blanks beyond ASCII count, as they do when a number is taken from the
environment: a retention behind a no-break space is still a number. They do not
count in JSON and TOML, whose grammars have blanks of their own. `trimBlanks`
drops from the front, turns the text round and drops again, so that what is
known of `dropWhile` applies to both ends; blanks inside a text stay.
-/

namespace RemediationLedger

/-- Whether `c` has the Unicode property White_Space: the ASCII controls from tab to
carriage return, the space, and nineteen characters beyond ASCII. -/
def isBlank (c : Char) : Bool :=
  let n := c.toNat
  (0x09 ≤ n && n ≤ 0x0D) || n == 0x20 || n == 0x85 || n == 0xA0 || n == 0x1680
    || (0x2000 ≤ n && n ≤ 0x200A) || n == 0x2028 || n == 0x2029 || n == 0x202F
    || n == 0x205F || n == 0x3000

def trimBlanks (cs : List Char) : List Char :=
  ((cs.dropWhile isBlank).reverse.dropWhile isBlank).reverse

end RemediationLedger
