/-
Upper case of ASCII letters.

Status words are compared without regard to case, and only the letters `a` to
`z` have a case here: `ß`, `ı` and `ſ` stay as they are.

The function keeps every character in its place, one for one, so a text and its
upper case are of one length, and two texts have one upper case exactly if they
agree character by character but for the case of ASCII letters. Under the case
rules of Unicode neither would hold: `ß` becomes two letters, and `ı` would
become the letter that `i` becomes.
-/

namespace RemediationLedger

/-- The text with `a` to `z` replaced by `A` to `Z` and every other character kept. -/
def asciiUpper (s : String) : String := String.ofList (s.toList.map Char.toUpper)

end RemediationLedger
