/-
Texts counted in the bytes of their UTF-8 form.

A number of bytes can end within a character; at such a place a text cannot be
divided.

Texts are lists of characters here, and a place in a text is the number of bytes
before it. `splitBytes?` walks from character to character and has no result
when the place is passed within one or the text is too short, and `slice?` cuts
at two places in this way. A cut that fails is what the fault of a directive is
made of (`Log.Directive`).
-/

namespace RemediationLedger

def byteSize : List Char → Nat
  | [] => 0
  | c :: cs => c.utf8Size + byteSize cs

/-- Divides a text behind its first `n` bytes, unless they end within a character or there are
fewer. -/
def splitBytes? : (n : Nat) → List Char → Option (List Char × List Char)
  | 0, cs => some ([], cs)
  | _ + 1, [] => none
  | n + 1, c :: cs =>
    if c.utf8Size ≤ n + 1 then
      (splitBytes? (n + 1 - c.utf8Size) cs).map fun (front, rest) => (c :: front, rest)
    else none
termination_by _ cs => cs.length

/-- The part of a text between two places, each a number of bytes from the start. -/
def slice? (start stop : Nat) (cs : List Char) : Option (List Char) := do
  let (_, rest) ← splitBytes? start cs
  let (part, _) ← splitBytes? (stop - start) rest
  return part

end RemediationLedger
