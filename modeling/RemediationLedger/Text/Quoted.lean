/-
Texts in quotes, as reports show them.

A report must show exactly what it speaks of: quotes and backslashes are
escaped, and so is every character that would leave no mark of its own.

Common controls have an escape of one letter, and the other characters without a
mark are shown by their code points in braces. An apostrophe stays as it is,
because the quotes around a text are double ones. Whoever reads a report relies
on it that texts which differ do not look alike between quotes.
-/
import RemediationLedger.Text.Printable

namespace RemediationLedger

/-- The least number of hexadecimal digits, in lower case. -/
def hexText (n : Nat) : String := String.ofList (Nat.toDigits 16 n)

def quotedChar (c : Char) : String :=
  if c = '"' then "\\\""
  else if c = '\\' then "\\\\"
  else if c = '\t' then "\\t"
  else if c = '\r' then "\\r"
  else if c = '\n' then "\\n"
  else if c.toNat = 0 then "\\0"
  else if isPrintable c then c.toString
  else "\\u\x7b" ++ hexText c.toNat ++ "\x7d"

def quoted (s : String) : String := "\"" ++ String.join (s.toList.map quotedChar) ++ "\""

end RemediationLedger
