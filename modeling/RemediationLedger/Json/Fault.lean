/-
What can be wrong with a JSON text that should hold a certain kind of value.

A text is read from left to right and the first thing wrong ends the reading.
Either the text is not JSON, or it stops too early, or it is JSON up to this
point but not of the shape that is asked for; only the last is reported in
words.

* `Found` and `ShapeProblem` are a report about the shape, as data: what was
  found and what was asked for. Their words follow from the constructors.
* `Fault` is the end of a reading. The first two kinds are not told apart by a
  caller, but a reader has to tell them apart: whether a text stops inside a
  value decides which fault is met first.
* `Reader` is the type of all readers. They work on lists of characters, and
  `Shrinks` says that a reader takes at least one character off the front. A
  loop over the elements of an array or the members of an object is a recursion
  on the length of what is left, and `Shrinks` is what makes it one.
-/
import RemediationLedger.Text.Quoted

namespace RemediationLedger.Json

/-- A value as it is named in a report. -/
inductive Found where
  | null
  | boolean (b : Bool)
  | integer (i : Int)
  /-- A number that is no integer, in its shortest decimal form. -/
  | floating (decimal : String)
  | text (s : String)
  | list
  | object
  deriving DecidableEq, Repr

def Found.describe : Found → String
  | null => "null"
  | boolean b => "boolean `" ++ (if b then "true" else "false") ++ "`"
  | integer i => "integer `" ++ toString i ++ "`"
  | floating decimal => "floating point `" ++ decimal ++ "`"
  | text s => "string " ++ quoted s
  | list => "sequence"
  | object => "map"

/-- A value of the wrong shape. -/
inductive ShapeProblem where
  | invalidType (found : Found) (expected : String)
  | invalidValue (found : Found) (expected : String)
  /-- A list stands for a record and has too few elements. -/
  | invalidLength (length : Nat) (expected : String)
  | missingField (name : String)
  | duplicateField (name : String)
  | unknownVariant (name : String) (known : List String)
  deriving DecidableEq, Repr

def ShapeProblem.message : ShapeProblem → String
  | invalidType found expected => "invalid type: " ++ found.describe ++ ", expected " ++ expected
  | invalidValue found expected =>
    "invalid value: " ++ found.describe ++ ", expected " ++ expected
  | invalidLength length expected =>
    "invalid length " ++ toString length ++ ", expected " ++ expected
  | missingField name => "missing field `" ++ name ++ "`"
  | duplicateField name => "duplicate field `" ++ name ++ "`"
  | unknownVariant name known =>
    "unknown variant `" ++ name ++ "`, expected one of "
      ++ ", ".intercalate (known.map fun k => "`" ++ k ++ "`")

/-- Why the reading of a text ended. -/
inductive Fault where
  /-- What was read has the wrong shape. -/
  | shape (p : ShapeProblem)
  /-- The text is not JSON. -/
  | malformed
  /-- The text stops in the middle of a value. -/
  | truncated
  deriving DecidableEq, Repr

/-- A reader takes its value from the front of a text and returns what follows it. -/
abbrev Reader (α : Type) : Type := List Char → Except Fault (α × List Char)

/-- A reader shrinks its text if it takes at least one character. -/
def Shrinks {α : Type} (r : Reader α) : Prop :=
  ∀ {cs : List Char} {a : α} {rest : List Char}, r cs = .ok (a, rest) → rest.length < cs.length

def isGap (c : Char) : Bool := c == ' ' || c == '\n' || c == '\t' || c == '\r'

def dropGaps (cs : List Char) : List Char := cs.dropWhile isGap

end RemediationLedger.Json
