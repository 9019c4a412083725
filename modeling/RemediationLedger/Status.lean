/-
The four remediation states and their names.

A name is written in one way and read in several: writing gives the canonical
name, and reading takes no notice of the case of ASCII letters. Letters beyond
ASCII have no case here, so a text with a letter that some alphabet folds to an
ASCII one is no name.

`isTerminal` divides the states into those that an execution can leave and those
that it cannot. The protocol does not ask: the ledger records what it is told
and knows no order among states, and a status that is none of the four is stored
as well as any other.
-/
import RemediationLedger.Text.AsciiCase

namespace RemediationLedger

inductive Status where
  | notStarted
  | inProgress
  | success
  | failed
  deriving DecidableEq, Repr

namespace Status

def all : List Status := [notStarted, inProgress, success, failed]

def name : Status → String
  | notStarted => "NOT_STARTED"
  | inProgress => "IN_PROGRESS"
  | success => "SUCCESS"
  | failed => "FAILED"

/-- Whether no further change is expected of the execution. -/
def isTerminal : Status → Bool
  | success => true
  | failed => true
  | _ => false

def ofName? (name : String) : Option Status := all.find? fun s => s.name == name

/-- The state with this name, read without regard to the case of ASCII letters. -/
def parse? (text : String) : Option Status := ofName? (asciiUpper text)

/-- The complaint about a text that names no state. -/
def parseFailure (text : String) : String := "not a canonical remediation status: " ++ text

end Status

end RemediationLedger
