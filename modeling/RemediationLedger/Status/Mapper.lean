/-
From the vocabulary of whoever runs remediations to the four states.

The mapping is total: a word that nobody knows means failure, so that no update
is dropped for its wording. Which failure codes are expected decides only how
the mapping is logged, never its result.

`StatusMapper.classify` returns the state together with the event that is to be
logged about it. The word is compared in upper case, first with the words of the
vocabulary and then with the expected failure codes; a word of the vocabulary
keeps its meaning even if the settings list it as a failure code. An expected
code is logged in upper case, and an unknown word as it came, so that a reader
of the log can find out who sent it.
-/
import RemediationLedger.Event
import RemediationLedger.Status

namespace RemediationLedger

/-- A mapping of words to states that knows some failure codes. -/
structure StatusMapper where
  /-- The expected failure codes, in upper case. -/
  failureReasons : List String
  deriving DecidableEq, Repr

namespace StatusMapper

def ofReasons (reasons : List String) : StatusMapper := ⟨reasons.map asciiUpper⟩

/-- The state that a word stands for, with the event that is logged about it. A missing or empty
word means that nothing has started. -/
def classify (m : StatusMapper) (raw : Option String) : Status × Option Event :=
  match raw with
  | none => (.notStarted, none)
  | some word =>
    let upper := asciiUpper word
    if word.isEmpty then (.notStarted, none)
    else if upper = "SUCCESS" then (.success, none)
    else if upper = "NOT_STARTED" then (.notStarted, none)
    else if upper = "QUEUED" ∨ upper = "RUNNING" ∨ upper = "IN_PROGRESS" then (.inProgress, none)
    else if upper ∈ m.failureReasons then (.failed, some (.failureReasonMapped upper))
    else (.failed, some (.unknownStatus word))

end StatusMapper

end RemediationLedger
