/-
Settings of the ledger: the names of its tables, how long history is kept, and
the vocabulary of failures.

Settings come from a document, from the environment, or from both, and are
checked as a whole before an update relies on them: every problem is reported,
not just the first.

* `problems` is the check, and `validate` fails with its list. Beyond being
  empty a name is not looked at: any text may be that of a table or of the scan
  helper, an attribute of the protocol's included.
* `withOverrides` puts three settings from the environment in place. A variable
  that is set to the empty text is set, and the retention must be a whole number
  with blanks around it at most. The environment is a function here, so that its
  only role is to answer for three names.
* `ofEnvironment` starts from the defaults. These have no table names, so
  without a document it is the environment that must give both.

Overriding and checking are apart: overrides can make good settings unusable,
and it is the check at the end that says so. What the environment decides and
what it does not is proved in `Proofs.Overrides`.
-/
import RemediationLedger.Settings.Error
import RemediationLedger.Text.Blank
import RemediationLedger.Text.Word

namespace RemediationLedger

def automatedActor : String := "Automated"

/-- Failure codes that are expected, in the order in which they are listed by default. -/
def defaultFailureReasons : List String :=
  ["FAILED", "LAMBDA_ERROR", "RUNBOOK_NOT_ACTIVE", "PLAYBOOK_NOT_ENABLED", "TIMEDOUT",
    "CANCELLED", "CANCELLING", "ASSUME_ROLE_FAILURE", "NO_RUNBOOK"]

structure Settings where
  /-- The table with one row per finding. -/
  findingsTable : String := ""
  /-- The table with one row per finding and execution. -/
  historyTable : String := ""
  /-- How many days a history record is kept. -/
  historyTtlDays : Int := 365
  /-- An attribute that every history record carries, so that one index can list them all. -/
  scanHelperAttribute : String := "REMEDIATION_CONSTANT"
  scanHelperValue : String := "remediation"
  /-- The like attribute of the findings table, which history records do not take over. -/
  findingScanHelperAttribute : String := "FINDING_CONSTANT"
  /-- The actor that is recorded when a request names none. -/
  defaultActor : String := automatedActor
  /-- Codes that count as failures without a warning. -/
  failureReasons : List String := defaultFailureReasons
  deriving DecidableEq, Repr

namespace Settings

/-! ## Checking -/

/-- Everything that keeps an update from working with these settings. -/
def problems (s : Settings) : List SettingsProblem :=
  (if s.findingsTable.isEmpty then [.findingsTableEmpty] else [])
    ++ (if s.historyTable.isEmpty then [.historyTableEmpty] else [])
    ++ (if s.historyTtlDays ≤ 0 ∨ maxHistoryTtlDays < s.historyTtlDays then
          [.historyTtlOutOfRange s.historyTtlDays] else [])
    ++ (if s.scanHelperAttribute.isEmpty then [.scanHelperAttributeEmpty] else [])

def validate (s : Settings) : Except SettingsError Unit :=
  if s.problems.isEmpty then .ok () else .error (.unusable s.problems)

/-! ## Environment -/

def findingsTableVariable : String := "FINDINGS_TABLE_NAME"

def historyTableVariable : String := "HISTORY_TABLE_NAME"

def historyTtlVariable : String := "HISTORY_TTL_DAYS"

/-- Reads the retention from a variable's text, blanks at its ends ignored. -/
def readTtl? (text : String) : Option Int := readWord? (trimBlanks text.toList)

/-- The settings with those of the three variables that are set put in their place. -/
def withOverrides (s : Settings) (lookup : String → Option String) :
    Except SettingsError Settings :=
  let named : Settings :=
    { s with
      findingsTable := (lookup findingsTableVariable).getD s.findingsTable
      historyTable := (lookup historyTableVariable).getD s.historyTable }
  match lookup historyTtlVariable with
  | none => .ok named
  | some text =>
    match readTtl? text with
    | none => .error (.notAnInteger historyTtlVariable text)
    | some days => .ok { named with historyTtlDays := days }

def ofEnvironment (lookup : String → Option String) : Except SettingsError Settings :=
  withOverrides {} lookup

end Settings

end RemediationLedger
