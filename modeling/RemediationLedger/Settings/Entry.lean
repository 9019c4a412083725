/-
Settings one by one.

A document gives settings as names with values. Every setting may be left out
and has its default then.

`SettingName` has a constructor for each setting, so that the readers of the two
kinds of documents share one list of names and differ in nothing but how they
read a value. A value is a text, a number or a list of texts; `assign` puts it
into its place, and one of the wrong kind, which no reader hands over, changes
nothing. `ofEntries` begins with the defaults and assigns in order, and that is
all there is to a setting that is missing.
-/
import RemediationLedger.Settings

namespace RemediationLedger

inductive SettingName where
  | findingsTable
  | historyTable
  | historyTtlDays
  | scanHelperAttribute
  | scanHelperValue
  | findingScanHelperAttribute
  | defaultActor
  | failureReasons
  deriving DecidableEq, Repr

inductive SettingValue where
  | text (s : String)
  | number (i : Int)
  | texts (l : List String)
  deriving DecidableEq, Repr

namespace SettingName

def all : List SettingName :=
  [findingsTable, historyTable, historyTtlDays, scanHelperAttribute, scanHelperValue,
    findingScanHelperAttribute, defaultActor, failureReasons]

def name : SettingName → String
  | findingsTable => "findings_table"
  | historyTable => "history_table"
  | historyTtlDays => "history_ttl_days"
  | scanHelperAttribute => "scan_helper_attribute"
  | scanHelperValue => "scan_helper_value"
  | findingScanHelperAttribute => "finding_scan_helper_attribute"
  | defaultActor => "default_actor"
  | failureReasons => "failure_reasons"

end SettingName

namespace Settings

/-- Puts the value of one setting in place. A value of the wrong kind changes nothing. -/
def assign (s : Settings) : SettingName → SettingValue → Settings
  | .findingsTable, .text v => { s with findingsTable := v }
  | .historyTable, .text v => { s with historyTable := v }
  | .historyTtlDays, .number v => { s with historyTtlDays := v }
  | .scanHelperAttribute, .text v => { s with scanHelperAttribute := v }
  | .scanHelperValue, .text v => { s with scanHelperValue := v }
  | .findingScanHelperAttribute, .text v => { s with findingScanHelperAttribute := v }
  | .defaultActor, .text v => { s with defaultActor := v }
  | .failureReasons, .texts v => { s with failureReasons := v }
  | _, _ => s

/-- The default settings with the given ones put in their place. -/
def ofEntries (entries : List (SettingName × SettingValue)) : Settings :=
  entries.foldl (fun s e => s.assign e.1 e.2) {}

end Settings

end RemediationLedger
