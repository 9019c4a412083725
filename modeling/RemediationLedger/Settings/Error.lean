/-
What can be wrong with the settings, from reading them to relying on them.

The two kinds of errors belong to two moments. `SettingsProblem` is what an
update cannot work with, found in settings that are there; there can be several
of them at once, and a report lists them all. `SettingsError` is why there are
no settings to work with: a document or a file that cannot be read, a variable
with an unusable text, or the problems just named.

A message names the setting, the variable or the file at fault; a document that
is none has no more said about it. The greatest retention is given in days, and
it is small enough that no expiry overflows, for any date up to the year 9899
(`Proofs.ValidRetention`).
-/
import RemediationLedger.FileTree

namespace RemediationLedger

/-- The longest time that history records may be kept, in days: one hundred years of 365. -/
def maxHistoryTtlDays : Int := 36500

/-- Settings that an update cannot work with. -/
inductive SettingsProblem where
  | findingsTableEmpty
  | historyTableEmpty
  | historyTtlOutOfRange (days : Int)
  | scanHelperAttributeEmpty
  deriving DecidableEq, Repr

def SettingsProblem.message : SettingsProblem → String
  | findingsTableEmpty => "findings_table is empty"
  | historyTableEmpty => "history_table is empty"
  | historyTtlOutOfRange days =>
    s!"history_ttl_days must be between 1 and {maxHistoryTtlDays}, got {days}"
  | scanHelperAttributeEmpty => "scan_helper_attribute is empty"

/-- Why settings could not be loaded or used. -/
inductive SettingsError where
  /-- The settings file could not be read. -/
  | unreadable (path : String) (fault : ReadFault)
  /-- The text is not a settings document. -/
  | unparsable
  /-- An environment variable that should hold an integer holds something else. -/
  | notAnInteger (variableName text : String)
  /-- Some settings are unusable. -/
  | unusable (problems : List SettingsProblem)
  /-- No date lies so many days after the creation of a record, here in its UTC form. -/
  | expiryOutOfRange (days : Int) (created : String)
  deriving DecidableEq, Repr

def SettingsError.message : SettingsError → String
  | unreadable path fault => "could not read '" ++ path ++ "': " ++ fault.message
  | unparsable => "could not parse config"
  | notAnInteger variableName text => variableName ++ " is not an integer: '" ++ text ++ "'"
  | unusable problems => "; ".intercalate (problems.map SettingsProblem.message)
  | expiryOutOfRange days created => s!"history expiry out of range: {days} days after {created}"

end RemediationLedger
