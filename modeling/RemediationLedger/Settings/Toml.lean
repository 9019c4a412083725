/-
Settings in TOML, and settings files.

Names in the document that are no settings are passed over. Nothing but the fact
is told about a document that cannot be read.

A document is read as a whole into a tree of nodes (`Toml.Node`), and the
settings are then looked up in its top level. Unlike in JSON, the readers do not
know what is asked for, so a document that is wrong in a part that no setting
concerns is wrong nevertheless, and which part it is makes no difference.
`SettingName.ofNode?` says which nodes a setting may have. Files are read as
text first, and a file that cannot be read is told by its path and the fault.
-/
import RemediationLedger.Settings.Entry
import RemediationLedger.Toml.Document

namespace RemediationLedger

/-- The value of a setting in a document, if it is of the right kind. -/
def SettingName.ofNode? (n : SettingName) (node : Toml.Node) : Option SettingValue :=
  match n, node with
  | .historyTtlDays, .integer i => some (.number i)
  | .historyTtlDays, _ => none
  | .failureReasons, .list elements =>
    (elements.mapM Toml.Node.text?).map SettingValue.texts
  | .failureReasons, _ => none
  | _, .text s => some (.text s)
  | _, _ => none

namespace Settings

def ofToml (text : String) : Except SettingsError Settings :=
  let settings? := do
    let root ← Toml.document text
    let given := SettingName.all.filterMap fun n => (root.lookup n.name).map fun node => (n, node)
    let entries ← given.mapM fun (n, node) => (n.ofNode? node).map fun v => (n, v)
    return ofEntries entries
  match settings? with
  | some s => .ok s
  | none => .error .unparsable

def ofFile (files : FileTree) (path : String) : Except SettingsError Settings :=
  match files.readText path with
  | .error fault => .error (.unreadable path fault)
  | .ok text => ofToml text

end Settings

end RemediationLedger
