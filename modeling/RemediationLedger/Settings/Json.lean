/-
Settings in JSON.

A value of the wrong kind is wrong even if the setting could be left out, and
`null` is such a value.

The shape of settings goes to the same readers as that of a request
(`Json.Record`), and so an object in any order, a list in the order of the
settings, unknown members and repeated ones are dealt with in the same way. All
that is said here is how the value of each setting is read. There is nothing
that a document must contain: the empty object stands for the defaults, and a
document does not pass through the check of settings until an update is to work
with them.
-/
import RemediationLedger.Json.Record
import RemediationLedger.Settings.Entry

namespace RemediationLedger

open Json

namespace SettingName

def read (n : SettingName) : Reader SettingValue := fun cs =>
  match n with
  | historyTtlDays =>
    match readInteger cs with
    | .ok (i, rest) => .ok (.number i, rest)
    | .error e => .error e
  | failureReasons =>
    match readTextList cs with
    | .ok (l, rest) => .ok (.texts l, rest)
    | .error e => .error e
  | _ =>
    match readText cs with
    | .ok (s, rest) => .ok (.text s, rest)
    | .error e => .error e

theorem shrinks_read (n : SettingName) : Shrinks n.read := by
  intro cs v rest h
  unfold read at h
  split at h
  · split at h
    · rename_i hr; cases h; exact shrinks_readInteger hr
    · cases h
  · split at h
    · rename_i hr; cases h; exact shrinks_readTextList hr
    · cases h
  · split at h
    · rename_i hr; cases h; exact shrinks_readText hr
    · cases h

end SettingName

namespace Settings

def shape : RecordShape SettingName SettingValue where
  expected := "struct EngineConfig"
  fields := SettingName.all
  name := SettingName.name
  read := SettingName.read
  shrinks := SettingName.shrinks_read

def ofJson (text : String) : Except Fault Settings :=
  decodeRecord shape
    (fun
      | .named entries => .ok (ofEntries entries)
      | .listed entries => .ok (ofEntries entries))
    text

end Settings

end RemediationLedger
