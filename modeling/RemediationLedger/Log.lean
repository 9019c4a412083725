/-
Logs: where events become lines.

A program has one log at most. Installing a second one does nothing, so whoever
comes first decides what is logged and how. The filter that the environment
gives goes before the one that the program gives.

* `Log` is a filter with a format. `Log.line?` drops what the filter does not
  admit and writes the rest, in plain text or as a JSON object.
* `Log.of` chooses the filter. One from the environment counts only if all its
  parts are directives; otherwise the program's own is read part by part, and
  what is no directive is left out of it.
* `installLogs` plays through several installations, with the reply to each.

Lines have no time. An event does not know when it happened, and a line is
determined by the event and the log, so that what is logged by an update can be
compared word for word. The fields of an event keep their order in both formats.
-/
import RemediationLedger.Json.Text
import RemediationLedger.Log.Filter

namespace RemediationLedger

inductive LineFormat where
  /-- Level, target, message and fields in one line of text. -/
  | plain
  /-- One JSON object. -/
  | json
  deriving DecidableEq, Repr

structure Log where
  filter : Filter
  format : LineFormat
  deriving DecidableEq, Repr

/-! ## Lines -/

def Event.plainLine (e : Event) : String :=
  s!"{e.level.name} {e.target}: {e.message}"
    ++ String.join (e.fields.map fun (name, value) => s!" {name}={value}")

def Event.jsonLine (e : Event) : String :=
  String.ofList ('{' :: Json.quote "level" ++ ':' :: Json.quote e.level.name
    ++ ',' :: Json.quote "fields" ++ ':' :: Json.quoteMembers (("message", e.message) :: e.fields)
    ++ ',' :: Json.quote "target" ++ ':' :: Json.quote e.target ++ ['}'])

def Log.line? (l : Log) (e : Event) : Option String :=
  if l.filter.admits e then
    match l.format with
    | .plain => some e.plainLine
    | .json => some e.jsonLine
  else none

/-! ## Installing -/

/-- The log for a filter of the program's, unless the environment has one that is all directives. -/
def Log.of (environment : Option String) (filter : String) (format : LineFormat) :
    Except DirectiveFault Log := do
  let filter ←
    match environment.map Filter.ofText with
    | some (.ok filter) => pure filter
    | some (.error .splitCharacter) => throw .splitCharacter
    | some (.error .malformed) | none => Filter.salvage filter
  return ⟨filter, format⟩

/-- Installs a log if there is none yet, and tells whether it did. -/
def Log.install (log : Log) : Option Log → Bool × Option Log
  | none => (true, some log)
  | some present => (false, some present)

/-- Installs a log for each of some filters, one after the other, and tells of each whether it was
installed. The first filter that cannot be read is the end of it, and of the program. -/
def installLogs (environment : Option String) :
    List (String × LineFormat) → Option Log → List Bool × Except DirectiveFault (Option Log)
  | [], present => ([], .ok present)
  | (filter, format) :: more, present =>
    match Log.of environment filter format with
    | .error fault => ([], .error fault)
    | .ok log =>
      let (isInstalled, present) := log.install present
      let (areInstalled, present) := installLogs environment more present
      (isInstalled :: areInstalled, present)

/-- The lines about events, which are none if no log is installed. -/
def logLines (log : Option Log) (events : List Event) : List String :=
  match log with
  | none => []
  | some l => events.filterMap l.line?

end RemediationLedger
