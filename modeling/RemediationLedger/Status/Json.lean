/-
States in JSON.

A state is written as its name. It is also read from an object with that name as
its only key and nothing, `null`, as the value; in JSON the case of a name
counts.

The second form is the one in which variants with values are written, and a
state is a variant that has none. Its reader is separate from that for records
(`Json.Record`), because here the key chooses the state and is not the name of a
field: an unknown key is a fault, and a second key is one whatever it is. The
faults are those of all readers, so a report about a status reads like one about
a request.
-/
import RemediationLedger.Json.Record
import RemediationLedger.Status

namespace RemediationLedger.Status

open Json

def toJson (s : Status) : String := String.ofList (quote s.name)

def readName : Reader Status := fun cs => do
  let (name, rest) ← unquote cs
  match ofName? (String.ofList name) with
  | some s => return (s, rest)
  | none =>
    .error (.shape (.unknownVariant (String.ofList name) (all.map Status.name)))

def readNothing (cs : List Char) : Except Fault (List Char) :=
  match dropGaps cs with
  | [] => .error .truncated
  | c :: rest =>
    if c = 'n' then readWord ['u', 'l', 'l'] rest else .error (mismatch "unit" (c :: rest))

/-- Reads on behind the brace of an object that names a state. -/
def readTagged : Reader Status := fun cs =>
  match dropGaps cs with
  | [] => .error .truncated
  | c :: rest =>
    if c = '"' then do
      let (s, afterName) ← readName rest
      let value ← findColon afterName
      let afterValue ← readNothing value
      match dropGaps afterValue with
      | [] => .error .truncated
      | c :: rest => if c = '}' then return (s, rest) else .error .malformed
    else .error .malformed

def readState : Reader Status := fun cs =>
  match dropGaps cs with
  | [] => .error .truncated
  | c :: rest =>
    if c = '"' then readName rest
    else if c = '{' then readTagged rest
    else .error .malformed

/-- Reads a text that holds one state and nothing else. -/
def ofJson (text : String) : Except Fault Status := do
  let (s, rest) ← readState text.toList
  if rest.all isGap then return s else .error .malformed

end RemediationLedger.Status
