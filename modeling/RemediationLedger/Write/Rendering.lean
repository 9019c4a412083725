/-
Writes in expression form.

A store with an expression language takes an update as a text over placeholders
and two maps that say what the placeholders stand for. Every attribute name goes
through a placeholder, so names that contain `#` or that the expression language
reserves need no care. Assignment number `i` uses `#ai` and `:vi`; the key
attributes of a condition use `#pk` and `#sk`, which no assignment can produce.

* `Rendering` is what is sent along with the key: two texts, each of which may
  be missing, and the two maps of what the placeholders stand for.
* A condition tests both key attributes. A row that is there has both, so one
  would do; with two the text says what it means whichever of them a reader
  looks at.
* `updateText` depends on the number of assignments alone, because names and
  values are in the maps.

That nothing is lost, and that no two placeholders clash, is proved in
`Proofs.Placeholders`: a reader that knows nothing of how the texts were made
finds the write in them.
-/
import RemediationLedger.Write

namespace RemediationLedger

/-- A write as texts over placeholders. -/
structure Rendering where
  update : Option String
  condition : Option String
  names : KeyMap String String
  values : KeyMap String Value
  deriving DecidableEq

namespace Rendering

def namePlaceholder (i : Nat) : String := "#a" ++ toString i

def valuePlaceholder (i : Nat) : String := ":v" ++ toString i

def partitionPlaceholder : String := "#pk"

def sortPlaceholder : String := "#sk"

/-- The test that a condition applies to each key attribute. -/
def testName : Condition → String
  | .keyExists => "attribute_exists"
  | .keyNotExists => "attribute_not_exists"

def conditionText (c : Condition) : String :=
  testName c ++ "(" ++ partitionPlaceholder ++ ") AND "
    ++ testName c ++ "(" ++ sortPlaceholder ++ ")"

/-- The assignments over their placeholders, or nothing if there are none. -/
def updateText (count : Nat) : Option String :=
  if count = 0 then none
  else
    let assignment i := namePlaceholder i ++ " = " ++ valuePlaceholder i
    some ("SET " ++ ", ".intercalate ((List.range count).map assignment))

def conditionNames (key : Key) : Option Condition → List (String × String)
  | none => []
  | some _ => [(partitionPlaceholder, key.names.partition), (sortPlaceholder, key.names.sort)]

end Rendering

/-- A put has no expression but its condition. -/
def Put.render (p : Put) : Rendering where
  update := none
  condition := p.condition.map Rendering.conditionText
  names := .ofList (Rendering.conditionNames p.key p.condition)
  values := .empty

def Update.render (u : Update) : Rendering where
  update := Rendering.updateText u.assignments.length
  condition := u.condition.map Rendering.conditionText
  names := .ofList
    (u.assignments.mapIdx (fun i a => (Rendering.namePlaceholder i, a.1))
      ++ Rendering.conditionNames u.key u.condition)
  values := .ofList (u.assignments.mapIdx fun i a => (Rendering.valuePlaceholder i, a.2))

def Write.render : Write → Rendering
  | put p => p.render
  | update u => u.render

end RemediationLedger
