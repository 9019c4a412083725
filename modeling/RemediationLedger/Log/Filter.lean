/-
Filters that pick the events to be logged.

A filter is written as a list of directives with commas between them. For each
event the most specific directive counts: that with the longest target, then one
that asks for a field, and of several alike the last one. What no directive
speaks of is not logged.

There are two ways to read a filter, and they differ in what a part that is no
directive does. `Filter.ofText` wants all parts to be directives and fails
otherwise, and `Filter.salvage` leaves such a part out; only if nothing is left
does it fall back on a filter that logs errors. The second way has an end of its
own for a text in which a part begins or ends within a character.
-/
import RemediationLedger.Log.Directive

namespace RemediationLedger

structure Filter where
  directives : List Directive
  deriving DecidableEq, Repr

namespace Filter

def parts (s : String) : List String := (s.splitOn ",").filter fun part => !part.isEmpty

/-- The filter that a text is if all its parts are directives. An empty one logs nothing. -/
def ofText (s : String) : Except DirectiveFault Filter :=
  ((parts s).mapM Directive.ofText).map Filter.mk

/-- The directive that a text stands for, or nothing if it is not written like one. -/
def salvagePart (s : String) : Except DirectiveFault (Option Directive) :=
  match Directive.ofText s with
  | .ok d => .ok (some d)
  | .error .malformed => .ok none
  | .error .splitCharacter => .error .splitCharacter

/-- The filter of those parts of a text that are directives. If none is, errors are logged. -/
def salvage (s : String) : Except DirectiveFault Filter := do
  let directives := (← (parts s).mapM salvagePart).filterMap id
  return ⟨if directives.isEmpty then [⟨"", .everywhere, some .error⟩] else directives⟩

def directive? (f : Filter) (e : Event) : Option Directive :=
  (f.directives.filter fun d => d.speaksOf e).foldl
    (fun best d => if best.all fun b => d.outranks b then some d else best)
    none

def admits (f : Filter) (e : Event) : Bool :=
  (f.directive? e).any fun d => d.admits e.level

end Filter

end RemediationLedger
