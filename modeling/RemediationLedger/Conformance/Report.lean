/-
Reports on how well a store keeps its contract.

A report has one entry for each check, in the order of the contract, whether the
check ran through or not: the number of checks is part of what a report says,
and a store cannot come out better by making a check end early. The text starts
with the count of the checks that ran through and has a line for every
complaint, which names the check, its category and what the check found wrong.

Each check runs on a store of its own. The checks all work on one table and
expect to find it empty, so that a check that ends halfway and leaves rows
behind cannot be what makes a later one complain.
-/
import RemediationLedger.Conformance.Checks

namespace RemediationLedger.Conformance

structure Finish where
  category : Category
  name : String
  complaint : Option String
  deriving DecidableEq, Repr

def Finish.passed (f : Finish) : Bool := f.complaint.isNone

structure Report where
  finishes : List Finish
  deriving DecidableEq, Repr

namespace Report

def total (r : Report) : Nat := r.finishes.length

def passed (r : Report) : Nat := r.finishes.countP Finish.passed

def failed (r : Report) : Nat := r.total - r.passed

/-- The line about a check that ended with a complaint. -/
def line? (f : Finish) : Option String :=
  f.complaint.map fun complaint => s!"  FAIL [{f.category.name}/{f.name}]: {complaint}\n"

def text (r : Report) : String :=
  s!"Conformance: {r.passed}/{r.total} passed ({r.failed} failed)\n"
    ++ String.join (r.finishes.filterMap line?)

end Report

/-- Runs a check on a store as it is when new. -/
def Check.run {σ : Type} (c : Check) (b : Backend σ) (new : σ) : Finish :=
  match (c.steps.run.run b new).1 with
  | .ok () => ⟨c.category, c.name, none⟩
  | .error complaint => ⟨c.category, c.name, some complaint⟩

/-- Tries the contract on a kind of store, with a new store for each check. -/
def report {σ : Type} (b : Backend σ) (new : σ) : Report := ⟨contract.map fun c => c.run b new⟩

end RemediationLedger.Conformance
