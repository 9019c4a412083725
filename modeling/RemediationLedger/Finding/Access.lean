/-
Reading and updating findings in a record store.

A finding that cannot be read counts as one that is not there: the failure is
logged and goes no further.

The reading serves the enrichment of a new history record and nothing else.
Without it the record lacks what its finding tells about itself, but it has its
key, its status and its times, so a read that failed is no reason to lose an
update (`Proofs.UnreadFinding`). The unconditional update is another matter: its
reply is handed on as it is, because the finding's status is what the update is
for.

All three are programs, so they say what is asked of a store without a store in
hand.
-/
import RemediationLedger.Finding
import RemediationLedger.Program

namespace RemediationLedger.Finding

def read (settings : Settings) (findingType findingId : String) : Program (Option Item) := do
  match ← Program.get settings.findingsTable (key findingType findingId) with
  | .ok item => return item
  | .error e => .note (.findingReadFailed findingType findingId e) (.done none)

def readData (settings : Settings) (findingType findingId : String) :
    Program (Option FindingData) := do
  let item ← read settings findingType findingId
  return item.map (extract settings)

/-- Updates a finding's status unconditionally and outside any transaction. -/
def update (settings : Settings) (request : Request) : Program (Except StoreError Unit) :=
  Program.update (updateFor settings request none)

end RemediationLedger.Finding
