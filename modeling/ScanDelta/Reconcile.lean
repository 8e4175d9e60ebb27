import ScanDelta.Outcome
import ScanDelta.Remote.Client
import ScanDelta.Sarif.Document

/-!
# One run

`Reconcile.run` loads the scan, classifies its results by their baseline states, and turns to the service
only if that yields nothing and there is a ref.
-/

set_option autoImplicit false

namespace ScanDelta

structure Settings where
  sarifPath : String
  ref : Option String
  minLevel : Level
  repository : Option Repository
  token : Option String
  apiUrl : String
  deriving DecidableEq, Repr

namespace Reconcile

open Remote (Run)

/-- Makes the service for a repository out of a token. -/
abbrev Connector := Repository → String → Except Failure Service

/-- A connector to the service over HTTP. -/
def overHttp (transport : Http.Transport) (apiUrl : String) : Connector := fun repo token => do
  return (← Remote.Client.create transport token apiUrl).service repo

def noRepository : Failure :=
  .config "repository not set; pass --owner and --repo or --repository owner/repo (GITHUB_REPOSITORY)"

def noToken : Failure := .config "set GITHUB_TOKEN (or GH_TOKEN) with appropriate scopes"

/-- The comparison through the service. -/
def remotely (connect : Connector) (s : Settings) (ref : String) : Run Remote.Comparison := do
  record "No SARIF baselineState results found; switching to API comparison mode"
  let some repo := s.repository | throw noRepository
  let some token := s.token.filter (fun t => !t.isEmpty) | throw noToken
  Traced.tell (Remote.Event.connect token)
  match connect repo token with
  | .error e => throw e
  | .ok service =>
    info ("Querying Code Scanning alerts for " ++ repo.text)
    Remote.compare service ref

/-- What the scan shows, or the comparison that stands in for it. -/
def run (connect : Connector) (d : Disk) (s : Settings) : Run Outcome := do
  let document ← Sarif.load d s.sarifPath
  let unfiltered ← Baseline.collect document
  let filtered := unfiltered.atThreshold s.minLevel
  record ("SARIF baseline results: new=" ++ natText filtered.new.length ++ ", fixed=" ++
    natText filtered.absent.length)
  match Strategy.select filtered s.ref with
  | .baseline => return ⟨s.minLevel, .baseline filtered unfiltered⟩
  | .remote ref => return ⟨s.minLevel, .remote (← remotely connect s ref)⟩

end Reconcile

end ScanDelta
