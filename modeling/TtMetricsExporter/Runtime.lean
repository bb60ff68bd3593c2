import TtMetricsExporter.Models
/-!
# Runtime — readiness and self-observability

`runtime.py`.  Times are rationals; every method but `snapshot` and `readiness` is one critical section, given here as
the status after it.
-/
namespace Tt

inductive HttpRoute where
  | metrics | devices | health | ready | other
  deriving DecidableEq

inductive CodeClass where
  | «2xx» | «4xx» | «5xx»
  deriving DecidableEq

inductive ReadinessReason where
  | ready | initialCollection | criticalSource | snapshotStale | deviceRequired | shuttingDown
  deriving DecidableEq

structure RuntimeStatus where
  maxSnapshotAge : Rat
  requireDevice : Bool
  lastSuccess : Option Rat := none
  lastSuccessWall : Option Rat := none
  lastCollectionDuration : Rat := 0
  successes : Nat := 0
  failures : Nat := 0
  consecutiveFailures : Nat := 0
  generation : Nat := 0
  deviceCount : Nat := 0
  shuttingDown : Bool := false
  sources : TelemetrySource → SourceDiagnostics := fun source => { source := source }
  issueTotals : TelemetrySource → CollectionIssue → Nat := fun _ _ => 0
  httpRequests : HttpRoute → CodeClass → Nat := fun _ _ => 0
  httpDurations : HttpRoute → Rat := fun _ => 0
  activeConnections : Nat := 0
  rejectedConnections : Nat := 0

namespace RuntimeStatus
variable (self : RuntimeStatus)

/-- `record_collection`, with the clocks it reads first. -/
def recordCollection (steadyNow wallNow : Rat) (result : CollectionResult) (duration : Rat) (snapshotPublished : Bool)
    (generation : Nat) : RuntimeStatus :=
  let counted := { self with
    lastCollectionDuration := duration
    sources := result.sources
    issueTotals := fun source issue => self.issueTotals source issue + (result.sources source).issues issue }
  if result.criticalSourcesOk && snapshotPublished then
    { counted with
      successes := self.successes + 1
      consecutiveFailures := 0
      lastSuccess := some steadyNow
      lastSuccessWall := some wallNow
      generation := generation
      deviceCount := result.devices.length }
  else
    { counted with failures := self.failures + 1, consecutiveFailures := self.consecutiveFailures + 1 }

def codeClass (statusCode : Nat) : CodeClass :=
  if 500 ≤ statusCode then .«5xx» else if 400 ≤ statusCode then .«4xx» else .«2xx»

def recordHttpRequest (route : HttpRoute) (statusCode : Nat) (duration : Rat) : RuntimeStatus :=
  { self with
    httpRequests := fun r c =>
      if r = route ∧ c = codeClass statusCode then self.httpRequests r c + 1 else self.httpRequests r c
    httpDurations := fun r => if r = route then duration else self.httpDurations r }

def connectionOpened : RuntimeStatus := { self with activeConnections := self.activeConnections + 1 }
def connectionClosed : RuntimeStatus := { self with activeConnections := self.activeConnections - 1 }
def connectionRejected : RuntimeStatus := { self with rejectedConnections := self.rejectedConnections + 1 }
def beginShutdown : RuntimeStatus := { self with shuttingDown := true }

def readiness (now : Rat) : ReadinessReason :=
  if self.shuttingDown then .shuttingDown
  else match self.lastSuccess with
    | none => .initialCollection
    | some lastSuccess =>
      if self.generation = 0 then .initialCollection
      else if (self.sources .sysfsRoot).accessible = false then .criticalSource
      else if self.maxSnapshotAge < now - lastSuccess then .snapshotStale
      else if self.requireDevice && self.deviceCount = 0 then .deviceRequired
      else .ready

end RuntimeStatus

def allSources : List TelemetrySource := [.sysfsRoot, .allocationState, .janitorState, .metaliumProfilerState]

structure RuntimeStatusSnapshot where
  collectionAttempts : Nat
  successfulCollections : Nat
  failedCollections : Nat
  consecutiveCriticalFailures : Nat
  generation : Nat
  deviceCount : Nat
  shuttingDown : Bool
  issueTotals : CollectionIssue → Nat

def RuntimeStatus.snapshot (self : RuntimeStatus) : RuntimeStatusSnapshot where
  collectionAttempts := self.successes + self.failures
  successfulCollections := self.successes
  failedCollections := self.failures
  consecutiveCriticalFailures := self.consecutiveFailures
  generation := self.generation
  deviceCount := self.deviceCount
  shuttingDown := self.shuttingDown
  issueTotals := fun issue => (allSources.map (fun source => self.issueTotals source issue)).sum

end Tt
