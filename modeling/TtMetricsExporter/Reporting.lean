import TtMetricsExporter.Logging
import TtMetricsExporter.Requests
import Mathlib.Data.List.Destutter
/-!
# Reporting — what the exporter says of itself in its log

The logging of `ExporterService.refresh`, of a refused connection and of `shutdown`, among the requests.  Warnings go
through `log_rate_limited`, under one key for each subject; what a refresh did and a change of readiness go through
`log`.  There are fewer subjects than the table of keys has room for, so that it never silences one.
-/
namespace Tt

open Py (Str strInt)

/-! ## Warnings -/

/-- What `log_rate_limited` is called with. -/
inductive Warning where
  | collectionFailed (criticalSourcesOk : Bool)
  | sourceDegraded (source : TelemetrySource)
  | recordRejected (source : TelemetrySource) (issue : CollectionIssue) (count : Nat)
  | connectionRejected
  deriving DecidableEq

namespace Warning

/-- The part of the key that says why a collection failed. -/
def failure (criticalSourcesOk : Bool) : String := if criticalSourcesOk then "render_failed" else "critical_source"

def key : Warning → Str
  | collectionFailed ok => "collector:".toList ++ (failure ok).toList
  | sourceDegraded source => "source:".toList ++ source.value.toList
  | recordRejected source issue _ => "issue:".toList ++ source.value.toList ++ ':' :: issue.value.toList
  | connectionRejected => "http:connection_limit".toList

def event : Warning → Str
  | collectionFailed _ => "collector.failed".toList
  | sourceDegraded _ => "collector.source_degraded".toList
  | recordRejected _ _ _ => "state.record_rejected".toList
  | connectionRejected => "http.request_rejected".toList

def message : Warning → Str
  | collectionFailed _ => "collection did not publish a complete snapshot".toList
  | sourceDegraded _ => "configured telemetry source is inaccessible".toList
  | recordRejected _ _ _ => "telemetry input was rejected".toList
  | connectionRejected => "HTTP connection limit reached".toList

def fields : Warning → List (Str × Str)
  | collectionFailed ok => [("status".toList, (failure ok).toList)]
  | sourceDegraded source => [("source".toList, source.value.toList)]
  | recordRejected source issue count =>
    [("source".toList, source.value.toList), ("status".toList, issue.value.toList), ("count".toList, strInt count)]
  | connectionRejected => []

def call (w : Warning) : LogCall where
  level := .warn
  event := w.event
  message := w.message
  boundedKey := w.key
  fields := w.fields

/-- The warning without its count. -/
def subject : Warning → Warning
  | recordRejected source issue _ => recordRejected source issue 0
  | w => w

/-- The subjects there are. -/
def subjects : List Warning :=
  [collectionFailed true, collectionFailed false, connectionRejected] ++ allSources.map sourceDegraded ++
    allSources.flatMap (fun source => allIssues.map (fun issue => recordRejected source issue 0))

end Warning

/-- The warnings about the sources of a collection. -/
def sourceWarnings (diagnostics : TelemetrySource → SourceDiagnostics) : List Warning :=
  allSources.flatMap (fun source =>
    (if (diagnostics source).configured && !(diagnostics source).accessible then [.sourceDegraded source] else []) ++
    (allIssues.filter (fun issue => (diagnostics source).issues issue ≠ 0)).map (fun issue =>
      .recordRejected source issue ((diagnostics source).issues issue)))

/-! ## The service and its log -/

structure Operation where
  service : ExporterService
  previousReadiness : ReadinessReason := .initialCollection
  logger : Logger
  /-- What `log` has written. -/
  logged : List LogCall := []

namespace Operation
variable (self : Operation)

/-- `Logger.log` -/
def log (call : LogCall) : Operation :=
  if call.level.value < self.logger.minimum.value then self else { self with logged := self.logged ++ [call] }

instance (logger : Logger) (call : LogCall) : Decidable (logger.Admits call) := inferInstanceAs (Decidable (_ ∧ _ ∧ _))

/-- `Logger.log_rate_limited`, with what it has read of the clock. -/
def logRateLimited (now : Rat) (call : LogCall) : Operation :=
  if self.logger.Admits call then { self with logger := self.logger.locked now call } else self

def withService (service : ExporterService) : Operation := { self with service := service }

end Operation

/-- A line that `log` writes. -/
def plainCall (level : LogLevel) (event message : String) (fields : List (Str × Str) := []) : LogCall where
  level := level
  event := event.toList
  message := message.toList
  boundedKey := []
  fields := fields

def completedCall (snapshot : ExporterSnapshot) (duration : Rat) : LogCall :=
  plainCall .debug "collector.completed" "collection completed"
    [("generation".toList, strInt snapshot.generation),
      ("duration_ms".toList, strInt ((duration * 1000).num.tdiv (duration * 1000).den)),
      ("count".toList, strInt snapshot.collection.devices.length)]

/-- The line about a readiness that has changed. -/
def readinessCall (readiness : ReadinessReason) : LogCall :=
  if readiness = .ready then plainCall .info "exporter.ready" "exporter is ready"
  else plainCall .warn "exporter.not_ready" "exporter is not ready" [("status".toList, readiness.value.toList)]

def shutdownCall : LogCall := plainCall .info "exporter.shutdown_started" "exporter shutdown started"

/-! ## Threads -/

/-- A refresh, with the readings of the clock for its warnings and for its readiness. -/
structure Report where
  refresh : Refresh
  clock : Warning → Rat
  readinessNow : Rat

abbrev Reporting (α : Type) := Thread Interrupted Operation α

section Reporting
variable (options : ServerOptions)

def warn (now : Rat) (w : Warning) : Reporting Unit := .update (fun s => s.logRateLimited now w.call)

def warnAll (clock : Warning → Rat) : List Warning → Reporting Unit
  | [] => pure ()
  | w :: rest => do
    warn (clock w) w
    warnAll clock rest

/-- What `refresh` does with a readiness; nothing else looks at the previous one. -/
def reportReadiness (readiness : ReadinessReason) : Reporting Unit := do
  let previous ← .get (fun s => s.previousReadiness)
  if readiness ≠ previous then
    .update (fun s => s.log (readinessCall readiness))
    .update (fun s => { s with previousReadiness := readiness })

/-- The line or the warning about the collection itself. -/
def reportCollection (r : Report) (published : Option ExporterSnapshot) : Reporting Unit :=
  match published with
  | some snapshot => .update (fun s => s.log (completedCall snapshot r.refresh.duration))
  | none =>
    let w := .collectionFailed r.refresh.collection.criticalSourcesOk
    warn (r.clock w) w

/-- `ExporterService.refresh`, with the readiness that it finds. -/
def reportingRefresh (r : Report) : Reporting ReadinessReason := do
  let published ← .atomic (fun s => (.ok (s.service.publishStep options.service r.refresh).2,
    s.withService (s.service.publishStep options.service r.refresh).1))
  .update (fun s => s.withService (s.service.recordStep r.refresh published))
  reportCollection r published
  let diagnostics := (published.map (·.collection.sources)).getD r.refresh.collection.sources
  warnAll r.clock (sourceWarnings diagnostics)
  let readiness ← .get (fun s => s.service.status.readiness r.readinessNow)
  reportReadiness readiness
  return readiness

/-- The refreshes of a service, and the readiness that each has found. -/
def reportingLoop : List Report → Reporting (List ReadinessReason)
  | [] => return []
  | r :: rest => do
    let readiness ← reportingRefresh options r
    let later ← reportingLoop rest
    return readiness :: later

/-- What the event loop does with a connection; only a refused one is warned of. -/
def reportConnection (event : ConnectionEvent) (now : Rat) : Reporting Unit := do
  .update (fun s => s.withService { s.service with status := event.record s.service.status })
  match event with
  | .rejected => warn now .connectionRejected
  | _ => pure ()

/-- The connections of an event loop, each with the reading of the clock for its warning. -/
def reportingConnections : List (ConnectionEvent × Rat) → Reporting Unit
  | [] => pure ()
  | (event, now) :: rest => do
    reportConnection event now
    reportingConnections rest

/-- What a thread of the exporter does, its logging included. -/
inductive Duty where
  | refreshes (reports : List Report)
  | request (r : Request)
  | connections (events : List (ConnectionEvent × Rat))
  | shutdown

def Duty.thread : Duty → Reporting (List ReadinessReason)
  | .refreshes reports => reportingLoop options reports
  | .request r => do
    let _ ← (handleRequest options r).within Operation.service (fun service s => s.withService service)
    return []
  | .connections events => do
    reportingConnections events
    return []
  | .shutdown => do
    .update (fun s => s.log shutdownCall)
    .update (fun s => s.withService { s.service with status := s.service.status.beginShutdown })
    return []

/-- An exporter that has just started, with its log. -/
def reportingExporter {ι : Type} (minimum : LogLevel) (maxSnapshotAge : Rat) (requireDevice : Bool)
    (duties : ι → Duty) : Pool ι Interrupted Operation (List ReadinessReason) where
  state :=
    { service := .start maxSnapshotAge requireDevice
      logger := { minimum := minimum } }
  threads i := (duties i).thread options

end Reporting
end Tt
