import TtMetricsExporter.Runtime
import TtMetricsExporter.Prometheus
import TtMetricsExporter.Documents
/-!
# StatusText — the text of the exporter's own metrics

`RuntimeStatus.render_prometheus`.  What `_number` makes of a float is a parameter, `number`; `BuildInfo` has the fields
that are set when the status is made and that only its text reads.  Unlike the devices' families these stand one under
the other without an empty line.
-/
namespace Tt

open Py (Str strInt)
open Exposition (Sample Family)

def TelemetrySource.value : TelemetrySource → String
  | .sysfsRoot => "sysfs_root"
  | .allocationState => "allocation_state"
  | .janitorState => "janitor_state"
  | .metaliumProfilerState => "metalium_profiler_state"

def CollectionIssue.value : CollectionIssue → String
  | .missingRoot => "missing_root"
  | .permissionDenied => "permission_denied"
  | .readFailed => "read_failed"
  | .invalidValue => "invalid_value"
  | .oversizedRecord => "oversized_record"
  | .unsupportedSchema => "unsupported_schema"
  | .cardinalityLimit => "cardinality_limit"
  | .staleRecord => "stale_record"

def HttpRoute.value : HttpRoute → String
  | .metrics => "metrics"
  | .devices => "devices"
  | .health => "health"
  | .ready => "ready"
  | .other => "other"

def CodeClass.value : CodeClass → String
  | .«2xx» => "2xx"
  | .«4xx» => "4xx"
  | .«5xx» => "5xx"

def allIssues : List CollectionIssue :=
  [.missingRoot, .permissionDenied, .readFailed, .invalidValue, .oversizedRecord, .unsupportedSchema, .cardinalityLimit,
    .staleRecord]

def allRoutes : List HttpRoute := [.metrics, .devices, .health, .ready, .other]

def allCodes : List CodeClass := [.«2xx», .«4xx», .«5xx»]

structure BuildInfo where
  version : Str
  revision : Str
  processStart : Rat

/-- One family of the status: its samples are labels and a value. -/
structure StatusMetric where
  name : String
  help : String
  type : String
  samples : List (List (String × Str) × Str)

def StatusMetric.family (m : StatusMetric) : Family :=
  ⟨m.name.toList, m.help.toList, m.type.toList,
    m.samples.map (fun x => ⟨m.name.toList, x.1.map (fun l => (l.1.toList, l.2)), x.2⟩)⟩

/-- The records of a source that were rejected: every issue but staleness. -/
def SourceDiagnostics.rejected (d : SourceDiagnostics) : Nat :=
  ((allIssues.filter (· ≠ .staleRecord)).map d.issues).sum

section Text
variable (number : Rat → Numeral)

namespace RuntimeStatus
variable (self : RuntimeStatus) (build : BuildInfo) (now : Rat)

/-- The age of the last success, none being of no age. -/
def snapshotAge : Rat :=
  match self.lastSuccess with
  | some lastSuccess => max 0 (now - lastSuccess)
  | none => 0

def metrics : List StatusMetric := [
  ⟨"tt_exporter_build_info", "Exporter build information.", "gauge",
    [([("version", build.version), ("revision", build.revision)], ['1'])]⟩,
  ⟨"tt_exporter_uptime_seconds", "Seconds since process start.", "gauge",
    [([], (number (now - build.processStart)).text)]⟩,
  ⟨"tt_exporter_ready", "Whether the exporter is ready.", "gauge", [([], flag (self.readiness now = .ready))]⟩,
  ⟨"tt_exporter_collection_attempts_total", "Collection attempts by result.", "counter",
    [([("result", "success".toList)], strInt self.successes), ([("result", "failure".toList)], strInt self.failures)]⟩,
  ⟨"tt_exporter_collection_duration_seconds", "Last collection duration.", "gauge",
    [([], (number self.lastCollectionDuration).text)]⟩,
  ⟨"tt_exporter_last_success_timestamp_seconds", "Unix timestamp of the last successful collection.", "gauge",
    [([], (number (self.lastSuccessWall.getD 0)).text)]⟩,
  ⟨"tt_exporter_snapshot_age_seconds", "Age of the current complete snapshot.", "gauge",
    [([], (number (self.snapshotAge now)).text)]⟩,
  ⟨"tt_exporter_source_accessible", "Whether a configured source root is accessible.", "gauge",
    allSources.map (fun source => ([("source", source.value.toList)], flag (self.sources source).accessible))⟩,
  ⟨"tt_exporter_collection_issues_total", "Collection issues by bounded source and reason.", "counter",
    allSources.flatMap (fun source => allIssues.map (fun issue =>
      ([("source", source.value.toList), ("reason", issue.value.toList)], strInt (self.issueTotals source issue))))⟩,
  ⟨"tt_exporter_state_records", "Current state records by source and status.", "gauge",
    allSources.flatMap (fun source =>
      [([("source", source.value.toList), ("status", "accepted".toList)], strInt (self.sources source).recordsAccepted),
        ([("source", source.value.toList), ("status", "rejected".toList)], strInt (self.sources source).rejected)])⟩,
  ⟨"tt_exporter_http_requests_total", "HTTP requests by bounded route and status class.", "counter",
    allRoutes.flatMap (fun route => allCodes.map (fun code =>
      ([("route", route.value.toList), ("code_class", code.value.toList)], strInt (self.httpRequests route code))))⟩,
  ⟨"tt_exporter_http_request_duration_seconds", "Last HTTP request duration by route.", "gauge",
    allRoutes.map (fun route => ([("route", route.value.toList)], (number (self.httpDurations route)).text))⟩,
  ⟨"tt_exporter_http_connections_active", "Active HTTP connections.", "gauge",
    [([], strInt self.activeConnections)]⟩,
  ⟨"tt_exporter_http_connections_rejected_total", "Rejected HTTP connections.", "counter",
    [([], strInt self.rejectedConnections)]⟩]

def families : List Family := (self.metrics number build now).map StatusMetric.family

def renderPrometheus : Str := Exposition.text ((self.families number build now).flatMap Family.block)

end RuntimeStatus
end Text

/-- `ExporterService.metrics`, with the text of the snapshot in the store. -/
def metricsBody (prometheus : Option Str) (status : Str) : Str := prometheus.getD [] ++ status

end Tt
