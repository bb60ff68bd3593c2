import TtMetricsExporter.Dictionary
import TtMetricsExporter.RelyGuarantee
import TtMetricsExporter.Service
import TtMetricsExporter.StatusText
/-!
# Requests — what the exporter's threads do to its shared state

The application of `http.py`, with the providers of `cli.py`: a request is checked, routed, answered from the snapshot
store and the status, and counted, whatever becomes of it.  Next to the requests run the poll loop, the callbacks of the
connections and the shutdown.  Each access under a lock is one action on the `ExporterService`.  How Starlette matches a
path is the parameter `Starlette`, and a send that fails or is cancelled is input.
-/
namespace Tt

open Py (Str)

/-! ## Messages -/

/-- The ASGI scope of a request. -/
structure Scope where
  method : Str
  rawPath : List UInt8
  queryString : List UInt8
  httpVersion : Str
  path : Str
  headers : List (List UInt8 × List UInt8)

structure Response where
  status : Nat
  headers : List (String × String)
  body : Str
  deriving DecidableEq

/-- `_response` -/
def response (status : Nat) (contentType : String) (body : Str) (headers : List (String × String) := []) :
    Response where
  status := status
  headers := headers.foldl (fun all header => Py.setItem header.1 header.2 all)
    [("Content-Type", contentType), ("Connection", "close"), ("X-Content-Type-Options", "nosniff")]
  body := body

/-- `_route` -/
def httpRoute (path : Str) : HttpRoute :=
  ([("/metrics".toList, .metrics), ("/v1/devices".toList, .devices), ("/healthz".toList, .health),
    ("/readyz".toList, .ready)].lookup path).getD .other

/-! ## Checks -/

/-- `b"text"` -/
def ascii (text : String) : List UInt8 := text.toUTF8.toList

def lowerByte (b : UInt8) : UInt8 := if 65 ≤ b ∧ b ≤ 90 then b + 32 else b

def isSpaceByte (b : UInt8) : Bool := (9 ≤ b && b ≤ 13) || b == 32

/-- `value.strip()` -/
def stripBytes (value : List UInt8) : List UInt8 := (value.dropWhile isSpaceByte).rdropWhile isSpaceByte

namespace Scope
variable (self : Scope)

def headerBytes : Nat :=
  self.method.length + (self.rawPath.length + self.queryString.length) + self.httpVersion.length + 12 +
    (self.headers.map (fun header => header.1.length + header.2.length + 4)).sum

/-- The last header of a name is the one that counts. -/
def headerMap : List (List UInt8 × List UInt8) :=
  self.headers.foldl (fun all header => Py.setItem (header.1.map lowerByte) (stripBytes header.2) all) []

/-- The answer that the checks before the application give, if they do. -/
def refusal (maximumHeaderBytes : Nat) : Option Response :=
  if maximumHeaderBytes < self.headerBytes then some (response 431 "text/plain" "headers too large\n".toList)
  else if (self.headerMap.lookup (ascii "transfer-encoding")).isSome ∨
      (self.headerMap.lookup (ascii "content-length")).getD (ascii "0") ≠ ascii "0" then
    some (response 400 "text/plain" "bad request\n".toList)
  else if self.method ≠ "GET".toList then
    some (response 405 "text/plain" "method not allowed\n".toList [("Allow", "GET")])
  else none

end Scope

/-! ## Routes -/

/-- Starlette's routing: a template without parameters matches itself, the parameter `{path:path}` any rest of a path;
what no route takes, such as a path with a newline, it answers itself. -/
structure Starlette where
  matchesPath : String → Str → Bool
  unmatched : Str → Response
  matches_literal : ∀ template path, '\x7b' ∉ template.toList → '\n' ∉ path →
    (matchesPath template path = true ↔ path = template.toList)
  matches_rest : ∀ path, '\n' ∉ path → (matchesPath "/\x7bpath:path\x7d" path = true ↔ path.head? = some '/')

inductive Endpoint where
  | metrics | devices | health | ready | missing
  deriving DecidableEq

def routes : List (String × Endpoint) :=
  [("/metrics", .metrics), ("/v1/devices", .devices), ("/healthz", .health), ("/readyz", .ready),
    ("/\x7bpath:path\x7d", .missing)]

/-- The first route that matches. -/
def Starlette.endpoint (starlette : Starlette) (path : Str) : Option Endpoint :=
  (routes.find? (fun r => starlette.matchesPath r.1 path)).map (·.2)

/-! ## Bodies -/

def ReadinessReason.value : ReadinessReason → String
  | .ready => "ready"
  | .initialCollection => "initial_collection"
  | .criticalSource => "critical_source"
  | .snapshotStale => "snapshot_stale"
  | .deviceRequired => "device_required"
  | .shuttingDown => "shutting_down"

/-- `ExporterService.devices`, with what the store holds. -/
def devicesBody (snapshots : SnapshotStore) : Str :=
  match snapshots with
  | none => "[]\n".toList
  | some snapshot => snapshot.devicesJson

def readyResponse (readiness : ReadinessReason) : Response :=
  let isReady := readiness = .ready
  response (if isReady then 200 else 503) "application/json"
    ("\x7b\"ready\":".toList ++ (if isReady then "true".toList else "false".toList) ++ ",\"reason\":\"".toList ++
      readiness.value.toList ++ "\"\x7d\n".toList)

/-! ## Threads -/

/-- Where a request breaks off: before its response has started, or after. -/
inductive Interruption where
  | beforeStart | afterStart
  deriving DecidableEq

/-- What ends a request that breaks off: the status of its response, where this has started. -/
structure Interrupted where
  started : Option Nat

/-- A request, with the readings of the clock while it is handled. -/
structure Request where
  scope : Scope
  now : Rat
  duration : Rat
  interrupted : Option Interruption := none

/-- What is fixed for a server. -/
structure ServerOptions where
  service : ServiceOptions
  number : Rat → Numeral
  build : BuildInfo
  starlette : Starlette
  maximumHeaderBytes : Nat := 8 * 1024

abbrev Serving (α : Type) := Thread Interrupted ExporterService α

section Serving
variable (options : ServerOptions)

/-- `ExporterService.metrics` -/
def metricsProvider (now : Rat) : Serving Str := do
  let snapshots ← .get (fun s => s.snapshots)
  let status ← .get (fun s => s.status.renderPrometheus options.number options.build now)
  return metricsBody (snapshots.map (·.prometheus)) status

/-- The endpoints of the application. -/
def application (r : Request) : Serving Response :=
  match options.starlette.endpoint r.scope.path with
  | some .metrics => do
    let body ← metricsProvider options r.now
    return response 200 "text/plain; version=0.0.4; charset=utf-8" body
  | some .devices => do
    let body ← .get (fun s => devicesBody s.snapshots)
    return response 200 "application/json" body
  | some .health => return response 200 "text/plain" "ok\n".toList
  | some .ready => do
    let readiness ← .get (fun s => s.status.readiness r.now)
    return readyResponse readiness
  | some .missing => return response 404 "text/plain" "not found\n".toList
  | none => return options.starlette.unmatched r.scope.path

/-- The status code that is recorded, and what becomes of the request. -/
def Request.sent (r : Request) (answer : Response) : Nat × Except Interrupted Response :=
  match r.interrupted with
  | none => (answer.status, .ok answer)
  | some .beforeStart => (500, .error ⟨none⟩)
  | some .afterStart => (answer.status, .error ⟨some answer.status⟩)

/-- What is sent: the answer of a check that fails, or the application's. -/
def answerRequest (r : Request) : Serving Response :=
  match r.scope.refusal options.maximumHeaderBytes with
  | some refusal => return refusal
  | none => application options r

/-- `_ContractMiddleware.__call__` -/
def handleRequest (r : Request) : Serving Response := do
  let answer ← answerRequest options r
  .update (fun s =>
    { s with status := s.status.recordHttpRequest (httpRoute r.scope.path) (r.sent answer).1 r.duration })
  .ofExcept (r.sent answer).2

/-- The poll loop, over the refreshes whose `collect` returns. -/
def pollLoop : List Refresh → Serving Unit
  | [] => pure ()
  | r :: rest => do
    let published ← .atomic (fun s => (.ok (s.publishStep options.service r).2, (s.publishStep options.service r).1))
    .update (fun s => s.recordStep r published)
    pollLoop rest

/-- What a connection's callbacks tell the status. -/
inductive ConnectionEvent where
  | opened | closed | rejected

def ConnectionEvent.record : ConnectionEvent → RuntimeStatus → RuntimeStatus
  | .opened, status => status.connectionOpened
  | .closed, status => status.connectionClosed
  | .rejected, status => status.connectionRejected

/-- What a thread of the exporter does. -/
inductive Activity where
  | poll (refreshes : List Refresh)
  | request (r : Request)
  | connection (event : ConnectionEvent)
  | shutdown

/-- The program of a thread; a request gives its response. -/
def Activity.thread : Activity → Serving (Option Response)
  | .poll refreshes => do
    pollLoop options refreshes
    return none
  | .request r => do
    let answer ← handleRequest options r
    return some answer
  | .connection event => do
    .update (fun s => { s with status := event.record s.status })
    return none
  | .shutdown => do
    .update (fun s => { s with status := s.status.beginShutdown })
    return none

/-- An exporter that has just started, with its threads. -/
def exporter {ι : Type} (maxSnapshotAge : Rat) (requireDevice : Bool) (activities : ι → Activity) :
    Pool ι Interrupted ExporterService (Option Response) where
  state := .start maxSnapshotAge requireDevice
  threads i := (activities i).thread options

end Serving
end Tt
