import TtMetricsExporter.Runtime
import TtMetricsExporter.Prometheus
import TtMetricsExporter.DevicesJson
/-!
# Service — refreshing the snapshot

`snapshot.py` and the refresh path of `cli.py`.  A refresh publishes to the snapshot store and then records in the
runtime status, two critical sections one after the other: `publishStep` and `recordStep`.  What the renderers, the
clocks and the collector give is the refresh's input; a renderer that fails is one of the exceptions `refresh` catches.
What is logged is left out.
-/
namespace Tt

open Py (Str)

structure ExporterSnapshot where
  generation : Nat
  collection : CollectionResult
  prometheus : Str
  devicesJson : Str

/-- What the store holds. -/
abbrev SnapshotStore := Option ExporterSnapshot

/-- The generation last published; none is generation zero. -/
def SnapshotStore.generation (store : SnapshotStore) : Nat := (store.map (·.generation)).getD 0

/-- `publish`: the store holds the snapshot it returns. -/
def SnapshotStore.publish (store : SnapshotStore) (collection : CollectionResult) (prometheus devicesJson : Str) :
    ExporterSnapshot :=
  ⟨match store with
    | none => 1
    | some snapshot => snapshot.generation + 1, collection, prometheus, devicesJson⟩

structure ExporterService where
  snapshots : SnapshotStore := none
  status : RuntimeStatus

/-- A service that has not refreshed yet. -/
def ExporterService.start (maxSnapshotAge : Rat) (requireDevice : Bool) : ExporterService :=
  ⟨none, { maxSnapshotAge := maxSnapshotAge, requireDevice := requireDevice }⟩

/-- What is fixed for a service: its options and how it formats floats. -/
structure ServiceOptions where
  config : CollectorConfig
  maximumRenderedPayloadBytes : Nat
  ratio : Int → Int → Numeral

/-- What one refresh meets, once `collect` has returned. -/
structure Refresh where
  collection : CollectionResult
  renderFails : Bool
  duration : Rat
  steadyNow : Rat
  wallNow : Rat

section Refresh
variable (options : ServiceOptions)

/-- The two renderings, where neither fails. -/
def Refresh.rendered (r : Refresh) : Option (Str × Str) :=
  if r.renderFails then none
  else some (renderPrometheus options.ratio r.collection.devices, renderDevicesJson r.collection.devices)

/-- The renderings that are published, if any. -/
def Refresh.payloads (r : Refresh) : Option (Str × Str) :=
  if r.collection.criticalSourcesOk then
    (r.rendered options).filter (fun p =>
      Py.utf8Size p.1 ≤ options.maximumRenderedPayloadBytes && Py.utf8Size p.2 ≤ options.maximumRenderedPayloadBytes)
  else none

namespace ExporterService
variable (self : ExporterService)

/-- The first section: the store after it, and the snapshot that was published. -/
def publishStep (r : Refresh) : ExporterService × Option ExporterSnapshot :=
  match r.payloads options with
  | none => (self, none)
  | some (prometheus, devicesJson) =>
    let snapshot := SnapshotStore.publish self.snapshots r.collection prometheus devicesJson
    ({ self with snapshots := some snapshot }, some snapshot)

/-- The second section. -/
def recordStep (r : Refresh) (published : Option ExporterSnapshot) : ExporterService :=
  { self with status := match published with
    | some snapshot =>
      self.status.recordCollection r.steadyNow r.wallNow snapshot.collection r.duration true snapshot.generation
    | none => self.status.recordCollection r.steadyNow r.wallNow r.collection r.duration false 0 }

def refresh (r : Refresh) : ExporterService :=
  let (self, published) := self.publishStep options r
  self.recordStep r published

end ExporterService
end Refresh

/-! ## The poll loop -/

/-- What one turn of the poll loop meets, `collect` included. -/
structure Tick where
  machine : Machine
  renderFails : Bool
  duration : Rat
  steadyNow : Rat
  wallNow : Rat

def Tick.refresh (t : Tick) (collection : CollectionResult) : Refresh where
  collection := collection
  renderFails := t.renderFails
  duration := t.duration
  steadyNow := t.steadyNow
  wallNow := t.wallNow

section Poll
variable (options : ServiceOptions)

/-- `refresh` with the call of `collect`, which is outside its `try`. -/
def ExporterService.collectAndRefresh (self : ExporterService) (t : Tick) : Except PyError ExporterService :=
  match SysfsCollector.collect t.machine options.config with
  | .error e => .error e
  | .ok collection => .ok (self.refresh options (t.refresh collection))

/-- The service after the polling thread has seen some ticks: an exception ends the thread. -/
def ExporterService.poll (self : ExporterService) : List Tick → ExporterService
  | [] => self
  | t :: rest => match self.collectAndRefresh options t with
    | .error _ => self
    | .ok self => self.poll rest

end Poll
end Tt
