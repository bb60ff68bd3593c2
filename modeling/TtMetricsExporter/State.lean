import TtMetricsExporter.SecureIo
/-!
# State — node-state ingestion for allocation, janitor and profiler data

`state.py`.  One `StateIngestor` holds the roots that could be opened and the time of the collection; `populate` fills a
device's allocation, janitor and workload fields.  The clock is read once for a collection.
-/
namespace Tt

open Py (Str)
open Posix (Node Path)

def maximumStateFileBytes : Nat := 16 * 1024
def maximumStateFiles : Nat := 4096
def maximumStateFields : Nat := 32
def maximumWorkloads : Nat := 1024
def maximumWorkloadIdBytes : Nat := 128
def maximumNamespaceBytes : Nat := 63
def maximumPodNameBytes : Nat := 253
def maximumContainerNameBytes : Nat := 63

def boundedLabel (value : Option Str) (maximum : Nat) (required : Bool := false) : Bool :=
  match value with
  | none => !required
  | some value => value.all Py.isAscii && value ≠ [] && value.length ≤ maximum &&
      value.all (fun c => 0x20 ≤ c.toNat && c.toNat ≤ 0x7E)

/-! ## `key=value` files -/

/-- A line's key and value; `none` where it has no `=` or an empty key. -/
def lineField (line : Str) : Option (Str × Str) :=
  if '=' ∈ line then
    let key := Py.stripAscii (Py.splitOnce '=' line).1
    if key = [] then none else some (key, Py.stripAscii (Py.splitOnce '=' line).2)
  else none

/-- One turn of the loop; `none` rejects the file. -/
def addLine (values : List (Str × Str)) (line : Str) : Option (List (Str × Str)) :=
  match lineField line with
  | none => some values
  | some (key, value) =>
    if maximumStateFields ≤ values.length ∨ key ∈ values.map Prod.fst then none else some (values ++ [(key, value)])

def parseKeyValues (content : Str) : Option (List (Str × Str)) :=
  if '\x00' ∈ content then none else (Py.splitlines content).foldlM addLine []

def stateString (values : List (Str × Str)) (key : Str) : Option Str :=
  (values.lookup key).filter (· ≠ [])

def stateNonNegativeInt (values : List (Str × Str)) (key : Str) : Except PyError (Option Int) := do
  let parsed ← parseInt64 ((stateString values key).getD [])
  return parsed.filter (0 ≤ ·)

/-! ## Workload records -/

/-- The record a file's values describe, before it is checked. -/
def workloadOf (values : List (Str × Str)) : Except PyError MetaliumWorkloadTelemetry := do
  let active ← stateNonNegativeInt values "active".toList
  let programsObserved ← stateNonNegativeInt values "programs_observed".toList
  let tensixCoresUsed ← stateNonNegativeInt values "tensix_cores_used".toList
  let tensixCoresTotal ← stateNonNegativeInt values "tensix_cores_total".toList
  let sampleTimestampSeconds ← stateNonNegativeInt values "sample_timestamp_seconds".toList
  return {
    workloadId := (stateString values "workload_id".toList).getD []
    podNamespace := stateString values "pod_namespace".toList
    podName := stateString values "pod_name".toList
    containerName := stateString values "container_name".toList
    active := active
    programsObserved := programsObserved
    tensixCoresUsed := tensixCoresUsed
    tensixCoresTotal := tensixCoresTotal
    sampleTimestampSeconds := sampleTimestampSeconds }

def invalidWorkload (w : MetaliumWorkloadTelemetry) : Bool :=
  !boundedLabel (some w.workloadId) maximumWorkloadIdBytes true || !boundedLabel w.podNamespace maximumNamespaceBytes ||
    !boundedLabel w.podName maximumPodNameBytes || !boundedLabel w.containerName maximumContainerNameBytes ||
    w.active.all (1 < ·) || w.programsObserved.isNone || w.tensixCoresUsed.isNone || w.sampleTimestampSeconds.isNone ||
    w.tensixCoresTotal.any (fun total => total = 0 || w.tensixCoresUsed.any (total < ·))

/-- Outside the freshness window, on either side of the clock. -/
def isStale (staleAfterSeconds now : Int) (timestamp : Int) : Bool :=
  0 < staleAfterSeconds && (timestamp < now - staleAfterSeconds || now + staleAfterSeconds < timestamp)

/-- The order of export: fresh before stale, then the latest first, then by identity. -/
def workloadKey (w : MetaliumWorkloadTelemetry) : Bool ×ₗ Int ×ₗ Str :=
  toLex (w.stale, toLex (-(w.sampleTimestampSeconds.getD 0), w.workloadId))

/-! ## Ingestion -/

structure StateIngestor where
  allocationRoot : Option SecureDirectory := none
  janitorRoot : Option SecureDirectory := none
  profilerRoot : Option SecureDirectory := none
  staleAfterSeconds : Int
  nowSeconds : Int
  deriving DecidableEq

def deviceKeys (device : DeviceTelemetry) : List Str :=
  ([device.id] ++ device.pci.bdf.toList ++
    ((device.characterDevice.bind (·.devName)).map Py.pathName).toList).filter (validComponent ·)

def validateLabel (value : Option Str) (maximum : Nat) (diagnostics : TelemetrySource) : Reading (Option Str) := do
  if value.isSome ∧ boundedLabel value maximum = false then
    recordIssue diagnostics .invalidValue
    return none
  return value

/-- `workloads.sort(key=...)`. -/
def sortWorkloads (workloads : List MetaliumWorkloadTelemetry) : List MetaliumWorkloadTelemetry :=
  workloads.insertionSort (fun a b => workloadKey a ≤ workloadKey b)

/-- The loop that keeps the first record of each identity and counts the others. -/
def uniqueWorkloads (identities : List Str) : List MetaliumWorkloadTelemetry → Reading (List MetaliumWorkloadTelemetry)
  | [] => return []
  | workload :: rest => do
    if workload.workloadId ∈ identities then
      recordIssue .metaliumProfilerState .invalidValue
      uniqueWorkloads identities rest
    else
      let unique ← uniqueWorkloads (workload.workloadId :: identities) rest
      return workload :: unique

/-- The records that may be exported: every v2 record, under its directory's name, and each legacy record whose identity
no v2 file claims.  A v2 record comes with the identity its file claims. -/
def exportable (v2 : List (Str × MetaliumWorkloadTelemetry)) (legacy : List MetaliumWorkloadTelemetry) :
    List MetaliumWorkloadTelemetry :=
  v2.map Prod.snd ++ legacy.filter (fun w => w.workloadId ∉ v2.map Prod.fst)

/-- What `_read_workloads` makes of the records it accepted. -/
def mergeWorkloads (v2 : List (Str × MetaliumWorkloadTelemetry)) (legacy : List MetaliumWorkloadTelemetry) :
    Reading (List MetaliumWorkloadTelemetry) := do
  let unique ← uniqueWorkloads [] (sortWorkloads (exportable v2 legacy))
  if maximumWorkloads < unique.length then
    recordIssue .metaliumProfilerState .cardinalityLimit
    return unique.take maximumWorkloads
  return unique

def applyWorkloads (device : DeviceTelemetry) : DeviceTelemetry :=
  let fresh := device.metaliumWorkloads.filter (fun w => !w.stale)
  if fresh = [] then device
  else
    let active := fresh.filter (fun w => w.active.any (· ≠ 0))
    let coresUsed := (active.map (fun w => w.tensixCoresUsed.getD 0)).sum
    let coresTotal := (fresh.filterMap (·.tensixCoresTotal)).max?
    let coresUsed := match coresTotal with
      | some total => min coresUsed total
      | none => coresUsed
    let tensix := device.tensix
    let tensix := if tensix.used.isNone then
        { tensix with used := some coresUsed, source := some "metalium_profiler".toList }
      else tensix
    let tensix := match tensix.total, coresTotal with
      | none, some total => { tensix with total := some total, source := some "metalium_profiler".toList }
      | _, _ => tensix
    let tensix := match tensix.available, coresTotal with
      | none, some total =>
        { tensix with available := some (max 0 (total - coresUsed)), source := some "metalium_profiler".toList }
      | _, _ => tensix
    { device with tensix := tensix }

namespace StateIngestor
variable (fs : Node)

/-- A root whose path is configured and can be opened. -/
def openRoot (path : Option Path) (source : TelemetrySource) : Reading (Option SecureDirectory) :=
  match path with
  | none => return none
  | some path => SecureDirectory.openRoot fs path source

/-- `StateIngestor.open`. -/
def openRoots (config : CollectorConfig) (now : Int) : Reading StateIngestor := do
  let allocation ← openRoot fs config.allocationStateRoot .allocationState
  let janitor ← openRoot fs config.janitorStateRoot .janitorState
  let profiler ← openRoot fs config.metaliumProfilerStateRoot .metaliumProfilerState
  return {
    allocationRoot := allocation
    janitorRoot := janitor
    profilerRoot := profiler
    staleAfterSeconds := config.metaliumProfilerStaleAfterSeconds
    nowSeconds := now }

def firstDeviceDirectory (root : SecureDirectory) (device : DeviceTelemetry) (diagnostics : TelemetrySource) :
    Reading (Option SecureDirectory) :=
  Tally.first (fun candidate => root.openDirectory fs candidate diagnostics) (deviceKeys device)

def readAllocation (device : DeviceTelemetry) (root : SecureDirectory) : Reading AllocationTelemetry := do
  let diagnostics := TelemetrySource.allocationState
  match ← firstDeviceDirectory fs root device diagnostics with
  | none => return {}
  | some directory =>
    let claimNamespace ← directory.readText fs "claim_namespace".toList maximumNamespaceBytes diagnostics
    let claimName ← directory.readText fs "claim_name".toList maximumPodNameBytes diagnostics
    let claimUid ← directory.readText fs "claim_uid".toList maximumWorkloadIdBytes diagnostics
    let podNamespace ← directory.readText fs "pod_namespace".toList maximumNamespaceBytes diagnostics
    let podName ← directory.readText fs "pod_name".toList maximumPodNameBytes diagnostics
    let containerName ← directory.readText fs "container_name".toList maximumContainerNameBytes diagnostics
    let claimNamespace ← validateLabel claimNamespace maximumNamespaceBytes diagnostics
    let claimName ← validateLabel claimName maximumPodNameBytes diagnostics
    let claimUid ← validateLabel claimUid maximumWorkloadIdBytes diagnostics
    let podNamespace ← validateLabel podNamespace maximumNamespaceBytes diagnostics
    let podName ← validateLabel podName maximumPodNameBytes diagnostics
    let containerName ← validateLabel containerName maximumContainerNameBytes diagnostics
    recordAccepted diagnostics
    return {
      claimNamespace := claimNamespace
      claimName := claimName
      claimUid := claimUid
      podNamespace := podNamespace
      podName := podName
      containerName := containerName }

def readStateInt (directory : SecureDirectory) (name : Str) (diagnostics : TelemetrySource) : Reading (Option Int) := do
  match ← directory.readText fs name maximumStateFileBytes diagnostics with
  | none => return none
  | some value =>
    match ← Tally.lift (parseInt64 value) with
    | some parsed => return some parsed
    | none =>
      recordIssue diagnostics .invalidValue
      return none

def readJanitor (device : DeviceTelemetry) (root : SecureDirectory) : Reading JanitorTelemetry := do
  let diagnostics := TelemetrySource.janitorState
  match ← firstDeviceDirectory fs root device diagnostics with
  | none => return {}
  | some directory =>
    let state ← directory.readText fs "state".toList 128 diagnostics
    let quarantineReason ← directory.readText fs "quarantine_reason".toList 256 diagnostics
    let lastScrubStatus ← directory.readText fs "last_scrub_status".toList 128 diagnostics
    let lastResetStatus ← directory.readText fs "last_reset_status".toList 128 diagnostics
    let scrubCount ← readStateInt fs directory "scrub_count".toList diagnostics
    let resetCount ← readStateInt fs directory "reset_count".toList diagnostics
    let lastScrub ← readStateInt fs directory "last_scrub_timestamp_seconds".toList diagnostics
    let lastReset ← readStateInt fs directory "last_reset_timestamp_seconds".toList diagnostics
    let state ← validateLabel state 128 diagnostics
    let quarantineReason ← validateLabel quarantineReason 256 diagnostics
    let lastScrubStatus ← validateLabel lastScrubStatus 128 diagnostics
    let lastResetStatus ← validateLabel lastResetStatus 128 diagnostics
    recordAccepted diagnostics
    return {
      state := state
      quarantineReason := quarantineReason
      lastScrubStatus := lastScrubStatus
      lastResetStatus := lastResetStatus
      scrubCount := scrubCount
      resetCount := resetCount
      lastScrubTimestampSeconds := lastScrub
      lastResetTimestampSeconds := lastReset }

variable (self : StateIngestor)

def parseWorkload (content : Str) (expectedSchema : Int) (diagnostics : TelemetrySource) :
    Reading (Option MetaliumWorkloadTelemetry) := do
  match parseKeyValues content with
  | none =>
    recordIssue diagnostics .invalidValue
    return none
  | some values =>
    let schema ← Tally.lift (stateNonNegativeInt values "schema_version".toList)
    if schema ≠ some expectedSchema then
      recordIssue diagnostics .unsupportedSchema
      return none
    let workload ← Tally.lift (workloadOf values)
    if invalidWorkload workload then
      recordIssue diagnostics .invalidValue
      return none
    let stale := isStale self.staleAfterSeconds self.nowSeconds (workload.sampleTimestampSeconds.getD 0)
    if stale then recordIssue diagnostics .staleRecord
    recordAccepted diagnostics
    return some { workload with stale := stale }

/-- One turn of the loop of `_read_v2_workloads`: the identity the snapshot claims, and the record under its
directory's name. -/
def readPod (device : DeviceTelemetry) (workloadRoot : SecureDirectory) (podUid : Str) :
    Reading (Option (Str × MetaliumWorkloadTelemetry)) := do
  let diagnostics := TelemetrySource.metaliumProfilerState
  if validComponent podUid maximumWorkloadIdBytes = false then
    recordIssue diagnostics .invalidValue
    return none
  match ← workloadRoot.openDirectory fs podUid diagnostics with
  | none => return none
  | some pod => match ← firstDeviceDirectory fs pod device diagnostics with
    | none => return none
    | some directory => match ← directory.readText fs "snapshot.state".toList maximumStateFileBytes diagnostics with
      | none => return none
      | some content => match ← self.parseWorkload content 2 diagnostics with
        | none => return none
        | some workload => return some (workload.workloadId, { workload with workloadId := podUid })

def readV2Workloads (device : DeviceTelemetry) (workloadRoot : SecureDirectory) :
    Reading (List (Str × MetaliumWorkloadTelemetry)) := do
  let podUids ← workloadRoot.entries fs maximumStateFiles .metaliumProfilerState
  Tally.each (self.readPod fs device workloadRoot) podUids

/-- The directory `v2/workloads`, where both can be opened. -/
def openWorkloadRoot (root : SecureDirectory) : Reading (Option SecureDirectory) := do
  match ← root.openDirectory fs "v2".toList .metaliumProfilerState with
  | none => return none
  | some v2 => v2.openDirectory fs "workloads".toList .metaliumProfilerState

/-- The v2 half of `_read_workloads`. -/
def readV2 (device : DeviceTelemetry) (root : SecureDirectory) : Reading (List (Str × MetaliumWorkloadTelemetry)) := do
  match ← openWorkloadRoot fs root with
  | none => return []
  | some workloadRoot => self.readV2Workloads fs device workloadRoot

/-- One turn of the loop over legacy files. -/
def readLegacyFile (directory : SecureDirectory) (filename : Str) : Reading (Option MetaliumWorkloadTelemetry) := do
  if filename.length ≤ 6 ∨ Py.endsWith ".state".toList filename = false then return none
  match ← directory.readText fs filename maximumStateFileBytes .metaliumProfilerState with
  | none => return none
  | some content => self.parseWorkload content 1 .metaliumProfilerState

/-- The legacy half of `_read_workloads`. -/
def readLegacy (device : DeviceTelemetry) (root : SecureDirectory) : Reading (List MetaliumWorkloadTelemetry) := do
  match ← firstDeviceDirectory fs root device .metaliumProfilerState with
  | none => return []
  | some directory =>
    let filenames ← directory.entries fs maximumStateFiles .metaliumProfilerState
    Tally.each (self.readLegacyFile fs directory) filenames

def readWorkloads (device : DeviceTelemetry) (root : SecureDirectory) : Reading (List MetaliumWorkloadTelemetry) := do
  let v2 ← self.readV2 fs device root
  let legacy ← self.readLegacy fs device root
  mergeWorkloads v2 legacy

/-! The three steps of `populate`, each skipped where its root could not be opened. -/

def populateAllocation (device : DeviceTelemetry) : Reading DeviceTelemetry :=
  match self.allocationRoot with
  | none => return device
  | some root => do
    let allocation ← readAllocation fs device root
    return { device with allocation := allocation }

def populateJanitor (device : DeviceTelemetry) : Reading DeviceTelemetry :=
  match self.janitorRoot with
  | none => return device
  | some root => do
    let janitor ← readJanitor fs device root
    return { device with janitor := janitor }

def populateWorkloads (device : DeviceTelemetry) : Reading DeviceTelemetry :=
  match self.profilerRoot with
  | none => return device
  | some root => do
    let workloads ← self.readWorkloads fs device root
    return applyWorkloads { device with metaliumWorkloads := workloads }

def populate (device : DeviceTelemetry) : Reading DeviceTelemetry := do
  let device ← self.populateAllocation fs device
  let device ← self.populateJanitor fs device
  self.populateWorkloads fs device

end StateIngestor
end Tt
