import TtMetricsExporter.PyNumber
import TtMetricsExporter.Posix
import TtMetricsExporter.Tally
/-!
# Models — the telemetry records shared by collectors and renderers

The dataclasses of `models.py` under their own names, the counters of `SourceDiagnostics`, and the computation every
reader is: it may raise, and it bumps the counters of the source it is handed (`Reading`).
-/
namespace Tt

open Py (Str)
open Posix (Path)

/-! ## Sources, issues and their counters -/

inductive TelemetrySource where
  | sysfsRoot | allocationState | janitorState | metaliumProfilerState
  deriving DecidableEq

inductive CollectionIssue where
  | missingRoot | permissionDenied | readFailed | invalidValue | oversizedRecord | unsupportedSchema | cardinalityLimit
  | staleRecord
  deriving DecidableEq

/-- The exceptions a reader can raise past its own handlers. -/
inductive PyError where
  | valueError | overflow
  deriving DecidableEq

/-- The counters of one source's diagnostics. -/
inductive Counter where
  | filesRead | recordsAccepted
  | issue (i : CollectionIssue)
  deriving DecidableEq

/-- One `+= 1` on a counter of the diagnostics of a source. -/
structure Increment where
  source : TelemetrySource
  counter : Counter
  deriving DecidableEq

abbrev Reading (α : Type) := Tally PyError Increment α

/-- `diagnostics.issues[issue] += 1`; the diagnostics handed around are those of one source. -/
def recordIssue (diagnostics : TelemetrySource) (i : CollectionIssue) : Reading Unit := Tally.count ⟨diagnostics, .issue i⟩

/-- `diagnostics.files_read += 1`. -/
def recordFileRead (diagnostics : TelemetrySource) : Reading Unit := Tally.count ⟨diagnostics, .filesRead⟩

/-- `diagnostics.records_accepted += 1`. -/
def recordAccepted (diagnostics : TelemetrySource) : Reading Unit := Tally.count ⟨diagnostics, .recordsAccepted⟩

structure SourceDiagnostics where
  source : TelemetrySource := .sysfsRoot
  configured : Bool := false
  accessible : Bool := false
  filesRead : Nat := 0
  recordsAccepted : Nat := 0
  issues : CollectionIssue → Nat := fun _ => 0

def SourceDiagnostics.bump (d : SourceDiagnostics) : Counter → SourceDiagnostics
  | .filesRead => { d with filesRead := d.filesRead + 1 }
  | .recordsAccepted => { d with recordsAccepted := d.recordsAccepted + 1 }
  | .issue i => { d with issues := fun j => if j = i then d.issues j + 1 else d.issues j }

/-! ## Device records -/

structure MemoryUsage where
  usedBytes : Option Int := none
  totalBytes : Option Int := none
  deriving DecidableEq

structure CharacterDevice where
  major : Int := 0
  minor : Int := 0
  devName : Option Str := none
  deriving DecidableEq

structure PciInfo where
  bdf : Option Str := none
  driver : Option Str := none
  vendorId : Option Str := none
  deviceId : Option Str := none
  classId : Option Str := none
  revision : Option Str := none
  subsystemVendorId : Option Str := none
  subsystemDeviceId : Option Str := none
  numaNode : Option Int := none
  iommuGroup : Option Int := none
  currentLinkSpeed : Option Str := none
  currentLinkWidth : Option Int := none
  maxLinkSpeed : Option Str := none
  maxLinkWidth : Option Int := none
  resetMethod : Option Str := none
  deriving DecidableEq

structure PciResource where
  index : Nat := 0
  start : Int := 0
  «end» : Int := 0
  flags : Int := 0
  sizeBytes : Int := 0
  deriving DecidableEq

structure PowerInfo where
  runtimeStatus : Option Str := none
  control : Option Str := none
  runtimeEnabled : Option Str := none
  runtimeActiveTimeMs : Option Int := none
  runtimeSuspendedTimeMs : Option Int := none
  runtimeUsage : Option Int := none
  runtimeActiveKids : Option Int := none
  autosuspendDelayMs : Option Int := none
  deriving DecidableEq

structure NamedCounter where
  name : Str := []
  value : Int := 0
  deriving DecidableEq

structure FirmwareTelemetry where
  aiClockMhz : Option Int := none
  axiClockMhz : Option Int := none
  arcClockMhz : Option Int := none
  heartbeat : Option Int := none
  thermalTripCount : Option Int := none
  serial : Option Str := none
  cardType : Option Str := none
  asicId : Option Str := none
  fwBundleVersion : Option Str := none
  m3AppFwVersion : Option Str := none
  m3BlFwVersion : Option Str := none
  arcFwVersion : Option Str := none
  ethFwVersion : Option Str := none
  ttflashVersion : Option Str := none
  deriving DecidableEq

structure HwmonSensor where
  name : Str := []
  label : Option Str := none
  unit : Str := []
  value : Int := 0
  deriving DecidableEq

structure MemoryTelemetry where
  usedBytes : Option Int := none
  totalBytes : Option Int := none
  freeBytes : Option Int := none
  availableBytes : Option Int := none
  bandwidthBytesPerSecond : Option Int := none
  type : Option Str := none
  controllerLayout : Option Str := none
  controllerCount : Option Int := none
  controllersPerAsic : Option Int := none
  channelCount : Option Int := none
  deriving DecidableEq

structure TensixTelemetry where
  used : Option Int := none
  available : Option Int := none
  total : Option Int := none
  meshRows : Option Int := none
  meshCols : Option Int := none
  topology : Option Str := none
  activeRegions : Option Str := none
  source : Option Str := none
  deriving DecidableEq

structure MetaliumWorkloadTelemetry where
  workloadId : Str := []
  podNamespace : Option Str := none
  podName : Option Str := none
  containerName : Option Str := none
  active : Option Int := none
  programsObserved : Option Int := none
  tensixCoresUsed : Option Int := none
  tensixCoresTotal : Option Int := none
  sampleTimestampSeconds : Option Int := none
  stale : Bool := false
  deriving DecidableEq

structure HealthTelemetry where
  faultCode : Option Str := none
  faultReason : Option Str := none
  resetRequired : Option Int := none
  oomFaultCount : Option Int := none
  hangFaultCount : Option Int := none
  deriving DecidableEq

structure InterconnectLink where
  name : Str := []
  type : Option Str := none
  state : Option Str := none
  peer : Option Str := none
  speedGbps : Option Int := none
  ringId : Option Str := none
  deriving DecidableEq

structure AllocationTelemetry where
  claimNamespace : Option Str := none
  claimName : Option Str := none
  claimUid : Option Str := none
  podNamespace : Option Str := none
  podName : Option Str := none
  containerName : Option Str := none
  deriving DecidableEq

structure JanitorTelemetry where
  state : Option Str := none
  quarantineReason : Option Str := none
  lastScrubStatus : Option Str := none
  lastResetStatus : Option Str := none
  scrubCount : Option Int := none
  resetCount : Option Int := none
  lastScrubTimestampSeconds : Option Int := none
  lastResetTimestampSeconds : Option Int := none
  deriving DecidableEq

structure DeviceTelemetry where
  id : Str := []
  /-- The names of an absolute path, the root's first. -/
  sysfsPath : Path := []
  architecture : Option Str := none
  boardType : Option Str := none
  health : Option Str := none
  characterDevice : Option CharacterDevice := none
  pci : PciInfo := {}
  pciResources : List PciResource := []
  power : PowerInfo := {}
  pcieCounters : List NamedCounter := []
  firmware : FirmwareTelemetry := {}
  hwmonSensors : List HwmonSensor := []
  memory : MemoryTelemetry := {}
  tensix : TensixTelemetry := {}
  metaliumWorkloads : List MetaliumWorkloadTelemetry := []
  healthDetail : HealthTelemetry := {}
  interconnectLinks : List InterconnectLink := []
  allocation : AllocationTelemetry := {}
  janitor : JanitorTelemetry := {}
  deriving DecidableEq

/-- `str(path)`. -/
def pathText (path : Path) : Str := '/' :: Py.join ['/'] path

structure CollectorConfig where
  sysfsRoot : Path := ["sys".toList, "class".toList, "tenstorrent".toList]
  allocationStateRoot : Option Path := none
  janitorStateRoot : Option Path := none
  metaliumProfilerStateRoot : Option Path := none
  metaliumProfilerStaleAfterSeconds : Int := 15
  collectHwmon : Bool := false
  collectPcieCounters : Bool := false
  deriving DecidableEq

structure CollectionResult where
  devices : List DeviceTelemetry := []
  sources : TelemetrySource → SourceDiagnostics := fun source => { source := source }
  criticalSourcesOk : Bool := false

end Tt
