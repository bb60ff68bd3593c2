import TtMetricsExporter.State
import TtMetricsExporter.DeviceResources
/-!
# Collector — a bounded snapshot of sysfs and the configured state roots

`collector.py`.  `Machine` is what a collection reads: the file tree, the clock and the interpreter's `str.lower`, of
which only the card type's text can leave ASCII.
-/
namespace Tt

open Py (Str)
open Posix (Node Path Errno)

/-- The surroundings of one collection. -/
structure Machine where
  fs : Node
  now : Int
  lower : Str → Str

/-! ## Attribute names and tables -/

def architectureFiles := files ["architecture", "arch", "chip_arch", "chip_architecture", "device_arch", "chip"]
def boardTypeFiles := files ["board_type", "board", "card_type", "card_series", "product_name"]
def healthFiles := files ["health", "status", "device_status"]
def faultCodeFiles := files ["fault_code", "device_fault_code", "last_fault_code"]
def faultReasonFiles := files ["fault_reason", "device_fault_reason", "last_fault_reason", "reset_reason"]
def resetRequiredFiles := files ["reset_required", "needs_reset", "requires_reset"]
def oomFaultFiles := files ["oom_fault_count", "oom_count", "out_of_memory_count"]
def hangFaultFiles := files ["hang_fault_count", "hang_count", "device_hang_count"]
def linkTypeFiles := files ["type", "link_type"]
def linkStateFiles := files ["state", "status"]
def linkPeerFiles := files ["peer", "remote", "remote_device", "remote_bdf"]
def linkSpeedFiles := files ["speed_gbps", "link_speed_gbps", "rate_gbps"]
def linkRingFiles := files ["ring_id", "ring"]

def architectureOfDeviceId : List (Str × Str) :=
  [("0x401e".toList, "wormhole".toList), ("0xb140".toList, "blackhole".toList)]

def cardTypeNames : List (Str × Str) :=
  [("n150d".toList, "n150".toList), ("n150s".toList, "n150".toList), ("n300d".toList, "n300".toList),
    ("n300s".toList, "n300".toList), ("p100a".toList, "p100".toList), ("p100b".toList, "p100".toList),
    ("p150a".toList, "p150".toList), ("p150b".toList, "p150".toList)]

def hwmonUnits : List (Str × Str) :=
  [("temp".toList, "millidegrees_celsius".toList), ("in".toList, "millivolts".toList),
    ("curr".toList, "milliamps".toList), ("power".toList, "microwatts".toList), ("fan".toList, "rpm".toList),
    ("freq".toList, "hertz".toList)]

def hwmonUnit (name : Str) : Str :=
  ((hwmonUnits.find? (fun u => u.1.isPrefixOf name)).map Prod.snd).getD "raw".toList

/-- The link directories and the type of a link that names none. -/
def linkBases : List (Str × Str) :=
  [("scaleout_links".toList, "scaleout".toList), ("ethernet_links".toList, "ethernet".toList),
    ("fabric_links".toList, "fabric".toList)]

/-! ## Paths -/

/-- The errors `Path.is_dir` and `Path.is_file` answer `False` to; any other one is raised. -/
def ignoredErrors : List Errno := [.ENOENT, .ENOTDIR, .ELOOP]

def pathIs (fs : Node) (kind : Node → Bool) (path : Path) : Except Errno Bool :=
  match Posix.stat fs path with
  | .ok n => .ok (kind n)
  | .error e => if e ∈ ignoredErrors then .ok false else .error e

def isRegular : Node → Bool
  | .regular _ => true
  | _ => false

/-- `[entry for entry in base.iterdir() if entry.is_dir()]`, the names: `none` where that raises `OSError`. -/
def subdirectories (fs : Node) (base : Path) : Option (List Str) :=
  match Posix.listPath fs base with
  | .error _ => none
  | .ok names => (names.mapM (fun name =>
      match pathIs fs Node.isDirectory (base ++ [name]) with
      | .error _ => none
      | .ok isDir => some (if isDir then [name] else []))).map List.flatten

namespace SysfsCollector
open SysfsReader
variable (m : Machine)

def readUeventField (root : Path) (field : Str) (diagnostics : TelemetrySource) : Reading (Option Str) := do
  match ← readText m.fs (root ++ ["uevent".toList]) diagnostics with
  | none => return none
  | some content =>
    let start := field ++ ['=']
    match (Py.splitlines content).find? (fun line => start.isPrefixOf line) with
    | some line => return some (Py.stripAscii (line.drop start.length))
    | none => return none

def readSymlinkBasename (path : Path) : Option Str :=
  match Posix.readlink m.fs path with
  | .error _ => none
  | .ok target => if Py.pathName target = [] then none else some (Py.pathName target)

def readCharacterDevice (root : Path) (diagnostics : TelemetrySource) : Reading (Option CharacterDevice) := do
  match ← readText m.fs (root ++ ["dev".toList]) diagnostics with
  | none => return none
  | some value =>
    if ':' ∉ value then return none
    let (majorText, minorText) := Py.splitOnce ':' value
    match parseUint64 majorText, parseUint64 minorText with
    | some major, some minor =>
      let devName ← readUeventField m root "DEVNAME".toList diagnostics
      return some { major := major, minor := minor, devName := devName }
    | _, _ => return none

/-- `parse_int64(self._read_text(path, diagnostics) or "")`. -/
def readIntText (path : Path) (diagnostics : TelemetrySource) : Reading (Option Int) := do
  let text ← readText m.fs path diagnostics
  Tally.lift (parseInt64 (text.getD []))

/-- The slot name, else the name of what the `device` link points to. -/
def readBdf (pciRoot : Path) (diagnostics : TelemetrySource) : Reading (Option Str) := do
  match ← readUeventField m pciRoot "PCI_SLOT_NAME".toList diagnostics with
  | some bdf => return some bdf
  | none => return readSymlinkBasename m pciRoot

def readDriver (pciRoot : Path) (diagnostics : TelemetrySource) : Reading (Option Str) := do
  match ← readUeventField m pciRoot "DRIVER".toList diagnostics with
  | some driver => return some driver
  | none => match readSymlinkBasename m (pciRoot ++ ["driver".toList]) with
    | some driver => return some driver
    | none => readText m.fs (pciRoot ++ ["driver".toList]) diagnostics

def readIommuGroup (pciRoot : Path) (diagnostics : TelemetrySource) : Reading (Option Int) := do
  let group := readSymlinkBasename m (pciRoot ++ ["iommu_group".toList])
  match ← Tally.lift (parseInt64 (group.getD [])) with
  | some parsed => return some parsed
  | none => readIntText m (pciRoot ++ ["iommu_group".toList]) diagnostics

def readPciInfo (root : Path) (diagnostics : TelemetrySource) : Reading PciInfo := do
  let pciRoot := root ++ ["device".toList]
  let text := fun (name : String) => readText m.fs (pciRoot ++ [name.toList]) diagnostics
  let bdf ← readBdf m pciRoot diagnostics
  let driver ← readDriver m pciRoot diagnostics
  let iommuGroup ← readIommuGroup m pciRoot diagnostics
  let vendorId ← text "vendor"
  let deviceId ← text "device"
  let classId ← text "class"
  let revision ← text "revision"
  let subsystemVendorId ← text "subsystem_vendor"
  let subsystemDeviceId ← text "subsystem_device"
  let numaNode ← readIntText m (pciRoot ++ ["numa_node".toList]) diagnostics
  let currentLinkSpeed ← text "current_link_speed"
  let currentLinkWidth ← readInt m.fs (pciRoot ++ ["current_link_width".toList]) diagnostics
  let maxLinkSpeed ← text "max_link_speed"
  let maxLinkWidth ← readInt m.fs (pciRoot ++ ["max_link_width".toList]) diagnostics
  let resetMethod ← text "reset_method"
  return {
    bdf := bdf
    driver := driver
    vendorId := vendorId
    deviceId := deviceId
    classId := classId
    revision := revision
    subsystemVendorId := subsystemVendorId
    subsystemDeviceId := subsystemDeviceId
    numaNode := numaNode
    iommuGroup := iommuGroup
    currentLinkSpeed := currentLinkSpeed
    currentLinkWidth := currentLinkWidth
    maxLinkSpeed := maxLinkSpeed
    maxLinkWidth := maxLinkWidth
    resetMethod := resetMethod }

def normalizeCardType (value : Str) : Str :=
  let normalized := m.lower (Py.strip value)
  (cardTypeNames.lookup normalized).getD normalized

def readFirmware (root : Path) (diagnostics : TelemetrySource) : Reading FirmwareTelemetry := do
  let int := fun (name : String) => readInt m.fs (root ++ [name.toList]) diagnostics
  let text := fun (name : String) => readText m.fs (root ++ [name.toList]) diagnostics
  let aiClock ← int "tt_aiclk"
  let axiClock ← int "tt_axiclk"
  let arcClock ← int "tt_arcclk"
  let heartbeat ← int "tt_heartbeat"
  let thermalTripCount ← int "tt_therm_trip_count"
  let serial ← text "tt_serial"
  let cardType ← text "tt_card_type"
  let asicId ← text "tt_asic_id"
  let fwBundleVersion ← text "tt_fw_bundle_ver"
  let m3AppFwVersion ← text "tt_m3app_fw_ver"
  let m3BlFwVersion ← text "tt_m3bl_fw_ver"
  let arcFwVersion ← text "tt_arc_fw_ver"
  let ethFwVersion ← text "tt_eth_fw_ver"
  let ttflashVersion ← text "tt_ttflash_ver"
  return {
    aiClockMhz := aiClock
    axiClockMhz := axiClock
    arcClockMhz := arcClock
    heartbeat := heartbeat
    thermalTripCount := thermalTripCount
    serial := serial
    cardType := cardType
    asicId := asicId
    fwBundleVersion := fwBundleVersion
    m3AppFwVersion := m3AppFwVersion
    m3BlFwVersion := m3BlFwVersion
    arcFwVersion := arcFwVersion
    ethFwVersion := ethFwVersion
    ttflashVersion := ttflashVersion }

/-- One entry of an hwmon directory. -/
def readHwmonSensor (directory : Path) (name : Str) (diagnostics : TelemetrySource) : Reading (Option HwmonSensor) := do
  if pathIs m.fs isRegular (directory ++ [name]) = .ok true ∧ Py.endsWith "_input".toList name ∧ 6 < name.length then
    match ← readInt m.fs (directory ++ [name]) diagnostics with
    | none => return none
    | some value =>
      let stem := name.take (name.length - 6)
      let label ← readText m.fs (directory ++ [stem ++ "_label".toList]) diagnostics
      return some { name := name, label := label, unit := hwmonUnit stem, value := value }
  else return none

/-- The entries of every hwmon directory of a device, with their directory. -/
def hwmonEntries (root : Path) : List (Path × Str) :=
  [root ++ ["hwmon".toList], root ++ ["device".toList, "hwmon".toList]].flatMap (fun base =>
    ((subdirectories m.fs base).getD []).flatMap (fun directory =>
      match Posix.listPath m.fs (base ++ [directory]) with
      | .error _ => []
      | .ok names => names.map (fun name => (base ++ [directory], name))))

def readHwmonSensors (root : Path) (diagnostics : TelemetrySource) : Reading (List HwmonSensor) := do
  let sensors ← Tally.each (fun e => readHwmonSensor m e.1 e.2 diagnostics) (hwmonEntries m root)
  return sensors.insertionSort (fun a b => a.name ≤ b.name)

def readPowerInfo (root : Path) (diagnostics : TelemetrySource) : Reading PowerInfo := do
  let powerRoot := root ++ ["power".toList]
  let text := fun (name : String) => readText m.fs (powerRoot ++ [name.toList]) diagnostics
  let int := fun (name : String) => readIntText m (powerRoot ++ [name.toList]) diagnostics
  let runtimeStatus ← text "runtime_status"
  let control ← text "control"
  let runtimeEnabled ← text "runtime_enabled"
  let runtimeActiveTime ← int "runtime_active_time"
  let runtimeSuspendedTime ← int "runtime_suspended_time"
  let runtimeUsage ← int "runtime_usage"
  let runtimeActiveKids ← int "runtime_active_kids"
  let autosuspendDelay ← int "autosuspend_delay_ms"
  return {
    runtimeStatus := runtimeStatus
    control := control
    runtimeEnabled := runtimeEnabled
    runtimeActiveTimeMs := runtimeActiveTime
    runtimeSuspendedTimeMs := runtimeSuspendedTime
    runtimeUsage := runtimeUsage
    runtimeActiveKids := runtimeActiveKids
    autosuspendDelayMs := autosuspendDelay }

def readPcieCounter (base : Path) (name : Str) (diagnostics : TelemetrySource) : Reading (Option NamedCounter) := do
  if pathIs m.fs isRegular (base ++ [name]) = .ok true then
    match ← readUint m.fs (base ++ [name]) diagnostics with
    | some value => return some { name := name, value := value }
    | none => return none
  else return none

def readPcieCounters (root : Path) (diagnostics : TelemetrySource) : Reading (List NamedCounter) := do
  let base := root ++ ["pcie_perf_counters".toList]
  match Posix.listPath m.fs base with
  | .error _ => return []
  | .ok names =>
    let counters ← Tally.each (fun name => readPcieCounter m base name diagnostics) names
    return counters.insertionSort (fun a b => a.name ≤ b.name)

def readHealth (root : Path) (diagnostics : TelemetrySource) : Reading HealthTelemetry := do
  let faultCode ← readFirstText m.fs root faultCodeFiles diagnostics
  let faultReason ← readFirstText m.fs root faultReasonFiles diagnostics
  let resetRequired ← readFirstBoolish m.fs root resetRequiredFiles diagnostics
  let oomFaultCount ← readFirstInt m.fs root oomFaultFiles diagnostics
  let hangFaultCount ← readFirstInt m.fs root hangFaultFiles diagnostics
  return {
    faultCode := faultCode
    faultReason := faultReason
    resetRequired := resetRequired
    oomFaultCount := oomFaultCount
    hangFaultCount := hangFaultCount }

def readInterconnectLink (base : Path) (name defaultType : Str) (diagnostics : TelemetrySource) :
    Reading InterconnectLink := do
  let entry := base ++ [name]
  let type ← readFirstText m.fs entry linkTypeFiles diagnostics
  let state ← readFirstText m.fs entry linkStateFiles diagnostics
  let peer ← readFirstText m.fs entry linkPeerFiles diagnostics
  let speed ← readFirstInt m.fs entry linkSpeedFiles diagnostics
  let ringId ← readFirstText m.fs entry linkRingFiles diagnostics
  return {
    name := name
    type := some (type.getD defaultType)
    state := state
    peer := peer
    speedGbps := speed
    ringId := ringId }

/-- The link directories of a device, with their base and default type. -/
def linkEntries (root : Path) : List (Path × Str × Str) :=
  linkBases.flatMap (fun (directory, defaultType) =>
    ((subdirectories m.fs (root ++ [directory])).getD []).map (fun name => (root ++ [directory], name, defaultType)))

def readInterconnectLinks (root : Path) (diagnostics : TelemetrySource) : Reading (List InterconnectLink) := do
  let links ← Tally.each (fun e => some <$> readInterconnectLink m e.1 e.2.1 e.2.2 diagnostics) (linkEntries m root)
  return links.insertionSort (fun a b => a.name ≤ b.name)

variable (config : CollectorConfig)

/-- `_populate_device`, up to the fields it replaces: `tt_card_type` overrides the board type, and the PCI device id
stands in for a missing architecture. -/
def populateDevice (device : DeviceTelemetry) (diagnostics : TelemetrySource) : Reading DeviceTelemetry := do
  let root := device.sysfsPath
  let architecture ← readFirstText m.fs root architectureFiles diagnostics
  let boardType ← readFirstText m.fs root boardTypeFiles diagnostics
  let health ← readFirstText m.fs root healthFiles diagnostics
  let characterDevice ← readCharacterDevice m root diagnostics
  let pci ← readPciInfo m root diagnostics
  let firmware ← readFirmware m root diagnostics
  let boardType := match firmware.cardType with
    | some cardType => some (normalizeCardType m cardType)
    | none => boardType
  let architecture := match architecture with
    | some architecture => some architecture
    | none => architectureOfDeviceId.lookup (Py.lowerAscii (pci.deviceId.getD []))
  let hwmonSensors ← (if config.collectHwmon then readHwmonSensors m root diagnostics else pure device.hwmonSensors)
  let power ← readPowerInfo m root diagnostics
  let resource ← readText m.fs (root ++ ["device".toList, "resource".toList]) diagnostics
  let pciResources := match resource with
    | some resource => parsePciResources resource
    | none => device.pciResources
  let pcieCounters ←
    (if config.collectPcieCounters then readPcieCounters m root diagnostics else pure device.pcieCounters)
  let device ← DeviceResourceReader.populateMemory m.fs { device with
    architecture := architecture
    boardType := boardType
    health := health
    characterDevice := characterDevice
    pci := pci
    firmware := firmware
    hwmonSensors := hwmonSensors
    power := power
    pciResources := pciResources
    pcieCounters := pcieCounters } diagnostics
  let device ← DeviceResourceReader.populateTensix m.fs device diagnostics
  let healthDetail ← readHealth m root diagnostics
  let links ← readInterconnectLinks m root diagnostics
  return { device with healthDetail := healthDetail, interconnectLinks := links }

/-- `entry.is_dir()`: what the listing tells, and behind a link what `stat` tells. -/
def entryIsDir (entry : Str × Node) : Bool :=
  match entry.2 with
  | .directory _ _ => true
  | .symlink _ => match Posix.stat m.fs (config.sysfsRoot ++ [entry.1]) with
    | .ok n => n.isDirectory
    | .error _ => false
  | _ => false

/-- One entry of the sysfs root. -/
def collectDevice (state : StateIngestor) (entry : Str × Node) : Reading (Option DeviceTelemetry) := do
  if entryIsDir m config entry then
    let device ← populateDevice m config { id := entry.1, sysfsPath := config.sysfsRoot ++ [entry.1] } .sysfsRoot
    let device ← state.populate m.fs device
    return some device
  else return none

/-- The entries of the sysfs root, or why there are none. -/
def scanRoot : Except Errno (List (Str × Node)) :=
  match Posix.stat m.fs config.sysfsRoot with
  | .error e => .error e
  | .ok (.directory _ _) => Posix.scandir m.fs config.sysfsRoot
  | .ok _ => .error .ENOTDIR

def rootIssue (e : Errno) : CollectionIssue :=
  if e ∈ [.ENOENT, .ENOTDIR] then .missingRoot else if e ∈ [.EACCES, .EPERM] then .permissionDenied else .readFailed

/-- What a collection finds, before its counters are added up: the roots that were opened, the devices and whether the
sysfs root could be scanned. -/
structure Findings where
  state : StateIngestor
  devices : List DeviceTelemetry
  scanned : Bool

def find : Reading Findings := do
  let state ← StateIngestor.openRoots m.fs config m.now
  match scanRoot m config with
  | .error e =>
    recordIssue .sysfsRoot (rootIssue e)
    return ⟨state, [], false⟩
  | .ok entries =>
    let devices ← Tally.each (collectDevice m config state) entries
    return ⟨state, devices.insertionSort (fun a b => a.id ≤ b.id), true⟩

def Findings.configured (config : CollectorConfig) : TelemetrySource → Bool
  | .sysfsRoot => true
  | .allocationState => config.allocationStateRoot.isSome
  | .janitorState => config.janitorStateRoot.isSome
  | .metaliumProfilerState => config.metaliumProfilerStateRoot.isSome

def Findings.accessible (f : Findings) : TelemetrySource → Bool
  | .sysfsRoot => f.scanned
  | .allocationState => f.state.allocationRoot.isSome
  | .janitorState => f.state.janitorRoot.isSome
  | .metaliumProfilerState => f.state.profilerRoot.isSome

/-- A source's diagnostics after the increments made on it. -/
def diagnosticsOf (config : CollectorConfig) (f : Findings) (counted : List Increment) (source : TelemetrySource) :
    SourceDiagnostics :=
  ((counted.filter (·.source = source)).map (·.counter)).foldl SourceDiagnostics.bump
    { source := source, configured := Findings.configured config source, accessible := f.accessible source }

/-- `collect`: the result, or the exception that ends it. -/
def collect : Except PyError CollectionResult :=
  match find m config with
  | .raised e => .error e
  | .returned f counted => .ok {
      devices := f.devices
      sources := diagnosticsOf config f counted
      criticalSourcesOk := f.scanned }

end SysfsCollector
end Tt
