import TtMetricsExporter.Collector
import TtMetricsExporter.Exposition
/-!
# Prometheus — the text of the public metric families

`renderers/prometheus.py`.  A `Metric` is one call of `family`, `optional` or `workload`: its writer yields, for a
device, the labels each sample adds to the device's own and the sample's value.  The occupancy ratio is the one value
that is formatted from a float; its text is a parameter, `ratio`.
-/
namespace Tt

open Py (Str strInt hex)
open Exposition (Sample Family)

/-- Label names with the values they show, `None` among them. -/
abbrev Labels := List (String × Option Str)

/-- The text of a formatted float: one line. -/
structure Numeral where
  text : Str
  line : '\n' ∉ text

/-- `_value`. -/
def shown (value : Option Str) : Str := if (value.getD []) = [] then "unknown".toList else value.getD []

def label (name : String) (value : Option Str) : String × Option Str := (name, value)

def intLabel (name : String) (value : Option Int) : String × Option Str := (name, value.map strInt)

def deviceLabels (d : DeviceTelemetry) : Labels :=
  [label "device" (some d.id), label "architecture" d.architecture, label "board_type" d.boardType,
    label "pci_bdf" d.pci.bdf]

/-- `_info_labels`, after the device's. -/
def infoLabels (d : DeviceTelemetry) : Labels :=
  [label "sysfs_path" (some (pathText d.sysfsPath)), label "health" d.health,
    intLabel "dev_major" (d.characterDevice.map (·.major)), intLabel "dev_minor" (d.characterDevice.map (·.minor)),
    label "dev_name" (d.characterDevice.bind (·.devName)), label "pci_vendor_id" d.pci.vendorId,
    label "pci_device_id" d.pci.deviceId, label "pci_driver" d.pci.driver, label "pci_class_id" d.pci.classId,
    label "pci_revision" d.pci.revision, label "pci_subsystem_vendor_id" d.pci.subsystemVendorId,
    label "pci_subsystem_device_id" d.pci.subsystemDeviceId, intLabel "numa_node" d.pci.numaNode,
    intLabel "iommu_group" d.pci.iommuGroup, label "pci_current_link_speed" d.pci.currentLinkSpeed,
    intLabel "pci_current_link_width" d.pci.currentLinkWidth, label "pci_max_link_speed" d.pci.maxLinkSpeed,
    intLabel "pci_max_link_width" d.pci.maxLinkWidth, label "pci_reset_method" d.pci.resetMethod]

/-- `_workload_labels`, after the device's. -/
def workloadLabels (w : MetaliumWorkloadTelemetry) : Labels :=
  [label "workload_id" (some w.workloadId), label "pod_namespace" w.podNamespace, label "pod_name" w.podName,
    label "container_name" w.containerName]

/-! ## Metrics -/

structure Metric where
  name : String
  help : String
  type : String
  writer : DeviceTelemetry → List (Labels × Str)

namespace Metric

/-- The labels a sample shows. -/
def showLabels (d : DeviceTelemetry) (labels : Labels) : List (Str × Str) :=
  (deviceLabels d ++ labels).map (fun l => (l.1.toList, shown l.2))

def samples (m : Metric) (d : DeviceTelemetry) : List Sample :=
  (m.writer d).map (fun x => ⟨m.name.toList, showLabels d x.1, x.2⟩)

def family (m : Metric) (devices : List DeviceTelemetry) : Family :=
  ⟨m.name.toList, m.help.toList, m.type.toList, devices.flatMap m.samples⟩

/-- A metric with a sample for each item a device lists. -/
def listing {α : Type} (name help type : String) (items : DeviceTelemetry → List α) (labels : α → Labels)
    (value : α → Str) : Metric :=
  ⟨name, help, type, fun d => (items d).map (fun x => (labels x, value x))⟩

/-- `optional`: a sample where the getter yields a value. -/
def optional (name help type : String) (getter : DeviceTelemetry → Option Int) : Metric :=
  listing name help type (fun d => (getter d).toList) (fun _ => []) strInt

/-- A sample of value one whose labels carry the information, where there is any. -/
def info (name help : String) (labels : DeviceTelemetry → Option Labels) : Metric :=
  listing name help "gauge" (fun d => (labels d).toList) id (fun _ => ['1'])

/-- `workload`, with a value for each workload that has a sample. -/
def workload (name help : String) (value : MetaliumWorkloadTelemetry → Option Str) : Metric :=
  listing name help "gauge" (fun d => d.metaliumWorkloads.filterMap (fun w => (value w).map (fun v => (w, v))))
    (fun x => workloadLabels x.1) (fun x => x.2)

/-- `optional_workload`. -/
def optionalWorkload (name help : String) (field : MetaliumWorkloadTelemetry → Option Int)
    (freshOnly : Bool := true) : Metric :=
  workload name help (fun w => if freshOnly && w.stale then none else (field w).map strInt)

end Metric

open Tt.Metric

/-! ## The writers -/

def firmwareLabels (d : DeviceTelemetry) : Labels :=
  [label "serial" d.firmware.serial, label "card_type" d.firmware.cardType, label "asic_id" d.firmware.asicId,
    label "fw_bundle_version" d.firmware.fwBundleVersion, label "m3_app_fw_version" d.firmware.m3AppFwVersion,
    label "m3_bl_fw_version" d.firmware.m3BlFwVersion, label "arc_fw_version" d.firmware.arcFwVersion,
    label "eth_fw_version" d.firmware.ethFwVersion, label "ttflash_version" d.firmware.ttflashVersion]

/-- Named values, those that are present. -/
def present {α : Type} (pairs : List (String × Option α)) : List (String × α) :=
  pairs.filterMap (fun p => p.2.map (fun v => (p.1, v)))

def clocks (d : DeviceTelemetry) : List (String × Int) :=
  present [("ai", d.firmware.aiClockMhz), ("axi", d.firmware.axiClockMhz), ("arc", d.firmware.arcClockMhz)]

def linkSpeeds (d : DeviceTelemetry) : List (String × Str) :=
  present [("current", d.pci.currentLinkSpeed), ("max", d.pci.maxLinkSpeed)]

def linkWidths (d : DeviceTelemetry) : List (String × Int) :=
  present [("current", d.pci.currentLinkWidth), ("max", d.pci.maxLinkWidth)]

def sensorLabels (s : HwmonSensor) : Labels :=
  [label "sensor" (some s.name), label "label" s.label, label "unit" (some s.unit)]

def resourceLabels (r : PciResource) : Labels :=
  [intLabel "resource" (some r.index), label "start" (some (hex r.start)), label "end" (some (hex r.end)),
    label "flags" (some (hex r.flags))]

def powerLabels (d : DeviceTelemetry) : Labels :=
  [label "runtime_status" d.power.runtimeStatus, label "control" d.power.control,
    label "runtime_enabled" d.power.runtimeEnabled]

def memoryInfo (d : DeviceTelemetry) : Option Labels :=
  if d.memory.type.isSome ∨ d.memory.controllerLayout.isSome then
    some [label "type" d.memory.type, label "controller_layout" d.memory.controllerLayout]
  else none

def tensixInfo (d : DeviceTelemetry) : Option Labels :=
  if d.tensix.topology.isSome ∨ d.tensix.activeRegions.isSome then
    some [label "topology" d.tensix.topology, label "active_regions" d.tensix.activeRegions]
  else none

/-- `str(int(flag))`. -/
def flag (b : Bool) : Str := if b then ['1'] else ['0']

def occupancy (ratio : Int → Int → Numeral) (w : MetaliumWorkloadTelemetry) : Option Str :=
  match w.tensixCoresUsed, w.tensixCoresTotal with
  | some used, some total => if w.stale ∨ total ≤ 0 then none else some (ratio used total).text
  | _, _ => none

def healthInfo (d : DeviceTelemetry) : Option Labels :=
  if d.healthDetail.faultCode.isSome ∨ d.healthDetail.faultReason.isSome then
    some [label "fault_code" d.healthDetail.faultCode, label "fault_reason" d.healthDetail.faultReason]
  else none

def linkLabels (l : InterconnectLink) : Labels :=
  [label "link" (some l.name), label "type" l.type, label "state" l.state, label "peer" l.peer,
    label "ring_id" l.ringId]

/-- The links that report a speed, each with it. -/
def ratedLinks (d : DeviceTelemetry) : List (InterconnectLink × Int) :=
  d.interconnectLinks.filterMap (fun l => l.speedGbps.map (fun s => (l, s)))

def allocationInfo (d : DeviceTelemetry) : Option Labels :=
  let a := d.allocation
  let labels := [label "claim_namespace" a.claimNamespace, label "claim_name" a.claimName, label "claim_uid" a.claimUid,
    label "pod_namespace" a.podNamespace, label "pod_name" a.podName, label "container_name" a.containerName]
  if labels.any (·.2.isSome) then some labels else none

def janitorInfo (d : DeviceTelemetry) : Option Labels :=
  let j := d.janitor
  let labels := [label "state" j.state, label "quarantine_reason" j.quarantineReason,
    label "last_scrub_status" j.lastScrubStatus, label "last_reset_status" j.lastResetStatus]
  let counts := [j.scrubCount, j.resetCount, j.lastScrubTimestampSeconds, j.lastResetTimestampSeconds]
  if labels.any (·.2.isSome) || counts.any (·.isSome) then some labels else none

/-! ## Every family, in order -/

def metrics (ratio : Int → Int → Numeral) : List Metric := [
  info "tt_device_info" "Static Tenstorrent device identity and PCI metadata." (fun d => some (infoLabels d)),
  info "tt_device_present" "Whether a Tenstorrent sysfs device is present." (fun d => some (infoLabels d)),
  info "tt_firmware_info" "Firmware-reported Tenstorrent board and firmware identity."
    (fun d => some (firmwareLabels d)),
  listing "tt_firmware_clock_frequency_mhz" "Firmware-reported Tenstorrent clock frequencies in MHz." "gauge" clocks
    (fun c => [label "clock" (some c.1.toList)]) (fun c => strInt c.2),
  optional "tt_firmware_heartbeat_total" "Firmware heartbeat counter; increasing values indicate live firmware."
    "counter" (·.firmware.heartbeat),
  optional "tt_thermal_trips_total" "Firmware-reported critical thermal trip count since power cycle." "counter"
    (·.firmware.thermalTripCount),
  listing "tt_hwmon_sensor_value" "Raw Tenstorrent hwmon sensor value with Linux hwmon units." "gauge"
    (·.hwmonSensors) sensorLabels (fun s => strInt s.value),
  listing "tt_pci_resource_size_bytes" "Size of non-empty PCI resource ranges exposed by the device." "gauge"
    (·.pciResources) resourceLabels (fun r => strInt r.sizeBytes),
  listing "tt_pci_link_info" "PCIe link speed labels read from backing PCI sysfs." "gauge" linkSpeeds
    (fun s => [label "state" (some s.1.toList), label "speed" (some s.2)]) (fun _ => ['1']),
  listing "tt_pci_link_width_lanes" "PCIe link width in lanes read from backing PCI sysfs." "gauge" linkWidths
    (fun w => [label "state" (some w.1.toList)]) (fun w => strInt w.2),
  info "tt_power_state_info" "Runtime power-management state labels for the device." (fun d => some (powerLabels d)),
  optional "tt_power_runtime_active_time_ms" "Milliseconds that Linux runtime PM reports the device active." "gauge"
    (·.power.runtimeActiveTimeMs),
  optional "tt_power_runtime_suspended_time_ms" "Milliseconds that Linux runtime PM reports the device suspended."
    "gauge" (·.power.runtimeSuspendedTimeMs),
  optional "tt_power_runtime_usage" "Linux runtime PM usage count for the device." "gauge" (·.power.runtimeUsage),
  optional "tt_power_runtime_active_children" "Linux runtime PM active child count for the device." "gauge"
    (·.power.runtimeActiveKids),
  optional "tt_power_autosuspend_delay_ms" "Linux runtime PM autosuspend delay in milliseconds." "gauge"
    (·.power.autosuspendDelayMs),
  listing "tt_pcie_perf_counter_words_total" "Optional PCIe performance counter values in words." "counter"
    (·.pcieCounters) (fun c => [label "counter" (some c.name)]) (fun c => strInt c.value),
  optional "tt_memory_used_bytes" "Tenstorrent device memory currently used in bytes." "gauge" (·.memory.usedBytes),
  optional "tt_memory_total_bytes" "Tenstorrent device total memory in bytes." "gauge" (·.memory.totalBytes),
  optional "tt_memory_free_bytes" "Tenstorrent device memory free in bytes." "gauge" (·.memory.freeBytes),
  optional "tt_memory_available_bytes" "Tenstorrent device memory available in bytes." "gauge"
    (·.memory.availableBytes),
  optional "tt_memory_bandwidth_bytes_per_second" "Observed or reported local memory bandwidth in bytes per second."
    "gauge" (·.memory.bandwidthBytesPerSecond),
  info "tt_memory_info" "Memory technology and controller layout reported by safe sources." memoryInfo,
  optional "tt_memory_controller_count" "Memory controller count reported by a safe source." "gauge"
    (·.memory.controllerCount),
  optional "tt_memory_controllers_per_asic" "Memory controllers per ASIC reported by a safe source." "gauge"
    (·.memory.controllersPerAsic),
  optional "tt_memory_channel_count" "Memory channel count reported by a safe source." "gauge" (·.memory.channelCount),
  optional "tt_tensix_cores_used" "Tenstorrent Tensix cores currently active or reserved." "gauge" (·.tensix.used),
  optional "tt_tensix_cores_available" "Tenstorrent Tensix cores available on the device." "gauge"
    (·.tensix.available),
  optional "tt_tensix_cores_total" "Total Tensix cores reported by a safe source." "gauge" (·.tensix.total),
  optional "tt_tensix_mesh_rows" "Tensix mesh row count reported by a safe source." "gauge" (·.tensix.meshRows),
  optional "tt_tensix_mesh_cols" "Tensix mesh column count reported by a safe source." "gauge" (·.tensix.meshCols),
  info "tt_tensix_info" "Tensix topology labels reported by a safe source." tensixInfo,
  workload "tt_metalium_workload_active" "Whether a fresh TT-Metalium workload profiler sample reported activity."
    (fun w => some (flag (!w.stale && w.active.getD 0 != 0))),
  workload "tt_metalium_workload_profile_stale"
    "Whether the TT-Metalium workload profiler sample exceeded its freshness window." (fun w => some (flag w.stale)),
  optionalWorkload "tt_metalium_workload_tensix_cores_used"
    "Maximum Tensix core footprint among programs in the latest fresh TT-Metalium sample." (·.tensixCoresUsed),
  optionalWorkload "tt_metalium_workload_tensix_cores_total"
    "Tensix cores available to programs in the latest fresh TT-Metalium sample." (·.tensixCoresTotal),
  workload "tt_metalium_workload_core_occupancy_ratio"
    "Latest profiled program core footprint divided by available Tensix cores; this is spatial occupancy, not time-weighted busy percentage."
    (occupancy ratio),
  optionalWorkload "tt_metalium_workload_programs_observed"
    "Programs represented by the latest fresh TT-Metalium profiler read." (·.programsObserved),
  optionalWorkload "tt_metalium_workload_sample_timestamp_seconds"
    "Unix timestamp of the latest TT-Metalium workload profiler sample." (·.sampleTimestampSeconds) false,
  info "tt_health_fault_info" "Fault details reported by safe driver or janitor sources." healthInfo,
  optional "tt_health_reset_required" "Whether a safe source reports that the device requires reset." "gauge"
    (·.healthDetail.resetRequired),
  optional "tt_health_oom_faults_total" "OOM fault count reported by a safe source." "counter"
    (·.healthDetail.oomFaultCount),
  optional "tt_health_hang_faults_total" "Device hang fault count reported by a safe source." "counter"
    (·.healthDetail.hangFaultCount),
  listing "tt_interconnect_link_info" "Scale-out or fabric link state reported by safe sources." "gauge"
    (·.interconnectLinks) linkLabels (fun _ => ['1']),
  listing "tt_interconnect_link_speed_gbps" "Interconnect link speed in Gbps reported by safe sources." "gauge"
    ratedLinks (fun l => [label "link" (some l.1.name)]) (fun l => strInt l.2),
  info "tt_dra_allocation_info" "Kubernetes DRA allocation labels from a node-local state source." allocationInfo,
  info "tt_janitor_state_info" "Hardware janitor state labels from a node-local state source." janitorInfo,
  optional "tt_janitor_scrub_total" "Total scrub attempts reported by the hardware janitor." "counter"
    (·.janitor.scrubCount),
  optional "tt_janitor_reset_total" "Total reset attempts reported by the hardware janitor." "counter"
    (·.janitor.resetCount),
  optional "tt_janitor_last_scrub_timestamp_seconds" "Unix timestamp for the last scrub attempt." "gauge"
    (·.janitor.lastScrubTimestampSeconds),
  optional "tt_janitor_last_reset_timestamp_seconds" "Unix timestamp for the last reset attempt." "gauge"
    (·.janitor.lastResetTimestampSeconds)]

/-- The one family without labels. -/
def discovered (devices : List DeviceTelemetry) : Family :=
  ⟨"tt_devices_discovered".toList, "Number of Tenstorrent sysfs devices discovered.".toList, "gauge".toList,
    [⟨"tt_devices_discovered".toList, [], strInt devices.length⟩]⟩

def families (ratio : Int → Int → Numeral) (devices : List DeviceTelemetry) : List Family :=
  discovered devices :: (metrics ratio).map (·.family devices)

def renderPrometheus (ratio : Int → Int → Numeral) (devices : List DeviceTelemetry) : Str :=
  Exposition.document (families ratio devices)

end Tt
