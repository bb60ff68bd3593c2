import TtMetricsExporter.Collector
import TtMetricsExporter.JsonText
/-!
# DevicesJson — the versioned device list as JSON

`renderers/json.py`: the document of a list of devices, and its text.
-/
namespace Tt

open Py (Str)

namespace Json

/-! ## Values -/

def text (value : Option Str) : Json := (value.map .string).getD .null
def number (value : Option Int) : Json := (value.map .int).getD .null
def record (members : List (String × Json)) : Json := .object (members.map (fun m => (m.1.toList, m.2)))

end Json

open Json (text number record)

def characterDeviceJson (c : CharacterDevice) : Json := record [
  ("major", .int c.major), ("minor", .int c.minor), ("name", text c.devName),
  ("path", text (c.devName.map (fun name => "/dev/".toList ++ name)))]

def pciResourceJson (r : PciResource) : Json := record [
  ("index", .int r.index), ("start", .int r.start), ("end", .int r.end), ("flags", .int r.flags),
  ("sizeBytes", .int r.sizeBytes)]

def pciJson (pci : PciInfo) (resources : List PciResource) : Json := record [
  ("bdf", text pci.bdf), ("driver", text pci.driver), ("vendorId", text pci.vendorId), ("deviceId", text pci.deviceId),
  ("classId", text pci.classId), ("revision", text pci.revision), ("subsystemVendorId", text pci.subsystemVendorId),
  ("subsystemDeviceId", text pci.subsystemDeviceId), ("numaNode", number pci.numaNode),
  ("iommuGroup", number pci.iommuGroup), ("currentLinkSpeed", text pci.currentLinkSpeed),
  ("currentLinkWidth", number pci.currentLinkWidth), ("maxLinkSpeed", text pci.maxLinkSpeed),
  ("maxLinkWidth", number pci.maxLinkWidth), ("resetMethod", text pci.resetMethod),
  ("resources", .array (resources.map pciResourceJson))]

def powerJson (p : PowerInfo) : Json := record [
  ("runtimeStatus", text p.runtimeStatus), ("control", text p.control), ("runtimeEnabled", text p.runtimeEnabled),
  ("runtimeActiveTimeMs", number p.runtimeActiveTimeMs), ("runtimeSuspendedTimeMs", number p.runtimeSuspendedTimeMs),
  ("runtimeUsage", number p.runtimeUsage), ("runtimeActiveChildren", number p.runtimeActiveKids),
  ("autosuspendDelayMs", number p.autosuspendDelayMs)]

def firmwareJson (f : FirmwareTelemetry) : Json := record [
  ("aiClockMhz", number f.aiClockMhz), ("axiClockMhz", number f.axiClockMhz), ("arcClockMhz", number f.arcClockMhz),
  ("heartbeat", number f.heartbeat), ("thermalTripCount", number f.thermalTripCount), ("serial", text f.serial),
  ("cardType", text f.cardType), ("asicId", text f.asicId), ("fwBundleVersion", text f.fwBundleVersion),
  ("m3AppFwVersion", text f.m3AppFwVersion), ("m3BlFwVersion", text f.m3BlFwVersion),
  ("arcFwVersion", text f.arcFwVersion), ("ethFwVersion", text f.ethFwVersion),
  ("ttflashVersion", text f.ttflashVersion)]

def sensorJson (s : HwmonSensor) : Json := record [
  ("name", .string s.name), ("label", text s.label), ("unit", .string s.unit), ("value", .int s.value)]

def counterJson (c : NamedCounter) : Json := record [("name", .string c.name), ("value", .int c.value)]

def memoryJson (m : MemoryTelemetry) : Json := record [
  ("usedBytes", number m.usedBytes), ("totalBytes", number m.totalBytes), ("freeBytes", number m.freeBytes),
  ("availableBytes", number m.availableBytes), ("bandwidthBytesPerSecond", number m.bandwidthBytesPerSecond),
  ("type", text m.type), ("controllerLayout", text m.controllerLayout), ("controllerCount", number m.controllerCount),
  ("controllersPerAsic", number m.controllersPerAsic), ("channelCount", number m.channelCount)]

def tensixJson (t : TensixTelemetry) : Json := record [
  ("used", number t.used), ("available", number t.available), ("total", number t.total),
  ("meshRows", number t.meshRows), ("meshCols", number t.meshCols), ("topology", text t.topology),
  ("activeRegions", text t.activeRegions), ("source", text t.source)]

def workloadJson (w : MetaliumWorkloadTelemetry) : Json := record [
  ("workloadId", .string w.workloadId), ("podNamespace", text w.podNamespace), ("podName", text w.podName),
  ("containerName", text w.containerName), ("active", number w.active),
  ("programsObserved", number w.programsObserved), ("tensixCoresUsed", number w.tensixCoresUsed),
  ("tensixCoresTotal", number w.tensixCoresTotal), ("sampleTimestampSeconds", number w.sampleTimestampSeconds),
  ("stale", .bool w.stale)]

def healthJson (h : HealthTelemetry) : Json := record [
  ("faultCode", text h.faultCode), ("faultReason", text h.faultReason), ("resetRequired", number h.resetRequired),
  ("oomFaultCount", number h.oomFaultCount), ("hangFaultCount", number h.hangFaultCount)]

def linkJson (l : InterconnectLink) : Json := record [
  ("name", .string l.name), ("type", text l.type), ("state", text l.state), ("peer", text l.peer),
  ("speedGbps", number l.speedGbps), ("ringId", text l.ringId)]

def allocationJson (a : AllocationTelemetry) : Json := record [
  ("claimNamespace", text a.claimNamespace), ("claimName", text a.claimName), ("claimUid", text a.claimUid),
  ("podNamespace", text a.podNamespace), ("podName", text a.podName), ("containerName", text a.containerName)]

def janitorJson (j : JanitorTelemetry) : Json := record [
  ("state", text j.state), ("quarantineReason", text j.quarantineReason), ("lastScrubStatus", text j.lastScrubStatus),
  ("lastResetStatus", text j.lastResetStatus), ("scrubCount", number j.scrubCount), ("resetCount", number j.resetCount),
  ("lastScrubTimestampSeconds", number j.lastScrubTimestampSeconds),
  ("lastResetTimestampSeconds", number j.lastResetTimestampSeconds)]

/-- `_device`. -/
def deviceJson (d : DeviceTelemetry) : Json := record [
  ("id", .string d.id), ("sysfsPath", .string (pathText d.sysfsPath)),
  ("architecture", text d.architecture), ("boardType", text d.boardType), ("health", text d.health),
  ("characterDevice", (d.characterDevice.map characterDeviceJson).getD .null), ("pci", pciJson d.pci d.pciResources),
  ("power", powerJson d.power), ("firmware", firmwareJson d.firmware),
  ("hwmonSensors", .array (d.hwmonSensors.map sensorJson)), ("pcieCounters", .array (d.pcieCounters.map counterJson)),
  ("memory", memoryJson d.memory), ("tensix", tensixJson d.tensix),
  ("metaliumWorkloads", .array (d.metaliumWorkloads.map workloadJson)), ("healthDetail", healthJson d.healthDetail),
  ("interconnectLinks", .array (d.interconnectLinks.map linkJson)), ("allocation", allocationJson d.allocation),
  ("janitor", janitorJson d.janitor)]

def devicesDocument (devices : List DeviceTelemetry) : Json := record [
  ("apiVersion", .string "telemetry.tenstorrent.com/v1".toList), ("kind", .string "DeviceList".toList),
  ("summary", record [("devicesDiscovered", .int devices.length)]), ("devices", .array (devices.map deviceJson))]

def renderDevicesJson (devices : List DeviceTelemetry) : Str := (devicesDocument devices).dumps ++ ['\n']

example : (sensorJson { name := "temp\"1".toList, unit := "raw".toList, value := -5 }).dumps =
    "\x7b\"name\":\"temp\\\"1\",\"label\":null,\"unit\":\"raw\",\"value\":-5\x7d".toList := by decide

end Tt
