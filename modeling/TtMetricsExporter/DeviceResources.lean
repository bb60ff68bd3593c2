import TtMetricsExporter.SysfsIo
/-!
# DeviceResources — memory and Tensix resources of a device directory

`device_resources.py`: each field is the first of its alternative attribute files that yields a value.  The names of the
alternatives are the `…Files` lists.
-/
namespace Tt

open Py (Str)
open Posix (Node)

/-- Attribute names, in the order they are tried. -/
def files (names : List String) : List Str := names.map String.toList

def memoryUsageFiles := files ["memory_usage", "dram_usage", "device_memory_usage", "tt_memory_usage"]
def memoryUsedFiles :=
  files ["memory_used_bytes", "dram_used_bytes", "device_memory_used_bytes", "allocated_memory_bytes"]
def memoryTotalFiles :=
  files ["memory_total_bytes", "memory_capacity_bytes", "memory_size_bytes", "dram_total_bytes", "dram_capacity_bytes",
    "dram_size_bytes"]
def memoryFreeFiles := files ["memory_free_bytes", "dram_free_bytes", "device_memory_free_bytes"]
def memoryAvailableFiles := files ["memory_available_bytes", "dram_available_bytes", "device_memory_available_bytes"]
def memoryBandwidthFiles :=
  files ["memory_bandwidth_bytes_per_second", "dram_bandwidth_bytes_per_second", "gddr_bandwidth_bytes_per_second"]
def memoryTypeFiles := files ["memory_type", "dram_type", "gddr_type"]
def controllerLayoutFiles := files ["gddr_controller_layout", "dram_controller_layout", "memory_controller_layout"]
def controllerCountFiles := files ["gddr_controller_count", "dram_controller_count", "memory_controller_count"]
def controllersPerAsicFiles :=
  files ["gddr_controllers_per_asic", "dram_controllers_per_asic", "memory_controllers_per_asic"]
def channelCountFiles := files ["dram_channel_count", "gddr_channel_count", "memory_channel_count"]

def tensixUsedFiles := files ["tensix_cores_used", "tensix_used", "active_tensix_cores", "tensix_active_cores"]
def tensixAvailableFiles := files ["tensix_cores_available", "tensix_available", "available_tensix_cores"]
def tensixTotalFiles := files ["tensix_cores_total", "total_tensix_cores", "tensix_total", "tensix_core_count"]
def meshRowsFiles := files ["tensix_mesh_rows", "tensix_grid_rows", "tensix_rows", "core_grid_rows"]
def meshColsFiles := files ["tensix_mesh_cols", "tensix_grid_cols", "tensix_cols", "core_grid_cols"]
def meshFiles := files ["tensix_mesh", "tensix_grid", "core_grid", "worker_grid"]
def topologyFiles := files ["tensix_topology", "tensix_layout"]
def activeRegionsFiles := files ["tensix_active_regions", "active_core_ranges", "active_core_grids"]

namespace DeviceResourceReader
open SysfsReader
variable (fs : Node)

/-- `if field is None: field = self._read_first_byte(...)`. -/
def orFirstByte (found : Option Int) (root : Posix.Path) (names : List Str) (diagnostics : TelemetrySource) :
    Reading (Option Int) :=
  match found with
  | some value => return some value
  | none => readFirstByte fs root names diagnostics

/-- The used and total bytes of the first usage file, where there is one. -/
def readMemoryUsage (root : Posix.Path) (diagnostics : TelemetrySource) : Reading MemoryUsage := do
  match ← readFirstText fs root memoryUsageFiles diagnostics with
  | some usage => Tally.lift (parseMemoryUsage usage)
  | none => return {}

def populateMemory (device : DeviceTelemetry) (diagnostics : TelemetrySource) : Reading DeviceTelemetry := do
  let root := device.sysfsPath
  let usage ← readMemoryUsage fs root diagnostics
  let usedBytes ← orFirstByte fs usage.usedBytes root memoryUsedFiles diagnostics
  let totalBytes ← orFirstByte fs usage.totalBytes root memoryTotalFiles diagnostics
  let freeBytes ← readFirstByte fs root memoryFreeFiles diagnostics
  let availableBytes ← readFirstByte fs root memoryAvailableFiles diagnostics
  let bandwidth ← readFirstByte fs root memoryBandwidthFiles diagnostics
  let type ← readFirstText fs root memoryTypeFiles diagnostics
  let controllerLayout ← readFirstText fs root controllerLayoutFiles diagnostics
  let controllerCount ← readFirstInt fs root controllerCountFiles diagnostics
  let controllersPerAsic ← readFirstInt fs root controllersPerAsicFiles diagnostics
  let channelCount ← readFirstInt fs root channelCountFiles diagnostics
  return { device with memory := {
    usedBytes := usedBytes
    totalBytes := totalBytes
    freeBytes := freeBytes
    availableBytes := availableBytes
    bandwidthBytesPerSecond := bandwidth
    type := type
    controllerLayout := controllerLayout
    controllerCount := controllerCount
    controllersPerAsic := controllersPerAsic
    channelCount := channelCount } }

/-- The mesh dimensions: the two counts where both can be read, else what a mesh file says. -/
def readMesh (root : Posix.Path) (diagnostics : TelemetrySource) : Reading (Option Int × Option Int) := do
  let meshRows ← readFirstInt fs root meshRowsFiles diagnostics
  let meshCols ← readFirstInt fs root meshColsFiles diagnostics
  if meshRows.isNone ∨ meshCols.isNone then
    let dimensions ← readFirstText fs root meshFiles diagnostics
    match ← Tally.lift (parseMeshDimensions (dimensions.getD [])) with
    | some (rows, cols) => return (some rows, some cols)
    | none => return (meshRows, meshCols)
  else return (meshRows, meshCols)

def populateTensix (device : DeviceTelemetry) (diagnostics : TelemetrySource) : Reading DeviceTelemetry := do
  let root := device.sysfsPath
  let used ← readFirstInt fs root tensixUsedFiles diagnostics
  let available ← readFirstInt fs root tensixAvailableFiles diagnostics
  let total ← readFirstInt fs root tensixTotalFiles diagnostics
  let mesh ← readMesh fs root diagnostics
  let topology ← readFirstText fs root topologyFiles diagnostics
  let activeRegions ← readFirstText fs root activeRegionsFiles diagnostics
  let found := used.isSome || available.isSome || total.isSome || mesh.1.isSome || mesh.2.isSome ||
    topology.isSome || activeRegions.isSome
  return { device with tensix := {
    used := used
    available := available
    total := total
    meshRows := mesh.1
    meshCols := mesh.2
    topology := topology
    activeRegions := activeRegions
    source := if found then some "sysfs".toList else device.tensix.source } }

end DeviceResourceReader
end Tt
