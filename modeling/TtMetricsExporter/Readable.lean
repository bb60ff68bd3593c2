import TtMetricsExporter.Attributes
import TtMetricsExporter.Workloads
/-!
# Readable — the device directories that can be read to the end

For each reader of a device, what must not stand in the tree for it to return: an integer text that is too long, a byte
value past the decimal range.  `SysfsReadable` and `StateReadable` put them together, and nothing else makes a device's
collection raise.
-/
namespace Tt

open Py (Str)
open Posix (Node Path)
open SysfsReader SysfsCollector

/-! ## The device directory -/

theorem returns_readText (fs : Node) (path : Path) (diagnostics : TelemetrySource) :
    (readText fs path diagnostics).Returns := returns_of_value (value_readText fs path diagnostics)

theorem returns_readFirstText (fs : Node) (root : Path) (names : List Str) (diagnostics : TelemetrySource) :
    (readFirstText fs root names diagnostics).Returns := returns_of_value (value_readFirstText fs root names diagnostics)

theorem returns_pure_iff {α : Type} (a : α) : (pure a : Reading α).Returns ↔ True := iff_of_true rfl trivial

section Sysfs
variable (m : Machine)

/-- The field of a `uevent` file. -/
def ueventField (root : Path) (field : Str) : Option Str :=
  (attributeText m.fs (root ++ ["uevent".toList])).bind (fun content =>
    ((Py.splitlines content).find? (fun line => (field ++ ['=']).isPrefixOf line)).map
      (fun line => Py.stripAscii (line.drop (field ++ ['=']).length)))

theorem value_readUeventField (root : Path) (field : Str) (diagnostics : TelemetrySource) :
    (readUeventField m root field diagnostics).value = some (ueventField m root field) := by
  unfold readUeventField ueventField
  rw [Tally.value_bind, value_readText, Option.bind_some]
  cases attributeText m.fs (root ++ ["uevent".toList]) with
  | none => rfl
  | some content =>
    rw [Option.bind_some]
    cases h : (Py.splitlines content).find? (fun line => (field ++ ['=']).isPrefixOf line) with
    | none => simp [h]
    | some line => simp [h]

/-- The PCI address of a device, under its `device` directory. -/
def bdfOf (root : Path) : Option Str :=
  (ueventField m (root ++ ["device".toList]) "PCI_SLOT_NAME".toList).or
    (readSymlinkBasename m (root ++ ["device".toList]))

theorem value_readBdf (root : Path) (diagnostics : TelemetrySource) :
    (readBdf m (root ++ ["device".toList]) diagnostics).value = some (bdfOf m root) := by
  unfold readBdf bdfOf
  rw [Tally.value_bind, value_readUeventField, Option.bind_some]
  cases ueventField m (root ++ ["device".toList]) "PCI_SLOT_NAME".toList <;> rfl

def characterDeviceOf (root : Path) : Option CharacterDevice :=
  match attributeText m.fs (root ++ ["dev".toList]) with
  | none => none
  | some value =>
    if ':' ∉ value then none
    else match parseUint64 (Py.splitOnce ':' value).1, parseUint64 (Py.splitOnce ':' value).2 with
      | some major, some minor => some { major := major, minor := minor, devName := ueventField m root "DEVNAME".toList }
      | _, _ => none

theorem value_readCharacterDevice (root : Path) (diagnostics : TelemetrySource) :
    (readCharacterDevice m root diagnostics).value = some (characterDeviceOf m root) := by
  unfold readCharacterDevice characterDeviceOf
  rw [Tally.value_bind, value_readText, Option.bind_some]
  cases attributeText m.fs (root ++ ["dev".toList]) with
  | none => rfl
  | some value =>
    by_cases hc : ':' ∉ value
    · simp only [if_pos hc]
      rfl
    · simp only [if_neg hc]
      cases parseUint64 (Py.splitOnce ':' value).1 with
      | none => rfl
      | some major =>
        cases parseUint64 (Py.splitOnce ':' value).2 with
        | none => rfl
        | some minor => simp only [Tally.value_bind, value_readUeventField, Option.bind_some, Tally.value_pure]

theorem returns_readIntText (path : Path) (diagnostics : TelemetrySource) :
    (readIntText m path diagnostics).Returns ↔ IntSafe m.fs path := by
  unfold readIntText IntSafe
  rw [Tally.returns_bind, value_readText]
  simp only [Option.some.injEq, exists_eq_left', Tally.returns_lift, parseInt64_isOk]
  cases attributeText m.fs path with
  | none => exact iff_of_true (by decide) (fun _ h => nomatch h)
  | some t => simp

/-- The name of the IOMMU group is not too long, and where it is no integer, neither is the attribute of that name. -/
def IommuSafe (path : Path) : Prop :=
  ¬ TooLong ((readSymlinkBasename m path).getD []) ∧
    (isIntegerText (Py.strip ((readSymlinkBasename m path).getD [])) = false → IntSafe m.fs path)

theorem returns_readIommuGroup (pciRoot : Path) (diagnostics : TelemetrySource) :
    (readIommuGroup m pciRoot diagnostics).Returns ↔ IommuSafe m (pciRoot ++ ["iommu_group".toList]) := by
  unfold readIommuGroup IommuSafe
  simp only
  generalize pciRoot ++ ["iommu_group".toList] = path
  generalize (readSymlinkBasename m path).getD [] = group
  rw [Tally.returns_bind, Tally.value_lift]
  rcases parseInt64_cases group with ⟨h, e⟩ | ⟨h, hi, n, e⟩ | ⟨h, hi, e⟩
  · simp [e, h, Except.toOption]
  · simp [e, h, hi, Except.toOption]
  · simp [e, h, hi, Except.toOption, returns_readIntText]

def pciIntFiles := files ["numa_node", "current_link_width", "max_link_width"]

def PciReadable (pciRoot : Path) : Prop :=
  IommuSafe m (pciRoot ++ ["iommu_group".toList]) ∧ ∀ name ∈ pciIntFiles, IntSafe m.fs (pciRoot ++ [name])

theorem returns_readDriver (pciRoot : Path) (diagnostics : TelemetrySource) :
    (readDriver m pciRoot diagnostics).Returns := by
  unfold readDriver
  rw [Tally.returns_bind, value_readUeventField]
  refine ⟨_, rfl, ?_⟩
  cases ueventField m pciRoot "DRIVER".toList with
  | some driver => rfl
  | none =>
    cases readSymlinkBasename m (pciRoot ++ ["driver".toList]) with
    | some driver => rfl
    | none => exact returns_readText _ _ _

theorem returns_readPciInfo (root : Path) (diagnostics : TelemetrySource) :
    (readPciInfo m root diagnostics).Returns ↔ PciReadable m (root ++ ["device".toList]) := by
  unfold readPciInfo PciReadable pciIntFiles
  simp only
  rw [Tally.returns_bind_of (fun _ => Tally.returns_bind_of (fun _ => Tally.returns_bind_of (fun _ =>
    Tally.returns_bind_of (fun _ => Tally.returns_bind_of (fun _ => Tally.returns_bind_of (fun _ =>
    Tally.returns_bind_of (fun _ => Tally.returns_bind_of (fun _ => Tally.returns_bind_of (fun _ =>
    Tally.returns_bind_of (fun _ => Tally.returns_bind_of (fun _ => Tally.returns_bind_of (fun _ =>
    Tally.returns_bind_of (fun _ => Tally.returns_bind_of (fun _ => Tally.returns_bind_of (fun _ =>
    returns_pure_iff _)))))))))))))))]
  simp only [returns_of_value (value_readBdf m root diagnostics), returns_readDriver, returns_readText, returns_readInt,
    returns_readIntText, returns_readIommuGroup, files, List.map_cons, List.map_nil, List.forall_mem_cons,
    List.not_mem_nil, false_imp_iff, implies_true, true_and, and_true]

theorem readPciInfo_ensures (root : Path) (diagnostics : TelemetrySource) :
    (readPciInfo m root diagnostics).Ensures (fun info => info.bdf = bdfOf m root) := by
  unfold readPciInfo
  refine Tally.Ensures.bind (P := (· = bdfOf m root)) (.of_value (value_readBdf m root diagnostics) rfl) ?_
  intro bdf hb
  iterate 14 refine Tally.Ensures.next (fun _ => ?_)
  exact .pure hb

def firmwareIntFiles := files ["tt_aiclk", "tt_axiclk", "tt_arcclk", "tt_heartbeat", "tt_therm_trip_count"]

def FirmwareReadable (root : Path) : Prop := ∀ name ∈ firmwareIntFiles, IntSafe m.fs (root ++ [name])

theorem returns_readFirmware (root : Path) (diagnostics : TelemetrySource) :
    (readFirmware m root diagnostics).Returns ↔ FirmwareReadable m root := by
  unfold readFirmware FirmwareReadable firmwareIntFiles
  simp only
  rw [Tally.returns_bind_of (fun _ => Tally.returns_bind_of (fun _ => Tally.returns_bind_of (fun _ =>
    Tally.returns_bind_of (fun _ => Tally.returns_bind_of (fun _ => Tally.returns_bind_of (fun _ =>
    Tally.returns_bind_of (fun _ => Tally.returns_bind_of (fun _ => Tally.returns_bind_of (fun _ =>
    Tally.returns_bind_of (fun _ => Tally.returns_bind_of (fun _ => Tally.returns_bind_of (fun _ =>
    Tally.returns_bind_of (fun _ => Tally.returns_bind_of (fun _ => returns_pure_iff _))))))))))))))]
  simp only [returns_readText, returns_readInt, files, List.map_cons, List.map_nil, List.forall_mem_cons,
    List.not_mem_nil, false_imp_iff, implies_true, and_true]

/-- A sensor's value file. -/
def IsSensorFile (directory : Path) (name : Str) : Prop :=
  pathIs m.fs isRegular (directory ++ [name]) = .ok true ∧ Py.endsWith "_input".toList name ∧ 6 < name.length

def HwmonReadable (root : Path) : Prop :=
  ∀ e ∈ hwmonEntries m root, IsSensorFile m e.1 e.2 → IntSafe m.fs (e.1 ++ [e.2])

theorem returns_readHwmonSensor (directory : Path) (name : Str) (diagnostics : TelemetrySource) :
    (readHwmonSensor m directory name diagnostics).Returns ↔
      (IsSensorFile m directory name → IntSafe m.fs (directory ++ [name])) := by
  unfold readHwmonSensor IsSensorFile
  split
  · rename_i h
    rw [Tally.returns_bind_of (P := True), and_true, returns_readInt]
    · exact ⟨fun hs _ => hs, fun hs => hs h⟩
    · intro value
      cases value with
      | none => exact returns_pure_iff _
      | some value =>
        rw [Tally.returns_bind_of (fun _ => returns_pure_iff _), and_true, iff_true]
        exact returns_readText _ _ _
  · rename_i h
    exact iff_of_true rfl (fun h' => absurd h' h)

theorem returns_readHwmonSensors (root : Path) (diagnostics : TelemetrySource) :
    (readHwmonSensors m root diagnostics).Returns ↔ HwmonReadable m root := by
  unfold readHwmonSensors HwmonReadable
  rw [Tally.returns_bind_of (fun _ => returns_pure_iff _), and_true, Tally.returns_each]
  simp only [returns_readHwmonSensor]

def powerIntFiles :=
  files ["runtime_active_time", "runtime_suspended_time", "runtime_usage", "runtime_active_kids", "autosuspend_delay_ms"]

def PowerReadable (root : Path) : Prop := ∀ name ∈ powerIntFiles, IntSafe m.fs (root ++ ["power".toList] ++ [name])

theorem returns_readPowerInfo (root : Path) (diagnostics : TelemetrySource) :
    (readPowerInfo m root diagnostics).Returns ↔ PowerReadable m root := by
  unfold readPowerInfo PowerReadable powerIntFiles
  simp only
  rw [Tally.returns_bind_of (fun _ => Tally.returns_bind_of (fun _ => Tally.returns_bind_of (fun _ =>
    Tally.returns_bind_of (fun _ => Tally.returns_bind_of (fun _ => Tally.returns_bind_of (fun _ =>
    Tally.returns_bind_of (fun _ => Tally.returns_bind_of (fun _ => returns_pure_iff _))))))))]
  simp only [returns_readText, returns_readIntText, files, List.map_cons, List.map_nil, List.forall_mem_cons,
    List.not_mem_nil, false_imp_iff, implies_true, true_and, and_true]

theorem returns_readPcieCounters (root : Path) (diagnostics : TelemetrySource) :
    (readPcieCounters m root diagnostics).Returns := by
  unfold readPcieCounters
  simp only
  cases Posix.listPath m.fs (root ++ ["pcie_perf_counters".toList]) with
  | error e => rfl
  | ok names =>
    refine (Tally.returns_bind_of (fun _ => returns_pure_iff _)).2 ⟨(Tally.returns_each _ _).2 ?_, trivial⟩
    intro name _
    unfold readPcieCounter
    split
    · refine (Tally.returns_bind_of (P := True) (fun value => ?_)).2 ⟨returns_readUint _ _ _, trivial⟩
      cases value <;> exact returns_pure_iff _
    · rfl

def HealthReadable (root : Path) : Prop :=
  FirstBoolishSafe m.fs root resetRequiredFiles ∧ ∀ names ∈ [oomFaultFiles, hangFaultFiles], FirstIntSafe m.fs root names

theorem returns_readHealth (root : Path) (diagnostics : TelemetrySource) :
    (readHealth m root diagnostics).Returns ↔ HealthReadable m root := by
  unfold readHealth HealthReadable
  rw [Tally.returns_bind_of (fun _ => Tally.returns_bind_of (fun _ => Tally.returns_bind_of (fun _ =>
    Tally.returns_bind_of (fun _ => Tally.returns_bind_of (fun _ => returns_pure_iff _)))))]
  simp only [returns_readFirstText, returns_readFirstBoolish, returns_readFirstInt, List.forall_mem_cons,
    List.not_mem_nil, false_imp_iff, implies_true, true_and, and_true]

def LinksReadable (root : Path) : Prop :=
  ∀ e ∈ linkEntries m root, FirstIntSafe m.fs (e.1 ++ [e.2.1]) linkSpeedFiles

theorem returns_readInterconnectLinks (root : Path) (diagnostics : TelemetrySource) :
    (readInterconnectLinks m root diagnostics).Returns ↔ LinksReadable m root := by
  unfold readInterconnectLinks LinksReadable
  rw [Tally.returns_bind_of (fun _ => returns_pure_iff _), and_true, Tally.returns_each]
  refine forall₂_congr (fun e _ => ?_)
  rw [map_eq_pure_bind, Tally.returns_bind_of (fun _ => returns_pure_iff _), and_true]
  unfold readInterconnectLink
  simp only
  rw [Tally.returns_bind_of (fun _ => Tally.returns_bind_of (fun _ => Tally.returns_bind_of (fun _ =>
    Tally.returns_bind_of (fun _ => Tally.returns_bind_of (fun _ => returns_pure_iff _)))))]
  simp only [returns_readFirstText, returns_readFirstInt, true_and, and_true]

end Sysfs

/-! ### Memory and Tensix -/

section Resources
open DeviceResourceReader
variable (fs : Node) (root : Path)

/-- The first usage file that has a text. -/
def usageText : Option Str := memoryUsageFiles.findSome? (fun name => attributeText fs (root ++ [name]))

/-- What the usage text says, where it does not overflow. -/
def usageOf : MemoryUsage := ((usageText fs root).bind (fun t => (parseMemoryUsage t).toOption)).getD {}

/-- The usage text does not overflow, and neither does a byte attribute that is read. -/
structure MemoryReadable : Prop where
  usage : ∀ t, usageText fs root = some t → ¬ UsageOverflow t
  used : (usageOf fs root).usedBytes = none → FirstByteSafe fs root memoryUsedFiles
  total : (usageOf fs root).totalBytes = none → FirstByteSafe fs root memoryTotalFiles
  bytes : ∀ names ∈ [memoryFreeFiles, memoryAvailableFiles, memoryBandwidthFiles], FirstByteSafe fs root names
  counts : ∀ names ∈ [controllerCountFiles, controllersPerAsicFiles, channelCountFiles], FirstIntSafe fs root names

theorem returns_orFirstByte (found : Option Int) (names : List Str) (diagnostics : TelemetrySource) :
    (orFirstByte fs found root names diagnostics).Returns ↔ (found = none → FirstByteSafe fs root names) := by
  cases found with
  | none => simp [orFirstByte, returns_readFirstByte]
  | some value => simp [orFirstByte]

theorem value_readMemoryUsage (diagnostics : TelemetrySource) : (readMemoryUsage fs root diagnostics).value =
    match usageText fs root with
    | some t => (parseMemoryUsage t).toOption
    | none => some {} := by
  unfold readMemoryUsage
  rw [Tally.value_bind, value_readFirstText, Option.bind_some]
  show Tally.value (match usageText fs root with | some usage => _ | none => _) = _
  cases usageText fs root with
  | none => rfl
  | some t => exact Tally.value_lift _

theorem returns_readMemoryUsage (diagnostics : TelemetrySource) : (readMemoryUsage fs root diagnostics).Returns ↔
    ∀ t, usageText fs root = some t → ¬ UsageOverflow t := by
  rw [Tally.Returns, value_readMemoryUsage]
  cases usageText fs root with
  | none => simp
  | some t =>
    simp only [Option.some.injEq, forall_eq', ← parseMemoryUsage_isOk]
    cases parseMemoryUsage t <;> simp [Except.toOption, Except.isOk, Except.toBool]

theorem readMemoryUsage_ensures (diagnostics : TelemetrySource) :
    (readMemoryUsage fs root diagnostics).Ensures (· = usageOf fs root) := by
  intro usage h
  rw [value_readMemoryUsage] at h
  unfold usageOf
  cases hu : usageText fs root with
  | none =>
    rw [hu] at h
    simpa using h.symm
  | some t =>
    rw [hu] at h
    have h' : (parseMemoryUsage t).toOption = some usage := h
    rw [Option.bind_some, h', Option.getD_some]

theorem returns_populateMemory (device : DeviceTelemetry) (diagnostics : TelemetrySource) :
    (populateMemory fs device diagnostics).Returns ↔ MemoryReadable fs device.sysfsPath := by
  unfold populateMemory
  simp only
  rw [(readMemoryUsage_ensures fs device.sysfsPath diagnostics).returns_bind (by
    rintro usage rfl
    exact Tally.returns_bind_of (fun _ => Tally.returns_bind_of (fun _ => Tally.returns_bind_of (fun _ =>
      Tally.returns_bind_of (fun _ => Tally.returns_bind_of (fun _ => Tally.returns_bind_of (fun _ =>
      Tally.returns_bind_of (fun _ => Tally.returns_bind_of (fun _ => Tally.returns_bind_of (fun _ =>
      Tally.returns_bind_of (fun _ => returns_pure_iff _)))))))))))]
  simp only [returns_readMemoryUsage, returns_orFirstByte, returns_readFirstByte, returns_readFirstText,
    returns_readFirstInt, true_and, and_true]
  constructor
  · rintro ⟨h₁, h₂, h₃, h₄, h₅, h₆, h₇, h₈, h₉⟩
    exact ⟨h₁, h₂, h₃, by simp only [List.forall_mem_cons]; exact ⟨h₄, h₅, h₆, nofun⟩,
      by simp only [List.forall_mem_cons]; exact ⟨h₇, h₈, h₉, nofun⟩⟩
  · rintro ⟨h₁, h₂, h₃, hb, hc⟩
    simp only [List.forall_mem_cons] at hb hc
    exact ⟨h₁, h₂, h₃, hb.1, hb.2.1, hb.2.2.1, hc.1, hc.2.1, hc.2.2.1⟩

theorem populateMemory_ensures (device : DeviceTelemetry) (diagnostics : TelemetrySource) :
    (populateMemory fs device diagnostics).Ensures (fun d => ∃ memory, d = { device with memory := memory }) := by
  unfold populateMemory
  iterate 11 refine Tally.Ensures.next (fun _ => ?_)
  exact .pure ⟨_, rfl⟩

/-- The first mesh file that has a text. -/
def meshText : Option Str := meshFiles.findSome? (fun name => attributeText fs (root ++ [name]))

/-- No attribute of one of the mesh counts yields an integer. -/
def MeshCountMissing : Prop :=
  ∃ names ∈ [meshRowsFiles, meshColsFiles], ∀ name ∈ names, ¬ Yields fs parseInt64 (root ++ [name])

def MeshReadable : Prop :=
  (∀ names ∈ [meshRowsFiles, meshColsFiles], FirstIntSafe fs root names) ∧
    (MeshCountMissing fs root → ∀ t, meshText fs root = some t → ¬ MeshTooLong t)

def TensixReadable : Prop :=
  (∀ names ∈ [tensixUsedFiles, tensixAvailableFiles, tensixTotalFiles], FirstIntSafe fs root names) ∧ MeshReadable fs root

theorem returns_lift_mesh (dimensions : Option Str) :
    (Tally.lift (parseMeshDimensions (dimensions.getD [])) : Reading _).Returns ↔
      ∀ t, dimensions = some t → ¬ MeshTooLong t := by
  rw [Tally.returns_lift]
  cases dimensions with
  | none => exact iff_of_true (by decide) nofun
  | some t => simp [parseMeshDimensions_isOk]

theorem returns_readMesh (diagnostics : TelemetrySource) :
    (readMesh fs root diagnostics).Returns ↔ MeshReadable fs root := by
  unfold readMesh MeshReadable
  rw [(readFirstInt_ensures fs root meshRowsFiles diagnostics).returns_bind (fun rows hr =>
    (readFirstInt_ensures fs root meshColsFiles diagnostics).returns_bind
      (Q := MeshCountMissing fs root → ∀ t, meshText fs root = some t → ¬ MeshTooLong t) (fun cols hc => by
        have hm : (rows.isNone = true ∨ cols.isNone = true) ↔ MeshCountMissing fs root := by
          unfold MeshCountMissing
          simp only [List.exists_mem_cons_iff, List.not_mem_nil, false_and, exists_false, or_false, ← hr, ← hc,
            Option.isNone_iff_eq_none]
        split
        · rename_i h
          rw [Tally.returns_bind, value_readFirstText]
          simp only [Option.some.injEq, exists_eq_left', hm.1 h, true_imp_iff]
          rw [Tally.returns_bind_of (P := True), and_true, returns_lift_mesh]
          · exact Iff.rfl
          · rintro (_ | _) <;> exact returns_pure_iff _
        · rename_i h
          exact iff_of_true rfl (fun h' => absurd (hm.2 h') h))), returns_readFirstInt, returns_readFirstInt]
  simp only [List.forall_mem_cons, List.not_mem_nil, false_imp_iff, implies_true, and_true, and_assoc]

theorem returns_populateTensix (device : DeviceTelemetry) (diagnostics : TelemetrySource) :
    (populateTensix fs device diagnostics).Returns ↔ TensixReadable fs device.sysfsPath := by
  unfold populateTensix TensixReadable
  simp only
  rw [Tally.returns_bind_of (fun _ => Tally.returns_bind_of (fun _ => Tally.returns_bind_of (fun _ =>
    Tally.returns_bind_of (fun _ => Tally.returns_bind_of (fun _ => Tally.returns_bind_of (fun _ =>
    returns_pure_iff _))))))]
  simp only [returns_readFirstText, returns_readFirstInt, returns_readMesh, List.forall_mem_cons,
    List.not_mem_nil, false_imp_iff, implies_true, and_true, and_assoc]

theorem populateTensix_ensures (device : DeviceTelemetry) (diagnostics : TelemetrySource) :
    (populateTensix fs device diagnostics).Ensures (fun d => ∃ tensix, d = { device with tensix := tensix }) := by
  unfold populateTensix
  iterate 6 refine Tally.Ensures.next (fun _ => ?_)
  exact .pure ⟨_, rfl⟩

end Resources
/-! ### The device -/

section Device
variable (m : Machine) (config : CollectorConfig)

/-- **Where a device directory can be read to the end.** -/
structure SysfsReadable (root : Path) : Prop where
  pci : PciReadable m (root ++ ["device".toList])
  firmware : FirmwareReadable m root
  hwmon : config.collectHwmon = true → HwmonReadable m root
  power : PowerReadable m root
  memory : MemoryReadable m.fs root
  tensix : TensixReadable m.fs root
  health : HealthReadable m root
  links : LinksReadable m root

theorem returns_ite {α : Type} {c : Prop} [Decidable c] {x : Reading α} {a : α} {P : Prop} (h : x.Returns ↔ P) :
    (if c then x else pure a : Reading α).Returns ↔ (c → P) := by
  split
  · rename_i hc
    exact h.trans ⟨fun hp _ => hp, fun hp => hp hc⟩
  · rename_i hc
    exact iff_of_true rfl (fun h' => absurd h' hc)

/-- The readers that come last, from the memory on. -/
theorem returns_resources (device : DeviceTelemetry) (root : Path) (diagnostics : TelemetrySource) :
    (do
      let device ← DeviceResourceReader.populateMemory m.fs device diagnostics
      let device ← DeviceResourceReader.populateTensix m.fs device diagnostics
      let healthDetail ← readHealth m root diagnostics
      let links ← readInterconnectLinks m root diagnostics
      return { device with healthDetail := healthDetail, interconnectLinks := links } : Reading DeviceTelemetry).Returns ↔
    MemoryReadable m.fs device.sysfsPath ∧ TensixReadable m.fs device.sysfsPath ∧ HealthReadable m root ∧
      LinksReadable m root := by
  rw [(populateMemory_ensures m.fs device diagnostics).returns_bind (Q := TensixReadable m.fs device.sysfsPath ∧
    HealthReadable m root ∧ LinksReadable m root), returns_populateMemory]
  rintro _ ⟨memory, rfl⟩
  rw [Tally.returns_bind_of (fun _ => Tally.returns_bind_of (fun _ => Tally.returns_bind_of (fun _ =>
    returns_pure_iff _))), returns_populateTensix, returns_readHealth, returns_readInterconnectLinks, and_true]

theorem returns_populateDevice (device : DeviceTelemetry) (diagnostics : TelemetrySource) :
    (populateDevice m config device diagnostics).Returns ↔ SysfsReadable m config device.sysfsPath := by
  unfold populateDevice
  simp only
  refine (Tally.returns_bind_of (fun _ => Tally.returns_bind_of (fun _ => Tally.returns_bind_of (fun _ =>
    Tally.returns_bind_of (fun _ => Tally.returns_bind_of (fun _ => Tally.returns_bind_of (fun _ =>
    Tally.returns_bind_of (fun _ => Tally.returns_bind_of (fun _ => Tally.returns_bind_of (fun _ =>
    Tally.returns_bind_of (P := MemoryReadable m.fs device.sysfsPath ∧ TensixReadable m.fs device.sysfsPath ∧
      HealthReadable m device.sysfsPath ∧ LinksReadable m device.sysfsPath) (fun _ => ?_))))))))))).trans ?_
  · exact returns_resources m _ device.sysfsPath diagnostics
  simp only [returns_readFirstText, returns_of_value (value_readCharacterDevice m _ _), returns_readPciInfo,
    returns_readFirmware, returns_ite (returns_readHwmonSensors m _ _), returns_readPowerInfo, returns_readText,
    returns_ite (iff_true_intro (returns_readPcieCounters m _ _)), implies_true, true_and]
  constructor
  · rintro ⟨h₁, h₂, h₃, h₄, h₅, h₆, h₇, h₈⟩
    exact ⟨h₁, h₂, h₃, h₄, h₅, h₆, h₇, h₈⟩
  · rintro ⟨h₁, h₂, h₃, h₄, h₅, h₆, h₇, h₈⟩
    exact ⟨h₁, h₂, h₃, h₄, h₅, h₆, h₇, h₈⟩

/-- The names a device's state is kept under. -/
def keysOf (id : Str) (root : Path) : List Str :=
  ([id] ++ (bdfOf m root).toList ++
    (((characterDeviceOf m root).bind (·.devName)).map Py.pathName).toList).filter (validComponent ·)

theorem populateDevice_ensures (device : DeviceTelemetry) (diagnostics : TelemetrySource) :
    (populateDevice m config device diagnostics).Ensures (fun d => deviceKeys d = keysOf m device.id device.sysfsPath) := by
  unfold populateDevice
  iterate 3 refine Tally.Ensures.next (fun _ => ?_)
  refine Tally.Ensures.bind (P := (· = characterDeviceOf m device.sysfsPath))
    (.of_value (value_readCharacterDevice m _ _) rfl) ?_
  rintro _ rfl
  refine Tally.Ensures.bind (readPciInfo_ensures m _ _) ?_
  rintro info hinfo
  iterate 5 refine Tally.Ensures.next (fun _ => ?_)
  refine Tally.Ensures.bind (populateMemory_ensures m.fs _ _) ?_
  rintro _ ⟨memory, rfl⟩
  refine Tally.Ensures.bind (populateTensix_ensures m.fs _ _) ?_
  rintro _ ⟨tensix, rfl⟩
  iterate 2 refine Tally.Ensures.next (fun _ => ?_)
  refine .pure ?_
  unfold deviceKeys keysOf
  rw [hinfo]

end Device

/-! ## State roots -/

section State
open StateIngestor
variable (fs : Node)

theorem value_firstDeviceDirectory (root : SecureDirectory) (device : DeviceTelemetry) (diagnostics : TelemetrySource) :
    (firstDeviceDirectory fs root device diagnostics).value =
      some ((deviceKeys device).findSome? (stateDirectory fs root)) :=
  Tally.value_first_of (fun _ => value_openDirectory fs root _ diagnostics) (deviceKeys device)

theorem returns_stateReadText (directory : SecureDirectory) (name : Str) (maximumSize : Nat)
    (diagnostics : TelemetrySource) : (directory.readText fs name maximumSize diagnostics).Returns :=
  returns_of_value (value_stateReadText fs directory name maximumSize diagnostics)

theorem returns_validateLabel (value : Option Str) (maximum : Nat) (diagnostics : TelemetrySource) :
    (validateLabel value maximum diagnostics).Returns := by
  unfold validateLabel
  split <;> rfl

theorem returns_firstDeviceDirectory (root : SecureDirectory) (device : DeviceTelemetry)
    (diagnostics : TelemetrySource) : (firstDeviceDirectory fs root device diagnostics).Returns :=
  returns_of_value (value_firstDeviceDirectory fs root device diagnostics)

/-- What is validated as labels never raises. -/
theorem returns_readAllocation (device : DeviceTelemetry) (root : SecureDirectory) :
    (readAllocation fs device root).Returns := by
  unfold readAllocation
  refine Tally.Returns.bind (returns_firstDeviceDirectory fs root device _) (fun directory => ?_)
  cases directory with
  | none => rfl
  | some directory =>
    iterate 6 refine Tally.Returns.bind (returns_stateReadText fs _ _ _ _) (fun _ => ?_)
    iterate 6 refine Tally.Returns.bind (returns_validateLabel _ _ _) (fun _ => ?_)
    rfl

/-- A number of a state directory is not too long. -/
def StateIntSafe (directory : SecureDirectory) (name : Str) : Prop :=
  ∀ t, stateText fs directory name maximumStateFileBytes = some t → ¬ TooLong t

theorem returns_readStateInt (directory : SecureDirectory) (name : Str) (diagnostics : TelemetrySource) :
    (readStateInt fs directory name diagnostics).Returns ↔ StateIntSafe fs directory name := by
  unfold readStateInt StateIntSafe
  rw [Tally.returns_bind, value_stateReadText]
  simp only [Option.some.injEq, exists_eq_left', ← parseInt64_isOk]
  cases stateText fs directory name maximumStateFileBytes with
  | none => simp
  | some t =>
    rw [Tally.returns_bind_of (P := True), Tally.returns_lift]
    · simp
    · rintro (_ | _) <;> exact returns_pure_iff _

def janitorIntFiles :=
  files ["scrub_count", "reset_count", "last_scrub_timestamp_seconds", "last_reset_timestamp_seconds"]

def JanitorReadable (root : SecureDirectory) (keys : List Str) : Prop :=
  ∀ directory, keys.findSome? (stateDirectory fs root) = some directory →
    ∀ name ∈ janitorIntFiles, StateIntSafe fs directory name

theorem returns_readJanitor (device : DeviceTelemetry) (root : SecureDirectory) :
    (readJanitor fs device root).Returns ↔ JanitorReadable fs root (deviceKeys device) := by
  unfold readJanitor JanitorReadable janitorIntFiles
  simp only
  rw [Tally.returns_bind, value_firstDeviceDirectory]
  simp only [Option.some.injEq, exists_eq_left']
  cases (deviceKeys device).findSome? (stateDirectory fs root) with
  | none => simp
  | some directory =>
    dsimp only
    -- the labels are validated last, and that never raises
    rw [Tally.returns_bind_of (fun _ => Tally.returns_bind_of (fun _ => Tally.returns_bind_of (fun _ =>
      Tally.returns_bind_of (fun _ => Tally.returns_bind_of (fun _ => Tally.returns_bind_of (fun _ =>
      Tally.returns_bind_of (fun _ => Tally.returns_bind_of (P := True) (fun _ => iff_true_intro (by
        iterate 4 refine Tally.Returns.bind (returns_validateLabel _ _ _) (fun _ => ?_)
        rfl)))))))))]
    simp only [returns_stateReadText, returns_readStateInt, files, List.map_cons, List.map_nil, List.forall_mem_cons,
      List.not_mem_nil, false_imp_iff, implies_true, true_and, and_true, Option.some.injEq, forall_eq']

/-- The schema number is too long, or it is the expected one and another number is. -/
def RecordTooLong (content : Str) (expectedSchema : Int) : Prop :=
  ∃ values, parseKeyValues content = some values ∧
    (TooLong ((stateString values "schema_version".toList).getD []) ∨
      stateNonNegativeInt values "schema_version".toList = .ok (some expectedSchema) ∧
        ∃ key ∈ workloadIntKeys, TooLong ((stateString values key).getD []))

theorem returns_parseWorkload (self : StateIngestor) (content : Str) (expectedSchema : Int)
    (diagnostics : TelemetrySource) :
    (self.parseWorkload content expectedSchema diagnostics).Returns ↔ ¬ RecordTooLong content expectedSchema := by
  unfold parseWorkload RecordTooLong
  cases parseKeyValues content with
  | none => exact iff_of_true rfl (fun ⟨_, h, _⟩ => nomatch h)
  | some values =>
    simp only [Option.some.injEq, exists_eq_left', Tally.returns_lift_bind]
    have hs := stateNonNegativeInt_isOk values "schema_version".toList
    cases hn : stateNonNegativeInt values "schema_version".toList with
    | error e =>
      rw [hn] at hs
      have hl : TooLong ((stateString values "schema_version".toList).getD []) := not_not.1 (fun h => nomatch hs.2 h)
      simp only [hl, true_or, not_true_eq_false, iff_false]
      rintro ⟨_, h, _⟩
      cases h
    | ok schema =>
      rw [hn] at hs
      have hl : ¬ TooLong ((stateString values "schema_version".toList).getD []) := hs.1 rfl
      simp only [Except.ok.injEq, exists_eq_left', hl, false_or]
      by_cases he : schema = some expectedSchema
      · rw [if_neg (not_not.2 he), Tally.returns_bind_of (P := True), and_true, Tally.returns_lift, workloadOf_isOk]
        · simp [he]
        · intro workload
          refine iff_true_intro ?_
          split
          · rfl
          · split <;> rfl
      · rw [if_pos he]
        exact iff_of_true rfl (fun h => he h.1)

/-- The content of a pod's snapshot for a device, where it is read. -/
def snapshotText (workloadRoot : SecureDirectory) (keys : List Str) (podUid : Str) : Option Str :=
  (stateDirectory fs workloadRoot podUid).bind (fun pod =>
    (keys.findSome? (stateDirectory fs pod)).bind (fun directory =>
      stateText fs directory "snapshot.state".toList maximumStateFileBytes))

theorem returns_readPod (self : StateIngestor) (device : DeviceTelemetry) (workloadRoot : SecureDirectory)
    (podUid : Str) : (self.readPod fs device workloadRoot podUid).Returns ↔
      ∀ content, snapshotText fs workloadRoot (deviceKeys device) podUid = some content → ¬ RecordTooLong content 2 := by
  unfold readPod snapshotText
  simp only
  split
  · rename_i hc
    have hn : stateDirectory fs workloadRoot podUid = none := by
      unfold stateDirectory
      rw [if_neg (by rw [show validComponent podUid = false from hc]; decide)]
    rw [hn]
    exact iff_of_true rfl nofun
  · rw [Tally.returns_bind, value_openDirectory]
    simp only [Option.some.injEq, exists_eq_left']
    cases stateDirectory fs workloadRoot podUid with
    | none => exact iff_of_true rfl nofun
    | some pod =>
      dsimp only
      rw [Tally.returns_bind, value_firstDeviceDirectory]
      simp only [Option.some.injEq, exists_eq_left', Option.bind_some]
      cases (deviceKeys device).findSome? (stateDirectory fs pod) with
      | none => exact iff_of_true rfl nofun
      | some directory =>
        dsimp only
        rw [Tally.returns_bind, value_stateReadText]
        simp only [Option.some.injEq, exists_eq_left', Option.bind_some]
        cases stateText fs directory "snapshot.state".toList maximumStateFileBytes with
        | none => exact iff_of_true rfl nofun
        | some content =>
          dsimp only
          rw [Tally.returns_bind_of (P := True), returns_parseWorkload]
          · simp
          · rintro (_ | _) <;> exact returns_pure_iff _

/-- The directory `v2/workloads`. -/
def workloadDirectory (root : SecureDirectory) : Option SecureDirectory :=
  (stateDirectory fs root "v2".toList).bind (fun v2 => stateDirectory fs v2 "workloads".toList)

theorem value_openWorkloadRoot (root : SecureDirectory) :
    (openWorkloadRoot fs root).value = some (workloadDirectory fs root) := by
  unfold openWorkloadRoot workloadDirectory
  rw [Tally.value_bind, value_openDirectory, Option.bind_some]
  cases stateDirectory fs root "v2".toList with
  | none => rfl
  | some v2 => exact value_openDirectory fs v2 _ _

theorem returns_entries (directory : SecureDirectory) (maximumEntries : Nat) (diagnostics : TelemetrySource) :
    (directory.entries fs maximumEntries diagnostics).Returns := by
  unfold SecureDirectory.entries
  cases Posix.listdir fs directory.path with
  | error e => rfl
  | ok names =>
    dsimp only
    split <;> rfl

theorem value_entries (directory : SecureDirectory) :
    (directory.entries fs maximumStateFiles .metaliumProfilerState).value = some (listed fs directory) := by
  obtain ⟨names, h⟩ := Tally.returns_iff.1 (returns_entries fs directory maximumStateFiles .metaliumProfilerState)
  rw [listed, h, Option.getD_some]

/-- Every snapshot and every legacy file that is parsed can be. -/
structure WorkloadsReadable (root : SecureDirectory) (keys : List Str) : Prop where
  snapshots : ∀ pods, workloadDirectory fs root = some pods → ∀ podUid ∈ listed fs pods, ∀ content,
    snapshotText fs pods keys podUid = some content → ¬ RecordTooLong content 2
  legacy : ∀ directory, keys.findSome? (stateDirectory fs root) = some directory → ∀ filename ∈ listed fs directory,
    6 < filename.length → Py.endsWith ".state".toList filename = true → ∀ content,
      stateText fs directory filename maximumStateFileBytes = some content → ¬ RecordTooLong content 1

theorem returns_readV2 (self : StateIngestor) (device : DeviceTelemetry) (root : SecureDirectory) :
    (self.readV2 fs device root).Returns ↔ ∀ pods, workloadDirectory fs root = some pods → ∀ podUid ∈ listed fs pods,
      ∀ content, snapshotText fs pods (deviceKeys device) podUid = some content → ¬ RecordTooLong content 2 := by
  unfold readV2
  rw [Tally.returns_bind, value_openWorkloadRoot]
  simp only [Option.some.injEq, exists_eq_left']
  cases workloadDirectory fs root with
  | none => exact iff_of_true rfl nofun
  | some pods =>
    dsimp only
    unfold readV2Workloads
    rw [Tally.returns_bind, value_entries]
    simp only [Option.some.injEq, exists_eq_left', forall_eq', Tally.returns_each, returns_readPod]

theorem returns_readLegacyFile (self : StateIngestor) (directory : SecureDirectory) (filename : Str) :
    (self.readLegacyFile fs directory filename).Returns ↔
      (6 < filename.length → Py.endsWith ".state".toList filename = true → ∀ content,
        stateText fs directory filename maximumStateFileBytes = some content → ¬ RecordTooLong content 1) := by
  unfold readLegacyFile
  split
  · rename_i h
    refine iff_of_true rfl (fun hl he => ?_)
    rcases h with h | h
    · exact absurd hl (Nat.not_lt.2 h)
    · rw [he] at h
      cases h
  · rename_i h
    rw [not_or, Nat.not_le, Bool.not_eq_false] at h
    rw [Tally.returns_bind, value_stateReadText]
    simp only [Option.some.injEq, exists_eq_left', h.1, h.2, true_imp_iff]
    cases stateText fs directory filename maximumStateFileBytes with
    | none => exact iff_of_true rfl nofun
    | some content => simp [returns_parseWorkload]

theorem returns_readLegacy (self : StateIngestor) (device : DeviceTelemetry) (root : SecureDirectory) :
    (self.readLegacy fs device root).Returns ↔
      ∀ directory, (deviceKeys device).findSome? (stateDirectory fs root) = some directory →
        ∀ filename ∈ listed fs directory, 6 < filename.length → Py.endsWith ".state".toList filename = true →
          ∀ content, stateText fs directory filename maximumStateFileBytes = some content → ¬ RecordTooLong content 1 := by
  unfold readLegacy
  rw [Tally.returns_bind, value_firstDeviceDirectory]
  simp only [Option.some.injEq, exists_eq_left']
  cases (deviceKeys device).findSome? (stateDirectory fs root) with
  | none => exact iff_of_true rfl nofun
  | some directory =>
    dsimp only
    rw [Tally.returns_bind, value_entries]
    simp only [Option.some.injEq, exists_eq_left', forall_eq', Tally.returns_each, returns_readLegacyFile]

theorem returns_readWorkloads (self : StateIngestor) (device : DeviceTelemetry) (root : SecureDirectory) :
    (self.readWorkloads fs device root).Returns ↔ WorkloadsReadable fs root (deviceKeys device) := by
  unfold readWorkloads
  rw [Tally.returns_bind_of (fun v2 => Tally.returns_bind_of (fun legacy =>
    iff_true_intro (returns_of_value (value_mergeWorkloads v2 legacy)))), and_true, returns_readV2, returns_readLegacy]
  exact ⟨fun ⟨h₁, h₂⟩ => ⟨h₁, h₂⟩, fun ⟨h₁, h₂⟩ => ⟨h₁, h₂⟩⟩

/-- **Where the state of a device can be read to the end**, by the names it is kept under. -/
structure StateReadable (self : StateIngestor) (keys : List Str) : Prop where
  janitor : ∀ root, self.janitorRoot = some root → JanitorReadable fs root keys
  workloads : ∀ root, self.profilerRoot = some root → WorkloadsReadable fs root keys

theorem populateAllocation_ensures (self : StateIngestor) (device : DeviceTelemetry) :
    (self.populateAllocation fs device).Ensures (fun d => deviceKeys d = deviceKeys device) := by
  unfold populateAllocation
  cases self.allocationRoot with
  | none => exact .pure rfl
  | some root => exact .next (fun _ => .pure rfl)

theorem populateJanitor_ensures (self : StateIngestor) (device : DeviceTelemetry) :
    (self.populateJanitor fs device).Ensures (fun d => deviceKeys d = deviceKeys device) := by
  unfold populateJanitor
  cases self.janitorRoot with
  | none => exact .pure rfl
  | some root => exact .next (fun _ => .pure rfl)

theorem returns_populate (self : StateIngestor) (device : DeviceTelemetry) :
    (self.populate fs device).Returns ↔ StateReadable fs self (deviceKeys device) := by
  have hw : ∀ d, deviceKeys d = deviceKeys device → ((self.populateWorkloads fs d).Returns ↔
      ∀ root, self.profilerRoot = some root → WorkloadsReadable fs root (deviceKeys device)) := by
    intro d hd
    unfold populateWorkloads
    cases self.profilerRoot with
    | none => exact iff_of_true rfl nofun
    | some root =>
      rw [Tally.returns_bind_of (fun _ => returns_pure_iff _), returns_readWorkloads, hd]
      simp
  have hj : ∀ d, deviceKeys d = deviceKeys device → ((self.populateJanitor fs d).Returns ↔
      ∀ root, self.janitorRoot = some root → JanitorReadable fs root (deviceKeys device)) := by
    intro d hd
    unfold populateJanitor
    cases self.janitorRoot with
    | none => exact iff_of_true rfl nofun
    | some root =>
      rw [Tally.returns_bind_of (fun _ => returns_pure_iff _), returns_readJanitor, hd]
      simp
  have ha : (self.populateAllocation fs device).Returns := by
    unfold populateAllocation
    cases self.allocationRoot with
    | none => rfl
    | some root => exact Tally.Returns.bind (returns_readAllocation fs device root) (fun _ => rfl)
  unfold populate
  rw [(populateAllocation_ensures fs self device).returns_bind (Q := StateReadable fs self (deviceKeys device))]
  · exact and_iff_right ha
  · intro d hd
    rw [(populateJanitor_ensures fs self d).returns_bind (fun d' hd' => hw d' (hd'.trans hd)), hj d hd]
    exact ⟨fun ⟨h₁, h₂⟩ => ⟨h₁, h₂⟩, fun ⟨h₁, h₂⟩ => ⟨h₁, h₂⟩⟩

end State
end Tt
