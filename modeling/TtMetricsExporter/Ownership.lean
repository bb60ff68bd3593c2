import TtMetricsExporter.Descriptor
import TtMetricsExporter.Collector
/-!
# Ownership — a collection and the descriptors it opens

`secure_io.py`, `StateIngestor` and `collect` call by call, over any kernel: a `SecureDirectory` is an object that owns
a descriptor, every `with` and every `finally` closes what it stands for, and what is done with the bytes is that of the
other modules.  The attribute readers of a device are any `Script`: they may read attributes and ask about paths in any
order, one after the other, and raise (`Scripts`: the ones of `_populate_device` are one).
-/
namespace Tt
namespace Ownership

open Py (Str)
open Posix (Path Errno)
open Descriptor

abbrev Task (σ α : Type) := Io σ Increment PyError α

/-- What does not touch a descriptor: an exception or a result, and the counters bumped on the way. -/
def tally {σ α : Type} : Reading α → Task σ α
  | .raised e => throw e
  | .returned a counted => do
    record counted
    return a

section Directories
variable {σ : Type} (K : Kernel σ)

/-! ## `SecureDirectory` -/

/-- `open_root`. -/
def openRoot (path : Path) (diagnostics : TelemetrySource) : Task σ (Option Handle) := do
  match ← openFile K (.path path true) with
  | .error e =>
    tally (recordIssue diagnostics
      (if e ∈ [.ENOENT, .ENOTDIR] then .missingRoot else if e ∈ [.EACCES, .EPERM] then .permissionDenied else .readFailed))
    return none
  | .ok descriptor => some <$> newHandle descriptor

/-- `os.open(name, flags, dir_fd=self._descriptor)`. -/
def openEntry (self : Handle) (name : Str) (directoryOnly : Bool) : Task σ (Except Errno Int) := do
  let directory ← descriptorOf self
  openFile K (.entry directory name directoryOnly)

def openDirectory (self : Handle) (component : Str) (diagnostics : TelemetrySource) : Task σ (Option Handle) := do
  if validComponent component then
    match ← openEntry K self component true with
    | .error .ENOENT => return none
    | .error e =>
      tally (recordOsError e diagnostics)
      return none
    | .ok descriptor => some <$> newHandle descriptor
  else
    tally (recordIssue diagnostics .invalidValue)
    return none

/-- The `try` block of `read_text`: the bytes, unless the file is refused or cannot be read. -/
def readDescriptor (descriptor : Int) (maximumSize : Nat) (diagnostics : TelemetrySource) :
    Task σ (Option ByteArray) := do
  match ← call K descriptor .fstat with
  | .error e =>
    tally (recordOsError e diagnostics)
    return none
  | .ok status =>
    match if status.regular then statusIssue status.links status.size maximumSize else some .invalidValue with
    | some issue =>
      tally (recordIssue diagnostics issue)
      return none
    | none => match ← call K descriptor (.read (maximumSize + 1)) with
      | (_, .error e) =>
        tally (recordOsError e diagnostics)
        return none
      | (_, .ok content) => return some content

def readText (self : Handle) (name : Str) (maximumSize : Nat) (diagnostics : TelemetrySource) :
    Task σ (Option Str) := do
  if validComponent name 255 then
    match ← openEntry K self name false with
    | .error .ENOENT => return none
    | .error e =>
      tally (recordOsError e diagnostics)
      return none
    | .ok descriptor =>
      match ← tryFinally (readDescriptor K descriptor maximumSize diagnostics) (closeFile K descriptor) with
      | none => return none
      | some content => tally (decodeRecord content maximumSize diagnostics)
  else
    tally (recordIssue diagnostics .invalidValue)
    return none

def entries (self : Handle) (maximumEntries : Nat) (diagnostics : TelemetrySource) : Task σ (List Str) := do
  match ← (do let directory ← descriptorOf self; call K directory .listdir) with
  | .error e =>
    tally (recordOsError e diagnostics)
    return []
  | .ok names =>
    if maximumEntries < names.length then
      tally (recordIssue diagnostics .cardinalityLimit)
      return names.take maximumEntries
    else return names

/-! ## `StateIngestor` -/

def firstDeviceDirectory (root : Handle) (device : DeviceTelemetry) (diagnostics : TelemetrySource) :
    Task σ (Option Handle) :=
  firstSome (fun candidate => openDirectory K root candidate diagnostics) (deviceKeys device)

def readAllocation (device : DeviceTelemetry) (root : Handle) : Task σ AllocationTelemetry := do
  let diagnostics := TelemetrySource.allocationState
  match ← firstDeviceDirectory K root device diagnostics with
  | none => return {}
  | some directory =>
    let allocation ← withHandle K directory (do
      let claimNamespace ← readText K directory "claim_namespace".toList maximumNamespaceBytes diagnostics
      let claimName ← readText K directory "claim_name".toList maximumPodNameBytes diagnostics
      let claimUid ← readText K directory "claim_uid".toList maximumWorkloadIdBytes diagnostics
      let podNamespace ← readText K directory "pod_namespace".toList maximumNamespaceBytes diagnostics
      let podName ← readText K directory "pod_name".toList maximumPodNameBytes diagnostics
      let containerName ← readText K directory "container_name".toList maximumContainerNameBytes diagnostics
      return {
        claimNamespace := claimNamespace
        claimName := claimName
        claimUid := claimUid
        podNamespace := podNamespace
        podName := podName
        containerName := containerName : AllocationTelemetry })
    tally (do
      let claimNamespace ← validateLabel allocation.claimNamespace maximumNamespaceBytes diagnostics
      let claimName ← validateLabel allocation.claimName maximumPodNameBytes diagnostics
      let claimUid ← validateLabel allocation.claimUid maximumWorkloadIdBytes diagnostics
      let podNamespace ← validateLabel allocation.podNamespace maximumNamespaceBytes diagnostics
      let podName ← validateLabel allocation.podName maximumPodNameBytes diagnostics
      let containerName ← validateLabel allocation.containerName maximumContainerNameBytes diagnostics
      recordAccepted diagnostics
      return {
        claimNamespace := claimNamespace
        claimName := claimName
        claimUid := claimUid
        podNamespace := podNamespace
        podName := podName
        containerName := containerName })

def readStateInt (directory : Handle) (name : Str) (diagnostics : TelemetrySource) : Task σ (Option Int) := do
  match ← readText K directory name maximumStateFileBytes diagnostics with
  | none => return none
  | some value => tally (do
    match ← Tally.lift (parseInt64 value) with
    | some parsed => return some parsed
    | none =>
      recordIssue diagnostics .invalidValue
      return none)

def readJanitor (device : DeviceTelemetry) (root : Handle) : Task σ JanitorTelemetry := do
  let diagnostics := TelemetrySource.janitorState
  match ← firstDeviceDirectory K root device diagnostics with
  | none => return {}
  | some directory =>
    let janitor ← withHandle K directory (do
      let state ← readText K directory "state".toList 128 diagnostics
      let quarantineReason ← readText K directory "quarantine_reason".toList 256 diagnostics
      let lastScrubStatus ← readText K directory "last_scrub_status".toList 128 diagnostics
      let lastResetStatus ← readText K directory "last_reset_status".toList 128 diagnostics
      let scrubCount ← readStateInt K directory "scrub_count".toList diagnostics
      let resetCount ← readStateInt K directory "reset_count".toList diagnostics
      let lastScrub ← readStateInt K directory "last_scrub_timestamp_seconds".toList diagnostics
      let lastReset ← readStateInt K directory "last_reset_timestamp_seconds".toList diagnostics
      return {
        state := state
        quarantineReason := quarantineReason
        lastScrubStatus := lastScrubStatus
        lastResetStatus := lastResetStatus
        scrubCount := scrubCount
        resetCount := resetCount
        lastScrubTimestampSeconds := lastScrub
        lastResetTimestampSeconds := lastReset : JanitorTelemetry })
    tally (do
      let state ← validateLabel janitor.state 128 diagnostics
      let quarantineReason ← validateLabel janitor.quarantineReason 256 diagnostics
      let lastScrubStatus ← validateLabel janitor.lastScrubStatus 128 diagnostics
      let lastResetStatus ← validateLabel janitor.lastResetStatus 128 diagnostics
      recordAccepted diagnostics
      return { janitor with
        state := state
        quarantineReason := quarantineReason
        lastScrubStatus := lastScrubStatus
        lastResetStatus := lastResetStatus })

/-- The roots that were opened, and the settings for records. -/
structure Roots where
  allocationRoot : Option Handle
  janitorRoot : Option Handle
  profilerRoot : Option Handle
  settings : StateIngestor

/-- In the order in which they were opened. -/
def Roots.handles (self : Roots) : List Handle :=
  self.allocationRoot.toList ++ self.janitorRoot.toList ++ self.profilerRoot.toList

/-- A root whose path is configured and can be opened. -/
def openConfigured (path : Option Path) (source : TelemetrySource) : Task σ (Option Handle) :=
  match path with
  | none => return none
  | some path => openRoot K path source

/-- `StateIngestor.open`. -/
def openRoots (config : CollectorConfig) (now : Int) : Task σ Roots := do
  let allocation ← openConfigured K config.allocationStateRoot .allocationState
  let janitor ← openConfigured K config.janitorStateRoot .janitorState
  let profiler ← openConfigured K config.metaliumProfilerStateRoot .metaliumProfilerState
  return {
    allocationRoot := allocation
    janitorRoot := janitor
    profilerRoot := profiler
    settings := { staleAfterSeconds := config.metaliumProfilerStaleAfterSeconds, nowSeconds := now } }

variable (self : Roots)

/-- One turn of the loop of `_read_v2_workloads`. -/
def readPod (device : DeviceTelemetry) (workloadRoot : Handle) (podUid : Str) :
    Task σ (Option (Str × MetaliumWorkloadTelemetry)) := do
  let diagnostics := TelemetrySource.metaliumProfilerState
  if validComponent podUid maximumWorkloadIdBytes = false then
    tally (recordIssue diagnostics .invalidValue)
    return none
  match ← openDirectory K workloadRoot podUid diagnostics with
  | none => return none
  | some pod =>
    let content ← withHandle K pod (do
      match ← firstDeviceDirectory K pod device diagnostics with
      | none => return none
      | some directory =>
        withHandle K directory (readText K directory "snapshot.state".toList maximumStateFileBytes diagnostics))
    match content with
    | none => return none
    | some content => match ← tally (self.settings.parseWorkload content 2 diagnostics) with
      | none => return none
      | some workload => return some (workload.workloadId, { workload with workloadId := podUid })

def readV2Workloads (device : DeviceTelemetry) (workloadRoot : Handle) :
    Task σ (List (Str × MetaliumWorkloadTelemetry)) := do
  let podUids ← entries K workloadRoot maximumStateFiles .metaliumProfilerState
  each (readPod K self device workloadRoot) podUids

/-- The v2 half of `_read_workloads`. -/
def readV2 (device : DeviceTelemetry) (root : Handle) : Task σ (List (Str × MetaliumWorkloadTelemetry)) := do
  match ← openDirectory K root "v2".toList .metaliumProfilerState with
  | none => return []
  | some v2 => withHandle K v2 (do
    match ← openDirectory K v2 "workloads".toList .metaliumProfilerState with
    | none => return []
    | some workloadRoot => withHandle K workloadRoot (readV2Workloads K self device workloadRoot))

/-- One turn of the loop over legacy files. -/
def readLegacyFile (directory : Handle) (filename : Str) : Task σ (Option MetaliumWorkloadTelemetry) := do
  if filename.length ≤ 6 ∨ Py.endsWith ".state".toList filename = false then return none
  match ← readText K directory filename maximumStateFileBytes .metaliumProfilerState with
  | none => return none
  | some content => tally (self.settings.parseWorkload content 1 .metaliumProfilerState)

/-- The legacy half of `_read_workloads`. -/
def readLegacy (device : DeviceTelemetry) (root : Handle) : Task σ (List MetaliumWorkloadTelemetry) := do
  match ← firstDeviceDirectory K root device .metaliumProfilerState with
  | none => return []
  | some directory => withHandle K directory (do
    let filenames ← entries K directory maximumStateFiles .metaliumProfilerState
    each (readLegacyFile K self directory) filenames)

def readWorkloads (device : DeviceTelemetry) (root : Handle) : Task σ (List MetaliumWorkloadTelemetry) := do
  let v2 ← readV2 K self device root
  let legacy ← readLegacy K self device root
  tally (mergeWorkloads v2 legacy)

/-! The three steps of `populate`, each skipped where its root could not be opened. -/

def populateAllocation (device : DeviceTelemetry) : Task σ DeviceTelemetry :=
  match self.allocationRoot with
  | none => return device
  | some root => do
    let allocation ← readAllocation K device root
    return { device with allocation := allocation }

def populateJanitor (device : DeviceTelemetry) : Task σ DeviceTelemetry :=
  match self.janitorRoot with
  | none => return device
  | some root => do
    let janitor ← readJanitor K device root
    return { device with janitor := janitor }

def populateWorkloads (device : DeviceTelemetry) : Task σ DeviceTelemetry :=
  match self.profilerRoot with
  | none => return device
  | some root => do
    let workloads ← readWorkloads K self device root
    return applyWorkloads { device with metaliumWorkloads := workloads }

def populate (device : DeviceTelemetry) : Task σ DeviceTelemetry := do
  let device ← populateAllocation K self device
  let device ← populateJanitor K self device
  populateWorkloads K self device

end Directories

/-! ## `SysfsReader` and `collect` -/

/-- What the attribute readers of a device do, one thing after another, each depending on what came before. -/
inductive Script (α : Type) : Type 1 where
  | done (a : α)
  | raised (e : PyError)
  | counted (increments : List Increment) (next : Script α)
  | readText (path : Path) (diagnostics : TelemetrySource) (next : Option Str → Script α)
  | ask {ρ : Type} (path : Path) (question : Query ρ) (next : ρ → Script α)

section Collection
variable {σ : Type} (K : Kernel σ)

/-- `SysfsReader._read_text`. -/
def readAttribute (path : Path) (diagnostics : TelemetrySource) : Task σ (Option Str) := do
  match ← query K path .stat with
  | .error e =>
    tally (recordReadError e diagnostics)
    return none
  | .ok status =>
    if status.regular = false then
      tally (recordIssue diagnostics .invalidValue)
      return none
    if maximumSysfsFileBytes < status.size then
      tally (recordIssue diagnostics .oversizedRecord)
      return none
    match ← openFile K (.path path false) with
    | .error e =>
      tally (recordReadError e diagnostics)
      return none
    | .ok descriptor =>
      match ← tryFinally (call K descriptor (.read (maximumSysfsFileBytes + 1))) (closeFile K descriptor) with
      | (_, .error e) =>
        tally (recordReadError e diagnostics)
        return none
      | (_, .ok content) => tally (decodeRecord content maximumSysfsFileBytes diagnostics)

def Script.run {α : Type} : Script α → Task σ α
  | .done a => return a
  | .raised e => throw e
  | .counted increments next => do
    record increments
    next.run
  | .readText path diagnostics next => do
    let text ← readAttribute K path diagnostics
    (next text).run
  | .ask path question next => do
    let answer ← query K path question
    (next answer).run

variable (populateDevice : DeviceTelemetry → Script DeviceTelemetry) (config : CollectorConfig)

/-- `stat` and `scandir` of the sysfs root: the names in it, or why there are none. -/
def scanRoot : Task σ (Except Errno (List Str)) := do
  match ← query K config.sysfsRoot .stat with
  | .error e => return .error e
  | .ok status =>
    if status.directory = false then return .error .ENOTDIR
    match ← openFile K (.path config.sysfsRoot true) with
    | .error e => return .error e
    | .ok descriptor => tryFinally (call K descriptor .listdir) (closeFile K descriptor)

def collectDevice (state : Roots) (name : Str) : Task σ (Option DeviceTelemetry) := do
  match ← query K (config.sysfsRoot ++ [name]) .stat with
  | .error _ => return none
  | .ok status =>
    if status.directory = false then return none
    let device ← (populateDevice { id := name, sysfsPath := config.sysfsRoot ++ [name] }).run K
    let device ← populate K state device
    return some device

/-- `collect`: the devices, and whether the sysfs root could be scanned. -/
def collect (now : Int) : Task σ (List DeviceTelemetry × Bool) := do
  let state ← openRoots K config now
  tryFinally (do
    match ← scanRoot K config with
    | .error e =>
      tally (recordIssue .sysfsRoot (SysfsCollector.rootIssue e))
      return ([], false)
    | .ok names =>
      let devices ← each (collectDevice K populateDevice config state) names
      return (devices.insertionSort (fun a b => a.id ≤ b.id), true))
    (closeHandles K state.handles)

end Collection

/-! ## Every descriptor is closed, once -/

section Balance
variable {σ : Type} {K : Kernel σ} {handles : List Handle}

theorem balanced_tally {α : Type} (x : Reading α) : Balanced handles (tally x : Task σ α) := by
  cases x with
  | raised e => exact .throw e
  | returned a counted => exact .bind (.record counted) (fun _ => .pure a)

/-- Diagnostics are counted, and nothing is read. -/
theorem balanced_counted {α β : Type} (x : Reading α) (b : β) :
    Balanced handles (do let _ ← tally x; return b : Task σ β) := .bind (balanced_tally x) (fun _ => .pure b)

theorem opening_entry {self : Handle} (h : self ∈ handles) (name : Str) (directoryOnly : Bool) :
    Opening.Spec handles (openEntry K self name directoryOnly : Task σ _) := Descriptor.opening_entry h name directoryOnly

theorem openDirectory_opens {self : Handle} (h : self ∈ handles) (component : Str) (diagnostics : TelemetrySource) :
    Opens handles (openDirectory K self component diagnostics) := by
  unfold openDirectory
  split
  · refine .opening (opening_entry h component true) (fun e => ?_) (fun fd => rfl)
    cases e with
    | ENOENT => exact .none
    | _ => exact (balanced_tally _).opensNone
  · exact (balanced_tally _).opensNone

theorem firstDeviceDirectory_opens {root : Handle} (h : root ∈ handles) (device : DeviceTelemetry)
    (diagnostics : TelemetrySource) : Opens handles (firstDeviceDirectory K root device diagnostics) :=
  .firstSome (fun candidate => openDirectory_opens h candidate diagnostics) _

theorem readDescriptor_using (descriptor : Int) (maximumSize : Nat) (diagnostics : TelemetrySource) :
    Using descriptor (readDescriptor K descriptor maximumSize diagnostics : Task σ _) := by
  have hcounted : ∀ {α : Type} (x : Reading α),
      Using descriptor (do let _ ← tally x; return none : Task σ (Option ByteArray)) :=
    fun x => Balanced.using (balanced_counted x none)
  have hpure : ∀ content : Option ByteArray, Using descriptor (pure content : Task σ _) :=
    fun content => Balanced.using (.pure content)
  unfold readDescriptor
  refine (Using.call descriptor .fstat).bind (fun status => ?_)
  cases status with
  | error e => exact hcounted _
  | ok status =>
    dsimp only
    split
    · exact hcounted _
    · refine (Using.call descriptor _).bind (fun answer => ?_)
      obtain ⟨interrupted, content⟩ := answer
      cases content with
      | error e => exact hcounted _
      | ok content => exact hpure _

theorem readText_balanced {self : Handle} (h : self ∈ handles) (name : Str) (maximumSize : Nat)
    (diagnostics : TelemetrySource) : Balanced handles (readText K self name maximumSize diagnostics) := by
  unfold readText
  split
  · refine .opening (opening_entry h name false) (fun e => ?_) (fun fd => ?_)
    · cases e with
      | ENOENT => exact .pure none
      | _ => exact balanced_counted _ none
    · refine .closed (readDescriptor_using fd maximumSize diagnostics) (fun content => ?_)
      cases content with
      | none => exact .pure none
      | some content => exact balanced_tally _
  · exact balanced_counted _ none

theorem entries_balanced {self : Handle} (h : self ∈ handles) (maximumEntries : Nat) (diagnostics : TelemetrySource) :
    Balanced handles (entries K self maximumEntries diagnostics) := by
  unfold entries
  refine .bind (.call h .listdir) (fun names => ?_)
  cases names with
  | error e => exact balanced_counted _ []
  | ok names =>
    dsimp only
    split
    · exact balanced_counted _ _
    · exact .pure names

/-! ### State roots -/

theorem readAllocation_balanced {root : Handle} (h : root ∈ handles) (device : DeviceTelemetry) :
    Balanced handles (readAllocation K device root) := by
  unfold readAllocation
  refine .opens (firstDeviceDirectory_opens h device _) (.pure _) (fun directory => ?_)
  refine .withHandle ?_ (fun allocation => balanced_tally _)
  have hread : ∀ name maximumSize, Balanced (directory :: handles) (readText K directory name maximumSize .allocationState) :=
    fun name maximumSize => readText_balanced List.mem_cons_self name maximumSize _
  exact .bind (hread _ _) (fun _ => .bind (hread _ _) (fun _ => .bind (hread _ _) (fun _ => .bind (hread _ _) (fun _ =>
    .bind (hread _ _) (fun _ => .bind (hread _ _) (fun _ => .pure _))))))

theorem readStateInt_balanced {directory : Handle} (h : directory ∈ handles) (name : Str)
    (diagnostics : TelemetrySource) : Balanced handles (readStateInt K directory name diagnostics) := by
  unfold readStateInt
  refine .bind (readText_balanced h name _ diagnostics) (fun value => ?_)
  cases value with
  | none => exact .pure none
  | some value => exact balanced_tally _

theorem readJanitor_balanced {root : Handle} (h : root ∈ handles) (device : DeviceTelemetry) :
    Balanced handles (readJanitor K device root) := by
  unfold readJanitor
  refine .opens (firstDeviceDirectory_opens h device _) (.pure _) (fun directory => ?_)
  refine .withHandle ?_ (fun janitor => balanced_tally _)
  have hread : ∀ name maximumSize, Balanced (directory :: handles) (readText K directory name maximumSize .janitorState) :=
    fun name maximumSize => readText_balanced List.mem_cons_self name maximumSize _
  have hint : ∀ name, Balanced (directory :: handles) (readStateInt K directory name .janitorState) :=
    fun name => readStateInt_balanced List.mem_cons_self name _
  exact .bind (hread _ _) (fun _ => .bind (hread _ _) (fun _ => .bind (hread _ _) (fun _ => .bind (hread _ _) (fun _ =>
    .bind (hint _) (fun _ => .bind (hint _) (fun _ => .bind (hint _) (fun _ => .bind (hint _) (fun _ => .pure _))))))))

variable (self : Roots)

theorem readPod_balanced (device : DeviceTelemetry) {workloadRoot : Handle} (h : workloadRoot ∈ handles) (podUid : Str) :
    Balanced handles (readPod K self device workloadRoot podUid) := by
  unfold readPod
  dsimp only
  split
  · exact balanced_counted _ none
  · refine .opens (openDirectory_opens h podUid _) (.pure none) (fun pod => .withHandle ?_ (fun content => ?_))
    · refine .opens (firstDeviceDirectory_opens List.mem_cons_self device _) (.pure none) (fun directory => ?_)
      exact .withHandle_last (readText_balanced List.mem_cons_self _ _ _)
    · cases content with
      | none => exact .pure none
      | some content =>
        refine .bind (balanced_tally _) (fun workload => ?_)
        cases workload <;> exact .pure _

theorem readV2_balanced (device : DeviceTelemetry) {root : Handle} (h : root ∈ handles) :
    Balanced handles (readV2 K self device root) := by
  unfold readV2
  refine .opens (openDirectory_opens h _ _) (.pure []) (fun v2 => .withHandle_last ?_)
  refine .opens (openDirectory_opens List.mem_cons_self _ _) (.pure []) (fun workloadRoot => .withHandle_last ?_)
  exact .bind (entries_balanced List.mem_cons_self _ _)
    (fun podUids => .each (readPod_balanced self device List.mem_cons_self) podUids)

theorem readLegacy_balanced (device : DeviceTelemetry) {root : Handle} (h : root ∈ handles) :
    Balanced handles (readLegacy K self device root) := by
  unfold readLegacy
  refine .opens (firstDeviceDirectory_opens h device _) (.pure []) (fun directory => .withHandle_last ?_)
  refine .bind (entries_balanced List.mem_cons_self _ _) (fun filenames => .each (fun filename => ?_) filenames)
  unfold readLegacyFile
  split
  · exact .pure none
  · refine .bind (readText_balanced List.mem_cons_self _ _ _) (fun content => ?_)
    cases content with
    | none => exact .pure none
    | some content => exact balanced_tally _

theorem readWorkloads_balanced (device : DeviceTelemetry) {root : Handle} (h : root ∈ handles) :
    Balanced handles (readWorkloads K self device root) :=
  .bind (readV2_balanced self device h) (fun _ => .bind (readLegacy_balanced self device h) (fun _ => balanced_tally _))

/-- **The roots that are open stay open, and nothing else is left open.** -/
theorem populate_balanced (device : DeviceTelemetry) : Balanced self.handles (populate K self device) := by
  have hallocation : ∀ device, Balanced self.handles (populateAllocation K self device) := by
    intro device
    unfold populateAllocation
    cases hr : self.allocationRoot with
    | none => exact .pure device
    | some root => exact .bind (readAllocation_balanced (by simp [Roots.handles, hr]) device) (fun _ => .pure _)
  have hjanitor : ∀ device, Balanced self.handles (populateJanitor K self device) := by
    intro device
    unfold populateJanitor
    cases hr : self.janitorRoot with
    | none => exact .pure device
    | some root => exact .bind (readJanitor_balanced (by simp [Roots.handles, hr]) device) (fun _ => .pure _)
  have hworkloads : ∀ device, Balanced self.handles (populateWorkloads K self device) := by
    intro device
    unfold populateWorkloads
    cases hr : self.profilerRoot with
    | none => exact .pure device
    | some root => exact .bind (readWorkloads_balanced self _ (by simp [Roots.handles, hr])) (fun _ => .pure _)
  exact .bind (hallocation device) (fun device => .bind (hjanitor device) (fun device => hworkloads device))

/-! ### Sysfs -/

theorem readAttribute_balanced (path : Path) (diagnostics : TelemetrySource) :
    Balanced handles (readAttribute K path diagnostics) := by
  unfold readAttribute
  refine .bind (.query path .stat) (fun status => ?_)
  cases status with
  | error e => exact balanced_counted _ none
  | ok status =>
    dsimp only
    split
    · exact balanced_counted _ none
    · split
      · exact balanced_counted _ none
      · refine .opening (opening_path _ path false) (fun e => balanced_counted _ none) (fun fd => ?_)
        refine .closed (Using.call fd _) (fun answer => ?_)
        obtain ⟨interrupted, content⟩ := answer
        cases content with
        | error e => exact balanced_counted _ none
        | ok content => exact balanced_tally _

theorem script_balanced {α : Type} : ∀ script : Script α, Balanced handles (script.run K)
  | .done a => .pure a
  | .raised e => .throw e
  | .counted increments next => .bind (.record increments) (fun _ => script_balanced next)
  | .readText path diagnostics next => .bind (readAttribute_balanced path diagnostics) (fun text => script_balanced (next text))
  | .ask path question next => .bind (.query path question) (fun answer => script_balanced (next answer))

theorem scanRoot_balanced (config : CollectorConfig) : Balanced handles (scanRoot K config) := by
  unfold scanRoot
  refine .bind (.query config.sysfsRoot .stat) (fun status => ?_)
  cases status with
  | error e => exact .pure _
  | ok status =>
    dsimp only
    split
    · exact .pure _
    · refine .opening (opening_path _ config.sysfsRoot true) (fun e => .pure _) (fun fd => ?_)
      exact .closed_last (Using.call fd _)

theorem collectDevice_balanced (populateDevice : DeviceTelemetry → Script DeviceTelemetry) (config : CollectorConfig)
    (name : Str) : Balanced self.handles (collectDevice K populateDevice config self name) := by
  unfold collectDevice
  refine .bind (.query _ .stat) (fun status => ?_)
  cases status with
  | error e => exact .pure none
  | ok status =>
    dsimp only
    split
    · exact .pure none
    · exact .bind (script_balanced _) (fun device => .bind (populate_balanced self device) (fun device => .pure _))

/-! ### Roots -/

/-- Opening a root never raises. -/
theorem openRoot_owns (path : Path) (diagnostics : TelemetrySource) (p : Process σ Increment) :
    ∃ root q, (openRoot K path diagnostics : Task σ _) p = .ok root q ∧ Owns root.toList p q := by
  obtain ⟨answer, q, hq, hspec⟩ := opening_path (K := K) (ε := PyError) [] path true p
    (fun _ hh => absurd hh List.not_mem_nil)
  rw [openRoot, bind_ok hq]
  cases answer with
  | error e => exact ⟨none, _, rfl, owns_nil_iff.2 (Frame.trans hspec ⟨rfl, rfl, List.prefix_refl _⟩)⟩
  | ok fd => exact ⟨some ⟨q.handles.length⟩, _, rfl, Acquired.newHandle hspec rfl rfl rfl⟩

theorem openConfigured_owns (path : Option Path) (source : TelemetrySource) (p : Process σ Increment) :
    ∃ root q, (openConfigured K path source : Task σ _) p = .ok root q ∧ Owns root.toList p q := by
  cases path with
  | none => exact ⟨none, p, rfl, owns_nil_iff.2 (Frame.refl p)⟩
  | some path => exact openRoot_owns path source p

theorem openRoots_owns (config : CollectorConfig) (now : Int) (p : Process σ Increment) :
    ∃ state q, (openRoots K config now : Task σ Roots) p = .ok state q ∧ Owns state.handles p q := by
  obtain ⟨allocation, q₁, h₁, ho₁⟩ := openConfigured_owns (K := K) config.allocationStateRoot .allocationState p
  obtain ⟨janitor, q₂, h₂, ho₂⟩ := openConfigured_owns (K := K) config.janitorStateRoot .janitorState q₁
  obtain ⟨profiler, q₃, h₃, ho₃⟩ :=
    openConfigured_owns (K := K) config.metaliumProfilerStateRoot .metaliumProfilerState q₂
  refine ⟨⟨allocation, janitor, profiler, { staleAfterSeconds := config.metaliumProfilerStaleAfterSeconds, nowSeconds := now }⟩,
    q₃, ?_, (ho₁.append ho₂).append ho₃⟩
  rw [openRoots, bind_ok h₁, bind_ok h₂, bind_ok h₃]
  rfl

/-- **A collection closes every descriptor that it opens, once, and uses none that is closed**, whatever the kernel
answers and whether it returns or raises. -/
theorem collect_descriptors (K : Kernel σ) (populateDevice : DeviceTelemetry → Script DeviceTelemetry)
    (config : CollectorConfig) (now : Int) (p : Process σ Increment) :
    (after (collect K populateDevice config now) p).table = p.table ∧
      (after (collect K populateDevice config now) p).misused = p.misused := by
  obtain ⟨state, q, hq, howns⟩ := openRoots_owns (K := K) config now p
  have hf : Frame p (after (collect K populateDevice config now) p) := by
    unfold collect
    unfold after
    rw [bind_ok hq]
    show Frame p (after (tryFinally _ _) q)
    rw [after_tryFinally]
    refine Owns.closeAll (howns.frame ?_)
    have hbody : Balanced state.handles (do
        match ← scanRoot K config with
        | .error e =>
          tally (recordIssue .sysfsRoot (SysfsCollector.rootIssue e))
          return (([] : List DeviceTelemetry), false)
        | .ok names =>
          let devices ← each (collectDevice K populateDevice config state) names
          return (devices.insertionSort (fun a b => a.id ≤ b.id), true) : Task σ (List DeviceTelemetry × Bool)) := by
      refine .bind (scanRoot_balanced config) (fun scanned => ?_)
      cases scanned with
      | error e => exact balanced_counted _ _
      | ok names => exact .bind (.each (collectDevice_balanced state populateDevice config) names) (fun _ => .pure _)
    exact hbody q (fun handle hh => howns.isOpen hh)
  exact ⟨hf.table, hf.misused⟩

end Balance

end Ownership
end Tt
