import TtMetricsExporter.Duplicates
/-!
# Reordering — what a collection reads of a tree enumerated in another order

`os.scandir`, `iterdir` and `os.listdir` promise no order.  Over two orders of one tree every single file reads alike, and
what a directory yields is gathered in another order: both collections raise, or both return with the same increments.
Each list is then sorted, so it is the same wherever its key tells its elements apart.
-/
namespace Tt

open Py (Str)
open Posix (Node Path Errno Reordered)
open SysfsReader SysfsCollector StateIngestor

/-! ## Single files -/

section Files
variable {fs₁ fs₂ : Node} (h : Reordered fs₁ fs₂)
include h

theorem readText_reordered : readText fs₁ = readText fs₂ := by
  funext path diagnostics
  have hs := h.stat_related path
  unfold readText
  generalize Posix.stat fs₁ path = x at hs ⊢
  generalize Posix.stat fs₂ path = y at hs ⊢
  cases hs with
  | error e => rfl
  | ok hn =>
    cases hn with
    | regular opens hf => rw [hf]
    | _ => rfl

theorem attributeText_reordered (path : Path) : attributeText fs₁ path = attributeText fs₂ path := by
  have hv := value_readText fs₁ path .sysfsRoot
  rw [readText_reordered h, value_readText] at hv
  exact (Option.some.inj hv).symm

theorem intText_reordered (path : Path) : intText fs₁ path = intText fs₂ path := by
  rw [intText, intText, attributeText_reordered h]

theorem pathIs_reordered {kind : Node → Bool} (hk : ∀ n₁ n₂, Posix.Similar List.Perm Eq n₁ n₂ → kind n₁ = kind n₂)
    (path : Path) : pathIs fs₁ kind path = pathIs fs₂ kind path := by
  have hs := h.stat_related path
  unfold pathIs
  generalize Posix.stat fs₁ path = x at hs ⊢
  generalize Posix.stat fs₂ path = y at hs ⊢
  cases hs with
  | error e => rfl
  | ok hn => exact congrArg Except.ok (hk _ _ hn)

theorem isRegular_reordered (path : Path) : pathIs fs₁ isRegular path = pathIs fs₂ isRegular path :=
  pathIs_reordered h (fun _ _ hn => by cases hn <;> rfl) path

theorem isDirectory_reordered (path : Path) : pathIs fs₁ Node.isDirectory path = pathIs fs₂ Node.isDirectory path :=
  pathIs_reordered h (fun _ _ hn => by cases hn <;> rfl) path

theorem readFirstText_reordered : readFirstText fs₁ = readFirstText fs₂ := by
  unfold readFirstText
  rw [readText_reordered h]

theorem parse_reordered : SysfsReader.parse fs₁ = SysfsReader.parse fs₂ := by
  unfold SysfsReader.parse
  rw [readText_reordered h]

theorem readInt_reordered : readInt fs₁ = readInt fs₂ := by
  unfold readInt
  rw [parse_reordered h]

theorem readUint_reordered : readUint fs₁ = readUint fs₂ := by
  unfold readUint
  rw [parse_reordered h]

theorem readFirstInt_reordered : readFirstInt fs₁ = readFirstInt fs₂ := by
  unfold readFirstInt
  rw [readInt_reordered h]

theorem readFirstByte_reordered : readFirstByte fs₁ = readFirstByte fs₂ := by
  unfold readFirstByte readByte
  rw [readText_reordered h]

theorem populateMemory_reordered :
    DeviceResourceReader.populateMemory fs₁ = DeviceResourceReader.populateMemory fs₂ := by
  unfold DeviceResourceReader.populateMemory DeviceResourceReader.readMemoryUsage DeviceResourceReader.orFirstByte
  rw [readFirstText_reordered h, readFirstInt_reordered h, readFirstByte_reordered h]

theorem populateTensix_reordered :
    DeviceResourceReader.populateTensix fs₁ = DeviceResourceReader.populateTensix fs₂ := by
  unfold DeviceResourceReader.populateTensix DeviceResourceReader.readMesh
  rw [readFirstText_reordered h, readFirstInt_reordered h]

end Files

section Attributes
variable {m : Machine} {fs : Node} (h : Reordered m.fs fs)
include h

theorem readUeventField_reordered : readUeventField { m with fs := fs } = readUeventField m := by
  unfold readUeventField
  rw [readText_reordered h]

theorem readSymlinkBasename_reordered : readSymlinkBasename { m with fs := fs } = readSymlinkBasename m := by
  funext path
  unfold readSymlinkBasename
  rw [h.readlink_eq path]

theorem readCharacterDevice_reordered : readCharacterDevice { m with fs := fs } = readCharacterDevice m := by
  unfold readCharacterDevice
  rw [readText_reordered h, readUeventField_reordered h]

theorem readIntText_reordered : readIntText { m with fs := fs } = readIntText m := by
  unfold readIntText
  rw [readText_reordered h]

theorem readPciInfo_reordered : readPciInfo { m with fs := fs } = readPciInfo m := by
  unfold readPciInfo readBdf readDriver readIommuGroup
  rw [readText_reordered h, readInt_reordered h, readIntText_reordered h, readUeventField_reordered h,
    readSymlinkBasename_reordered h]

theorem readFirmware_reordered : readFirmware { m with fs := fs } = readFirmware m := by
  unfold readFirmware
  rw [readText_reordered h, readInt_reordered h]

theorem readPowerInfo_reordered : readPowerInfo { m with fs := fs } = readPowerInfo m := by
  unfold readPowerInfo
  rw [readText_reordered h, readIntText_reordered h]

theorem readHealth_reordered : readHealth { m with fs := fs } = readHealth m := by
  unfold readHealth readFirstBoolish readBoolish
  rw [readFirstText_reordered h, readFirstInt_reordered h, parse_reordered h]

theorem readHwmonSensor_reordered : readHwmonSensor { m with fs := fs } = readHwmonSensor m := by
  funext directory name diagnostics
  unfold readHwmonSensor
  rw [readText_reordered h, readInt_reordered h, isRegular_reordered h]

theorem readPcieCounter_reordered : readPcieCounter { m with fs := fs } = readPcieCounter m := by
  funext base name diagnostics
  unfold readPcieCounter
  rw [readUint_reordered h, isRegular_reordered h]

theorem readInterconnectLink_reordered : readInterconnectLink { m with fs := fs } = readInterconnectLink m := by
  unfold readInterconnectLink
  rw [readFirstText_reordered h, readFirstInt_reordered h]

end Attributes

/-! ## Listings -/

/-- The names that pass a test, where the test fails on none. -/
theorem mapM_test (test : Str → Except Errno Bool) : ∀ (names : List Str),
    (names.mapM (fun name => match test name with
      | .error _ => none
      | .ok isDir => some (if isDir then [name] else []))).map List.flatten =
    if names.all (fun name => (test name).isOk) then some (names.filter (fun name => test name = .ok true)) else none
  | [] => rfl
  | name :: rest => by
    have ih := mapM_test test rest
    rw [List.mapM_cons, List.all_cons, List.filter_cons]
    cases ht : test name with
    | error e => rfl
    | ok isDir =>
      cases hr : rest.mapM (fun name => match test name with
          | .error _ => none
          | .ok isDir => some (if isDir then [name] else [])) with
      | none =>
        rw [hr] at ih
        cases hall : rest.all (fun name => (test name).isOk) with
        | true => rw [hall] at ih; cases ih
        | false => rfl
      | some found =>
        rw [hr] at ih
        cases hall : rest.all (fun name => (test name).isOk) with
        | true =>
          rw [hall, if_pos rfl, Option.map_some, Option.some.injEq] at ih
          cases isDir with
          | true => exact congrArg (fun l => some (name :: l)) ih
          | false => exact congrArg some ih
        | false => rw [hall] at ih; cases ih

/-- The subdirectories in the order of the listing. -/
theorem subdirectories_eq {fs : Node} {base : Path} {names : List Str} (h : Posix.listPath fs base = .ok names) :
    subdirectories fs base = if names.all (fun name => (pathIs fs Node.isDirectory (base ++ [name])).isOk) then
      some (names.filter (fun name => pathIs fs Node.isDirectory (base ++ [name]) = .ok true)) else none := by
  unfold subdirectories
  rw [h]
  exact mapM_test (fun name => pathIs fs Node.isDirectory (base ++ [name])) names

/-- **The subdirectories of one order in another one**, whatever relates the two listings and passes to what is
filtered. -/
theorem subdirectories_related {L : List Str → List Str → Prop} {fs₁ fs₂ : Node} (h : Posix.Similar L Eq fs₁ fs₂)
    (hperm : Reordered fs₁ fs₂) (hf : ∀ l₁ l₂ (p : Str → Bool), L l₁ l₂ → L (l₁.filter p) (l₂.filter p)) (base : Path) :
    Option.Rel L (subdirectories fs₁ base) (subdirectories fs₂ base) := by
  have hl := h.listPath_related base
  have hp := hperm.listPath_related base
  cases h₁ : Posix.listPath fs₁ base with
  | error e =>
    rw [h₁] at hl
    cases h₂ : Posix.listPath fs₂ base with
    | ok names => rw [h₂] at hl; cases hl
    | error e' =>
      unfold subdirectories
      rw [h₁, h₂]
      exact .none
  | ok names =>
    rw [h₁] at hl hp
    cases h₂ : Posix.listPath fs₂ base with
    | error e => rw [h₂] at hl; cases hl
    | ok names' =>
      rw [h₂] at hl hp
      cases hl with
      | ok hl =>
      cases hp with
      | ok hp =>
      have hall : names.all (fun name => (pathIs fs₁ Node.isDirectory (base ++ [name])).isOk) =
          names'.all (fun name => (pathIs fs₁ Node.isDirectory (base ++ [name])).isOk) := hp.all_eq
      rw [subdirectories_eq h₁, subdirectories_eq h₂]
      simp only [← isDirectory_reordered hperm]
      rw [hall]
      split
      · exact .some (hf _ _ _ hl)
      · exact .none

theorem listed_perm {names names' : Option (List Str)} (h : Option.Rel List.Perm names names') :
    (names.getD []).Perm (names'.getD []) := by
  cases h with
  | none => exact List.Perm.refl _
  | some h => exact h

section Sensors
variable (m : Machine)

/-- The entries of one hwmon directory of a device. -/
def hwmonBases (root : Path) : List Path := [root ++ ["hwmon".toList], root ++ ["device".toList, "hwmon".toList]]

/-- The entries of one directory, with it. -/
def entriesIn (directory : Path) : List (Path × Str) :=
  match Posix.listPath m.fs directory with
  | .error _ => []
  | .ok names => names.map (fun name => (directory, name))

/-- The entries below one hwmon directory. -/
def baseEntries (base : Path) : List (Path × Str) :=
  ((subdirectories m.fs base).getD []).flatMap (fun directory => entriesIn m (base ++ [directory]))

theorem hwmonEntries_eq (root : Path) : hwmonEntries m root = (hwmonBases root).flatMap (baseEntries m) := rfl

/-- The sensors below one hwmon directory. -/
def sensorsBelow (base : Path) : List HwmonSensor := (baseEntries m base).filterMap (sensorAt m)

theorem filterMap_hwmonEntries (root : Path) :
    (hwmonEntries m root).filterMap (sensorAt m) = ((hwmonBases root).map (sensorsBelow m)).flatten := by
  rw [hwmonEntries_eq, List.filterMap_flatMap, List.flatMap_def]
  rfl

/-- **Below each hwmon directory of a device the name of a sensor tells which one it is.** -/
def SensorsSettled (root : Path) : Prop :=
  ∀ base ∈ hwmonBases root, ∀ s ∈ sensorsBelow m base, ∀ s' ∈ sensorsBelow m base, s.name = s'.name → s = s'

end Sensors

section Listings
variable {m : Machine} {fs : Node} (h : Reordered m.fs fs)
include h

theorem entriesIn_perm (directory : Path) : (entriesIn m directory).Perm (entriesIn { m with fs := fs } directory) := by
  have hl := h.listPath_related directory
  unfold entriesIn
  generalize Posix.listPath m.fs directory = x at hl ⊢
  dsimp only
  generalize Posix.listPath fs directory = y at hl ⊢
  cases hl with
  | error e => exact List.Perm.refl _
  | ok hl => exact hl.map _

theorem baseEntries_perm (base : Path) : (baseEntries m base).Perm (baseEntries { m with fs := fs } base) := by
  have hs := listed_perm (subdirectories_related h h (fun _ _ p hp => hp.filter p) base)
  exact (hs.flatMap_right _).trans (List.Perm.flatMap_left _ (fun directory _ => entriesIn_perm h _))

theorem sensorAt_reordered : sensorAt { m with fs := fs } = sensorAt m := by
  funext e
  have hfile : IsSensorFile { m with fs := fs } e.1 e.2 ↔ IsSensorFile m e.1 e.2 := by
    unfold IsSensorFile
    rw [isRegular_reordered h]
  unfold sensorAt sensorLabel
  rw [← intText_reordered h, ← attributeText_reordered h]
  by_cases hs : IsSensorFile m e.1 e.2
  · rw [if_pos (hfile.2 hs), if_pos hs]
  · rw [if_neg (fun hs' => hs (hfile.1 hs')), if_neg hs]

theorem sensorsBelow_perm (base : Path) : (sensorsBelow m base).Perm (sensorsBelow { m with fs := fs } base) := by
  unfold sensorsBelow
  rw [sensorAt_reordered h]
  exact (baseEntries_perm h base).filterMap _

/-- **The sensors of a device** are the same where their order is settled. -/
theorem readHwmonSensors_shuffled (root : Path) (diagnostics : TelemetrySource) :
    Tally.Shuffled (fun sensors sensors' => SensorsSettled m root → sensors = sensors')
      (readHwmonSensors m root diagnostics) (readHwmonSensors { m with fs := fs } root diagnostics) := by
  have hp : (hwmonEntries m root).Perm (hwmonEntries { m with fs := fs } root) := by
    rw [hwmonEntries_eq, hwmonEntries_eq]
    exact List.Perm.flatMap_left _ (fun base _ => baseEntries_perm h base)
  unfold readHwmonSensors
  rw [readHwmonSensor_reordered h]
  refine ((Tally.Shuffled.each_perm _ hp).ensures
    (Tally.Ensures.each (fun e => readHwmonSensor_ensures m e diagnostics) _)
    (Tally.Ensures.each (fun e => readHwmonSensor_ensures m e diagnostics) _)).bind ?_
  rintro sensors sensors' ⟨-, rfl, rfl⟩
  refine .pure (fun hs => ?_)
  have hrank : Ranked.rank (·.name) ((hwmonEntries m root).filterMap (sensorAt m)) =
      Ranked.rank (·.name) ((hwmonEntries { m with fs := fs } root).filterMap (sensorAt { m with fs := fs })) := by
    rw [filterMap_hwmonEntries, filterMap_hwmonEntries]
    refine Ranked.rank_flatten_congr _ ?_
    rw [List.forall₂_map_left_iff, List.forall₂_map_right_iff, List.forall₂_same]
    exact fun base hbase => ⟨sensorsBelow_perm h base, hs base hbase⟩
  rw [sensorAt_reordered h] at hrank
  exact hrank

/-- **The counters of a device** come from one directory, so their names tell them apart. -/
theorem readPcieCounters_shuffled (root : Path) (diagnostics : TelemetrySource) :
    Tally.Shuffled Eq (readPcieCounters m root diagnostics)
      (readPcieCounters { m with fs := fs } root diagnostics) := by
  unfold readPcieCounters
  dsimp only
  rw [readPcieCounter_reordered h]
  have hl := h.listPath_related (root ++ ["pcie_perf_counters".toList])
  generalize Posix.listPath m.fs (root ++ ["pcie_perf_counters".toList]) = x at hl ⊢
  generalize Posix.listPath fs (root ++ ["pcie_perf_counters".toList]) = y at hl ⊢
  cases hl with
  | error e => exact .of_eq rfl
  | @ok names names' hl =>
    refine ((Tally.Shuffled.each_perm _ hl).ensures (Tally.value_each _ _) (fun _ _ => trivial)).bind ?_
    rintro counters counters' ⟨hp, hc, -⟩
    refine .pure ?_
    have hinj : ∀ c ∈ counters, ∀ c' ∈ counters, c.name = c'.name → c = c' := by
      intro c hm c' hm' he
      rw [hc, List.mem_filterMap] at hm hm'
      obtain ⟨name, -, hv⟩ := hm
      obtain ⟨name', -, hv'⟩ := hm'
      have hn := readPcieCounter_ensures m _ name diagnostics _ (Option.join_eq_some_iff.1 hv) c rfl
      have hn' := readPcieCounter_ensures m _ name' diagnostics _ (Option.join_eq_some_iff.1 hv') c' rfl
      obtain rfl : name = name' := by rw [← hn, ← hn', he]
      exact Option.some.inj (hv.symm.trans hv')
    have hrank := Ranked.rank_flatten_congr (·.name) (.cons ⟨hp, hinj⟩ .nil)
    rwa [List.flatten_singleton, List.flatten_singleton] at hrank

/-- The entries of one link directory of a device. -/
def linksBelow (m : Machine) (root : Path) (base : Str × Str) : List (Path × Str × Str) :=
  ((subdirectories m.fs (root ++ [base.1])).getD []).map (fun name => (root ++ [base.1], name, base.2))

theorem linkAt_reordered : linkAt { m with fs := fs } = linkAt m := by
  funext e
  unfold linkAt firstText
  simp only [← attributeText_reordered h, ← intText_reordered h]

theorem linksBelow_perm (root : Path) (base : Str × Str) :
    (linksBelow m root base).Perm (linksBelow { m with fs := fs } root base) :=
  (listed_perm (subdirectories_related h h (fun _ _ p hp => hp.filter p) _)).map _

/-- **The links of a device** come from three directories, which are always read in one order. -/
theorem readInterconnectLinks_shuffled (root : Path) (diagnostics : TelemetrySource) :
    Tally.Shuffled Eq (readInterconnectLinks m root diagnostics)
      (readInterconnectLinks { m with fs := fs } root diagnostics) := by
  have hp : (linkEntries m root).Perm (linkEntries { m with fs := fs } root) :=
    List.Perm.flatMap_left _ (fun base _ => linksBelow_perm h root base)
  have hlink : ∀ e, (some <$> readInterconnectLink m e.1 e.2.1 e.2.2 diagnostics).Ensures (· = some (linkAt m e)) := by
    intro e
    rw [map_eq_pure_bind]
    refine .bind (readInterconnectLink_ensures m e diagnostics) ?_
    rintro _ rfl
    exact .pure rfl
  unfold readInterconnectLinks
  rw [readInterconnectLink_reordered h]
  refine ((Tally.Shuffled.each_perm _ hp).ensures (Tally.Ensures.each hlink _) (Tally.Ensures.each hlink _)).bind ?_
  rintro links links' ⟨-, rfl, rfl⟩
  refine .pure ?_
  have hparts : ∀ m : Machine, (linkEntries m root).filterMap (fun e => some (linkAt m e)) =
      (linkBases.map (fun base => (linksBelow m root base).map (linkAt m))).flatten := by
    intro m
    rw [List.filterMap_eq_map', ← List.flatMap_def, ← List.map_flatMap]
    rfl
  have hrank : Ranked.rank (·.name) ((linkEntries m root).filterMap (fun e => some (linkAt m e))) =
      Ranked.rank (·.name)
        ((linkEntries { m with fs := fs } root).filterMap (fun e => some (linkAt { m with fs := fs } e))) := by
    rw [hparts, hparts]
    refine Ranked.rank_flatten_congr _ ?_
    rw [List.forall₂_map_left_iff, List.forall₂_map_right_iff, List.forall₂_same]
    intro base _
    refine ⟨?_, fun l hl l' hl' hn => ?_⟩
    · rw [linkAt_reordered h]
      exact (linksBelow_perm h root base).map _
    · -- below one base the name is the whole of an entry
      obtain ⟨e, he, rfl⟩ := List.mem_map.1 hl
      obtain ⟨e', he', rfl⟩ := List.mem_map.1 hl'
      obtain ⟨name, -, rfl⟩ := List.mem_map.1 he
      obtain ⟨name', -, rfl⟩ := List.mem_map.1 he'
      obtain rfl : name = name' := hn
      rfl
  rw [linkAt_reordered h] at hrank
  exact hrank

end Listings

/-! ## One device of the sysfs root -/

/-- Two readings of one device, which are the same where something is settled. -/
structure SameDevice (settled : Prop) (d d' : DeviceTelemetry) : Prop where
  name : d.id = d'.id
  path : d.sysfsPath = d'.sysfsPath
  keys : deviceKeys d = deviceKeys d'
  same : settled → d = d'

theorem populateMemory_shuffled (fs : Node) {settled : Prop} {d d' : DeviceTelemetry} (hd : SameDevice settled d d')
    (diagnostics : TelemetrySource) : Tally.Shuffled (SameDevice settled)
      (DeviceResourceReader.populateMemory fs d diagnostics) (DeviceResourceReader.populateMemory fs d' diagnostics) := by
  unfold DeviceResourceReader.populateMemory
  dsimp only
  rw [hd.path]
  iterate 11 refine .after (.of_eq rfl) (fun _ => ?_)
  exact .pure ⟨hd.name, rfl, hd.keys, fun hs => by obtain rfl := hd.same hs; rfl⟩

theorem populateTensix_shuffled (fs : Node) {settled : Prop} {d d' : DeviceTelemetry} (hd : SameDevice settled d d')
    (diagnostics : TelemetrySource) : Tally.Shuffled (SameDevice settled)
      (DeviceResourceReader.populateTensix fs d diagnostics) (DeviceResourceReader.populateTensix fs d' diagnostics) := by
  unfold DeviceResourceReader.populateTensix
  dsimp only
  rw [hd.path]
  iterate 6 refine .after (.of_eq rfl) (fun _ => ?_)
  exact .pure ⟨hd.name, rfl, hd.keys, fun hs => by obtain rfl := hd.same hs; rfl⟩

/-- **A device directory reads alike**, up to its sensors where these are not settled. -/
theorem populateDevice_shuffled {m : Machine} {fs : Node} (h : Reordered m.fs fs) (config : CollectorConfig)
    (device : DeviceTelemetry) (diagnostics : TelemetrySource) :
    Tally.Shuffled (SameDevice (config.collectHwmon = true → SensorsSettled m device.sysfsPath))
      (populateDevice m config device diagnostics) (populateDevice { m with fs := fs } config device diagnostics) := by
  unfold populateDevice
  dsimp only
  rw [readFirstText_reordered h, readCharacterDevice_reordered h, readPciInfo_reordered h, readFirmware_reordered h,
    readPowerInfo_reordered h, readText_reordered h, populateMemory_reordered h, populateTensix_reordered h,
    readHealth_reordered h]
  iterate 6 refine .after (.of_eq rfl) (fun _ => ?_)
  have hsensors : Tally.Shuffled (fun sensors sensors' =>
        (config.collectHwmon = true → SensorsSettled m device.sysfsPath) → sensors = sensors')
      (if config.collectHwmon then readHwmonSensors m device.sysfsPath diagnostics else pure device.hwmonSensors)
      (if config.collectHwmon then readHwmonSensors { m with fs := fs } device.sysfsPath diagnostics
        else pure device.hwmonSensors) := by
    cases config.collectHwmon with
    | false => exact .pure (fun _ => rfl)
    | true => exact (readHwmonSensors_shuffled h _ _).mono (fun _ _ heq hs => heq (hs rfl))
  have hcounters : Tally.Shuffled Eq
      (if config.collectPcieCounters then readPcieCounters m device.sysfsPath diagnostics else pure device.pcieCounters)
      (if config.collectPcieCounters then readPcieCounters { m with fs := fs } device.sysfsPath diagnostics
        else pure device.pcieCounters) := by
    cases config.collectPcieCounters with
    | false => exact .pure rfl
    | true => exact readPcieCounters_shuffled h _ _
  refine hsensors.bind (fun sensors sensors' hs => ?_)
  refine .after (.of_eq rfl) (fun power => .after (.of_eq rfl) (fun resource => .after hcounters (fun counters => ?_)))
  refine Tally.Shuffled.bind (R := SameDevice (config.collectHwmon = true → SensorsSettled m device.sysfsPath))
    (populateMemory_shuffled fs ?_ diagnostics) (fun d d' hd => ?_)
  · exact ⟨rfl, rfl, rfl, fun hset => by rw [hs hset]; rfl⟩
  refine (populateTensix_shuffled fs hd diagnostics).bind (fun d d' hd => .after (.of_eq rfl) (fun health => ?_))
  refine .after (readInterconnectLinks_shuffled h _ diagnostics) (fun links => .pure ?_)
  exact ⟨hd.name, hd.path, hd.keys, fun hset => by rw [hd.same hset]⟩

end Tt
