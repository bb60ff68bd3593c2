import TtMetricsExporter.Accepted
import TtMetricsExporter.Readable
import TtMetricsExporter.Series
import TtMetricsExporter.Uint64
/-!
# Duplicates — the trees of which a collection renders a series twice

Sensors come from every hwmon directory of a device and links from three directories, so a name alone does not tell them
apart.  Everything else that a device lists comes from one directory, one file or one deduplication (`Sound`).
-/
namespace Tt

open Py (Str)
open Posix (Node Path)
open SysfsReader SysfsCollector StateIngestor

/-! ## What the lists of a device hold -/

/-- The integer of an attribute, where it yields one. -/
def intText (fs : Node) (path : Path) : Option Int :=
  (attributeText fs path).bind (fun t => (parseInt64 t).toOption.join)

theorem readInt_ensures (fs : Node) (path : Path) (diagnostics : TelemetrySource) :
    (readInt fs path diagnostics).Ensures (· = intText fs path) := by
  unfold readInt SysfsReader.parse intText
  refine .bind (.of_value (value_readText fs path diagnostics) rfl) ?_
  rintro _ rfl
  cases attributeText fs path with
  | none => exact .pure rfl
  | some t =>
    refine .bind (Tally.Ensures.lift (parseInt64 t)) (fun parsed hp => ?_)
    rw [Option.bind_some, hp]
    cases parsed with
    | none => exact .next (fun _ => .pure rfl)
    | some n => exact .pure rfl

section Lists
variable (m : Machine)

instance (directory : Path) (name : Str) : Decidable (IsSensorFile m directory name) :=
  inferInstanceAs (Decidable (_ ∧ _))

/-- The label file beside a sensor's value file. -/
def sensorLabel (directory : Path) (name : Str) : Option Str :=
  attributeText m.fs (directory ++ [name.take (name.length - 6) ++ "_label".toList])

/-- The sensor of an entry of an hwmon directory, where it is one. -/
def sensorAt (e : Path × Str) : Option HwmonSensor :=
  if IsSensorFile m e.1 e.2 then
    (intText m.fs (e.1 ++ [e.2])).map (fun value =>
      { name := e.2, label := sensorLabel m e.1 e.2, unit := hwmonUnit (e.2.take (e.2.length - 6)), value := value })
  else none

theorem readHwmonSensor_ensures (e : Path × Str) (diagnostics : TelemetrySource) :
    (readHwmonSensor m e.1 e.2 diagnostics).Ensures (· = sensorAt m e) := by
  unfold readHwmonSensor
  by_cases h : IsSensorFile m e.1 e.2
  · rw [show sensorAt m e = _ from if_pos h]
    unfold IsSensorFile at h
    rw [if_pos h]
    refine .bind (readInt_ensures m.fs _ diagnostics) ?_
    rintro _ rfl
    cases intText m.fs (e.1 ++ [e.2]) with
    | none => exact .pure rfl
    | some value =>
      refine .bind (.of_value (value_readText m.fs _ diagnostics) rfl) ?_
      rintro _ rfl
      exact .pure rfl
  · rw [show sensorAt m e = none from if_neg h]
    unfold IsSensorFile at h
    rw [if_neg h]
    exact .pure rfl

theorem readHwmonSensors_ensures (root : Path) (diagnostics : TelemetrySource) :
    (readHwmonSensors m root diagnostics).Ensures
      (· = Ranked.rank (·.name) ((hwmonEntries m root).filterMap (sensorAt m))) := by
  unfold readHwmonSensors
  refine .bind (Tally.Ensures.each (fun e => readHwmonSensor_ensures m e diagnostics) _) ?_
  rintro _ rfl
  exact .pure rfl

/-- The first text of some attributes. -/
def firstText (root : Path) (names : List Str) : Option Str :=
  names.findSome? (fun name => attributeText m.fs (root ++ [name]))

/-- The link of a link directory's entry. -/
def linkAt (e : Path × Str × Str) : InterconnectLink where
  name := e.2.1
  type := some ((firstText m (e.1 ++ [e.2.1]) linkTypeFiles).getD e.2.2)
  state := firstText m (e.1 ++ [e.2.1]) linkStateFiles
  peer := firstText m (e.1 ++ [e.2.1]) linkPeerFiles
  speedGbps := linkSpeedFiles.findSome? (fun name => intText m.fs (e.1 ++ [e.2.1] ++ [name]))
  ringId := firstText m (e.1 ++ [e.2.1]) linkRingFiles

theorem readInterconnectLink_ensures (e : Path × Str × Str) (diagnostics : TelemetrySource) :
    (readInterconnectLink m e.1 e.2.1 e.2.2 diagnostics).Ensures (· = linkAt m e) := by
  unfold readInterconnectLink
  refine .bind (.of_value (value_readFirstText m.fs _ _ diagnostics) rfl) ?_
  rintro _ rfl
  refine .bind (.of_value (value_readFirstText m.fs _ _ diagnostics) rfl) ?_
  rintro _ rfl
  refine .bind (.of_value (value_readFirstText m.fs _ _ diagnostics) rfl) ?_
  rintro _ rfl
  refine .bind (Tally.Ensures.first (fun name => readInt_ensures m.fs _ diagnostics) _) ?_
  rintro _ rfl
  refine .bind (.of_value (value_readFirstText m.fs _ _ diagnostics) rfl) ?_
  rintro _ rfl
  exact .pure rfl

theorem readInterconnectLinks_ensures (root : Path) (diagnostics : TelemetrySource) :
    (readInterconnectLinks m root diagnostics).Ensures (fun links => links.Perm ((linkEntries m root).map (linkAt m))) := by
  unfold readInterconnectLinks
  refine .bind (P := fun links => links = (linkEntries m root).map (linkAt m)) ?_ ?_
  · rw [← List.filterMap_eq_map]
    refine Tally.Ensures.each (fun e => ?_) _
    rw [map_eq_pure_bind]
    refine .bind (readInterconnectLink_ensures m e diagnostics) ?_
    rintro _ rfl
    exact .pure rfl
  · rintro _ rfl
    exact .pure (List.perm_insertionSort _ _)

end Lists
/-! ## What is distinct in every collection -/

theorem nodup_pciResources (content : Str) : ((parsePciResources content).map (·.index)).Nodup :=
  (indices_increase content).imp Nat.ne_of_lt

theorem readPcieCounter_ensures (m : Machine) (base : Path) (name : Str) (diagnostics : TelemetrySource) :
    (readPcieCounter m base name diagnostics).Ensures (fun c => ∀ x ∈ c, x.name = name) := by
  unfold readPcieCounter
  split
  · refine .next (fun value => ?_)
    cases value with
    | none => exact ensures_none
    | some value => exact ensures_some rfl
  · exact ensures_none

theorem nodup_shown {names : List Str} (h : Posix.DirectoryNames names) : (names.map (fun n => shown (some n))).Nodup := by
  rw [List.map_congr_left (fun n hn => shown_of_ne (h.2 n hn).1), List.map_id']
  exact h.1

theorem readPcieCounters_ensures {m : Machine} (hfs : m.fs.WellFormed) (root : Path) (diagnostics : TelemetrySource) :
    (readPcieCounters m root diagnostics).Ensures (fun counters => (counters.map (fun c => shown (some c.name))).Nodup) := by
  unfold readPcieCounters
  simp only
  cases hl : Posix.listPath m.fs (root ++ ["pcie_perf_counters".toList]) with
  | error e => exact .pure List.nodup_nil
  | ok names =>
    have hnames := Posix.names_listPath hfs hl
    refine .bind (P := fun counters => (counters.map (·.name)).Sublist names) ?_ ?_
    · intro counters h
      rw [Tally.value_each _ _ _ h]
      refine map_filterMap_sublist (fun name c hc => ?_) names
      exact readPcieCounter_ensures m _ name diagnostics _ (Option.join_eq_some_iff.1 hc) c rfl
    · intro counters hs
      refine .pure ?_
      rw [((List.perm_insertionSort _ counters).map _).nodup_iff]
      have hsub := (hs.map (fun n => shown (some n)))
      rw [List.map_map] at hsub
      exact (nodup_shown hnames).sublist hsub

/-- **Every identity that is exported has a name, and its own.** -/
theorem readWorkloads_ensures (fs : Node) (self : StateIngestor) (device : DeviceTelemetry) (root : SecureDirectory) :
    (self.readWorkloads fs device root).Ensures (fun out => (out.map (fun w => shown (some w.workloadId))).Nodup) := by
  intro out h
  have hm := merged_exported (v2Records fs self device root) (legacyRecords fs self device root)
  rw [← value_readWorkloads h] at hm
  have ha := readWorkloads_accepted fs self device root out h
  have he : out.map (fun w => shown (some w.workloadId)) = out.map (·.workloadId) :=
    List.map_congr_left (fun w hw => shown_of_ne (ha w hw).workloadId.1)
  exact he ▸ hm.distinct

/-! ## One device -/

/-- What a collection reads of the entry `id` of the sysfs root: its name, its sensors, its links, and distinct names in
everything else. -/
structure DeviceOf (m : Machine) (config : CollectorConfig) (id : Str) (d : DeviceTelemetry) : Prop where
  name : d.id = id
  sensors : d.hwmonSensors.Perm (if config.collectHwmon then
    (hwmonEntries m (config.sysfsRoot ++ [id])).filterMap (sensorAt m) else [])
  links : d.interconnectLinks.Perm ((linkEntries m (config.sysfsRoot ++ [id])).map (linkAt m))
  sound : Sound d

theorem populateDevice_lists {m : Machine} {config : CollectorConfig} (hfs : m.fs.WellFormed) (id : Str)
    (diagnostics : TelemetrySource) :
    (populateDevice m config { id := id, sysfsPath := config.sysfsRoot ++ [id] } diagnostics).Ensures
      (fun d => DeviceOf m config id d ∧ d.metaliumWorkloads = []) := by
  unfold populateDevice
  iterate 6 refine Tally.Ensures.next (fun _ => ?_)
  refine .bind (P := fun sensors => sensors.Perm (if config.collectHwmon then
    (hwmonEntries m (config.sysfsRoot ++ [id])).filterMap (sensorAt m) else [])) ?_ (fun sensors hsensors => ?_)
  · split
    · intro sensors hsensors
      rw [readHwmonSensors_ensures m _ diagnostics sensors hsensors]
      exact List.perm_insertionSort _ _
    · exact .pure (List.Perm.refl _)
  refine .next (fun power => .next (fun resource => ?_))
  refine .bind (P := fun counters => (counters.map (fun c => shown (some c.name))).Nodup) ?_ (fun counters hcounters => ?_)
  · split
    · exact readPcieCounters_ensures hfs _ diagnostics
    · exact .pure List.nodup_nil
  refine .bind (populateMemory_ensures m.fs _ _) ?_
  rintro _ ⟨memory, rfl⟩
  refine .bind (populateTensix_ensures m.fs _ _) ?_
  rintro _ ⟨tensix, rfl⟩
  refine .next (fun health => .bind (readInterconnectLinks_ensures m _ diagnostics) (fun links hlinks => .pure ?_))
  refine ⟨⟨rfl, hsensors, hlinks, ?_, hcounters, List.nodup_nil⟩, rfl⟩
  cases resource with
  | none => exact List.nodup_nil
  | some resource => exact nodup_pciResources resource

theorem applyWorkloads_spec (d : DeviceTelemetry) : ∃ tensix, applyWorkloads d = { d with tensix := tensix } := by
  unfold applyWorkloads
  simp only
  split
  · exact ⟨d.tensix, rfl⟩
  · exact ⟨_, rfl⟩

/-- What the state readers leave as it is, and the one list they fill: a property of every list that the profiler root
yields under the device's keys holds of it. -/
theorem populate_ensures {P : List Workload → Prop} (fs : Node) (self : StateIngestor) (device : DeviceTelemetry)
    (hnone : self.profilerRoot = none → P device.metaliumWorkloads)
    (hread : ∀ d root, deviceKeys d = deviceKeys device → self.profilerRoot = some root →
      (self.readWorkloads fs d root).Ensures P) : (self.populate fs device).Ensures (fun d =>
      ∃ allocation janitor tensix workloads, d = { device with
        allocation := allocation, janitor := janitor, tensix := tensix, metaliumWorkloads := workloads } ∧
      P workloads) := by
  unfold populate
  refine .bind (P := fun d => ∃ allocation, d = { device with allocation := allocation }) ?_ ?_
  · unfold populateAllocation
    cases self.allocationRoot with
    | none => exact .pure ⟨_, rfl⟩
    | some root => exact .next (fun allocation => .pure ⟨_, rfl⟩)
  rintro _ ⟨allocation, rfl⟩
  refine .bind (P := fun d => ∃ janitor, d = { device with allocation := allocation, janitor := janitor }) ?_ ?_
  · unfold populateJanitor
    cases self.janitorRoot with
    | none => exact .pure ⟨_, rfl⟩
    | some root => exact .next (fun janitor => .pure ⟨_, rfl⟩)
  rintro _ ⟨janitor, rfl⟩
  unfold populateWorkloads
  cases hroot : self.profilerRoot with
  | none => exact .pure ⟨allocation, janitor, device.tensix, device.metaliumWorkloads, rfl, hnone hroot⟩
  | some root =>
    refine .bind (hread { device with allocation := allocation, janitor := janitor } root rfl hroot) (fun workloads hw =>
      .pure ?_)
    obtain ⟨tensix, ht⟩ := applyWorkloads_spec
      { device with allocation := allocation, janitor := janitor, metaliumWorkloads := workloads }
    exact ⟨allocation, janitor, tensix, workloads, ht, hw⟩

theorem collectDevice_ensures {m : Machine} {config : CollectorConfig} (hfs : m.fs.WellFormed) (state : StateIngestor)
    {entry : Str × Node} (h : entryIsDir m config entry = true) : (collectDevice m config state entry).Ensures
      (fun d => ∃ v, d = some v ∧ DeviceOf m config entry.1 v) := by
  unfold collectDevice
  rw [if_pos h]
  refine .bind (populateDevice_lists hfs entry.1 .sysfsRoot) ?_
  rintro device ⟨hd, hw⟩
  refine .bind (populate_ensures (P := fun out => (out.map (fun w => shown (some w.workloadId))).Nodup) m.fs state device
    (fun _ => hw ▸ List.nodup_nil) (fun d root _ _ => readWorkloads_ensures m.fs state d root)) ?_
  rintro _ ⟨allocation, janitor, tensix, workloads, rfl, hnd⟩
  exact .pure ⟨_, rfl, hd.name, hd.sensors, hd.links, hd.sound.resources, hd.sound.counters, hnd⟩

/-! ## The collection -/

theorem names_scanRoot {m : Machine} {config : CollectorConfig} (hfs : m.fs.WellFormed) {entries : List (Str × Node)}
    (h : scanRoot m config = .ok entries) : Posix.DirectoryNames (entries.map Prod.fst) := by
  unfold scanRoot at h
  split at h
  · cases h
  · exact Posix.names_scandir hfs h
  · cases h

/-- **The devices of a collection are the directories of the sysfs root**, in some order, each as its entry's reading
leaves it. -/
theorem devices_of_collect {m : Machine} {config : CollectorConfig} {R : Str → DeviceTelemetry → Prop}
    (hread : ∀ state, (openRoots m.fs config m.now).value = some state → ∀ {entry : Str × Node},
      entryIsDir m config entry = true →
        (collectDevice m config state entry).Ensures (fun d => ∃ v, d = some v ∧ R entry.1 v))
    {result : CollectionResult} (h : collect m config = .ok result) :
    match scanRoot m config with
    | .error _ => result.devices = []
    | .ok entries => ∃ devices, result.devices.Perm devices ∧
      List.Forall₂ (fun entry d => R entry.1 d) (entries.filter (entryIsDir m config)) devices := by
  obtain ⟨f, w, hf, hd⟩ : ∃ f w, find m config = .returned f w ∧ result.devices = f.devices := by
    unfold collect at h
    cases hf : find m config with
    | raised e => rw [hf] at h; cases h
    | returned f w =>
      rw [hf] at h
      cases h
      exact ⟨f, w, rfl, rfl⟩
  have hv : (find m config).value = some f := by rw [hf]; rfl
  rw [hd]
  unfold find at hv
  rw [Tally.value_bind, Option.bind_eq_some_iff] at hv
  obtain ⟨state, hstate, hv⟩ := hv
  cases hs : scanRoot m config with
  | error e =>
    rw [hs] at hv
    cases hv
    rfl
  | ok entries =>
    rw [hs] at hv
    simp only [Tally.value_bind, Option.bind_eq_some_iff, Tally.value_pure, Option.some.injEq] at hv
    obtain ⟨devices, hv, rfl⟩ := hv
    refine ⟨devices, List.perm_insertionSort _ _, ?_⟩
    refine Tally.Ensures.each_forall₂ (fun e _ he => hread state hstate he) (fun e _ he => ?_) devices hv
    unfold collectDevice
    rw [if_neg (by rw [he]; decide)]
    exact .pure rfl

section Apart
variable (m : Machine)

/-- An entry of an hwmon directory that yields a sensor. -/
def IsSensor (e : Path × Str) : Prop := IsSensorFile m e.1 e.2 ∧ Yields m.fs parseInt64 (e.1 ++ [e.2])

/-- No two sensor files of the device have one name and show one label. -/
def SensorsApart (root : Path) : Prop :=
  (hwmonEntries m root).Pairwise (fun e e' => ¬ (IsSensor m e ∧ IsSensor m e' ∧ e.2 = e'.2 ∧
    shown (sensorLabel m e.1 e.2) = shown (sensorLabel m e'.1 e'.2)))

theorem yields_iff (fs : Node) (path : Path) : Yields fs parseInt64 path ↔ ∃ n, intText fs path = some n := by
  unfold Yields intText
  cases attributeText fs path with
  | none => simp
  | some t => cases hp : parseInt64 t <;> simp [hp, Except.toOption]

theorem sensorAt_eq_some {e : Path × Str} {s : HwmonSensor} : sensorAt m e = some s ↔
    IsSensorFile m e.1 e.2 ∧ ∃ value, intText m.fs (e.1 ++ [e.2]) = some value ∧
      s = { name := e.2, label := sensorLabel m e.1 e.2, unit := hwmonUnit (e.2.take (e.2.length - 6)), value := value } := by
  unfold sensorAt
  by_cases h : IsSensorFile m e.1 e.2
  · rw [if_pos h, Option.map_eq_some_iff, and_iff_right h]
    exact exists_congr (fun value => and_congr_right (fun _ => eq_comm))
  · rw [if_neg h]
    simp [h]

theorem sensorsApart_iff (root : Path) : ((hwmonEntries m root).filterMap (sensorAt m)).Pairwise
    (fun s t => shownValues (sensorLabels s) ≠ shownValues (sensorLabels t)) ↔ SensorsApart m root := by
  unfold SensorsApart
  rw [List.pairwise_filterMap]
  refine List.Pairwise.iff (fun e e' => ?_)
  constructor
  · rintro h ⟨⟨hf, hy⟩, ⟨hf', hy'⟩, hn, hl⟩
    obtain ⟨v, hv⟩ := (yields_iff _ _).1 hy
    obtain ⟨v', hv'⟩ := (yields_iff _ _).1 hy'
    refine h _ ((sensorAt_eq_some m).2 ⟨hf, v, hv, rfl⟩) _ ((sensorAt_eq_some m).2 ⟨hf', v', hv', rfl⟩) ?_
    show [shown (some e.2), shown (sensorLabel m e.1 e.2), shown (some (hwmonUnit (e.2.take (e.2.length - 6))))] =
      [shown (some e'.2), shown (sensorLabel m e'.1 e'.2), shown (some (hwmonUnit (e'.2.take (e'.2.length - 6))))]
    rw [hl, hn]
  · intro h s hs t ht he
    obtain ⟨hf, v, hv, rfl⟩ := (sensorAt_eq_some m).1 hs
    obtain ⟨hf', v', hv', rfl⟩ := (sensorAt_eq_some m).1 ht
    simp only [sensorLabels, shownValues, label, List.map_cons, List.map_nil, List.cons.injEq] at he
    have hne : ∀ x : Path × Str, IsSensorFile m x.1 x.2 → x.2 ≠ [] := fun x hx h0 => by
      have := hx.2.2
      rw [h0] at this
      exact absurd this (by decide)
    rw [shown_of_ne (hne e hf), shown_of_ne (hne e' hf')] at he
    exact h ⟨⟨hf, (yields_iff _ _).2 ⟨v, hv⟩⟩, ⟨hf', (yields_iff _ _).2 ⟨v', hv'⟩⟩, he.1, he.2.1⟩

/-- The type, state, peer and ring that a link directory's entry shows. -/
def linkShown (e : Path × Str × Str) : List Str :=
  [some ((firstText m (e.1 ++ [e.2.1]) linkTypeFiles).getD e.2.2), firstText m (e.1 ++ [e.2.1]) linkStateFiles,
    firstText m (e.1 ++ [e.2.1]) linkPeerFiles, firstText m (e.1 ++ [e.2.1]) linkRingFiles].map shown

def HasSpeed (e : Path × Str × Str) : Prop :=
  ∃ name ∈ linkSpeedFiles, Yields m.fs parseInt64 (e.1 ++ [e.2.1] ++ [name])

/-- Of two links with one name, not both report a speed, and they show different types, states, peers or rings. -/
def LinksApart (root : Path) : Prop :=
  (linkEntries m root).Pairwise (fun e e' => e.2.1 = e'.2.1 →
    linkShown m e ≠ linkShown m e' ∧ ¬ (HasSpeed m e ∧ HasSpeed m e'))

theorem mem_of_mapM {f : Str → Option (List Str)} (hf : ∀ name l, f name = some l → ∀ n ∈ l, n = name) :
    ∀ {listed : List Str} {found : List (List Str)}, listed.mapM f = some found → ∀ n ∈ found.flatten, n ∈ listed
  | [], found, h => by
    cases h
    exact nofun
  | name :: listed, found, h => by
    rw [List.mapM_cons] at h
    simp only [Option.pure_def, Option.bind_eq_bind, Option.bind_eq_some_iff, Option.some.injEq] at h
    obtain ⟨l, hl, rest, hr, rfl⟩ := h
    intro n hn
    rw [List.flatten_cons, List.mem_append] at hn
    rcases hn with hn | hn
    · exact hf name l hl n hn ▸ List.mem_cons_self
    · exact List.mem_cons_of_mem _ (mem_of_mapM hf hr n hn)

theorem names_subdirectories {fs : Node} (hfs : fs.WellFormed) {base : Path} {names : List Str}
    (h : subdirectories fs base = some names) : ∀ n ∈ names, n ≠ [] := by
  unfold subdirectories at h
  cases hl : Posix.listPath fs base with
  | error e => rw [hl] at h; cases h
  | ok listed =>
    rw [hl] at h
    obtain ⟨found, hm, rfl⟩ := Option.map_eq_some_iff.1 h
    intro n hn
    refine ((Posix.names_listPath hfs hl).2 n (mem_of_mapM (fun name l he k hk => ?_) hm n hn)).1
    split at he
    · cases he
    · cases he
      split at hk
      · exact List.mem_singleton.1 hk
      · cases hk

omit m in
theorem name_ne_nil_of_mem_linkEntries {m : Machine} (hfs : m.fs.WellFormed) {root : Path} {e : Path × Str × Str}
    (he : e ∈ linkEntries m root) : e.2.1 ≠ [] := by
  obtain ⟨⟨directory, type⟩, -, he⟩ := List.mem_flatMap.1 he
  obtain ⟨name, hn, rfl⟩ := List.mem_map.1 he
  cases hs : subdirectories m.fs (root ++ [directory]) with
  | none => rw [hs] at hn; cases hn
  | some names =>
    rw [hs] at hn
    exact names_subdirectories hfs hs name hn

theorem hasSpeed_iff (e : Path × Str × Str) : HasSpeed m e ↔ ∃ s, (linkAt m e).speedGbps = some s := by
  unfold HasSpeed
  simp only [yields_iff]
  constructor
  · rintro ⟨name, hn, n, h⟩
    refine Option.ne_none_iff_exists'.1 (fun hnone => ?_)
    rw [List.findSome?_eq_none_iff.1 hnone name hn] at h
    cases h
  · rintro ⟨s, h⟩
    obtain ⟨name, hn, h⟩ := List.exists_of_findSome?_eq_some h
    exact ⟨name, hn, s, h⟩

omit m in
theorem linksApart_iff {m : Machine} (hfs : m.fs.WellFormed) (root : Path) :
    (((linkEntries m root).map (linkAt m)).Pairwise (fun l k => shownValues (linkLabels l) ≠ shownValues (linkLabels k)) ∧
      (((linkEntries m root).map (linkAt m)).filterMap (fun l => l.speedGbps.map (fun s => (l, s)))).Pairwise
        (fun l k => shown (some l.1.name) ≠ shown (some k.1.name))) ↔ LinksApart m root := by
  unfold LinksApart
  rw [List.pairwise_filterMap, List.pairwise_map, List.pairwise_map, ← List.pairwise_and_iff]
  refine List.Pairwise.iff_of_mem (fun {e e'} he he' => ?_)
  have hne := name_ne_nil_of_mem_linkEntries hfs he
  have hne' := name_ne_nil_of_mem_linkEntries hfs he'
  rw [hasSpeed_iff, hasSpeed_iff]
  have hlabels : shownValues (linkLabels (linkAt m e)) = shownValues (linkLabels (linkAt m e')) ↔
      e.2.1 = e'.2.1 ∧ linkShown m e = linkShown m e' := by
    show shown (some e.2.1) :: linkShown m e = shown (some e'.2.1) :: linkShown m e' ↔ _
    rw [shown_of_ne hne, shown_of_ne hne', List.cons.injEq]
  constructor
  · rintro ⟨hl, hs⟩ hn
    refine ⟨fun he => hl (hlabels.2 ⟨hn, he⟩), ?_⟩
    rintro ⟨⟨s, hs₁⟩, s', hs₂⟩
    refine hs (linkAt m e, s) (by rw [hs₁]; rfl) (linkAt m e', s') (by rw [hs₂]; rfl) ?_
    show shown (some e.2.1) = shown (some e'.2.1)
    rw [hn]
  · intro h
    refine ⟨fun hl => ?_, ?_⟩
    · obtain ⟨hn, he⟩ := hlabels.1 hl
      exact (h hn).1 he
    · rintro x hx y hy hxy
      obtain ⟨s, hs, rfl⟩ := Option.map_eq_some_iff.1 hx
      obtain ⟨s', hs', rfl⟩ := Option.map_eq_some_iff.1 hy
      have hn : e.2.1 = e'.2.1 := by
        have : shown (some e.2.1) = shown (some e'.2.1) := hxy
        rwa [shown_of_ne hne, shown_of_ne hne'] at this
      exact (h hn).2 ⟨⟨s, hs⟩, s', hs'⟩

end Apart

/-! ## The rendered text -/

/-- **The devices of which no sensor and no link is rendered twice**, by the tree. -/
def SeriesApart (m : Machine) (config : CollectorConfig) : Prop :=
  ∀ entries, scanRoot m config = .ok entries → ∀ e ∈ entries, entryIsDir m config e = true →
    (config.collectHwmon = true → SensorsApart m (config.sysfsRoot ++ [e.1])) ∧
      LinksApart m (config.sysfsRoot ++ [e.1])

theorem forall_mem_iff_of_forall₂ {α β : Type} {R : α → β → Prop} {P : α → Prop} {Q : β → Prop} :
    ∀ {as : List α} {bs : List β}, List.Forall₂ R as bs → (∀ a b, R a b → (P a ↔ Q b)) →
      ((∀ a ∈ as, P a) ↔ ∀ b ∈ bs, Q b)
  | _, _, .nil, _ => iff_of_true nofun nofun
  | _, _, .cons h hs, hr => by
    rw [List.forall_mem_cons, List.forall_mem_cons, hr _ _ h, forall_mem_iff_of_forall₂ hs hr]

theorem exists_of_forall₂ {α β : Type} {R : α → β → Prop} : ∀ {as : List α} {bs : List β}, List.Forall₂ R as bs →
    ∀ a ∈ as, ∃ b ∈ bs, R a b
  | _, _, .nil, _, ha => absurd ha List.not_mem_nil
  | _, _, .cons h hs, a, ha => by
    rcases List.mem_cons.1 ha with rfl | ha
    · exact ⟨_, List.mem_cons_self, h⟩
    · obtain ⟨b, hb, hr⟩ := exists_of_forall₂ hs a ha
      exact ⟨b, List.mem_cons_of_mem _ hb, hr⟩

theorem map_eq_of_forall₂ {α β γ : Type} {R : α → β → Prop} {f : α → γ} {g : β → γ} (hr : ∀ a b, R a b → g b = f a) :
    ∀ {as : List α} {bs : List β}, List.Forall₂ R as bs → bs.map g = as.map f
  | _, _, .nil => rfl
  | _, _, .cons h hs => by rw [List.map_cons, List.map_cons, hr _ _ h, map_eq_of_forall₂ hr hs]

/-- The series of a device are apart as far as its entry's sensors and links are. -/
theorem distinct_deviceOf {m : Machine} {config : CollectorConfig} (hfs : m.fs.WellFormed) (ratio : Int → Int → Numeral)
    {id : Str} {d : DeviceTelemetry} (h : DeviceOf m config id d) : (∀ metric ∈ metrics ratio, metric.Distinct d) ↔
      (config.collectHwmon = true → SensorsApart m (config.sysfsRoot ++ [id])) ∧
        LinksApart m (config.sysfsRoot ++ [id]) := by
  rw [distinct_iff h.sound, ← linksApart_iff hfs]
  refine and_congr ?_ (and_congr ?_ ?_)
  · rw [h.sensors.pairwise_iff (fun hne => hne.symm)]
    cases hc : config.collectHwmon with
    | false => simp
    | true =>
      rw [if_pos rfl, sensorsApart_iff]
      simp
  · exact h.links.pairwise_iff (fun hne => hne.symm)
  · exact (h.links.filterMap _).pairwise_iff (fun hne => hne.symm)

/-- **The rendered text of a collection has no duplicate series exactly when the tree keeps sensors and links apart.** -/
theorem noDuplicates_iff {m : Machine} {config : CollectorConfig} (hfs : m.fs.WellFormed) (ratio : Int → Int → Numeral)
    {result : CollectionResult} (h : collect m config = .ok result) :
    Exposition.NoDuplicateSeries (renderPrometheus ratio result.devices) ↔ SeriesApart m config := by
  have hdevices := devices_of_collect (fun state _ => collectDevice_ensures hfs state) h
  unfold SeriesApart
  cases hs : scanRoot m config with
  | error e =>
    rw [hs] at hdevices
    have hnil : (([] : List DeviceTelemetry).map (fun d => shown (some d.id))).Nodup := List.nodup_nil
    rw [hdevices, noDuplicateSeries_iff (metrics_uniform ratio) hnil]
    exact iff_of_true (fun _ _ _ hd => absurd hd List.not_mem_nil) (fun _ he => nomatch he)
  | ok entries =>
    rw [hs] at hdevices
    obtain ⟨devices, hp, hf⟩ := hdevices
    have hnames := names_scanRoot hfs hs
    have hids : (result.devices.map (fun d => shown (some d.id))).Nodup := by
      rw [(hp.map _).nodup_iff, map_eq_of_forall₂ (f := fun e => shown (some e.1)) (fun e d hd => by rw [hd.name]) hf]
      have hn := nodup_shown hnames
      rw [List.map_map] at hn
      exact hn.sublist ((List.filter_sublist).map _)
    rw [noDuplicateSeries_iff (metrics_uniform ratio) hids]
    have hswap : (∀ metric ∈ metrics ratio, ∀ d ∈ result.devices, metric.Distinct d) ↔
        ∀ d ∈ devices, ∀ metric ∈ metrics ratio, metric.Distinct d :=
      ⟨fun h d hd metric hm => h metric hm d (hp.mem_iff.2 hd), fun h metric hm d hd => h d (hp.mem_iff.1 hd) metric hm⟩
    rw [hswap, ← forall_mem_iff_of_forall₂ hf (fun e d hd => (distinct_deviceOf hfs ratio hd).symm)]
    simp only [List.mem_filter, and_imp, Except.ok.injEq, forall_eq']

/-- A device with two hwmon directories, each with a sensor of the same name. -/
def twinTree : Node := .folder [("sys", .folder [("0", .folder [("hwmon", .folder [
  ("hwmon0", .folder [("temp1_input", .file "40000")]),
  ("hwmon1", .folder [("temp1_input", .file "41000")])])])])]

def twinMachine : Machine := ⟨twinTree, 0, id⟩
def twinConfig : CollectorConfig := { sysfsRoot := ["sys".toList], collectHwmon := true }

/-- One sensor for each value, all of one name and without a label. -/
def twinSensors (values : List Int) : List HwmonSensor :=
  values.map (fun value => ⟨"temp1_input".toList, none, "millidegrees_celsius".toList, value⟩)

theorem twinTree_wellFormed : twinTree.WellFormed := by
  simp [twinTree, Node.folder, Node.file, Node.WellFormed, Posix.entriesWellFormed, Posix.ValidName]

theorem twinTree_sensors : (collect twinMachine twinConfig).toOption.map (fun r => r.devices.map (·.hwmonSensors)) =
    some [twinSensors [40000, 41000]] := by decide +kernel

theorem twinTree_collected : ∃ result d, collect twinMachine twinConfig = .ok result ∧ result.devices = [d] ∧
    d.hwmonSensors = twinSensors [40000, 41000] := by
  obtain ⟨result, hr, hs⟩ := Option.map_eq_some_iff.1 twinTree_sensors
  obtain ⟨d, hd, hs⟩ := List.map_eq_singleton_iff.1 hs
  refine ⟨result, d, ?_, hd, hs⟩
  cases hc : collect twinMachine twinConfig with
  | error e => rw [hc] at hr; cases hr
  | ok r => rw [hc] at hr; cases hr; rfl

/-- Both sensors are rendered, and nothing tells their samples apart. -/
theorem twinTree_duplicates : ∃ result, collect twinMachine twinConfig = .ok result ∧
    ¬ Exposition.NoDuplicateSeries (renderPrometheus (fun _ _ => ⟨['0'], by decide⟩) result.devices) := by
  obtain ⟨result, d, hc, hd, hs⟩ := twinTree_collected
  refine ⟨result, hc, fun h => ?_⟩
  have hids : (result.devices.map (fun d => shown (some d.id))).Nodup := by
    rw [hd]
    exact List.nodup_singleton _
  rw [noDuplicateSeries_iff (metrics_uniform _) hids, hd] at h
  have hdistinct := h _ (List.mem_of_getElem? (i := 6) rfl) d List.mem_cons_self
  rw [distinct_listing, hs] at hdistinct
  exact (List.pairwise_cons.1 hdistinct).1 _ List.mem_cons_self rfl

theorem noDuplicates_iff_twinTree : ∃ result, collect twinMachine twinConfig = .ok result ∧
    (Exposition.NoDuplicateSeries (renderPrometheus (fun _ _ => ⟨['0'], by decide⟩) result.devices) ↔
      SeriesApart twinMachine twinConfig) := by
  obtain ⟨result, d, hc, -, -⟩ := twinTree_collected
  exact ⟨result, hc, noDuplicates_iff twinTree_wellFormed _ hc⟩

end Tt
