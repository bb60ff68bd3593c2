import TtMetricsExporter.EnumerationOrder
/-!
# EnumerationTies — the orders that show a tie, and when all orders are collected alike

Enumerating one directory first everywhere puts its sensor file ahead of a sensor of the same name, and enumerating one
legacy file first puts its record ahead of a record of the same key.  So a result that every order gives has no ties
(`collect_orderless_iff`).
-/
namespace Tt

open Py (Str)
open Posix (Node Path Errno Reordered Promotes toFront)
open SysfsCollector StateIngestor

/-! ## What a result holds of one device -/

section Result
variable {m : Machine} {config : CollectorConfig}

/-- The two lists of a device on which an order may tell. -/
structure ReadFrom (m : Machine) (config : CollectorConfig) (entry : Str) (d : DeviceTelemetry) : Prop where
  name : d.id = entry
  sensors : config.collectHwmon = true → d.hwmonSensors =
    Ranked.rank (·.name) ((hwmonEntries m (config.sysfsRoot ++ [entry])).filterMap (sensorAt m))
  workloads : ∀ root, (ingestorOf m config).profilerRoot = some root → d.metaliumWorkloads =
    exported (v2Records m.fs (ingestorOf m config) (keyed m entry (config.sysfsRoot ++ [entry])) root)
      (legacyRecords m.fs (ingestorOf m config) (keyed m entry (config.sysfsRoot ++ [entry])) root)

theorem populateDevice_sensors (name : Str) (diagnostics : TelemetrySource) :
    (populateDevice m config { id := name, sysfsPath := config.sysfsRoot ++ [name] } diagnostics).Ensures (fun d =>
      d.id = name ∧ (config.collectHwmon = true → d.hwmonSensors =
        Ranked.rank (·.name) ((hwmonEntries m (config.sysfsRoot ++ [name])).filterMap (sensorAt m)))) := by
  unfold populateDevice
  iterate 6 refine Tally.Ensures.next (fun _ => ?_)
  refine .bind (P := fun sensors => config.collectHwmon = true → sensors =
    Ranked.rank (·.name) ((hwmonEntries m (config.sysfsRoot ++ [name])).filterMap (sensorAt m))) ?_ (fun sensors hs => ?_)
  · cases config.collectHwmon with
    | false => exact .pure (fun hc => nomatch hc)
    | true => exact fun sensors hs _ => readHwmonSensors_ensures m _ diagnostics sensors hs
  iterate 3 refine Tally.Ensures.next (fun _ => ?_)
  refine .bind (populateMemory_ensures m.fs _ _) ?_
  rintro _ ⟨memory, rfl⟩
  refine .bind (populateTensix_ensures m.fs _ _) ?_
  rintro _ ⟨tensix, rfl⟩
  exact .next (fun _ => .next (fun _ => .pure ⟨rfl, hs⟩))

theorem collectDevice_reads {entry : Str × Node} (he : entryIsDir m config entry = true) :
    (collectDevice m config (ingestorOf m config) entry).Ensures (fun d =>
      ∃ v, d = some v ∧ ReadFrom m config entry.1 v) := by
  unfold collectDevice
  rw [if_pos he]
  have hdevice := @populateDevice_sensors m config entry.1 .sysfsRoot
  refine .bind (fun d hd => And.intro (hdevice d hd) (populateDevice_ensures m config _ _ d hd)) ?_
  rintro d ⟨⟨hname, hsensors⟩, hkeys⟩
  refine .bind (populate_ensures m.fs (ingestorOf m config) d (P := fun out =>
      ∀ root, (ingestorOf m config).profilerRoot = some root →
        out = exported (v2Records m.fs (ingestorOf m config) d root) (legacyRecords m.fs (ingestorOf m config) d root))
    (fun hnone root hroot => by rw [hnone] at hroot; cases hroot) ?_) ?_
  · intro d' root' hk hroot' out hout root hroot
    cases hroot'.symm.trans hroot
    rw [value_readWorkloads hout, v2Records_keys _ m.fs hk, legacyRecords_keys _ m.fs hk]
  · rintro _ ⟨allocation, janitor, tensix, workloads, rfl, hworkloads⟩
    refine .pure ⟨_, rfl, hname, hsensors, fun root hroot => ?_⟩
    have hk : deviceKeys d = deviceKeys (keyed m entry.1 (config.sysfsRoot ++ [entry.1])) := hkeys
    rw [← v2Records_keys _ m.fs hk, ← legacyRecords_keys _ m.fs hk]
    exact hworkloads root hroot

/-- **Every directory of the sysfs root has its device in the result**, and it is the only one of its name. -/
theorem readFrom_of_collect {result : CollectionResult} (h : collect m config = .ok result) {entries : List (Str × Node)}
    (hs : scanRoot m config = .ok entries) (hnd : (entries.map Prod.fst).Nodup) {e : Str × Node} (he : e ∈ entries)
    (hdir : entryIsDir m config e = true) : ∃ d ∈ result.devices, ReadFrom m config e.1 d ∧
      ∀ d' ∈ result.devices, d'.id = e.1 → d' = d := by
  have hdevices := devices_of_collect (R := ReadFrom m config) (fun state hstate => ?_) h
  · rw [hs] at hdevices
    obtain ⟨devices, hp, hf⟩ := hdevices
    have hids : (devices.map (·.id)).Nodup := by
      rw [map_eq_of_forall₂ (f := Prod.fst) (fun _ _ hd => hd.name) hf]
      exact hnd.sublist (List.filter_sublist.map _)
    obtain ⟨d, hd, hread⟩ := exists_of_forall₂ hf e (List.mem_filter.2 ⟨he, hdir⟩)
    refine ⟨d, hp.mem_iff.2 hd, hread, fun d' hd' hid => ?_⟩
    exact List.inj_on_of_nodup_map hids (hp.mem_iff.1 hd') hd (hid.trans hread.name.symm)
  · rw [value_openRoots, Option.some.injEq] at hstate
    subst hstate
    exact fun he => collectDevice_reads he

end Result

/-! ## Sensors -/

section Sensors
variable {m : Machine}

theorem fst_of_mem_entriesIn {directory : Path} {e : Path × Str} (he : e ∈ entriesIn m directory) : e.1 = directory := by
  unfold entriesIn at he
  split at he
  · cases he
  · obtain ⟨name, -, rfl⟩ := List.mem_map.1 he
    rfl

/-- **Enumerating its directory first puts a sensor first of its name**, below one hwmon directory. -/
theorem sensor_first {base : Path} {s : HwmonSensor} (hs : s ∈ sensorsBelow m base) :
    ∃ c, Ranked.FirstOfKey (·.name) (sensorsBelow { m with fs := m.fs.promote c } base) s := by
  obtain ⟨e, he, hse⟩ := List.mem_filterMap.1 hs
  obtain ⟨c, hc, hec⟩ := List.mem_flatMap.1 he
  have h := Posix.promote_reordered c m.fs
  have hsub : (subdirectories (m.fs.promote c) base).getD [] = toFront id c ((subdirectories m.fs base).getD []) := by
    have hr := subdirectories_related (Posix.promote_promotes c m.fs) h (fun _ _ p hp => hp.filter p) base
    generalize subdirectories m.fs base = x at hr ⊢
    generalize subdirectories (m.fs.promote c) base = y at hr ⊢
    cases hr with
    | none => rfl
    | some hr => exact hr
  refine ⟨c, ?_⟩
  unfold sensorsBelow baseEntries
  rw [sensorAt_reordered h]
  dsimp only
  rw [hsub, toFront, List.flatMap_append, List.filterMap_append]
  refine ⟨_, _, rfl, ?_, fun s' hs' hn => ?_⟩
  · refine List.mem_filterMap.2 ⟨e, List.mem_flatMap.2 ⟨c, List.mem_filter.2 ⟨hc, decide_eq_true rfl⟩, ?_⟩, hse⟩
    exact (entriesIn_perm h _).mem_iff.1 hec
  · -- what is enumerated first comes from one directory, where the file name is the sensor's
    obtain ⟨e', he', hse'⟩ := List.mem_filterMap.1 hs'
    obtain ⟨c', hc', hec'⟩ := List.mem_flatMap.1 he'
    obtain rfl : c' = c := of_decide_eq_true (List.mem_filter.1 hc').2
    have hfile : e' = e := by
      refine Prod.ext ?_ ?_
      · rw [fst_of_mem_entriesIn hec, fst_of_mem_entriesIn hec']
      · obtain ⟨-, v, -, rfl⟩ := (sensorAt_eq_some m).1 hse
        obtain ⟨-, v', -, rfl⟩ := (sensorAt_eq_some m).1 hse'
        exact hn
    rw [hfile, hse] at hse'
    exact (Option.some.inj hse').symm

/-- **Sensors that every order sorts alike are settled.** -/
theorem sensorsSettled_of_same {root : Path} {sensors : List HwmonSensor}
    (hsame : ∀ fs, Reordered m.fs fs → sensors = Ranked.rank (·.name)
      ((hwmonEntries { m with fs := fs } root).filterMap (sensorAt { m with fs := fs }))) : SensorsSettled m root := by
  intro base hbase s hs s' hs' hn
  obtain ⟨c, hc⟩ := sensor_first hs
  obtain ⟨c', hc'⟩ := sensor_first hs'
  have h := Posix.promote_reordered c m.fs
  have h' := Posix.promote_reordered c' m.fs
  have hrank := (hsame _ h).symm.trans (hsame _ h')
  rw [filterMap_hwmonEntries, filterMap_hwmonEntries] at hrank
  have hparts := Ranked.filters_of_rank_flatten (·.name) (List.forall₂_map_left_iff.2 (List.forall₂_map_right_iff.2
    (List.forall₂_same.2 (fun base _ => (sensorsBelow_perm h base).symm.trans (sensorsBelow_perm h' base))))) hrank s.name
  rw [List.forall₂_map_left_iff, List.forall₂_map_right_iff, List.forall₂_same] at hparts
  have hhead := hc.head
  rw [hparts base hbase, hn, hc'.head] at hhead
  exact (Option.some.inj hhead).symm

end Sensors

/-! ## Workloads -/

section Workloads
variable {v2 v2' : List (Str × Workload)} {legacy legacy' : List Workload} {r r' : Workload}

theorem Leads.perm (h : Leads v2 legacy r) (hv : v2.Perm v2') (hl : legacy.Perm legacy') : Leads v2' legacy' r where
  unclaimed := fun hm => h.unclaimed ((hv.map _).mem_iff.2 hm)
  first := fun x hx => h.first x ((exportable_perm hv hl).mem_iff.2 hx)
  untied := fun x hx => h.untied x (hv.mem_iff.2 hx)
  kept := Ranked.ahead_perm (·.workloadId) workloadKey (exportable_perm hv hl) r ▸ h.kept

theorem Leads.of_key (h : Leads v2 legacy r) (hk : workloadKey r' = workloadKey r) : Leads v2 legacy r' where
  unclaimed := workloadId_of_key_eq hk ▸ h.unclaimed
  first := fun x hx hi => hk ▸ h.first x hx (hi.trans (workloadId_of_key_eq hk))
  untied := fun x hx => hk ▸ h.untied x hx
  kept := lt_of_le_of_lt (Ranked.ahead_length_le _ _ (le_of_eq hk)) h.kept

/-- A record that leads and comes first of its key is exported. -/
theorem Leads.mem_exported (h : Leads v2 legacy r) (hr : Ranked.FirstOfKey workloadKey legacy r) :
    r ∈ exported v2 legacy := by
  obtain ⟨before, after, rfl, hmem, hall⟩ := hr
  have hlegacy : r ∈ before.filter (fun w => w.workloadId ∉ v2.map Prod.fst) :=
    List.mem_filter.2 ⟨hmem, decide_eq_true h.unclaimed⟩
  have hfirst : Ranked.FirstOfKey workloadKey (exportable v2 (before ++ after)) r := by
    refine ⟨v2.map Prod.snd ++ before.filter (fun w => w.workloadId ∉ v2.map Prod.fst),
      after.filter (fun w => w.workloadId ∉ v2.map Prod.fst), ?_, List.mem_append_right _ hlegacy, fun y hy hk => ?_⟩
    · rw [exportable, List.filter_append, List.append_assoc]
    · rcases List.mem_append.1 hy with hy | hy
      · obtain ⟨x, hx, rfl⟩ := List.mem_map.1 hy
        exact absurd hk (h.untied x hx)
      · exact hall y (List.mem_of_mem_filter hy) hk
  refine Ranked.mem_ranking_of_first _ _ _ (fun _ _ _ _ => workloadId_of_key_eq) ?_ hfirst h.first h.kept
  exact mem_exportable.2 (.inr ⟨List.mem_append_left _ hmem, h.unclaimed⟩)

variable {fs : Node} (hlimit : WithinScanLimit fs) {self : StateIngestor} {device : DeviceTelemetry}
  {root : SecureDirectory}
include hlimit

theorem listed_promote (c : Str) (directory : SecureDirectory) :
    listed (fs.promote c) directory = toFront id c (listed fs directory) := by
  have hl := (entries_shuffled (Posix.promote_promotes c fs) rfl (fun _ _ hp => hp.length_eq) hlimit directory
    .metaliumProfilerState).value_related
  unfold listed
  generalize (directory.entries fs maximumStateFiles .metaliumProfilerState).value = x at hl ⊢
  generalize (directory.entries (fs.promote c) maximumStateFiles .metaliumProfilerState).value = y at hl ⊢
  cases hl with
  | none => rfl
  | some hl => exact hl

/-- **Enumerating its file first puts a legacy record first of its key.** -/
theorem legacy_first (hr : r ∈ legacyRecords fs self device root) :
    ∃ c, Ranked.FirstOfKey workloadKey (legacyRecords (fs.promote c) self device root) r := by
  unfold legacyRecords at hr
  obtain ⟨directory, hd, hr⟩ := List.mem_flatMap.1 hr
  obtain ⟨c, hc, hcr⟩ := List.mem_filterMap.1 hr
  have h := Posix.promote_reordered c fs
  refine ⟨c, ?_⟩
  unfold legacyRecords
  rw [← firstDeviceDirectory_similar h, ← readLegacyFile_reordered h, Option.mem_toList.1 hd, Option.toList_some,
    List.flatMap_singleton, listed_promote hlimit, toFront, List.filterMap_append]
  refine ⟨_, _, rfl, List.mem_filterMap.2 ⟨c, List.mem_filter.2 ⟨hc, decide_eq_true rfl⟩, hcr⟩, fun r' hr' _ => ?_⟩
  obtain ⟨c', hc', hcr'⟩ := List.mem_filterMap.1 hr'
  obtain rfl : c' = c := of_decide_eq_true (List.mem_filter.1 hc').2
  exact Option.some.inj (hcr'.symm.trans hcr)

/-- **Workloads that every order exports alike are settled.** -/
theorem workloadsSettled_of_same {out : List Workload} (hsame : ∀ fs', Reordered fs fs' →
      out = exported (v2Records fs' self device root) (legacyRecords fs' self device root)) :
    WorkloadsSettled (v2Records fs self device root) (legacyRecords fs self device root) := by
  intro r hr hleads r' hr' hk
  have hmem : ∀ {x}, x ∈ legacyRecords fs self device root →
      Leads (v2Records fs self device root) (legacyRecords fs self device root) x → x ∈ out := by
    intro x hx hlead
    obtain ⟨c, hc⟩ := legacy_first hlimit hx
    have h := Posix.promote_reordered c fs
    obtain ⟨hv, hl⟩ := records_reordered h self hlimit device root
    rw [hsame _ h]
    exact (hlead.perm hv hl).mem_exported hc
  have hdistinct : (out.map (·.workloadId)).Nodup := by
    rw [hsame fs (.refl fs)]
    exact (merged_exported _ _).distinct
  exact List.inj_on_of_nodup_map hdistinct (hmem hr' (hleads.of_key hk)) (hmem hr hleads) (workloadId_of_key_eq hk)

end Workloads

/-! ## All orders -/

section Orders
variable {m : Machine} {config : CollectorConfig}

theorem ingestorOf_reordered {fs : Node} (h : Reordered m.fs fs) :
    ingestorOf { m with fs := fs } config = ingestorOf m config := by
  unfold ingestorOf rootOf
  simp only [h.openPath_eq]

theorem keyed_reordered {fs : Node} (h : Reordered m.fs fs) : keyed { m with fs := fs } = keyed m := by
  funext id root
  unfold keyed bdfOf characterDeviceOf ueventField
  rw [readSymlinkBasename_reordered h]
  simp only [attributeText_reordered h]

/-- **Every order has the device of a directory of the sysfs root** in its result. -/
theorem readFrom_reordered {fs : Node} (h : Reordered m.fs fs) {result : CollectionResult}
    (hc : collect { m with fs := fs } config = .ok result) {entries : List (Str × Node)}
    (hs : scanRoot m config = .ok entries) (hnd : (entries.map Prod.fst).Nodup) {e : Str × Node} (he : e ∈ entries)
    (hdir : entryIsDir m config e = true) : ∃ d ∈ result.devices, ReadFrom { m with fs := fs } config e.1 d ∧
      ∀ d' ∈ result.devices, d'.id = e.1 → d' = d := by
  have hscan := scanRoot_related h config
  rw [hs] at hscan
  cases hs' : scanRoot { m with fs := fs } config with
  | error err =>
    rw [hs'] at hscan
    cases hscan
  | ok entries' =>
    rw [hs'] at hscan
    cases hscan with
    | ok hboth =>
      have hvisit : (e.1, true) ∈ visited m config entries := List.mem_map.2 ⟨e, he, by rw [hdir]⟩
      obtain ⟨e', he', heq⟩ := List.mem_map.1 ((visited_perm h hnd hboth.1 hboth.2).mem_iff.1 hvisit)
      rw [Prod.mk.injEq] at heq
      rw [← heq.1]
      exact readFrom_of_collect hc hs' (hboth.1.nodup_iff.1 hnd) he' heq.2

/-- **A result that every order gives has no ties.** -/
theorem tieFree_of_same (hfs : m.fs.WellFormed) (hlimit : WithinScanLimit m.fs) {result : CollectionResult}
    (hsame : ∀ fs, Reordered m.fs fs → collect { m with fs := fs } config = .ok result) : TieFree m config := by
  intro entries hs e he hdir
  have hnd := (names_scanRoot hfs hs).1
  have hrefl : Reordered m.fs m.fs := .refl m.fs
  obtain ⟨d, hd, -, honly⟩ := readFrom_reordered hrefl (hsame _ hrefl) hs hnd he hdir
  have hread : ∀ fs, Reordered m.fs fs → ReadFrom { m with fs := fs } config e.1 d := by
    intro fs h
    obtain ⟨d', hd', hr, -⟩ := readFrom_reordered h (hsame _ h) hs hnd he hdir
    exact honly d' hd' hr.name ▸ hr
  refine ⟨fun hc => sensorsSettled_of_same (fun fs h => (hread fs h).sensors hc), fun root hroot => ?_⟩
  refine @workloadsSettled_of_same _ hlimit _ _ _ d.metaliumWorkloads (fun fs h => ?_)
  have hw := (hread fs h).workloads root
  rw [ingestorOf_reordered h, keyed_reordered h] at hw
  exact hw hroot

/-- **All orders of enumeration are collected alike exactly when no tie decides what is collected**, where the collection
returns. -/
theorem collect_orderless_iff (hfs : m.fs.WellFormed) (hlimit : WithinScanLimit m.fs) :
    (∀ fs₁ fs₂, Reordered m.fs fs₁ → Reordered m.fs fs₂ →
      (collect { m with fs := fs₁ } config).toOption = (collect { m with fs := fs₂ } config).toOption) ↔
    (Readable m config → TieFree m config) := by
  have hrefl : Reordered m.fs m.fs := .refl m.fs
  constructor
  · intro hall hreadable
    cases hc : collect m config with
    | error e =>
      have hok := (collect_isOk m config).2 hreadable
      rw [hc] at hok
      cases hok
    | ok result =>
      refine @tieFree_of_same m config hfs hlimit result (fun fs h => ?_)
      have hsame := hall m.fs fs hrefl h
      rw [hc] at hsame
      cases hc' : collect { m with fs := fs } config with
      | error e => rw [hc'] at hsame; cases hsame
      | ok result' =>
        rw [hc'] at hsame
        exact congrArg Except.ok (Option.some.inj hsame).symm
  · intro htie fs₁ fs₂ h₁ h₂
    rw [← collect_reordered h₁ hfs hlimit config htie, ← collect_reordered h₂ hfs hlimit config htie]

end Orders

/-! ## Twin sensors -/

theorem withinScanLimit_file (text : String) : WithinScanLimit (.file text) := by
  intro path access entries h
  cases path <;> cases h

theorem withinScanLimit_folder {entries : List (String × Node)} (hlen : entries.length ≤ maximumStateFiles)
    (h : ∀ e ∈ entries, WithinScanLimit e.2) : WithinScanLimit (.folder entries) := by
  intro path access found hat
  unfold Node.folder at hat
  cases path with
  | nil =>
    rw [Node.at, Option.some.injEq] at hat
    cases hat
    rw [List.length_map]
    exact hlen
  | cons c rest =>
    rw [Node.at, Option.bind_eq_some_iff] at hat
    obtain ⟨n, hn, hat⟩ := hat
    obtain ⟨before, after, hentries, -⟩ := List.lookup_eq_some_iff.1 hn
    have hmem : (c, n) ∈ entries.map (fun e => (e.1.toList, e.2)) := by
      rw [hentries]
      exact List.mem_append_right _ List.mem_cons_self
    obtain ⟨e, he, heq⟩ := List.mem_map.1 hmem
    cases heq
    exact h e he rest access found hat

theorem withinScanLimit_single (name : String) {n : Node} (h : WithinScanLimit n) :
    WithinScanLimit (.folder [(name, n)]) :=
  withinScanLimit_folder (Nat.le_add_left 1 4095) (List.forall_mem_singleton.2 h)

theorem twinTree_withinScanLimit : WithinScanLimit twinTree := by
  have hsensor : ∀ text, WithinScanLimit (.folder [("temp1_input", .file text)]) :=
    fun text => withinScanLimit_single _ (withinScanLimit_file text)
  have htwins : WithinScanLimit (.folder [("hwmon0", .folder [("temp1_input", .file "40000")]),
      ("hwmon1", .folder [("temp1_input", .file "41000")])]) := by
    refine withinScanLimit_folder (by decide) ?_
    rw [List.forall_mem_cons, List.forall_mem_singleton]
    exact ⟨hsensor _, hsensor _⟩
  exact withinScanLimit_single _ (withinScanLimit_single _ (withinScanLimit_single _ htwins))

theorem twinTree_orders_differ : (collect twinMachine twinConfig).toOption ≠
    (collect { twinMachine with fs := twinTree.promote "hwmon1".toList } twinConfig).toOption := by
  intro h
  have hsensors : (collect { twinMachine with fs := twinTree.promote "hwmon1".toList } twinConfig).toOption.map
      (fun r => r.devices.map (·.hwmonSensors)) = some [twinSensors [41000, 40000]] := by decide +kernel
  rw [← h, twinTree_sensors] at hsensors
  exact absurd hsensors (by decide)

/-- Enumerated in the other order, the twins are exported in the other order. -/
theorem twinTree_reordered : twinTree.WellFormed ∧ WithinScanLimit twinTree ∧
    Reordered twinTree (twinTree.promote "hwmon1".toList) ∧ (collect twinMachine twinConfig).toOption ≠
      (collect { twinMachine with fs := twinTree.promote "hwmon1".toList } twinConfig).toOption :=
  ⟨twinTree_wellFormed, twinTree_withinScanLimit, Posix.promote_reordered _ _, twinTree_orders_differ⟩

/-- The twins are a tie. -/
theorem twinTree_tied : ¬ (Readable twinMachine twinConfig → TieFree twinMachine twinConfig) := by
  intro htie
  have hall := (collect_orderless_iff twinTree_wellFormed twinTree_withinScanLimit).2 htie
  exact twinTree_orders_differ (hall twinTree _ (.refl twinTree) (Posix.promote_reordered "hwmon1".toList twinTree))

end Tt
