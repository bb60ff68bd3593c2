import TtMetricsExporter.Reordering
/-!
# ReorderedState — what the state roots yield of a tree enumerated in another order

Allocation, janitor and every single record are read by name, so only the two loops of `_read_workloads` see an order.
Their records are merged by a key that ends in the identity: v2 records are told apart by it and come before legacy
ones, so a tie between two legacy records of one key is all that an order can decide (`exported_perm`).
-/
namespace Tt

open Py (Str)
open Posix (Node Path Errno Reordered)
open StateIngestor


section Keys
variable (fs : Node) {d d' : DeviceTelemetry} (hk : deviceKeys d = deviceKeys d')
include hk

theorem firstDeviceDirectory_keys (root : SecureDirectory) (diagnostics : TelemetrySource) :
    firstDeviceDirectory fs root d diagnostics = firstDeviceDirectory fs root d' diagnostics := by
  unfold firstDeviceDirectory
  rw [hk]

theorem readPod_keys (self : StateIngestor) (workloadRoot : SecureDirectory) :
    self.readPod fs d workloadRoot = self.readPod fs d' workloadRoot := by
  funext podUid
  unfold readPod
  simp only [firstDeviceDirectory_keys fs hk]

theorem readAllocation_keys (root : SecureDirectory) : readAllocation fs d root = readAllocation fs d' root := by
  unfold readAllocation
  dsimp only
  rw [firstDeviceDirectory_keys fs hk]

theorem readJanitor_keys (root : SecureDirectory) : readJanitor fs d root = readJanitor fs d' root := by
  unfold readJanitor
  dsimp only
  rw [firstDeviceDirectory_keys fs hk]

theorem readWorkloads_keys (self : StateIngestor) (root : SecureDirectory) :
    self.readWorkloads fs d root = self.readWorkloads fs d' root := by
  unfold readWorkloads readV2 readV2Workloads readLegacy
  rw [funext (readPod_keys fs hk self), firstDeviceDirectory_keys fs hk]

end Keys

section State
variable {fs₁ fs₂ : Node} (h : Reordered fs₁ fs₂)
include h

theorem stateReadText_reordered : SecureDirectory.readText fs₁ = SecureDirectory.readText fs₂ := by
  funext directory name maximumSize diagnostics
  have hread : ∀ path, readOpened (fs₁.at path) maximumSize diagnostics =
      readOpened (fs₂.at path) maximumSize diagnostics := by
    intro path
    have ha := h.at path
    generalize fs₁.at path = n₁ at ha ⊢
    generalize fs₂.at path = n₂ at ha ⊢
    cases ha with
    | none => rfl
    | some ha =>
      cases ha with
      | regular opens hf => rw [hf]
      | _ => rfl
  unfold SecureDirectory.readText osOpen
  rw [h.openat_eq]
  simp only [hread]

theorem readAllocation_reordered : readAllocation fs₁ = readAllocation fs₂ := by
  unfold readAllocation
  rw [firstDeviceDirectory_similar h, stateReadText_reordered h]

theorem readJanitor_reordered : readJanitor fs₁ = readJanitor fs₂ := by
  unfold readJanitor readStateInt
  rw [firstDeviceDirectory_similar h, stateReadText_reordered h]

theorem readPod_reordered (self : StateIngestor) : self.readPod fs₁ = self.readPod fs₂ := by
  unfold readPod
  rw [openDirectory_similar h, firstDeviceDirectory_similar h, stateReadText_reordered h]

theorem readLegacyFile_reordered (self : StateIngestor) : self.readLegacyFile fs₁ = self.readLegacyFile fs₂ := by
  unfold readLegacyFile
  rw [stateReadText_reordered h]

end State

/-- No directory has more entries than are scanned. -/
def WithinScanLimit (fs : Node) : Prop :=
  ∀ path access entries, fs.at path = some (.directory access entries) → entries.length ≤ maximumStateFiles

/-- **Where no directory is cut short, listings are scanned as they are related.** -/
theorem entries_shuffled {L : List Str → List Str → Prop} {F : Posix.Regular → Posix.Regular → Prop} {fs₁ fs₂ : Node}
    (h : Posix.Similar L F fs₁ fs₂) (hnil : L [] []) (hlen : ∀ names names', L names names' →
      names.length = names'.length) (hlimit : WithinScanLimit fs₁) (directory : SecureDirectory)
    (diagnostics : TelemetrySource) : Tally.Shuffled L (directory.entries fs₁ maximumStateFiles diagnostics)
      (directory.entries fs₂ maximumStateFiles diagnostics) := by
  have hl := h.listdir_related directory.path
  unfold SecureDirectory.entries
  cases h₁ : Posix.listdir fs₁ directory.path with
  | error e =>
    rw [h₁] at hl
    generalize Posix.listdir fs₂ directory.path = y at hl ⊢
    cases hl
    exact .after (.of_eq rfl) (fun _ => .pure hnil)
  | ok names =>
    rw [h₁] at hl
    generalize Posix.listdir fs₂ directory.path = y at hl ⊢
    cases hl with
    | @ok _ names' hl =>
      have hshort : names.length ≤ maximumStateFiles := by
        obtain ⟨access, entries, ha, rfl⟩ := Posix.directory_of_listdir h₁
        rw [List.length_map]
        exact hlimit _ _ _ ha
      have hshort' : names'.length ≤ maximumStateFiles := hlen _ _ hl ▸ hshort
      dsimp only
      rw [if_neg (Nat.not_lt.2 hshort), if_neg (Nat.not_lt.2 hshort')]
      exact .pure hl

theorem entries_perm {fs₁ fs₂ : Node} (h : Reordered fs₁ fs₂) (hlimit : WithinScanLimit fs₁)
    (directory : SecureDirectory) (diagnostics : TelemetrySource) :
    Tally.Shuffled List.Perm (directory.entries fs₁ maximumStateFiles diagnostics)
      (directory.entries fs₂ maximumStateFiles diagnostics) :=
  entries_shuffled h (List.Perm.refl _) (fun _ _ hp => hp.length_eq) hlimit directory diagnostics

/-! ## Merging -/

theorem uniqueWorkloads_eq : ∀ (identities : List Str) (l : List Workload), uniqueWorkloads identities l =
    .returned (Ranked.keepFirst (·.workloadId) identities l)
      (List.replicate (l.length - (Ranked.keepFirst (·.workloadId) identities l).length)
        ⟨.metaliumProfilerState, .issue .invalidValue⟩)
  | _, [] => rfl
  | identities, w :: rest => by
    have hle := (Ranked.keepFirst_sublist (·.workloadId) identities rest).length_le
    rw [uniqueWorkloads, Ranked.keepFirst]
    by_cases hw : w.workloadId ∈ identities
    · rw [if_pos hw, if_pos hw, uniqueWorkloads_eq identities rest, List.length_cons, Nat.succ_sub hle,
        List.replicate_succ]
      rfl
    · rw [if_neg hw, if_neg hw, uniqueWorkloads_eq (w.workloadId :: identities) rest, List.length_cons, List.length_cons,
        Nat.add_sub_add_right]
      show Tally.returned _ (List.replicate _ _ ++ []) = _
      rw [List.append_nil]

/-- **Merging counts the records it drops**, and the cut where it makes one. -/
theorem mergeWorkloads_eq (v2 : List (Str × Workload)) (legacy : List Workload) : mergeWorkloads v2 legacy =
    .returned (exported v2 legacy)
      (List.replicate ((exportable v2 legacy).length -
          (Ranked.leaders (·.workloadId) workloadKey (exportable v2 legacy)).length)
        ⟨.metaliumProfilerState, .issue .invalidValue⟩ ++
      if maximumWorkloads < (Ranked.leaders (·.workloadId) workloadKey (exportable v2 legacy)).length then
        [⟨.metaliumProfilerState, .issue .cardinalityLimit⟩] else []) := by
  rw [exported_eq, mergeWorkloads, uniqueWorkloads_eq]
  have hlength : (sortWorkloads (exportable v2 legacy)).length = (exportable v2 legacy).length :=
    (List.perm_insertionSort _ _).length_eq
  rw [hlength]
  show (Tally.returned _ _ : Reading _) >>= _ = _
  rw [Tally.bind_def, Tally.bind]
  by_cases h : maximumWorkloads < (Ranked.keepFirst (·.workloadId) [] (sortWorkloads (exportable v2 legacy))).length
  · rw [if_pos h]
    rw [if_pos (show _ < (Ranked.leaders _ _ _).length from h)]
    rfl
  · rw [if_neg h]
    rw [if_neg (show ¬ _ < (Ranked.leaders _ _ _).length from h)]
    rw [List.take_of_length_le (Nat.le_of_not_lt h)]
    rfl

/-- **A legacy record that is exported but for ties**: no v2 file claims its identity, it is first of its identity, no
v2 record has its key, and few enough identities are ahead of it. -/
structure Leads (v2 : List (Str × Workload)) (legacy : List Workload) (r : Workload) : Prop where
  unclaimed : r.workloadId ∉ v2.map Prod.fst
  first : ∀ x ∈ exportable v2 legacy, x.workloadId = r.workloadId → workloadKey r ≤ workloadKey x
  untied : ∀ x ∈ v2, workloadKey x.2 ≠ workloadKey r
  kept : (Ranked.ahead (·.workloadId) workloadKey (exportable v2 legacy) r).length < maximumWorkloads

/-- **No tie decides the exported list**: a legacy record that leads is the only one with its key. -/
def WorkloadsSettled (v2 : List (Str × Workload)) (legacy : List Workload) : Prop :=
  ∀ r ∈ legacy, Leads v2 legacy r → ∀ r' ∈ legacy, workloadKey r' = workloadKey r → r' = r

section Merge
variable {v2 v2' : List (Str × Workload)} {legacy legacy' : List Workload} (hv : v2.Perm v2') (hl : legacy.Perm legacy')
include hv hl

theorem exportable_perm : (exportable v2 legacy).Perm (exportable v2' legacy') := by
  unfold exportable
  refine (hv.map _).append ?_
  have hclaims : ∀ w : Workload, w.workloadId ∉ v2.map Prod.fst ↔ w.workloadId ∉ v2'.map Prod.fst :=
    fun w => not_congr (hv.map _).mem_iff
  simp only [hclaims]
  exact hl.filter _

/-- **Where no tie decides it, the exported list does not depend on the order** of the accepted records. -/
theorem exported_perm (hd : (v2.map (·.2.workloadId)).Nodup) (hs : WorkloadsSettled v2 legacy) :
    exported v2 legacy = exported v2' legacy' := by
  have hp := exportable_perm hv hl
  refine Ranked.ranking_congr _ _ _ (fun _ _ _ _ => workloadId_of_key_eq) hp (fun x hx => ?_)
  have hlead := List.mem_of_mem_take hx
  have hmem := Ranked.mem_of_mem_leaders _ _ hlead
  by_cases hv2 : ∃ r ∈ v2, workloadKey r.2 = workloadKey x
  · obtain ⟨r, hr, hk⟩ := hv2
    have hd' : (v2'.map (·.2.workloadId)).Nodup := (hv.map _).nodup_iff.1 hd
    obtain ⟨rest, hrest⟩ := @exportable_of_identity v2 legacy hd r hr
    obtain ⟨rest', hrest'⟩ := @exportable_of_identity v2' legacy' hd' r (hv.mem_iff.1 hr)
    rw [← hk, Ranked.head_of_identity _ workloadKey (fun _ _ _ _ => workloadId_of_key_eq) hrest,
      Ranked.head_of_identity _ workloadKey (fun _ _ _ _ => workloadId_of_key_eq) hrest']
  · push Not at hv2
    have hlegacy : ∀ y ∈ exportable v2 legacy, workloadKey y = workloadKey x →
        y ∈ legacy ∧ y.workloadId ∉ v2.map Prod.fst := by
      intro y hy hyx
      refine (mem_exportable.1 hy).resolve_left (fun hy => ?_)
      obtain ⟨r, hr, rfl⟩ := List.mem_map.1 hy
      exact hv2 r hr hyx
    have hleads : Leads v2 legacy x :=
      ⟨(hlegacy x hmem rfl).2, fun y hy hi => Ranked.leader_le _ _ hlead hy hi.symm, hv2, (mem_exported_iff hlead).1 hx⟩
    have hone : ∀ y ∈ exportable v2 legacy, workloadKey y = workloadKey x → y = x :=
      fun y hy hyx => hs x (hlegacy x hmem rfl).1 hleads y (hlegacy y hy hyx).1 hyx
    have hfirst := Ranked.FirstOfKey.of_only workloadKey hmem hone
    have hfirst' := Ranked.FirstOfKey.of_only workloadKey (hp.mem_iff.1 hmem) (fun y hy => hone y (hp.mem_iff.2 hy))
    rw [hfirst.head, hfirst'.head]

/-- **Merging the same records in another order** counts the same, and exports the same where no tie decides it. -/
theorem mergeWorkloads_shuffled (hd : (v2.map (·.2.workloadId)).Nodup) :
    Tally.Shuffled (fun out out' => WorkloadsSettled v2 legacy → out = out') (mergeWorkloads v2 legacy)
      (mergeWorkloads v2' legacy') := by
  have hp := exportable_perm hv hl
  have hleaders : (Ranked.leaders (·.workloadId) workloadKey (exportable v2 legacy)).length =
      (Ranked.leaders (·.workloadId) workloadKey (exportable v2' legacy')).length := by
    simpa using congrArg List.length
      (Ranked.keys_leaders_perm (·.workloadId) workloadKey (fun _ _ _ _ => workloadId_of_key_eq) hp)
  rw [mergeWorkloads_eq, mergeWorkloads_eq, ← hp.length_eq, ← hleaders]
  exact ⟨exported_perm hv hl hd, List.Perm.refl _⟩

end Merge

/-! ## One device -/

section Device
variable {fs₁ fs₂ : Node} (h : Reordered fs₁ fs₂) (self : StateIngestor)

theorem v2Records_keys (fs : Node) {d d' : DeviceTelemetry} (hk : deviceKeys d = deviceKeys d') (root : SecureDirectory) :
    v2Records fs self d root = v2Records fs self d' root := by
  unfold v2Records
  rw [funext (readPod_keys fs hk self)]

theorem legacyRecords_keys (fs : Node) {d d' : DeviceTelemetry} (hk : deviceKeys d = deviceKeys d')
    (root : SecureDirectory) : legacyRecords fs self d root = legacyRecords fs self d' root := by
  unfold legacyRecords
  rw [firstDeviceDirectory_keys fs hk]

/-- **No tie decides the workloads of a device**, under the names its state is kept under. -/
def StateSettled (fs : Node) (device : DeviceTelemetry) : Prop :=
  ∀ root, self.profilerRoot = some root →
    WorkloadsSettled (v2Records fs self device root) (legacyRecords fs self device root)

theorem stateSettled_keys (fs : Node) {d d' : DeviceTelemetry} (hk : deviceKeys d = deviceKeys d') :
    StateSettled self fs d ↔ StateSettled self fs d' := by
  unfold StateSettled
  simp only [v2Records_keys self fs hk, legacyRecords_keys self fs hk]

include h

theorem readV2_shuffled (hlimit : WithinScanLimit fs₁) (device : DeviceTelemetry) (root : SecureDirectory) :
    Tally.Shuffled List.Perm (self.readV2 fs₁ device root) (self.readV2 fs₂ device root) := by
  unfold readV2
  rw [openWorkloadRoot_similar h]
  refine .after (.of_eq rfl) (fun opened => ?_)
  cases opened with
  | none => exact .pure (List.Perm.refl _)
  | some pods =>
    dsimp only
    unfold readV2Workloads
    rw [readPod_reordered h]
    exact (entries_perm h hlimit pods _).bind (fun _ _ hp => Tally.Shuffled.each_perm _ hp)

theorem readLegacy_shuffled (hlimit : WithinScanLimit fs₁) (device : DeviceTelemetry) (root : SecureDirectory) :
    Tally.Shuffled List.Perm (self.readLegacy fs₁ device root) (self.readLegacy fs₂ device root) := by
  unfold readLegacy
  rw [firstDeviceDirectory_similar h]
  refine .after (.of_eq rfl) (fun opened => ?_)
  cases opened with
  | none => exact .pure (List.Perm.refl _)
  | some directory =>
    dsimp only
    rw [readLegacyFile_reordered h]
    exact (entries_perm h hlimit directory _).bind (fun _ _ hp => Tally.Shuffled.each_perm _ hp)

theorem listed_reordered (hlimit : WithinScanLimit fs₁) (directory : SecureDirectory) :
    (listed fs₁ directory).Perm (listed fs₂ directory) :=
  listed_perm (entries_perm h hlimit directory _).value_related

/-- Both orders have the same accepted records. -/
theorem records_reordered (hlimit : WithinScanLimit fs₁) (device : DeviceTelemetry) (root : SecureDirectory) :
    (v2Records fs₁ self device root).Perm (v2Records fs₂ self device root) ∧
      (legacyRecords fs₁ self device root).Perm (legacyRecords fs₂ self device root) := by
  unfold v2Records legacyRecords
  rw [openWorkloadRoot_similar h, readPod_reordered h, firstDeviceDirectory_similar h, readLegacyFile_reordered h]
  exact ⟨List.Perm.flatMap_left _ (fun pods _ => (listed_reordered h hlimit pods).filterMap _),
    List.Perm.flatMap_left _ (fun directory _ => (listed_reordered h hlimit directory).filterMap _)⟩

/-- **The workloads of a device** are the same where no tie decides them. -/
theorem readWorkloads_shuffled (hfs : fs₁.WellFormed) (hlimit : WithinScanLimit fs₁) (device : DeviceTelemetry)
    (root : SecureDirectory) : Tally.Shuffled (fun out out' =>
        WorkloadsSettled (v2Records fs₁ self device root) (legacyRecords fs₁ self device root) → out = out')
      (self.readWorkloads fs₁ device root) (self.readWorkloads fs₂ device root) := by
  have hv2 := (readV2_shuffled h self hlimit device root).ensures
    (P := (· = v2Records fs₁ self device root)) (Q := fun _ => True) (fun _ => value_readV2) (fun _ _ => trivial)
  have hlegacy := (readLegacy_shuffled h self hlimit device root).ensures
    (P := (· = legacyRecords fs₁ self device root)) (Q := fun _ => True) (fun _ => value_readLegacy) (fun _ _ => trivial)
  unfold readWorkloads
  refine hv2.bind ?_
  rintro _ v2' ⟨hv, rfl, -⟩
  refine hlegacy.bind ?_
  rintro _ legacy' ⟨hl, rfl, -⟩
  exact mergeWorkloads_shuffled hv hl (nodup_v2Records hfs)

theorem populateAllocation_shuffled {settled : Prop} {d d' : DeviceTelemetry} (hd : SameDevice settled d d') :
    Tally.Shuffled (SameDevice settled) (self.populateAllocation fs₁ d) (self.populateAllocation fs₂ d') := by
  unfold populateAllocation
  cases self.allocationRoot with
  | none => exact .pure hd
  | some root =>
    have hread : readAllocation fs₁ d root = readAllocation fs₂ d' root := by
      rw [readAllocation_reordered h, readAllocation_keys fs₂ hd.keys]
    refine .after (.of_eq hread) (fun allocation => .pure ⟨hd.name, hd.path, hd.keys, fun hs => ?_⟩)
    rw [hd.same hs]

theorem populateJanitor_shuffled {settled : Prop} {d d' : DeviceTelemetry} (hd : SameDevice settled d d') :
    Tally.Shuffled (SameDevice settled) (self.populateJanitor fs₁ d) (self.populateJanitor fs₂ d') := by
  unfold populateJanitor
  cases self.janitorRoot with
  | none => exact .pure hd
  | some root =>
    have hread : readJanitor fs₁ d root = readJanitor fs₂ d' root := by
      rw [readJanitor_reordered h, readJanitor_keys fs₂ hd.keys]
    refine .after (.of_eq hread) (fun janitor => .pure ⟨hd.name, hd.path, hd.keys, fun hs => ?_⟩)
    rw [hd.same hs]

theorem populateWorkloads_shuffled (hfs : fs₁.WellFormed) (hlimit : WithinScanLimit fs₁) {settled : Prop}
    {d d' : DeviceTelemetry} (hd : SameDevice settled d d') :
    Tally.Shuffled (fun a a' => a.id = a'.id ∧ (settled → StateSettled self fs₁ d → a = a'))
      (self.populateWorkloads fs₁ d) (self.populateWorkloads fs₂ d') := by
  unfold populateWorkloads StateSettled
  cases hroot : self.profilerRoot with
  | none => exact .pure ⟨hd.name, fun hs _ => hd.same hs⟩
  | some root =>
    dsimp only
    rw [← readWorkloads_keys fs₂ hd.keys]
    refine (readWorkloads_shuffled h self hfs hlimit d root).bind (fun out out' hout => .pure ⟨?_, fun hs hset => ?_⟩)
    · obtain ⟨tensix, ht⟩ := applyWorkloads_spec { d with metaliumWorkloads := out }
      obtain ⟨tensix', ht'⟩ := applyWorkloads_spec { d' with metaliumWorkloads := out' }
      rw [ht, ht']
      exact hd.name
    · rw [hd.same hs, hout (hset root rfl)]

/-- **The state of a device** is the same where no tie decides its workloads. -/
theorem populate_shuffled (hfs : fs₁.WellFormed) (hlimit : WithinScanLimit fs₁) {settled : Prop}
    {d d' : DeviceTelemetry} (hd : SameDevice settled d d') :
    Tally.Shuffled (fun a a' => a.id = a'.id ∧ (settled → StateSettled self fs₁ d → a = a'))
      (self.populate fs₁ d) (self.populate fs₂ d') := by
  unfold populate
  refine ((populateAllocation_shuffled h self hd).ensures (populateAllocation_ensures fs₁ self d)
    (Q := fun _ => True) (fun _ _ => trivial)).bind ?_
  rintro a a' ⟨ha, hka, -⟩
  refine ((populateJanitor_shuffled h self ha).ensures (populateJanitor_ensures fs₁ self a)
    (Q := fun _ => True) (fun _ _ => trivial)).bind ?_
  rintro b b' ⟨hb, hkb, -⟩
  rw [stateSettled_keys self fs₁ (hka.symm.trans hkb.symm)]
  exact populateWorkloads_shuffled h self hfs hlimit hb

end Device

end Tt
