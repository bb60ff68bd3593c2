import TtMetricsExporter.Containment
import TtMetricsExporter.Ranked
/-!
# Workloads — what `_read_workloads` exports

The exported list is the `Ranked.ranking` of the exportable records (`value_mergeWorkloads`), so what is kept, what is
dropped and why is read off the ranking's lemmas.  The accepted records themselves are those of the single files:
`v2Records` and `legacyRecords` list them, and a reading that returns has merged exactly these.
-/
namespace Tt

open Py (Str)
open Posix (Node)

abbrev Workload := MetaliumWorkloadTelemetry

/-! ## Merging -/

theorem value_uniqueWorkloads : ∀ (identities : List Str) (l : List Workload),
    (uniqueWorkloads identities l).value = some (Ranked.keepFirst (·.workloadId) identities l)
  | _, [] => rfl
  | identities, w :: rest => by
    rw [uniqueWorkloads, Ranked.keepFirst]
    by_cases h : w.workloadId ∈ identities
    · rw [if_pos h, if_pos h, Tally.value_bind]
      exact value_uniqueWorkloads identities rest
    · rw [if_neg h, if_neg h, Tally.value_bind, value_uniqueWorkloads]
      rfl

/-- The exported list of some accepted records. -/
def exported (v2 : List (Str × Workload)) (legacy : List Workload) : List Workload :=
  Ranked.ranking (·.workloadId) workloadKey maximumWorkloads (exportable v2 legacy)

theorem exported_eq (v2 : List (Str × Workload)) (legacy : List Workload) : exported v2 legacy =
    (Ranked.keepFirst (·.workloadId) [] (sortWorkloads (exportable v2 legacy))).take maximumWorkloads := rfl

/-- **Merging returns the ranking of the exportable records.** -/
theorem value_mergeWorkloads (v2 : List (Str × Workload)) (legacy : List Workload) :
    (mergeWorkloads v2 legacy).value = some (exported v2 legacy) := by
  rw [mergeWorkloads, Tally.value_bind, value_uniqueWorkloads, Option.bind_some]
  split
  · rfl
  · rename_i h
    rw [exported_eq, List.take_of_length_le (Nat.le_of_not_lt h)]
    rfl

theorem fresh_of_key_le {a b : Workload} (h : workloadKey a ≤ workloadKey b) (hb : b.stale = false) :
    a.stale = false := by
  rw [workloadKey, workloadKey, Prod.Lex.toLex_le_toLex] at h
  rw [hb] at h
  rcases h with h | h
  · exact absurd h (by simp)
  · exact h.1

theorem workloadId_of_key_eq {a b : Workload} (h : workloadKey a = workloadKey b) : a.workloadId = b.workloadId := by
  simp only [workloadKey, toLex_inj, Prod.mk.injEq] at h
  exact h.2.2

/-- What the merged list is to the records it was merged from. -/
structure Merged (v2 : List (Str × Workload)) (legacy out : List Workload) : Prop where
  accepted : ∀ w ∈ out, w ∈ v2.map Prod.snd ∨ w ∈ legacy
  distinct : (out.map (·.workloadId)).Nodup
  sorted : out.Pairwise (workloadKey · ≤ workloadKey ·)
  bounded : out.length ≤ 1024
  complete : ∀ r, r ∈ v2.map Prod.snd ∨ r ∈ legacy → r ∉ out →
    (r ∈ legacy ∧ r.workloadId ∈ v2.map Prod.fst) ∨
      (∃ s ∈ out, s.workloadId = r.workloadId ∧ workloadKey s ≤ workloadKey r) ∨
      (out.length = 1024 ∧ ∀ s ∈ out, workloadKey s ≤ workloadKey r)
  fresh_first : ∀ r ∈ exportable v2 legacy, r.stale = false → r.workloadId ∉ out.map (·.workloadId) →
    ∀ s ∈ out, s.stale = false
  first_wins : ∀ s ∈ out, ∀ r ∈ exportable v2 legacy, r.workloadId = s.workloadId → workloadKey s ≤ workloadKey r

theorem mem_exportable {v2 : List (Str × Workload)} {legacy : List Workload} {w : Workload} :
    w ∈ exportable v2 legacy ↔ w ∈ v2.map Prod.snd ∨ (w ∈ legacy ∧ w.workloadId ∉ v2.map Prod.fst) := by
  rw [exportable, List.mem_append, List.mem_filter, decide_eq_true_eq]

theorem merged_exported (v2 : List (Str × Workload)) (legacy : List Workload) : Merged v2 legacy (exported v2 legacy) := by
  have hmem : ∀ w ∈ exported v2 legacy, w ∈ Ranked.leaders (·.workloadId) workloadKey (exportable v2 legacy) :=
    fun w hw => List.mem_of_mem_take hw
  refine ⟨fun w hw => ?_, ?_, ?_, List.length_take_le _ _, fun r hr _ => ?_, fun r hr hf hn s hs => ?_,
    fun s hs r hr he => ?_⟩
  · rcases mem_exportable.1 (Ranked.mem_of_mem_leaders _ _ (hmem w hw)) with h | h
    · exact .inl h
    · exact .inr h.1
  · exact (Ranked.nodup_leaders _ _ _).sublist ((List.take_sublist _ _).map _)
  · exact (Ranked.sorted_leaders _ _ _).sublist (List.take_sublist _ _)
  · by_cases hsup : r ∈ legacy ∧ r.workloadId ∈ v2.map Prod.fst
    · exact .inl hsup
    · refine .inr (Ranked.complete _ _ _ (mem_exportable.2 ?_))
      rcases hr with hr | hr
      · exact .inl hr
      · exact .inr ⟨hr, fun h => hsup ⟨hr, h⟩⟩
  · rcases Ranked.complete (·.workloadId) workloadKey maximumWorkloads hr with ⟨y, hy, hi, -⟩ | ⟨-, hall⟩
    · exact absurd (List.mem_map.2 ⟨y, hy, hi⟩) hn
    · exact fresh_of_key_le (hall s hs) hf
  · exact Ranked.leader_le _ _ (hmem s hs) hr he.symm

/-- **Merge, deduplication and cap**: what is merged from any accepted records, and what a reading of a device's
workloads exports. -/
theorem readWorkloads_merged :
    (∀ (v2 : List (Str × Workload)) (legacy : List Workload),
      ∃ out, (mergeWorkloads v2 legacy).value = some out ∧ Merged v2 legacy out) ∧
    ∀ (fs : Node) (self : StateIngestor) (device : DeviceTelemetry) (root : SecureDirectory) (out : List Workload),
      (self.readWorkloads fs device root).value = some out →
      ∃ v2 legacy, (self.readV2 fs device root).value = some v2 ∧ (self.readLegacy fs device root).value = some legacy ∧
        Merged v2 legacy out := by
  refine ⟨fun v2 legacy => ⟨_, value_mergeWorkloads v2 legacy, merged_exported v2 legacy⟩, ?_⟩
  intro fs self device root out h
  simp only [StateIngestor.readWorkloads, Tally.value_bind, Option.bind_eq_some_iff, value_mergeWorkloads,
    Option.some.injEq] at h
  obtain ⟨v2, hv, legacy, hl, rfl⟩ := h
  exact ⟨v2, legacy, hv, hl, merged_exported v2 legacy⟩

/-! ## The accepted records of a tree -/

section Records
variable (fs : Node) (self : StateIngestor) (device : DeviceTelemetry) (root : SecureDirectory)

/-- The entries of a directory that are looked at. -/
def listed (directory : SecureDirectory) : List Str :=
  ((directory.entries fs maximumStateFiles .metaliumProfilerState).value).getD []

/-- The pods' accepted snapshots, each with the identity it claims. -/
def v2Records : List (Str × Workload) :=
  (StateIngestor.openWorkloadRoot fs root).value.join.toList.flatMap (fun pods =>
    (listed fs pods).filterMap (fun podUid => (self.readPod fs device pods podUid).value.join))

/-- The accepted files of the device's legacy directory. -/
def legacyRecords : List Workload :=
  (StateIngestor.firstDeviceDirectory fs root device .metaliumProfilerState).value.join.toList.flatMap (fun directory =>
    (listed fs directory).filterMap (fun filename => (self.readLegacyFile fs directory filename).value.join))

variable {fs self device root}

theorem value_readV2 {v2 : List (Str × Workload)} (h : (self.readV2 fs device root).value = some v2) :
    v2 = v2Records fs self device root := by
  simp only [StateIngestor.readV2, Tally.value_bind, Option.bind_eq_some_iff] at h
  obtain ⟨d, hd, h⟩ := h
  unfold v2Records
  rw [hd]
  cases d with
  | none =>
    simp only [Tally.value_pure, Option.some.injEq] at h
    simp [← h]
  | some d =>
    simp only [StateIngestor.readV2Workloads, Tally.value_bind, Option.bind_eq_some_iff] at h
    obtain ⟨names, hn, h⟩ := h
    simp only [Option.join_some, Option.toList_some, List.flatMap_singleton, listed, hn, Option.getD_some]
    exact Tally.value_each _ _ _ h

theorem value_readLegacy {legacy : List Workload} (h : (self.readLegacy fs device root).value = some legacy) :
    legacy = legacyRecords fs self device root := by
  simp only [StateIngestor.readLegacy, Tally.value_bind, Option.bind_eq_some_iff] at h
  obtain ⟨d, hd, h⟩ := h
  unfold legacyRecords
  rw [hd]
  cases d with
  | none =>
    simp only [Tally.value_pure, Option.some.injEq] at h
    simp [← h]
  | some d =>
    simp only [Tally.value_bind, Option.bind_eq_some_iff] at h
    obtain ⟨names, hn, h⟩ := h
    simp only [Option.join_some, Option.toList_some, List.flatMap_singleton, listed, hn, Option.getD_some]
    exact Tally.value_each _ _ _ h

/-- **A reading that returns exports the ranking of the tree's accepted records.** -/
theorem value_readWorkloads {out : List Workload} (h : (self.readWorkloads fs device root).value = some out) :
    out = exported (v2Records fs self device root) (legacyRecords fs self device root) := by
  simp only [StateIngestor.readWorkloads, Tally.value_bind, Option.bind_eq_some_iff, value_mergeWorkloads,
    Option.some.injEq] at h
  obtain ⟨v2, hv, legacy, hl, rfl⟩ := h
  rw [value_readV2 hv, value_readLegacy hl]

/-- **A pod's snapshot is exported under the pod directory's name.** -/
theorem workloadId_of_readPod {pods : SecureDirectory} {podUid : Str} {r : Str × Workload}
    (h : (self.readPod fs device pods podUid).value = some (some r)) : r.2.workloadId = podUid := by
  unfold StateIngestor.readPod at h
  split at h
  · simp [recordIssue] at h
  · simp only [Tally.value_bind, Option.bind_eq_some_iff] at h
    obtain ⟨d, -, h⟩ := h
    cases d with
    | none => simp at h
    | some d =>
      simp only [Tally.value_bind, Option.bind_eq_some_iff] at h
      obtain ⟨e, -, h⟩ := h
      cases e with
      | none => simp at h
      | some e =>
        simp only [Tally.value_bind, Option.bind_eq_some_iff] at h
        obtain ⟨c, -, h⟩ := h
        cases c with
        | none => simp at h
        | some c =>
          simp only [Tally.value_bind, Option.bind_eq_some_iff] at h
          obtain ⟨x, -, h⟩ := h
          cases x with
          | none => simp at h
          | some x =>
            simp only [Tally.value_pure, Option.some.injEq] at h
            rw [← h]

theorem nodup_listed (hfs : fs.WellFormed) (directory : SecureDirectory) : (listed fs directory).Nodup := by
  unfold listed SecureDirectory.entries
  cases hl : Posix.listdir fs directory.path with
  | error e => simp [recordOsError, recordIssue]
  | ok names =>
    have hn := (Posix.names_listdir hfs hl).1
    simp only
    split
    · simpa [recordIssue] using hn.sublist (List.take_sublist _ _)
    · simpa using hn

theorem map_filterMap_sublist {α β : Type} {f : α → Option β} {g : β → α} (h : ∀ a b, f a = some b → g b = a) :
    ∀ (l : List α), ((l.filterMap f).map g).Sublist l
  | [] => .slnil
  | a :: l => by
    rw [List.filterMap_cons]
    cases hf : f a with
    | none => exact (map_filterMap_sublist h l).cons a
    | some b =>
      rw [List.map_cons, h a b hf]
      exact (map_filterMap_sublist h l).cons_cons a

/-- **No two v2 records are exported under one identity.** -/
theorem nodup_v2Records (hfs : fs.WellFormed) : ((v2Records fs self device root).map (·.2.workloadId)).Nodup := by
  unfold v2Records
  cases (StateIngestor.openWorkloadRoot fs root).value.join with
  | none => exact List.nodup_nil
  | some pods =>
    rw [Option.toList_some, List.flatMap_singleton]
    refine (nodup_listed hfs pods).sublist (map_filterMap_sublist (fun podUid r h => ?_) _)
    exact workloadId_of_readPod (Option.join_eq_some_iff.1 h)

end Records

/-! ## When a legacy record replaces a v2 record -/

/-- A legacy record that no v2 file's identity suppresses is exported under a v2 record's identity, is strictly ahead of
it, and few enough identities are ahead of both for it to be kept. -/
def Overtaken (v2 : List (Str × Workload)) (legacy : List Workload) (w : Workload) : Prop :=
  ∃ l ∈ legacy, l.workloadId = w.workloadId ∧ l.workloadId ∉ v2.map Prod.fst ∧ workloadKey l < workloadKey w ∧
    (Ranked.ahead (·.workloadId) workloadKey (exportable v2 legacy) l).length < maximumWorkloads

theorem mem_exported_iff {v2 : List (Str × Workload)} {legacy : List Workload} {e : Workload}
    (h : e ∈ Ranked.leaders (·.workloadId) workloadKey (exportable v2 legacy)) : e ∈ exported v2 legacy ↔
      (Ranked.ahead (·.workloadId) workloadKey (exportable v2 legacy) e).length < maximumWorkloads :=
  Ranked.mem_ranking_iff _ _ _ (fun _ _ _ _ => workloadId_of_key_eq) h

/-- The exportable records of a v2 record's identity are the v2 record and then legacy records. -/
theorem exportable_of_identity {v2 : List (Str × Workload)} {legacy : List Workload}
    (hd : (v2.map (·.2.workloadId)).Nodup) {r : Str × Workload} (hr : r ∈ v2) :
    ∃ rest, (exportable v2 legacy).filter (fun x => x.workloadId = r.2.workloadId) = r.2 :: rest := by
  have hone : (v2.map Prod.snd).filter (fun x => x.workloadId = r.2.workloadId) = [r.2] := by
    obtain ⟨before, after, rfl⟩ := List.append_of_mem hr
    simp only [List.map_append, List.map_cons, List.nodup_append, List.nodup_cons, List.mem_cons, List.mem_map] at hd
    obtain ⟨-, ⟨hn, -⟩, hdis⟩ := hd
    have hb : (before.map Prod.snd).filter (fun x => x.workloadId = r.2.workloadId) = [] := by
      rw [List.filter_eq_nil_iff]
      intro x hx
      obtain ⟨y, hy, rfl⟩ := List.mem_map.1 hx
      simpa using hdis _ ⟨y, hy, rfl⟩ _ (.inl rfl)
    have ha : (after.map Prod.snd).filter (fun x => x.workloadId = r.2.workloadId) = [] := by
      rw [List.filter_eq_nil_iff]
      intro x hx
      obtain ⟨y, hy, rfl⟩ := List.mem_map.1 hx
      simpa using fun he => hn ⟨y, hy, he⟩
    rw [List.map_append, List.map_cons, List.filter_append, List.filter_cons_of_pos (by simp), hb, ha]
    rfl
  exact ⟨_, by rw [exportable, List.filter_append, hone]; rfl⟩

theorem exported_identity_iff {v2 : List (Str × Workload)} {legacy : List Workload}
    (hd : (v2.map (·.2.workloadId)).Nodup) {r : Str × Workload} (hr : r ∈ v2) :
    (∀ e ∈ exported v2 legacy, e.workloadId = r.2.workloadId → e = r.2) ↔ ¬ Overtaken v2 legacy r.2 := by
  have hrx : r.2 ∈ exportable v2 legacy := mem_exportable.2 (.inl (List.mem_map_of_mem hr))
  constructor
  · rintro h ⟨l, hl, hi, hsup, hk, hcount⟩
    obtain ⟨e, he, hei, hek⟩ :=
      Ranked.exists_leader (·.workloadId) workloadKey (mem_exportable.2 (.inr ⟨hl, hsup⟩) : l ∈ exportable v2 legacy)
    have hex : e ∈ exported v2 legacy :=
      (mem_exported_iff he).2 (lt_of_le_of_lt (Ranked.ahead_length_le _ _ hek) hcount)
    rw [h e hex (hei.trans hi)] at hek
    exact absurd hk (not_lt_of_ge hek)
  · intro hno e he hi
    have hlead := List.mem_of_mem_take he
    have hle : workloadKey e ≤ workloadKey r.2 := Ranked.leader_le _ _ hlead hrx hi
    rcases mem_exportable.1 (Ranked.mem_of_mem_leaders _ _ hlead) with hv | ⟨hl, hsup⟩
    · obtain ⟨r', hr', rfl⟩ := List.mem_map.1 hv
      rw [List.inj_on_of_nodup_map hd hr' hr hi]
    · rcases lt_or_eq_of_le hle with hlt | heq
      · exact absurd ⟨e, hl, hi, hsup, hlt, (mem_exported_iff hlead).1 he⟩ hno
      · obtain ⟨rest, hrest⟩ := exportable_of_identity hd hr
        refine Ranked.leader_eq_first _ _ hrest (fun y hy => ?_) hlead hi
        have hy' : y ∈ (exportable v2 legacy).filter (fun x => x.workloadId = r.2.workloadId) := by
          rw [hrest]; exact List.mem_cons_of_mem _ hy
        rw [List.mem_filter, decide_eq_true_eq] at hy'
        rw [← heq]
        exact Ranked.leader_le _ _ hlead hy'.1 (hi.trans hy'.2.symm)

/-- **The entry exported under a pod's name is the pod's v2 record exactly when no legacy record overtakes it.** -/
theorem v2_kept_iff {fs : Node} (hfs : fs.WellFormed) {self : StateIngestor} {device : DeviceTelemetry}
    {root : SecureDirectory} {out : List Workload} (hout : (self.readWorkloads fs device root).value = some out)
    {r : Str × Workload} (hr : r ∈ v2Records fs self device root) :
    (∀ e ∈ out, e.workloadId = r.2.workloadId → e = r.2) ↔
      ¬ Overtaken (v2Records fs self device root) (legacyRecords fs self device root) r.2 := by
  rw [value_readWorkloads hout]
  exact exported_identity_iff (nodup_v2Records hfs) hr

/-- A pod whose file claims another identity than the pod's, beside a fresher legacy record of the pod's identity. -/
def overtakenTree : Node := .folder [("profiler", .folder [
  ("v2", .folder [("workloads", .folder [("pod-a", .folder [("0", .folder [("snapshot.state", .file
    "schema_version=2\nworkload_id=train\nsample_timestamp_seconds=100\nactive=1\nprograms_observed=3\ntensix_cores_used=8\n")])])])]),
  ("0", .folder [("old.state", .file
    "schema_version=1\nworkload_id=pod-a\nsample_timestamp_seconds=101\nactive=0\nprograms_observed=0\ntensix_cores_used=0\n")])])]

def profilerDirectory : SecureDirectory := ⟨["profiler".toList]⟩
def profilerIngestor : StateIngestor :=
  { profilerRoot := some profilerDirectory, staleAfterSeconds := 15, nowSeconds := 101 }
def firstDevice : DeviceTelemetry := { id := "0".toList }

/-- What the pod published, under its name. -/
def podRecord : Workload :=
  { workloadId := "pod-a".toList, active := some 1, programsObserved := some 3, tensixCoresUsed := some 8,
    sampleTimestampSeconds := some 100 }

/-- What the legacy file says. -/
def legacyRecord : Workload :=
  { workloadId := "pod-a".toList, active := some 0, programsObserved := some 0, tensixCoresUsed := some 0,
    sampleTimestampSeconds := some 101 }

theorem overtakenTree_wellFormed : overtakenTree.WellFormed := by
  simp [overtakenTree, Node.folder, Node.file, Node.WellFormed, Posix.entriesWellFormed, Posix.ValidName]

theorem overtakenTree_v2 :
    v2Records overtakenTree profilerIngestor firstDevice profilerDirectory = [("train".toList, podRecord)] := by
  decide +kernel

theorem overtakenTree_exported :
    (profilerIngestor.readWorkloads overtakenTree firstDevice profilerDirectory).value = some [legacyRecord] := by
  decide +kernel

/-- **A fresher legacy record replaces the pod's own.** -/
theorem legacy_replaces_v2 : ¬ ∀ r ∈ v2Records overtakenTree profilerIngestor firstDevice profilerDirectory, ∀ out,
    (profilerIngestor.readWorkloads overtakenTree firstDevice profilerDirectory).value = some out →
    ∀ e ∈ out, e.workloadId = r.2.workloadId → e = r.2 := by
  intro h
  have he := h ("train".toList, podRecord) (by simp [overtakenTree_v2]) _ overtakenTree_exported legacyRecord (by simp) rfl
  exact absurd he (by decide)

theorem v2_kept_iff_overtakenTree : (∀ e ∈ [legacyRecord], e.workloadId = podRecord.workloadId → e = podRecord) ↔
    ¬ Overtaken (v2Records overtakenTree profilerIngestor firstDevice profilerDirectory)
      (legacyRecords overtakenTree profilerIngestor firstDevice profilerDirectory) podRecord :=
  v2_kept_iff overtakenTree_wellFormed overtakenTree_exported
    (show ("train".toList, podRecord) ∈ _ by simp [overtakenTree_v2])

end Tt
