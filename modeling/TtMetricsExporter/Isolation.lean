import TtMetricsExporter.Workloads
/-!
# Isolation — what a workload can do to the others

A workload writes below its own pod directory only.  Two profiler trees that differ only there have the same legacy
records and the same v2 records of every other pod.  What still differs is the pod's own record, and the identity its
file claims: a legacy record with that identity is suppressed.  Outside the pod's name and such contested identities the
exported lists are one list, up to what the cap displaces (`isolated`).
-/
namespace Tt

open Py (Str)
open Posix (Node Agree AgreeAt DiffersOnlyAt)

/-! ## Records of trees that differ in one pod -/

section Trees
variable {fs₁ fs₂ : Node} {root : SecureDirectory} {p : Str}
  (h : DiffersOnlyAt fs₁ fs₂ root.path ["v2".toList, "workloads".toList, p])
include h

theorem related_openWorkloadRoot_of : Tally.Related
    (Option.Rel (fun d₁ d₂ : SecureDirectory => d₁ = d₂ ∧ DiffersOnlyAt fs₁ fs₂ d₁.path [p]))
    (StateIngestor.openWorkloadRoot fs₁ root) (StateIngestor.openWorkloadRoot fs₂ root) := by
  unfold StateIngestor.openWorkloadRoot
  refine (related_openDirectory_of (P := fun q => DiffersOnlyAt fs₁ fs₂ q ["workloads".toList, p]) _
    h.next.1 h.next.2).bind (fun d₁ d₂ hd => ?_)
  cases hd with
  | none => exact Tally.Related.pure .none
  | some hd =>
    obtain ⟨rfl, hd⟩ := hd
    exact related_openDirectory_of (P := fun q => DiffersOnlyAt fs₁ fs₂ q [p]) _ hd.next.1 hd.next.2

/-- **The other pods' records are the same.** -/
theorem v2Records_others (self : StateIngestor) (device : DeviceTelemetry) :
    (v2Records fs₁ self device root).filter (fun r => r.2.workloadId ≠ p) =
      (v2Records fs₂ self device root).filter (fun r => r.2.workloadId ≠ p) := by
  have hr := (related_openWorkloadRoot_of h).join
  unfold v2Records
  generalize (StateIngestor.openWorkloadRoot fs₁ root).value.join = d₁ at hr
  generalize (StateIngestor.openWorkloadRoot fs₂ root).value.join = d₂ at hr
  cases hr with
  | none => rfl
  | some hr =>
    rename_i pods _
    obtain ⟨rfl, hr⟩ := hr
    have hl : listed fs₁ pods = listed fs₂ pods := by
      rw [listed, listed, entries_congr hr.listdir_eq]
    rw [Option.toList_some, List.flatMap_singleton, List.flatMap_singleton, hl, List.filter_filterMap,
      List.filter_filterMap]
    refine List.filterMap_congr (fun podUid _ => ?_)
    by_cases hp : podUid = p
    · have hnone : ∀ fs : Node, (self.readPod fs device pods podUid).value.join.filter
          (fun r => decide (r.2.workloadId ≠ p)) = none := by
        intro fs
        cases hv : (self.readPod fs device pods podUid).value.join with
        | none => rfl
        | some r =>
          have hid := workloadId_of_readPod (Option.join_eq_some_iff.1 hv)
          simp [Option.filter, hid, hp]
      rw [hnone, hnone]
    · rw [readPod_congr self device (hr.other hp)]

/-- **The legacy records are the same.** -/
theorem readLegacy_eq_of (self : StateIngestor) (device : DeviceTelemetry) :
    self.readLegacy fs₁ device root = self.readLegacy fs₂ device root := by
  let P := fun q => Agree fs₁ fs₂ q ∨ DiffersOnlyAt fs₁ fs₂ q ["workloads".toList, p]
  have hfirst : Tally.Related (Option.Rel (fun d₁ d₂ : SecureDirectory => d₁ = d₂ ∧ P d₁.path))
      (StateIngestor.firstDeviceDirectory fs₁ root device .metaliumProfilerState)
      (StateIngestor.firstDeviceDirectory fs₂ root device .metaliumProfilerState) := by
    refine Tally.Related.first (fun candidate _ => ?_)
    by_cases hc : candidate = "v2".toList
    · subst hc
      exact related_openDirectory_of (P := P) _ h.next.1 (fun ho => .inr (h.next.2 ho))
    · exact related_openDirectory_of (P := P) _ ((h.other hc).opened true) (fun _ => .inl (h.other hc).below)
  unfold StateIngestor.readLegacy
  refine (hfirst.bind (fun d₁ d₂ hd => ?_)).eq
  cases hd with
  | none => exact Tally.Related.refl _
  | some hd =>
    rename_i directory _
    obtain ⟨rfl, hd⟩ := hd
    have hlist : Posix.listdir fs₁ directory.path = Posix.listdir fs₂ directory.path := by
      rcases hd with hd | hd
      · exact Posix.listdir_congr hd
      · exact hd.listdir_eq
    have hfile : self.readLegacyFile fs₁ directory = self.readLegacyFile fs₂ directory := by
      funext filename
      rcases hd with hd | hd
      · exact readLegacyFile_congr self (hd.entry filename)
      · by_cases hf : filename = "workloads".toList
        · subst hf
          rfl
        · exact readLegacyFile_congr self (hd.other hf)
    simp only [entries_congr hlist, hfile]
    exact Tally.Related.refl _

end Trees

/-! ## The contested identities -/

/-- The identities other than the pod's own that its accepted snapshot claims and that an accepted legacy record has
which no other pod claims. -/
def contested (v2 : List (Str × Workload)) (legacy : List Workload) (p : Str) : List Str :=
  ((v2.filter (fun r => r.2.workloadId = p)).map Prod.fst).filter (fun i =>
    i ≠ p ∧ i ∈ legacy.map (·.workloadId) ∧ i ∉ (v2.filter (fun r => r.2.workloadId ≠ p)).map Prod.fst)

theorem length_contested_le {v2 : List (Str × Workload)} (hd : (v2.map (·.2.workloadId)).Nodup) (legacy : List Workload)
    (p : Str) : (contested v2 legacy p).length ≤ 1 := by
  refine le_trans (List.length_filter_le _ _) ?_
  rw [List.length_map]
  have hn : ((v2.filter (fun r => r.2.workloadId = p)).map (·.2.workloadId)).Nodup :=
    hd.sublist (List.filter_sublist.map _)
  have hp : ∀ i ∈ (v2.filter (fun r => r.2.workloadId = p)).map (·.2.workloadId), i ∈ [p] := by
    intro i hi
    obtain ⟨r, hr, rfl⟩ := List.mem_map.1 hi
    simpa using (List.mem_filter.1 hr).2
  simpa using (List.subperm_of_subset hn hp).length_le

/-- Outside the pod's name and the contested identities, only the other pods' claims decide what is exportable. -/
theorem outside_exportable (v2 : List (Str × Workload)) (legacy : List Workload) {p : Str} {excluded : List Str}
    (hp : p ∈ excluded) (hc : ∀ i ∈ contested v2 legacy p, i ∈ excluded) :
    Ranked.outside (·.workloadId) excluded (exportable v2 legacy) =
      Ranked.outside (·.workloadId) excluded (exportable (v2.filter (fun r => r.2.workloadId ≠ p)) legacy) := by
  unfold Ranked.outside exportable
  rw [List.filter_append, List.filter_append, List.filter_filter, List.filter_filter]
  congr 1
  · rw [List.filter_map, List.filter_map, List.filter_filter]
    congr 1
    refine List.filter_congr (fun r _ => ?_)
    by_cases hr : r.2.workloadId = p
    · simp [hr, hp]
    · simp [hr]
  · refine List.filter_congr (fun l hl => ?_)
    by_cases hx : l.workloadId ∈ excluded
    · simp [hx]
    · have hiff : l.workloadId ∈ v2.map Prod.fst ↔
          l.workloadId ∈ (v2.filter (fun r => r.2.workloadId ≠ p)).map Prod.fst := by
        constructor
        · intro hm
          by_contra hn
          obtain ⟨r, hr, hi⟩ := List.mem_map.1 hm
          have hrp : r.2.workloadId = p := by
            by_contra hne
            exact hn (List.mem_map.2 ⟨r, List.mem_filter.2 ⟨hr, decide_eq_true hne⟩, hi⟩)
          have hlp : l.workloadId ≠ p := fun he => hx (he ▸ hp)
          refine hx (hc _ (List.mem_filter.2 ⟨?_, decide_eq_true ⟨hlp, List.mem_map_of_mem hl, hn⟩⟩))
          exact List.mem_map.2 ⟨r, List.mem_filter.2 ⟨hr, decide_eq_true hrp⟩, hi⟩
        · intro hm
          obtain ⟨r, hr, hi⟩ := List.mem_map.1 hm
          exact List.mem_map.2 ⟨r, (List.mem_filter.1 hr).1, hi⟩
      simp [hx, hiff]

/-! ## The exported lists -/

/-- Outside some identities two exported lists are one, but for at most `k` records that a full list has no room for. -/
structure Isolated (excluded : List Str) (k : Nat) (out₁ out₂ : List Workload) : Prop where
  aligned : Ranked.outside (·.workloadId) excluded out₁ <+: Ranked.outside (·.workloadId) excluded out₂ ∨
    Ranked.outside (·.workloadId) excluded out₂ <+: Ranked.outside (·.workloadId) excluded out₁
  first : (Ranked.outside (·.workloadId) excluded out₁).length < (Ranked.outside (·.workloadId) excluded out₂).length →
    out₁.length = maximumWorkloads ∧
      (Ranked.outside (·.workloadId) excluded out₂).length ≤ (Ranked.outside (·.workloadId) excluded out₁).length + k
  second : (Ranked.outside (·.workloadId) excluded out₂).length < (Ranked.outside (·.workloadId) excluded out₁).length →
    out₂.length = maximumWorkloads ∧
      (Ranked.outside (·.workloadId) excluded out₁).length ≤ (Ranked.outside (·.workloadId) excluded out₂).length + k

/-- **A workload's snapshot affects no identity but its own and the contested ones it claims.** -/
theorem isolated {fs₁ fs₂ : Node} (hw₁ : fs₁.WellFormed) (hw₂ : fs₂.WellFormed) {root : SecureDirectory} {p : Str}
    (h : DiffersOnlyAt fs₁ fs₂ root.path ["v2".toList, "workloads".toList, p]) {self : StateIngestor}
    {device : DeviceTelemetry} {out₁ out₂ : List Workload}
    (h₁ : (self.readWorkloads fs₁ device root).value = some out₁)
    (h₂ : (self.readWorkloads fs₂ device root).value = some out₂) :
    let t₁ := contested (v2Records fs₁ self device root) (legacyRecords fs₁ self device root) p
    let t₂ := contested (v2Records fs₂ self device root) (legacyRecords fs₂ self device root) p
    let t := (t₁ ++ t₂).dedup
    Isolated (p :: t) (1 + t.length) out₁ out₂ ∧ t₁.length ≤ 1 ∧ t₂.length ≤ 1 := by
  intro t₁ t₂ t
  have hl : legacyRecords fs₁ self device root = legacyRecords fs₂ self device root := by
    simp only [StateIngestor.readWorkloads, Tally.value_bind, Option.bind_eq_some_iff] at h₁
    obtain ⟨v2, -, legacy, hlegacy, -⟩ := h₁
    rw [← value_readLegacy hlegacy]
    exact value_readLegacy (readLegacy_eq_of h self device ▸ hlegacy)
  have hout : Ranked.outside (·.workloadId) (p :: t)
        (exportable (v2Records fs₁ self device root) (legacyRecords fs₁ self device root)) =
      Ranked.outside (·.workloadId) (p :: t)
        (exportable (v2Records fs₂ self device root) (legacyRecords fs₂ self device root)) := by
    have hp : p ∈ p :: t := List.mem_cons_self
    have ht : ∀ i ∈ t₁ ++ t₂, i ∈ p :: t := fun i hi => List.mem_cons_of_mem p (List.mem_dedup.2 hi)
    have e₁ := outside_exportable (v2Records fs₁ self device root) (legacyRecords fs₁ self device root)
      hp (fun i hi => ht i (List.mem_append_left t₂ hi))
    have e₂ := outside_exportable (v2Records fs₂ self device root) (legacyRecords fs₂ self device root)
      hp (fun i hi => ht i (List.mem_append_right t₁ hi))
    rw [e₁, e₂, v2Records_others h self device, hl]
  have hlen : (p :: t).length = 1 + t.length := by rw [List.length_cons, Nat.add_comm]
  rw [value_readWorkloads h₁, value_readWorkloads h₂, ← hlen]
  refine ⟨⟨Ranked.ranked_outside _ _ _ hout, Ranked.outside_ranking_shorter _ _ _ hout,
    Ranked.outside_ranking_shorter _ _ _ hout.symm⟩, ?_, ?_⟩
  · exact length_contested_le (nodup_v2Records hw₁) _ p
  · exact length_contested_le (nodup_v2Records hw₂) _ p

/-- A pod with a snapshot, beside a legacy record. -/
def claimingProfiler (snapshot : String) : Node := .folder [
  ("v2", .folder [("workloads", .folder [("pod-a", .folder [("0", .folder [("snapshot.state", .file snapshot)])])])]),
  ("0", .folder [("old.state", .file
    "schema_version=1\nworkload_id=train\nsample_timestamp_seconds=100\nactive=1\nprograms_observed=0\ntensix_cores_used=0\n")])]

def claimingTree (snapshot : String) : Node := .folder [("profiler", claimingProfiler snapshot)]

/-- Two snapshots of one pod; the second one claims the legacy record's identity. -/
def ownSnapshot : String :=
  "schema_version=2\nworkload_id=mine\nsample_timestamp_seconds=100\nactive=1\nprograms_observed=3\ntensix_cores_used=8\n"
def claimingSnapshot : String :=
  "schema_version=2\nworkload_id=train\nsample_timestamp_seconds=100\nactive=1\nprograms_observed=3\ntensix_cores_used=8\n"

def claimingRecord : Workload :=
  { workloadId := "pod-a".toList, active := some 1, programsObserved := some 3, tensixCoresUsed := some 8,
    sampleTimestampSeconds := some 100 }
def trainRecord : Workload :=
  { workloadId := "train".toList, active := some 1, programsObserved := some 0, tensixCoresUsed := some 0,
    sampleTimestampSeconds := some 100 }

theorem claimingTree_wellFormed (snapshot : String) : (claimingTree snapshot).WellFormed := by
  simp [claimingTree, claimingProfiler, Node.folder, Node.file, Node.WellFormed, Posix.entriesWellFormed,
    Posix.ValidName]

theorem claimingTree_differs (s₁ s₂ : String) :
    DiffersOnlyAt (claimingTree s₁) (claimingTree s₂) profilerDirectory.path
      ["v2".toList, "workloads".toList, "pod-a".toList] :=
  ⟨claimingProfiler s₁, claimingProfiler s₂, Posix.at_folder _ _ _ [], Posix.at_folder _ _ _ [],
    .folder _ _ (.folder _ _ (.folder _ _ (.here _ _)))⟩

theorem ownSnapshot_exported :
    (profilerIngestor.readWorkloads (claimingTree ownSnapshot) firstDevice profilerDirectory).value =
      some [claimingRecord, trainRecord] := by
  decide +kernel

theorem claimingSnapshot_exported :
    (profilerIngestor.readWorkloads (claimingTree claimingSnapshot) firstDevice profilerDirectory).value =
      some [claimingRecord] := by
  decide +kernel

/-- **A claimed identity is lost without any cap**: outside the pod's own name the lists are not one. -/
theorem claimed_identity_lost : ¬ ∀ (fs₁ fs₂ : Node) (root : SecureDirectory) (p : Str), fs₁.WellFormed → fs₂.WellFormed →
    DiffersOnlyAt fs₁ fs₂ root.path ["v2".toList, "workloads".toList, p] →
    ∀ (self : StateIngestor) (device : DeviceTelemetry) (out₁ out₂ : List Workload),
      (self.readWorkloads fs₁ device root).value = some out₁ →
      (self.readWorkloads fs₂ device root).value = some out₂ → Isolated [p] 1 out₁ out₂ := by
  intro h
  have hi := h _ _ profilerDirectory "pod-a".toList (claimingTree_wellFormed claimingSnapshot)
    (claimingTree_wellFormed ownSnapshot) (claimingTree_differs _ _) profilerIngestor firstDevice _ _
    claimingSnapshot_exported ownSnapshot_exported
  exact absurd (hi.first (by decide)).1 (by decide)

theorem isolated_claimingTree :
    let t₁ := contested (v2Records (claimingTree claimingSnapshot) profilerIngestor firstDevice profilerDirectory)
      (legacyRecords (claimingTree claimingSnapshot) profilerIngestor firstDevice profilerDirectory) "pod-a".toList
    let t₂ := contested (v2Records (claimingTree ownSnapshot) profilerIngestor firstDevice profilerDirectory)
      (legacyRecords (claimingTree ownSnapshot) profilerIngestor firstDevice profilerDirectory) "pod-a".toList
    let t := (t₁ ++ t₂).dedup
    Isolated ("pod-a".toList :: t) (1 + t.length) [claimingRecord] [claimingRecord, trainRecord] ∧
      t₁.length ≤ 1 ∧ t₂.length ≤ 1 :=
  isolated (claimingTree_wellFormed claimingSnapshot) (claimingTree_wellFormed ownSnapshot) (claimingTree_differs _ _)
    claimingSnapshot_exported ownSnapshot_exported

end Tt
