import TtMetricsExporter.Raises
import TtMetricsExporter.Workloads
/-!
# Accepted — what every exported workload record satisfies

The bounds that `_parse_workload` checks of a record, kept by the rename to the pod directory's name and by the merge:
whatever `_read_workloads` returns is within them.
-/
namespace Tt

open Py (Str)
open Posix (Node)
open StateIngestor

/-- A number that `_state_non_negative_int` can yield. -/
def Clamped (n : Int) : Prop := 0 ≤ n ∧ n ≤ int64Max

/-- What is checked of a record before it is accepted. -/
structure Accepted (w : Workload) : Prop where
  workloadId : w.workloadId ≠ [] ∧ w.workloadId.length ≤ maximumWorkloadIdBytes
  podNamespace : ∀ s ∈ w.podNamespace, s.length ≤ maximumNamespaceBytes
  podName : ∀ s ∈ w.podName, s.length ≤ maximumPodNameBytes
  containerName : ∀ s ∈ w.containerName, s.length ≤ maximumContainerNameBytes
  active : ∀ n ∈ w.active, 0 ≤ n ∧ n ≤ 1
  programsObserved : ∀ n ∈ w.programsObserved, Clamped n
  tensixCoresUsed : ∃ n, w.tensixCoresUsed = some n ∧ Clamped n
  tensixCoresTotal : ∀ n ∈ w.tensixCoresTotal, Clamped n ∧ 0 < n ∧ ∀ u ∈ w.tensixCoresUsed, u ≤ n
  sampleTimestampSeconds : ∀ n ∈ w.sampleTimestampSeconds, Clamped n

theorem le_of_parseInt64 {s : Str} {n : Int} (h : parseInt64 s = .ok (some n)) : n ≤ int64Max := by
  simp only [parseInt64] at h
  split at h
  · split at h
    · cases h
    · cases h
      exact min_le_right _ _
  · cases h

theorem clamped_stateNonNegativeInt {values : List (Str × Str)} {key : Str} {parsed : Option Int}
    (h : stateNonNegativeInt values key = .ok parsed) : ∀ n ∈ parsed, Clamped n := by
  obtain ⟨found, hf, h⟩ := Posix.ok_of_bind h
  obtain rfl : found.filter (0 ≤ ·) = parsed := Except.ok.inj h
  intro n hn
  obtain ⟨rfl, hp⟩ := Option.filter_eq_some_iff.1 hn
  exact ⟨of_decide_eq_true hp, le_of_parseInt64 hf⟩

theorem boundedLabel_length {value : Option Str} {maximum : Nat} {required : Bool}
    (h : boundedLabel value maximum required = true) : ∀ s ∈ value, s ≠ [] ∧ s.length ≤ maximum := by
  rintro s rfl
  simp only [boundedLabel, Bool.and_eq_true, decide_eq_true_eq] at h
  exact ⟨h.1.1.2, h.1.2⟩

/-- **A record that passes its checks is within their bounds.** -/
theorem accepted_workloadOf {values : List (Str × Str)} {w : Workload} (h : workloadOf values = .ok w)
    (hv : invalidWorkload w = false) : Accepted w := by
  unfold workloadOf at h
  obtain ⟨active, ha, h⟩ := Posix.ok_of_bind h
  obtain ⟨programs, hp, h⟩ := Posix.ok_of_bind h
  obtain ⟨used, hu, h⟩ := Posix.ok_of_bind h
  obtain ⟨total, ht, h⟩ := Posix.ok_of_bind h
  obtain ⟨timestamp, hs, h⟩ := Posix.ok_of_bind h
  obtain rfl := Except.ok.inj h
  simp only [invalidWorkload, Bool.or_eq_false_iff, Bool.not_eq_false'] at hv
  obtain ⟨⟨⟨⟨⟨⟨⟨⟨hid, hns⟩, hpn⟩, hcn⟩, hact⟩, -⟩, huse⟩, -⟩, htot⟩ := hv
  obtain ⟨u, rfl⟩ := Option.isSome_iff_exists.1 (Option.isNone_eq_false_iff.1 huse)
  refine ⟨boundedLabel_length hid _ rfl, fun s h => (boundedLabel_length hns s h).2,
    fun s h => (boundedLabel_length hpn s h).2, fun s h => (boundedLabel_length hcn s h).2, fun n hn => ?_,
    clamped_stateNonNegativeInt hp, ⟨u, rfl, clamped_stateNonNegativeInt hu u rfl⟩, fun n hn => ?_,
    clamped_stateNonNegativeInt hs⟩
  · refine ⟨(clamped_stateNonNegativeInt ha n hn).1, ?_⟩
    obtain rfl := Option.mem_def.1 hn
    simpa using hact
  · have hc := clamped_stateNonNegativeInt ht n hn
    obtain rfl := Option.mem_def.1 hn
    simp only [Option.any_some, Bool.or_eq_false_iff, decide_eq_false_iff_not, not_lt] at htot
    refine ⟨hc, lt_of_le_of_ne hc.1 (Ne.symm htot.1), fun v hv => ?_⟩
    obtain rfl : u = v := Option.some.inj hv
    exact htot.2

/-- The freshness of a record is decided last. -/
theorem Accepted.withStale {w : Workload} (h : Accepted w) (stale : Bool) : Accepted { w with stale := stale } :=
  ⟨h.workloadId, h.podNamespace, h.podName, h.containerName, h.active, h.programsObserved, h.tensixCoresUsed,
    h.tensixCoresTotal, h.sampleTimestampSeconds⟩

theorem Accepted.rename {w : Workload} (h : Accepted w) {podUid : Str}
    (hc : validComponent podUid maximumWorkloadIdBytes = true) : Accepted { w with workloadId := podUid } := by
  simp only [validComponent, Bool.and_eq_true, decide_eq_true_eq] at hc
  exact ⟨⟨hc.1.1.1.1.1.2, hc.1.1.1.1.2⟩, h.podNamespace, h.podName, h.containerName, h.active, h.programsObserved,
    h.tensixCoresUsed, h.tensixCoresTotal, h.sampleTimestampSeconds⟩

/-! ## Reading -/

theorem ensures_none {α : Type} {P : α → Prop} : (pure none : Reading (Option α)).Ensures (fun r => ∀ x ∈ r, P x) :=
  .pure (fun _ hx => absurd hx (Option.not_mem_none _))

theorem ensures_some {α : Type} {P : α → Prop} {a : α} (h : P a) :
    (pure (some a) : Reading (Option α)).Ensures (fun r => ∀ x ∈ r, P x) :=
  .pure (fun _ hx => Option.some.inj hx ▸ h)

theorem parseWorkload_accepted (self : StateIngestor) (content : Str) (schema : Int) (diagnostics : TelemetrySource) :
    (self.parseWorkload content schema diagnostics).Ensures (fun w => ∀ x ∈ w, Accepted x) := by
  unfold parseWorkload
  split
  · exact .next (fun _ => ensures_none)
  · refine .next (fun s => ?_)
    split
    · exact .next (fun _ => ensures_none)
    · refine .bind (.lift _) (fun w hw => ?_)
      split
      · exact .next (fun _ => ensures_none)
      · rename_i hv
        have ha := (accepted_workloadOf hw (by simpa using hv)).withStale
        simp only
        split
        · exact .next (fun _ => .next (fun _ => ensures_some (ha _)))
        · exact .next (fun _ => ensures_some (ha _))

theorem readLegacyFile_accepted (fs : Node) (self : StateIngestor) (directory : SecureDirectory) (filename : Str) :
    (self.readLegacyFile fs directory filename).Ensures (fun w => ∀ x ∈ w, Accepted x) := by
  unfold readLegacyFile
  split
  · exact ensures_none
  · refine .next (fun content => ?_)
    cases content with
    | none => exact ensures_none
    | some content => exact parseWorkload_accepted self content 1 _

theorem readPod_accepted (fs : Node) (self : StateIngestor) (device : DeviceTelemetry) (pods : SecureDirectory)
    (podUid : Str) : (self.readPod fs device pods podUid).Ensures (fun r => ∀ x ∈ r, Accepted x.2) := by
  unfold readPod
  simp only
  split
  · exact .next (fun _ => ensures_none)
  · rename_i hc
    refine .next (fun pod => ?_)
    cases pod with
    | none => exact ensures_none
    | some pod =>
      refine .next (fun directory => ?_)
      cases directory with
      | none => exact ensures_none
      | some directory =>
        refine .next (fun content => ?_)
        cases content with
        | none => exact ensures_none
        | some content =>
          refine .bind (parseWorkload_accepted self content 2 _) (fun w hw => ?_)
          cases w with
          | none => exact ensures_none
          | some w => exact ensures_some ((hw w rfl).rename (by simpa using hc))

/-- **Every record that is exported was accepted, and is within the bounds.** -/
theorem readWorkloads_accepted (fs : Node) (self : StateIngestor) (device : DeviceTelemetry) (root : SecureDirectory) :
    (self.readWorkloads fs device root).Ensures (fun out => ∀ w ∈ out, Accepted w) := by
  intro out h
  have hm := merged_exported (v2Records fs self device root) (legacyRecords fs self device root)
  rw [← value_readWorkloads h] at hm
  intro w hw
  rcases hm.accepted w hw with hw | hw
  · obtain ⟨r, hr, rfl⟩ := List.mem_map.1 hw
    obtain ⟨pods, -, hr⟩ := List.mem_flatMap.1 hr
    obtain ⟨podUid, -, hr⟩ := List.mem_filterMap.1 hr
    exact readPod_accepted fs self device pods podUid _ (Option.join_eq_some_iff.1 hr) r rfl
  · obtain ⟨directory, -, hw⟩ := List.mem_flatMap.1 hw
    obtain ⟨filename, -, hw⟩ := List.mem_filterMap.1 hw
    exact readLegacyFile_accepted fs self directory filename _ (Option.join_eq_some_iff.1 hw) w rfl

end Tt
