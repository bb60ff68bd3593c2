import TtMetricsExporter.Accepted
/-!
# Tensix — the counts that the profiler's records add to a device

`_apply_workloads` fills the counts that sysfs left out.  What it fills is consistent with the total of the device
exactly when the records leave room for it (`consistent_iff`): the sum of their cores is capped at the largest total
among the records, not at the total that sysfs supplied.
-/
namespace Tt

open Py (Str)

/-- The fresh records of a list: the stale ones add nothing. -/
def freshWorkloads (workloads : List Workload) : List Workload := workloads.filter (fun w => !w.stale)

/-- The cores of the fresh active records, together. -/
def freshCores (workloads : List Workload) : Int :=
  (((freshWorkloads workloads).filter (fun w => w.active.any (· ≠ 0))).map (fun w => w.tensixCoresUsed.getD 0)).sum

/-- The totals that the fresh records report. -/
def freshTotals (workloads : List Workload) : List Int := (freshWorkloads workloads).filterMap (·.tensixCoresTotal)

/-- The counts of a device before and after `_apply_workloads`.  A count is filled where it was missing. -/
structure Consistent (before after : TensixTelemetry) : Prop where
  used_kept : ∀ n ∈ before.used, after.used = some n
  available_kept : ∀ n ∈ before.available, after.available = some n
  total_kept : ∀ n ∈ before.total, after.total = some n
  used_filled : before.used = none → ∀ used ∈ after.used, ∀ total ∈ after.total, 0 ≤ used ∧ used ≤ total
  available_filled : before.available = none → ∀ available ∈ after.available,
    0 ≤ available ∧ ∀ total ∈ after.total, available ≤ total
  balanced : before.used = none → before.available = none → before.total = none →
    ∀ used ∈ after.used, ∀ available ∈ after.available, ∀ total ∈ after.total, used + available = total

/-- The total that sysfs supplied, if any, has room for what is filled: for the cores in use, or else for every total
that caps them, and for what the largest of these totals leaves free. -/
def LeavesRoom (tensix : TensixTelemetry) (workloads : List Workload) : Prop :=
  ∀ total ∈ tensix.total,
    (tensix.used = none → freshCores workloads ≤ total ∨
      (freshTotals workloads ≠ [] ∧ ∀ limit ∈ freshTotals workloads, limit ≤ total)) ∧
    (tensix.available = none → ∀ limit ∈ freshTotals workloads, limit ≤ freshCores workloads + total)

/-! ## What is filled -/

/-- What the cores in use are reported as. -/
def cappedCores (workloads : List Workload) : Int :=
  match (freshTotals workloads).max? with
  | some limit => min (freshCores workloads) limit
  | none => freshCores workloads

theorem applyWorkloads_stale {device : DeviceTelemetry} (h : freshWorkloads device.metaliumWorkloads = []) :
    applyWorkloads device = device := by
  unfold applyWorkloads
  exact if_pos h

/-- **The counts after the records were applied**: those of sysfs, else those of the records. -/
theorem applyWorkloads_counts {device : DeviceTelemetry} (h : freshWorkloads device.metaliumWorkloads ≠ []) :
    (applyWorkloads device).tensix.used = some (device.tensix.used.getD (cappedCores device.metaliumWorkloads)) ∧
    (applyWorkloads device).tensix.total = device.tensix.total.or (freshTotals device.metaliumWorkloads).max? ∧
    (applyWorkloads device).tensix.available = device.tensix.available.or
      ((freshTotals device.metaliumWorkloads).max?.map
        (fun limit => max 0 (limit - cappedCores device.metaliumWorkloads))) := by
  unfold freshWorkloads at h
  unfold applyWorkloads cappedCores freshTotals freshCores freshWorkloads
  simp only [h, if_false]
  generalize ((device.metaliumWorkloads.filter (fun w => !w.stale)).filterMap (·.tensixCoresTotal)).max? = limit
  generalize device.tensix = tensix
  rcases tensix with ⟨used, available, total⟩
  cases limit <;> cases used <;> cases total <;> cases available <;> simp

section Accepted
variable {workloads : List Workload} (hw : ∀ w ∈ workloads, Accepted w)
include hw

theorem freshCores_nonneg : 0 ≤ freshCores workloads := by
  refine List.sum_nonneg (fun n hn => ?_)
  obtain ⟨w, hm, rfl⟩ := List.mem_map.1 hn
  obtain ⟨u, hu, hc⟩ := (hw w (List.mem_of_mem_filter (List.mem_of_mem_filter hm))).tensixCoresUsed
  rw [hu]
  exact hc.1

theorem freshTotals_pos : ∀ limit ∈ freshTotals workloads, 0 < limit := by
  intro limit hl
  obtain ⟨w, hm, ht⟩ := List.mem_filterMap.1 hl
  exact ((hw w (List.mem_of_mem_filter hm)).tensixCoresTotal limit ht).2.1

theorem cappedCores_nonneg : 0 ≤ cappedCores workloads := by
  unfold cappedCores
  have hs := freshCores_nonneg hw
  cases hm : (freshTotals workloads).max? with
  | none => exact hs
  | some limit =>
    have hl := freshTotals_pos hw limit (List.max?_mem hm)
    exact le_min hs hl.le

end Accepted

/-- The reported cores stay below a bound exactly when the cores themselves or the totals that cap them do. -/
theorem cappedCores_le_iff {workloads : List Workload} {bound : Int} : cappedCores workloads ≤ bound ↔
    freshCores workloads ≤ bound ∨ (freshTotals workloads ≠ [] ∧ ∀ limit ∈ freshTotals workloads, limit ≤ bound) := by
  unfold cappedCores
  cases hm : (freshTotals workloads).max? with
  | none =>
    have hn := List.max?_eq_none_iff.1 hm
    simp [hn]
  | some limit =>
    have hne : freshTotals workloads ≠ [] := List.ne_nil_of_mem (List.max?_mem hm)
    obtain ⟨hmem, hle⟩ := List.max?_eq_some_iff.1 hm
    rw [min_le_iff]
    refine or_congr_right ⟨fun h => ⟨hne, fun l hl => (hle l hl).trans h⟩, fun h => h.2 limit hmem⟩

theorem cappedCores_of_max {workloads : List Workload} {limit : Int} (hm : (freshTotals workloads).max? = some limit) :
    cappedCores workloads = min (freshCores workloads) limit := by
  unfold cappedCores
  rw [hm]

/-- What the largest total leaves free stays below a bound exactly when every total does with the cores added. -/
theorem free_le_iff {workloads : List Workload} {limit bound : Int} (hm : (freshTotals workloads).max? = some limit)
    (hb : 0 ≤ bound) : max 0 (limit - cappedCores workloads) ≤ bound ↔
      ∀ l ∈ freshTotals workloads, l ≤ freshCores workloads + bound := by
  obtain ⟨hmem, hle⟩ := List.max?_eq_some_iff.1 hm
  rw [cappedCores_of_max hm]
  constructor
  · intro h l hl
    have := hle l hl
    omega
  · intro h
    have := h limit hmem
    omega

/-- **Filled counts are consistent exactly when the total leaves room for them.** -/
theorem consistent_iff (device : DeviceTelemetry) (ht : ∀ total ∈ device.tensix.total, 0 ≤ total)
    (hw : ∀ w ∈ device.metaliumWorkloads, Accepted w) :
    Consistent device.tensix (applyWorkloads device).tensix ↔ LeavesRoom device.tensix device.metaliumWorkloads := by
  by_cases hf : freshWorkloads device.metaliumWorkloads = []
  · rw [applyWorkloads_stale hf]
    have hcores : freshCores device.metaliumWorkloads = 0 := by rw [freshCores, hf]; rfl
    have htotals : freshTotals device.metaliumWorkloads = [] := by rw [freshTotals, hf]; rfl
    refine iff_of_true ⟨fun _ h => h, fun _ h => h, fun _ h => h, ?_, ?_, ?_⟩ (fun total h => ⟨fun _ => ?_, fun _ => ?_⟩)
    · intro h used hu
      rw [h] at hu
      cases hu
    · intro h available ha
      rw [h] at ha
      cases ha
    · intro h _ _ used hu
      rw [h] at hu
      cases hu
    · exact .inl (by rw [hcores]; exact ht total h)
    · rw [htotals]
      exact fun _ hl => absurd hl List.not_mem_nil
  · obtain ⟨hu, hto, ha⟩ := applyWorkloads_counts hf
    have hnonneg := cappedCores_nonneg hw
    constructor
    · intro h total htot
      have hafter := h.total_kept total htot
      refine ⟨fun hnone => ?_, fun hnone limit hl => ?_⟩
      · have hfill := h.used_filled hnone _ hu total hafter
        rw [hnone, Option.getD_none] at hfill
        exact cappedCores_le_iff.1 hfill.2
      · obtain ⟨m, hm⟩ := Option.ne_none_iff_exists'.1
          (fun hn => List.ne_nil_of_mem hl (List.max?_eq_none_iff.1 hn))
        rw [hnone, Option.none_or, hm, Option.map_some] at ha
        have hfill := (h.available_filled hnone _ ha).2 total hafter
        exact (free_le_iff hm (ht total htot)).1 hfill limit hl
    · intro h
      refine ⟨fun n hn => ?_, fun n hn => ?_, fun n hn => ?_, fun hnone used huse total htot => ?_,
        fun hnone available hav => ?_, fun hnu hna hnt used huse available hav total htot => ?_⟩
      · rw [hu, Option.mem_def.1 hn, Option.getD_some]
      · rw [ha, Option.mem_def.1 hn, Option.some_or]
      · rw [hto, Option.mem_def.1 hn, Option.some_or]
      · rw [hu, hnone, Option.getD_none, Option.mem_def, Option.some.injEq] at huse
        subst huse
        refine ⟨hnonneg, ?_⟩
        rw [hto] at htot
        cases hdt : device.tensix.total with
        | none =>
          rw [hdt, Option.none_or] at htot
          rw [cappedCores_of_max htot]
          exact min_le_right _ _
        | some sysfs =>
          rw [hdt, Option.some_or, Option.mem_def, Option.some.injEq] at htot
          subst htot
          exact cappedCores_le_iff.2 ((h sysfs hdt).1 hnone)
      · rw [ha, hnone, Option.none_or] at hav
        obtain ⟨m, hm, rfl⟩ := Option.map_eq_some_iff.1 hav
        refine ⟨le_max_left _ _, fun total htot => ?_⟩
        rw [hto] at htot
        cases hdt : device.tensix.total with
        | none =>
          rw [hdt, Option.none_or, hm, Option.mem_def, Option.some.injEq] at htot
          have hpos := freshTotals_pos hw m (List.max?_mem hm)
          omega
        | some sysfs =>
          rw [hdt, Option.some_or, Option.mem_def, Option.some.injEq] at htot
          subst htot
          exact (free_le_iff hm (ht sysfs hdt)).2 ((h sysfs hdt).2 hnone)
      · rw [hu, hnu, Option.getD_none, Option.mem_def, Option.some.injEq] at huse
        rw [hto, hnt, Option.none_or] at htot
        rw [ha, hna, Option.none_or, Option.mem_def.1 htot, Option.map_some, Option.mem_def, Option.some.injEq] at hav
        have hcap := cappedCores_of_max htot
        omega

/-! A device whose sysfs reports ten cores, under a record of a mesh of sixty-four. -/

def widerValues : List (Str × Str) :=
  [("workload_id".toList, "train".toList), ("sample_timestamp_seconds".toList, "100".toList),
    ("active".toList, "1".toList), ("programs_observed".toList, "1".toList),
    ("tensix_cores_used".toList, "20".toList), ("tensix_cores_total".toList, "64".toList)]

def widerWorkload : Workload where
  workloadId := "train".toList
  active := some 1
  programsObserved := some 1
  tensixCoresUsed := some 20
  tensixCoresTotal := some 64
  sampleTimestampSeconds := some 100

def widerDevice : DeviceTelemetry where
  tensix := { total := some 10 }
  metaliumWorkloads := [widerWorkload]

theorem accepted_widerWorkload : ∀ w ∈ widerDevice.metaliumWorkloads, Accepted w := by
  intro w hw
  obtain rfl := List.mem_singleton.1 hw
  exact accepted_workloadOf (show workloadOf widerValues = .ok widerWorkload by decide +kernel) (by decide +kernel)

theorem widerDevice_exceeds : ¬ Consistent widerDevice.tensix (applyWorkloads widerDevice).tensix := by
  intro h
  have := (h.used_filled rfl 20 (by decide) 10 (by decide)).2
  omega

theorem consistent_iff_widerDevice : Consistent widerDevice.tensix (applyWorkloads widerDevice).tensix ↔
    LeavesRoom widerDevice.tensix widerDevice.metaliumWorkloads :=
  consistent_iff widerDevice (by decide) accepted_widerWorkload

end Tt
