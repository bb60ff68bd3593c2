import TtMetricsExporter.Prometheus
/-!
# Provenance — the source of the Tensix counts in the text

`_populate_tensix` and `_apply_workloads` record where a device's Tensix counts come from.  No family shows it: the text
is the same whatever the sources are (`renderPrometheus_map`).
-/
namespace Tt

open Py (Str)

/-- A device whose Tensix counts come from a source. -/
def withSource (source : Option Str) (d : DeviceTelemetry) : DeviceTelemetry :=
  { d with tensix := { d.tensix with source := source } }

/-- Some Tensix count of the device is known. -/
def HasTensixCount (d : DeviceTelemetry) : Prop :=
  d.tensix.used.isSome ∨ d.tensix.available.isSome ∨ d.tensix.total.isSome ∨ d.tensix.meshRows.isSome ∨
    d.tensix.meshCols.isSome

section
variable {ratio : Int → Int → Numeral}

/-- No writer looks at the source. -/
theorem writer_withSource : ∀ m ∈ metrics ratio, ∀ source d, m.writer (withSource source d) = m.writer d := by
  unfold metrics
  simp only [List.forall_mem_cons]
  repeat apply And.intro (fun _ _ => rfl)
  exact fun m hm => nomatch hm

theorem samples_withSource {m : Metric} (hm : m ∈ metrics ratio) (source : Option Str) (d : DeviceTelemetry) :
    m.samples (withSource source d) = m.samples d := by
  unfold Metric.samples
  rw [writer_withSource m hm source d]
  rfl

theorem family_map {m : Metric} (hm : m ∈ metrics ratio) {erase : DeviceTelemetry → DeviceTelemetry}
    (he : ∀ d, ∃ source, erase d = withSource source d) (devices : List DeviceTelemetry) :
    m.family (devices.map erase) = m.family devices := by
  have hsamples : ∀ d ∈ devices, m.samples (erase d) = m.samples d := by
    intro d _
    obtain ⟨source, hs⟩ := he d
    rw [hs, samples_withSource hm]
  unfold Metric.family
  rw [List.flatMap_map, List.flatMap_congr hsamples]

/-- **The text does not depend on the sources**, whichever devices have which. -/
theorem renderPrometheus_map {erase : DeviceTelemetry → DeviceTelemetry} (he : ∀ d, ∃ source, erase d = withSource source d)
    (devices : List DeviceTelemetry) :
    renderPrometheus ratio (devices.map erase) = renderPrometheus ratio devices := by
  have hmetrics : (metrics ratio).map (·.family (devices.map erase)) = (metrics ratio).map (·.family devices) :=
    List.map_congr_left (fun m hm => family_map hm he devices)
  unfold renderPrometheus families discovered
  rw [hmetrics, List.length_map]

end

/-- **A consumer of the text cannot tell sysfs counts from the profiler's**, whatever else is exported. -/
theorem provenance_hidden (ratio : Int → Int → Numeral) (before after : List DeviceTelemetry) (d : DeviceTelemetry) :
    renderPrometheus ratio (before ++ withSource (some "sysfs".toList) d :: after) =
      renderPrometheus ratio (before ++ withSource (some "metalium_profiler".toList) d :: after) := by
  have he : ∀ d, ∃ source, withSource none d = withSource source d := fun d => ⟨none, rfl⟩
  rw [← renderPrometheus_map he, ← renderPrometheus_map he (before ++ withSource (some "metalium_profiler".toList) d :: after),
    List.map_append, List.map_append]
  rfl

/-- Three cores are in use. -/
def threeCores : DeviceTelemetry := { id := ['0'], tensix := { used := some 3 } }

/-- The two devices differ, and their texts do not. -/
theorem three_cores_alike : HasTensixCount threeCores ∧
    withSource (some "sysfs".toList) threeCores ≠ withSource (some "metalium_profiler".toList) threeCores ∧
    renderPrometheus (fun _ _ => ⟨['1'], by decide⟩) [withSource (some "sysfs".toList) threeCores] =
      renderPrometheus (fun _ _ => ⟨['1'], by decide⟩) [withSource (some "metalium_profiler".toList) threeCores] := by
  have he : ∀ d, ∃ source, withSource none d = withSource source d := fun d => ⟨none, rfl⟩
  refine ⟨.inl rfl, by decide, ?_⟩
  rw [← renderPrometheus_map he, ← renderPrometheus_map he [withSource (some "metalium_profiler".toList) threeCores]]
  rfl

end Tt
