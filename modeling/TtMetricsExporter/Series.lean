import TtMetricsExporter.Prometheus
/-!
# Series — when a rendered text names a series twice

Every family has its own name and every device its own `device` label, so two samples of one series come from one metric
and one device.  Within these a metric's samples all carry the same label names (`Metric.Uniform`), so what is left to
compare are the values shown: `Metric.Distinct`.
-/
namespace Tt

open Py (Str strInt)
open Exposition (Sample Family SameSeries NoDuplicateSeries isNameChar)
open Tt.Metric

/-! ## The texts of the metric table -/

/-- Some strings and their characters, which the kernel can look at. -/
inductive Spelled : List String → List Str → Prop where
  | nil : Spelled [] []
  | cons {c : Str} {strings : List String} {cs : List Str} (h : Spelled strings cs) :
      Spelled (String.ofList c :: strings) (c :: cs)

theorem Spelled.toList_eq : ∀ {strings : List String} {cs : List Str}, Spelled strings cs →
    strings.map String.toList = cs
  | _, _, .nil => rfl
  | _, _, .cons h => by rw [List.map_cons, String.toList_ofList, h.toList_eq]

theorem Spelled.forall_mem {strings : List String} {cs : List Str} {P : Str → Prop} (h : Spelled strings cs)
    (hp : ∀ c ∈ cs, P c) : ∀ s ∈ strings, P s.toList := by
  intro s hs
  exact hp _ (h.toList_eq ▸ List.mem_map_of_mem hs)

section Table
variable (ratio : Int → Int → Numeral)

theorem metrics_names : ∃ cs, Spelled ("tt_devices_discovered" :: (metrics ratio).map (·.name)) cs ∧ cs.Nodup ∧
    ∀ c ∈ cs, c ≠ [] ∧ c.all isNameChar = true := by
  apply Exists.intro
  apply And.intro
  · simp only [metrics, List.map_cons, List.map_nil]
    repeat apply Spelled.cons
    exact Spelled.nil
  · decide +kernel

set_option maxRecDepth 2000 in
theorem metrics_helps : ∃ cs, Spelled ("Number of Tenstorrent sysfs devices discovered." :: (metrics ratio).map (·.help)) cs ∧
    ∀ c ∈ cs, '\n' ∉ c := by
  apply Exists.intro
  apply And.intro
  · simp only [metrics, List.map_cons, List.map_nil]
    repeat apply Spelled.cons
    exact Spelled.nil
  · decide +kernel

theorem metrics_types : ∃ cs, Spelled ("gauge" :: (metrics ratio).map (·.type)) cs ∧ ∀ c ∈ cs, '\n' ∉ c := by
  apply Exists.intro
  apply And.intro
  · simp only [metrics, List.map_cons, List.map_nil]
    repeat apply Spelled.cons
    exact Spelled.nil
  · decide +kernel

end Table
/-! ## Label schemes -/

def deviceLabelNames : List String := ["device", "architecture", "board_type", "pci_bdf"]

/-- Label names that go with the device's: they are distinct, and written in name characters. -/
structure Scheme (names : List String) : Prop where
  nodup : ((deviceLabelNames ++ names).map String.toList).Nodup
  chars : ∀ n ∈ deviceLabelNames ++ names, n.toList.all isNameChar = true

/-- Every sample of the metric has these label names, and a value on one line. -/
structure Metric.Uniform (m : Metric) (names : List String) : Prop where
  scheme : Scheme names
  labels : ∀ d, ∀ x ∈ m.writer d, x.1.map Prod.fst = names
  values : ∀ d, ∀ x ∈ m.writer d, '\n' ∉ x.2

/-- The values that labels show. -/
def shownValues (labels : Labels) : List Str := labels.map (fun l => shown l.2)

/-- No two samples of the device show the same values. -/
def Metric.Distinct (m : Metric) (d : DeviceTelemetry) : Prop :=
  (m.writer d).Pairwise (fun x y => shownValues x.1 ≠ shownValues y.1)

theorem map_fst_showLabels (d : DeviceTelemetry) (labels : Labels) :
    (showLabels d labels).map Prod.fst = (deviceLabelNames ++ labels.map Prod.fst).map String.toList := by
  simp [showLabels, deviceLabels, deviceLabelNames, label, Function.comp_def]

theorem map_snd_showLabels (d : DeviceTelemetry) (labels : Labels) :
    (showLabels d labels).map Prod.snd = shownValues (deviceLabels d) ++ shownValues labels := by
  simp [showLabels, shownValues, Function.comp_def]

theorem eq_of_map_eq {α β : Type} : ∀ {xs ys : List (α × β)}, xs.map Prod.fst = ys.map Prod.fst →
    xs.map Prod.snd = ys.map Prod.snd → xs = ys
  | [], [], _, _ => rfl
  | [], _ :: _, h, _ => by cases h
  | _ :: _, [], h, _ => by cases h
  | x :: xs, y :: ys, hf, hs => by
    simp only [List.map_cons, List.cons.injEq] at hf hs
    rw [Prod.ext hf.1 hs.1, eq_of_map_eq hf.2 hs.2]

section Samples
variable {m : Metric} {names : List String} (h : m.Uniform names)
include h

/-- **Two samples of one metric are of one series exactly when they show the same values.** -/
theorem sameSeries_samples {d d' : DeviceTelemetry} {x y : Labels × Str} (hx : x ∈ m.writer d) (hy : y ∈ m.writer d') :
    SameSeries ⟨m.name.toList, showLabels d x.1, x.2⟩ ⟨m.name.toList, showLabels d' y.1, y.2⟩ ↔
      shownValues (deviceLabels d) ++ shownValues x.1 = shownValues (deviceLabels d') ++ shownValues y.1 := by
  have hfst : (showLabels d x.1).map Prod.fst = (showLabels d' y.1).map Prod.fst := by
    rw [map_fst_showLabels, map_fst_showLabels, h.labels d x hx, h.labels d' y hy]
  rw [Exposition.sameSeries_iff hfst (by rw [map_fst_showLabels, h.labels d x hx]; exact h.scheme.nodup),
    ← map_snd_showLabels, ← map_snd_showLabels]
  refine (and_iff_right rfl).trans ⟨fun he => ?_, eq_of_map_eq hfst⟩
  show (showLabels d x.1).map Prod.snd = (showLabels d' y.1).map Prod.snd
  exact congrArg (List.map Prod.snd) he

theorem pairwise_samples (d : DeviceTelemetry) :
    (m.samples d).Pairwise (fun a b => ¬ SameSeries a b) ↔ m.Distinct d := by
  unfold Metric.samples Metric.Distinct
  rw [List.pairwise_map]
  refine List.Pairwise.iff_of_mem (fun {x y} hx hy => not_congr ?_)
  rw [sameSeries_samples h hx hy, List.append_cancel_left_eq]

/-- Samples of devices with different names are of different series. -/
theorem not_sameSeries_of_ne {d d' : DeviceTelemetry} (hne : shown (some d.id) ≠ shown (some d'.id)) {a b : Sample}
    (ha : a ∈ m.samples d) (hb : b ∈ m.samples d') : ¬ SameSeries a b := by
  obtain ⟨x, hx, rfl⟩ := List.mem_map.1 ha
  obtain ⟨y, hy, rfl⟩ := List.mem_map.1 hb
  rw [sameSeries_samples h hx hy]
  intro he
  exact hne (List.cons.inj he).1

theorem valid_samples (hn : m.name.toList ≠ [] ∧ m.name.toList.all isNameChar = true) (d : DeviceTelemetry) :
    ∀ s ∈ m.samples d, s.Valid := by
  intro s hs
  obtain ⟨x, hx, rfl⟩ := List.mem_map.1 hs
  refine ⟨hn.1, hn.2, ?_, h.values d x hx⟩
  intro l hl
  obtain ⟨n, hn, he⟩ := List.mem_map.1 (map_fst_showLabels d x.1 ▸ List.mem_map_of_mem (f := Prod.fst) hl)
  rw [← he]
  exact h.scheme.chars n (h.labels d x hx ▸ hn)

end Samples

/-! ## The document -/

theorem pairwise_family {m : Metric} {names : List String} (h : m.Uniform names) {devices : List DeviceTelemetry}
    (hd : (devices.map (fun d => shown (some d.id))).Nodup) :
    (m.family devices).samples.Pairwise (fun a b => ¬ SameSeries a b) ↔ ∀ d ∈ devices, m.Distinct d := by
  show (devices.flatMap m.samples).Pairwise _ ↔ _
  rw [List.pairwise_flatMap]
  simp only [pairwise_samples h]
  refine and_iff_left ((List.pairwise_map.1 hd).imp ?_)
  intro d d' hne a ha b hb
  exact not_sameSeries_of_ne h hne ha hb

theorem name_of_mem_family {m : Metric} {devices : List DeviceTelemetry} {s : Sample}
    (hs : s ∈ (m.family devices).samples) : s.name = m.name.toList := by
  obtain ⟨d, -, hs⟩ := List.mem_flatMap.1 hs
  obtain ⟨x, -, rfl⟩ := List.mem_map.1 hs
  rfl

theorem line_strInt (n : Int) : '\n' ∉ strInt n := by
  intro h
  rcases Py.mem_strInt h with hc | hc
  · cases hc
  · exact absurd (Py.isAsciiDigit_iff.1 hc) (by decide)

section Document
variable {ratio : Int → Int → Numeral} (hu : ∀ m ∈ metrics ratio, ∃ names, m.Uniform names)
include hu

theorem families_valid (devices : List DeviceTelemetry) : ∀ f ∈ families ratio devices, f.Valid := by
  obtain ⟨names, hns, -, hnames⟩ := metrics_names ratio
  obtain ⟨helps, hhs, hhelps⟩ := metrics_helps ratio
  obtain ⟨types, hts, htypes⟩ := metrics_types ratio
  have hn := hns.forall_mem hnames
  have hh := hhs.forall_mem hhelps
  have ht := hts.forall_mem htypes
  rw [List.forall_mem_cons] at hn hh ht
  unfold families
  rw [List.forall_mem_cons, List.forall_mem_map]
  constructor
  · refine ⟨Exposition.not_mem_of_isNameChar hn.1.2, hh.1, ht.1, fun s hs => ?_⟩
    rw [List.mem_singleton.1 hs]
    exact ⟨hn.1.1, hn.1.2, nofun, line_strInt devices.length⟩
  · intro m hm
    have hname := hn.2 m.name (List.mem_map_of_mem hm)
    refine ⟨Exposition.not_mem_of_isNameChar hname.2, hh.2 _ (List.mem_map_of_mem hm), ht.2 _ (List.mem_map_of_mem hm), ?_⟩
    intro s hs
    obtain ⟨d, -, hs⟩ := List.mem_flatMap.1 hs
    obtain ⟨scheme, hm⟩ := hu m hm
    exact valid_samples hm hname d s hs

/-- **A text names a series twice exactly when a device shows the same values twice in one metric.** -/
theorem noDuplicateSeries_iff {devices : List DeviceTelemetry}
    (hd : (devices.map (fun d => shown (some d.id))).Nodup) :
    NoDuplicateSeries (renderPrometheus ratio devices) ↔ ∀ m ∈ metrics ratio, ∀ d ∈ devices, m.Distinct d := by
  obtain ⟨names, hns, hnd, -⟩ := metrics_names ratio
  rw [← hns.toList_eq, List.map_cons, List.nodup_cons, List.map_map] at hnd
  have hv := families_valid hu devices
  unfold NoDuplicateSeries renderPrometheus
  rw [Exposition.samples_document (show families ratio devices ≠ [] from List.cons_ne_nil _ _) hv]
  unfold families
  rw [List.flatMap_cons, List.pairwise_append, List.pairwise_flatMap, List.forall_mem_map, List.pairwise_map]
  have hfirst : (discovered devices).samples.Pairwise (fun a b => ¬ SameSeries a b) := List.pairwise_singleton _ _
  have hrest : ∀ a ∈ (discovered devices).samples, ∀ b ∈ ((metrics ratio).map (·.family devices)).flatMap Family.samples,
      ¬ SameSeries a b := by
    intro a ha b hb hab
    rw [List.mem_singleton.1 ha] at hab
    obtain ⟨f, hf, hb⟩ := List.mem_flatMap.1 hb
    obtain ⟨m, hm, rfl⟩ := List.mem_map.1 hf
    refine hnd.1 (List.mem_map.2 ⟨m, hm, ?_⟩)
    exact (name_of_mem_family hb).symm.trans hab.1.symm
  have hcross : (metrics ratio).Pairwise (fun m m' => ∀ a ∈ (m.family devices).samples,
      ∀ b ∈ (m'.family devices).samples, ¬ SameSeries a b) := by
    refine (List.pairwise_map.1 hnd.2).imp ?_
    intro m m' hne a ha b hb hab
    exact hne ((name_of_mem_family ha).symm.trans (hab.1.trans (name_of_mem_family hb)))
  rw [and_iff_right hfirst, and_iff_left hrest, and_iff_left hcross]
  refine forall₂_congr (fun m hm => ?_)
  obtain ⟨scheme, hm⟩ := hu m hm
  exact pairwise_family hm hd

end Document
/-! ## The metrics -/

theorem scheme_of {names : List String} (h : ∃ cs, Spelled (deviceLabelNames ++ names) cs ∧ cs.Nodup ∧
    ∀ c ∈ cs, c.all isNameChar = true) : Scheme names := by
  obtain ⟨cs, hs, hd, hc⟩ := h
  exact ⟨hs.toList_eq ▸ hd, hs.forall_mem hc⟩

/-- A device of which nothing is known: it shows which names the label lists have. -/
def blank : DeviceTelemetry := { id := [] }

/-- The label names of the metrics, beside the device's. -/
def schemes : List (List String) :=
  [[], (infoLabels blank).map Prod.fst, (firmwareLabels blank).map Prod.fst, ["clock"],
    (sensorLabels ⟨[], none, [], 0⟩).map Prod.fst, (resourceLabels {}).map Prod.fst, ["state", "speed"], ["state"],
    (powerLabels blank).map Prod.fst, ["counter"], ["type", "controller_layout"], ["topology", "active_regions"],
    (workloadLabels {}).map Prod.fst, ["fault_code", "fault_reason"],
    (linkLabels {}).map Prod.fst, ["link"],
    ["claim_namespace", "claim_name", "claim_uid", "pod_namespace", "pod_name", "container_name"],
    ["state", "quarantine_reason", "last_scrub_status", "last_reset_status"]]

theorem schemes_valid : ∀ names ∈ schemes, Scheme names := by
  unfold schemes
  repeat
    refine List.forall_mem_cons.2 ⟨scheme_of ?_, ?_⟩
    · apply Exists.intro
      apply And.intro
      · repeat apply Spelled.cons
        exact Spelled.nil
      · decide +kernel
  exact nofun

section Uniform
variable {name help type : String}

theorem uniform_listing {α : Type} {items : DeviceTelemetry → List α} {labels : α → Labels} {value : α → Str}
    {names : List String} (hs : names ∈ schemes) (hl : ∀ d, ∀ x ∈ items d, (labels x).map Prod.fst = names)
    (hv : ∀ d, ∀ x ∈ items d, '\n' ∉ value x) :
    ∃ names, (listing name help type items labels value).Uniform names := by
  refine ⟨names, schemes_valid names hs, fun d y hy => ?_, fun d y hy => ?_⟩
  · obtain ⟨x, hx, rfl⟩ := List.mem_map.1 hy
    exact hl d x hx
  · obtain ⟨x, hx, rfl⟩ := List.mem_map.1 hy
    exact hv d x hx

theorem uniform_optional {getter : DeviceTelemetry → Option Int} :
    ∃ names, (Metric.optional name help type getter).Uniform names :=
  uniform_listing (show [] ∈ schemes by simp [schemes]) (fun _ _ _ => rfl) (fun _ _ _ => line_strInt _)

theorem uniform_info {labels : DeviceTelemetry → Option Labels} {names : List String} (hs : names ∈ schemes)
    (hl : ∀ d ls, labels d = some ls → ls.map Prod.fst = names) : ∃ names, (info name help labels).Uniform names :=
  uniform_listing hs (fun d ls h => hl d ls (Option.mem_toList.1 h)) (fun _ _ _ => by decide)

theorem uniform_workload {value : MetaliumWorkloadTelemetry → Option Str} (hv : ∀ w v, value w = some v → '\n' ∉ v) :
    ∃ names, (workload name help value).Uniform names := by
  refine uniform_listing (show (workloadLabels {}).map Prod.fst ∈ schemes by simp [schemes]) (fun _ _ _ => rfl) ?_
  intro d x hx
  obtain ⟨w, -, h⟩ := List.mem_filterMap.1 hx
  obtain ⟨v, hv', rfl⟩ := Option.map_eq_some_iff.1 h
  exact hv w v hv'

theorem uniform_optionalWorkload {field : MetaliumWorkloadTelemetry → Option Int} {freshOnly : Bool} :
    ∃ names, (optionalWorkload name help field freshOnly).Uniform names := by
  refine uniform_workload (fun w v h => ?_)
  split at h
  · cases h
  · obtain ⟨n, -, rfl⟩ := Option.map_eq_some_iff.1 h
    exact line_strInt n

end Uniform

theorem line_flag (b : Bool) : '\n' ∉ flag b := by cases b <;> decide

theorem line_occupancy {ratio : Int → Int → Numeral} {w : MetaliumWorkloadTelemetry} {v : Str}
    (h : occupancy ratio w = some v) : '\n' ∉ v := by
  unfold occupancy at h
  split at h
  · split at h
    · cases h
    · cases h
      exact (ratio _ _).line
  · cases h

theorem eq_of_ite {α : Type} {c : Prop} [Decidable c] {a b : α} (h : (if c then some a else none) = some b) : b = a := by
  split at h
  · exact (Option.some.inj h).symm
  · cases h

/-- **Every metric has one scheme of labels.** -/
theorem metrics_uniform (ratio : Int → Int → Numeral) : ∀ m ∈ metrics ratio, ∃ names, m.Uniform names := by
  have hone : '\n' ∉ ['1'] := by decide
  have hat : ∀ i names, schemes[i]? = some names → names ∈ schemes := fun _ _ h => List.mem_of_getElem? h
  simp only [metrics, List.forall_mem_cons, uniform_optional, uniform_optionalWorkload, true_and, and_true,
    List.not_mem_nil, false_imp_iff, implies_true]
  refine ⟨?deviceInfo, ?devicePresent, ?firmware, ?clocks, ?sensors, ?resources, ?linkSpeeds, ?linkWidths, ?power,
    ?counters, ?memory, ?tensix, ?active, ?stale, ?occupancy, ?health, ?links, ?rated, ?allocation, ?janitor⟩
  case deviceInfo | devicePresent => exact uniform_info (hat 1 _ rfl) (fun d ls h => by cases h; rfl)
  case firmware => exact uniform_info (hat 2 _ rfl) (fun d ls h => by cases h; rfl)
  case clocks => exact uniform_listing (hat 3 _ rfl) (fun _ _ _ => rfl) (fun _ _ _ => line_strInt _)
  case sensors => exact uniform_listing (hat 4 _ rfl) (fun _ _ _ => rfl) (fun _ _ _ => line_strInt _)
  case resources => exact uniform_listing (hat 5 _ rfl) (fun _ _ _ => rfl) (fun _ _ _ => line_strInt _)
  case linkSpeeds => exact uniform_listing (hat 6 _ rfl) (fun _ _ _ => rfl) (fun _ _ _ => hone)
  case linkWidths => exact uniform_listing (hat 7 _ rfl) (fun _ _ _ => rfl) (fun _ _ _ => line_strInt _)
  case power => exact uniform_info (hat 8 _ rfl) (fun d ls h => by cases h; rfl)
  case counters => exact uniform_listing (hat 9 _ rfl) (fun _ _ _ => rfl) (fun _ _ _ => line_strInt _)
  case memory => exact uniform_info (hat 10 _ rfl) (fun d ls h => by rw [eq_of_ite h]; rfl)
  case tensix => exact uniform_info (hat 11 _ rfl) (fun d ls h => by rw [eq_of_ite h]; rfl)
  case active => exact uniform_workload (fun w v h => by cases h; exact line_flag _)
  case stale => exact uniform_workload (fun w v h => by cases h; exact line_flag _)
  case occupancy => exact uniform_workload (fun w v h => line_occupancy h)
  case health => exact uniform_info (hat 13 _ rfl) (fun d ls h => by rw [eq_of_ite h]; rfl)
  case links => exact uniform_listing (hat 14 _ rfl) (fun _ _ _ => rfl) (fun _ _ _ => hone)
  case rated => exact uniform_listing (hat 15 _ rfl) (fun _ _ _ => rfl) (fun _ _ _ => line_strInt _)
  case allocation => exact uniform_info (hat 16 _ rfl) (fun d ls h => by rw [eq_of_ite h]; rfl)
  case janitor => exact uniform_info (hat 17 _ rfl) (fun d ls h => by rw [eq_of_ite h]; rfl)

/-! ## One device -/

/-- What every device of a collection has: distinct names within each list it reads from one place. -/
structure Sound (d : DeviceTelemetry) : Prop where
  resources : (d.pciResources.map (·.index)).Nodup
  counters : (d.pcieCounters.map (fun c => shown (some c.name))).Nodup
  workloads : (d.metaliumWorkloads.map (fun w => shown (some w.workloadId))).Nodup

section Distinct
variable {name help type : String} {d : DeviceTelemetry}

theorem distinct_listing {α : Type} {items : DeviceTelemetry → List α} {labels : α → Labels} {value : α → Str} :
    (listing name help type items labels value).Distinct d ↔
      (items d).Pairwise (fun x y => shownValues (labels x) ≠ shownValues (labels y)) := by
  unfold Metric.Distinct listing
  rw [List.pairwise_map]

theorem distinct_optional {getter : DeviceTelemetry → Option Int} : (Metric.optional name help type getter).Distinct d := by
  unfold Metric.optional
  rw [distinct_listing]
  cases getter d <;> simp

theorem distinct_info {labels : DeviceTelemetry → Option Labels} : (info name help labels).Distinct d := by
  unfold info
  rw [distinct_listing]
  cases labels d <;> simp

theorem distinct_workload {value : MetaliumWorkloadTelemetry → Option Str} (h : Sound d) :
    (workload name help value).Distinct d := by
  unfold workload
  rw [distinct_listing, List.pairwise_filterMap]
  refine (List.pairwise_map.1 h.workloads).imp ?_
  intro w w' hne x hx y hy he
  obtain ⟨v, -, rfl⟩ := Option.map_eq_some_iff.1 hx
  obtain ⟨v', -, rfl⟩ := Option.map_eq_some_iff.1 hy
  exact hne (List.cons.inj he).1

theorem distinct_optionalWorkload {field : MetaliumWorkloadTelemetry → Option Int} {freshOnly : Bool} (h : Sound d) :
    (optionalWorkload name help field freshOnly).Distinct d := distinct_workload h

end Distinct

/-- Values of which no two show the same name. -/
def NamedApart {α : Type} (values : List (String × α)) : Prop :=
  values.Pairwise (fun x y => shown (some x.1.toList) ≠ shown (some y.1.toList))

/-- Values present among distinctly named ones are distinctly named. -/
theorem namedApart_present {α : Type} {pairs : List (String × Option α)}
    (h : (pairs.map Prod.fst).Pairwise (fun s t => shown (some s.toList) ≠ shown (some t.toList))) :
    NamedApart (present pairs) := by
  unfold NamedApart present
  rw [List.pairwise_filterMap]
  refine (List.pairwise_map.1 h).imp ?_
  intro p q hne x hx y hy
  obtain ⟨a, -, rfl⟩ := Option.map_eq_some_iff.1 hx
  obtain ⟨b, -, rfl⟩ := Option.map_eq_some_iff.1 hy
  exact hne

theorem shown_of_ne {s : Str} (h : s ≠ []) : shown (some s) = s := by
  unfold shown
  rw [Option.getD_some, if_neg h]

/-- **The samples of a sound device differ but for its sensors and links.** -/
theorem distinct_iff {ratio : Int → Int → Numeral} {d : DeviceTelemetry} (h : Sound d) :
    (∀ m ∈ metrics ratio, m.Distinct d) ↔
      d.hwmonSensors.Pairwise (fun s t => shownValues (sensorLabels s) ≠ shownValues (sensorLabels t)) ∧
      d.interconnectLinks.Pairwise (fun l k => shownValues (linkLabels l) ≠ shownValues (linkLabels k)) ∧
      (ratedLinks d).Pairwise (fun l k => shown (some l.1.name) ≠ shown (some k.1.name)) := by
  simp only [metrics, List.forall_mem_cons, distinct_optional, distinct_info, distinct_workload h,
    distinct_optionalWorkload h, distinct_listing, true_and, and_true, List.not_mem_nil, false_imp_iff, implies_true]
  have hnames : ["ai", "axi", "arc"].Pairwise (fun s t => shown (some s.toList) ≠ shown (some t.toList)) := by
    decide +kernel
  have hstates : ["current", "max"].Pairwise (fun s t => shown (some s.toList) ≠ shown (some t.toList)) := by
    decide +kernel
  have hclocks : NamedApart (clocks d) := namedApart_present hnames
  have hspeeds : NamedApart (linkSpeeds d) := namedApart_present hstates
  have hwidths : NamedApart (linkWidths d) := namedApart_present hstates
  have hresources : d.pciResources.Pairwise (fun x y => shownValues (resourceLabels x) ≠ shownValues (resourceLabels y)) := by
    refine (List.pairwise_map.1 h.resources).imp ?_
    intro x y hne he
    have hi : shown (some (strInt x.index)) = shown (some (strInt y.index)) := (List.cons.inj he).1
    rw [shown_of_ne (Py.strInt_ne_nil _), shown_of_ne (Py.strInt_ne_nil _)] at hi
    exact hne (Py.strInt_natCast_inj hi)
  have hcounters : d.pcieCounters.Pairwise (fun x y =>
      shownValues [label "counter" (some x.name)] ≠ shownValues [label "counter" (some y.name)]) := by
    refine (List.pairwise_map.1 h.counters).imp ?_
    intro x y hne he
    exact hne (List.cons.inj he).1
  rw [and_iff_right (hclocks.imp (fun hne he => hne (List.cons.inj he).1)), and_iff_right hresources,
    and_iff_right (hspeeds.imp (fun hne he => hne (List.cons.inj he).1)),
    and_iff_right (hwidths.imp (fun hne he => hne (List.cons.inj he).1)), and_iff_right hcounters]
  refine and_congr_right (fun _ => and_congr_right (fun _ => ?_))
  refine List.Pairwise.iff (fun l k => not_congr ?_)
  exact ⟨fun he => (List.cons.inj he).1, fun he => by rw [shownValues, shownValues]; simp [label, he]⟩

end Tt
