import TtMetricsExporter.Series
import TtMetricsExporter.StatusText
/-!
# RoundTrip — the text of `/metrics` is read back

Both renderers write lines that list families, and every family of either is one the reference parser reads back
(`families_readable`, `statusFamilies_readable`), under a name of its own.  So the body is read back as the families it
was written from, whatever the strings of the devices, the version and the revision are (`parse_body`); the labels of
the public ones show the devices' own texts (`label_own`).
-/
namespace Tt

open Py (Str strInt hex)
open Exposition (Sample Family isNameChar familyTypes)

/-! ## Names, helps and types -/

section Texts
variable (ratio : Int → Int → Numeral) (number : Rat → Numeral) (self : RuntimeStatus) (build : BuildInfo) (now : Rat)

/-- **Every family of the body has a name of its own.** -/
theorem body_names : ∃ cs, Spelled ("tt_devices_discovered" :: ((metrics ratio).map (·.name) ++
    (self.metrics number build now).map (·.name))) cs ∧ cs.Nodup ∧ ∀ c ∈ cs, c ≠ [] ∧ c.all isNameChar = true := by
  apply Exists.intro
  apply And.intro
  · simp only [metrics, RuntimeStatus.metrics, List.map_cons, List.map_nil, List.cons_append, List.nil_append]
    repeat apply Spelled.cons
    exact Spelled.nil
  · decide +kernel

theorem body_types : ∃ cs, Spelled ("gauge" :: ((metrics ratio).map (·.type) ++
    (self.metrics number build now).map (·.type))) cs ∧ ∀ c ∈ cs, c ∈ familyTypes := by
  apply Exists.intro
  apply And.intro
  · simp only [metrics, RuntimeStatus.metrics, List.map_cons, List.map_nil, List.cons_append, List.nil_append]
    repeat apply Spelled.cons
    exact Spelled.nil
  · decide +kernel

theorem status_helps : ∃ cs, Spelled ((self.metrics number build now).map (·.help)) cs ∧ ∀ c ∈ cs, '\n' ∉ c := by
  apply Exists.intro
  apply And.intro
  · simp only [RuntimeStatus.metrics, List.map_cons, List.map_nil]
    repeat apply Spelled.cons
    exact Spelled.nil
  · decide +kernel

def statusLabelNames : List String :=
  ["version", "revision", "result", "source", "reason", "status", "route", "code_class"]

theorem statusLabelNames_chars : ∀ n ∈ statusLabelNames, n.toList.all isNameChar = true := by
  have hs : ∃ cs, Spelled statusLabelNames cs ∧ ∀ c ∈ cs, c.all isNameChar = true := by
    apply Exists.intro
    apply And.intro
    · repeat apply Spelled.cons
      exact Spelled.nil
    · decide +kernel
  obtain ⟨cs, hs, hc⟩ := hs
  exact hs.forall_mem hc

end Texts

/-! ## Families -/

theorem not_mem_of_familyTypes {type : Str} (h : type ∈ familyTypes) : '\n' ∉ type := by
  have hall : ∀ t ∈ familyTypes, '\n' ∉ t := by decide +kernel
  exact hall type h

section Readable
variable (ratio : Int → Int → Numeral) (number : Rat → Numeral) (self : RuntimeStatus) (build : BuildInfo) (now : Rat)

theorem families_readable (devices : List DeviceTelemetry) : ∀ f ∈ families ratio devices, f.Readable := by
  intro f hf
  have hvalid := families_valid (metrics_uniform ratio) devices f hf
  obtain ⟨names, hns, -, hnames⟩ := metrics_names ratio
  obtain ⟨types, hts, htypes⟩ := body_types ratio (fun _ => ⟨[], List.not_mem_nil⟩) { maxSnapshotAge := 0, requireDevice := false } ⟨[], [], 0⟩ 0
  have hn := hns.forall_mem hnames
  have ht := hts.forall_mem htypes
  rw [List.forall_mem_cons] at hn ht
  unfold families at hf
  rcases List.mem_cons.1 hf with rfl | hf
  · exact ⟨hvalid, hn.1.1, hn.1.2, ht.1, fun s hs => by rw [List.mem_singleton.1 hs]; rfl⟩
  · obtain ⟨m, hm, rfl⟩ := List.mem_map.1 hf
    have hname := hn.2 m.name (List.mem_map_of_mem hm)
    have htype := ht.2 m.type (List.mem_append_left _ (List.mem_map_of_mem hm))
    exact ⟨hvalid, hname.1, hname.2, htype, fun s hs => name_of_mem_family hs⟩

/-- The samples of a status family have known label names and a value on one line. -/
def StatusMetric.Plain (m : StatusMetric) : Prop :=
  ∀ x ∈ m.samples, (∀ l ∈ x.1, l.1 ∈ statusLabelNames) ∧ '\n' ∉ x.2

section Plain
variable {name help type : String}

theorem plain_value {value : Str} (h : '\n' ∉ value) : (StatusMetric.mk name help type [([], value)]).Plain := by
  intro x hx
  rw [List.mem_singleton.1 hx]
  exact ⟨fun l hl => absurd hl List.not_mem_nil, h⟩

theorem plain_samples {samples : List (List (String × Str) × Str)} (labels : List String)
    (hl : ∀ x ∈ samples, x.1.map Prod.fst = labels) (hn : ∀ n ∈ labels, n ∈ statusLabelNames)
    (hv : ∀ x ∈ samples, '\n' ∉ x.2) : (StatusMetric.mk name help type samples).Plain := by
  intro x hx
  refine ⟨fun l hmem => hn l.1 ?_, hv x hx⟩
  rw [← hl x hx]
  exact List.mem_map_of_mem hmem

end Plain

theorem statusMetrics_plain : ∀ m ∈ self.metrics number build now, m.Plain := by
  have hone : '\n' ∉ ['1'] := by decide
  have hnumber : ∀ q, '\n' ∉ (number q).text := fun q => (number q).line
  simp only [RuntimeStatus.metrics, List.forall_mem_cons]
  refine ⟨?build, ?uptime, ?ready, ?attempts, ?duration, ?wall, ?age, ?accessible, ?issues, ?records, ?requests, ?durations,
    ?active, ?rejected, fun _ h => absurd h List.not_mem_nil⟩
  case uptime | duration | wall | age => exact plain_value (hnumber _)
  case ready => exact plain_value (line_flag _)
  case active | rejected => exact plain_value (line_strInt _)
  case build => exact plain_samples ["version", "revision"] (by simp) (by simp [statusLabelNames]) (by simp [hone])
  case attempts => exact plain_samples ["result"] (by simp) (by simp [statusLabelNames]) (by simp [line_strInt])
  case accessible => exact plain_samples ["source"] (by simp) (by simp [statusLabelNames]) (by simp [line_flag])
  case issues =>
    refine plain_samples ["source", "reason"] ?_ (by simp [statusLabelNames]) ?_
    · simp only [List.forall_mem_flatMap, List.forall_mem_map]
      intro source _ issue _
      rfl
    · simp only [List.forall_mem_flatMap, List.forall_mem_map]
      intro source _ issue _
      exact line_strInt _
  case records =>
    refine plain_samples ["source", "status"] ?_ (by simp [statusLabelNames]) ?_
    · simp only [List.forall_mem_flatMap]
      intro source _
      simp
    · simp only [List.forall_mem_flatMap]
      intro source _
      simp [line_strInt]
  case requests =>
    refine plain_samples ["route", "code_class"] ?_ (by simp [statusLabelNames]) ?_
    · simp only [List.forall_mem_flatMap, List.forall_mem_map]
      intro route _ code _
      rfl
    · simp only [List.forall_mem_flatMap, List.forall_mem_map]
      intro route _ code _
      exact line_strInt _
  case durations => exact plain_samples ["route"] (by simp) (by simp [statusLabelNames]) (by simp [hnumber])

theorem statusFamilies_readable : ∀ f ∈ self.families number build now, f.Readable := by
  obtain ⟨names, hns, -, hnames⟩ := body_names (fun _ _ => ⟨[], List.not_mem_nil⟩) number self build now
  obtain ⟨types, hts, htypes⟩ := body_types (fun _ _ => ⟨[], List.not_mem_nil⟩) number self build now
  obtain ⟨helps, hhs, hhelps⟩ := status_helps number self build now
  intro f hf
  obtain ⟨m, hm, rfl⟩ := List.mem_map.1 hf
  have hname := hns.forall_mem hnames m.name
    (List.mem_cons_of_mem _ (List.mem_append_right _ (List.mem_map_of_mem hm)))
  have htype := hts.forall_mem htypes m.type
    (List.mem_cons_of_mem _ (List.mem_append_right _ (List.mem_map_of_mem hm)))
  have hhelp := hhs.forall_mem hhelps m.help (List.mem_map_of_mem hm)
  have hplain := statusMetrics_plain number self build now m hm
  have hsamples : ∀ s ∈ m.family.samples, s.Valid ∧ s.name = m.family.name := by
    intro s hs
    obtain ⟨x, hx, rfl⟩ := List.mem_map.1 hs
    refine ⟨⟨hname.1, hname.2, ?_, (hplain x hx).2⟩, rfl⟩
    intro l hl
    obtain ⟨k, hk, rfl⟩ := List.mem_map.1 hl
    exact statusLabelNames_chars k.1 ((hplain x hx).1 k hk)
  exact {
    name_line := Exposition.not_mem_of_isNameChar hname.2
    help_line := hhelp
    type_line := not_mem_of_familyTypes htype
    samples_valid := fun s hs => (hsamples s hs).1
    name_ne := hname.1
    name_chars := hname.2
    type_known := htype
    samples_own := fun s hs => (hsamples s hs).2 }

/-! ## Labels -/

/-- A text of the device that a label shows: one of its own strings, a number of it, written out, or the name of a clock
or of a state of its link. -/
inductive LabelText (d : DeviceTelemetry) : Option Str → Prop
  | device {text} : text ∈ [some d.id, some (pathText d.sysfsPath), d.architecture, d.boardType, d.health,
      (d.characterDevice.map (·.major)).map strInt, (d.characterDevice.map (·.minor)).map strInt,
      d.characterDevice.bind (·.devName)] → LabelText d text
  | pci {text} : text ∈ [d.pci.bdf, d.pci.vendorId, d.pci.deviceId, d.pci.driver, d.pci.classId, d.pci.revision,
      d.pci.subsystemVendorId, d.pci.subsystemDeviceId, d.pci.numaNode.map strInt, d.pci.iommuGroup.map strInt,
      d.pci.currentLinkSpeed, d.pci.currentLinkWidth.map strInt, d.pci.maxLinkSpeed, d.pci.maxLinkWidth.map strInt,
      d.pci.resetMethod] → LabelText d text
  | firmware {text} : text ∈ [d.firmware.serial, d.firmware.cardType, d.firmware.asicId, d.firmware.fwBundleVersion,
      d.firmware.m3AppFwVersion, d.firmware.m3BlFwVersion, d.firmware.arcFwVersion, d.firmware.ethFwVersion,
      d.firmware.ttflashVersion] → LabelText d text
  | power {text} : text ∈ [d.power.runtimeStatus, d.power.control, d.power.runtimeEnabled] → LabelText d text
  | memory {text} : text ∈ [d.memory.type, d.memory.controllerLayout] → LabelText d text
  | tensix {text} : text ∈ [d.tensix.topology, d.tensix.activeRegions] → LabelText d text
  | health {text} : text ∈ [d.healthDetail.faultCode, d.healthDetail.faultReason] → LabelText d text
  | allocation {text} : text ∈ [d.allocation.claimNamespace, d.allocation.claimName, d.allocation.claimUid,
      d.allocation.podNamespace, d.allocation.podName, d.allocation.containerName] → LabelText d text
  | janitor {text} : text ∈ [d.janitor.state, d.janitor.quarantineReason, d.janitor.lastScrubStatus,
      d.janitor.lastResetStatus] → LabelText d text
  | sensor {s text} : s ∈ d.hwmonSensors → text ∈ [some s.name, s.label, some s.unit] → LabelText d text
  | resource {r text} : r ∈ d.pciResources →
      text ∈ [some (strInt r.index), some (hex r.start), some (hex r.end), some (hex r.flags)] → LabelText d text
  | counter {c} : c ∈ d.pcieCounters → LabelText d (some c.name)
  | link {l text} : l ∈ d.interconnectLinks → text ∈ [some l.name, l.type, l.state, l.peer, l.ringId] → LabelText d text
  | workload {w text} : w ∈ d.metaliumWorkloads →
      text ∈ [some w.workloadId, w.podNamespace, w.podName, w.containerName] → LabelText d text
  | fixed {name : String} : name ∈ ["ai", "axi", "arc", "current", "max"] → LabelText d (some name.toList)

/-- The labels that a metric adds show texts of the device. -/
def Metric.Own (m : Metric) : Prop := ∀ d, ∀ x ∈ m.writer d, ∀ l ∈ x.1, LabelText d l.2

section Own
variable {name help type : String}

theorem own_listing {α : Type} {items : DeviceTelemetry → List α} {labels : α → Labels} {value : α → Str}
    (h : ∀ d, ∀ x ∈ items d, ∀ l ∈ labels x, LabelText d l.2) :
    (Metric.listing name help type items labels value).Own := by
  intro d y hy
  obtain ⟨x, hx, rfl⟩ := List.mem_map.1 hy
  exact h d x hx

theorem own_optional {getter : DeviceTelemetry → Option Int} : (Metric.optional name help type getter).Own :=
  own_listing (fun _ _ _ _ hl => absurd hl List.not_mem_nil)

theorem own_info {labels : DeviceTelemetry → Option Labels}
    (h : ∀ d ls, labels d = some ls → ∀ text ∈ ls.map (·.2), LabelText d text) :
    (Metric.info name help labels).Own :=
  own_listing (fun d ls hls l hl => h d ls (Option.mem_toList.1 hls) l.2 (List.mem_map_of_mem hl))

theorem own_workload {value : MetaliumWorkloadTelemetry → Option Str} : (Metric.workload name help value).Own := by
  refine own_listing (fun d x hx l hl => ?_)
  obtain ⟨w, hw, h⟩ := List.mem_filterMap.1 hx
  obtain ⟨v, -, rfl⟩ := Option.map_eq_some_iff.1 h
  exact .workload hw (List.mem_map_of_mem hl)

theorem own_optionalWorkload {field : MetaliumWorkloadTelemetry → Option Int} {freshOnly : Bool} :
    (Metric.optionalWorkload name help field freshOnly).Own := own_workload

end Own

theorem mem_of_mem_present {α : Type} {pairs : List (String × Option α)} {x : String × α} (h : x ∈ present pairs) :
    (x.1, some x.2) ∈ pairs := by
  obtain ⟨p, hp, h⟩ := List.mem_filterMap.1 h
  obtain ⟨v, hv, rfl⟩ := Option.map_eq_some_iff.1 h
  rw [← hv]
  exact hp

theorem infoLabels_own {d : DeviceTelemetry} : ∀ text ∈ (infoLabels d).map (·.2), LabelText d text := by
  have hdevice : ∀ text ∈ [some (pathText d.sysfsPath), d.health, (d.characterDevice.map (·.major)).map strInt,
      (d.characterDevice.map (·.minor)).map strInt, d.characterDevice.bind (·.devName)], LabelText d text :=
    fun text ht => .device (by simp only [List.mem_cons, List.not_mem_nil, or_false] at ht ⊢; tauto)
  exact List.forall_mem_append.2 ⟨hdevice, fun text ht => .pci (List.mem_cons_of_mem _ ht)⟩

theorem metrics_own : ∀ m ∈ metrics ratio, m.Own := by
  simp only [metrics, List.forall_mem_cons, own_optional, own_optionalWorkload, own_workload, true_and, and_true,
    List.not_mem_nil, false_imp_iff, implies_true]
  refine ⟨?deviceInfo, ?devicePresent, ?firmware, ?clocks, ?sensors, ?resources, ?linkSpeeds, ?linkWidths, ?power,
    ?counters, ?memory, ?tensix, ?health, ?links, ?rated, ?allocation, ?janitor⟩
  case deviceInfo | devicePresent => exact own_info (fun d ls h => by cases h; exact infoLabels_own)
  case firmware => exact own_info (fun d ls h text ht => by cases h; exact .firmware ht)
  case power => exact own_info (fun d ls h text ht => by cases h; exact .power ht)
  case memory => exact own_info (fun d ls h text ht => .memory (by rw [eq_of_ite h] at ht; exact ht))
  case tensix => exact own_info (fun d ls h text ht => .tensix (by rw [eq_of_ite h] at ht; exact ht))
  case health => exact own_info (fun d ls h text ht => .health (by rw [eq_of_ite h] at ht; exact ht))
  case allocation => exact own_info (fun d ls h text ht => .allocation (by rw [eq_of_ite h] at ht; exact ht))
  case janitor => exact own_info (fun d ls h text ht => .janitor (by rw [eq_of_ite h] at ht; exact ht))
  case sensors => exact own_listing (fun d s hs l hl => .sensor hs (List.mem_map_of_mem hl))
  case resources => exact own_listing (fun d r hr l hl => .resource hr (List.mem_map_of_mem hl))
  case links => exact own_listing (fun d l hl k hk => .link hl (List.mem_map_of_mem hk))
  case counters =>
    refine own_listing (fun d c hc l hl => ?_)
    rw [List.mem_singleton.1 hl]
    exact .counter hc
  case rated =>
    refine own_listing (fun d x hx k hk => ?_)
    obtain ⟨l, hl, h⟩ := List.mem_filterMap.1 hx
    obtain ⟨v, -, rfl⟩ := Option.map_eq_some_iff.1 h
    rw [List.mem_singleton.1 hk]
    exact .link hl List.mem_cons_self
  case clocks =>
    refine own_listing (fun d c hc l hl => ?_)
    have hname := mem_of_mem_present hc
    simp only [List.mem_cons, Prod.mk.injEq, List.not_mem_nil, or_false] at hname
    rw [List.mem_singleton.1 hl]
    exact .fixed (by rcases hname with ⟨h, -⟩ | ⟨h, -⟩ | ⟨h, -⟩ <;> simp [h])
  case linkWidths =>
    refine own_listing (fun d w hw l hl => ?_)
    have hname := mem_of_mem_present hw
    simp only [List.mem_cons, Prod.mk.injEq, List.not_mem_nil, or_false] at hname
    rw [List.mem_singleton.1 hl]
    exact .fixed (by rcases hname with ⟨h, -⟩ | ⟨h, -⟩ <;> simp [h])
  case linkSpeeds =>
    refine own_listing (fun d s hs => ?_)
    have hname := mem_of_mem_present hs
    simp only [List.mem_cons, Prod.mk.injEq, List.not_mem_nil, or_false] at hname
    have hstate : LabelText d (some s.1.toList) :=
      .fixed (by rcases hname with ⟨h, -⟩ | ⟨h, -⟩ <;> simp [h])
    have hspeed : LabelText d (some s.2) := .pci (by rcases hname with ⟨-, h⟩ | ⟨-, h⟩ <;> simp [h])
    simpa [label] using And.intro hstate hspeed

/-- **Every label of a public sample shows a text of one of the devices**, as `_value` shows it. -/
theorem label_own {devices : List DeviceTelemetry} {f : Family}
    (hf : f ∈ families ratio devices) {s : Sample} (hs : s ∈ f.samples) {l : Str × Str} (hl : l ∈ s.labels) :
    ∃ d ∈ devices, ∃ text, LabelText d text ∧ l.2 = shown text := by
  unfold families at hf
  rcases List.mem_cons.1 hf with rfl | hf
  · rw [List.mem_singleton.1 hs] at hl
    cases hl
  obtain ⟨m, hm, rfl⟩ := List.mem_map.1 hf
  obtain ⟨d, hd, hs⟩ := List.mem_flatMap.1 hs
  obtain ⟨x, hx, rfl⟩ := List.mem_map.1 hs
  obtain ⟨k, hk, rfl⟩ := List.mem_map.1 hl
  refine ⟨d, hd, k.2, ?_, rfl⟩
  rcases List.mem_append.1 hk with hk | hk
  · have hdevice : ∀ k ∈ deviceLabels d, LabelText d k.2 := by
      simp only [deviceLabels, label, List.forall_mem_cons, List.not_mem_nil, false_imp_iff, implies_true, and_true]
      exact ⟨.device (by simp), .device (by simp), .device (by simp), .pci (by simp)⟩
    exact hdevice k hk
  · exact metrics_own ratio m hm d x hx k hk

/-! ## The body -/

theorem body_names_nodup (devices : List DeviceTelemetry) :
    ((families ratio devices ++ self.families number build now).map Family.name).Nodup := by
  obtain ⟨names, hns, hd, -⟩ := body_names ratio number self build now
  have hnames : (families ratio devices ++ self.families number build now).map Family.name =
      ("tt_devices_discovered" :: ((metrics ratio).map (·.name) ++ (self.metrics number build now).map (·.name))).map
        String.toList := by
    unfold families RuntimeStatus.families
    simp only [List.map_append, List.map_cons, List.map_map, List.cons_append]
    rfl
  rw [hnames, hns.toList_eq]
  exact hd

/-- **The body is read back as the families of the devices and of the status**, each with a name of its own. -/
theorem parse_body (devices : List DeviceTelemetry) :
    Exposition.parse (metricsBody (some (renderPrometheus ratio devices)) (self.renderPrometheus number build now)) =
      some (families ratio devices ++ self.families number build now) ∧
    ((families ratio devices ++ self.families number build now).map Family.name).Nodup := by
  have hnodup := body_names_nodup ratio number self build now devices
  refine ⟨?_, hnodup⟩
  have hreadable : ∀ f ∈ families ratio devices ++ self.families number build now, f.Readable :=
    List.forall_mem_append.2 ⟨families_readable ratio devices, statusFamilies_readable number self build now⟩
  exact Exposition.parse_append (Exposition.listing_lines _) (Exposition.listing_blocks _)
    (by simp [families, Exposition.Family.lines])
    (by simp [RuntimeStatus.families, RuntimeStatus.metrics, Exposition.Family.block]) hreadable hnodup

/-! ## The status alone -/

/-- The status's own text is read back too. -/
theorem parse_status :
    Exposition.parse (self.renderPrometheus number build now) = some (self.families number build now) := by
  have hnodup := body_names_nodup (fun _ _ => ⟨[], List.not_mem_nil⟩) number self build now []
  rw [List.map_append] at hnodup
  exact Exposition.parse_text (Exposition.listing_blocks _)
    (by simp [RuntimeStatus.families, RuntimeStatus.metrics, Exposition.Family.block])
    (statusFamilies_readable number self build now) (List.nodup_append.1 hnodup).2.1

/-- A name has one family. -/
theorem status_family {m : StatusMetric} (hm : m ∈ self.metrics number build now) :
    (self.families number build now).filter (fun f => f.name = m.name.toList) = [m.family] := by
  have hnodup := body_names_nodup (fun _ _ => ⟨[], List.not_mem_nil⟩) number self build now []
  rw [List.map_append] at hnodup
  exact Exposition.filter_key_eq Family.name (List.nodup_append.1 hnodup).2.1 (List.mem_map.2 ⟨m, hm, rfl⟩)

/-- `tt_exporter_ready` has one sample. -/
theorem ready_family : (self.families number build now).filter (fun f => f.name = "tt_exporter_ready".toList) =
    [⟨"tt_exporter_ready".toList, "Whether the exporter is ready.".toList, "gauge".toList,
      [⟨"tt_exporter_ready".toList, [], flag (self.readiness now = .ready)⟩]⟩] := by
  have hm : (⟨"tt_exporter_ready", "Whether the exporter is ready.", "gauge",
      [([], flag (self.readiness now = .ready))]⟩ : StatusMetric) ∈ self.metrics number build now :=
    List.mem_cons_of_mem _ (List.mem_cons_of_mem _ List.mem_cons_self)
  exact status_family number self build now hm

end Readable
end Tt
