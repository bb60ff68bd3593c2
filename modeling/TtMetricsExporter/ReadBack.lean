import TtMetricsExporter.Injection
import TtMetricsExporter.Publishing
/-!
# ReadBack — the exporter reads what the publisher publishes

Under trimmed labels a payload is read field by field (`parse_wellLabelled`), so whether the exporter accepts a record
is decided by its numbers: it refuses a total of zero, and clamps what is beyond 64 bits (`isReadBack_sound`).  What a
publisher knows and has written stays within bounds from call to call (`PublisherKeeps`), but a device without cores
makes its total zero.
-/
namespace Tt

open Py (Str strInt)
open MetaliumProfilerPublisher

/-! ## Labels -/

/-- A non-empty trimmed text of printable ASCII. -/
structure TrimmedLabel (maximum : Nat) (value : Str) : Prop where
  nonempty : value ≠ []
  short : value.length ≤ maximum
  printable : ∀ c ∈ value, 0x20 ≤ c.toNat ∧ c.toNat ≤ 0x7E
  trimmed : Py.strip value = value

structure WellLabelled (publisher : MetaliumProfilerPublisher) : Prop where
  workloadId : TrimmedLabel maximumWorkloadIdBytes publisher.workloadId
  podNamespace : ∀ value ∈ publisher.podNamespace, TrimmedLabel maximumNamespaceBytes value
  podName : ∀ value ∈ publisher.podName, TrimmedLabel maximumPodNameBytes value
  containerName : ∀ value ∈ publisher.containerName, TrimmedLabel maximumContainerNameBytes value

section Label
variable {maximum : Nat} {value : Str}

theorem TrimmedLabel.lines (h : TrimmedLabel maximum value) : laterFields value = [] ∧ readValue value = value := by
  have hline : valueLines value = [value] := by
    refine valueLines_of_line (fun c hc => ?_)
    have hp := h.printable c hc
    simp only [Py.isLineBreak, Bool.or_eq_false_iff, Bool.and_eq_false_iff, decide_eq_false_iff_not,
      beq_eq_false_iff_ne]
    omega
  have hspace : ∀ {c}, Py.isSpace c = false → Py.isAsciiSpace c = false := by
    intro c hc
    by_contra ha
    simp only [Py.isAsciiSpace, Bool.not_eq_false, Bool.or_eq_true, Bool.and_eq_true, decide_eq_true_eq,
      beq_iff_eq] at ha
    unfold Py.isSpace Py.isSpaceCode at hc
    simp only [Bool.or_eq_false_iff, Bool.and_eq_false_iff, decide_eq_false_iff_not, beq_eq_false_iff_ne] at hc
    omega
  have hstrip : Py.stripAscii value = value := by
    refine Py.stripBy_of_ends (fun c hc => hspace ?_) (fun c hc => hspace ?_)
    · rw [← h.trimmed] at hc
      exact Py.head_stripBy hc
    · rw [← h.trimmed] at hc
      exact Py.getLast_stripBy hc
  unfold laterFields readValue firstLine
  rw [hline]
  exact ⟨rfl, hstrip⟩

theorem TrimmedLabel.bounded (h : TrimmedLabel maximum value) (required : Bool) :
    boundedLabel (some value) maximum required = true := by
  unfold boundedLabel
  simp only [Bool.and_eq_true, List.all_eq_true, decide_eq_true_eq]
  refine ⟨⟨⟨fun c hc => ?_, h.nonempty⟩, h.short⟩, h.printable⟩
  unfold Py.isAscii
  have hp := h.printable c hc
  exact decide_eq_true (by omega)

end Label

theorem WellLabelled.labels {self : MetaliumProfilerPublisher} (h : WellLabelled self) :
    ∀ value ∈ self.workloadId :: self.labelFields.map Prod.snd, ∃ maximum, TrimmedLabel maximum value := by
  intro value hv
  rcases List.mem_cons.1 hv with rfl | hv
  · exact ⟨_, h.workloadId⟩
  · obtain ⟨field, hf, rfl⟩ := List.mem_map.1 hv
    obtain ⟨⟨key, label⟩, hm, hf⟩ := List.mem_filterMap.1 hf
    obtain ⟨v, hkept, rfl⟩ := Option.map_eq_some_iff.1 hf
    have hlabel := (Option.filter_eq_some_iff.1 hkept).1
    simp only [List.mem_cons, Prod.mk.injEq, List.not_mem_nil, or_false] at hm
    rcases hm with ⟨-, rfl⟩ | ⟨-, rfl⟩ | ⟨-, rfl⟩
    · exact ⟨_, h.podNamespace v hlabel⟩
    · exact ⟨_, h.podName v hlabel⟩
    · exact ⟨_, h.containerName v hlabel⟩

theorem WellLabelled.injectedFields {self : MetaliumProfilerPublisher} (h : WellLabelled self) :
    injectedFields self = [] := by
  unfold Tt.injectedFields
  rw [List.flatMap_eq_nil_iff]
  intro value hv
  obtain ⟨_, hlabel⟩ := h.labels value hv
  exact hlabel.lines.1

/-! ## Parsing -/

section Parsing
variable {self : MetaliumProfilerPublisher} {summary : ProfilerSummary} {timestamp : Int} {text : Str}

theorem mem_recordFields {field : Str × Str} (h : field ∈ self.recordFields summary timestamp) :
    (∃ n : Int, field.2 = strInt n) ∨ field.2 ∈ self.workloadId :: self.labelFields.map Prod.snd := by
  unfold recordFields at h
  rcases List.mem_append.1 h with h | h
  · rcases List.mem_append.1 h with h | h
    · simp only [List.mem_cons, List.not_mem_nil, or_false] at h
      rcases h with rfl | rfl
      · exact .inl ⟨self.layoutVersion, rfl⟩
      · exact .inr List.mem_cons_self
    · obtain ⟨⟨key, n⟩, -, rfl⟩ := List.mem_map.1 h
      exact .inl ⟨n, rfl⟩
  · exact .inr (List.mem_cons_of_mem _ (List.mem_map_of_mem h))

/-- The keys of a record, those that may be left out included. -/
def recordKeys : List Str := ["schema_version".toList, "workload_id".toList, "sample_timestamp_seconds".toList,
  "active".toList, "programs_observed".toList, "tensix_cores_used".toList, "tensix_cores_total".toList,
  "pod_namespace".toList, "pod_name".toList, "container_name".toList]

variable (self summary timestamp) in
theorem keys_recordFields : ((self.recordFields summary timestamp).map Prod.fst).Sublist recordKeys := by
  have hoption : ∀ (key : Str) (value : Option Str), ((optionalField key value).map Prod.fst).Sublist [key] := by
    intro key value
    cases value with
    | none => exact List.nil_sublist _
    | some value => exact List.Sublist.refl _
  rw [recordFields_eq, List.map_append, List.map_append, List.map_append, List.map_append]
  exact (List.Sublist.refl _).append ((hoption _ _).append ((hoption _ _).append ((hoption _ _).append (hoption _ _))))

variable (self summary timestamp) in
theorem withinLimits_recordFields : WithinLimits (self.recordFields summary timestamp) := by
  have hkeys := keys_recordFields self summary timestamp
  refine ⟨?_, hkeys.nodup (by decide)⟩
  have hlength := hkeys.length_le
  rw [List.length_map] at hlength
  exact le_trans hlength (by decide)

theorem mem_stateValue {c : Char} {value : Str} (h : c ∈ stateValue value) : c ∈ value ∨ c = ' ' := by
  have hreplace : ∀ {old : Char} {s : Str}, c ∈ Py.replaceChar old [' '] s → c ∈ s ∨ c = ' ' := by
    intro old s hc
    obtain ⟨d, hd, hm⟩ := List.mem_flatMap.1 hc
    split at hm
    · exact .inr (List.mem_singleton.1 hm)
    · rw [List.mem_singleton.1 hm]
      exact .inl hd
  rcases hreplace h with h | h
  · exact hreplace h
  · exact .inr h

theorem nul_not_mem_payload (h : WellLabelled self) :
    '\x00' ∉ (self.recordFields summary timestamp).flatMap recordLine := by
  have hkeys : ∀ key ∈ recordKeys, '\x00' ∉ key := by decide
  have hvalue : ∀ field ∈ self.recordFields summary timestamp, '\x00' ∉ field.2 := by
    intro field hf hm
    rcases mem_recordFields hf with ⟨n, hn⟩ | hlabel
    · rw [hn] at hm
      rcases Py.mem_strInt hm with hd | hd
      · cases hd
      · exact absurd ((Py.isAsciiDigit_iff).1 hd) (by decide)
    · obtain ⟨_, hlabel⟩ := h.labels _ hlabel
      exact absurd (hlabel.printable _ hm).1 (by decide)
  intro hm
  obtain ⟨field, hf, hm⟩ := List.mem_flatMap.1 hm
  simp only [recordLine, List.mem_append, List.mem_cons, List.not_mem_nil, or_false] at hm
  rcases hm with (hm | hm | hm) | hm
  · exact hkeys _ ((keys_recordFields self summary timestamp).subset (List.mem_map_of_mem hf)) hm
  · cases hm
  · rcases mem_stateValue hm with hm | hm
    · exact hvalue field hf hm
    · cases hm
  · cases hm

variable (summary timestamp) in
/-- **A payload under trimmed labels is read field by field.** -/
theorem parse_wellLabelled (h : WellLabelled self) (hp : self.payload summary timestamp = some text) :
    ∃ values, parseKeyValues text = some values ∧
      ∀ key, values.lookup key = ((self.recordFields summary timestamp).lookup key).map readValue := by
  have hv : parseKeyValues text = some (contentFields text) := by
    obtain ⟨-, rfl⟩ := payload_eq_some.1 hp
    have hperm := contentFields_perm self summary timestamp
    rw [h.injectedFields, List.append_nil] at hperm
    refine parseKeyValues_eq_some.2 ⟨nul_not_mem_payload h, ?_, rfl⟩
    obtain ⟨hlength, hnodup⟩ := withinLimits_recordFields self summary timestamp
    refine ⟨?_, ?_⟩
    · rw [hperm.length_eq, List.length_map]
      exact hlength
    · rw [(hperm.map Prod.fst).nodup_iff, List.map_map]
      exact hnodup
  refine ⟨_, hv, fun key => ?_⟩
  rw [lookup_values hp hv key, h.injectedFields]
  exact Option.or_none

end Parsing

/-! ## Acceptance -/

/-- The record says what was published, the labels included. -/
structure PublishedAs (publisher : MetaliumProfilerPublisher) (r : WrittenRecord) (w : Workload) : Prop where
  workloadId : w.workloadId = publisher.workloadId
  podNamespace : w.podNamespace = publisher.podNamespace
  podName : w.podName = publisher.podName
  containerName : w.containerName = publisher.containerName
  active : w.active = some (r.summary.active : Int)
  programsObserved : w.programsObserved = some (r.summary.programsObserved : Int)
  tensixCoresUsed : w.tensixCoresUsed = some (r.summary.tensixCoresUsed : Int)
  tensixCoresTotal : w.tensixCoresTotal = r.summary.tensixCoresTotal.map (fun total : Nat => (total : Int))
  sampleTimestampSeconds : w.sampleTimestampSeconds = some r.timestamp

/-- `_parse_workload` takes the payload under the publisher's own layout, with no issue but that the record is stale,
and reads what was published. -/
def IsReadBack (ingestor : StateIngestor) (diagnostics : TelemetrySource) (publisher : MetaliumProfilerPublisher)
    (r : WrittenRecord) : Prop :=
  ∃ w log, ingestor.parseWorkload r.payload publisher.layoutVersion diagnostics = .returned (some w) log ∧
    (∀ source issue, ⟨source, .issue issue⟩ ∈ log → issue = .staleRecord) ∧ PublishedAs publisher r w

/-- A record as the publisher's methods write it under counts that fit into 64 bits. -/
structure SoundRecord (publisher : MetaliumProfilerPublisher) (r : WrittenRecord) : Prop where
  payload : publisher.payload r.summary r.timestamp = some r.payload
  active : r.summary.active ≤ 1
  tensixCoresUsed : (r.summary.tensixCoresUsed : Int) ≤ int64Max
  tensixCoresTotal : ∀ total ∈ r.summary.tensixCoresTotal,
    r.summary.tensixCoresUsed ≤ total ∧ (total : Int) ≤ int64Max
  timestamp : 0 ≤ r.timestamp

section Acceptance
variable {ingestor : StateIngestor} {diagnostics : TelemetrySource} {self : MetaliumProfilerPublisher}

theorem parseWorkload_returned {content : Str} {schema : Int} {values : List (Str × Str)} {record : Workload}
    (hv : parseKeyValues content = some values)
    (hs : stateNonNegativeInt values "schema_version".toList = .ok (some schema)) (hw : workloadOf values = .ok record)
    (hi : invalidWorkload record = false) :
    let stale := isStale ingestor.staleAfterSeconds ingestor.nowSeconds (record.sampleTimestampSeconds.getD 0)
    ingestor.parseWorkload content schema diagnostics = .returned (some { record with stale := stale })
      ((if stale then [⟨diagnostics, .issue .staleRecord⟩] else []) ++ [⟨diagnostics, .recordsAccepted⟩]) := by
  intro stale
  unfold StateIngestor.parseWorkload
  rw [hv]
  dsimp only
  rw [hs, Tally.lift_ok, pure_bind, if_neg (not_not.2 rfl), hw, Tally.lift_ok, pure_bind,
    if_neg (by rw [hi]; exact Bool.false_ne_true)]
  change (do
    if stale then recordIssue diagnostics .staleRecord
    recordAccepted diagnostics
    return some { record with stale := stale }) = _
  cases stale <;> rfl

/-- What is read back is what is accepted and says what was published. -/
theorem isReadBack_iff {r : WrittenRecord} : IsReadBack ingestor diagnostics self r ↔
    ∃ w, (ingestor.parseWorkload r.payload self.layoutVersion diagnostics).value = some (some w) ∧
      PublishedAs self r w := by
  constructor
  · rintro ⟨w, log, h, -, hw⟩
    exact ⟨w, by rw [h]; rfl, hw⟩
  · rintro ⟨w, h, hp⟩
    obtain ⟨values, record, hv, hs, hw, hi, rfl⟩ := parseWorkload_eq_some.1 h
    refine ⟨_, _, parseWorkload_returned hv hs hw hi, fun source issue hm => ?_, hp⟩
    rcases List.mem_append.1 hm with hm | hm
    · split at hm
      · cases List.mem_singleton.1 hm
        rfl
      · cases hm
    · cases List.mem_singleton.1 hm

/-- What a sound record is read as: the counts without a bound of their own are clamped to 64 bits. -/
def clamped (publisher : MetaliumProfilerPublisher) (r : WrittenRecord) : Workload where
  workloadId := publisher.workloadId
  podNamespace := publisher.podNamespace
  podName := publisher.podName
  containerName := publisher.containerName
  active := some (r.summary.active : Int)
  programsObserved := some (min (r.summary.programsObserved : Int) int64Max)
  tensixCoresUsed := some (r.summary.tensixCoresUsed : Int)
  tensixCoresTotal := r.summary.tensixCoresTotal.map (fun total : Nat => (total : Int))
  sampleTimestampSeconds := some (min r.timestamp int64Max)

theorem stateString_label {values : List (Str × Str)} {key : Str} {value : Option Str} {maximum : Nat}
    (hl : values.lookup key = (value.filter (· ≠ [])).map readValue) (h : ∀ v ∈ value, TrimmedLabel maximum v) :
    stateString values key = value := by
  unfold stateString
  rw [hl]
  cases value with
  | none => rfl
  | some value =>
    have hlabel := h value rfl
    have hkept : (some value).filter (fun v => decide (v ≠ [])) = some value :=
      Option.filter_some_pos (by simpa using hlabel.nonempty)
    rw [hkept, Option.map_some, hlabel.lines.2, hkept]

theorem stateNonNegativeInt_total {values : List (Str × Str)} {key : Str} {published : Option Nat}
    (hl : values.lookup key = (published.map (fun total : Nat => strInt total)).map readValue)
    (hn : ∀ total ∈ published, (total : Int).natAbs < 10 ^ Py.maxStrDigits)
    (hmax : ∀ total ∈ published, (total : Int) ≤ int64Max) :
    stateNonNegativeInt values key = .ok (published.map (fun total : Nat => (total : Int))) := by
  cases published with
  | none =>
    unfold stateNonNegativeInt stateString
    rw [hl]
    rfl
  | some total =>
    rw [stateNonNegativeInt_of_count (Int.natCast_nonneg total) hl (hn total rfl), min_eq_left (hmax total rfl)]
    rfl

theorem workloadOf_sound {r : WrittenRecord} {values : List (Str × Str)} (h : WellLabelled self)
    (hr : SoundRecord self r)
    (hlookup : ∀ key, values.lookup key = ((self.recordFields r.summary r.timestamp).lookup key).map readValue) :
    stateNonNegativeInt values "schema_version".toList = .ok (some (self.layoutVersion : Int)) ∧
      workloadOf values = .ok (clamped self r) := by
  have hread : ∀ {key value}, (self.recordFields r.summary r.timestamp).lookup key = some value →
      values.lookup key = some (readValue value) := by
    intro key value hk
    rw [hlookup, hk]
    rfl
  obtain ⟨lschema, ltimestamp, lactive, lprograms, lused⟩ := lookup_numbers self r.summary r.timestamp
  obtain ⟨ltotal, lns, lpn, lcn⟩ := lookup_optionals self r.summary r.timestamp
  obtain ⟨dtimestamp, dactive, dprograms, dused, dtotal⟩ :=
    (forall_numberFields (p := fun n => n.natAbs < 10 ^ Py.maxStrDigits)).1 (payload_eq_some.1 hr.payload).1
  have hlayout : self.layoutVersion ≤ 2 := by
    rcases self.layout_valid with h | h <;> omega
  have hidentity : (self.recordFields r.summary r.timestamp).lookup "workload_id".toList = some self.workloadId := by
    rw [recordFields_eq]
    rfl
  have hactive : (r.summary.active : Int) ≤ int64Max := le_trans (Int.ofNat_le.2 hr.active) (by decide)
  constructor
  · have hdigits : (self.layoutVersion : Int).natAbs < 10 ^ Py.maxStrDigits :=
      lt_of_le_of_lt hlayout (lt_of_lt_of_le (by decide : 2 < 10 ^ 1) (Nat.pow_le_pow_right (by decide) (by decide)))
    rw [stateNonNegativeInt_of_count (Int.natCast_nonneg _) (hread lschema) hdigits,
      min_eq_left (le_trans (Int.ofNat_le.2 hlayout) (by decide))]
  · have hlns := hlookup "pod_namespace".toList
    have hlpn := hlookup "pod_name".toList
    have hlcn := hlookup "container_name".toList
    rw [lns] at hlns
    rw [lpn] at hlpn
    rw [lcn] at hlcn
    unfold workloadOf clamped
    rw [stateNonNegativeInt_of_count (Int.natCast_nonneg _) (hread lactive) dactive,
      stateNonNegativeInt_of_count (Int.natCast_nonneg _) (hread lprograms) dprograms,
      stateNonNegativeInt_of_count (Int.natCast_nonneg _) (hread lused) dused,
      stateNonNegativeInt_total (by rw [hlookup, ltotal]) dtotal (fun total ht => (hr.tensixCoresTotal total ht).2),
      stateNonNegativeInt_of_count hr.timestamp (hread ltimestamp) dtimestamp,
      stateString_label hlns h.podNamespace, stateString_label hlpn h.podName, stateString_label hlcn h.containerName,
      min_eq_left hactive, min_eq_left hr.tensixCoresUsed]
    have hid : stateString values "workload_id".toList = some self.workloadId := by
      refine stateString_label ?_ (fun v hv => Option.mem_some_iff.1 hv ▸ h.workloadId)
      rw [hread hidentity, Option.filter_some_pos (by simpa using h.workloadId.nonempty)]
      rfl
    rw [hid]
    rfl

/-- A sound record under trimmed labels is refused for its total only. -/
theorem invalidWorkload_clamped {r : WrittenRecord} (h : WellLabelled self) (hr : SoundRecord self r) :
    invalidWorkload (clamped self r) = false ↔ r.summary.tensixCoresTotal ≠ some 0 := by
  have hlabel : ∀ {maximum : Nat} {value : Option Str}, (∀ v ∈ value, TrimmedLabel maximum v) →
      boundedLabel value maximum = true := by
    intro maximum value hv
    cases value with
    | none => rfl
    | some value => exact (hv value rfl).bounded false
  have hactive : ¬ 1 < (r.summary.active : Int) := by
    have := hr.active
    omega
  unfold invalidWorkload clamped
  dsimp only
  rw [h.workloadId.bounded true, hlabel h.podNamespace, hlabel h.podName, hlabel h.containerName]
  have htotal := hr.tensixCoresTotal
  cases hs : r.summary.tensixCoresTotal with
  | none => simp [hactive]
  | some total =>
    have hle := (htotal total hs).1
    simp [hactive, hle]

/-- **A sound record is read back exactly when** its total, if it has one, is not zero, and its other counts fit into
64 bits. -/
theorem isReadBack_sound {r : WrittenRecord} (h : WellLabelled self) (hr : SoundRecord self r) :
    IsReadBack ingestor diagnostics self r ↔ r.summary.tensixCoresTotal ≠ some 0 ∧
      (r.summary.programsObserved : Int) ≤ int64Max ∧ r.timestamp ≤ int64Max := by
  obtain ⟨values, hv, hlookup⟩ := parse_wellLabelled r.summary r.timestamp h hr.payload
  obtain ⟨hs, hw⟩ := workloadOf_sound h hr hlookup
  rw [isReadBack_iff]
  constructor
  · rintro ⟨w, haccepted, hp⟩
    obtain ⟨values', record, hv', -, hw', hi, rfl⟩ := parseWorkload_eq_some.1 haccepted
    obtain rfl := Option.some.inj (hv.symm.trans hv')
    obtain rfl := Except.ok.inj (hw.symm.trans hw')
    refine ⟨(invalidWorkload_clamped h hr).1 hi, ?_, ?_⟩
    · exact min_eq_left_iff.1 (Option.some.inj hp.programsObserved)
    · exact min_eq_left_iff.1 (Option.some.inj hp.sampleTimestampSeconds)
  · rintro ⟨htotal, hprograms, htimestamp⟩
    have hvalid := (invalidWorkload_clamped h hr).2 htotal
    refine ⟨_, parseWorkload_eq_some.2 ⟨values, clamped self r, hv, hs, hw, hvalid, rfl⟩,
      ⟨rfl, rfl, rfl, rfl, rfl, ?_, rfl, rfl, ?_⟩⟩
    · exact congrArg some (min_eq_left hprograms)
    · exact congrArg some (min_eq_left htimestamp)

end Acceptance

/-! ## Runs -/

/-- One call of a publisher's user. -/
inductive PublisherStep where
  | publishProfilerData (data : ProfilerData) (finishedAt : Rat)
  | close (order : SetOrder)

namespace MetaliumProfilerPublisher
variable (self : MetaliumProfilerPublisher)

/-- The state that a call leaves, whatever it ends in. -/
def takeStep (s : PublisherState) : PublisherStep → PublisherState
  | .publishProfilerData data finishedAt => ((self.publishProfilerData data finishedAt).alone s).2
  | .close order => ((self.close order).alone s).2

/-- The state after some calls of a publisher that has just been made. -/
def after (inputs : Nat → PublishInput) (steps : List PublisherStep) : PublisherState :=
  steps.foldl self.takeStep { inputs := inputs }

end MetaliumProfilerPublisher

/-- The counts of a chip's records are below 2^63. -/
def ChipRecords.Fits (chip : ChipRecords) : Prop := ∀ records, chip.records = .ok records → ∀ r ∈ records,
  (∀ n, r.coreCount = .ok n → n ≤ int64Max) ∧ ∀ n, r.numAvailableCores = .ok n → n ≤ int64Max

/-- A chip that has run a program has cores, and it has run no more of them than 64 bits can count. -/
def ChipRecords.Measured (chip : ChipRecords) : Prop := ∀ records, chip.records = .ok records →
  (records.length : Int) ≤ int64Max ∧
    (records ≠ [] → ∃ r ∈ records, ∃ n, r.numAvailableCores = .ok n ∧ 0 < n)

/-- What a publisher knows and has written, where totals, program counts and timestamps meet some conditions. -/
structure PublisherKeeps (publisher : MetaliumProfilerPublisher) (total programs : Nat → Prop) (timestamp : Int → Prop)
    (s : PublisherState) : Prop where
  clock : ∀ k, 0 ≤ (s.inputs k).time ∧ timestamp (truncate (s.inputs k).time)
  known : ∀ deviceKey n, s.knownTotals.lookup deviceKey = some n → total n ∧ (n : Int) ≤ int64Max
  written : ∀ r ∈ s.written, SoundRecord publisher r ∧ (∀ n ∈ r.summary.tensixCoresTotal, total n) ∧
    programs r.summary.programsObserved ∧ timestamp r.timestamp

section Runs
variable {self : MetaliumProfilerPublisher} {total programs : Nat → Prop} {timestamp : Int → Prop}

theorem truncate_nonneg {value : Rat} (h : 0 ≤ value) : 0 ≤ truncate value := by
  unfold truncate
  rw [if_pos h]
  exact Int.floor_nonneg.2 h

/-- What a critical section writes is sound where its summary is. -/
theorem publish_keeps {deviceKey : Str} {summary : ProfilerSummary} {allowClosed : Bool} {s : PublisherState}
    (h : PublisherKeeps self total programs timestamp s) (hactive : summary.active ≤ 1)
    (hused : (summary.tensixCoresUsed : Int) ≤ int64Max)
    (htotal : ∀ n ∈ summary.tensixCoresTotal, summary.tensixCoresUsed ≤ n ∧ total n ∧ (n : Int) ≤ int64Max)
    (hprograms : programs summary.programsObserved) :
    PublisherKeeps self total programs timestamp ((self.publish deviceKey summary allowClosed).alone s).2 := by
  unfold publish
  split
  · rw [Thread.alone_atomic]
    rcases self.publishSection_cases deviceKey summary allowClosed s with
      ⟨-, -, hs⟩ | ⟨-, _, hs, -⟩ | ⟨-, payload, _, hp, hs, -⟩
    all_goals rw [hs]
    · exact h
    · exact ⟨h.clock, h.known, h.written⟩
    · refine ⟨h.clock, h.known, fun r hr => ?_⟩
      rcases List.mem_append.1 hr with hr | hr
      · exact h.written r hr
      · obtain rfl := List.mem_singleton.1 hr
        obtain ⟨htime, hstamp⟩ := h.clock s.sections
        exact ⟨⟨hp, hactive, hused, fun n hn => ⟨(htotal n hn).1, (htotal n hn).2.2⟩, truncate_nonneg htime⟩,
          fun n hn => (htotal n hn).2.1, hprograms, hstamp⟩
  · exact h

/-- A device without a new record is written as idle, under the total that is known. -/
theorem publish_idle_keeps (hnone : programs 0) (deviceKey : Str) (allowClosed : Bool) {s : PublisherState}
    (h : PublisherKeeps self total programs timestamp s) : PublisherKeeps self total programs timestamp
      ((self.publish deviceKey ⟨0, 0, 0, s.knownTotals.lookup deviceKey⟩ allowClosed).alone s).2 :=
  publish_keeps h (Nat.zero_le 1) (show (0 : Int) ≤ int64Max by decide)
    (fun n hn => ⟨Nat.zero_le n, h.known deviceKey n hn⟩) hnone

theorem publishIdle_keeps (hnone : programs 0) : ∀ (deviceKeys : List Str) (summaries : Summaries),
    (self.publishIdle deviceKeys summaries).Keeps (PublisherKeeps self total programs timestamp)
  | [], _ => Thread.keeps_pure _
  | deviceKey :: rest, summaries => fun s h => by
    unfold publishIdle summaryOf
    rw [Thread.alone_bind, Thread.alone_get]
    exact Thread.alone_bind_keeps (publish_idle_keeps hnone deviceKey false h) (fun _ => publishIdle_keeps hnone rest _)

theorem caught_keeps {α : Type} {program : Publishing α} {disable : PublishError → Bool} {default : α}
    (h : program.Keeps (PublisherKeeps self total programs timestamp)) :
    (self.caught program disable default).Keeps (PublisherKeeps self total programs timestamp) := by
  refine h.handle (fun error => ?_)
  have hcount : (handleFailure error (disable error)).Keeps (PublisherKeeps self total programs timestamp) :=
    Thread.keeps_update (fun s hs => ⟨hs.clock, hs.known, hs.written⟩)
  split
  · refine hcount.bind (fun _ => ?_)
    split
    · exact fun s hs => hs
    · exact Thread.keeps_pure _
  · exact fun s hs => hs

theorem closeSection_keeps (order : SetOrder) {s : PublisherState}
    (h : PublisherKeeps self total programs timestamp s) :
    PublisherKeeps self total programs timestamp (self.closeSection order s).2 := by
  unfold closeSection
  by_cases hclosed : s.closed = true
  · rw [if_pos hclosed]
    exact h
  · rw [if_neg hclosed]
    dsimp only
    split
    · exact ⟨h.clock, h.known, h.written⟩
    · exact ⟨h.clock, h.known, h.written⟩

theorem close_keeps (hnone : programs 0) (order : SetOrder) :
    (self.close order).Keeps (PublisherKeeps self total programs timestamp) := by
  have hmark : ∀ deviceKeys : List Str,
      (self.markInactive deviceKeys).Keeps (PublisherKeeps self total programs timestamp) := by
    intro deviceKeys
    induction deviceKeys with
    | nil => exact Thread.keeps_pure _
    | cons deviceKey rest ih =>
      refine (caught_keeps (fun s h => ?_)).bind (fun _ => ih)
      unfold summaryOf
      rw [Thread.alone_bind, Thread.alone_get]
      exact publish_idle_keeps hnone deviceKey true h
  unfold close
  refine Thread.Keeps.bind (fun s h => ?_) hmark
  rw [Thread.alone_atomic]
  exact closeSection_keeps order h

/-! ### Chips -/

/-- The values of a read that all convert, in order. -/
theorem mapM_nonNegativeInt {field : String} {value : ProgramRecord → Except PyRaised Int} :
    ∀ {records : List ProgramRecord} {counts : List Nat},
      records.mapM (fun r => nonNegativeInt (value r) field) = .ok counts →
      records.map value = counts.map (fun n : Nat => .ok (n : Int))
  | [], counts, h => by
    cases h
    rfl
  | r :: rest, counts, h => by
    rw [List.mapM_cons] at h
    obtain ⟨n, hn, h⟩ := Posix.ok_of_bind h
    obtain ⟨ns, hns, h⟩ := Posix.ok_of_bind h
    cases h
    rw [List.map_cons, List.map_cons, mapM_nonNegativeInt hns]
    unfold nonNegativeInt at hn
    split at hn
    · cases hn
    · rename_i parsed hv
      split at hn
      · cases hn
      · cases hn
        rw [hv, Int.toNat_of_nonneg (by omega)]

/-- What a chip gives where its values convert. -/
def ChipKeeps (total programs : Nat → Prop) (chip : ChipRecords) : Prop :=
  ∀ records coreCounts coreTotals, chip.records = .ok records → convert records = .ok (coreCounts, coreTotals) →
    programs records.length ∧ ((coreCounts.foldl max 0 : Nat) : Int) ≤ int64Max ∧
    (coreTotals ≠ [] → total (coreTotals.foldl max 0) ∧ ((coreTotals.foldl max 0 : Nat) : Int) ≤ int64Max)

theorem remember_keeps {deviceKey : Str} {coreTotals : List Nat}
    (h : coreTotals ≠ [] → total (coreTotals.foldl max 0) ∧ ((coreTotals.foldl max 0 : Nat) : Int) ≤ int64Max) :
    (remember deviceKey coreTotals).Keeps (PublisherKeeps self total programs timestamp) := by
  unfold remember
  split
  · rename_i hne
    refine Thread.keeps_update (fun s hs => ⟨hs.clock, fun key n hn => ?_, hs.written⟩)
    dsimp only at hn
    rw [Py.lookup_setItem] at hn
    split at hn
    · cases hn
      exact h hne
    · exact hs.known key n hn
  · exact Thread.keeps_pure _

/-- What is published of a chip has passed the check against its total. -/
theorem publishChip_keeps {chip : ChipRecords} (hchip : ChipKeeps total programs chip) :
    (self.publishChip chip).Keeps (PublisherKeeps self total programs timestamp) := by
  unfold publishChip
  dsimp only
  intro s h
  cases hr : chip.records with
  | error raised => exact h
  | ok records =>
    cases hc : convert records with
    | error error =>
      rw [Thread.alone_bind, Thread.alone_ofExcept]
      show PublisherKeeps self total programs timestamp ((Thread.ofExcept (convert records) >>= _).alone s).2
      rw [hc]
      exact h
    | ok values =>
      obtain ⟨coreCounts, coreTotals⟩ := values
      obtain ⟨hprograms, hused, htotals⟩ := hchip records coreCounts coreTotals hr hc
      rw [Thread.alone_bind, Thread.alone_ofExcept]
      show PublisherKeeps self total programs timestamp ((Thread.ofExcept (convert records) >>= _).alone s).2
      rw [hc]
      refine Thread.Keeps.bind (remember_keeps htotals) (fun _ s hs => ?_) s h
      -- the summary is made of the total that the check has passed
      have hpublish : (∀ n, s.knownTotals.lookup (self.deviceKeyOf chip) = some n → coreCounts.foldl max 0 ≤ n) →
          PublisherKeeps self total programs timestamp ((do
            let summary ← summaryOf (self.deviceKeyOf chip) (if records = [] then 0 else 1) records.length
              (coreCounts.foldl max 0)
            self.publish (self.deviceKeyOf chip) summary
            return summary : Publishing ProfilerSummary).alone s).2 := by
        intro hcheck
        unfold summaryOf
        rw [Thread.alone_bind, Thread.alone_get]
        refine Thread.alone_bind_keeps (publish_keeps hs ?_ hused (fun n hn => ?_) hprograms)
          (fun _ => Thread.keeps_pure _)
        · dsimp only
          split <;> omega
        · exact ⟨hcheck n hn, hs.known _ n hn⟩
      rw [Thread.alone_bind]
      unfold checkCores
      rw [Thread.alone_atomic]
      cases hl : s.knownTotals.lookup (self.deviceKeyOf chip) with
      | none => exact hpublish (fun n hn => nomatch hl.symm.trans hn)
      | some known =>
        dsimp only
        by_cases hlt : known < coreCounts.foldl max 0
        · rw [if_pos hlt]
          exact hs
        · rw [if_neg hlt]
          refine hpublish (fun n hn => ?_)
          obtain rfl := Option.some.inj (hl.symm.trans hn)
          exact Nat.not_lt.1 hlt

theorem publishChips_keeps : ∀ {data : ProfilerData} (summaries : Summaries),
    (∀ chip ∈ data, ChipKeeps total programs chip) →
    (self.publishChips data summaries).Keeps (PublisherKeeps self total programs timestamp)
  | [], _, _ => Thread.keeps_pure _
  | _ :: _, _, h => by
    rw [List.forall_mem_cons] at h
    exact (publishChip_keeps h.1).bind (fun _ => publishChips_keeps _ h.2)

theorem publishProfilerData_keeps (hnone : programs 0) {data : ProfilerData}
    (h : ∀ chip ∈ data, ChipKeeps total programs chip) (finishedAt : Rat) :
    (self.publishProfilerData data finishedAt).Keeps (PublisherKeeps self total programs timestamp) := by
  have hdata : (self.publishData data finishedAt).Keeps (PublisherKeeps self total programs timestamp) := by
    unfold publishData
    refine (publishChips_keeps [] h).bind (fun _ => (publishIdle_keeps hnone _ _).bind (fun _ => ?_))
    refine Thread.Keeps.bind (Thread.keeps_update (fun s hs => ?_)) (fun _ => Thread.keeps_pure _)
    exact ⟨hs.clock, hs.known, hs.written⟩
  intro s hs
  unfold publishProfilerData
  rw [Thread.alone_bind, Thread.alone_get]
  dsimp only
  split
  · exact hs
  · exact caught_keeps hdata s hs

variable (self total programs timestamp) in
/-- **What one call keeps, a run of calls keeps.** -/
theorem after_keeps (hnone : programs 0) {inputs : Nat → PublishInput} {steps : List PublisherStep}
    (hclock : ∀ k, 0 ≤ (inputs k).time ∧ timestamp (truncate (inputs k).time))
    (h : ∀ data finishedAt, .publishProfilerData data finishedAt ∈ steps →
      ∀ chip ∈ data, ChipKeeps total programs chip) :
    PublisherKeeps self total programs timestamp (self.after inputs steps) := by
  have hfold : ∀ (steps : List PublisherStep) (s : PublisherState), PublisherKeeps self total programs timestamp s →
      (∀ data finishedAt, .publishProfilerData data finishedAt ∈ steps → ∀ chip ∈ data, ChipKeeps total programs chip) →
      PublisherKeeps self total programs timestamp (steps.foldl self.takeStep s) := by
    intro steps
    induction steps with
    | nil => exact fun s hs _ => hs
    | cons step rest ih =>
      intro s hs hsteps
      rw [List.foldl_cons]
      refine ih _ ?_ (fun data finishedAt hm => hsteps data finishedAt (List.mem_cons_of_mem step hm))
      cases step with
      | publishProfilerData data finishedAt =>
        exact publishProfilerData_keeps hnone (hsteps data finishedAt List.mem_cons_self) finishedAt s hs
      | close order => exact close_keeps hnone order s hs
  refine hfold steps _ ⟨hclock, fun _ _ hn => ?_, fun r hr => ?_⟩ h
  · cases hn
  · cases hr

/-! ### Counts -/

theorem foldl_max_le_iff {bound : Nat} : ∀ {counts : List Nat} {start : Nat},
    counts.foldl max start ≤ bound ↔ start ≤ bound ∧ ∀ n ∈ counts, n ≤ bound
  | [], start => by simp
  | n :: rest, start => by
    rw [List.foldl_cons, foldl_max_le_iff, max_le_iff, List.forall_mem_cons, and_assoc]

/-- Counts that fit have a maximum that fits. -/
theorem foldl_max_fits {value : ProgramRecord → Except PyRaised Int} {records : List ProgramRecord} {counts : List Nat}
    (h : records.map value = counts.map (fun n : Nat => .ok (n : Int)))
    (hfits : ∀ r ∈ records, ∀ n, value r = .ok n → n ≤ int64Max) : ((counts.foldl max 0 : Nat) : Int) ≤ int64Max := by
  have hmax : (0 : Int) ≤ int64Max := by decide
  rw [← Int.le_toNat hmax, foldl_max_le_iff]
  refine ⟨Nat.zero_le _, fun n hn => ?_⟩
  obtain ⟨r, hr, hv⟩ := List.mem_map.1 (h ▸ List.mem_map_of_mem hn)
  rw [Int.le_toNat hmax]
  exact hfits r hr n hv

theorem of_convert {records : List ProgramRecord} {coreCounts coreTotals : List Nat}
    (h : convert records = .ok (coreCounts, coreTotals)) :
    records.map (·.coreCount) = coreCounts.map (fun n : Nat => .ok (n : Int)) ∧
      records.map (·.numAvailableCores) = coreTotals.map (fun n : Nat => .ok (n : Int)) := by
  unfold convert at h
  obtain ⟨counts, hc, h⟩ := Posix.ok_of_bind h
  obtain ⟨totals, ht, h⟩ := Posix.ok_of_bind h
  cases h
  exact ⟨mapM_nonNegativeInt hc, mapM_nonNegativeInt ht⟩

theorem ChipRecords.Fits.keeps {chip : ChipRecords} (h : chip.Fits) :
    ChipKeeps (fun _ => True) (fun _ => True) chip := by
  intro records coreCounts coreTotals hr hc
  obtain ⟨hcounts, htotals⟩ := of_convert hc
  exact ⟨trivial, foldl_max_fits hcounts (fun r hm => (h records hr r hm).1),
    fun _ => ⟨trivial, foldl_max_fits htotals (fun r hm => (h records hr r hm).2)⟩⟩

theorem ChipRecords.Measured.keeps {chip : ChipRecords} (hm : chip.Measured) (h : chip.Fits) :
    ChipKeeps (· ≠ 0) (fun n => (n : Int) ≤ int64Max) chip := by
  intro records coreCounts coreTotals hr hc
  obtain ⟨hcounts, htotals⟩ := of_convert hc
  obtain ⟨-, hused, htotal⟩ := h.keeps records coreCounts coreTotals hr hc
  refine ⟨(hm records hr).1, hused, fun hne => ⟨fun hzero => ?_, (htotal hne).2⟩⟩
  have hrecords : records ≠ [] := by
    rintro rfl
    exact hne (List.map_eq_nil_iff.1 htotals.symm)
  obtain ⟨r, hmem, n, hn, hpos⟩ := (hm records hr).2 hrecords
  obtain ⟨m, hmem', hv⟩ := List.mem_map.1 (htotals ▸ List.mem_map_of_mem (f := ProgramRecord.numAvailableCores) hmem)
  have hle := (foldl_max_le_iff.1 (le_of_eq hzero)).2 m hmem'
  obtain rfl := Except.ok.inj (hv.trans hn)
  omega

/-- **What a publisher writes over any calls is read back exactly when** its total, if it has one, is not zero, and its
other counts fit into 64 bits; and all of it is where every chip that has run programs has cores. -/
theorem readBack_iff (hlabels : WellLabelled self) {inputs : Nat → PublishInput} (hclock : ∀ k, 0 ≤ (inputs k).time)
    {steps : List PublisherStep}
    (hfits : ∀ data finishedAt, .publishProfilerData data finishedAt ∈ steps → ∀ chip ∈ data, chip.Fits)
    (ingestor : StateIngestor) (diagnostics : TelemetrySource) :
    (∀ r ∈ (self.after inputs steps).written, IsReadBack ingestor diagnostics self r ↔
      r.summary.tensixCoresTotal ≠ some 0 ∧ (r.summary.programsObserved : Int) ≤ int64Max ∧
        r.timestamp ≤ int64Max) ∧
    ((∀ data finishedAt, .publishProfilerData data finishedAt ∈ steps → ∀ chip ∈ data, chip.Measured) →
      (∀ k, truncate (inputs k).time ≤ int64Max) →
      ∀ r ∈ (self.after inputs steps).written, IsReadBack ingestor diagnostics self r) := by
  have hsound := after_keeps self (fun _ => True) (fun _ => True) (fun _ => True) trivial
    (fun k => ⟨hclock k, trivial⟩)
    (fun data finishedAt hs chip hc => (hfits data finishedAt hs chip hc).keeps)
  have hiff : ∀ r ∈ (self.after inputs steps).written, IsReadBack ingestor diagnostics self r ↔ _ :=
    fun r hr => isReadBack_sound hlabels (hsound.written r hr).1
  refine ⟨hiff, fun hmeasured htime r hr => (hiff r hr).2 ?_⟩
  have hkept := after_keeps self (· ≠ 0) (fun n => (n : Int) ≤ int64Max) (· ≤ int64Max) (by decide)
    (fun k => ⟨hclock k, htime k⟩)
    (fun data finishedAt hs chip hc => (hmeasured data finishedAt hs chip hc).keeps (hfits data finishedAt hs chip hc))
  obtain ⟨-, htotal, hprograms, hstamp⟩ := hkept.written r hr
  exact ⟨fun hzero => htotal 0 hzero rfl, hprograms, hstamp⟩

end Runs

/-! ## A device without cores -/

def trainer : MetaliumProfilerPublisher where
  workloadId := "train".toList
  workloadId_ne := train_ne
  layout_valid := layout_two_valid

theorem wellLabelled_trainer : WellLabelled trainer where
  workloadId := ⟨by decide, by decide, by simp [trainer], by decide⟩
  podNamespace := fun _ h => nomatch h
  podName := fun _ h => nomatch h
  containerName := fun _ h => nomatch h

/-- One record of a chip. -/
def oneProgram (coreCount numAvailableCores : Nat) : ChipRecords where
  chipId := ['0']
  records := .ok [⟨.ok coreCount, .ok numAvailableCores⟩]

theorem fits_oneProgram {coreCount numAvailableCores : Nat} (hc : (coreCount : Int) ≤ int64Max)
    (hn : (numAvailableCores : Int) ≤ int64Max) : (oneProgram coreCount numAvailableCores).Fits := by
  intro records hr r hm
  cases hr
  obtain rfl := List.mem_singleton.1 hm
  exact ⟨fun n he => Except.ok.inj he ▸ hc, fun n he => Except.ok.inj he ▸ hn⟩

theorem readBack_oneProgram :
    (trainer.after freshPublisher.inputs [.publishProfilerData [oneProgram 8 64] 0]).written.length = 1 ∧
      ∀ r ∈ (trainer.after freshPublisher.inputs [.publishProfilerData [oneProgram 8 64] 0]).written,
        IsReadBack alwaysFresh .metaliumProfilerState trainer r := by
  have hdata : ∀ {p : ChipRecords → Prop} {data finishedAt},
      .publishProfilerData data finishedAt ∈ [PublisherStep.publishProfilerData [oneProgram 8 64] 0] →
      p (oneProgram 8 64) → ∀ chip ∈ data, p chip := by
    intro p data finishedAt hs hp chip hm
    cases List.mem_singleton.1 hs
    exact List.mem_singleton.1 hm ▸ hp
  refine ⟨by decide +kernel, (readBack_iff wellLabelled_trainer (fun _ => le_refl 0)
    (fun _ _ hs => hdata hs (fits_oneProgram (by decide) (by decide))) _ _).2 (fun _ _ hs => hdata hs ?_) (fun _ => ?_)⟩
  · intro records hr
    cases hr
    exact ⟨by decide, fun _ => ⟨_, List.mem_cons_self, 64, rfl, by decide⟩⟩
  · show truncate 0 ≤ int64Max
    decide +kernel

def corelessRecord : WrittenRecord where
  deviceKey := ['0']
  summary := ⟨1, 1, 0, some 0⟩
  timestamp := 0
  payload := ("schema_version=2\nworkload_id=train\nsample_timestamp_seconds=0\nactive=1\nprograms_observed=1\n" ++
    "tensix_cores_used=0\ntensix_cores_total=0\n").toList

/-- A read of a device without cores writes a total that the exporter refuses. -/
theorem coreless_refused : WellLabelled trainer ∧ (∀ k, 0 ≤ (freshPublisher.inputs k).time) ∧ (oneProgram 0 0).Fits ∧
    ∃ r ∈ (trainer.after freshPublisher.inputs [.publishProfilerData [oneProgram 0 0] 0]).written,
      ¬ IsReadBack alwaysFresh .metaliumProfilerState trainer r := by
  refine ⟨wellLabelled_trainer, fun _ => le_refl 0, fits_oneProgram (by decide) (by decide), corelessRecord, ?_, ?_⟩
  · have hwritten : (trainer.after freshPublisher.inputs [.publishProfilerData [oneProgram 0 0] 0]).written =
        [corelessRecord] := by
      decide +kernel
    rw [hwritten]
    exact List.mem_cons_self
  · rintro ⟨w, log, h, -⟩
    have hrefused : (alwaysFresh.parseWorkload corelessRecord.payload 2 .metaliumProfilerState).value = some none := by
      decide +kernel
    have haccepted := congrArg Tally.value h
    rw [Tally.value_returned] at haccepted
    exact nomatch hrefused.symm.trans haccepted

end Tt
