import TtMetricsExporter.Payload
/-!
# Injection — what text inside a value can do to the other fields

A value's later lines are read as fields of their own.  A key that is written twice refuses the file, so what they can
add to an accepted record are the keys the publisher left out, and a label whose first line is blank is lost.  The
record says what was published exactly when the values keep clear of both (`readsBack_iff_keptApart`).
-/
namespace Tt

open Py (Str strInt)
open MetaliumProfilerPublisher

/-! ## Acceptance -/

theorem fields_of_workloadOf {values : List (Str × Str)} {w : Workload} (h : workloadOf values = .ok w) :
    stateNonNegativeInt values "active".toList = .ok w.active ∧
    stateNonNegativeInt values "programs_observed".toList = .ok w.programsObserved ∧
    stateNonNegativeInt values "tensix_cores_used".toList = .ok w.tensixCoresUsed ∧
    stateNonNegativeInt values "tensix_cores_total".toList = .ok w.tensixCoresTotal ∧
    stateNonNegativeInt values "sample_timestamp_seconds".toList = .ok w.sampleTimestampSeconds ∧
    w.workloadId = (stateString values "workload_id".toList).getD [] ∧
    w.podNamespace = stateString values "pod_namespace".toList ∧ w.podName = stateString values "pod_name".toList ∧
    w.containerName = stateString values "container_name".toList := by
  unfold workloadOf at h
  obtain ⟨active, ha, h⟩ := Posix.ok_of_bind h
  obtain ⟨programs, hp, h⟩ := Posix.ok_of_bind h
  obtain ⟨used, hu, h⟩ := Posix.ok_of_bind h
  obtain ⟨total, ht, h⟩ := Posix.ok_of_bind h
  obtain ⟨timestamp, hs, h⟩ := Posix.ok_of_bind h
  obtain rfl := Except.ok.inj h
  exact ⟨ha, hp, hu, ht, hs, rfl, rfl, rfl, rfl⟩

/-- **The contents that `_parse_workload` accepts**, and the records it returns. -/
theorem parseWorkload_eq_some {self : StateIngestor} {content : Str} {schema : Int} {diagnostics : TelemetrySource}
    {w : Workload} : (self.parseWorkload content schema diagnostics).value = some (some w) ↔
      ∃ values record, parseKeyValues content = some values ∧
        stateNonNegativeInt values "schema_version".toList = .ok (some schema) ∧ workloadOf values = .ok record ∧
        invalidWorkload record = false ∧ w = { record with
          stale := isStale self.staleAfterSeconds self.nowSeconds (record.sampleTimestampSeconds.getD 0) } := by
  unfold StateIngestor.parseWorkload
  generalize "schema_version".toList = key
  cases hv : parseKeyValues content with
  | none => simp [recordIssue]
  | some values =>
    simp only [Option.some.injEq, exists_and_left, exists_eq_left']
    cases hs : stateNonNegativeInt values key with
    | error e => simp [Except.toOption]
    | ok found =>
      by_cases hf : found = some schema
      · subst hf
        cases hw : workloadOf values with
        | error e => simp [Except.toOption]
        | ok record =>
          cases hi : invalidWorkload record with
          | true => simp [Except.toOption, recordIssue, hi]
          | false =>
            cases hst : isStale self.staleAfterSeconds self.nowSeconds (record.sampleTimestampSeconds.getD 0) <;>
              simp [Except.toOption, recordIssue, recordAccepted, hi, hst, @eq_comm _ w]
      · simp [Except.toOption, recordIssue, hf]

/-! ## What is read under a key -/

/-- What the exporter reads of a value. -/
def readValue (value : Str) : Str := Py.stripAscii (firstLine value)

/-- The fields of a record that were not written for it. -/
def injectedFields (self : MetaliumProfilerPublisher) : List (Str × Str) :=
  (self.workloadId :: self.labelFields.map Prod.snd).flatMap laterFields

theorem lookup_map_snd {α β γ : Type*} [BEq α] (f : β → γ) (key : α) : ∀ (l : List (α × β)),
    (l.map (fun x => (x.1, f x.2))).lookup key = (l.lookup key).map f
  | [] => rfl
  | (k, v) :: rest => by
    rw [List.map_cons, List.lookup_cons, List.lookup_cons, lookup_map_snd f key rest]
    cases key == k <;> rfl

section
variable {self : MetaliumProfilerPublisher} {summary : ProfilerSummary} {timestamp : Int} {text : Str}

theorem key_of_labelFields {field : Str × Str} (h : field ∈ self.labelFields) :
    field.1 ∈ ["pod_namespace".toList, "pod_name".toList, "container_name".toList] := by
  obtain ⟨⟨key, value⟩, hm, hf⟩ := List.mem_filterMap.1 h
  obtain ⟨v, -, rfl⟩ := Option.map_eq_some_iff.1 hf
  exact List.mem_map_of_mem (f := Prod.fst) hm

theorem key_of_numberFields {field : Str × Int} (h : field ∈ numberFields summary timestamp) :
    field.1 ∈ ["sample_timestamp_seconds".toList, "active".toList, "programs_observed".toList,
      "tensix_cores_used".toList, "tensix_cores_total".toList] := by
  unfold numberFields at h
  rcases List.mem_append.1 h with h | h
  · exact List.mem_append_left ["tensix_cores_total".toList] (List.mem_map_of_mem (f := Prod.fst) h)
  · obtain ⟨total, -, rfl⟩ := Option.map_eq_some_iff.1 (Option.mem_toList.1 h)
    exact List.mem_append_right ["sample_timestamp_seconds".toList, "active".toList, "programs_observed".toList,
      "tensix_cores_used".toList] List.mem_cons_self

theorem plainKey_recordFields : ∀ field ∈ self.recordFields summary timestamp, PlainKey field.1 := by
  have hhead : ∀ key ∈ ["schema_version".toList, "workload_id".toList], PlainKey key := by decide
  have hnumbers : ∀ key ∈ ["sample_timestamp_seconds".toList, "active".toList, "programs_observed".toList,
      "tensix_cores_used".toList, "tensix_cores_total".toList], PlainKey key := by decide
  have hlabels : ∀ key ∈ ["pod_namespace".toList, "pod_name".toList, "container_name".toList], PlainKey key := by
    decide
  intro field hf
  unfold recordFields at hf
  rcases List.mem_append.1 hf with hf | hf
  · rcases List.mem_append.1 hf with hf | hf
    · exact hhead _ (List.mem_map_of_mem (f := Prod.fst) hf)
    · obtain ⟨g, hg, rfl⟩ := List.mem_map.1 hf
      exact hnumbers _ (key_of_numberFields hg)
  · exact hlabels _ (key_of_labelFields hf)

theorem payload_eq_some : self.payload summary timestamp = some text ↔
    (∀ field ∈ numberFields summary timestamp, field.2.natAbs < 10 ^ Py.maxStrDigits) ∧
      text = (self.recordFields summary timestamp).flatMap recordLine := by
  unfold payload
  split
  · rename_i h
    obtain ⟨field, hf, hn⟩ := h
    exact iff_of_false (fun he => nomatch he) (fun he => Nat.not_lt.2 hn (he.1 field hf))
  · rename_i h
    rw [Option.some.injEq, eq_comm]
    exact ⟨fun he => ⟨fun field hf => Nat.lt_of_not_le (fun hn => h ⟨field, hf, hn⟩), he⟩, And.right⟩

theorem laterFields_recordFields :
    (self.recordFields summary timestamp).flatMap (fun f => laterFields f.2) = injectedFields self := by
  have hnumbers : ((numberFields summary timestamp).map (fun f => (f.1, strInt f.2))).flatMap
      (fun f => laterFields f.2) = [] := by
    rw [List.flatMap_eq_nil_iff]
    intro f hf
    obtain ⟨g, -, rfl⟩ := List.mem_map.1 hf
    exact (lines_strInt g.2).1
  have hlabels : (self.labelFields.map Prod.snd).flatMap laterFields =
      self.labelFields.flatMap (fun f => laterFields f.2) := List.flatMap_map ..
  unfold recordFields injectedFields
  rw [List.flatMap_append, List.flatMap_append, hnumbers, List.append_nil, List.flatMap_cons, List.flatMap_cons,
    List.flatMap_nil, List.append_nil, List.flatMap_cons, hlabels]
  dsimp only
  rw [(lines_strInt _).1, List.nil_append]

variable (self summary timestamp) in
/-- The fields of a payload are the written ones and the injected ones. -/
theorem contentFields_perm : (contentFields ((self.recordFields summary timestamp).flatMap recordLine)).Perm
    ((self.recordFields summary timestamp).map (fun f => (f.1, readValue f.2)) ++ injectedFields self) := by
  have hinjected : injectedFields self = (self.recordFields summary timestamp).flatMap (fun f => laterFields f.2) :=
    laterFields_recordFields.symm
  rw [contentFields_payload plainKey_recordFields, hinjected]
  exact (List.map_append_flatMap_perm _ _ _).symm

/-- What is read under a key is what was written there, and what was injected where nothing was. -/
theorem lookup_values {values : List (Str × Str)} (hp : self.payload summary timestamp = some text)
    (hv : parseKeyValues text = some values) (key : Str) :
    values.lookup key =
      (((self.recordFields summary timestamp).lookup key).map readValue).or ((injectedFields self).lookup key) := by
  obtain ⟨-, rfl⟩ := payload_eq_some.1 hp
  obtain ⟨-, hfit, rfl⟩ := parseKeyValues_eq_some.1 hv
  rw [sameMap_of_perm hfit.2 (contentFields_perm self summary timestamp) key, List.lookup_append, lookup_map_snd]

/-- A field that may be left out, as a dictionary of its own. -/
def optionalField (key : Str) (value : Option Str) : List (Str × Str) := (value.map (fun value => (key, value))).toList

/-- The fields of a record, one by one. -/
theorem recordFields_eq : self.recordFields summary timestamp =
    [("schema_version".toList, strInt self.layoutVersion), ("workload_id".toList, self.workloadId),
      ("sample_timestamp_seconds".toList, strInt timestamp), ("active".toList, strInt summary.active),
      ("programs_observed".toList, strInt summary.programsObserved),
      ("tensix_cores_used".toList, strInt summary.tensixCoresUsed)] ++
    (optionalField "tensix_cores_total".toList (summary.tensixCoresTotal.map (fun total : Nat => strInt total)) ++
      (optionalField "pod_namespace".toList (self.podNamespace.filter (· ≠ [])) ++
        (optionalField "pod_name".toList (self.podName.filter (· ≠ [])) ++
          optionalField "container_name".toList (self.containerName.filter (· ≠ []))))) := by
  unfold recordFields numberFields labelFields optionalField
  rw [List.filterMap_cons, List.filterMap_cons, List.filterMap_cons, List.filterMap_nil]
  dsimp only
  cases summary.tensixCoresTotal <;> cases self.podNamespace.filter (· ≠ []) <;>
    cases self.podName.filter (· ≠ []) <;> cases self.containerName.filter (· ≠ []) <;> rfl

variable (self summary timestamp) in
theorem lookup_numbers :
    (self.recordFields summary timestamp).lookup "schema_version".toList = some (strInt self.layoutVersion) ∧
    (self.recordFields summary timestamp).lookup "sample_timestamp_seconds".toList = some (strInt timestamp) ∧
    (self.recordFields summary timestamp).lookup "active".toList = some (strInt summary.active) ∧
    (self.recordFields summary timestamp).lookup "programs_observed".toList = some (strInt summary.programsObserved) ∧
    (self.recordFields summary timestamp).lookup "tensix_cores_used".toList = some (strInt summary.tensixCoresUsed) := by
  rw [recordFields_eq]
  exact ⟨rfl, rfl, rfl, rfl, rfl⟩

variable (self summary timestamp) in
/-- The fields that may be left out are found where they are there. -/
theorem lookup_optionals :
    (self.recordFields summary timestamp).lookup "tensix_cores_total".toList =
      summary.tensixCoresTotal.map (fun total : Nat => strInt total) ∧
    (self.recordFields summary timestamp).lookup "pod_namespace".toList = self.podNamespace.filter (· ≠ []) ∧
    (self.recordFields summary timestamp).lookup "pod_name".toList = self.podName.filter (· ≠ []) ∧
    (self.recordFields summary timestamp).lookup "container_name".toList = self.containerName.filter (· ≠ []) := by
  rw [recordFields_eq]
  cases summary.tensixCoresTotal <;> cases self.podNamespace.filter (· ≠ []) <;>
    cases self.podName.filter (· ≠ []) <;> cases self.containerName.filter (· ≠ []) <;> exact ⟨rfl, rfl, rfl, rfl⟩

theorem stateNonNegativeInt_of_strInt {values : List (Str × Str)} {key : Str} {n : Int}
    (hl : values.lookup key = some (readValue (strInt n))) (hn : n.natAbs < 10 ^ Py.maxStrDigits) :
    stateNonNegativeInt values key = .ok ((some (min (max n int64Min) int64Max)).filter (0 ≤ ·)) := by
  have hread : readValue (strInt n) = strInt n := (lines_strInt n).2
  have hne : strInt n ≠ [] := by
    obtain ⟨sign, body, he, -, hb, -⟩ := strInt_parts n
    rw [he]
    exact List.append_ne_nil_of_right_ne_nil _ hb
  unfold stateNonNegativeInt stateString
  rw [hl, hread, Option.filter_some_pos (by simpa using hne), Option.getD_some, parseInt64_strInt hn]
  rfl

/-- A published count is read as it is, up to the clamp. -/
theorem stateNonNegativeInt_of_count {values : List (Str × Str)} {key : Str} {n : Int} (h0 : 0 ≤ n)
    (hl : values.lookup key = some (readValue (strInt n))) (hn : n.natAbs < 10 ^ Py.maxStrDigits) :
    stateNonNegativeInt values key = .ok (some (min n int64Max)) := by
  have hmin : (int64Min : Int) ≤ n := le_trans (by decide) h0
  have hpos : 0 ≤ min n int64Max := le_min h0 (by decide)
  rw [stateNonNegativeInt_of_strInt hl hn, max_eq_left hmin, Option.filter_some_pos (by simpa using hpos)]

end

/-! ## Condition -/

/-- A label that is read exactly when it is published: something is left of its first line, or nothing was injected
under its key. -/
def LabelKept (self : MetaliumProfilerPublisher) (key : Str) (value : Option Str) : Prop :=
  match value.filter (· ≠ []) with
  | some value => readValue value ≠ []
  | none => stateString (injectedFields self) key = none

/-- The record that is read is the one that was published. -/
structure ReadsBack (publisher : MetaliumProfilerPublisher) (summary : ProfilerSummary) (timestamp schema : Int)
    (w : Workload) : Prop where
  schemaVersion : schema = publisher.layoutVersion
  active : w.active = some (summary.active : Int)
  programsObserved : w.programsObserved = some (summary.programsObserved : Int)
  tensixCoresUsed : w.tensixCoresUsed = some (summary.tensixCoresUsed : Int)
  tensixCoresTotal : w.tensixCoresTotal = summary.tensixCoresTotal.map (fun total : Nat => (total : Int))
  sampleTimestampSeconds : w.sampleTimestampSeconds = some timestamp
  podNamespace : w.podNamespace = none ↔ publisher.podNamespace.filter (· ≠ []) = none
  podName : w.podName = none ↔ publisher.podName.filter (· ≠ []) = none
  containerName : w.containerName = none ↔ publisher.containerName.filter (· ≠ []) = none

/-- The numbers are within the exporter's range, and what the values inject falls under none of the keys left out. -/
structure KeptApart (publisher : MetaliumProfilerPublisher) (summary : ProfilerSummary) (timestamp : Int) : Prop where
  numbers : ∀ field ∈ numberFields summary timestamp, field.2 ≤ int64Max
  total : summary.tensixCoresTotal = none →
    stateNonNegativeInt (injectedFields publisher) "tensix_cores_total".toList = .ok none
  podNamespace : LabelKept publisher "pod_namespace".toList publisher.podNamespace
  podName : LabelKept publisher "pod_name".toList publisher.podName
  containerName : LabelKept publisher "container_name".toList publisher.containerName

section
variable {self : MetaliumProfilerPublisher} {summary : ProfilerSummary} {timestamp : Int} {text : Str}
variable {values : List (Str × Str)}

theorem stateString_none_iff {key : Str} {value : Option Str}
    (hl : values.lookup key = ((value.filter (· ≠ [])).map readValue).or ((injectedFields self).lookup key)) :
    (stateString values key = none ↔ value.filter (· ≠ []) = none) ↔ LabelKept self key value := by
  unfold LabelKept stateString
  rw [hl]
  cases value.filter (· ≠ []) with
  | none => simp
  | some value => simp

theorem count_iff {parsed : Option Int} {key : Str} {n : Int} (h0 : 0 ≤ n)
    (hl : values.lookup key = some (readValue (strInt n))) (hn : n.natAbs < 10 ^ Py.maxStrDigits)
    (hs : stateNonNegativeInt values key = .ok parsed) : parsed = some n ↔ n ≤ int64Max := by
  rw [stateNonNegativeInt_of_count h0 hl hn] at hs
  obtain rfl := Except.ok.inj hs
  rw [Option.some.injEq, min_eq_left_iff]

theorem forall_numberFields {p : Int → Prop} : (∀ field ∈ numberFields summary timestamp, p field.2) ↔
    p timestamp ∧ p summary.active ∧ p summary.programsObserved ∧ p summary.tensixCoresUsed ∧
      ∀ total ∈ summary.tensixCoresTotal, p (total : Int) := by
  unfold numberFields
  cases summary.tensixCoresTotal <;> simp

/-- A record without a timestamp is refused. -/
theorem timestamp_nonneg {record : Workload} {key : Str} (hl : values.lookup key = some (readValue (strInt timestamp)))
    (hn : timestamp.natAbs < 10 ^ Py.maxStrDigits)
    (hs : stateNonNegativeInt values key = .ok record.sampleTimestampSeconds) (hi : invalidWorkload record = false) :
    0 ≤ timestamp := by
  rw [stateNonNegativeInt_of_strInt hl hn] at hs
  have hsome : record.sampleTimestampSeconds.isNone = false := by
    simp only [invalidWorkload, Bool.or_eq_false_iff] at hi
    exact hi.1.2
  rw [← Except.ok.inj hs] at hsome
  by_contra hneg
  have hclamp : ¬ 0 ≤ min (max timestamp int64Min) int64Max := by
    simp only [int64Min, int64Max]
    omega
  rw [Option.filter_some_neg (by simpa using hclamp)] at hsome
  cases hsome

theorem total_iff {parsed : Option Int} {key : Str} {published : Option Nat}
    (hl : values.lookup key =
      ((published.map (fun total : Nat => strInt total)).map readValue).or ((injectedFields self).lookup key))
    (hn : ∀ total ∈ published, (total : Int).natAbs < 10 ^ Py.maxStrDigits)
    (hs : stateNonNegativeInt values key = .ok parsed) :
    parsed = published.map (fun total : Nat => (total : Int)) ↔ (∀ total ∈ published, (total : Int) ≤ int64Max) ∧
      (published = none → stateNonNegativeInt (injectedFields self) key = .ok none) := by
  cases published with
  | none =>
    have hsame : stateNonNegativeInt (injectedFields self) key = stateNonNegativeInt values key := by
      unfold stateNonNegativeInt stateString
      rw [hl]
      rfl
    rw [hsame, hs]
    simp
  | some total =>
    have hcount := count_iff (Int.natCast_nonneg total) hl (hn total rfl) hs
    simpa using hcount

theorem schema_eq {schema : Int} {key : Str} (hl : values.lookup key = some (readValue (strInt self.layoutVersion)))
    (hs : stateNonNegativeInt values key = .ok (some schema)) : schema = self.layoutVersion := by
  have hle : self.layoutVersion ≤ 2 := by
    rcases self.layout_valid with h | h <;> omega
  have hdigits : (self.layoutVersion : Int).natAbs < 10 ^ Py.maxStrDigits :=
    lt_of_le_of_lt hle (lt_of_lt_of_le (by decide : 2 < 10 ^ 1) (Nat.pow_le_pow_right (by decide) (by decide)))
  have hmax : (self.layoutVersion : Int) ≤ int64Max := le_trans (Int.ofNat_le.2 hle) (by decide)
  exact Option.some.inj ((count_iff (Int.natCast_nonneg _) hl hdigits hs).2 hmax)

/-- Nothing is read that was not written exactly when no value holds a field. -/
theorem injectedFields_eq_nil_iff (hp : self.payload summary timestamp = some text)
    (hv : parseKeyValues text = some values) :
    (∀ field ∈ contentFields text, field.1 ∈ (self.recordFields summary timestamp).map Prod.fst) ↔
      injectedFields self = [] := by
  obtain ⟨-, rfl⟩ := payload_eq_some.1 hp
  obtain ⟨-, hfit, -⟩ := parseKeyValues_eq_some.1 hv
  have hperm := contentFields_perm self summary timestamp
  have hkeys := (hperm.map Prod.fst).nodup_iff.1 hfit.2
  rw [List.map_append, List.map_map] at hkeys
  constructor
  · intro h
    rw [List.eq_nil_iff_forall_not_mem]
    intro field hf
    have hm := h field (hperm.mem_iff.2 (List.mem_append_right _ hf))
    exact (List.nodup_append.1 hkeys).2.2 _ hm _ (List.mem_map_of_mem hf) rfl
  · intro h field hf
    rw [hperm.mem_iff, h, List.append_nil, List.mem_map] at hf
    obtain ⟨g, hg, rfl⟩ := hf
    exact List.mem_map.2 ⟨g, hg, rfl⟩

/-- **What is accepted is what was published, exactly when the values keep clear of each other**; and a field that was
not written is read exactly when a value holds one. -/
theorem readsBack_iff_keptApart {ingestor : StateIngestor} {schema : Int} {diagnostics : TelemetrySource} {w : Workload}
    (hp : self.payload summary timestamp = some text)
    (ha : (ingestor.parseWorkload text schema diagnostics).value = some (some w)) :
    (ReadsBack self summary timestamp schema w ↔ KeptApart self summary timestamp) ∧
    ((∀ field ∈ contentFields text, field.1 ∈ (self.recordFields summary timestamp).map Prod.fst) ↔
      injectedFields self = []) := by
  obtain ⟨values, record, hv, hs, hw, hi, rfl⟩ := parseWorkload_eq_some.1 ha
  refine ⟨?_, injectedFields_eq_nil_iff hp hv⟩
  obtain ⟨hactive, hprograms, hused, htotal, htimestamp, -, hns, hpn, hcn⟩ := fields_of_workloadOf hw
  have hlookup := lookup_values hp hv
  have hread : ∀ {key value}, (self.recordFields summary timestamp).lookup key = some value →
      values.lookup key = some (readValue value) := by
    intro key value hk
    rw [hlookup, hk]
    rfl
  obtain ⟨lschema, ltimestamp, lactive, lprograms, lused⟩ :=
    lookup_numbers self summary timestamp
  obtain ⟨ltotal, lns, lpn, lcn⟩ := lookup_optionals self summary timestamp
  obtain ⟨dtimestamp, dactive, dprograms, dused, dtotal⟩ :=
    (forall_numberFields (p := fun n => n.natAbs < 10 ^ Py.maxStrDigits)).1 (payload_eq_some.1 hp).1
  have iactive := count_iff (Int.natCast_nonneg _) (hread lactive) dactive hactive
  have iprograms := count_iff (Int.natCast_nonneg _) (hread lprograms) dprograms hprograms
  have iused := count_iff (Int.natCast_nonneg _) (hread lused) dused hused
  have itimestamp := count_iff (timestamp_nonneg (hread ltimestamp) dtimestamp htimestamp hi) (hread ltimestamp)
    dtimestamp htimestamp
  have itotal := total_iff (by rw [hlookup, ltotal]) dtotal htotal
  have hschema := schema_eq (hread lschema) hs
  have ins : (record.podNamespace = none ↔ _) ↔ _ := hns ▸ stateString_none_iff (lns ▸ hlookup _)
  have ipn : (record.podName = none ↔ _) ↔ _ := hpn ▸ stateString_none_iff (lpn ▸ hlookup _)
  have icn : (record.containerName = none ↔ _) ↔ _ := hcn ▸ stateString_none_iff (lcn ▸ hlookup _)
  constructor
  · intro h
    exact ⟨(forall_numberFields (p := (· ≤ int64Max))).2 ⟨itimestamp.1 h.sampleTimestampSeconds, iactive.1 h.active,
      iprograms.1 h.programsObserved, iused.1 h.tensixCoresUsed, (itotal.1 h.tensixCoresTotal).1⟩,
      (itotal.1 h.tensixCoresTotal).2, ins.1 h.podNamespace, ipn.1 h.podName, icn.1 h.containerName⟩
  · intro h
    obtain ⟨htimestamp, hactive, hprograms, hused, htotals⟩ :=
      (forall_numberFields (p := (· ≤ int64Max))).1 h.numbers
    exact ⟨hschema, iactive.2 hactive, iprograms.2 hprograms, iused.2 hused, itotal.2 ⟨htotals, h.total⟩,
      itimestamp.2 htimestamp, ins.2 h.podNamespace, ipn.2 h.podName, icn.2 h.containerName⟩

end

/-! ## A line within an identity -/

/-- A publisher without labels, whose identity goes on after a line boundary. -/
def lineInIdentity : MetaliumProfilerPublisher where
  workloadId := "train\x0bpod_namespace=other".toList
  workloadId_ne := by decide
  layout_valid := layout_two_valid

def lineInIdentityText : Str :=
  ("schema_version=2\nworkload_id=train\x0bpod_namespace=other\nsample_timestamp_seconds=5\nactive=0\n" ++
    "programs_observed=0\ntensix_cores_used=0\n").toList

def lineInIdentityRecord : Workload where
  workloadId := "train".toList
  podNamespace := some "other".toList
  active := some 0
  programsObserved := some 0
  tensixCoresUsed := some 0
  sampleTimestampSeconds := some 5

/-- The ingestor that accepts it. -/
def alwaysFresh : StateIngestor where
  staleAfterSeconds := 0
  nowSeconds := 5

theorem payload_lineInIdentity : lineInIdentity.payload {} 5 = some lineInIdentityText := by
  decide +kernel

theorem parse_lineInIdentity : (alwaysFresh.parseWorkload lineInIdentityText 2 .metaliumProfilerState).value =
    some (some lineInIdentityRecord) := by
  decide +kernel

/-- A namespace is read that was not published. -/
theorem namespace_injected : lineInIdentity.payload {} 5 = some lineInIdentityText ∧
    (alwaysFresh.parseWorkload lineInIdentityText 2 .metaliumProfilerState).value = some (some lineInIdentityRecord) ∧
    ¬ ReadsBack lineInIdentity {} 5 2 lineInIdentityRecord :=
  ⟨payload_lineInIdentity, parse_lineInIdentity, fun h => nomatch h.podNamespace.2 rfl⟩

theorem lineInIdentity_not_keptApart : ¬ KeptApart lineInIdentity {} 5 := fun h =>
  nomatch ((readsBack_iff_keptApart payload_lineInIdentity parse_lineInIdentity).1.2 h).podNamespace.2 rfl

end Tt
