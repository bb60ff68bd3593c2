import TtMetricsExporter.Accepted
import TtMetricsExporter.Attributes
import TtMetricsExporter.Prometheus
/-!
# Staleness — a stale record's counts show nowhere

`Workload.hideCounts` forgets the counts of a stale record.  The merge and the counts of the device never look at what
it forgets, and neither does the text of the metrics.  So two profiler trees that differ only in the counts of records
that are stale in both are told apart by nothing that is exported (`stale_counts_invisible`).
-/
namespace Tt

open Py (Str strInt)
open Posix (Node Path Regular Similar)
open StateIngestor

/-- A stale record without its counts; a fresh one as it is. -/
def hideCounts (w : Workload) : Workload :=
  if w.stale then
    { w with active := none, programsObserved := none, tensixCoresUsed := none, tensixCoresTotal := none }
  else w

@[simp] theorem hideCounts_workloadId (w : Workload) : (hideCounts w).workloadId = w.workloadId := by
  unfold hideCounts; split <;> rfl

@[simp] theorem hideCounts_podNamespace (w : Workload) : (hideCounts w).podNamespace = w.podNamespace := by
  unfold hideCounts; split <;> rfl

@[simp] theorem hideCounts_podName (w : Workload) : (hideCounts w).podName = w.podName := by
  unfold hideCounts; split <;> rfl

@[simp] theorem hideCounts_containerName (w : Workload) : (hideCounts w).containerName = w.containerName := by
  unfold hideCounts; split <;> rfl

@[simp] theorem hideCounts_sampleTimestampSeconds (w : Workload) :
    (hideCounts w).sampleTimestampSeconds = w.sampleTimestampSeconds := by
  unfold hideCounts; split <;> rfl

@[simp] theorem hideCounts_stale (w : Workload) : (hideCounts w).stale = w.stale := by
  unfold hideCounts; split <;> rfl

theorem hideCounts_fresh {w : Workload} (h : w.stale = false) : hideCounts w = w := by
  unfold hideCounts
  rw [if_neg (by simp [h])]

@[simp] theorem workloadKey_hideCounts (w : Workload) : workloadKey (hideCounts w) = workloadKey w := by
  simp [workloadKey]

/-! ## Merging -/

/-- Records that only the counts of stale ones tell apart. -/
def AlikeRecord (a b : Workload) : Prop := hideCounts a = hideCounts b

theorem AlikeRecord.workloadId {a b : Workload} (h : AlikeRecord a b) : a.workloadId = b.workloadId := by
  rw [← hideCounts_workloadId a, h, hideCounts_workloadId]

theorem AlikeRecord.rename {a b : Workload} (h : AlikeRecord a b) (podUid : Str) :
    AlikeRecord { a with workloadId := podUid } { b with workloadId := podUid } := by
  have hid : ∀ w : Workload, hideCounts { w with workloadId := podUid } = { hideCounts w with workloadId := podUid } :=
    fun w => by unfold hideCounts; split <;> rfl
  rw [AlikeRecord, hid, hid, h]

/-- Lists of such records, one by one. -/
def AlikeRecords (l₁ l₂ : List Workload) : Prop := l₁.map hideCounts = l₂.map hideCounts

theorem alikeRecords_of_forall₂ {l₁ l₂ : List Workload} (h : List.Forall₂ AlikeRecord l₁ l₂) : AlikeRecords l₁ l₂ := by
  unfold AlikeRecords
  induction h with
  | nil => rfl
  | cons hab _ ih => rw [List.map_cons, List.map_cons, hab, ih]

theorem hideCounts_sortWorkloads (l : List Workload) :
    (sortWorkloads l).map hideCounts = sortWorkloads (l.map hideCounts) :=
  List.map_insertionSort _ _ _ _ (fun a _ b _ => by rw [workloadKey_hideCounts, workloadKey_hideCounts])

theorem AlikeRecords.sortWorkloads {l₁ l₂ : List Workload} (h : AlikeRecords l₁ l₂) :
    AlikeRecords (sortWorkloads l₁) (sortWorkloads l₂) := by
  rw [AlikeRecords, hideCounts_sortWorkloads, hideCounts_sortWorkloads, h]

theorem AlikeRecords.uniqueWorkloads : ∀ {l₁ l₂ : List Workload} (identities : List Str), AlikeRecords l₁ l₂ →
    Tally.Related AlikeRecords (uniqueWorkloads identities l₁) (uniqueWorkloads identities l₂)
  | [], [], _, _ => Tally.Related.pure rfl
  | [], _ :: _, _, h => by cases h
  | _ :: _, [], _, h => by cases h
  | a :: l₁, b :: l₂, identities, h => by
    obtain ⟨hab, ht⟩ := List.cons.inj h
    rw [Tt.uniqueWorkloads, Tt.uniqueWorkloads, AlikeRecord.workloadId hab]
    by_cases hm : b.workloadId ∈ identities
    · rw [if_pos hm, if_pos hm]
      exact (Tally.Related.refl _).bind (fun _ _ _ => AlikeRecords.uniqueWorkloads _ ht)
    · rw [if_neg hm, if_neg hm]
      refine (AlikeRecords.uniqueWorkloads _ ht).bind (fun u₁ u₂ hu => Tally.Related.pure ?_)
      rw [AlikeRecords, List.map_cons, List.map_cons, hab, hu]

/-- Accepted v2 records under their claims. -/
def AlikeClaims (a b : Str × Workload) : Prop := a.1 = b.1 ∧ AlikeRecord a.2 b.2

theorem AlikeRecords.exportable {v₁ v₂ : List (Str × Workload)} {l₁ l₂ : List Workload}
    (hv : List.Forall₂ AlikeClaims v₁ v₂) (hl : AlikeRecords l₁ l₂) :
    AlikeRecords (exportable v₁ l₁) (exportable v₂ l₂) := by
  have hclaims : v₁.map Prod.fst = v₂.map Prod.fst ∧ AlikeRecords (v₁.map Prod.snd) (v₂.map Prod.snd) := by
    unfold AlikeRecords
    induction hv with
    | nil => exact ⟨rfl, rfl⟩
    | cons hab _ ih =>
      simp only [List.map_cons, hab.1, ih.1, ih.2, true_and]
      rw [hab.2]
  have hfilter : ∀ l : List Workload, (l.filter (fun w => w.workloadId ∉ v₂.map Prod.fst)).map hideCounts =
      (l.map hideCounts).filter (fun w => w.workloadId ∉ v₂.map Prod.fst) := by
    intro l
    rw [List.filter_map]
    refine congrArg _ (List.filter_congr (fun w _ => ?_))
    rw [Function.comp_apply, hideCounts_workloadId]
  rw [AlikeRecords, Tt.exportable, Tt.exportable, List.map_append, List.map_append, hclaims.1, hclaims.2, hfilter,
    hfilter, hl]

theorem AlikeRecords.mergeWorkloads {v₁ v₂ : List (Str × Workload)} {l₁ l₂ : List Workload}
    (hv : List.Forall₂ AlikeClaims v₁ v₂) (hl : AlikeRecords l₁ l₂) :
    Tally.Related AlikeRecords (mergeWorkloads v₁ l₁) (mergeWorkloads v₂ l₂) := by
  unfold Tt.mergeWorkloads
  refine (AlikeRecords.uniqueWorkloads [] (AlikeRecords.exportable hv hl).sortWorkloads).bind (fun u₁ u₂ hu => ?_)
  have hlen : u₁.length = u₂.length := by simpa using congrArg List.length hu
  rw [hlen]
  by_cases hc : maximumWorkloads < u₂.length
  · rw [if_pos hc, if_pos hc]
    refine (Tally.Related.refl _).bind (fun _ _ _ => Tally.Related.pure ?_)
    rw [AlikeRecords, List.map_take, List.map_take, hu]
  · rw [if_neg hc, if_neg hc]
    exact Tally.Related.pure hu

/-! ## Reading -/

/-- The fields of a file that say how busy the workload was. -/
def countFields : List Str :=
  ["active".toList, "programs_observed".toList, "tensix_cores_used".toList, "tensix_cores_total".toList]

section Ingestor
variable (self : StateIngestor)

/-- The values describe a valid record, which is stale. -/
def DescribesStale (values : List (Str × Str)) : Prop :=
  ∃ w, workloadOf values = .ok w ∧ invalidWorkload w = false ∧
    isStale self.staleAfterSeconds self.nowSeconds (w.sampleTimestampSeconds.getD 0) = true

/-- Two texts of records that are valid and stale in both, with other counts. -/
structure DifferInCounts (t₁ t₂ : Str) : Prop where
  parsed : ∃ v₁ v₂, parseKeyValues t₁ = some v₁ ∧ parseKeyValues t₂ = some v₂ ∧
    (∀ key, key ∉ countFields → v₁.lookup key = v₂.lookup key) ∧ DescribesStale self v₁ ∧ DescribesStale self v₂

/-- A file that is the same, or that holds a stale record with other counts. -/
def SameOrStale (f₁ f₂ : Regular) : Prop :=
  f₁ = f₂ ∨ ∃ t₁ t₂, openedText (some (.regular f₁)) maximumStateFileBytes = some t₁ ∧
    openedText (some (.regular f₂)) maximumStateFileBytes = some t₂ ∧ DifferInCounts self t₁ t₂

/-- The texts read of such files. -/
def SameOrStaleText (t₁ t₂ : Str) : Prop := t₁ = t₂ ∨ DifferInCounts self t₁ t₂

theorem stateString_congr {v₁ v₂ : List (Str × Str)} {key : Str} (h : v₁.lookup key = v₂.lookup key) :
    stateString v₁ key = stateString v₂ key := by
  rw [stateString, stateString, h]

/-- The fields of a record that are not counts. -/
theorem labels_of_workloadOf {values : List (Str × Str)} {w : Workload} (h : workloadOf values = .ok w) :
    w.workloadId = (stateString values "workload_id".toList).getD [] ∧
    w.podNamespace = stateString values "pod_namespace".toList ∧ w.podName = stateString values "pod_name".toList ∧
    w.containerName = stateString values "container_name".toList ∧
    stateNonNegativeInt values "sample_timestamp_seconds".toList = .ok w.sampleTimestampSeconds := by
  unfold workloadOf at h
  obtain ⟨active, -, h⟩ := Posix.ok_of_bind h
  obtain ⟨programs, -, h⟩ := Posix.ok_of_bind h
  obtain ⟨used, -, h⟩ := Posix.ok_of_bind h
  obtain ⟨total, -, h⟩ := Posix.ok_of_bind h
  obtain ⟨timestamp, ht, h⟩ := Posix.ok_of_bind h
  obtain rfl := Except.ok.inj h
  exact ⟨rfl, rfl, rfl, rfl, ht⟩

/-- **Stale records with other counts are alike.** -/
theorem alike_of_values {v₁ v₂ : List (Str × Str)} {w₁ w₂ : Workload} (h₁ : workloadOf v₁ = .ok w₁)
    (h₂ : workloadOf v₂ = .ok w₂) (hl : ∀ key, key ∉ countFields → v₁.lookup key = v₂.lookup key) :
    AlikeRecord { w₁ with stale := true } { w₂ with stale := true } := by
  obtain ⟨hid₁, hns₁, hpn₁, hcn₁, ht₁⟩ := labels_of_workloadOf h₁
  obtain ⟨hid₂, hns₂, hpn₂, hcn₂, ht₂⟩ := labels_of_workloadOf h₂
  have hs : ∀ key, key ∉ countFields → stateString v₁ key = stateString v₂ key :=
    fun key hk => stateString_congr (hl key hk)
  rw [stateNonNegativeInt, hs _ (by decide)] at ht₁
  have ht : w₁.sampleTimestampSeconds = w₂.sampleTimestampSeconds := Except.ok.inj (ht₁.symm.trans ht₂)
  unfold AlikeRecord hideCounts
  simp only [if_true, hid₁, hid₂, hns₁, hns₂, hpn₁, hpn₂, hcn₁, hcn₂, ht, hs _ (show "workload_id".toList ∉ _ by decide),
    hs _ (show "pod_namespace".toList ∉ _ by decide), hs _ (show "pod_name".toList ∉ _ by decide),
    hs _ (show "container_name".toList ∉ _ by decide)]

theorem related_parseWorkload {t₁ t₂ : Str} (h : SameOrStaleText self t₁ t₂) (schema : Int)
    (diagnostics : TelemetrySource) : Tally.Related (Option.Rel AlikeRecord) (self.parseWorkload t₁ schema diagnostics)
      (self.parseWorkload t₂ schema diagnostics) := by
  rcases h with rfl | ⟨v₁, v₂, hp₁, hp₂, hl, ⟨w₁, hw₁, hv₁, hs₁⟩, w₂, hw₂, hv₂, hs₂⟩
  · refine (Tally.Related.refl _).mono (fun a b hab => ?_)
    subst hab
    cases a with
    | none => exact .none
    | some a => exact .some rfl
  · have hschema : stateNonNegativeInt v₁ "schema_version".toList = stateNonNegativeInt v₂ "schema_version".toList := by
      rw [stateNonNegativeInt, stateNonNegativeInt, stateString_congr (hl _ (by decide))]
    unfold StateIngestor.parseWorkload
    simp only [hp₁, hp₂, hschema]
    refine (Tally.Related.refl _).bind (fun s _ hs => ?_)
    subst hs
    split
    · exact (Tally.Related.refl _).bind (fun _ _ _ => Tally.Related.pure .none)
    · simp only [hw₁, hw₂, Tally.lift_ok, pure_bind, hv₁, hv₂, Bool.false_eq_true, if_false, hs₁, hs₂, if_true]
      refine (Tally.Related.refl _).bind (fun _ _ _ => (Tally.Related.refl _).bind (fun _ _ _ => ?_))
      exact Tally.Related.pure (.some (alike_of_values hw₁ hw₂ hl))

/-! ## Trees -/

section Trees
variable {fs₁ fs₂ : Node} (h : Similar Eq (SameOrStale self) fs₁ fs₂)
include h

omit h in
/-- A file whose text can be read counts as read. -/
theorem readOpened_of_text {file : Regular} {t : Str}
    (ht : openedText (some (.regular file)) maximumStateFileBytes = some t) (diagnostics : TelemetrySource) :
    readOpened (some (.regular file)) maximumStateFileBytes diagnostics =
      .returned (some t) [⟨diagnostics, .filesRead⟩] := by
  unfold openedText at ht
  unfold readOpened
  dsimp only at ht ⊢
  split at ht
  · rename_i content hs hc
    unfold recordText at ht
    split at ht
    · cases ht
    · rename_i hsize
      obtain ⟨hm, hne⟩ := Option.filter_eq_some_iff.1 ht
      obtain ⟨text, hd, rfl⟩ := Option.map_eq_some_iff.1 hm
      rw [hs, hc]
      unfold decodeRecord
      dsimp only
      rw [if_neg hsize, hd]
      dsimp only
      rw [if_neg (of_decide_eq_true hne)]
      rfl
  · cases ht

theorem related_readOpened (path : Path) : Tally.Related (Option.Rel (SameOrStaleText self))
    (readOpened (fs₁.at path) maximumStateFileBytes .metaliumProfilerState)
    (readOpened (fs₂.at path) maximumStateFileBytes .metaliumProfilerState) := by
  have hrefl : ∀ x : Reading (Option Str), Tally.Related (Option.Rel (SameOrStaleText self)) x x := by
    refine fun x => (Tally.Related.refl x).mono (fun a b hab => ?_)
    subst hab
    cases a with
    | none => exact .none
    | some a => exact .some (.inl rfl)
  have ha := h.at path
  generalize fs₁.at path = n₁ at ha ⊢
  generalize fs₂.at path = n₂ at ha ⊢
  cases ha with
  | none => exact hrefl _
  | some ha =>
    cases ha with
    | regular _ hf =>
      rcases hf with rfl | ⟨t₁, t₂, ht₁, ht₂, hd⟩
      · exact hrefl _
      · rw [readOpened_of_text ht₁, readOpened_of_text ht₂]
        exact .returned _ (.some (.inr hd))
    | _ => exact hrefl _

variable (directory : SecureDirectory)

theorem entries_eq (maximumEntries : Nat) (diagnostics : TelemetrySource) :
    directory.entries fs₁ maximumEntries diagnostics = directory.entries fs₂ maximumEntries diagnostics := by
  refine entries_congr ?_ maximumEntries diagnostics
  have hl := h.listdir_related directory.path
  generalize Posix.listdir fs₁ directory.path = x at hl ⊢
  generalize Posix.listdir fs₂ directory.path = y at hl ⊢
  cases hl with
  | error e => rfl
  | ok he => rw [he]

theorem related_readText (name : Str) : Tally.Related (Option.Rel (SameOrStaleText self))
    (directory.readText fs₁ name maximumStateFileBytes .metaliumProfilerState)
    (directory.readText fs₂ name maximumStateFileBytes .metaliumProfilerState) := by
  unfold SecureDirectory.readText osOpen
  split
  · rw [h.openat_eq]
    refine (Tally.Related.refl _).bind (fun opened _ ho => ?_)
    subst ho
    split
    · exact Tally.Related.pure .none
    · exact (Tally.Related.refl _).bind (fun _ _ _ => Tally.Related.pure .none)
    · exact related_readOpened self h _
  · exact (Tally.Related.refl _).bind (fun _ _ _ => Tally.Related.pure .none)

theorem related_readPod (device : DeviceTelemetry) (podUid : Str) : Tally.Related (Option.Rel AlikeClaims)
    (self.readPod fs₁ device directory podUid) (self.readPod fs₂ device directory podUid) := by
  unfold readPod
  dsimp only
  rw [openDirectory_similar h]
  split
  · exact (Tally.Related.refl _).bind (fun _ _ _ => Tally.Related.pure .none)
  refine (Tally.Related.refl _).bind (fun pod _ hpod => ?_)
  subst hpod
  cases pod with
  | none => exact Tally.Related.pure .none
  | some pod =>
    dsimp only
    rw [firstDeviceDirectory_similar h]
    refine (Tally.Related.refl _).bind (fun found _ hfound => ?_)
    subst hfound
    cases found with
    | none => exact Tally.Related.pure .none
    | some found =>
      refine (related_readText self h found _).bind (fun t₁ t₂ ht => ?_)
      cases ht with
      | none => exact Tally.Related.pure .none
      | some ht =>
        refine (related_parseWorkload self ht 2 _).bind (fun w₁ w₂ hw => ?_)
        cases hw with
        | none => exact Tally.Related.pure .none
        | some hw => exact Tally.Related.pure (.some ⟨hw.workloadId, hw.rename podUid⟩)

theorem related_readV2 (device : DeviceTelemetry) : Tally.Related (List.Forall₂ AlikeClaims)
    (self.readV2 fs₁ device directory) (self.readV2 fs₂ device directory) := by
  unfold readV2
  rw [openWorkloadRoot_similar h]
  refine (Tally.Related.refl _).bind (fun pods _ hpods => ?_)
  subst hpods
  cases pods with
  | none => exact Tally.Related.pure .nil
  | some pods =>
    dsimp only
    unfold readV2Workloads
    rw [entries_eq self h]
    refine (Tally.Related.refl _).bind (fun names _ hnames => ?_)
    subst hnames
    exact Tally.Related.each₂ (fun podUid _ => related_readPod self h pods device podUid)

theorem related_readLegacy (device : DeviceTelemetry) : Tally.Related AlikeRecords
    (self.readLegacy fs₁ device directory) (self.readLegacy fs₂ device directory) := by
  unfold readLegacy
  rw [firstDeviceDirectory_similar h]
  refine (Tally.Related.refl _).bind (fun found _ hfound => ?_)
  subst hfound
  cases found with
  | none => exact Tally.Related.pure rfl
  | some found =>
    dsimp only
    rw [entries_eq self h]
    refine (Tally.Related.refl _).bind (fun names _ hnames => ?_)
    subst hnames
    refine (Tally.Related.each₂ (fun filename _ => ?_)).mono (fun _ _ => alikeRecords_of_forall₂)
    unfold readLegacyFile
    split
    · exact Tally.Related.pure .none
    · refine (related_readText self h found filename).bind (fun t₁ t₂ ht => ?_)
      cases ht with
      | none => exact Tally.Related.pure .none
      | some ht => exact related_parseWorkload self ht 1 _

/-- **What is read of the two trees are alike records**, with the same counters. -/
theorem related_readWorkloads (device : DeviceTelemetry) : Tally.Related AlikeRecords
    (self.readWorkloads fs₁ device directory) (self.readWorkloads fs₂ device directory) := by
  unfold readWorkloads
  refine (related_readV2 self h directory device).bind (fun v₁ v₂ hv => ?_)
  exact (related_readLegacy self h directory device).bind (fun l₁ l₂ hl => AlikeRecords.mergeWorkloads hv hl)

end Trees
end Ingestor

/-! ## The device and its metrics -/

/-- A device without the counts of its stale records. -/
def hideStaleCounts (d : DeviceTelemetry) : DeviceTelemetry :=
  { d with metaliumWorkloads := d.metaliumWorkloads.map hideCounts }

theorem filter_fresh_hideCounts : ∀ (l : List Workload),
    (l.map hideCounts).filter (fun w => !w.stale) = l.filter (fun w => !w.stale)
  | [] => rfl
  | w :: l => by
    rw [List.map_cons]
    cases hs : w.stale with
    | true => rw [List.filter_cons_of_neg (by simp [hs]), List.filter_cons_of_neg (by simp [hs]),
        filter_fresh_hideCounts l]
    | false => rw [List.filter_cons_of_pos (by simp [hs]), List.filter_cons_of_pos (by simp [hs]),
        filter_fresh_hideCounts l, hideCounts_fresh hs]

/-- **The counts of stale records do not enter the device's counts.** -/
theorem tensix_applyWorkloads (d : DeviceTelemetry) (l : List Workload) :
    (applyWorkloads { d with metaliumWorkloads := l }).tensix =
      (applyWorkloads { d with metaliumWorkloads := l.map hideCounts }).tensix := by
  unfold applyWorkloads
  simp only [filter_fresh_hideCounts]
  split <;> rfl

theorem hideStaleCounts_applyWorkloads (d : DeviceTelemetry) (l : List Workload) :
    hideStaleCounts (applyWorkloads { d with metaliumWorkloads := l }) =
      applyWorkloads { d with metaliumWorkloads := l.map hideCounts } := by
  unfold applyWorkloads hideStaleCounts
  simp only [filter_fresh_hideCounts]
  split <;> rfl

/-- A metric that shows nothing of what is hidden. -/
def Metric.Discreet (m : Metric) : Prop := ∀ d, m.writer (hideStaleCounts d) = m.writer d

theorem discreet_listing {α : Type} {name help type : String} {items : DeviceTelemetry → List α} {labels : α → Labels}
    {value : α → Str} (h : ∀ d, items (hideStaleCounts d) = items d) :
    (Metric.listing name help type items labels value).Discreet := by
  intro d
  show ((items (hideStaleCounts d)).map _) = (items d).map _
  rw [h]

theorem discreet_workload {name help : String} {value : MetaliumWorkloadTelemetry → Option Str}
    (h : ∀ w, value (hideCounts w) = value w) : (Metric.workload name help value).Discreet := by
  intro d
  show (((hideStaleCounts d).metaliumWorkloads.filterMap _).map _) = (d.metaliumWorkloads.filterMap _).map _
  unfold hideStaleCounts
  rw [List.filterMap_map, List.map_filterMap, List.map_filterMap]
  refine List.filterMap_congr (fun w _ => ?_)
  simp only [Function.comp_apply, h, Option.map_map]
  refine congrArg (fun f => (value w).map f) (funext (fun v => ?_))
  simp [workloadLabels]

theorem discreet_optionalWorkload {name help : String} {field : MetaliumWorkloadTelemetry → Option Int}
    (h : ∀ w, w.stale = false → field (hideCounts w) = field w) :
    (Metric.optionalWorkload name help field).Discreet := by
  refine discreet_workload (fun w => ?_)
  rw [hideCounts_stale]
  cases hs : w.stale with
  | true => rfl
  | false => rw [h w hs]

/-- **No metric shows a count of a stale record.** -/
theorem metrics_discreet (ratio : Int → Int → Numeral) : ∀ m ∈ metrics ratio, m.Discreet := by
  have hfresh : ∀ (field : MetaliumWorkloadTelemetry → Option Int) (w : Workload), w.stale = false →
      field (hideCounts w) = field w := fun field w h => by rw [hideCounts_fresh h]
  have hactive : ∀ w : Workload, some (flag (!(hideCounts w).stale && (hideCounts w).active.getD 0 != 0)) =
      some (flag (!w.stale && w.active.getD 0 != 0)) := by
    intro w
    cases hs : w.stale with
    | true => simp [hs]
    | false => rw [hideCounts_fresh hs, hs]
  have hoccupancy : ∀ w : Workload, occupancy ratio (hideCounts w) = occupancy ratio w := by
    intro w
    cases hs : w.stale with
    | true =>
      unfold occupancy hideCounts
      rw [if_pos hs]
      cases w.tensixCoresUsed <;> cases w.tensixCoresTotal <;> simp [hs]
    | false => rw [hideCounts_fresh hs]
  simp only [metrics, List.forall_mem_cons, discreet_optionalWorkload (hfresh _), discreet_workload hoccupancy,
    true_and, and_true, List.not_mem_nil, false_imp_iff, implies_true]
  repeat' apply And.intro
  all_goals first
    | exact discreet_listing (fun _ => rfl)
    | exact discreet_workload hactive
    | exact discreet_workload (fun w => by simp)

theorem renderPrometheus_hideStaleCounts (ratio : Int → Int → Numeral) (devices : List DeviceTelemetry) :
    renderPrometheus ratio (devices.map hideStaleCounts) = renderPrometheus ratio devices := by
  have hsamples : ∀ m ∈ metrics ratio, ∀ d, m.samples (hideStaleCounts d) = m.samples d := by
    intro m hm d
    unfold Metric.samples
    rw [metrics_discreet ratio m hm d]
    rfl
  have hfamily : ∀ m ∈ metrics ratio, m.family (devices.map hideStaleCounts) = m.family devices := by
    intro m hm
    unfold Metric.family
    rw [List.flatMap_map, funext (hsamples m hm)]
  unfold renderPrometheus families
  rw [List.map_congr_left hfamily]
  unfold discovered
  rw [List.length_map]

/-- The workloads of every device, read one after the other. -/
def populateAllWorkloads (self : StateIngestor) (fs : Node) (devices : List DeviceTelemetry) :
    Reading (List DeviceTelemetry) :=
  Tally.each (fun d => some <$> self.populateWorkloads fs d) devices

/-- Devices that show the same: alike but for the counts of stale records. -/
def ShowSame (d₁ d₂ : DeviceTelemetry) : Prop := d₁.tensix = d₂.tensix ∧ hideStaleCounts d₁ = hideStaleCounts d₂

theorem related_populateWorkloads (self : StateIngestor) {fs₁ fs₂ : Node} (h : Similar Eq (SameOrStale self) fs₁ fs₂)
    (device : DeviceTelemetry) :
    Tally.Related ShowSame (self.populateWorkloads fs₁ device) (self.populateWorkloads fs₂ device) := by
  unfold populateWorkloads
  cases self.profilerRoot with
  | none => exact Tally.Related.pure ⟨rfl, rfl⟩
  | some root =>
    refine (related_readWorkloads self h root device).bind (fun l₁ l₂ hl => Tally.Related.pure ⟨?_, ?_⟩)
    · rw [tensix_applyWorkloads, hl, ← tensix_applyWorkloads]
    · rw [hideStaleCounts_applyWorkloads, hideStaleCounts_applyWorkloads, hl]

/-- **The counts of stale records reach neither the counts of a device nor the text of the metrics.** -/
theorem stale_counts_invisible (self : StateIngestor) (devices : List DeviceTelemetry) (ratio : Int → Int → Numeral)
    (fs₁ fs₂ : Node) (h : Similar Eq (SameOrStale self) fs₁ fs₂) :
    Tally.Related (fun out₁ out₂ => out₁.map (·.tensix) = out₂.map (·.tensix) ∧
        renderPrometheus ratio out₁ = renderPrometheus ratio out₂)
      (populateAllWorkloads self fs₁ devices) (populateAllWorkloads self fs₂ devices) := by
  have heach : Tally.Related (List.Forall₂ ShowSame) (populateAllWorkloads self fs₁ devices)
      (populateAllWorkloads self fs₂ devices) := by
    refine Tally.Related.each₂ (fun d _ => ?_)
    rw [map_eq_pure_bind, map_eq_pure_bind]
    exact (related_populateWorkloads self h d).bind (fun _ _ hd => Tally.Related.pure (.some hd))
  refine heach.mono (fun out₁ out₂ ho => ?_)
  have hsame : out₁.map (·.tensix) = out₂.map (·.tensix) ∧ out₁.map hideStaleCounts = out₂.map hideStaleCounts := by
    induction ho with
    | nil => exact ⟨rfl, rfl⟩
    | cons hd _ ih => simp only [List.map_cons, hd.1, hd.2, ih.1, ih.2, and_self]
  refine ⟨hsame.1, ?_⟩
  rw [← renderPrometheus_hideStaleCounts ratio out₁, hsame.2, renderPrometheus_hideStaleCounts]

/-! A workload that crashed long ago, with two last samples. -/

def crashedTree (snapshot : String) : Node := .folder [("profiler", .folder [("v2", .folder [("workloads", .folder
  [("pod-a", .folder [("0", .folder [("snapshot.state", .file snapshot)])])])])])]

def busySnapshot : String :=
  "schema_version=2\nworkload_id=train\nsample_timestamp_seconds=5\nactive=1\nprograms_observed=3\ntensix_cores_used=8\n"

def idleSnapshot : String :=
  "schema_version=2\nworkload_id=train\nsample_timestamp_seconds=5\nactive=0\nprograms_observed=0\ntensix_cores_used=0\n"

def crashedValues (active programs used : String) : List (Str × Str) :=
  [("schema_version".toList, ['2']), ("workload_id".toList, "train".toList),
    ("sample_timestamp_seconds".toList, ['5'])] ++
  [("active".toList, active.toList), ("programs_observed".toList, programs.toList),
    ("tensix_cores_used".toList, used.toList)]

theorem lookup_crashedValues (active programs used : String) {key : Str} (h : key ∉ countFields) :
    (crashedValues active programs used).lookup key =
      List.lookup key [("schema_version".toList, ['2']), ("workload_id".toList, "train".toList),
        ("sample_timestamp_seconds".toList, ['5'])] := by
  have hnone : List.lookup key [("active".toList, active.toList), ("programs_observed".toList, programs.toList),
      ("tensix_cores_used".toList, used.toList)] = none := by
    rw [List.lookup_eq_none_iff]
    intro p hp
    have hk : p.1 ∈ countFields := by
      simp only [List.mem_cons, List.not_mem_nil, or_false] at hp
      rcases hp with rfl | rfl | rfl <;> simp [countFields]
    exact bne_iff_ne.2 (fun he : key = p.1 => h (he ▸ hk))
  rw [crashedValues, List.lookup_append, hnone, Option.or_none]

def crashedRecord (active programs used : Int) : Workload where
  workloadId := "train".toList
  active := some active
  programsObserved := some programs
  tensixCoresUsed := some used
  sampleTimestampSeconds := some 5

theorem sameOrStale_snapshots : SameOrStale profilerIngestor
    ⟨none, 1, busySnapshot.toByteArray.size, .ok busySnapshot.toByteArray⟩
    ⟨none, 1, idleSnapshot.toByteArray.size, .ok idleSnapshot.toByteArray⟩ := by
  refine .inr ⟨busySnapshot.toList.dropLast, idleSnapshot.toList.dropLast, by decide +kernel, by decide +kernel,
    crashedValues "1" "3" "8", crashedValues "0" "0" "0", by decide +kernel, by decide +kernel, fun key hk => ?_, ?_, ?_⟩
  · rw [lookup_crashedValues _ _ _ hk, lookup_crashedValues _ _ _ hk]
  · exact ⟨crashedRecord 1 3 8, by decide +kernel, by decide +kernel, by decide +kernel⟩
  · exact ⟨crashedRecord 0 0 0, by decide +kernel, by decide +kernel, by decide +kernel⟩

theorem similar_crashedTree :
    Similar Eq (SameOrStale profilerIngestor) (crashedTree busySnapshot) (crashedTree idleSnapshot) := by
  unfold crashedTree
  iterate 6 refine .folder (fun _ => rfl) (.cons ⟨rfl, ?_⟩ .nil)
  exact .regular rfl sameOrStale_snapshots

theorem stale_counts_invisible_crashedTree : Tally.Related (fun out₁ out₂ => out₁.map (·.tensix) = out₂.map (·.tensix) ∧
      renderPrometheus (fun _ _ => ⟨['0'], by decide⟩) out₁ = renderPrometheus (fun _ _ => ⟨['0'], by decide⟩) out₂)
    (populateAllWorkloads profilerIngestor (crashedTree busySnapshot) [firstDevice])
    (populateAllWorkloads profilerIngestor (crashedTree idleSnapshot) [firstDevice]) :=
  stale_counts_invisible profilerIngestor [firstDevice] _ _ _ similar_crashedTree

end Tt
