import TtMetricsExporter.Service
/-!
# Generations — the store and the status over every run

Whether a refresh publishes is decided by what it meets alone, so a run's history of refreshes says what the snapshot
store holds and what the runtime status has counted (`Agreement`).  One refresh preserves the agreement
(`Agreement.refresh`), so every run has it (`agreement_run`).
-/
namespace Tt

open Py (Str)

section Runs
variable (options : ServiceOptions)

/-- The refresh publishes. -/
def Refresh.publishes (r : Refresh) : Bool := (r.payloads options).isSome

/-- The service after a run of refreshes. -/
def ExporterService.run (self : ExporterService) (refreshes : List Refresh) : ExporterService :=
  refreshes.foldl (fun self r => self.refresh options r) self

theorem payloads_spec {options : ServiceOptions} {r : Refresh} {p : Str × Str} (h : r.payloads options = some p) :
    r.collection.criticalSourcesOk = true ∧
      p = (renderPrometheus options.ratio r.collection.devices, renderDevicesJson r.collection.devices) ∧
      Py.utf8Size p.1 ≤ options.maximumRenderedPayloadBytes ∧ Py.utf8Size p.2 ≤ options.maximumRenderedPayloadBytes := by
  unfold Refresh.payloads Refresh.rendered at h
  by_cases hc : r.collection.criticalSourcesOk = true
  · rw [if_pos hc] at h
    by_cases hf : r.renderFails = true
    · rw [if_pos hf] at h; cases h
    · rw [if_neg hf, Option.filter_eq_some_iff] at h
      simp only [Option.some.injEq, Bool.and_eq_true, decide_eq_true_eq] at h
      exact ⟨hc, h.1.symm, h.2⟩
  · rw [if_neg hc] at h; cases h

/-! ## One refresh -/

variable {options}

/-- **What a publishing refresh does.** -/
theorem refresh_of_publishes {r : Refresh} (h : r.publishes options = true) (self : ExporterService) :
    ∃ snapshot : ExporterSnapshot, snapshot.generation = self.snapshots.generation + 1 ∧
      snapshot.collection = r.collection ∧
      (snapshot.prometheus, snapshot.devicesJson) =
        (renderPrometheus options.ratio r.collection.devices, renderDevicesJson r.collection.devices) ∧
      Py.utf8Size snapshot.prometheus ≤ options.maximumRenderedPayloadBytes ∧
      Py.utf8Size snapshot.devicesJson ≤ options.maximumRenderedPayloadBytes ∧
      self.publishStep options r = ({ self with snapshots := some snapshot }, some snapshot) ∧
      self.refresh options r = ⟨some snapshot, { self.status with
        lastCollectionDuration := r.duration
        sources := r.collection.sources
        issueTotals := fun source issue =>
          self.status.issueTotals source issue + (r.collection.sources source).issues issue
        successes := self.status.successes + 1
        consecutiveFailures := 0
        lastSuccess := some r.steadyNow
        lastSuccessWall := some r.wallNow
        generation := self.snapshots.generation + 1
        deviceCount := r.collection.devices.length }⟩ := by
  obtain ⟨p, hp⟩ := Option.isSome_iff_exists.1 h
  obtain ⟨hc, hr, h₁, h₂⟩ := payloads_spec hp
  have hg : (SnapshotStore.publish self.snapshots r.collection p.1 p.2).generation = self.snapshots.generation + 1 := by
    unfold SnapshotStore.publish SnapshotStore.generation
    cases self.snapshots <;> rfl
  refine ⟨SnapshotStore.publish self.snapshots r.collection p.1 p.2, hg, rfl, hr, h₁, h₂, ?_, ?_⟩
  · rw [ExporterService.publishStep, hp]
  · rw [ExporterService.refresh, ExporterService.publishStep, hp]
    simp only [ExporterService.recordStep, RuntimeStatus.recordCollection, hg]
    rw [show (SnapshotStore.publish self.snapshots r.collection p.1 p.2).collection = r.collection from rfl, hc]
    rfl

/-- **What a refresh that does not publish does.** -/
theorem refresh_of_not_publishes {r : Refresh} (h : r.publishes options = false) (self : ExporterService) :
    self.publishStep options r = (self, none) ∧
      self.refresh options r = ⟨self.snapshots, { self.status with
        lastCollectionDuration := r.duration
        sources := r.collection.sources
        issueTotals := fun source issue =>
          self.status.issueTotals source issue + (r.collection.sources source).issues issue
        failures := self.status.failures + 1
        consecutiveFailures := self.status.consecutiveFailures + 1 }⟩ := by
  have hp : r.payloads options = none := Option.not_isSome_iff_eq_none.1 (by rw [← Refresh.publishes, h]; simp)
  refine ⟨?_, ?_⟩
  · rw [ExporterService.publishStep, hp]
  · rw [ExporterService.refresh, ExporterService.publishStep, hp]
    simp only [ExporterService.recordStep, RuntimeStatus.recordCollection, Bool.and_false]
    rfl

/-! ## Every run -/

/-- What the store and the status say of the refreshes that were made. -/
structure Agreement (options : ServiceOptions) (refreshes : List Refresh) (s : ExporterService) : Prop where
  store_generation : s.snapshots.generation = (refreshes.filter (·.publishes options)).length
  status_generation : s.status.generation = (refreshes.filter (·.publishes options)).length
  no_snapshot : s.snapshots = none ↔ refreshes.filter (·.publishes options) = []
  successes : s.status.successes = (refreshes.filter (·.publishes options)).length
  attempts : s.status.successes + s.status.failures = refreshes.length
  consecutive : s.status.consecutiveFailures = (refreshes.reverse.takeWhile (fun r => !r.publishes options)).length
  stored : s.snapshots.map (·.collection) = (refreshes.filter (·.publishes options)).getLast?.map (·.collection)
  renderings : ∀ snapshot, s.snapshots = some snapshot →
    snapshot.prometheus = renderPrometheus options.ratio snapshot.collection.devices ∧
    snapshot.devicesJson = renderDevicesJson snapshot.collection.devices ∧
    Py.utf8Size snapshot.prometheus ≤ options.maximumRenderedPayloadBytes ∧
    Py.utf8Size snapshot.devicesJson ≤ options.maximumRenderedPayloadBytes ∧
    s.status.deviceCount = snapshot.collection.devices.length
  issues : ∀ source issue,
    s.status.issueTotals source issue = (refreshes.map (fun r => (r.collection.sources source).issues issue)).sum

theorem Agreement.start (maxSnapshotAge : Rat) (requireDevice : Bool) :
    Agreement options [] (.start maxSnapshotAge requireDevice) :=
  ⟨rfl, rfl, by simp [ExporterService.start], rfl, rfl, rfl, rfl, fun _ h => absurd h (by simp [ExporterService.start]),
    fun _ _ => rfl⟩

/-- **One refresh keeps the agreement.** -/
theorem Agreement.refresh {refreshes : List Refresh} {s : ExporterService} (h : Agreement options refreshes s)
    (r : Refresh) : Agreement options (refreshes ++ [r]) (s.refresh options r) := by
  have hissues : ∀ source issue,
      s.status.issueTotals source issue + (r.collection.sources source).issues issue =
        ((refreshes ++ [r]).map (fun r => (r.collection.sources source).issues issue)).sum := by
    intro source issue
    rw [h.issues, List.map_append, List.sum_append]
    simp
  by_cases hp : r.publishes options = true
  · obtain ⟨snapshot, hg, hc, hr, h₁, h₂, -, hs⟩ := refresh_of_publishes hp s
    have hf : (refreshes ++ [r]).filter (·.publishes options) = refreshes.filter (·.publishes options) ++ [r] := by
      rw [List.filter_append, List.filter_cons_of_pos hp, List.filter_nil]
    have hlen : ((refreshes ++ [r]).filter (·.publishes options)).length =
        (refreshes.filter (·.publishes options)).length + 1 := by rw [hf, List.length_append]; rfl
    rw [hs]
    refine ⟨?_, ?_, ?_, ?_, ?_, ?_, ?_, ?_, hissues⟩
    · rw [hlen, ← h.store_generation, ← hg]; rfl
    · rw [hlen, ← h.store_generation]
    · simp [hf]
    · rw [hlen, ← h.successes]
    · rw [List.length_append, List.length_singleton, ← h.attempts]
      simp only
      omega
    · rw [List.reverse_append, List.reverse_singleton, List.singleton_append, List.takeWhile_cons]
      simp [hp]
    · rw [hf, List.getLast?_append]
      simp [hc]
    · intro snapshot' hs'
      simp only [Option.some.injEq] at hs'
      subst hs'
      simp only [Prod.mk.injEq] at hr
      rw [hc]
      exact ⟨hr.1, hr.2, h₁, h₂, rfl⟩
  · rw [Bool.not_eq_true] at hp
    obtain ⟨-, hs⟩ := refresh_of_not_publishes hp s
    have hf : (refreshes ++ [r]).filter (·.publishes options) = refreshes.filter (·.publishes options) := by
      rw [List.filter_append, List.filter_cons_of_neg (by simp [hp]), List.filter_nil, List.append_nil]
    rw [hs]
    refine ⟨?_, ?_, ?_, ?_, ?_, ?_, ?_, h.renderings, hissues⟩
    · rw [hf]; exact h.store_generation
    · rw [hf]; exact h.status_generation
    · rw [hf]; exact h.no_snapshot
    · rw [hf]; exact h.successes
    · rw [List.length_append, List.length_singleton, ← h.attempts]
      simp only
      omega
    · rw [List.reverse_append, List.reverse_singleton, List.singleton_append, List.takeWhile_cons]
      simp [hp, h.consecutive]
    · rw [hf]; exact h.stored

theorem agreement_run {s : ExporterService} (h : Agreement options [] s) : ∀ (refreshes : List Refresh),
    Agreement options refreshes (s.run options refreshes) := by
  intro refreshes
  induction refreshes using List.reverseRecOn with
  | nil => exact h
  | append_singleton refreshes r ih =>
    rw [ExporterService.run, List.foldl_append]
    exact ih.refresh r

end Runs

/-- **The snapshot store and the runtime status agree over every run**, also inside a refresh, and a refresh that does
not publish leaves the stored snapshot as it was. -/
theorem store_and_status_agree (options : ServiceOptions) (maxSnapshotAge : Rat) (requireDevice : Bool)
    (refreshes : List Refresh) :
    let s := (ExporterService.start maxSnapshotAge requireDevice).run options refreshes
    Agreement options refreshes s ∧ ∀ r : Refresh,
      (∀ t ∈ [s, (s.publishStep options r).1, s.refresh options r],
        t.status.generation ≤ t.snapshots.generation ∧ t.snapshots.generation ≤ t.status.generation + 1) ∧
      (r.publishes options = false → (s.publishStep options r).1.snapshots = s.snapshots ∧
        (s.refresh options r).snapshots = s.snapshots) ∧
      ∀ source issue, s.status.issueTotals source issue ≤ (s.refresh options r).status.issueTotals source issue := by
  intro s
  have hs : Agreement options refreshes s := agreement_run (.start maxSnapshotAge requireDevice) refreshes
  refine ⟨hs, fun r => ?_⟩
  have hr := hs.refresh r
  have hin := hs.store_generation
  have hst := hs.status_generation
  have hrin := hr.store_generation
  have hrst := hr.status_generation
  by_cases hp : r.publishes options = true
  · obtain ⟨snapshot, hg, -, -, -, -, hpub, href⟩ := refresh_of_publishes hp s
    refine ⟨fun t ht => ?_, fun h => absurd h (by simp [hp]), fun source issue => ?_⟩
    · simp only [List.mem_cons, List.not_mem_nil, or_false] at ht
      rcases ht with rfl | rfl | rfl
      · omega
      · rw [hpub]
        have hsome : SnapshotStore.generation (some snapshot) = snapshot.generation := rfl
        simp only [hsome]
        omega
      · omega
    · rw [href]
      exact Nat.le_add_right _ _
  · rw [Bool.not_eq_true] at hp
    obtain ⟨hpub, href⟩ := refresh_of_not_publishes hp s
    refine ⟨fun t ht => ?_, fun _ => ⟨by rw [hpub], by rw [href]⟩, fun source issue => ?_⟩
    · simp only [List.mem_cons, List.not_mem_nil, or_false] at ht
      rcases ht with rfl | rfl | rfl
      · omega
      · simp only [hpub]
        omega
      · omega
    · rw [href]
      exact Nat.le_add_right _ _

end Tt
