import TtMetricsExporter.Generations
import TtMetricsExporter.RoundTrip
/-!
# Readiness — readiness on the history of a run

A run interleaves the two critical sections of each refresh with shutdowns.  The status keeps a few fields of all that
has happened; what a query reports is a function of the history (`History.readiness`), because each field summarises it
(`Summary`) and every event keeps that (`Summary.step`).
-/
namespace Tt

open Py (Str)
open Exposition (Sample Family)

/-! ## Runs -/

inductive Event where
  /-- The section of a refresh that publishes. -/
  | publish (r : Refresh)
  /-- The section of the same refresh that records the collection. -/
  | record
  | beginShutdown

/-- The service, and the refresh that is under way with the snapshot it has published. -/
structure ServiceState where
  service : ExporterService
  underWay : Option (Refresh × Option ExporterSnapshot) := none

/-- What has happened: the refreshes recorded and the one under way. -/
structure History where
  recorded : List Refresh := []
  underWay : Option Refresh := none
  shutdown : Bool := false

section Step
variable (options : ServiceOptions)

/-- One thread refreshes, so no refresh starts before the one under way has recorded. -/
def ServiceState.step (s : ServiceState) : Event → ServiceState
  | .publish r => match s.underWay with
    | none =>
      let (service, published) := s.service.publishStep options r
      ⟨service, some (r, published)⟩
    | some _ => s
  | .record => match s.underWay with
    | some (r, published) => ⟨s.service.recordStep r published, none⟩
    | none => s
  | .beginShutdown => { s with service := { s.service with status := s.service.status.beginShutdown } }

def ServiceState.run (s : ServiceState) (events : List Event) : ServiceState := events.foldl (step options) s

end Step

def History.step (h : History) : Event → History
  | .publish r => match h.underWay with
    | none => { h with underWay := some r }
    | some _ => h
  | .record => match h.underWay with
    | some r => { h with recorded := h.recorded ++ [r], underWay := none }
    | none => h
  | .beginShutdown => { h with shutdown := true }

def historyOf (events : List Event) : History := events.foldl History.step {}

/-! ## Readiness of a history -/

section Readiness
variable (options : ServiceOptions)

/-- The last recorded refresh that published a snapshot. -/
def History.lastPublishing (h : History) : Option Refresh := (h.recorded.filter (·.publishes options)).getLast?

/-- The most recent recorded refresh found the sysfs root accessible. -/
def History.rootAccessible (h : History) : Prop :=
  ∃ r, h.recorded.getLast? = some r ∧ (r.collection.sources .sysfsRoot).accessible = true

/-- The documented conditions, in their order. -/
structure History.IsReady (maxSnapshotAge : Rat) (requireDevice : Bool) (now : Rat) (h : History) : Prop where
  running : h.shutdown = false
  published : h.lastPublishing options ≠ none
  accessible : h.rootAccessible
  fresh : ∀ p, h.lastPublishing options = some p → now - p.steadyNow ≤ maxSnapshotAge
  devices : requireDevice = true → ∀ p, h.lastPublishing options = some p → p.collection.devices ≠ []

/-- The reason of the first condition that fails. -/
inductive History.Reports (maxSnapshotAge : Rat) (requireDevice : Bool) (now : Rat) (h : History) :
    ReadinessReason → Prop
  | shuttingDown : h.shutdown = true → Reports maxSnapshotAge requireDevice now h .shuttingDown
  | initialCollection : h.shutdown = false → h.lastPublishing options = none →
    Reports maxSnapshotAge requireDevice now h .initialCollection
  | criticalSource : h.shutdown = false → h.lastPublishing options ≠ none → ¬h.rootAccessible →
    Reports maxSnapshotAge requireDevice now h .criticalSource
  | snapshotStale {p} : h.shutdown = false → h.lastPublishing options = some p → h.rootAccessible →
    maxSnapshotAge < now - p.steadyNow → Reports maxSnapshotAge requireDevice now h .snapshotStale
  | deviceRequired {p} : h.shutdown = false → h.lastPublishing options = some p → h.rootAccessible →
    now - p.steadyNow ≤ maxSnapshotAge → requireDevice = true → p.collection.devices = [] →
    Reports maxSnapshotAge requireDevice now h .deviceRequired
  | ready : h.IsReady options maxSnapshotAge requireDevice now → Reports maxSnapshotAge requireDevice now h .ready

end Readiness

/-! ## What the status keeps of the history -/

/-- A refresh under way and what it has published. -/
def Published (options : ServiceOptions) (x : Refresh × Option ExporterSnapshot) : Prop :=
  x.2.isSome = x.1.publishes options ∧
    ∀ snapshot, x.2 = some snapshot → snapshot.generation ≠ 0 ∧ snapshot.collection = x.1.collection

structure Summary (options : ServiceOptions) (maxSnapshotAge : Rat) (requireDevice : Bool) (h : History)
    (s : ServiceState) : Prop where
  maxSnapshotAge_eq : s.service.status.maxSnapshotAge = maxSnapshotAge
  requireDevice_eq : s.service.status.requireDevice = requireDevice
  shutdown : s.service.status.shuttingDown = h.shutdown
  lastSuccess : s.service.status.lastSuccess = (h.lastPublishing options).map (·.steadyNow)
  generation : s.service.status.generation = 0 ↔ h.lastPublishing options = none
  deviceCount : ∀ p, h.lastPublishing options = some p → s.service.status.deviceCount = p.collection.devices.length
  sources : ∀ r, h.recorded.getLast? = some r → s.service.status.sources = r.collection.sources
  underWay : s.underWay.map Prod.fst = h.underWay
  published : ∀ x, s.underWay = some x → Published options x

section Run
variable {options : ServiceOptions} {maxSnapshotAge : Rat} {requireDevice : Bool} {h : History} {s : ServiceState}

theorem Summary.start : Summary options maxSnapshotAge requireDevice {} ⟨.start maxSnapshotAge requireDevice, none⟩ where
  maxSnapshotAge_eq := rfl
  requireDevice_eq := rfl
  shutdown := rfl
  lastSuccess := rfl
  generation := iff_of_true rfl rfl
  deviceCount := fun _ h => by cases h
  sources := fun _ h => by cases h
  underWay := rfl
  published := fun _ h => by cases h

/-- **The first section** publishes exactly what its refresh does, and leaves the status alone. -/
theorem publishStep_published (options : ServiceOptions) (self : ExporterService) (r : Refresh) :
    (self.publishStep options r).1.status = self.status ∧ Published options (r, (self.publishStep options r).2) := by
  by_cases hp : r.publishes options = true
  · obtain ⟨snapshot, hg, hc, -, -, -, hs, -⟩ := refresh_of_publishes hp self
    rw [hs]
    refine ⟨rfl, hp.symm, fun snapshot' he => ?_⟩
    cases he
    exact ⟨by omega, hc⟩
  · have hp' : r.publishes options = false := Bool.eq_false_iff.2 hp
    rw [(refresh_of_not_publishes hp' self).1]
    exact ⟨rfl, hp'.symm, fun snapshot' he => by cases he⟩

theorem lastPublishing_of_publishes {r : Refresh} (hp : r.publishes options = true) (h : History) :
    History.lastPublishing options { h with recorded := h.recorded ++ [r], underWay := none } = some r := by
  unfold History.lastPublishing
  rw [List.filter_append, List.filter_cons_of_pos hp, List.filter_nil, List.getLast?_concat]

theorem lastPublishing_of_not_publishes {r : Refresh} (hp : r.publishes options = false) (h : History) :
    History.lastPublishing options { h with recorded := h.recorded ++ [r], underWay := none } =
      h.lastPublishing options := by
  unfold History.lastPublishing
  rw [List.filter_append, List.filter_cons_of_neg (by simp [hp]), List.filter_nil, List.append_nil]

/-- What is recorded of a refresh that did not publish. -/
theorem recordStep_none (self : ExporterService) (r : Refresh) :
    (self.recordStep r none).status = { self.status with
      lastCollectionDuration := r.duration
      sources := r.collection.sources
      issueTotals := fun source issue => self.status.issueTotals source issue + (r.collection.sources source).issues issue
      failures := self.status.failures + 1
      consecutiveFailures := self.status.consecutiveFailures + 1 } := by
  simp only [ExporterService.recordStep, RuntimeStatus.recordCollection, Bool.and_false]
  rfl

/-- What is recorded of a refresh that did. -/
theorem recordStep_some (self : ExporterService) {r : Refresh} {snapshot : ExporterSnapshot}
    (hp : r.publishes options = true) (hc : snapshot.collection = r.collection) :
    (self.recordStep r (some snapshot)).status = { self.status with
      lastCollectionDuration := r.duration
      sources := r.collection.sources
      issueTotals := fun source issue => self.status.issueTotals source issue + (r.collection.sources source).issues issue
      successes := self.status.successes + 1
      consecutiveFailures := 0
      lastSuccess := some r.steadyNow
      lastSuccessWall := some r.wallNow
      generation := snapshot.generation
      deviceCount := r.collection.devices.length } := by
  have hcritical : r.collection.criticalSourcesOk = true := by
    obtain ⟨p, hpay⟩ := Option.isSome_iff_exists.1 hp
    exact (payloads_spec hpay).1
  simp only [ExporterService.recordStep, RuntimeStatus.recordCollection, hc, hcritical, Bool.and_self]
  rfl

/-- **The second section** makes the status summarise one more refresh. -/
theorem Summary.record (hs : Summary options maxSnapshotAge requireDevice h s) {r : Refresh}
    {published : Option ExporterSnapshot} (hu : s.underWay = some (r, published)) :
    Summary options maxSnapshotAge requireDevice { h with recorded := h.recorded ++ [r], underWay := none }
      ⟨s.service.recordStep r published, none⟩ := by
  obtain ⟨hsome, hsnapshot⟩ := hs.published _ hu
  dsimp only at hsome hsnapshot
  have hsources : ∀ r', (h.recorded ++ [r]).getLast? = some r' → r.collection.sources = r'.collection.sources := by
    intro r' he
    rw [List.getLast?_concat] at he
    cases he
    rfl
  cases published with
  | none =>
    have hp : r.publishes options = false := hsome.symm
    have hlast := lastPublishing_of_not_publishes hp h
    have hstatus := recordStep_none s.service r
    refine ⟨?_, ?_, ?_, ?_, ?_, ?_, ?_, rfl, fun x he => by cases he⟩
    · rw [hstatus]
      exact hs.maxSnapshotAge_eq
    · rw [hstatus]
      exact hs.requireDevice_eq
    · rw [hstatus]
      exact hs.shutdown
    · rw [hstatus, hlast]
      exact hs.lastSuccess
    · rw [hstatus, hlast]
      exact hs.generation
    · rw [hstatus, hlast]
      exact hs.deviceCount
    · rw [hstatus]
      exact hsources
  | some snapshot =>
    have hp : r.publishes options = true := hsome.symm
    obtain ⟨hg, hc⟩ := hsnapshot snapshot rfl
    have hlast := lastPublishing_of_publishes hp h
    have hstatus := recordStep_some s.service hp hc
    refine ⟨?_, ?_, ?_, ?_, ?_, ?_, ?_, rfl, fun x he => by cases he⟩
    · rw [hstatus]
      exact hs.maxSnapshotAge_eq
    · rw [hstatus]
      exact hs.requireDevice_eq
    · rw [hstatus]
      exact hs.shutdown
    · rw [hstatus, hlast]
      rfl
    · rw [hstatus, hlast]
      exact iff_of_false hg (by simp)
    · rw [hstatus, hlast]
      intro p he
      cases he
      rfl
    · rw [hstatus]
      exact hsources

/-- **Every event keeps the summary.** -/
theorem Summary.step (hs : Summary options maxSnapshotAge requireDevice h s) (e : Event) :
    Summary options maxSnapshotAge requireDevice (h.step e) (s.step options e) := by
  have hunder := hs.underWay
  cases e with
  | publish r =>
    unfold History.step ServiceState.step
    dsimp only
    cases hu : s.underWay with
    | none =>
      rw [hu] at hunder
      rw [← hunder]
      obtain ⟨hstatus, hpub⟩ := publishStep_published options s.service r
      refine ⟨?_, ?_, ?_, ?_, ?_, ?_, ?_, rfl, fun x he => by cases he; exact hpub⟩
      all_goals
        dsimp only
        rw [hstatus]
      · exact hs.maxSnapshotAge_eq
      · exact hs.requireDevice_eq
      · exact hs.shutdown
      · exact hs.lastSuccess
      · exact hs.generation
      · exact hs.deviceCount
      · exact hs.sources
    | some x =>
      rw [hu] at hunder
      rw [← hunder]
      exact hs
  | record =>
    unfold History.step ServiceState.step
    dsimp only
    cases hu : s.underWay with
    | none =>
      rw [hu] at hunder
      rw [← hunder]
      exact hs
    | some x =>
      rw [hu] at hunder
      rw [← hunder]
      exact hs.record hu
  | beginShutdown =>
    exact ⟨hs.maxSnapshotAge_eq, hs.requireDevice_eq, rfl, hs.lastSuccess, hs.generation, hs.deviceCount, hs.sources,
      hs.underWay, hs.published⟩

theorem summary_run (events : List Event) : Summary options maxSnapshotAge requireDevice (historyOf events)
    ((ServiceState.mk (.start maxSnapshotAge requireDevice) none).run options events) := by
  have hfrom : ∀ (events : List Event) (h : History) (s : ServiceState),
      Summary options maxSnapshotAge requireDevice h s →
        Summary options maxSnapshotAge requireDevice (events.foldl History.step h) (s.run options events) := by
    intro events
    induction events with
    | nil =>
      intro h s hs
      exact hs
    | cons e events ih =>
      intro h s hs
      exact ih _ _ (hs.step e)
  exact hfrom events {} _ Summary.start

/-- **A query reports the first condition that fails.** -/
theorem Summary.reports (hs : Summary options maxSnapshotAge requireDevice h s) (now : Rat) :
    h.Reports options maxSnapshotAge requireDevice now (s.service.status.readiness now) := by
  unfold RuntimeStatus.readiness
  rw [hs.shutdown, hs.lastSuccess, hs.maxSnapshotAge_eq, hs.requireDevice_eq]
  cases hshut : h.shutdown with
  | true => exact .shuttingDown hshut
  | false =>
    rw [if_neg (by decide)]
    cases hlast : h.lastPublishing options with
    | none => exact .initialCollection hshut hlast
    | some p =>
      have hne : h.lastPublishing options ≠ none := by
        rw [hlast]
        exact Option.some_ne_none p
      dsimp only [Option.map_some]
      rw [if_neg (fun hg => hne (hs.generation.1 hg)), hs.deviceCount p hlast]
      -- A snapshot has been published, so some refresh has been recorded.
      obtain ⟨r, hr⟩ : ∃ r, h.recorded.getLast? = some r := by
        have hmem := List.mem_of_mem_filter (List.mem_of_getLast? hlast)
        exact ⟨_, List.getLast?_eq_some_getLast (List.ne_nil_of_mem hmem)⟩
      rw [hs.sources r hr]
      have hroot : h.rootAccessible ↔ (r.collection.sources .sysfsRoot).accessible = true := by
        constructor
        · rintro ⟨r', hr', ha⟩
          rw [hr] at hr'
          cases hr'
          exact ha
        · intro ha
          exact ⟨r, hr, ha⟩
      split
      · rename_i hno
        refine .criticalSource hshut hne (fun ha => ?_)
        rw [hroot.1 ha] at hno
        cases hno
      · rename_i ha
        have haccess := hroot.2 (by simpa using ha)
        split
        · rename_i hstale
          exact .snapshotStale hshut hlast haccess hstale
        · rename_i hfresh
          have hage := not_lt.1 hfresh
          split
          · rename_i hdevices
            simp only [Bool.and_eq_true, decide_eq_true_eq, List.length_eq_zero_iff] at hdevices
            exact .deviceRequired hshut hlast haccess hage hdevices.1 hdevices.2
          · rename_i hdevices
            refine .ready ⟨hshut, hne, haccess, ?_, ?_⟩
            · intro q hq
              rw [hlast] at hq
              cases hq
              exact hage
            · intro hreq q hq hnil
              rw [hlast] at hq
              cases hq
              exact hdevices (by simp [hreq, hnil])

theorem History.reports_ready_iff {now : Rat} {reason : ReadinessReason}
    (hr : h.Reports options maxSnapshotAge requireDevice now reason) :
    reason = .ready ↔ h.IsReady options maxSnapshotAge requireDevice now := by
  constructor
  · rintro rfl
    cases hr with
    | ready hready => exact hready
  · intro hready
    cases hr with
    | shuttingDown hshut =>
      rw [hready.running] at hshut
      cases hshut
    | initialCollection _ hnone => exact absurd hnone hready.published
    | criticalSource _ _ hno => exact absurd hready.accessible hno
    | snapshotStale _ hp _ hstale => exact absurd (hready.fresh _ hp) (not_le.2 hstale)
    | deviceRequired _ hp _ _ hreq hnil => exact absurd hnil (hready.devices hreq _ hp)
    | ready _ => rfl

end Run

/-- The status of a service after some events. -/
def statusAfter (options : ServiceOptions) (maxSnapshotAge : Rat) (requireDevice : Bool) (events : List Event) :
    RuntimeStatus :=
  ((ServiceState.mk (.start maxSnapshotAge requireDevice) none).run options events).service.status

/-- **What a query reports, and what `tt_exporter_ready` shows**, is the documented predicate on the history. -/
theorem readiness_history (options : ServiceOptions) (maxSnapshotAge : Rat) (requireDevice : Bool) (events : List Event)
    (now : Rat) (number : Rat → Numeral) (build : BuildInfo) :
    (historyOf events).Reports options maxSnapshotAge requireDevice now
      ((statusAfter options maxSnapshotAge requireDevice events).readiness now) ∧
    ((statusAfter options maxSnapshotAge requireDevice events).readiness now = .ready ↔
      (historyOf events).IsReady options maxSnapshotAge requireDevice now) ∧
    ∃ families help type value,
      Exposition.parse ((statusAfter options maxSnapshotAge requireDevice events).renderPrometheus number build now) =
        some families ∧
      families.filter (fun f => f.name = "tt_exporter_ready".toList) =
        [⟨"tt_exporter_ready".toList, help, type, [⟨"tt_exporter_ready".toList, [], value⟩]⟩] ∧
      (value = ['1'] ↔ (historyOf events).IsReady options maxSnapshotAge requireDevice now) := by
  have hreports := (@summary_run options maxSnapshotAge requireDevice events).reports now
  rw [← statusAfter] at hreports
  generalize statusAfter options maxSnapshotAge requireDevice events = status at *
  have hready := History.reports_ready_iff hreports
  refine ⟨hreports, hready, _, _, _, _, parse_status number status build now, ready_family number status build now, ?_⟩
  rw [← hready]
  cases status.readiness now <;> decide

end Tt
