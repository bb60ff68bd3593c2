import TtMetricsExporter.Readable
import TtMetricsExporter.Service
/-!
# Survival — which collections return, and what that means for the poll loop

`collect` runs outside the `try` of `refresh`, so an exception out of it ends the polling thread.  A collection returns
exactly on a `Readable` machine, and the loop performs each of its refreshes exactly when every machine it meets is one.
-/
namespace Tt

open Py (Str)
open Posix (Node Path)
open SysfsCollector StateIngestor

/-! ## One collection -/

/-- A state root, where its path is configured and can be opened. -/
def rootOf (fs : Node) (path : Option Path) : Option SecureDirectory :=
  path.bind (fun path => match Posix.openPath fs path true with
    | .ok path => some ⟨path⟩
    | .error _ => none)

/-- The roots a collection reads state from. -/
def ingestorOf (m : Machine) (config : CollectorConfig) : StateIngestor where
  allocationRoot := rootOf m.fs config.allocationStateRoot
  janitorRoot := rootOf m.fs config.janitorStateRoot
  profilerRoot := rootOf m.fs config.metaliumProfilerStateRoot
  staleAfterSeconds := config.metaliumProfilerStaleAfterSeconds
  nowSeconds := m.now

theorem value_openRoot (fs : Node) (path : Option Path) (source : TelemetrySource) :
    (openRoot fs path source).value = some (rootOf fs path) := by
  cases path with
  | none => rfl
  | some path =>
    unfold openRoot SecureDirectory.openRoot rootOf
    dsimp only [Option.bind_some]
    cases Posix.openPath fs path true <;> rfl

theorem value_openRoots (m : Machine) (config : CollectorConfig) :
    (openRoots m.fs config m.now).value = some (ingestorOf m config) := by
  unfold openRoots ingestorOf
  simp only [Tally.value_bind, value_openRoot, Option.bind_some, Tally.value_pure]

section Collect
variable (m : Machine) (config : CollectorConfig)

/-- **Every device that a collection visits can be read to the end.** -/
def Readable : Prop :=
  ∀ entries, scanRoot m config = .ok entries → ∀ e ∈ entries, entryIsDir m config e = true →
    SysfsReadable m config (config.sysfsRoot ++ [e.1]) ∧
      StateReadable m.fs (ingestorOf m config) (keysOf m e.1 (config.sysfsRoot ++ [e.1]))

theorem returns_collectDevice (state : StateIngestor) (entry : Str × Node) :
    (collectDevice m config state entry).Returns ↔ (entryIsDir m config entry = true →
      SysfsReadable m config (config.sysfsRoot ++ [entry.1]) ∧
        StateReadable m.fs state (keysOf m entry.1 (config.sysfsRoot ++ [entry.1]))) := by
  unfold collectDevice
  split
  · rename_i h
    rw [(populateDevice_ensures m config _ _).returns_bind (fun device hd => by
      rw [Tally.returns_bind_of (fun _ => returns_pure_iff _), and_true, returns_populate, hd]), returns_populateDevice]
    exact ⟨fun hr _ => hr, fun hr => hr h⟩
  · rename_i h
    exact iff_of_true rfl (fun h' => absurd h' h)

/-- **A collection returns exactly on a readable machine.** -/
theorem collect_isOk : (collect m config).isOk = true ↔ Readable m config := by
  have hfind : (collect m config).isOk = true ↔ (find m config).Returns := by
    unfold collect
    cases find m config <;> simp [Except.isOk, Except.toBool, Tally.Returns]
  rw [hfind, find, Tally.returns_bind, value_openRoots]
  simp only [Option.some.injEq, exists_eq_left', Readable]
  cases scanRoot m config with
  | error e => exact iff_of_true rfl (fun _ h => by cases h)
  | ok entries =>
    dsimp only
    rw [Tally.returns_bind_of (fun _ => returns_pure_iff _), and_true, Tally.returns_each]
    simp only [Except.ok.injEq, forall_eq', returns_collectDevice]

end Collect

/-! ## The poll loop -/

/-- The collections that a service has recorded. -/
def ExporterService.attempts (self : ExporterService) : Nat := self.status.snapshot.collectionAttempts

/-- **A refresh records its collection once.** -/
theorem attempts_refresh (options : ServiceOptions) (self : ExporterService) (r : Refresh) :
    (self.refresh options r).attempts = self.attempts + 1 := by
  unfold ExporterService.refresh ExporterService.recordStep ExporterService.publishStep ExporterService.attempts
    RuntimeStatus.snapshot RuntimeStatus.recordCollection
  cases r.payloads options <;> dsimp only <;> split <;> dsimp only <;> omega

section Poll
variable (options : ServiceOptions)

/-- The loop performs every one of its refreshes: at each tick the collection returns, the refresh completes from where
the earlier ones left the service, and it records the collection once. -/
def Survives (self : ExporterService) (ticks : List Tick) : Prop :=
  ∀ before t rest, ticks = before ++ t :: rest → ∃ collection, collect t.machine options.config = .ok collection ∧
    self.poll options (before ++ [t]) = (self.poll options before).refresh options (t.refresh collection) ∧
      (self.poll options (before ++ [t])).attempts = (self.poll options before).attempts + 1

theorem poll_cons {self : ExporterService} {t : Tick} {rest : List Tick} {collection : CollectionResult}
    (h : collect t.machine options.config = .ok collection) :
    self.poll options (t :: rest) = (self.refresh options (t.refresh collection)).poll options rest := by
  rw [ExporterService.poll, ExporterService.collectAndRefresh, h]

theorem poll_concat {t : Tick} {collection : CollectionResult} (h : collect t.machine options.config = .ok collection) :
    ∀ {before : List Tick} (self : ExporterService), (∀ u ∈ before, (collect u.machine options.config).isOk = true) →
      self.poll options (before ++ [t]) = (self.poll options before).refresh options (t.refresh collection)
  | [], _, _ => poll_cons options h
  | u :: before, self, hb => by
    rw [List.forall_mem_cons] at hb
    cases hu : collect u.machine options.config with
    | error e =>
      rw [hu] at hb
      cases hb.1
    | ok first =>
      rw [List.cons_append, poll_cons options hu, poll_cons options hu]
      exact poll_concat h _ hb.2

/-- **The poll loop survives exactly the readable machines.** -/
theorem survives_iff (self : ExporterService) (ticks : List Tick) :
    Survives options self ticks ↔ ∀ t ∈ ticks, Readable t.machine options.config := by
  simp only [← collect_isOk]
  constructor
  · intro h t ht
    obtain ⟨before, rest, rfl⟩ := List.append_of_mem ht
    obtain ⟨collection, hc, -, -⟩ := h before t rest rfl
    rw [hc]
    rfl
  · rintro h before t rest rfl
    have ht := h t (List.mem_append_right _ List.mem_cons_self)
    cases hc : collect t.machine options.config with
    | error e =>
      rw [hc] at ht
      cases ht
    | ok collection =>
      have hp := poll_concat options hc self (fun u hu => h u (List.mem_append_left _ hu))
      exact ⟨collection, rfl, hp, by rw [hp, attempts_refresh]⟩

end Poll

/-- A device whose memory usage is a number past the decimal range, once its unit is multiplied in. -/
def hugeTree : Node := .folder [("sys", .folder [("0", .folder [("memory_used_bytes", .file "9e999999k")])])]

def hugeOptions : ServiceOptions where
  config := { sysfsRoot := ["sys".toList] }
  maximumRenderedPayloadBytes := 8 * 1024 * 1024
  ratio := fun _ _ => ⟨['0'], by decide⟩

def hugeTick : Tick where
  machine := ⟨hugeTree, 0, id⟩
  renderFails := false
  duration := 0
  steadyNow := 0
  wallNow := 0

/-- The collection raises, nothing is recorded, and the second refresh is never performed. -/
theorem hugeTree_ends_polling : ¬ Survives hugeOptions (ExporterService.start 30 false) [hugeTick, hugeTick] ∧
    ((ExporterService.start 30 false).poll hugeOptions [hugeTick, hugeTick]).attempts = 0 := by
  have hc : (collect hugeTick.machine hugeOptions.config).isOk = false := by decide +kernel
  cases he : collect hugeTick.machine hugeOptions.config with
  | ok collection =>
    rw [he] at hc
    cases hc
  | error e =>
    refine ⟨fun h => ?_, ?_⟩
    · obtain ⟨collection, hcol, -⟩ := h [] hugeTick [hugeTick] rfl
      rw [he] at hcol
      cases hcol
    · rw [ExporterService.poll, ExporterService.collectAndRefresh, he]
      rfl

end Tt
