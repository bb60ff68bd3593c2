import TtMetricsExporter.Dictionary
import TtMetricsExporter.ReorderedState
import TtMetricsExporter.Survival
/-!
# EnumerationOrder — whether a collection depends on the order of its directories

Two orders of one tree are visited in the same devices, and each device is read alike up to two lists: its sensors, where
two directories below one `hwmon` hold sensor files of one name, and its workloads, where two legacy records have one
key.  Both sorts leave such a tie as the directories were enumerated.
-/
namespace Tt

open Py (Str)
open Posix (Node Path Errno Reordered)
open SysfsCollector StateIngestor

/-! ## The sysfs root -/

section Root
variable {m : Machine} {fs : Node} (h : Reordered m.fs fs) (config : CollectorConfig)
include h

theorem entryIsDir_reordered (name : Str) {n n' : Node} (hn : Posix.Similar List.Perm Eq n n') :
    entryIsDir { m with fs := fs } config (name, n') = entryIsDir m config (name, n) := by
  unfold entryIsDir
  cases hn with
  | symlink target =>
    dsimp only
    have hs := h.stat_related (config.sysfsRoot ++ [name])
    generalize Posix.stat m.fs (config.sysfsRoot ++ [name]) = x at hs ⊢
    generalize Posix.stat fs (config.sysfsRoot ++ [name]) = y at hs ⊢
    cases hs with
    | error e => rfl
    | ok hs => cases hs <;> rfl
  | _ => rfl

/-- Both orders have the same entries in the sysfs root, or fail to scan it alike. -/
theorem scanRoot_related : Posix.Outcomes (fun es es' => (es.map Prod.fst).Perm (es'.map Prod.fst) ∧
    ∀ c, Option.Rel (Posix.Similar List.Perm Eq) (es.lookup c) (es'.lookup c)) (scanRoot m config)
      (scanRoot { m with fs := fs } config) := by
  unfold scanRoot
  have hs := h.stat_related config.sysfsRoot
  have hscan := h.scandir_related config.sysfsRoot
  generalize Posix.stat m.fs config.sysfsRoot = x at hs ⊢
  generalize Posix.stat fs config.sysfsRoot = y at hs ⊢
  cases hs with
  | error e => exact .error e
  | ok hs =>
    cases hs with
    | directory access names entries => exact hscan
    | _ => exact .error _

theorem openRoots_reordered (now : Int) : openRoots fs config now = openRoots m.fs config now := by
  unfold openRoots openRoot SecureDirectory.openRoot
  simp only [h.openPath_eq]

end Root

/-! ## The devices that are visited -/

section Visits
variable (m : Machine) (config : CollectorConfig)

/-- The names of some entries, and whether each is a directory. -/
def visited (entries : List (Str × Node)) : List (Str × Bool) := entries.map (fun e => (e.1, entryIsDir m config e))

/-- `collectDevice` of an entry that was looked at. -/
def visit (state : StateIngestor) (v : Str × Bool) : Reading (Option DeviceTelemetry) := do
  if v.2 then
    let device ← populateDevice m config { id := v.1, sysfsPath := config.sysfsRoot ++ [v.1] } .sysfsRoot
    let device ← state.populate m.fs device
    return some device
  else return none

theorem each_collectDevice (state : StateIngestor) (entries : List (Str × Node)) :
    Tally.each (collectDevice m config state) entries =
      Tally.each (visit m config state) (visited m config entries) := by
  have hvisit : ∀ e, collectDevice m config state e = visit m config state (e.1, entryIsDir m config e) := by
    intro e
    unfold collectDevice visit
    rfl
  rw [visited, Tally.each_map]
  exact congrArg (fun f => Tally.each f entries) (funext hvisit)

variable {m config}

theorem mem_visited {entries : List (Str × Node)} (hnd : (entries.map Prod.fst).Nodup) {v : Str × Bool} :
    v ∈ visited m config entries ↔
      (entries.lookup v.1).map (fun n => entryIsDir m config (v.1, n)) = some v.2 := by
  obtain ⟨name, isDir⟩ := v
  rw [visited, List.mem_map, Option.map_eq_some_iff]
  dsimp only
  constructor
  · rintro ⟨⟨name', n⟩, he, hv⟩
    cases hv
    exact ⟨n, (Py.lookup_eq_some_iff hnd).2 he, rfl⟩
  · rintro ⟨n, hn, rfl⟩
    exact ⟨(name, n), (Py.lookup_eq_some_iff hnd).1 hn, rfl⟩

theorem nodup_visited {entries : List (Str × Node)} (hnd : (entries.map Prod.fst).Nodup) :
    (visited m config entries).Nodup := by
  refine List.Nodup.of_map Prod.fst ?_
  rw [visited, List.map_map]
  exact hnd

theorem visited_perm {fs : Node} (h : Reordered m.fs fs) {es es' : List (Str × Node)} (hnd : (es.map Prod.fst).Nodup)
    (hnames : (es.map Prod.fst).Perm (es'.map Prod.fst))
    (hlookup : ∀ c, Option.Rel (Posix.Similar List.Perm Eq) (es.lookup c) (es'.lookup c)) :
    (visited m config es).Perm (visited { m with fs := fs } config es') := by
  have hnd' := hnames.nodup_iff.1 hnd
  rw [List.perm_ext_iff_of_nodup (nodup_visited hnd) (nodup_visited hnd')]
  rintro ⟨name, isDir⟩
  rw [mem_visited hnd, mem_visited hnd']
  have hl := hlookup name
  dsimp only
  generalize es.lookup name = x at hl ⊢
  generalize es'.lookup name = y at hl ⊢
  cases hl with
  | none => rfl
  | some hn => rw [Option.map_some, Option.map_some, entryIsDir_reordered h config name hn]

end Visits

/-! ## Ties -/

section Ties
variable (m : Machine) (config : CollectorConfig)

/-- A device as far as the names its state is kept under. -/
def keyed (id : Str) (root : Path) : DeviceTelemetry where
  id := id
  sysfsPath := root
  pci := { bdf := bdfOf m root }
  characterDevice := characterDeviceOf m root

theorem deviceKeys_keyed (id : Str) (root : Path) : deviceKeys (keyed m id root) = keysOf m id root := rfl

/-- No tie decides the sensors or the workloads of the device of a name. -/
structure DeviceTieFree (name : Str) : Prop where
  sensors : config.collectHwmon = true → SensorsSettled m (config.sysfsRoot ++ [name])
  workloads : StateSettled (ingestorOf m config) m.fs (keyed m name (config.sysfsRoot ++ [name]))

/-- **No tie decides what is collected.** -/
def TieFree : Prop :=
  ∀ entries, scanRoot m config = .ok entries → ∀ e ∈ entries, entryIsDir m config e = true →
    DeviceTieFree m config e.1

end Ties

section Collect
variable {m : Machine} {fs : Node} (h : Reordered m.fs fs) (hfs : m.fs.WellFormed) (hlimit : WithinScanLimit m.fs)
  (config : CollectorConfig)
include h hfs hlimit

/-- **A device that is visited is read alike** but for ties. -/
theorem visit_shuffled (v : Str × Bool) :
    Tally.Shuffled (Option.Rel (fun d d' => d.id = d'.id ∧ (DeviceTieFree m config v.1 → d = d')))
      (visit m config (ingestorOf m config) v) (visit { m with fs := fs } config (ingestorOf m config) v) := by
  unfold visit
  by_cases hv : v.2 = true
  · rw [if_pos hv, if_pos hv]
    refine ((populateDevice_shuffled h config _ _).ensures (populateDevice_ensures m config _ _)
      (Q := fun _ => True) (fun _ _ => trivial)).bind ?_
    rintro d d' ⟨hd, hk, -⟩
    refine (populate_shuffled h (ingestorOf m config) hfs hlimit hd).bind (fun a a' ha => .pure (.some ⟨ha.1, ?_⟩))
    intro htie
    refine ha.2 htie.sensors ((stateSettled_keys _ m.fs ?_).1 htie.workloads)
    rw [hk, deviceKeys_keyed]
  · rw [if_neg hv, if_neg hv]
    exact .pure .none

/-- The devices of the sysfs root, in both orders, by name. -/
theorem devices_shuffled {es es' : List (Str × Node)} (hs : scanRoot m config = .ok es)
    (hnames : (es.map Prod.fst).Perm (es'.map Prod.fst))
    (hlookup : ∀ c, Option.Rel (Posix.Similar List.Perm Eq) (es.lookup c) (es'.lookup c)) :
    Tally.Shuffled (fun ds ds' => TieFree m config →
        ds.insertionSort (fun a b => a.id ≤ b.id) = ds'.insertionSort (fun a b => a.id ≤ b.id))
      (Tally.each (collectDevice m config (ingestorOf m config)) es)
      (Tally.each (collectDevice { m with fs := fs } config (ingestorOf m config)) es') := by
  have hnd := (names_scanRoot hfs hs).1
  have hperm := @visited_perm m config fs h es es' hnd hnames hlookup
  have hids : (Tally.each (collectDevice m config (ingestorOf m config)) es).Ensures
      (fun ds => (ds.map (·.id)).Nodup) := by
    intro ds hds
    have hf := Tally.Ensures.each_forall₂ (R := fun e d => d.id = e.1) (p := entryIsDir m config)
      (fun e _ he => ?_) (fun e _ he => ?_) ds hds
    · rw [map_eq_of_forall₂ (f := Prod.fst) (fun _ _ hd => hd) hf]
      exact hnd.sublist (List.filter_sublist.map _)
    · rintro d hd
      obtain ⟨v, rfl, hv⟩ := collectDevice_ensures hfs (ingestorOf m config) he d hd
      exact ⟨v, rfl, hv.name⟩
    · unfold collectDevice
      rw [if_neg (by rw [he]; decide)]
      exact .pure rfl
  have hsettled : ∀ v ∈ visited { m with fs := fs } config es',
      Tally.Shuffled (Option.Rel (fun d d' => TieFree m config → d = d'))
        (visit m config (ingestorOf m config) v) (visit { m with fs := fs } config (ingestorOf m config) v) := by
    intro v hv
    by_cases hdir : v.2 = true
    · refine (visit_shuffled h hfs hlimit config v).mono (fun _ _ hr => ?_)
      cases hr with
      | none => exact .none
      | some hd =>
        refine .some (fun htie => hd.2 ?_)
        obtain ⟨e, he, rfl⟩ := List.mem_map.1 (hperm.mem_iff.2 hv)
        exact htie es hs e he hdir
    · unfold visit
      rw [if_neg hdir, if_neg hdir]
      exact .pure .none
  rw [each_collectDevice] at hids
  rw [each_collectDevice, each_collectDevice]
  have hsame := (Tally.Shuffled.each_perm (visit m config (ingestorOf m config)) hperm).ensures hids
    (Q := fun _ => True) (fun _ _ => trivial)
  refine (hsame.trans (Tally.Shuffled.each hsettled)).mono ?_
  rintro ds ds' ⟨mid, ⟨hp, hdistinct, -⟩, hmid⟩ htie
  obtain rfl : mid = ds' := by
    rw [← List.forall₂_eq_eq_eq]
    exact hmid.imp (fun _ _ hd => hd htie)
  exact (Ranked.rank_eq_iff (fun d : DeviceTelemetry => d.id)).2
    (Ranked.filter_eq_of_perm _ hp (fun _ hx _ hy he => List.inj_on_of_nodup_map hdistinct hx hy he))

/-- **Two orders are collected alike** but for ties: the same roots and increments, and the same devices where no tie
decides them. -/
theorem find_shuffled : Tally.Shuffled (fun f f' =>
      f.state = f'.state ∧ f.scanned = f'.scanned ∧ (TieFree m config → f.devices = f'.devices))
    (find m config) (find { m with fs := fs } config) := by
  unfold find
  dsimp only
  rw [openRoots_reordered h]
  have hroots : (openRoots m.fs config m.now).Ensures (· = ingestorOf m config) := .of_value (value_openRoots m config) rfl
  refine ((Tally.Shuffled.of_eq rfl).ensures hroots (Q := fun _ => True) (fun _ _ => trivial)).bind ?_
  rintro _ _ ⟨rfl, rfl, -⟩
  have hscan := scanRoot_related h config
  cases hs : scanRoot m config with
  | error e =>
    rw [hs] at hscan
    generalize scanRoot { m with fs := fs } config = y at hscan ⊢
    cases hscan
    exact (Tally.Shuffled.of_eq rfl).mono (fun _ _ hf => ⟨by rw [hf], by rw [hf], fun _ => by rw [hf]⟩)
  | ok es =>
    rw [hs] at hscan
    generalize scanRoot { m with fs := fs } config = y at hscan ⊢
    cases hscan with
    | ok hboth =>
      refine (devices_shuffled h hfs hlimit config hs hboth.1 hboth.2).bind (fun ds ds' hds => .pure ?_)
      exact ⟨rfl, rfl, hds⟩

end Collect

/-! ## The result -/

/-- The increments on one record of diagnostics may be made in any order. -/
theorem bump_comm (d : SourceDiagnostics) (c c' : Counter) : (d.bump c).bump c' = (d.bump c').bump c := by
  cases c with
  | issue i =>
    cases c' with
    | issue i' =>
      refine congrArg (fun issues => { d with issues := issues }) (funext (fun j => ?_))
      dsimp only [SourceDiagnostics.bump]
      split_ifs <;> rfl
    | _ => rfl
  | _ => cases c' <;> rfl

theorem diagnosticsOf_perm (config : CollectorConfig) {f f' : Findings} (hstate : f.state = f'.state)
    (hscanned : f.scanned = f'.scanned) {counted counted' : List Increment} (hp : counted.Perm counted') :
    diagnosticsOf config f counted = diagnosticsOf config f' counted' := by
  funext source
  have haccessible : f.accessible source = f'.accessible source := by
    unfold Findings.accessible
    rw [hstate, hscanned]
  unfold diagnosticsOf
  rw [haccessible]
  exact ((hp.filter _).map _).foldl_eq' (fun c _ c' _ d => bump_comm d c c') _

/-- **Without ties every order is collected alike**, where the collection returns. -/
theorem collect_reordered {m : Machine} {fs : Node} (h : Reordered m.fs fs) (hfs : m.fs.WellFormed)
    (hlimit : WithinScanLimit m.fs) (config : CollectorConfig) (htie : Readable m config → TieFree m config) :
    (collect m config).toOption = (collect { m with fs := fs } config).toOption := by
  have hfind := find_shuffled h hfs hlimit config
  have hreturns := collect_isOk m config
  unfold collect at hreturns ⊢
  cases hf : find m config with
  | raised e =>
    cases hf' : find { m with fs := fs } config with
    | raised e' => rfl
    | returned f' counted' =>
      rw [hf, hf'] at hfind
      exact hfind.elim
  | returned f counted =>
    cases hf' : find { m with fs := fs } config with
    | raised e' =>
      rw [hf, hf'] at hfind
      exact hfind.elim
    | returned f' counted' =>
      rw [hf, hf'] at hfind
      rw [hf] at hreturns
      obtain ⟨⟨hstate, hscanned, hdevices⟩, hcounted⟩ := hfind
      have hsame := diagnosticsOf_perm config hstate hscanned hcounted
      dsimp only
      rw [hdevices (htie (hreturns.1 rfl)), hsame, hscanned]

end Tt
