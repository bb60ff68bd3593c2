import TtMetricsExporter.Similar
import TtMetricsExporter.State
/-!
# Containment — what a state root can show

Every component that reaches `openat` below a state root has passed `validComponent`, so it is plain: it names an entry
of the directory it is looked up in.  So two file trees that agree below a root, links, hard-linked files and special
files being markers only, are read alike, with the same counters bumped.
-/
namespace Tt

open Py (Str)
open Posix (Node Path Errno Agree AgreeAt)

theorem plain_of_validComponent {value : Str} {maximum : Nat} (h : validComponent value maximum = true) :
    Posix.Plain value ∧ '\x00' ∉ value := by
  simp only [validComponent, Bool.and_eq_true, decide_eq_true_eq] at h
  obtain ⟨⟨⟨⟨⟨⟨-, h0⟩, -⟩, h1⟩, h2⟩, h3⟩, -⟩ := h
  simp only [List.mem_cons, List.not_mem_nil, or_false, not_or] at h1
  exact ⟨⟨h0, h1.1, h1.2, h2⟩, h3⟩

theorem osOpen_of_validComponent (fs : Node) (here : Path) {name : Str} {maximum : Nat}
    (h : validComponent name maximum = true) (directoryOnly : Bool) :
    osOpen fs here name directoryOnly =
      return (Posix.openEntry (fs.at here) name directoryOnly).map (fun _ => here ++ [name]) := by
  obtain ⟨hp, h0⟩ := plain_of_validComponent h
  rw [osOpen, if_neg h0, Posix.openat_plain fs here hp]

/-! ## One descriptor -/

/-- One directory, which cannot be told apart from below. -/
def SameDirectory (fs₁ fs₂ : Node) (d₁ d₂ : SecureDirectory) : Prop := d₁ = d₂ ∧ Agree fs₁ fs₂ d₁.path

section Entry
variable {fs₁ fs₂ : Node} {self : SecureDirectory}

/-- Two directories opened alike, on which something holds once they are. -/
theorem related_openDirectory_of {P : Path → Prop} {component : Str} (diagnostics : TelemetrySource)
    (ho : Posix.openEntry (fs₁.at self.path) component true = Posix.openEntry (fs₂.at self.path) component true)
    (hp : Posix.openEntry (fs₁.at self.path) component true = .ok () → P (self.path ++ [component])) :
    Tally.Related (Option.Rel (fun d₁ d₂ => d₁ = d₂ ∧ P d₁.path)) (self.openDirectory fs₁ component diagnostics)
      (self.openDirectory fs₂ component diagnostics) := by
  unfold SecureDirectory.openDirectory
  by_cases hc : validComponent component = true
  · rw [if_pos hc, if_pos hc, osOpen_of_validComponent fs₁ _ hc, osOpen_of_validComponent fs₂ _ hc, ← ho]
    simp only [pure_bind]
    cases hr : Posix.openEntry (fs₁.at self.path) component true with
    | ok _ => exact Tally.Related.pure (.some ⟨rfl, hp hr⟩)
    | error e =>
      have hnone : Tally.Related (Option.Rel (fun d₁ d₂ : SecureDirectory => d₁ = d₂ ∧ P d₁.path))
          (recordOsError e diagnostics >>= fun _ => return none)
          (recordOsError e diagnostics >>= fun _ => return none) :=
        (Tally.Related.refl _).bind (fun _ _ _ => Tally.Related.pure .none)
      cases e <;> first | exact Tally.Related.pure .none | exact hnone
  · rw [if_neg hc, if_neg hc]
    exact (Tally.Related.refl _).bind (fun _ _ _ => Tally.Related.pure .none)

theorem related_openDirectory {component : Str} (h : AgreeAt fs₁ fs₂ self.path component)
    (diagnostics : TelemetrySource) :
    Tally.Related (Option.Rel (SameDirectory fs₁ fs₂)) (self.openDirectory fs₁ component diagnostics)
      (self.openDirectory fs₂ component diagnostics) :=
  related_openDirectory_of diagnostics (h.opened true) (fun _ => h.below)

theorem readOpened_congr {p : Path} (h : Agree fs₁ fs₂ p) (maximumSize : Nat) (diagnostics : TelemetrySource) :
    readOpened (fs₁.at p) maximumSize diagnostics = readOpened (fs₂.at p) maximumSize diagnostics := by
  rcases h.cases with ⟨h₁, h₂⟩ | ⟨n₁, n₂, h₁, h₂, ha⟩
  · rw [h₁, h₂]
  · rw [h₁, h₂]
    cases ha with
    | hardLinked hl₁ hl₂ _ => simp only [readOpened, statusIssue, if_pos hl₁, if_pos hl₂]
    | _ => rfl

theorem readText_congr {name : Str} (h : AgreeAt fs₁ fs₂ self.path name) (maximumSize : Nat)
    (diagnostics : TelemetrySource) :
    self.readText fs₁ name maximumSize diagnostics = self.readText fs₂ name maximumSize diagnostics := by
  unfold SecureDirectory.readText
  by_cases hc : validComponent name 255 = true
  · rw [if_pos hc, if_pos hc, osOpen_of_validComponent fs₁ _ hc, osOpen_of_validComponent fs₂ _ hc, h.opened]
    simp only [pure_bind]
    cases Posix.openEntry (fs₂.at self.path) name false with
    | error e => cases e <;> rfl
    | ok _ => exact readOpened_congr h.below maximumSize diagnostics
  · rw [if_neg hc, if_neg hc]

theorem entries_congr (h : Posix.listdir fs₁ self.path = Posix.listdir fs₂ self.path) (maximumEntries : Nat)
    (diagnostics : TelemetrySource) :
    self.entries fs₁ maximumEntries diagnostics = self.entries fs₂ maximumEntries diagnostics := by
  unfold SecureDirectory.entries
  rw [h]

end Entry

section Reads
variable {fs₁ fs₂ : Node} {self : SecureDirectory} (h : Agree fs₁ fs₂ self.path)
include h

theorem related_firstDeviceDirectory (device : DeviceTelemetry) (diagnostics : TelemetrySource) :
    Tally.Related (Option.Rel (SameDirectory fs₁ fs₂))
      (StateIngestor.firstDeviceDirectory fs₁ self device diagnostics)
      (StateIngestor.firstDeviceDirectory fs₂ self device diagnostics) :=
  Tally.Related.first (fun candidate _ => related_openDirectory (h.entry candidate) diagnostics)

theorem related_openWorkloadRoot : Tally.Related (Option.Rel (SameDirectory fs₁ fs₂))
    (StateIngestor.openWorkloadRoot fs₁ self) (StateIngestor.openWorkloadRoot fs₂ self) := by
  unfold StateIngestor.openWorkloadRoot
  refine (related_openDirectory (h.entry _) _).bind (fun d₁ d₂ hd => ?_)
  cases hd with
  | none => exact Tally.Related.pure .none
  | some hd =>
    obtain ⟨rfl, hd⟩ := hd
    exact related_openDirectory (hd.entry _) _

/-! ## The readers -/

/-- A reader of the device's directory below a root. -/
theorem related_inDeviceDirectory {α : Type} {device : DeviceTelemetry} {diagnostics : TelemetrySource}
    {read₁ read₂ : Option SecureDirectory → Reading α} (hnone : read₁ none = read₂ none)
    (hsome : ∀ d : SecureDirectory, Agree fs₁ fs₂ d.path → read₁ (some d) = read₂ (some d)) :
    Tally.Related Eq (StateIngestor.firstDeviceDirectory fs₁ self device diagnostics >>= read₁)
      (StateIngestor.firstDeviceDirectory fs₂ self device diagnostics >>= read₂) := by
  refine (related_firstDeviceDirectory h device diagnostics).bind ?_
  intro d₁ d₂ hd
  cases hd with
  | none => rw [hnone]; exact Tally.Related.refl _
  | some hd =>
    obtain ⟨rfl, hd⟩ := hd
    rw [hsome _ hd]
    exact Tally.Related.refl _

theorem readAllocation_congr (device : DeviceTelemetry) :
    StateIngestor.readAllocation fs₁ device self = StateIngestor.readAllocation fs₂ device self := by
  unfold StateIngestor.readAllocation
  refine (related_inDeviceDirectory h ?_ (fun d hd => ?_)).eq
  · rfl
  · simp only [fun name => readText_congr (hd.entry name)]

theorem readStateInt_congr (name : Str) (diagnostics : TelemetrySource) :
    StateIngestor.readStateInt fs₁ self name diagnostics = StateIngestor.readStateInt fs₂ self name diagnostics := by
  unfold StateIngestor.readStateInt
  rw [readText_congr (h.entry name)]

theorem readJanitor_congr (device : DeviceTelemetry) :
    StateIngestor.readJanitor fs₁ device self = StateIngestor.readJanitor fs₂ device self := by
  unfold StateIngestor.readJanitor
  refine (related_inDeviceDirectory h ?_ (fun d hd => ?_)).eq
  · rfl
  · simp only [fun name => readText_congr (hd.entry name), readStateInt_congr hd]

variable (ingestor : StateIngestor)

omit h in
theorem readPod_congr (device : DeviceTelemetry) {podUid : Str} (h : AgreeAt fs₁ fs₂ self.path podUid) :
    ingestor.readPod fs₁ device self podUid = ingestor.readPod fs₂ device self podUid := by
  unfold StateIngestor.readPod
  dsimp only
  by_cases hv : validComponent podUid maximumWorkloadIdBytes = false
  · rw [if_pos hv, if_pos hv]
  · rw [if_neg hv, if_neg hv]
    refine ((related_openDirectory h _).bind (fun d₁ d₂ hd => ?_)).eq
    cases hd with
    | none => exact Tally.Related.refl _
    | some hd =>
      obtain ⟨rfl, hd⟩ := hd
      refine related_inDeviceDirectory hd ?_ (fun directory hf => ?_)
      · rfl
      · simp only [fun name => readText_congr (hf.entry name)]

theorem readV2Workloads_congr (device : DeviceTelemetry) :
    ingestor.readV2Workloads fs₁ device self = ingestor.readV2Workloads fs₂ device self := by
  unfold StateIngestor.readV2Workloads
  have hp : ingestor.readPod fs₁ device self = ingestor.readPod fs₂ device self :=
    funext (fun podUid => readPod_congr ingestor device (h.entry podUid))
  rw [entries_congr (Posix.listdir_congr h), hp]

theorem readV2_congr (device : DeviceTelemetry) : ingestor.readV2 fs₁ device self = ingestor.readV2 fs₂ device self := by
  unfold StateIngestor.readV2
  refine ((related_openWorkloadRoot h).bind (fun w₁ w₂ hw => ?_)).eq
  cases hw with
  | none => exact Tally.Related.refl _
  | some hw =>
    obtain ⟨rfl, hw⟩ := hw
    exact .of_eq (readV2Workloads_congr hw ingestor device)

omit h in
theorem readLegacyFile_congr {filename : Str} (h : AgreeAt fs₁ fs₂ self.path filename) :
    ingestor.readLegacyFile fs₁ self filename = ingestor.readLegacyFile fs₂ self filename := by
  unfold StateIngestor.readLegacyFile
  rw [readText_congr h]

theorem readLegacy_congr (device : DeviceTelemetry) :
    ingestor.readLegacy fs₁ device self = ingestor.readLegacy fs₂ device self := by
  unfold StateIngestor.readLegacy
  refine (related_inDeviceDirectory h ?_ (fun d hd => ?_)).eq
  · rfl
  · have hf : ingestor.readLegacyFile fs₁ d = ingestor.readLegacyFile fs₂ d :=
      funext (fun filename => readLegacyFile_congr ingestor (hd.entry filename))
    simp only [entries_congr (Posix.listdir_congr hd), hf]

theorem readWorkloads_congr (device : DeviceTelemetry) :
    ingestor.readWorkloads fs₁ device self = ingestor.readWorkloads fs₂ device self := by
  unfold StateIngestor.readWorkloads
  rw [readV2_congr h, readLegacy_congr h]

end Reads

/-! ## Trees of one shape -/

section Shape
variable {L : List Str → List Str → Prop} {F : Posix.Regular → Posix.Regular → Prop} {fs₁ fs₂ : Node}
  (h : Posix.Similar L F fs₁ fs₂)
include h

theorem openDirectory_similar : SecureDirectory.openDirectory fs₁ = SecureDirectory.openDirectory fs₂ := by
  funext directory component diagnostics
  unfold SecureDirectory.openDirectory osOpen
  rw [h.openat_eq]

theorem firstDeviceDirectory_similar :
    StateIngestor.firstDeviceDirectory fs₁ = StateIngestor.firstDeviceDirectory fs₂ := by
  unfold StateIngestor.firstDeviceDirectory
  rw [openDirectory_similar h]

theorem openWorkloadRoot_similar : StateIngestor.openWorkloadRoot fs₁ = StateIngestor.openWorkloadRoot fs₂ := by
  unfold StateIngestor.openWorkloadRoot
  rw [openDirectory_similar h]

end Shape

/-! ## Noninterference -/

/-- The state roots that could be opened. -/
def StateIngestor.roots (self : StateIngestor) : List SecureDirectory :=
  self.allocationRoot.toList ++ self.janitorRoot.toList ++ self.profilerRoot.toList

section Roots
variable {self : StateIngestor} {fs₁ fs₂ : Node} (h : ∀ root ∈ self.roots, Agree fs₁ fs₂ root.path)
include h

theorem populateAllocation_congr (device : DeviceTelemetry) :
    self.populateAllocation fs₁ device = self.populateAllocation fs₂ device := by
  unfold StateIngestor.populateAllocation
  cases hr : self.allocationRoot with
  | none => rfl
  | some root => simp only [readAllocation_congr (h root (by simp [StateIngestor.roots, hr]))]

theorem populateJanitor_congr (device : DeviceTelemetry) :
    self.populateJanitor fs₁ device = self.populateJanitor fs₂ device := by
  unfold StateIngestor.populateJanitor
  cases hr : self.janitorRoot with
  | none => rfl
  | some root => simp only [readJanitor_congr (h root (by simp [StateIngestor.roots, hr]))]

theorem populateWorkloads_congr (device : DeviceTelemetry) :
    self.populateWorkloads fs₁ device = self.populateWorkloads fs₂ device := by
  unfold StateIngestor.populateWorkloads
  cases hr : self.profilerRoot with
  | none => rfl
  | some root => simp only [readWorkloads_congr (h root (by simp [StateIngestor.roots, hr]))]

end Roots

/-- **Nothing outside the state roots or behind a link reaches a device's fields or the counters.** -/
theorem populate_contained (self : StateIngestor) (device : DeviceTelemetry) (fs₁ fs₂ : Node)
    (h : ∀ root ∈ self.roots, Agree fs₁ fs₂ root.path) : self.populate fs₁ device = self.populate fs₂ device := by
  unfold StateIngestor.populate
  simp only [populateAllocation_congr h, populateJanitor_congr h, populateWorkloads_congr h]

/-- A janitor's record with a link to a secret and a hard link to it. -/
def linkedTree (target secret : String) : Node := .folder [
  ("janitor", .folder [("0", .folder [
    ("state", .symlink target.toList),
    ("last_reset_status", .regular ⟨none, 2, secret.toByteArray.size, .ok secret.toByteArray⟩),
    ("quarantine_reason", .file "hang")])]),
  ("secret", .file secret)]

theorem populate_contained_linkedTree :
    let self : StateIngestor := { janitorRoot := some ⟨["janitor".toList]⟩, staleAfterSeconds := 15, nowSeconds := 0 }
    self.populate (linkedTree "/secret" "key") { id := "0".toList } =
      self.populate (linkedTree "/janitor" "other") { id := "0".toList } := by
  intro self
  refine populate_contained self _ _ _ (fun root hr => ?_)
  obtain rfl : root = ⟨["janitor".toList]⟩ := by simpa [self, StateIngestor.roots] using hr
  rfl

end Tt
