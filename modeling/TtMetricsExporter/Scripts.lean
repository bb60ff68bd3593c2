import TtMetricsExporter.Ownership
/-!
# Scripts — the attribute readers of a device as a script

`Ownership` leaves the attribute readers of a device open: they may be any `Script`.  The ones of the collector are one:
a script does in every tree what `_populate_device` does there (`populateDevice_script`).  A reader is shown to be
scripted construct by construct.
-/
namespace Tt
namespace Ownership

open Py (Str)
open Posix (Node Path Errno)
open Descriptor

/-! ## A script in a tree -/

/-- What `stat` tells of a node. -/
def statusOf : Node → Status
  | .directory _ _ => ⟨true, false, 1, 0⟩
  | .regular file => ⟨false, true, file.links, file.size⟩
  | _ => ⟨false, false, 1, 0⟩

/-- What a tree answers. -/
def answerIn (fs : Node) (path : Path) : {ρ : Type} → Query ρ → ρ
  | _, .stat => (Posix.stat fs path).map statusOf
  | _, .listdir => Posix.listPath fs path
  | _, .readlink => Posix.readlink fs path

namespace Script
variable {α β : Type}

/-- What a script finds in a tree. -/
def reading (fs : Node) : Script α → Reading α
  | .done a => return a
  | .raised e => .raised e
  | .counted increments next => do
    .returned () increments
    next.reading fs
  | .readText path diagnostics next => do
    let text ← SysfsReader.readText fs path diagnostics
    (next text).reading fs
  | .ask path question next => (next (answerIn fs path question)).reading fs

protected def bind : Script α → (α → Script β) → Script β
  | .done a, k => k a
  | .raised e, _ => .raised e
  | .counted increments next, k => .counted increments (next.bind k)
  | .readText path diagnostics next, k => .readText path diagnostics (fun text => (next text).bind k)
  | .ask path question next, k => .ask path question (fun answer => (next answer).bind k)

theorem reading_bind (fs : Node) (s : Script α) (k : α → Script β) :
    (s.bind k).reading fs = s.reading fs >>= fun a => (k a).reading fs := by
  induction s with
  | done a =>
    show (k a).reading fs = (pure a : Reading α) >>= fun a => (k a).reading fs
    rw [pure_bind]
  | raised e => rfl
  | counted increments next ih =>
    show _ >>= _ = _ >>= _
    rw [reading, bind_assoc]
    exact congrArg _ (funext (fun _ => ih))
  | readText path diagnostics next ih =>
    show _ >>= _ = _ >>= _
    rw [reading, bind_assoc]
    exact congrArg _ (funext (fun text => ih text))
  | ask path question next ih => exact ih _

end Script

/-! ## Readers that are scripts -/

/-- One script does in every tree what the reader does there. -/
def Scripted {α : Type} (f : Node → Reading α) : Prop := ∃ s : Script α, ∀ fs, s.reading fs = f fs

section Scripted
variable {α β ρ : Type}

theorem scripted_const (x : Reading α) : Scripted (fun _ => x) := by
  cases x with
  | raised e => exact ⟨.raised e, fun _ => rfl⟩
  | returned a counted =>
    refine ⟨.counted counted (.done a), fun _ => ?_⟩
    show Tally.returned a (counted ++ []) = _
    rw [List.append_nil]

theorem Scripted.bind {f : Node → Reading α} {k : Node → α → Reading β} (hf : Scripted f)
    (hk : ∀ a, Scripted (fun fs => k fs a)) : Scripted (fun fs => f fs >>= k fs) := by
  obtain ⟨s, hs⟩ := hf
  choose next hnext using hk
  refine ⟨s.bind next, fun fs => ?_⟩
  rw [Script.reading_bind, hs]
  exact congrArg _ (funext (fun a => hnext a fs))

theorem scripted_readText (path : Path) (diagnostics : TelemetrySource) :
    Scripted (fun fs => SysfsReader.readText fs path diagnostics) :=
  ⟨.readText path diagnostics .done, fun _ => bind_pure _⟩

/-- What can be found out of a tree by asking it. -/
def Asked (view : Node → ρ) : Prop := Scripted (fun fs => (pure (view fs) : Reading ρ))

theorem Asked.bind {view : Node → ρ} {k : Node → ρ → Reading α} (h : Asked view)
    (hk : ∀ r, Scripted (fun fs => k fs r)) : Scripted (fun fs => k fs (view fs)) := by
  have hbind : Scripted (fun fs => (pure (view fs) : Reading ρ) >>= k fs) := Scripted.bind h hk
  simpa only [pure_bind] using hbind

/-- A reader that does one thing or another, by what a view shows. -/
theorem Asked.reads {view : Node → ρ} {f : Node → Reading α} (h : Asked view)
    (hf : ∀ r, ∃ g, Scripted g ∧ ∀ fs, view fs = r → f fs = g fs) : Scripted f := by
  choose g hscript hreads using hf
  obtain ⟨s, hs⟩ := h.bind (k := fun fs r => g r fs) hscript
  exact ⟨s, fun fs => (hs fs).trans (hreads (view fs) fs rfl).symm⟩

theorem asked_const (r : ρ) : Asked (fun _ => r) := scripted_const _

theorem Asked.map {view : Node → ρ} (h : Asked view) (f : ρ → α) : Asked (fun fs => f (view fs)) :=
  h.bind (k := fun _ r => pure (f r)) (fun _ => scripted_const _)

/-- A view that shows one thing or another, by what a view shows. -/
theorem Asked.tells {view : Node → ρ} {v : Node → α} (h : Asked view)
    (hv : ∀ r, ∃ w, Asked w ∧ ∀ fs, view fs = r → v fs = w fs) : Asked v := by
  refine h.reads (fun r => ?_)
  obtain ⟨w, hw, heq⟩ := hv r
  exact ⟨fun fs => pure (w fs), hw, fun fs hfs => congrArg pure (heq fs hfs)⟩

/-- One view, and another that depends on what it shows. -/
theorem Asked.next {view : Node → ρ} {k : Node → ρ → α} (h : Asked view)
    (hk : ∀ r, Asked (fun fs => k fs r)) : Asked (fun fs => k fs (view fs)) :=
  h.bind (k := fun fs r => pure (k fs r)) hk

theorem asked_stat (path : Path) : Asked (fun fs => (Posix.stat fs path).map statusOf) :=
  ⟨.ask path .stat .done, fun _ => rfl⟩

theorem asked_listdir (path : Path) : Asked (fun fs => Posix.listPath fs path) :=
  ⟨.ask path .listdir .done, fun _ => rfl⟩

theorem asked_readlink (path : Path) : Asked (fun fs => Posix.readlink fs path) :=
  ⟨.ask path .readlink .done, fun _ => rfl⟩

/-- A reader whose result is made out of what another reads. -/
theorem Scripted.yield {f : Node → Reading α} (h : Scripted f) (g : α → β) :
    Scripted (fun fs => f fs >>= fun a => pure (g a)) :=
  h.bind (fun a => scripted_const (pure (g a)))

theorem Scripted.map {f : Node → Reading α} (h : Scripted f) (g : α → β) : Scripted (fun fs => g <$> f fs) := by
  simp only [map_eq_pure_bind]
  exact h.bind (fun _ => scripted_const _)

theorem scripted_ite {c : Prop} [Decidable c] {f g : Node → Reading α} (hf : Scripted f) (hg : Scripted g) :
    Scripted (fun fs => if c then f fs else g fs) := by
  by_cases h : c
  · simpa only [if_pos h] using hf
  · simpa only [if_neg h] using hg

theorem scripted_first {f : Node → α → Reading (Option β)} (h : ∀ a, Scripted (fun fs => f fs a)) :
    ∀ l : List α, Scripted (fun fs => Tally.first (f fs) l)
  | [] => scripted_const _
  | a :: rest => (h a).bind (fun b => by
      cases b with
      | none => exact scripted_first h rest
      | some b => exact scripted_const _)

theorem scripted_each {f : Node → α → Reading (Option β)} (h : ∀ a, Scripted (fun fs => f fs a)) :
    ∀ l : List α, Scripted (fun fs => Tally.each (f fs) l)
  | [] => scripted_const _
  | a :: rest => (h a).bind (fun _ => (scripted_each h rest).bind (fun _ => scripted_const _))

theorem asked_flatMap {f : Node → α → List ρ} (h : ∀ a, Asked (fun fs => f fs a)) :
    ∀ l : List α, Asked (fun fs => l.flatMap (f fs))
  | [] => asked_const []
  | a :: rest => by
    simp only [List.flatMap_cons]
    exact (h a).next (k := fun fs r => r ++ rest.flatMap (f fs))
      (fun r => (asked_flatMap h rest).map (fun rs => r ++ rs))

theorem asked_mapM {f : Node → α → Option ρ} (h : ∀ a, Asked (fun fs => f fs a)) :
    ∀ l : List α, Asked (fun fs => l.mapM (f fs))
  | [] => asked_const (some [])
  | a :: rest => by
    have hcons : ∀ fs, (a :: rest).mapM (f fs) = (f fs a).bind (fun b => (rest.mapM (f fs)).map (b :: ·)) := by
      intro fs
      rw [List.mapM_cons]
      cases f fs a with
      | none => rfl
      | some b => cases rest.mapM (f fs) <;> rfl
    simp only [hcons]
    exact (h a).next (k := fun fs r => r.bind (fun b => (rest.mapM (f fs)).map (b :: ·)))
      (fun r => (asked_mapM h rest).map (fun rs => r.bind (fun b => rs.map (b :: ·))))

end Scripted

/-! ## The readers of attributes -/

section Attributes
variable (path root : Path) (names : List Str) (diagnostics : TelemetrySource)

theorem parse_scripted (parser : Str → Except PyError (Option Int)) :
    Scripted (fun fs => SysfsReader.parse fs path diagnostics parser) :=
  (scripted_readText path diagnostics).bind (fun value => by
    cases value with
    | none => exact scripted_const _
    | some value => exact scripted_const _)

theorem readByte_scripted : Scripted (fun fs => SysfsReader.readByte fs path diagnostics) :=
  (scripted_readText path diagnostics).bind (fun value => by
    cases value with
    | none => exact scripted_const _
    | some value => exact scripted_const _)

theorem readFirstText_scripted : Scripted (fun fs => SysfsReader.readFirstText fs root names diagnostics) :=
  scripted_first (fun name => scripted_readText (root ++ [name]) diagnostics) names

theorem readFirstInt_scripted : Scripted (fun fs => SysfsReader.readFirstInt fs root names diagnostics) :=
  scripted_first (fun name => parse_scripted (root ++ [name]) diagnostics _) names

theorem readFirstBoolish_scripted : Scripted (fun fs => SysfsReader.readFirstBoolish fs root names diagnostics) :=
  scripted_first (fun name => parse_scripted (root ++ [name]) diagnostics _) names

theorem readFirstByte_scripted : Scripted (fun fs => SysfsReader.readFirstByte fs root names diagnostics) :=
  scripted_first (fun name => readByte_scripted (root ++ [name]) diagnostics) names

open DeviceResourceReader

theorem orFirstByte_scripted (found : Option Int) :
    Scripted (fun fs => orFirstByte fs found root names diagnostics) := by
  cases found with
  | none => exact readFirstByte_scripted root names diagnostics
  | some value => exact scripted_const _

theorem populateMemory_scripted (device : DeviceTelemetry) :
    Scripted (fun fs => populateMemory fs device diagnostics) := by
  have husage : Scripted (fun fs => readMemoryUsage fs device.sysfsPath diagnostics) :=
    (readFirstText_scripted _ _ _).bind (fun usage => by
      cases usage with
      | none => exact scripted_const _
      | some usage => exact scripted_const _)
  refine husage.bind (fun _ => ?_)
  exact (orFirstByte_scripted _ _ _ _).bind (fun _ => (orFirstByte_scripted _ _ _ _).bind (fun _ =>
    (readFirstByte_scripted _ _ _).bind (fun _ => (readFirstByte_scripted _ _ _).bind (fun _ =>
    (readFirstByte_scripted _ _ _).bind (fun _ => (readFirstText_scripted _ _ _).bind (fun _ =>
    (readFirstText_scripted _ _ _).bind (fun _ => (readFirstInt_scripted _ _ _).bind (fun _ =>
    (readFirstInt_scripted _ _ _).bind (fun _ => (readFirstInt_scripted _ _ _).bind (fun _ => scripted_const _))))))))))

theorem readMesh_scripted : Scripted (fun fs => readMesh fs root diagnostics) :=
  (readFirstInt_scripted _ _ _).bind (fun _ => (readFirstInt_scripted _ _ _).bind (fun _ =>
    scripted_ite ((readFirstText_scripted _ _ _).bind (fun _ => scripted_const _)) (scripted_const _)))

theorem populateTensix_scripted (device : DeviceTelemetry) :
    Scripted (fun fs => populateTensix fs device diagnostics) :=
  (readFirstInt_scripted _ _ _).bind (fun _ => (readFirstInt_scripted _ _ _).bind (fun _ =>
    (readFirstInt_scripted _ _ _).bind (fun _ => (readMesh_scripted _ _).bind (fun _ =>
    (readFirstText_scripted _ _ _).bind (fun _ => (readFirstText_scripted _ _ _).bind (fun _ => scripted_const _))))))

end Attributes

/-! ## What is asked of a tree -/

section Questions
variable (path : Path)

/-- What `Path.is_dir` and `Path.is_file` make of an answer of `stat`. -/
def statusIs (flag : Status → Bool) : Except Errno Status → Except Errno Bool
  | .ok status => .ok (flag status)
  | .error e => if e ∈ ignoredErrors then .ok false else .error e

theorem asked_pathIs {kind : Node → Bool} {flag : Status → Bool} (h : ∀ n, kind n = flag (statusOf n)) :
    Asked (fun fs => pathIs fs kind path) := by
  have hview : ∀ fs, pathIs fs kind path = statusIs flag ((Posix.stat fs path).map statusOf) := by
    intro fs
    unfold pathIs
    cases Posix.stat fs path with
    | error e => rfl
    | ok n => exact congrArg Except.ok (h n)
  simp only [hview]
  exact (asked_stat path).map (statusIs flag)

theorem asked_isFile : Asked (fun fs => pathIs fs isRegular path) := by
  have hflag : ∀ n, isRegular n = (statusOf n).regular := fun n => by cases n <;> rfl
  exact asked_pathIs path hflag

theorem asked_isDir : Asked (fun fs => pathIs fs Node.isDirectory path) := by
  have hflag : ∀ n, Node.isDirectory n = (statusOf n).directory := fun n => by cases n <;> rfl
  exact asked_pathIs path hflag

theorem asked_subdirectories : Asked (fun fs => subdirectories fs path) := by
  refine (asked_listdir path).tells (fun answer => ⟨_, ?asks, fun fs hfs => by unfold subdirectories; rw [hfs]⟩)
  cases answer with
  | error e => exact asked_const none
  | ok names =>
    refine Asked.map (asked_mapM (fun name => ?_) names) (fun names => names.map List.flatten)
    exact (asked_isDir (path ++ [name])).tells (fun answer => ⟨_, asked_const _, fun fs hfs => by rw [hfs]⟩)

end Questions

/-! ## The readers of the collector -/

section Device
open SysfsCollector
variable (now : Int) (lower : Str → Str) (root : Path) (diagnostics : TelemetrySource)

theorem asked_readSymlinkBasename (path : Path) : Asked (fun fs => readSymlinkBasename ⟨fs, now, lower⟩ path) :=
  (asked_readlink path).tells (fun answer => ⟨_, asked_const _, fun fs hfs => by
    unfold readSymlinkBasename
    rw [hfs]⟩)

theorem readUeventField_scripted (field : Str) :
    Scripted (fun fs => readUeventField ⟨fs, now, lower⟩ root field diagnostics) :=
  (scripted_readText _ _).bind (fun content => by
    cases content with
    | none => exact scripted_const _
    | some content => exact scripted_const _)

theorem readIntText_scripted (path : Path) :
    Scripted (fun fs => readIntText ⟨fs, now, lower⟩ path diagnostics) :=
  (scripted_readText _ _).bind (fun _ => scripted_const _)

theorem readCharacterDevice_scripted :
    Scripted (fun fs => readCharacterDevice ⟨fs, now, lower⟩ root diagnostics) := by
  refine (scripted_readText _ _).bind (fun value => ?_)
  cases value with
  | none => exact scripted_const _
  | some value =>
    refine scripted_ite (scripted_const _) ?_
    dsimp only
    cases parseUint64 (Py.splitOnce ':' value).1 with
    | none => exact scripted_const _
    | some major => cases parseUint64 (Py.splitOnce ':' value).2 with
      | none => exact scripted_const _
      | some minor => exact (readUeventField_scripted now lower root diagnostics _).bind (fun _ => scripted_const _)

theorem readBdf_scripted : Scripted (fun fs => readBdf ⟨fs, now, lower⟩ root diagnostics) :=
  (readUeventField_scripted now lower root diagnostics _).bind (fun bdf => by
    cases bdf with
    | none => exact asked_readSymlinkBasename now lower root
    | some bdf => exact scripted_const _)

theorem readDriver_scripted : Scripted (fun fs => readDriver ⟨fs, now, lower⟩ root diagnostics) := by
  refine (readUeventField_scripted now lower root diagnostics _).bind (fun driver => ?_)
  cases driver with
  | some driver => exact scripted_const _
  | none =>
    refine (asked_readSymlinkBasename now lower (root ++ ["driver".toList])).reads
      (fun driver => ⟨_, ?asks, fun fs hfs => by rw [hfs]⟩)
    cases driver with
    | none => exact scripted_readText _ _
    | some driver => exact scripted_const _

theorem readIommuGroup_scripted : Scripted (fun fs => readIommuGroup ⟨fs, now, lower⟩ root diagnostics) := by
  refine (asked_readSymlinkBasename now lower (root ++ ["iommu_group".toList])).reads
    (fun group => ⟨_, ?asks, fun fs hfs => by unfold readIommuGroup; rw [hfs]⟩)
  refine Scripted.bind (scripted_const _) (fun parsed => ?_)
  cases parsed with
  | none => exact readIntText_scripted now lower diagnostics _
  | some parsed => exact scripted_const _

theorem readPciInfo_scripted : Scripted (fun fs => readPciInfo ⟨fs, now, lower⟩ root diagnostics) := by
  have htext : ∀ path, Scripted (fun fs => SysfsReader.readText fs path diagnostics) :=
    fun path => scripted_readText path diagnostics
  have hint : ∀ path, Scripted (fun fs => SysfsReader.readInt fs path diagnostics) :=
    fun path => parse_scripted path diagnostics _
  exact (readBdf_scripted now lower _ _).bind (fun _ => (readDriver_scripted now lower _ _).bind (fun _ =>
    (readIommuGroup_scripted now lower _ _).bind (fun _ => (htext _).bind (fun _ => (htext _).bind (fun _ =>
    (htext _).bind (fun _ => (htext _).bind (fun _ => (htext _).bind (fun _ => (htext _).bind (fun _ =>
    (readIntText_scripted now lower _ _).bind (fun _ => (htext _).bind (fun _ => (hint _).bind (fun _ =>
    (htext _).bind (fun _ => (hint _).bind (fun _ => (htext _).bind (fun _ => scripted_const _)))))))))))))))

theorem readFirmware_scripted : Scripted (fun fs => readFirmware ⟨fs, now, lower⟩ root diagnostics) := by
  have htext : ∀ path, Scripted (fun fs => SysfsReader.readText fs path diagnostics) :=
    fun path => scripted_readText path diagnostics
  have hint : ∀ path, Scripted (fun fs => SysfsReader.readInt fs path diagnostics) :=
    fun path => parse_scripted path diagnostics _
  exact (hint _).bind (fun _ => (hint _).bind (fun _ => (hint _).bind (fun _ => (hint _).bind (fun _ =>
    (hint _).bind (fun _ => (htext _).bind (fun _ => (htext _).bind (fun _ => (htext _).bind (fun _ =>
    (htext _).bind (fun _ => (htext _).bind (fun _ => (htext _).bind (fun _ => (htext _).bind (fun _ =>
    (htext _).bind (fun _ => (htext _).bind (fun _ => scripted_const _))))))))))))))

theorem readPowerInfo_scripted : Scripted (fun fs => readPowerInfo ⟨fs, now, lower⟩ root diagnostics) := by
  have htext : ∀ path, Scripted (fun fs => SysfsReader.readText fs path diagnostics) :=
    fun path => scripted_readText path diagnostics
  have hint : ∀ path, Scripted (fun fs => readIntText ⟨fs, now, lower⟩ path diagnostics) :=
    fun path => readIntText_scripted now lower diagnostics path
  exact (htext _).bind (fun _ => (htext _).bind (fun _ => (htext _).bind (fun _ => (hint _).bind (fun _ =>
    (hint _).bind (fun _ => (hint _).bind (fun _ => (hint _).bind (fun _ => (hint _).bind (fun _ =>
    scripted_const _))))))))

/-! ### Sensors, counters and links -/

theorem readHwmonSensor_scripted (name : Str) :
    Scripted (fun fs => readHwmonSensor ⟨fs, now, lower⟩ root name diagnostics) := by
  refine (asked_isFile (root ++ [name])).reads
    (fun answer => ⟨_, ?asks, fun fs hfs => by unfold readHwmonSensor; rw [hfs]⟩)
  refine scripted_ite (Scripted.bind (parse_scripted _ _ _) (fun value => ?_)) (scripted_const _)
  cases value with
  | none => exact scripted_const _
  | some value => exact (scripted_readText _ _).bind (fun _ => scripted_const _)

theorem asked_hwmonEntries : Asked (fun fs => hwmonEntries ⟨fs, now, lower⟩ root) := by
  refine asked_flatMap (fun base => ?_) _
  refine (asked_subdirectories base).tells (fun directories => ⟨_, ?asks, fun fs hfs => by rw [hfs]⟩)
  refine asked_flatMap (fun directory => ?_) _
  exact (asked_listdir (base ++ [directory])).tells (fun answer => ⟨_, asked_const _, fun fs hfs => by rw [hfs]⟩)

theorem readHwmonSensors_scripted : Scripted (fun fs => readHwmonSensors ⟨fs, now, lower⟩ root diagnostics) := by
  have hsorted : ∀ entries : List (Path × Str), Scripted (fun fs =>
      Tally.each (fun e => readHwmonSensor ⟨fs, now, lower⟩ e.1 e.2 diagnostics) entries >>= fun sensors =>
        pure (sensors.insertionSort (fun a b => a.name ≤ b.name))) := fun entries =>
    (scripted_each (fun e => readHwmonSensor_scripted now lower e.1 diagnostics e.2) entries).yield _
  exact (asked_hwmonEntries now lower root).bind hsorted

theorem readPcieCounter_scripted (name : Str) :
    Scripted (fun fs => readPcieCounter ⟨fs, now, lower⟩ root name diagnostics) := by
  refine (asked_isFile (root ++ [name])).reads
    (fun answer => ⟨_, ?asks, fun fs hfs => by unfold readPcieCounter; rw [hfs]⟩)
  refine scripted_ite (Scripted.bind (parse_scripted _ _ _) (fun value => ?_)) (scripted_const _)
  cases value with
  | none => exact scripted_const _
  | some value => exact scripted_const _

theorem readPcieCounters_scripted : Scripted (fun fs => readPcieCounters ⟨fs, now, lower⟩ root diagnostics) := by
  refine (asked_listdir (root ++ ["pcie_perf_counters".toList])).reads
    (fun answer => ⟨_, ?asks, fun fs hfs => by unfold readPcieCounters; simp only [hfs]; rfl⟩)
  cases answer with
  | error e => exact scripted_const _
  | ok names => exact (scripted_each (fun name => readPcieCounter_scripted now lower _ diagnostics name) names).yield _

theorem readHealth_scripted : Scripted (fun fs => readHealth ⟨fs, now, lower⟩ root diagnostics) :=
  (readFirstText_scripted _ _ _).bind (fun _ => (readFirstText_scripted _ _ _).bind (fun _ =>
    (readFirstBoolish_scripted _ _ _).bind (fun _ => (readFirstInt_scripted _ _ _).bind (fun _ =>
    (readFirstInt_scripted _ _ _).bind (fun _ => scripted_const _)))))

theorem readInterconnectLink_scripted (name defaultType : Str) :
    Scripted (fun fs => readInterconnectLink ⟨fs, now, lower⟩ root name defaultType diagnostics) :=
  (readFirstText_scripted _ _ _).bind (fun _ => (readFirstText_scripted _ _ _).bind (fun _ =>
    (readFirstText_scripted _ _ _).bind (fun _ => (readFirstInt_scripted _ _ _).bind (fun _ =>
    (readFirstText_scripted _ _ _).bind (fun _ => scripted_const _)))))

theorem asked_linkEntries : Asked (fun fs => linkEntries ⟨fs, now, lower⟩ root) := by
  have hbase : ∀ base : Str × Str, Asked (fun fs => ((subdirectories fs (root ++ [base.1])).getD []).map
      (fun name => (root ++ [base.1], name, base.2))) := fun base =>
    (asked_subdirectories (root ++ [base.1])).map
      (fun names => (names.getD []).map (fun name => (root ++ [base.1], name, base.2)))
  exact asked_flatMap hbase linkBases

theorem readInterconnectLinks_scripted :
    Scripted (fun fs => readInterconnectLinks ⟨fs, now, lower⟩ root diagnostics) := by
  have hlink : ∀ e : Path × Str × Str, Scripted (fun fs =>
      some <$> readInterconnectLink ⟨fs, now, lower⟩ e.1 e.2.1 e.2.2 diagnostics) := fun e =>
    (readInterconnectLink_scripted now lower e.1 diagnostics e.2.1 e.2.2).map some
  have hsorted : ∀ entries : List (Path × Str × Str), Scripted (fun fs =>
      Tally.each (fun e => some <$> readInterconnectLink ⟨fs, now, lower⟩ e.1 e.2.1 e.2.2 diagnostics) entries >>=
        fun links => pure (links.insertionSort (fun a b => a.name ≤ b.name))) := fun entries =>
    (scripted_each hlink entries).yield _
  exact (asked_linkEntries now lower root).bind hsorted

end Device

theorem populateDevice_scripted (now : Int) (lower : Str → Str) (config : CollectorConfig)
    (diagnostics : TelemetrySource) (device : DeviceTelemetry) :
    Scripted (fun fs => SysfsCollector.populateDevice ⟨fs, now, lower⟩ config device diagnostics) := by
  have htext : ∀ names, Scripted (fun fs => SysfsReader.readFirstText fs device.sysfsPath names diagnostics) :=
    fun names => readFirstText_scripted _ names _
  unfold SysfsCollector.populateDevice
  refine Scripted.bind (htext _) (fun architecture => ?_)
  refine Scripted.bind (htext _) (fun boardType => ?_)
  refine Scripted.bind (htext _) (fun health => ?_)
  refine Scripted.bind (readCharacterDevice_scripted now lower _ _) (fun characterDevice => ?_)
  refine Scripted.bind (readPciInfo_scripted now lower _ _) (fun pci => ?_)
  refine Scripted.bind (readFirmware_scripted now lower _ _) (fun firmware => ?_)
  -- the names of cards do not depend on the tree
  simp only [SysfsCollector.normalizeCardType]
  refine Scripted.bind (scripted_ite (readHwmonSensors_scripted now lower _ _) (scripted_const _)) (fun sensors => ?_)
  refine Scripted.bind (readPowerInfo_scripted now lower _ _) (fun power => ?_)
  refine Scripted.bind (scripted_readText _ _) (fun resource => ?_)
  refine Scripted.bind (scripted_ite (readPcieCounters_scripted now lower _ _) (scripted_const _)) (fun counters => ?_)
  refine Scripted.bind (populateMemory_scripted _ _) (fun device => ?_)
  refine Scripted.bind (populateTensix_scripted _ _) (fun device => ?_)
  refine Scripted.bind (readHealth_scripted now lower _ _) (fun healthDetail => ?_)
  exact (readInterconnectLinks_scripted now lower _ _).yield _

/-- **`_populate_device` is a script**: for each device there is one that does in every tree what `_populate_device`
does there. -/
theorem populateDevice_script (now : Int) (lower : Str → Str) (config : CollectorConfig)
    (diagnostics : TelemetrySource) :
    ∃ populateDevice : DeviceTelemetry → Script DeviceTelemetry, ∀ device fs,
      (populateDevice device).reading fs =
        SysfsCollector.populateDevice ⟨fs, now, lower⟩ config device diagnostics := by
  choose populateDevice hscript using populateDevice_scripted now lower config diagnostics
  exact ⟨populateDevice, hscript⟩

end Ownership
end Tt
