import TtMetricsExporter.Duplicates
import TtMetricsExporter.Numbers
/-!
# Schema — the published document against its JSON schema

`telemetry.tenstorrent.com-v1.schema.json`, over the keywords it uses.  Whatever the readers check of a workload record
is within the schema; of a device's own texts they check less than it asks for (`Fits`).
-/
namespace Tt

open Py (Str)
open Posix (Node Path)
open SysfsReader SysfsCollector StateIngestor

/-! ## JSON schemas -/

namespace Json

inductive Kind where
  | null | boolean | integer | string | array | object
  deriving DecidableEq

def kind : Json → Kind
  | .null => .null
  | .bool _ => .boolean
  | .int _ => .integer
  | .string _ => .string
  | .array _ => .array
  | .object _ => .object

/-- A keyword of a schema; one about a kind of value says nothing of the others. -/
inductive Keyword where
  | type (kinds : List Kind)
  | const (value : Str)
  | minLength (length : Nat)
  | maxLength (length : Nat)
  | minimum (bound : Int)
  | maximum (bound : Int)
  | maxItems (length : Nat)
  | required (keys : List String)
  | property (key : String) (schema : List Keyword)
  | items (schema : List Keyword)

abbrev Schema := List Keyword

mutual
def Keyword.accepts : Keyword → Json → Bool
  | .type kinds, v => kinds.contains v.kind
  | .const value, v => match v with
    | .string s => s == value
    | _ => false
  | .minLength length, v => match v with
    | .string s => length ≤ s.length
    | _ => true
  | .maxLength length, v => match v with
    | .string s => s.length ≤ length
    | _ => true
  | .minimum bound, v => match v with
    | .int n => bound ≤ n
    | _ => true
  | .maximum bound, v => match v with
    | .int n => n ≤ bound
    | _ => true
  | .maxItems length, v => match v with
    | .array items => items.length ≤ length
    | _ => true
  | .required keys, v => match v with
    | .object _ => keys.all (fun key => (v.member key).isSome)
    | _ => true
  | .property key schema, v => match v.member key with
    | some member => accepts schema member
    | none => true
  | .items schema, v => match v with
    | .array items => items.all (accepts schema)
    | _ => true
/-- A value conforms to a schema when every keyword of it accepts it. -/
def accepts : List Keyword → Json → Bool
  | [], _ => true
  | keyword :: rest, v => keyword.accepts v && accepts rest v
end

@[simp] theorem accepts_nil (v : Json) : accepts [] v = true := by
  rw [accepts]

@[simp] theorem accepts_cons (keyword : Keyword) (rest : Schema) (v : Json) :
    accepts (keyword :: rest) v = (keyword.accepts v && accepts rest v) := by
  rw [accepts]

/-- What a schema asks of a text or a number that may be missing. -/
theorem accepts_text {schema : Schema} (hnull : accepts schema .null = true) (value : Option Str) :
    accepts schema (text value) = true ↔ ∀ s ∈ value, accepts schema (.string s) = true := by
  cases value with
  | none => exact iff_of_true hnull (fun s hs => absurd hs (Option.not_mem_none s))
  | some s => simp [text]

theorem accepts_number {schema : Schema} (hnull : accepts schema .null = true) (value : Option Int) :
    accepts schema (number value) = true ↔ ∀ n ∈ value, accepts schema (.int n) = true := by
  cases value with
  | none => exact iff_of_true hnull (fun n hn => absurd hn (Option.not_mem_none n))
  | some n => simp [number]

theorem accepts_array (schema : Schema) (values : List Json) :
    Keyword.accepts (.items schema) (.array values) = true ↔ ∀ v ∈ values, accepts schema v = true := by
  rw [Keyword.accepts, List.all_eq_true]

/-- The schema of an object that must have every property it names. -/
def objectSchema (properties : List (String × Schema)) : Schema :=
  .type [.object] :: .required (properties.map Prod.fst) :: properties.map (fun p => .property p.1 p.2)

theorem lookup_of_mem {α β : Type} [BEq α] [LawfulBEq α] {entries : List (α × β)} (hn : (entries.map Prod.fst).Nodup)
    {e : α × β} (he : e ∈ entries) : entries.lookup e.1 = some e.2 := by
  obtain ⟨front, back, rfl⟩ := List.append_of_mem he
  refine List.lookup_eq_some_iff.2 ⟨front, back, rfl, fun p hp => ?_⟩
  rw [List.map_append, List.nodup_append] at hn
  exact bne_iff_ne.2 (Ne.symm (hn.2.2 p.1 (List.mem_map_of_mem hp) e.1 (by simp)))

/-- The properties of a record whose members are asked for one by one. -/
theorem accepts_properties {record₀ : List (String × Json)} : ∀ {properties : List (String × Schema)}
    {members : List (String × Json)}, members.map Prod.fst = properties.map Prod.fst →
      (∀ e ∈ members, record₀.lookup e.1 = some e.2) →
      (accepts (properties.map (fun p => .property p.1 p.2)) (record record₀) = true ↔
        List.Forall₂ (fun p e => accepts p.2 e.2 = true) properties members)
  | [], [], _, _ => by simp
  | (key, schema) :: properties, (name, value) :: members, hk, hl => by
    rw [List.map_cons, List.map_cons, List.cons.injEq] at hk
    obtain ⟨rfl, hk⟩ : name = key ∧ _ := hk
    have hfirst : record₀.lookup name = some value := hl _ List.mem_cons_self
    rw [List.map_cons, accepts_cons, Bool.and_eq_true, List.forall₂_cons,
      accepts_properties hk (fun e he => hl e (List.mem_cons_of_mem _ he)), Keyword.accepts, member_record, hfirst]

/-- **A record of an object schema's keys conforms when each of its members does**, to the schema of its own key. -/
theorem accepts_objectSchema {properties : List (String × Schema)} {members : List (String × Json)}
    (hk : members.map Prod.fst = properties.map Prod.fst) (hn : (properties.map Prod.fst).Nodup) :
    accepts (objectSchema properties) (record members) = true ↔
      List.Forall₂ (fun p e => accepts p.2 e.2 = true) properties members := by
  rw [← hk] at hn
  have hrequired : Keyword.accepts (.required (properties.map Prod.fst)) (record members) = true := by
    show (properties.map Prod.fst).all (fun key => ((record members).member key).isSome) = true
    rw [← hk, List.all_eq_true]
    intro key hkey
    obtain ⟨e, he, rfl⟩ := List.mem_map.1 hkey
    rw [member_record, lookup_of_mem hn he, Option.isSome_some]
  have htype : Keyword.accepts (.type [.object]) (record members) = true := rfl
  rw [objectSchema, accepts_cons, accepts_cons, htype, hrequired, Bool.true_and, Bool.true_and,
    accepts_properties hk (fun e he => lookup_of_mem hn he)]

end Json

/-! ## The schema -/

section Document
open Json

def nullableString : Schema := [.type [.string, .null], .maxLength 4096]

def nullableNonNegativeInteger : Schema :=
  [.type [.integer, .null], .minimum 0, .maximum 9223372036854775807]

/-- `metaliumWorkloads.items`; a schema that allows further members (`additionalProperties`) says nothing of them. -/
def workloadSchema : Schema := objectSchema [
  ("workloadId", [.type [.string], .minLength 1, .maxLength 128]),
  ("podNamespace", [.type [.string, .null], .maxLength 63]),
  ("podName", [.type [.string, .null], .maxLength 253]),
  ("containerName", [.type [.string, .null], .maxLength 63]),
  ("active", [.type [.integer, .null], .minimum 0, .maximum 1]),
  ("programsObserved", nullableNonNegativeInteger),
  ("tensixCoresUsed", nullableNonNegativeInteger),
  ("tensixCoresTotal", nullableNonNegativeInteger),
  ("sampleTimestampSeconds", nullableNonNegativeInteger),
  ("stale", [.type [.boolean]])]

/-- `$defs.device`. -/
def deviceSchema : Schema := objectSchema [
  ("id", [.type [.string], .minLength 1, .maxLength 128]),
  ("sysfsPath", [.type [.string], .minLength 1, .maxLength 4096]),
  ("architecture", nullableString),
  ("boardType", nullableString),
  ("health", nullableString),
  ("characterDevice", [.type [.object, .null]]),
  ("pci", [.type [.object]]),
  ("power", [.type [.object]]),
  ("firmware", [.type [.object]]),
  ("hwmonSensors", [.type [.array]]),
  ("pcieCounters", [.type [.array]]),
  ("memory", [.type [.object]]),
  ("tensix", [.type [.object]]),
  ("metaliumWorkloads", [.type [.array], .maxItems 1024, .items workloadSchema]),
  ("healthDetail", [.type [.object]]),
  ("interconnectLinks", [.type [.array]]),
  ("allocation", [.type [.object]]),
  ("janitor", [.type [.object]])]

def deviceListSchema : Schema := objectSchema [
  ("apiVersion", [.const "telemetry.tenstorrent.com/v1".toList]),
  ("kind", [.const "DeviceList".toList]),
  ("summary", objectSchema [("devicesDiscovered", [.type [.integer], .minimum 0])]),
  ("devices", [.type [.array], .items deviceSchema])]

theorem accepts_string (least most : Nat) (s : Str) :
    accepts [.type [.string], .minLength least, .maxLength most] (.string s) = true ↔
      least ≤ s.length ∧ s.length ≤ most := by
  simp [Keyword.accepts, kind]

theorem accepts_nullable (most : Nat) (value : Option Str) :
    accepts [.type [.string, .null], .maxLength most] (text value) = true ↔ ∀ s ∈ value, s.length ≤ most := by
  rw [accepts_text (by simp [Keyword.accepts, kind])]
  simp [Keyword.accepts, kind]

theorem accepts_integer (least most : Int) (value : Option Int) :
    accepts [.type [.integer, .null], .minimum least, .maximum most] (number value) = true ↔
      ∀ n ∈ value, least ≤ n ∧ n ≤ most := by
  rw [accepts_number (by simp [Keyword.accepts, kind])]
  simp [Keyword.accepts, kind]

/-- **An accepted record conforms to the schema of a workload.** -/
theorem accepts_workload {w : Workload} (h : Accepted w) : accepts workloadSchema (workloadJson w) = true := by
  obtain ⟨used, hused, hclamped⟩ := h.tensixCoresUsed
  refine (accepts_objectSchema rfl (by decide)).2 ?_
  simp only [List.forall₂_cons, List.Forall₂.nil, and_true]
  refine ⟨?_, ?_, ?_, ?_, ?_, ?_, ?_, ?_, ?_, ?_⟩
  · exact (accepts_string 1 128 _).2 ⟨List.length_pos_iff.2 h.workloadId.1, h.workloadId.2⟩
  · exact (accepts_nullable 63 _).2 h.podNamespace
  · exact (accepts_nullable 253 _).2 h.podName
  · exact (accepts_nullable 63 _).2 h.containerName
  · exact (accepts_integer 0 1 _).2 h.active
  · exact (accepts_integer 0 9223372036854775807 _).2 h.programsObserved
  · exact (accepts_integer 0 9223372036854775807 _).2 (fun n hn => Option.some.inj (hused ▸ hn) ▸ hclamped)
  · exact (accepts_integer 0 9223372036854775807 _).2 (fun n hn => (h.tensixCoresTotal n hn).1)
  · exact (accepts_integer 0 9223372036854775807 _).2 h.sampleTimestampSeconds
  · rfl

/-- What the schema asks of a device beyond what every collection provides. -/
structure Fitting (d : DeviceTelemetry) : Prop where
  id : 1 ≤ d.id.length ∧ d.id.length ≤ 128
  architecture : ∀ s ∈ d.architecture, s.length ≤ 4096
  boardType : ∀ s ∈ d.boardType, s.length ≤ 4096
  health : ∀ s ∈ d.health, s.length ≤ 4096

/-- What every collection provides of a device. -/
structure Collected (d : DeviceTelemetry) : Prop where
  sysfsPath : (pathText d.sysfsPath).length + 128 ≤ 4096 + d.id.length
  bounded : d.metaliumWorkloads.length ≤ 1024
  accepted : ∀ w ∈ d.metaliumWorkloads, Accepted w

theorem accepts_device {d : DeviceTelemetry} (h : Collected d) : accepts deviceSchema (deviceJson d) = true ↔ Fitting d := by
  have hworkloads : accepts [.type [.array], .maxItems 1024, .items workloadSchema]
      (.array (d.metaliumWorkloads.map workloadJson)) = true := by
    have hitems : ∀ v ∈ d.metaliumWorkloads.map workloadJson, accepts workloadSchema v = true := by
      intro v hv
      obtain ⟨w, hw, rfl⟩ := List.mem_map.1 hv
      exact accepts_workload (h.accepted w hw)
    have hlength : Keyword.accepts (.maxItems 1024) (.array (d.metaliumWorkloads.map workloadJson)) = true := by
      simpa [Keyword.accepts] using h.bounded
    rw [accepts_cons, accepts_cons, accepts_cons, accepts_nil, hlength, (accepts_array _ _).2 hitems]
    rfl
  have hcharacter : accepts [.type [.object, .null]] ((d.characterDevice.map characterDeviceJson).getD .null) = true := by
    cases d.characterDevice <;> rfl
  have hpath : 1 ≤ (pathText d.sysfsPath).length := by simp [pathText]
  unfold deviceSchema deviceJson
  rw [accepts_objectSchema rfl (by decide)]
  simp only [List.forall₂_cons, List.Forall₂.nil, and_true, hworkloads, hcharacter, accepts_string,
    nullableString, accepts_nullable]
  constructor
  · rintro ⟨hlength, -, harchitecture, hboard, hhealth, -⟩
    exact ⟨hlength, harchitecture, hboard, hhealth⟩
  · intro hf
    have hlength := hf.id
    have hshort := h.sysfsPath
    exact ⟨hf.id, ⟨hpath, by omega⟩, hf.architecture, hf.boardType, hf.health, trivial, rfl, rfl, rfl, rfl, rfl,
      rfl, rfl, trivial, rfl, rfl, rfl, rfl⟩

theorem accepts_devices (devices : List DeviceTelemetry) : accepts deviceListSchema (devicesDocument devices) = true ↔
    ∀ d ∈ devices, accepts deviceSchema (deviceJson d) = true := by
  have hsummary : accepts (objectSchema [("devicesDiscovered", [.type [.integer], .minimum 0])])
      (record [("devicesDiscovered", .int devices.length)]) = true := by
    rw [accepts_objectSchema rfl (by decide)]
    simp [Keyword.accepts, kind]
  have hitems : accepts [.type [.array], .items deviceSchema] (.array (devices.map deviceJson)) = true ↔
      ∀ d ∈ devices, accepts deviceSchema (deviceJson d) = true := by
    have htype : Keyword.accepts (.type [.array]) (.array (devices.map deviceJson)) = true := rfl
    rw [accepts_cons, accepts_cons, accepts_nil, htype, Bool.true_and, Bool.and_true, accepts_array,
      List.forall_mem_map]
  unfold deviceListSchema devicesDocument
  rw [accepts_objectSchema rfl (by decide)]
  simp only [List.forall₂_cons, List.Forall₂.nil, and_true, hsummary, hitems, true_and]
  exact ⟨fun h => h.2.2, fun h => ⟨rfl, rfl, h⟩⟩

end Document

/-! ## What a collection publishes -/

section Texts
open Json
variable (m : Machine) (config : CollectorConfig)

/-- The card type as it is normalised, else the first text of the board type's attributes. -/
def boardText (root : Path) : Option Str :=
  match attributeText m.fs (root ++ ["tt_card_type".toList]) with
  | some cardType => some (normalizeCardType m cardType)
  | none => firstText m root boardTypeFiles

/-- What a collection reads of the entry `id` of the sysfs root. -/
structure TextsOf (id : Str) (d : DeviceTelemetry) : Prop where
  name : d.id = id
  sysfsPath : d.sysfsPath = config.sysfsRoot ++ [id]
  architecture : ∃ deviceId, d.architecture =
    (firstText m (config.sysfsRoot ++ [id]) architectureFiles).or (architectureOfDeviceId.lookup deviceId)
  boardType : d.boardType = boardText m (config.sysfsRoot ++ [id])
  health : d.health = firstText m (config.sysfsRoot ++ [id]) healthFiles
  bounded : d.metaliumWorkloads.length ≤ 1024
  accepted : ∀ w ∈ d.metaliumWorkloads, Accepted w

theorem readFirmware_ensures (root : Path) (diagnostics : TelemetrySource) : (readFirmware m root diagnostics).Ensures
    (fun f => f.cardType = attributeText m.fs (root ++ ["tt_card_type".toList])) := by
  unfold readFirmware
  simp only
  iterate 6 refine Tally.Ensures.next (fun _ => ?_)
  refine .bind (.of_value (value_readText m.fs _ diagnostics) rfl) ?_
  rintro _ rfl
  iterate 7 refine Tally.Ensures.next (fun _ => ?_)
  exact .pure rfl

theorem populateDevice_texts (id : Str) (diagnostics : TelemetrySource) :
    (populateDevice m config { id := id, sysfsPath := config.sysfsRoot ++ [id] } diagnostics).Ensures
      (fun d => TextsOf m config id d ∧ d.metaliumWorkloads = []) := by
  unfold populateDevice
  refine .bind (.of_value (value_readFirstText m.fs _ _ diagnostics) rfl) ?_
  rintro _ rfl
  refine .bind (.of_value (value_readFirstText m.fs _ _ diagnostics) rfl) ?_
  rintro _ rfl
  refine .bind (.of_value (value_readFirstText m.fs _ _ diagnostics) rfl) ?_
  rintro _ rfl
  refine .next (fun characterDevice => .next (fun pci => .bind (readFirmware_ensures m _ diagnostics) ?_))
  intro firmware hcard
  refine .next (fun sensors => .next (fun power => .next (fun resource => .next (fun counters => ?_))))
  refine .bind (populateMemory_ensures m.fs _ _) ?_
  rintro _ ⟨memory, rfl⟩
  refine .bind (populateTensix_ensures m.fs _ _) ?_
  rintro _ ⟨tensix, rfl⟩
  refine .next (fun health => .next (fun links => .pure ⟨⟨rfl, rfl, ?_, ?_, rfl, ?_, ?_⟩, rfl⟩))
  · refine ⟨Py.lowerAscii (pci.deviceId.getD []), ?_⟩
    show (match firstText m (config.sysfsRoot ++ [id]) architectureFiles with
      | some architecture => some architecture
      | none => _) = _
    cases firstText m (config.sysfsRoot ++ [id]) architectureFiles <;> rfl
  · show (match firmware.cardType with
      | some cardType => some (normalizeCardType m cardType)
      | none => firstText m (config.sysfsRoot ++ [id]) boardTypeFiles) = _
    rw [hcard]
    rfl
  · exact Nat.zero_le _
  · exact fun w hw => absurd hw List.not_mem_nil

theorem readWorkloads_bounded (fs : Node) (self : StateIngestor) (device : DeviceTelemetry) (root : SecureDirectory) :
    (self.readWorkloads fs device root).Ensures (fun out => out.length ≤ 1024 ∧ ∀ w ∈ out, Accepted w) := by
  intro out h
  refine ⟨?_, readWorkloads_accepted fs self device root out h⟩
  rw [value_readWorkloads h]
  exact (merged_exported (v2Records fs self device root) (legacyRecords fs self device root)).bounded

theorem collectDevice_texts (state : StateIngestor) {entry : Str × Node} (h : entryIsDir m config entry = true) :
    (collectDevice m config state entry).Ensures (fun d => ∃ v, d = some v ∧ TextsOf m config entry.1 v) := by
  unfold collectDevice
  rw [if_pos h]
  refine .bind (populateDevice_texts m config entry.1 .sysfsRoot) ?_
  rintro device ⟨hd, hw⟩
  refine .bind (populate_ensures (P := fun out => out.length ≤ 1024 ∧ ∀ w ∈ out, Accepted w) m.fs state device
    (fun _ => hw ▸ ⟨Nat.zero_le _, fun w hw => absurd hw List.not_mem_nil⟩)
    (fun d root _ _ => readWorkloads_bounded m.fs state d root)) ?_
  rintro _ ⟨allocation, janitor, tensix, workloads, rfl, hbounded, haccepted⟩
  exact .pure ⟨_, rfl, hd.name, hd.sysfsPath, hd.architecture, hd.boardType, hd.health, hbounded, haccepted⟩

/-- The directory `id` of the sysfs root has a name and texts that the schema allows. -/
structure EntryFits (id : Str) : Prop where
  name : 1 ≤ id.length ∧ id.length ≤ 128
  architecture : ∀ s ∈ firstText m (config.sysfsRoot ++ [id]) architectureFiles, s.length ≤ 4096
  boardType : ∀ s ∈ boardText m (config.sysfsRoot ++ [id]), s.length ≤ 4096
  health : ∀ s ∈ firstText m (config.sysfsRoot ++ [id]) healthFiles, s.length ≤ 4096

/-- **The trees whose devices the schema allows**: every device directory has a name of 1 to 128 characters and, for
its architecture, board type and health, texts of at most 4096. -/
def Fits : Prop :=
  ∀ entries, scanRoot m config = .ok entries → ∀ e ∈ entries, entryIsDir m config e = true → EntryFits m config e.1

/-- The root path leaves room for a name of the length that the schema allows. -/
def ShortRoot : Prop := (pathText config.sysfsRoot).length + 1 + 128 ≤ 4096

instance : Decidable (ShortRoot config) := inferInstanceAs (Decidable (_ ≤ _))

theorem length_joined (sep : Str) : ∀ (parts : List Str) (last : Str), parts ≠ [] →
    (Py.join sep (parts ++ [last])).length = (Py.join sep parts).length + sep.length + last.length
  | [part], last, _ => by simp [Py.join, Nat.add_assoc]
  | part :: next :: rest, last, _ => by
    have ih := length_joined sep (next :: rest) last (List.cons_ne_nil _ _)
    simp only [List.cons_append, Py.join, List.length_append] at ih ⊢
    omega

theorem length_pathText (root : Path) (id : Str) :
    (pathText (root ++ [id])).length ≤ (pathText root).length + 1 + id.length := by
  cases root with
  | nil => simp [pathText, Py.join]
  | cons name rest =>
    unfold pathText
    rw [List.length_cons, List.length_cons, length_joined ['/'] _ id (List.cons_ne_nil _ _)]
    simp only [List.length_cons, List.length_nil]
    omega

variable {m config}

theorem architecture_length {deviceId s : Str} (h : architectureOfDeviceId.lookup deviceId = some s) : s.length ≤ 4096 := by
  have hall : architectureOfDeviceId.all (fun e => decide (e.2.length ≤ 4096)) = true := by decide +kernel
  obtain ⟨front, back, he, -⟩ := List.lookup_eq_some_iff.1 h
  have hmem : (deviceId, s) ∈ architectureOfDeviceId := by simp [he]
  exact of_decide_eq_true (List.all_eq_true.1 hall _ hmem)

theorem fitting_iff {id : Str} {d : DeviceTelemetry} (h : TextsOf m config id d) : Fitting d ↔ EntryFits m config id := by
  obtain ⟨deviceId, harch⟩ := h.architecture
  have harchitecture : (∀ s ∈ d.architecture, s.length ≤ 4096) ↔
      ∀ s ∈ firstText m (config.sysfsRoot ++ [id]) architectureFiles, s.length ≤ 4096 := by
    rw [harch]
    cases firstText m (config.sysfsRoot ++ [id]) architectureFiles with
    | none => exact iff_of_true (fun s hs => architecture_length hs) (fun s hs => absurd hs (Option.not_mem_none s))
    | some text => rfl
  constructor
  · intro f
    exact ⟨h.name ▸ f.id, harchitecture.1 f.architecture, h.boardType ▸ f.boardType, h.health ▸ f.health⟩
  · intro e
    exact ⟨h.name ▸ e.name, harchitecture.2 e.architecture, h.boardType ▸ e.boardType, h.health ▸ e.health⟩

theorem conforms_textsOf (hroot : ShortRoot config) {id : Str} {d : DeviceTelemetry} (h : TextsOf m config id d) :
    accepts deviceSchema (deviceJson d) = true ↔ EntryFits m config id := by
  have hlength := length_pathText config.sysfsRoot id
  have hcollected : Collected d := by
    refine ⟨?_, h.bounded, h.accepted⟩
    rw [h.sysfsPath, h.name]
    unfold ShortRoot at hroot
    omega
  rw [accepts_device hcollected, fitting_iff h]

/-- **The published document conforms to its schema exactly when the tree's device directories fit.** -/
theorem document_conforms_iff (hroot : ShortRoot config) {result : CollectionResult} (h : collect m config = .ok result) :
    accepts deviceListSchema (devicesDocument result.devices) = true ↔ Fits m config := by
  have hdevices := devices_of_collect (fun state _ => collectDevice_texts m config state) h
  rw [accepts_devices]
  unfold Fits
  cases hs : scanRoot m config with
  | error e =>
    rw [hs] at hdevices
    rw [hdevices]
    exact iff_of_true (fun d hd => absurd hd List.not_mem_nil) (fun entries he => by cases he)
  | ok entries =>
    rw [hs] at hdevices
    obtain ⟨devices, hp, hf⟩ := hdevices
    have hswap : (∀ d ∈ result.devices, accepts deviceSchema (deviceJson d) = true) ↔
        ∀ d ∈ devices, accepts deviceSchema (deviceJson d) = true :=
      ⟨fun h d hd => h d (hp.mem_iff.2 hd), fun h d hd => h d (hp.mem_iff.1 hd)⟩
    rw [hswap, ← forall_mem_iff_of_forall₂ hf (fun e d hd => (conforms_textsOf hroot hd).symm)]
    simp only [List.mem_filter, and_imp, Except.ok.injEq, forall_eq']

theorem collected_of_map {α : Type} {m : Machine} {config : CollectorConfig} {f : CollectionResult → α} {a : α}
    (h : (collect m config).toOption.map f = some a) : ∃ result, collect m config = .ok result ∧ f result = a := by
  cases hc : collect m config with
  | error e => rw [hc] at h; cases h
  | ok result =>
    rw [hc] at h
    exact ⟨result, rfl, Option.some.inj h⟩

/-- A small device conforms. -/
theorem fits_twinTree : Fits twinMachine twinConfig := by
  have hc : (collect twinMachine twinConfig).toOption.map (fun r =>
      accepts deviceListSchema (devicesDocument r.devices)) = some true := by decide +kernel
  obtain ⟨result, hr, ha⟩ := collected_of_map hc
  exact (document_conforms_iff (by decide) hr).1 ha

/-- A device whose directory has a name of 129 characters. -/
def longTree : Node := .folder [("sys", .directory .free [(List.replicate 129 '0', .folder [])])]

def longMachine : Machine := ⟨longTree, 0, id⟩
def longConfig : CollectorConfig := { sysfsRoot := ["sys".toList] }

/-- The names that a file system allows may be too long for the schema. -/
theorem not_forall_document_conforms : ¬ ∀ (m : Machine) (config : CollectorConfig) (result : CollectionResult),
    m.fs.WellFormed → ShortRoot config →
    (∀ entries, scanRoot m config = .ok entries → ∀ e ∈ entries, (String.ofList e.1).utf8ByteSize ≤ 255) →
    collect m config = .ok result → accepts deviceListSchema (devicesDocument result.devices) = true := by
  intro h
  have hc : (collect longMachine longConfig).toOption.map (fun r =>
      accepts deviceListSchema (devicesDocument r.devices)) = some false := by decide +kernel
  obtain ⟨result, hr, ha⟩ := collected_of_map hc
  have hnames : ∀ entries, scanRoot longMachine longConfig = .ok entries →
      ∀ e ∈ entries, (String.ofList e.1).utf8ByteSize ≤ 255 := by
    intro entries he e hmem
    have hall : ((scanRoot longMachine longConfig).toOption.map (fun entries =>
        entries.all (fun e => decide ((String.ofList e.1).utf8ByteSize ≤ 255)))) = some true := by decide +kernel
    rw [he] at hall
    exact of_decide_eq_true (List.all_eq_true.1 (Option.some.inj hall) e hmem)
  have hfs : longMachine.fs.WellFormed := by
    simp [longMachine, longTree, Node.folder, Node.WellFormed, Posix.entriesWellFormed]
    decide
  rw [h longMachine longConfig result hfs (by decide) hnames hr] at ha
  cases ha

end Texts

end Tt
