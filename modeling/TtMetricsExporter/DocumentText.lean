import TtMetricsExporter.DevicesJson
/-!
# DocumentText — what a client reads in the device list

The text of a document is read back as the document (`JsonText`), and a device's JSON keeps every field of it, the path
as its text: no two lists that differ in a field have one text.
-/
namespace Tt

open Py (Str)
open Json (text number record)

/-- A device as its JSON shows it: its path is a text. -/
def DeviceTelemetry.shown (d : DeviceTelemetry) : DeviceTelemetry × Str :=
  ({ d with sysfsPath := [] }, pathText d.sysfsPath)

/-! ## Values -/

namespace Json

theorem text_inj {a b : Option Str} : text a = text b ↔ a = b := by
  cases a <;> cases b <;> simp [text]

theorem number_inj {a b : Option Int} : number a = number b ↔ a = b := by
  cases a <;> cases b <;> simp [number]

theorem record_inj {ms ms' : List (String × Json)} : record ms = record ms' ↔ ms = ms' := by
  unfold record
  rw [Json.object.injEq]
  refine List.map_inj_right (fun m m' h => ?_)
  rw [Prod.mk.injEq] at h
  exact Prod.ext (String.toList_injective h.1) h.2

theorem array_inj {α : Type} {f : α → Json} (hf : Function.Injective f) {l l' : List α} :
    Json.array (l.map f) = Json.array (l'.map f) ↔ l = l' := by
  rw [Json.array.injEq]
  exact List.map_inj_right (fun _ _ h => hf h)

end Json

open Json (text_inj number_inj record_inj array_inj)

/-! ## Records -/

theorem characterDeviceJson_injective : Function.Injective characterDeviceJson := by
  rintro ⟨major, minor, name⟩ ⟨major', minor', name'⟩ h
  simp only [characterDeviceJson, record_inj, List.cons.injEq, Prod.mk.injEq, Json.int.injEq, text_inj, true_and] at h
  rw [h.1, h.2.1, h.2.2.1]

theorem pciResourceJson_injective : Function.Injective pciResourceJson := by
  rintro ⟨index, start, stop, flags, size⟩ ⟨index', start', stop', flags', size'⟩ h
  simp only [pciResourceJson, record_inj, List.cons.injEq, Prod.mk.injEq, Json.int.injEq, Nat.cast_inj, true_and,
    and_true] at h
  obtain ⟨rfl, rfl, rfl, rfl, rfl⟩ := h
  rfl

theorem pciJson_inj {p p' : PciInfo} {rs rs' : List PciResource} (h : pciJson p rs = pciJson p' rs') :
    p = p' ∧ rs = rs' := by
  cases p
  cases p'
  simp only [pciJson, record_inj, List.cons.injEq, Prod.mk.injEq, text_inj, number_inj,
    array_inj pciResourceJson_injective, true_and, and_true] at h
  simp only [PciInfo.mk.injEq]
  tauto

theorem powerJson_injective : Function.Injective powerJson := by
  rintro ⟨⟩ ⟨⟩ h
  simpa only [powerJson, record_inj, List.cons.injEq, Prod.mk.injEq, text_inj, number_inj, true_and, and_true,
    PowerInfo.mk.injEq] using h

theorem firmwareJson_injective : Function.Injective firmwareJson := by
  rintro ⟨⟩ ⟨⟩ h
  simpa only [firmwareJson, record_inj, List.cons.injEq, Prod.mk.injEq, text_inj, number_inj, true_and, and_true,
    FirmwareTelemetry.mk.injEq] using h

theorem sensorJson_injective : Function.Injective sensorJson := by
  rintro ⟨⟩ ⟨⟩ h
  simpa only [sensorJson, record_inj, List.cons.injEq, Prod.mk.injEq, text_inj, Json.string.injEq, Json.int.injEq,
    true_and, and_true, HwmonSensor.mk.injEq] using h

theorem counterJson_injective : Function.Injective counterJson := by
  rintro ⟨⟩ ⟨⟩ h
  simpa only [counterJson, record_inj, List.cons.injEq, Prod.mk.injEq, Json.string.injEq, Json.int.injEq, true_and,
    and_true, NamedCounter.mk.injEq] using h

theorem memoryJson_injective : Function.Injective memoryJson := by
  rintro ⟨⟩ ⟨⟩ h
  simpa only [memoryJson, record_inj, List.cons.injEq, Prod.mk.injEq, text_inj, number_inj, true_and, and_true,
    MemoryTelemetry.mk.injEq] using h

theorem tensixJson_injective : Function.Injective tensixJson := by
  rintro ⟨⟩ ⟨⟩ h
  simpa only [tensixJson, record_inj, List.cons.injEq, Prod.mk.injEq, text_inj, number_inj, true_and, and_true,
    TensixTelemetry.mk.injEq] using h

theorem workloadJson_injective : Function.Injective workloadJson := by
  rintro ⟨⟩ ⟨⟩ h
  simpa only [workloadJson, record_inj, List.cons.injEq, Prod.mk.injEq, text_inj, number_inj, Json.string.injEq,
    Json.bool.injEq, true_and, and_true, MetaliumWorkloadTelemetry.mk.injEq] using h

theorem healthJson_injective : Function.Injective healthJson := by
  rintro ⟨⟩ ⟨⟩ h
  simpa only [healthJson, record_inj, List.cons.injEq, Prod.mk.injEq, text_inj, number_inj, true_and, and_true,
    HealthTelemetry.mk.injEq] using h

theorem linkJson_injective : Function.Injective linkJson := by
  rintro ⟨⟩ ⟨⟩ h
  simpa only [linkJson, record_inj, List.cons.injEq, Prod.mk.injEq, text_inj, number_inj, Json.string.injEq, true_and,
    and_true, InterconnectLink.mk.injEq] using h

theorem allocationJson_injective : Function.Injective allocationJson := by
  rintro ⟨⟩ ⟨⟩ h
  simpa only [allocationJson, record_inj, List.cons.injEq, Prod.mk.injEq, text_inj, true_and, and_true,
    AllocationTelemetry.mk.injEq] using h

theorem janitorJson_injective : Function.Injective janitorJson := by
  rintro ⟨⟩ ⟨⟩ h
  simpa only [janitorJson, record_inj, List.cons.injEq, Prod.mk.injEq, text_inj, number_inj, true_and, and_true,
    JanitorTelemetry.mk.injEq] using h

theorem characterDevice_inj {c c' : Option CharacterDevice}
    (h : (c.map characterDeviceJson).getD .null = (c'.map characterDeviceJson).getD .null) : c = c' := by
  cases c with
  | none => cases c' with
    | none => rfl
    | some c' => cases h
  | some c => cases c' with
    | none => cases h
    | some c' => exact congrArg some (characterDeviceJson_injective h)

/-- **A device's JSON keeps every field.** -/
theorem shown_of_deviceJson {d d' : DeviceTelemetry} (h : deviceJson d = deviceJson d') : d.shown = d'.shown := by
  simp only [deviceJson, record_inj, List.cons.injEq, Prod.mk.injEq, Json.string.injEq, text_inj,
    array_inj sensorJson_injective, array_inj counterJson_injective, array_inj workloadJson_injective,
    array_inj linkJson_injective, powerJson_injective.eq_iff, firmwareJson_injective.eq_iff,
    memoryJson_injective.eq_iff, tensixJson_injective.eq_iff, healthJson_injective.eq_iff,
    allocationJson_injective.eq_iff, janitorJson_injective.eq_iff, true_and, and_true] at h
  obtain ⟨hid, hpath, harch, hboard, hhealth, hchar, hpci, hpower, hfirmware, hsensors, hcounters, hmemory, htensix,
    hworkloads, hdetail, hlinks, hallocation, hjanitor⟩ := h
  obtain ⟨hpci, hresources⟩ := pciJson_inj hpci
  have hchar := characterDevice_inj hchar
  cases d
  cases d'
  dsimp only at *
  subst hid harch hboard hhealth hchar hpci hresources hpower hfirmware hsensors hcounters hmemory htensix hworkloads
    hdetail hlinks hallocation hjanitor
  exact Prod.ext rfl hpath

/-! ## The document -/

theorem shown_of_devicesDocument {devices devices' : List DeviceTelemetry}
    (h : devicesDocument devices = devicesDocument devices') :
    devices.map DeviceTelemetry.shown = devices'.map DeviceTelemetry.shown := by
  simp only [devicesDocument, record_inj, List.cons.injEq, Prod.mk.injEq, Json.array.injEq, true_and, and_true] at h
  have hlist : ∀ devices devices' : List DeviceTelemetry, devices.map deviceJson = devices'.map deviceJson →
      devices.map DeviceTelemetry.shown = devices'.map DeviceTelemetry.shown := by
    intro devices
    induction devices with
    | nil =>
      intro devices' h
      rw [List.map_nil, eq_comm, List.map_eq_nil_iff] at h
      rw [h]
    | cons d devices ih =>
      intro devices' h
      cases devices' with
      | nil => cases h
      | cons d' devices' =>
        rw [List.map_cons, List.map_cons, List.cons.injEq] at h
        rw [List.map_cons, List.map_cons, shown_of_deviceJson h.1, ih _ h.2]
  exact hlist _ _ h.2

/-- **The device list is read back, and nothing of it is lost**: a reader of JSON gets the document from the text that
is served, and lists with one text agree on every field of every device, in order. -/
theorem devices_read_back (devices : List DeviceTelemetry) :
    Json.parse (renderDevicesJson devices) = some (devicesDocument devices) ∧
    ∀ devices', renderDevicesJson devices = renderDevicesJson devices' →
      devices.map DeviceTelemetry.shown = devices'.map DeviceTelemetry.shown := by
  have hread : ∀ devices, Json.parse (renderDevicesJson devices) = some (devicesDocument devices) := by
    intro devices
    refine Json.parse_dumps _ (fun c hc => ?_)
    rw [List.mem_singleton.1 hc]
    rfl
  refine ⟨hread devices, fun devices' h => ?_⟩
  have hdocument := hread devices
  rw [h, hread devices'] at hdocument
  exact shown_of_devicesDocument (Option.some.inj hdocument).symm

end Tt
