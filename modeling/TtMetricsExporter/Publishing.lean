import TtMetricsExporter.Dictionary
import TtMetricsExporter.Interleaving
import TtMetricsExporter.Publisher
import Mathlib.Data.Rat.Floor
import Mathlib.Tactic.NormNum
/-!
# Publishing — what the publisher's methods do

The stateful half of `integrations/ttnn/metalium_profiler_publisher.py`, as programs over the publisher's fields and the
records it has written.  What stands under its lock is one action; so is each single access outside of it.  What the
profiler's objects and the operating system give, failures included, is input.
-/
namespace Tt

open Py (Str)

/-! ## Inputs -/

/-- An exception that Python code outside of the publisher raises. -/
structure PyRaised where
  typeName : String
  isException : Bool := true
  isRuntimeError : Bool := false
  deriving DecidableEq, Repr

/-- What `int` gives of the attributes of a program's record. -/
structure ProgramRecord where
  coreCount : Except PyRaised Int
  numAvailableCores : Except PyRaised Int

/-- An item of the profiler's data: `str(chip_id)` and what `list` gives of the records. -/
structure ChipRecords where
  chipId : Str
  records : Except PyRaised (List ProgramRecord)

abbrev ProfilerData := List ChipRecords

/-- Where a write fails, if it does: before the temporary file, before or after it replaces the target. -/
inductive WriteOutcome where
  | directoryFails (raised : PyRaised)
  | replaceFails (raised : PyRaised)
  | syncFails (raised : PyRaised)
  | written

/-- `sys.float_info.max_exp` -/
def maxFloatExponent : Nat := 1024

/-- What the system gives one critical section: `time.time()`, a float, and the outcome of its write. -/
structure PublishInput where
  time : Rat
  outcome : WriteOutcome
  finite : |time| < 2 ^ maxFloatExponent

/-! ## Errors -/

/-- What the methods raise, with what the messages show. -/
inductive PublishError where
  | unreadable (raised : PyRaised)
  | unconvertible (raised : PyRaised)
  | negative (field : String)
  | exceeds (coresUsed numAvailableCores : Nat) (deviceKey : Str)
  | invalidDeviceKey (deviceKey : Str)
  | closed
  | tooManyDigits
  | system (raised : PyRaised)
  | profiler (raised : PyRaised)
  deriving DecidableEq, Repr

namespace PublishError

def raised : PublishError → PyRaised
  | unreadable raised => raised
  | unconvertible raised => raised
  | system raised => raised
  | profiler raised => raised
  | closed => { typeName := "RuntimeError", isRuntimeError := true }
  | _ => { typeName := "ValueError" }

/-- The errors of `_non_negative_int` and of the check of the core count. -/
def IsValidation : PublishError → Prop
  | unconvertible _ => True
  | negative _ => True
  | exceeds _ _ _ => True
  | _ => False

end PublishError

/-- `_non_negative_int` -/
def nonNegativeInt (value : Except PyRaised Int) (field : String) : Except PublishError Nat :=
  match value with
  | .error raised => .error (.unconvertible raised)
  | .ok parsed => if parsed < 0 then .error (.negative field) else .ok parsed.toNat

/-! ## State -/

/-- The content of a state file, by device key. -/
structure WrittenRecord where
  deviceKey : Str
  summary : ProfilerSummary
  timestamp : Int
  payload : Str
  deriving DecidableEq, Repr

structure PublisherState where
  knownTotals : List (Str × Nat) := []
  publishedDeviceKeys : List Str := []
  closed : Bool := false
  disabled : Bool := false
  warned : Bool := false
  lastSampleMonotonic : Option Rat := none
  failureCount : Nat := 0
  lastFailure : Option String := none
  lastSuccessTimestamp : Option Rat := none
  /-- What the critical sections to come are given. -/
  inputs : Nat → PublishInput
  sections : Nat := 0
  /-- The records that have replaced a state file, in order. -/
  written : List WrittenRecord := []

namespace PublisherState

/-- The state file of a device. -/
def file (s : PublisherState) (deviceKey : Str) : Option WrittenRecord :=
  (s.written.filter (fun r => r.deviceKey = deviceKey)).getLast?

/-- The state as a critical section finds it once the device is among the published ones. -/
def listed (s : PublisherState) (deviceKey : Str) : PublisherState := { s with
  publishedDeviceKeys :=
    if deviceKey ∈ s.publishedDeviceKeys then s.publishedDeviceKeys else s.publishedDeviceKeys ++ [deviceKey]
  sections := s.sections + 1 }

/-- The state with one more record in its device's file. -/
def replaced (s : PublisherState) (r : WrittenRecord) : PublisherState := { s with written := s.written ++ [r] }

end PublisherState

/-- A publisher that has just been made, where every write succeeds. -/
def freshPublisher : PublisherState where
  inputs _ := ⟨0, .written, by rw [abs_zero]; exact pow_pos (by norm_num) _⟩

/-- An order in which a set may be gone through. -/
structure SetOrder where
  arrange : List Str → List Str
  perm : ∀ keys, (arrange keys).Perm keys

/-- `int(value)` of a float. -/
def truncate (value : Rat) : Int := if 0 ≤ value then ⌊value⌋ else ⌈value⌉

abbrev Publishing (α : Type) := Thread PublishError PublisherState α

abbrev Summaries := List (Str × ProfilerSummary)

namespace MetaliumProfilerPublisher
variable (self : MetaliumProfilerPublisher)

/-! ## Writing -/

def validDeviceKey (deviceKey : Str) : Bool :=
  !(deviceKey = [] || deviceKey = ['.'] || deviceKey = ['.', '.'] || '/' ∈ deviceKey)

/-- The critical section of `_publish`. -/
def publishSection (deviceKey : Str) (summary : ProfilerSummary) (allowClosed : Bool) (s : PublisherState) :
    Except PublishError Unit × PublisherState :=
  if s.closed && !allowClosed then (.error .closed, s)
  else
    let input := s.inputs s.sections
    let s := s.listed deviceKey
    match input.outcome, self.payload summary (truncate input.time) with
    | .directoryFails raised, _ => (.error (.system raised), s)
    | _, none => (.error .tooManyDigits, s)
    | .replaceFails raised, _ => (.error (.system raised), s)
    | .syncFails raised, some payload =>
      (.error (.system raised), s.replaced ⟨deviceKey, summary, truncate input.time, payload⟩)
    | .written, some payload => (.ok (), s.replaced ⟨deviceKey, summary, truncate input.time, payload⟩)

/-- `_publish` -/
def publish (deviceKey : Str) (summary : ProfilerSummary) (allowClosed : Bool := false) : Publishing Unit :=
  if validDeviceKey deviceKey then .atomic (self.publishSection deviceKey summary allowClosed)
  else .raise (.invalidDeviceKey deviceKey)

/-- `_summary` -/
def summaryOf (deviceKey : Str) (active : Nat := 0) (programs : Nat := 0) (cores : Nat := 0) :
    Publishing ProfilerSummary :=
  .get (fun s => ⟨active, programs, cores, s.knownTotals.lookup deviceKey⟩)

/-! ## Reading the profiler's data -/

/-- `device_key` -/
def deviceKeyOf (chip : ChipRecords) : Str := (self.deviceKeyMap.lookup chip.chipId).getD chip.chipId

/-- `core_counts` and `core_totals` -/
def convert (records : List ProgramRecord) : Except PublishError (List Nat × List Nat) := do
  let coreCounts ← records.mapM (fun r => nonNegativeInt r.coreCount "core_count")
  let coreTotals ← records.mapM (fun r => nonNegativeInt r.numAvailableCores "num_available_cores")
  return (coreCounts, coreTotals)

/-- The update of `_known_totals`. -/
def remember (deviceKey : Str) (coreTotals : List Nat) : Publishing Unit :=
  if coreTotals ≠ [] then
    .update (fun s => { s with knownTotals := Py.setItem deviceKey (coreTotals.foldl max 0) s.knownTotals })
  else return ()

/-- The check against it. -/
def checkCores (deviceKey : Str) (coresUsed : Nat) : Publishing Unit :=
  .atomic (fun s => match s.knownTotals.lookup deviceKey with
    | some total => (if total < coresUsed then .error (.exceeds coresUsed total deviceKey) else .ok (), s)
    | none => (.ok (), s))

/-- One turn of the loop over the chips. -/
def publishChip (chip : ChipRecords) : Publishing ProfilerSummary := do
  let deviceKey := self.deviceKeyOf chip
  let records ← .ofExcept (chip.records.mapError .unreadable)
  let (coreCounts, coreTotals) ← .ofExcept (convert records)
  let coresUsed := coreCounts.foldl max 0
  remember deviceKey coreTotals
  checkCores deviceKey coresUsed
  let summary ← summaryOf deviceKey (if records = [] then 0 else 1) records.length coresUsed
  self.publish deviceKey summary
  return summary

def publishChips : ProfilerData → Summaries → Publishing Summaries
  | [], summaries => return summaries
  | chip :: rest, summaries => do
    let summary ← self.publishChip chip
    publishChips rest (Py.setItem (self.deviceKeyOf chip) summary summaries)

/-- One turn of the loop over the configured devices, for a device that has not been seen. -/
def publishIdle : List Str → Summaries → Publishing Summaries
  | [], summaries => return summaries
  | deviceKey :: rest, summaries => do
    let summary ← summaryOf deviceKey
    self.publish deviceKey summary
    publishIdle rest (Py.setItem deviceKey summary summaries)

/-- `_publish_profiler_data`, with the time at its end. -/
def publishData (data : ProfilerData) (finishedAt : Rat) : Publishing Summaries := do
  let summaries ← self.publishChips data []
  let unseen := self.deviceKeys.filter (fun deviceKey => deviceKey ∉ data.map self.deviceKeyOf)
  let summaries ← self.publishIdle unseen summaries
  .update (fun s => { s with lastFailure := none, lastSuccessTimestamp := some finishedAt })
  return summaries

/-! ## The methods -/

/-- `_handle_failure` -/
def handleFailure (error : PublishError) (disable : Bool) : Publishing Unit :=
  .update (fun s => { s with
    failureCount := s.failureCount + 1
    lastFailure := some error.raised.typeName
    disabled := s.disabled || disable
    warned := true })

/-- `except Exception`: what is caught is counted, and raised again by a strict publisher. -/
def caught {α : Type} (program : Publishing α) (disable : PublishError → Bool) (default : α) : Publishing α :=
  program.handle (fun error => do
    if error.raised.isException then
      handleFailure error (disable error)
      if self.strict then .raise error else return default
    else .raise error)

/-- `sample`, with the clocks it reads and what the checks of the environment and the profiler's interface give. -/
def sample (monotonicNow : Rat) (read : Except PyRaised ProfilerData) (finishedAt : Rat) : Publishing Summaries := do
  if ← .get (·.disabled) then return []
  else
    let due ← .get (fun s => match s.lastSampleMonotonic with
      | some last => !(monotonicNow - last < self.minimumSampleIntervalSeconds)
      | none => true)
    if due then
      .update (fun s => { s with lastSampleMonotonic := some monotonicNow })
      self.caught (do
        let data ← .ofExcept (read.mapError .profiler)
        self.publishData data finishedAt) (·.raised.isRuntimeError) []
    else return []

/-- `publish_profiler_data` -/
def publishProfilerData (data : ProfilerData) (finishedAt : Rat) : Publishing Summaries := do
  if ← .get (·.disabled) then return []
  else self.caught (self.publishData data finishedAt) (fun _ => false) []

/-- The critical section of `close`: the devices that are left to mark. -/
def closeSection (order : SetOrder) (s : PublisherState) : Except PublishError (List Str) × PublisherState :=
  if s.closed then (.ok [], s)
  else
    let s := { s with closed := true }
    if s.disabled then (.ok [], s)
    else (.ok (order.arrange (if s.publishedDeviceKeys ≠ [] then s.publishedDeviceKeys else self.deviceKeys.dedup)), s)

def markInactive : List Str → Publishing Unit
  | [] => return ()
  | deviceKey :: rest => do
    self.caught (do
      let summary ← summaryOf deviceKey
      self.publish deviceKey summary true) (fun _ => false) ()
    markInactive rest

/-- `close` -/
def close (order : SetOrder) : Publishing Unit := do
  let deviceKeys ← .atomic (self.closeSection order)
  self.markInactive deviceKeys

/-! ## What a critical section does -/

/-- **The three ends of a critical section**: it finds the publisher closed, it fails without replacing the file, or it
replaces it. -/
theorem publishSection_cases (deviceKey : Str) (summary : ProfilerSummary) (allowClosed : Bool) (s : PublisherState) :
    (s.closed = true ∧ allowClosed = false ∧
      self.publishSection deviceKey summary allowClosed s = (.error .closed, s)) ∨
    ((s.closed = true → allowClosed = true) ∧ ∃ error,
      self.publishSection deviceKey summary allowClosed s = (.error error, s.listed deviceKey) ∧
      (error = .tooManyDigits ∧ self.payload summary (truncate (s.inputs s.sections).time) = none ∨
        ∃ raised, error = .system raised ∧ (s.inputs s.sections).outcome ≠ .written)) ∨
    ((s.closed = true → allowClosed = true) ∧ ∃ payload result,
      self.payload summary (truncate (s.inputs s.sections).time) = some payload ∧
      self.publishSection deviceKey summary allowClosed s = (result,
        (s.listed deviceKey).replaced ⟨deviceKey, summary, truncate (s.inputs s.sections).time, payload⟩) ∧
      (result = .ok () ∨ ∃ raised, result = .error (.system raised) ∧ (s.inputs s.sections).outcome ≠ .written)) := by
  unfold publishSection
  by_cases hclosed : s.closed = true ∧ allowClosed = false
  · left
    rw [if_pos (by rw [hclosed.1, hclosed.2]; rfl)]
    exact ⟨hclosed.1, hclosed.2, rfl⟩
  · have hopen : s.closed = true → allowClosed = true := fun h =>
      Bool.eq_true_of_not_eq_false (fun hf => hclosed ⟨h, hf⟩)
    have hguard : ¬ (s.closed && !allowClosed) = true := by
      rw [Bool.and_eq_true, Bool.not_eq_true']
      exact hclosed
    right
    rw [if_neg hguard]
    dsimp only
    generalize truncate (s.inputs s.sections).time = timestamp
    generalize (s.inputs s.sections).outcome = outcome
    cases outcome with
    | directoryFails raised => exact .inl ⟨hopen, _, rfl, .inr ⟨raised, rfl, fun h => nomatch h⟩⟩
    | replaceFails raised =>
      cases self.payload summary timestamp with
      | none => exact .inl ⟨hopen, _, rfl, .inl ⟨rfl, rfl⟩⟩
      | some payload => exact .inl ⟨hopen, _, rfl, .inr ⟨raised, rfl, fun h => nomatch h⟩⟩
    | syncFails raised =>
      cases self.payload summary timestamp with
      | none => exact .inl ⟨hopen, _, rfl, .inl ⟨rfl, rfl⟩⟩
      | some payload => exact .inr ⟨hopen, payload, _, rfl, rfl, .inr ⟨raised, rfl, fun h => nomatch h⟩⟩
    | written =>
      cases self.payload summary timestamp with
      | none => exact .inl ⟨hopen, _, rfl, .inl ⟨rfl, rfl⟩⟩
      | some payload => exact .inr ⟨hopen, payload, _, rfl, rfl, .inl rfl⟩

end MetaliumProfilerPublisher

/-! ## State files -/

namespace PublisherState

theorem file_replaced (s : PublisherState) (r : WrittenRecord) (deviceKey : Str) :
    (s.replaced r).file deviceKey = if r.deviceKey = deviceKey then some r else s.file deviceKey := by
  unfold file replaced
  rw [List.filter_append]
  by_cases hk : r.deviceKey = deviceKey
  · rw [List.filter_cons_of_pos (by simpa using hk), List.filter_nil, List.getLast?_concat, if_pos hk]
  · rw [List.filter_cons_of_neg (by simpa using hk), List.filter_nil, List.append_nil, if_neg hk]

theorem file_congr {s s' : PublisherState} (h : s'.written = s.written) (deviceKey : Str) :
    s'.file deviceKey = s.file deviceKey := by
  unfold file
  rw [h]

theorem mem_of_file {s : PublisherState} {r : WrittenRecord} {deviceKey : Str} (h : s.file deviceKey = some r) :
    r ∈ s.written ∧ r.deviceKey = deviceKey := by
  have hm := List.mem_filter.1 (List.mem_of_getLast? h)
  exact ⟨hm.1, of_decide_eq_true hm.2⟩

theorem mem_listed (s : PublisherState) (deviceKey : Str) : deviceKey ∈ (s.listed deviceKey).publishedDeviceKeys := by
  unfold listed
  dsimp only
  split
  · assumption
  · exact List.mem_append_right _ List.mem_cons_self

theorem subset_listed (s : PublisherState) (deviceKey : Str) :
    s.publishedDeviceKeys ⊆ (s.listed deviceKey).publishedDeviceKeys := by
  unfold listed
  dsimp only
  split
  · exact List.Subset.refl _
  · exact List.subset_append_left _ _

end PublisherState
end Tt
