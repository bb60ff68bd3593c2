import TtMetricsExporter.PyNumber
import TtMetricsExporter.Sha256
/-!
# Publisher — what the profiler publisher writes, and under which name

The pure half of `integrations/ttnn/metalium_profiler_publisher.py`, which runs in the workload's process: the names of
the state file and of the file it is written to first, and the text of a record.
-/
namespace Tt

open Py (Str strInt)

/-! ## Names -/

/-- `[A-Za-z0-9_.-]` -/
def isComponentChar (c : Char) : Bool :=
  ('A' ≤ c && c ≤ 'Z') || ('a' ≤ c && c ≤ 'z') || ('0' ≤ c && c ≤ '9') || c == '_' || c == '.' || c == '-'

/-- `re.sub(r"[^A-Za-z0-9_.-]+", "-", value)`, after a run that is replaced already or not. -/
def replaceRuns (replaced : Bool) : Str → Str
  | [] => []
  | c :: rest =>
    if isComponentChar c then c :: replaceRuns false rest
    else if replaced then replaceRuns true rest
    else '-' :: replaceRuns true rest

def isDashOrDot (c : Char) : Bool := c == '-' || c == '.'

/-- `cleaned`, before a digest is appended. -/
def cleanedName (value : Str) : Str :=
  let cleaned := Py.stripBy isDashOrDot (replaceRuns false value)
  if cleaned = [] then "workload".toList else cleaned

/-- `cleaned`, before it is cut. -/
def digestedName (value : Str) : Str :=
  let cleaned := cleanedName value
  if cleaned ≠ value then cleaned ++ '-' :: (Sha256.hexDigest (Py.encodeUtf8 value).toList).take 8 else cleaned

def safeComponent (value : Str) : Str := (digestedName value).take 160

/-! ## Records -/

/-- The publisher's settings; the constructor refuses any other layout, and the workload's identity falls back to one
that is never empty. -/
structure MetaliumProfilerPublisher where
  workloadId : Str
  podNamespace : Option Str := none
  podName : Option Str := none
  containerName : Option Str := none
  layoutVersion : Nat := 2
  deviceKeys : List Str := [['0']]
  deviceKeyMap : List (Str × Str) := []
  strict : Bool := false
  minimumSampleIntervalSeconds : Rat := 1
  workloadId_ne : workloadId ≠ []
  layout_valid : layoutVersion = 1 ∨ layoutVersion = 2

theorem layout_two_valid : 2 = 1 ∨ 2 = 2 := .inr rfl

theorem singleLetter_ne : ['w'] ≠ [] := List.cons_ne_nil _ _

theorem train_ne : "train".toList ≠ [] := by decide

/-- `_summary`'s dictionary. -/
structure ProfilerSummary where
  active : Nat := 0
  programsObserved : Nat := 0
  tensixCoresUsed : Nat := 0
  tensixCoresTotal : Option Nat := none
  deriving DecidableEq, Repr

/-- `_state_value` of a string. -/
def stateValue (value : Str) : Str := Py.replaceChar '\n' [' '] (Py.replaceChar '\r' [' '] value)

namespace MetaliumProfilerPublisher
variable (self : MetaliumProfilerPublisher)

def targetName : Str :=
  if self.layoutVersion = 2 then "snapshot.state".toList else safeComponent self.workloadId ++ ".state".toList

def temporaryName (pid threadIdent : Nat) : Str :=
  '.' :: self.targetName ++ '.' :: strInt pid ++ '.' :: strInt threadIdent ++ ".tmp".toList

/-- The numbers of a record, by key. -/
def numberFields (summary : ProfilerSummary) (timestamp : Int) : List (Str × Int) :=
  [("sample_timestamp_seconds".toList, timestamp), ("active".toList, summary.active),
    ("programs_observed".toList, summary.programsObserved), ("tensix_cores_used".toList, summary.tensixCoresUsed)] ++
  (summary.tensixCoresTotal.map (fun total : Nat => ("tensix_cores_total".toList, (total : Int)))).toList

/-- The labels of a record, by key: those that are neither `None` nor empty. -/
def labelFields : List (Str × Str) :=
  [("pod_namespace".toList, self.podNamespace), ("pod_name".toList, self.podName),
    ("container_name".toList, self.containerName)].filterMap (fun (key, value) =>
      (value.filter (· ≠ [])).map (fun value => (key, value)))

/-- `fields`, in order. -/
def recordFields (summary : ProfilerSummary) (timestamp : Int) : List (Str × Str) :=
  [("schema_version".toList, strInt self.layoutVersion), ("workload_id".toList, self.workloadId)] ++
    (numberFields summary timestamp).map (fun (key, n) => (key, strInt n)) ++ self.labelFields

def recordLine (field : Str × Str) : Str := field.1 ++ '=' :: stateValue field.2 ++ ['\n']

/-- `payload`; `none` where `str` refuses a number past its digit limit. -/
def payload (summary : ProfilerSummary) (timestamp : Int) : Option Str :=
  if ∃ field ∈ numberFields summary timestamp, 10 ^ Py.maxStrDigits ≤ field.2.natAbs then none
  else some ((self.recordFields summary timestamp).flatMap recordLine)

end MetaliumProfilerPublisher
end Tt
