import TtMetricsExporter.LogRecords
/-!
# LogStream — what a reader finds in the log

The stream of a logger in JSON mode, over any calls in the order in which they took the lock: split at its newlines it is
one JSON text for each call at or above the minimum level, and each is read back as the call's record.
-/
namespace Tt

open Py (Str)

namespace LogWriter

/-- Calls, each with the instant that it is given, one after the other. -/
def logAll (self : LogWriter) : List (Instant × LogCall) → Option LogWriter
  | [] => some self
  | call :: rest => (self.log (some call.1) call.2).bind (fun self => self.logAll rest)

/-- The calls that a minimum level lets through. -/
def admitted (minimum : LogLevel) (calls : List (Instant × LogCall)) : List (Instant × LogCall) :=
  calls.filter (fun call => minimum.value ≤ call.2.level.value)

theorem log_json {self : LogWriter} {instant : Instant} {call : LogCall} (hjson : self.json = true)
    (h : self.minimum.value ≤ call.level.value) : self.log (some instant) call = some { self with
      output := self.output ++ ((recordJson (logRecord instant call)).dumps ++ ['\n']) } := by
  have hrender : self.render (logRecord instant call) = some (recordJson (logRecord instant call)).dumps :=
    if_pos hjson
  unfold log emit
  rw [if_neg (Nat.not_lt.2 h), Option.bind_eq_bind, Option.bind_some, hrender]
  rfl

/-- What calls add to the stream. -/
theorem logAll_json : ∀ {calls : List (Instant × LogCall)} {self : LogWriter}, self.json = true →
    self.logAll calls = some { self with output := self.output ++
      (admitted self.minimum calls).flatMap (fun call => (recordJson (logRecord call.1 call.2)).dumps ++ ['\n']) }
  | [], self, _ => congrArg some (by
    show self = { self with output := self.output ++ [] }
    rw [List.append_nil])
  | call :: rest, self, hjson => by
    unfold logAll admitted
    by_cases h : self.minimum.value ≤ call.2.level.value
    · have ih := @logAll_json rest { self with
        output := self.output ++ ((recordJson (logRecord call.1 call.2)).dumps ++ ['\n']) } hjson
      rw [log_json hjson h, Option.bind_some, ih, List.filter_cons_of_pos (by simpa using h), List.flatMap_cons]
      dsimp only
      rw [List.append_assoc]
      rfl
    · have hskip : self.log (some call.1) call.2 = some self := if_pos (Nat.not_le.1 h)
      rw [hskip, Option.bind_some, List.filter_cons_of_neg (by simpa using h)]
      exact logAll_json hjson

/-- Ended lines, split at their ends. -/
theorem splitOn_lines : ∀ {lines : List Str}, (∀ line ∈ lines, '\n' ∉ line) →
    Py.splitOn '\n' (lines.flatMap (fun line => line ++ ['\n'])) = lines ++ [[]]
  | [], _ => rfl
  | line :: lines, h => by
    have htext : (line :: lines).flatMap (fun line => line ++ ['\n']) =
        line ++ '\n' :: lines.flatMap (fun line => line ++ ['\n']) := by
      rw [List.flatMap_cons, List.append_assoc]
      rfl
    rw [htext, Py.splitOn_append_sep _ _ _ (h line List.mem_cons_self),
      splitOn_lines (fun l hl => h l (List.mem_cons_of_mem _ hl))]
    rfl

/-- **The log is read back**: its lines are the records of the calls at or above the minimum level, in order, and
nothing that a call was given starts another line or another record. -/
theorem log_read_back (minimum : LogLevel) (calls : List (Instant × LogCall)) :
    ∃ writer, ({ json := true, minimum := minimum } : LogWriter).logAll calls = some writer ∧
      (Py.splitOn '\n' writer.output).dropLast.map Json.parse =
        (admitted minimum calls).map (fun call => some (recordJson (logRecord call.1 call.2))) := by
  refine ⟨_, logAll_json rfl, ?_⟩
  have houtput : ([] : Str) ++ (admitted minimum calls).flatMap
      (fun call => (recordJson (logRecord call.1 call.2)).dumps ++ ['\n']) =
      ((admitted minimum calls).map (fun call => (recordJson (logRecord call.1 call.2)).dumps)).flatMap
        (fun line => line ++ ['\n']) := by
    rw [List.nil_append, List.flatMap_map]
  have hlines : ∀ line ∈ (admitted minimum calls).map (fun call => (recordJson (logRecord call.1 call.2)).dumps),
      '\n' ∉ line := by
    intro line hl
    obtain ⟨call, -, rfl⟩ := List.mem_map.1 hl
    exact newline_not_mem_dumps _
  dsimp only
  rw [houtput, splitOn_lines hlines, List.dropLast_concat, List.map_map]
  refine List.map_congr_left (fun call _ => ?_)
  have hread := Json.parse_dumps (recordJson (logRecord call.1 call.2)) (List.forall_mem_nil _)
  rw [List.append_nil] at hread
  exact hread

end LogWriter
end Tt
