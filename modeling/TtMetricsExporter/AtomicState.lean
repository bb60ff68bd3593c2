import TtMetricsExporter.Containment
import TtMetricsExporter.FileNames
import TtMetricsExporter.Injection
import TtMetricsExporter.Inodes
/-!
# AtomicState — a state file is read while it is published

`_publish` writes a file of its own and renames it onto the target; `read_text` opens the target, looks at what it has
opened, and reads it.  Whatever the interleaving, what it has opened is a whole payload (`Inodes.Holds`).  But a file
that is replaced loses its link before the reader looks at it, and a file that has not exactly one link is refused.
-/
namespace Tt

open Py (Str)
open Inodes (File Directory Holds Settled Begun lastOf)

/-- A directory of state files, where nothing fails. -/
abbrev StateDirectory := Directory Str ByteArray

/-! ## Publishing -/

/-- The steps of `_publish` that are calls of the operating system. -/
inductive PublishStep where
  | create (temporary : Str)
  | write (temporary : Str) (payload : ByteArray)
  | fsync (temporary : Str)
  | chmod (temporary : Str)
  | replace (temporary target : Str)
  | fsyncDirectory
  | unlink (temporary : Str)

namespace PublishStep

def IsReplace : PublishStep → Bool
  | replace _ _ => true
  | _ => false

/-- Syncing and the mode change nothing that a reader who may open the file sees. -/
def apply (d : StateDirectory) : PublishStep → StateDirectory
  | create temporary => d.create temporary ByteArray.empty
  | write temporary payload => d.write temporary payload
  | replace temporary target => d.rename temporary target
  | unlink temporary => d.unlink temporary
  | _ => d

end PublishStep

/-- One call of `_publish`: who makes it, and what it writes. -/
structure Publication (publisher : MetaliumProfilerPublisher) where
  pid : Nat
  threadIdent : Nat
  summary : ProfilerSummary
  timestamp : Int
  payload : Str
  composed : publisher.payload summary timestamp = some payload

namespace Publication
variable {publisher : MetaliumProfilerPublisher}

def temporary (p : Publication publisher) : Str := publisher.temporaryName p.pid p.threadIdent

def bytes (p : Publication publisher) : ByteArray := Py.encodeUtf8 p.payload

def steps (p : Publication publisher) : List PublishStep := [.create p.temporary, .write p.temporary p.bytes,
  .fsync p.temporary, .chmod p.temporary, .replace p.temporary publisher.targetName, .fsyncDirectory,
  .unlink p.temporary]

end Publication

/-! ## Reading -/

/-- Where `read_text` stands. -/
inductive ReaderState where
  | start
  | opened (descriptor : Nat)
  | checked (descriptor : Nat)
  | finished (outcome : Reading (Option Str))

/-- `read_text`'s next step. -/
def ReaderState.next (name : Str) (maximumSize : Nat) (diagnostics : TelemetrySource) (d : StateDirectory) :
    ReaderState → ReaderState
  | start =>
    if validComponent name 255 then
      match d.names name with
      | some descriptor => opened descriptor
      | none => finished (return none)
    else finished (do
      recordIssue diagnostics .invalidValue
      return none)
  | opened descriptor =>
    match statusIssue (d.files descriptor).links (d.files descriptor).content.size maximumSize with
    | some issue => finished (do
      recordIssue diagnostics issue
      return none)
    | none => checked descriptor
  | checked descriptor =>
    finished (decodeRecord ((d.files descriptor).content.extract 0 (maximumSize + 1)) maximumSize diagnostics)
  | finished outcome => finished outcome

/-! ## Interleavings -/

structure FileSystem where
  directory : StateDirectory := ⟨fun _ => none, fun _ => ⟨ByteArray.empty, 0⟩, 0⟩
  reader : ReaderState := .start

/-- One step of one of the two programs. -/
inductive FileEvent where
  | publish (step : PublishStep)
  | read

namespace FileEvent

def published : FileEvent → Option PublishStep
  | publish step => some step
  | read => none

def IsRead : FileEvent → Bool
  | read => true
  | _ => false

end FileEvent

/-- The system runs through some events; the reader is after the file `name`. -/
def FileSystem.run (name : Str) (maximumSize : Nat) (diagnostics : TelemetrySource) (s : FileSystem)
    (events : List FileEvent) : FileSystem :=
  events.foldl (fun s event => match event with
    | .publish step => { s with directory := step.apply s.directory }
    | .read => { s with reader := s.reader.next name maximumSize diagnostics s.directory }) s

/-- The three steps of the reader among those of the publisher. -/
def interleaving (before between after rest : List PublishStep) : List FileEvent :=
  before.map .publish ++ .read :: (between.map .publish ++ .read :: (after.map .publish ++ .read :: rest.map .publish))

section
variable {publisher : MetaliumProfilerPublisher}

/-- The first `k` publications are over. -/
def Completed (publications : List (Publication publisher)) (steps : List PublishStep) (k : Nat) : Prop :=
  k ≤ publications.length ∧ (publications.take k).flatMap Publication.steps <+: steps

/-- The outcome is the whole payload of a publication that is not older than those that are over, up to its outer
whitespace, and there is no issue. -/
def ReadsWhole (publications : List (Publication publisher)) (steps : List PublishStep)
    (outcome : Reading (Option Str)) : Prop :=
  ∃ i p log, publications[i]? = some p ∧ (∀ k, Completed publications steps k → k ≤ i + 1) ∧
    outcome = .returned (some (Py.stripAscii p.payload)) log ∧ ∀ source issue, ⟨source, .issue issue⟩ ∉ log

/-! ## A reader alone -/

/-- The directory as a node of which the reader sees one entry. -/
def nodeOf (name : Str) (maximumSize : Nat) (d : StateDirectory) : Posix.Node :=
  .directory .free ((d.names name).map (fun i =>
    (name, .regular ⟨none, (d.files i).links, (d.files i).content.size,
      .ok ((d.files i).content.extract 0 (maximumSize + 1))⟩))).toList

/-- **In a directory that stays as it is, the three steps are `read_text`.** -/
theorem read_alone (name : Str) (maximumSize : Nat) (diagnostics : TelemetrySource) (d : StateDirectory) :
    ReaderState.next name maximumSize diagnostics d (ReaderState.next name maximumSize diagnostics d
      (ReaderState.next name maximumSize diagnostics d .start)) =
    .finished (SecureDirectory.readText (nodeOf name maximumSize d) ⟨[]⟩ name maximumSize diagnostics) := by
  unfold SecureDirectory.readText
  by_cases hc : validComponent name 255 = true
  · rw [if_pos hc, osOpen_of_validComponent _ _ hc]
    cases hn : d.names name with
    | none =>
      have hstart : ReaderState.next name maximumSize diagnostics d .start = .finished (return none) := by
        unfold ReaderState.next
        dsimp only
        rw [if_pos hc, hn]
      rw [hstart]
      unfold nodeOf
      rw [hn]
      rfl
    | some i =>
      have hstart : ReaderState.next name maximumSize diagnostics d .start = .opened i := by
        unfold ReaderState.next
        dsimp only
        rw [if_pos hc, hn]
      rw [hstart]
      have hlookup : ([(name, Posix.Node.regular ⟨none, (d.files i).links, (d.files i).content.size,
          .ok ((d.files i).content.extract 0 (maximumSize + 1))⟩)] : List (Str × Posix.Node)).lookup name =
          some (.regular ⟨none, (d.files i).links, (d.files i).content.size,
            .ok ((d.files i).content.extract 0 (maximumSize + 1))⟩) := List.lookup_cons_self
      have hopen : Posix.openEntry ((nodeOf name maximumSize d).at []) name false = .ok () := by
        unfold nodeOf Posix.openEntry Posix.Node.at
        rw [hn, Option.map_some, Option.toList_some]
        dsimp only
        rw [hlookup]
        rfl
      have hnode : (nodeOf name maximumSize d).at [name] = some (.regular ⟨none, (d.files i).links,
          (d.files i).content.size, .ok ((d.files i).content.extract 0 (maximumSize + 1))⟩) := by
        unfold nodeOf Posix.Node.at
        rw [hn, Option.map_some, Option.toList_some, hlookup]
        rfl
      rw [hopen, pure_bind]
      dsimp only [Except.map, List.nil_append]
      rw [hnode]
      unfold readOpened ReaderState.next
      dsimp only
      cases statusIssue (d.files i).links (d.files i).content.size maximumSize <;> rfl
  · have hstart : ReaderState.next name maximumSize diagnostics d .start = .finished (do
        recordIssue diagnostics .invalidValue
        return none) := by
      unfold ReaderState.next
      dsimp only
      rw [if_neg hc]
    rw [if_neg hc, hstart]
    rfl

/-! ## Payloads -/

/-- A payload is not blank. -/
theorem Publication.stripAscii_ne (p : Publication publisher) : Py.stripAscii p.payload ≠ [] := by
  obtain ⟨-, hpayload⟩ := payload_eq_some.1 p.composed
  obtain ⟨rest, hrest⟩ : ∃ rest, p.payload = 's' :: rest := by
    rw [hpayload, recordFields_eq]
    exact ⟨_, rfl⟩
  unfold Py.stripAscii Py.stripBy
  rw [hrest, List.dropWhile_cons_of_neg (by decide), Ne, List.rdropWhile_eq_nil_iff]
  exact fun h => absurd (h 's' List.mem_cons_self) (by decide)

theorem Publication.temporary_ne (p : Publication publisher) : p.temporary ≠ publisher.targetName := by
  intro h
  have hlength := congrArg List.length h
  simp only [Publication.temporary, MetaliumProfilerPublisher.temporaryName, List.length_append, List.length_cons]
    at hlength
  omega

/-! ## The directory -/

def applyAll (steps : List PublishStep) (d : StateDirectory) : StateDirectory := steps.foldl PublishStep.apply d

/-- The directory after some of the publisher's steps. -/
def stateAfter (steps : List PublishStep) : StateDirectory := applyAll steps ({} : FileSystem).directory

theorem forall_prefix_cons {α : Type} {P : List α → Prop} {a : α} {rest : List α} :
    (∀ l, l <+: a :: rest → P l) ↔ P [] ∧ ∀ l, l <+: rest → P (a :: l) := by
  constructor
  · exact fun h => ⟨h [] List.nil_prefix, fun l hl => h _ (List.cons_prefix_cons.2 ⟨rfl, hl⟩)⟩
  · rintro ⟨hnil, hcons⟩ l hl
    rcases List.prefix_cons_iff.1 hl with rfl | ⟨t, rfl, ht⟩
    · exact hnil
    · exact hcons t ht

/-- After some of the steps of one publication, its payload is the last one or not there yet. -/
theorem holds_publication {past : List ByteArray} {d : StateDirectory} (p : Publication publisher)
    (h : Settled publisher.targetName past d) :
    (∀ steps, steps <+: p.steps → Holds publisher.targetName
      (past ++ [p.bytes].take (steps.countP PublishStep.IsReplace)) (applyAll steps d)) ∧
    Settled publisher.targetName (past ++ [p.bytes]) (applyAll p.steps d) := by
  have hcreated := h.create p.temporary_ne ByteArray.empty
  have hwritten := hcreated.write p.bytes
  have hreplaced := hwritten.rename
  have hend : applyAll p.steps d = ((d.create p.temporary ByteArray.empty).write p.temporary p.bytes).rename p.temporary
      publisher.targetName := hreplaced.unlink p.temporary_ne
  rw [← hend] at hreplaced
  have hbefore : ∀ {d'}, Holds publisher.targetName past d' → Holds publisher.targetName (past ++ []) d' := by
    intro d' hd
    rw [List.append_nil]
    exact hd
  refine ⟨?_, hreplaced⟩
  unfold Publication.steps at hend hreplaced ⊢
  simp only [forall_prefix_cons, List.prefix_nil, forall_eq]
  refine ⟨hbefore h.toHolds, hbefore hcreated.toHolds, hbefore hwritten.toHolds, hbefore hwritten.toHolds,
    hbefore hwritten.toHolds, ?_, ?_, hreplaced.toHolds⟩
  · exact hwritten.rename.toHolds
  · exact hwritten.rename.toHolds

/-- **After any steps of any publications** the target leads to the payload that was renamed last. -/
theorem holds_of_steps : ∀ {publications : List (Publication publisher)} {past : List ByteArray} {d : StateDirectory}
    {steps : List PublishStep}, Settled publisher.targetName past d → steps <+: publications.flatMap Publication.steps →
    Holds publisher.targetName
      (past ++ (publications.take (steps.countP PublishStep.IsReplace)).map Publication.bytes) (applyAll steps d)
  | [], past, d, steps, h, hs => by
    obtain rfl := List.prefix_nil.1 hs
    rw [List.take_nil, List.map_nil, List.append_nil]
    exact h.toHolds
  | p :: rest, past, d, steps, h, hs => by
    obtain ⟨hwithin, hend⟩ := holds_publication p h
    have hone : p.steps.countP PublishStep.IsReplace = 1 := rfl
    rw [List.flatMap_cons] at hs
    rcases Nat.le_total steps.length p.steps.length with hlength | hlength
    · have hpart := List.prefix_of_prefix_length_le hs (List.prefix_append _ _) hlength
      have hcount : steps.countP PublishStep.IsReplace ≤ 1 := hone ▸ hpart.sublist.countP_le
      have htake : ((p :: rest).take (steps.countP PublishStep.IsReplace)).map Publication.bytes =
          [p.bytes].take (steps.countP PublishStep.IsReplace) := by
        generalize steps.countP PublishStep.IsReplace = n at hcount
        interval_cases n <;> rfl
      rw [htake]
      exact hwithin steps hpart
    · obtain ⟨after, rfl⟩ := List.prefix_of_prefix_length_le (List.prefix_append _ _) hs hlength
      have hafter := holds_of_steps hend ((List.prefix_append_right_inj _).1 hs)
      rw [List.countP_append, hone, Nat.add_comm, List.take_succ_cons, List.map_cons]
      unfold applyAll at hafter ⊢
      rw [List.foldl_append]
      rw [List.append_assoc] at hafter
      exact hafter

/-! ## The reader -/

section Reader
variable {maximumSize : Nat} {diagnostics : TelemetrySource}

theorem run_append (name : Str) (s : FileSystem) (events events' : List FileEvent) :
    s.run name maximumSize diagnostics (events ++ events') =
      (s.run name maximumSize diagnostics events).run name maximumSize diagnostics events' := List.foldl_append

theorem run_publish (name : Str) : ∀ (steps : List PublishStep) (s : FileSystem),
    s.run name maximumSize diagnostics (steps.map .publish) = { s with directory := applyAll steps s.directory }
  | [], _ => rfl
  | step :: rest, s => run_publish name rest { s with directory := step.apply s.directory }

theorem run_read (name : Str) (s : FileSystem) (events : List FileEvent) :
    s.run name maximumSize diagnostics (.read :: events) =
      FileSystem.run name maximumSize diagnostics
        { s with reader := s.reader.next name maximumSize diagnostics s.directory } events := rfl

variable (maximumSize diagnostics) in
/-- The reader's three steps, each in the directory that it finds. -/
theorem reader_interleaving (name : Str) (before between after rest : List PublishStep) :
    (({} : FileSystem).run name maximumSize diagnostics (interleaving before between after rest)).reader =
      ReaderState.next name maximumSize diagnostics (stateAfter (before ++ between ++ after))
        (ReaderState.next name maximumSize diagnostics (stateAfter (before ++ between))
          (ReaderState.next name maximumSize diagnostics (stateAfter before) .start)) := by
  have happend : ∀ steps steps' : List PublishStep, stateAfter (steps ++ steps') = applyAll steps' (stateAfter steps) :=
    fun steps steps' => List.foldl_append
  unfold interleaving
  rw [run_append, run_publish, run_read, run_append, run_publish, run_read, run_append, run_publish, run_read,
    run_publish, happend, happend]
  rfl

theorem split_at_read : ∀ {events : List FileEvent} {n : Nat}, events.countP FileEvent.IsRead = n + 1 →
    ∃ (steps : List PublishStep) (rest : List FileEvent), events = steps.map .publish ++ .read :: rest ∧
      rest.countP FileEvent.IsRead = n
  | .read :: rest, n, h => by
    rw [List.countP_cons_of_pos rfl] at h
    exact ⟨[], rest, rfl, by omega⟩
  | .publish step :: rest, n, h => by
    rw [List.countP_cons_of_neg (by exact Bool.false_ne_true)] at h
    obtain ⟨steps, rest', rfl, hn⟩ := split_at_read h
    exact ⟨step :: steps, rest', rfl, hn⟩

theorem publish_of_no_read : ∀ {events : List FileEvent}, events.countP FileEvent.IsRead = 0 →
    ∃ steps : List PublishStep, events = steps.map .publish
  | [], _ => ⟨[], rfl⟩
  | .read :: rest, h => by
    rw [List.countP_cons_of_pos rfl] at h
    omega
  | .publish step :: rest, h => by
    rw [List.countP_cons_of_neg (by exact Bool.false_ne_true)] at h
    obtain ⟨steps, rfl⟩ := publish_of_no_read h
    exact ⟨step :: steps, rfl⟩

/-- **Every interleaving** of the publisher's steps with three of the reader's is of this form. -/
theorem exists_interleaving {events : List FileEvent} (h : events.countP FileEvent.IsRead = 3) :
    ∃ before between after rest, events = interleaving before between after rest ∧
      events.filterMap FileEvent.published = before ++ between ++ after ++ rest := by
  obtain ⟨before, events₁, rfl, h₁⟩ := split_at_read h
  obtain ⟨between, events₂, rfl, h₂⟩ := split_at_read h₁
  obtain ⟨after, events₃, rfl, h₃⟩ := split_at_read h₂
  obtain ⟨rest, rfl⟩ := publish_of_no_read h₃
  have hpublish : ∀ steps : List PublishStep, (steps.map FileEvent.publish).filterMap FileEvent.published = steps := by
    intro steps
    rw [List.filterMap_map]
    exact List.filterMap_some
  refine ⟨before, between, after, rest, rfl, ?_⟩
  rw [List.filterMap_append, List.filterMap_cons_none rfl, List.filterMap_append, List.filterMap_cons_none rfl,
    List.filterMap_append, List.filterMap_cons_none rfl, hpublish, hpublish, hpublish, hpublish, List.append_assoc,
    List.append_assoc]

variable (diagnostics) in
/-- What is made of a whole payload that was opened, once it is looked at: all of it, or nothing where it has been
replaced. -/
theorem read_outcome {past : List ByteArray} {d d' : StateDirectory} {i : Nat} {p : Publication publisher}
    (hsize : p.bytes.size ≤ maximumSize) (h : Holds publisher.targetName past d) (hi : past[i]? = some p.bytes)
    {past' : List ByteArray} (h' : Holds publisher.targetName past' d') (hi' : past'[i]? = some p.bytes) (name : Str) :
    ReaderState.next name maximumSize diagnostics d' (ReaderState.next name maximumSize diagnostics d (.opened i)) =
      .finished (if i + 1 = past.length then .returned (some (Py.stripAscii p.payload)) [⟨diagnostics, .filesRead⟩]
        else .returned none [⟨diagnostics, .issue .invalidValue⟩]) := by
  have hfile := h.files i _ hi
  have hfile' := h'.files i _ hi'
  unfold ReaderState.next
  dsimp only
  rw [hfile]
  dsimp only
  by_cases hlast : i + 1 = past.length
  · have hstatus : statusIssue (if i + 1 = past.length then 1 else 0) p.bytes.size maximumSize = none := by
      unfold statusIssue
      rw [if_pos hlast, if_neg (not_not.2 rfl), if_neg (Nat.not_lt.2 hsize)]
    rw [hstatus, if_pos hlast]
    dsimp only
    rw [hfile']
    dsimp only
    have hwhole : p.bytes.extract 0 (maximumSize + 1) = p.bytes := by
      rw [← max_eq_left (show p.bytes.size ≤ maximumSize + 1 by omega)]
      exact ByteArray.extract_zero_max_size
    have hdecoded : Py.decodeUtf8 p.bytes = some p.payload := Py.decodeUtf8_encodeUtf8 p.payload
    unfold decodeRecord
    rw [hwhole, if_neg (Nat.not_lt.2 hsize), hdecoded]
    dsimp only
    rw [if_neg p.stripAscii_ne]
    rfl
  · have hstatus : statusIssue (if i + 1 = past.length then 1 else 0) p.bytes.size maximumSize =
        some .invalidValue := by
      unfold statusIssue
      rw [if_neg hlast, if_pos (by decide)]
    rw [hstatus, if_neg hlast]
    rfl

end Reader

/-! ## Interleavings with one read -/

/-- Each publication replaces the target once. -/
theorem countP_steps : ∀ publications : List (Publication publisher),
    (publications.flatMap Publication.steps).countP PublishStep.IsReplace = publications.length
  | [] => rfl
  | p :: rest => by
    rw [List.flatMap_cons, List.countP_append, countP_steps rest, List.length_cons, Nat.add_comm]
    rfl

theorem Completed.le_countP {publications : List (Publication publisher)} {steps : List PublishStep} {k : Nat}
    (h : Completed publications steps k) : k ≤ steps.countP PublishStep.IsReplace := by
  have hle := h.2.sublist.countP_le (p := PublishStep.IsReplace)
  rw [countP_steps, List.length_take, min_eq_left h.1] at hle
  exact hle

theorem holds_stateAfter {publications : List (Publication publisher)} {steps : List PublishStep}
    (h : steps <+: publications.flatMap Publication.steps) :
    Holds publisher.targetName ((publications.take (steps.countP PublishStep.IsReplace)).map Publication.bytes)
      (stateAfter steps) ∧
    ((publications.take (steps.countP PublishStep.IsReplace)).map Publication.bytes).length =
      steps.countP PublishStep.IsReplace := by
  have hempty : Settled publisher.targetName [] ({} : FileSystem).directory :=
    ⟨⟨rfl, fun i c hc => nomatch hc⟩, rfl, fun _ _ => rfl⟩
  refine ⟨holds_of_steps hempty h, ?_⟩
  have hle := h.sublist.countP_le (p := PublishStep.IsReplace)
  rw [countP_steps] at hle
  rw [List.length_map, List.length_take, min_eq_left hle]

/-- What a name has led to after more steps. -/
theorem getElem?_payloads {publications : List (Publication publisher)} {i n : Nat} {p : Publication publisher}
    (hp : publications[i]? = some p) (hi : i < n) :
    ((publications.take n).map Publication.bytes)[i]? = some p.bytes := by
  rw [List.getElem?_map, List.getElem?_take_of_lt hi, hp]
  rfl

section OneRead
variable {publications : List (Publication publisher)} {maximumSize : Nat}
variable {before between after rest : List PublishStep}

/-- What a read that starts after a publication ends in: the payload that the target leads to when it is opened, unless
the target is replaced before the reader looks at it. -/
theorem read_interleaving (diagnostics : TelemetrySource) (hsize : ∀ p ∈ publications, p.bytes.size ≤ maximumSize)
    (hsteps : before ++ between ++ after ++ rest <+: publications.flatMap Publication.steps)
    (hstart : Completed publications before 1) : ∃ i p, publications[i]? = some p ∧
      before.countP PublishStep.IsReplace = i + 1 ∧
      (({} : FileSystem).run publisher.targetName maximumSize diagnostics
        (interleaving before between after rest)).reader =
        .finished (if between.countP PublishStep.IsReplace = 0 then
          .returned (some (Py.stripAscii p.payload)) [⟨diagnostics, .filesRead⟩]
        else .returned none [⟨diagnostics, .issue .invalidValue⟩]) := by
  have hstep := hstart.le_countP
  obtain ⟨i, hi⟩ : ∃ i, before.countP PublishStep.IsReplace = i + 1 := ⟨_, (Nat.succ_pred_eq_of_pos hstep).symm⟩
  -- what the target leads to at each of the three steps
  obtain ⟨hread, -⟩ := holds_stateAfter ((List.prefix_append _ _).trans hsteps)
  obtain ⟨hchecked, hlength'⟩ :=
    holds_stateAfter ((List.prefix_append _ _).trans ((List.prefix_append _ _).trans hsteps))
  obtain ⟨hopened, hlength⟩ := holds_stateAfter
    ((List.prefix_append _ _).trans ((List.prefix_append _ _).trans ((List.prefix_append _ _).trans hsteps)))
  have hlt : i < publications.length := by
    rw [List.length_map, List.length_take, hi] at hlength
    omega
  have hp : publications[i]? = some publications[i] := List.getElem?_eq_getElem hlt
  have hname : (stateAfter before).names publisher.targetName = some i := by
    rw [hopened.named, hlength, hi]
    rfl
  have hstarted : ReaderState.next publisher.targetName maximumSize diagnostics (stateAfter before) .start =
      .opened i := by
    unfold ReaderState.next
    dsimp only
    rw [if_pos (targetName_spec publisher).1, hname]
  have hcounts : (before ++ between).countP PublishStep.IsReplace = i + 1 + between.countP PublishStep.IsReplace := by
    rw [List.countP_append, hi]
  have hcounts' : i + 1 + between.countP PublishStep.IsReplace ≤
      (before ++ between ++ after).countP PublishStep.IsReplace := by
    rw [List.countP_append, hcounts]
    exact Nat.le_add_right _ _
  have houtcome := read_outcome diagnostics (hsize _ (List.getElem_mem hlt)) hchecked (getElem?_payloads hp (by omega))
    hread (getElem?_payloads hp (by omega)) publisher.targetName
  refine ⟨i, _, hp, hi, ?_⟩
  rw [reader_interleaving, hstarted, houtcome, hlength', hcounts]
  congr 1
  exact if_congr (by omega) rfl rfl

/-- **One read among any publications**: from an open that some publication precedes, the reader gets the whole payload
that the target leads to then, and no issue, exactly when the target is not replaced before the reader looks at what it
has opened. -/
theorem readsWhole_iff (diagnostics : TelemetrySource) (hsize : ∀ p ∈ publications, p.bytes.size ≤ maximumSize)
    (hsteps : before ++ between ++ after ++ rest <+: publications.flatMap Publication.steps)
    (hstart : Completed publications before 1) : ∃ outcome,
      (({} : FileSystem).run publisher.targetName maximumSize diagnostics
        (interleaving before between after rest)).reader = .finished outcome ∧
      (ReadsWhole publications before outcome ↔ ∀ step ∈ between, step.IsReplace = false) := by
  obtain ⟨i, p, hp, hi, hreader⟩ := read_interleaving diagnostics hsize hsteps hstart
  refine ⟨_, hreader, ?_⟩
  by_cases hkept : between.countP PublishStep.IsReplace = 0
  · rw [if_pos hkept]
    refine iff_of_true ⟨i, p, _, hp, fun k hk => hi ▸ hk.le_countP, rfl, fun source issue hm => ?_⟩
      (fun step hs => Bool.eq_false_iff.2 (List.countP_eq_zero.1 hkept step hs))
    cases List.mem_singleton.1 hm
  · rw [if_neg hkept]
    refine iff_of_false ?_ (fun h => hkept (List.countP_eq_zero.2 (fun step hs => Bool.eq_false_iff.1 (h step hs))))
    rintro ⟨_, _, _, -, -, h, -⟩
    cases h

end OneRead

end

/-! ## A replacement between two steps -/

/-- A publisher that has seen no program. -/
def idlePublisher : MetaliumProfilerPublisher where
  workloadId := "train".toList
  workloadId_ne := train_ne
  layout_valid := layout_two_valid

def idleText (second : String) : Str := ("schema_version=2\nworkload_id=train\nsample_timestamp_seconds=" ++ second ++
  "\nactive=0\nprograms_observed=0\ntensix_cores_used=0\n").toList

def firstPublication : Publication idlePublisher where
  pid := 1
  threadIdent := 1
  summary := {}
  timestamp := 5
  payload := idleText "5"
  composed := by decide +kernel

def secondPublication : Publication idlePublisher where
  pid := 1
  threadIdent := 1
  summary := {}
  timestamp := 6
  payload := idleText "6"
  composed := by decide +kernel

theorem publications_fit : ∀ p ∈ [firstPublication, secondPublication], p.bytes.size ≤ 4096 := by
  rw [List.forall_mem_cons, List.forall_mem_singleton]
  exact ⟨by decide +kernel, by decide +kernel⟩

theorem completed_first : Completed [firstPublication, secondPublication] firstPublication.steps 1 :=
  ⟨by decide, List.prefix_rfl⟩

/-- A read between two publications. -/
theorem readsWhole_between : ∃ outcome,
    (({} : FileSystem).run idlePublisher.targetName 4096 .metaliumProfilerState
      (interleaving firstPublication.steps [] [] secondPublication.steps)).reader = .finished outcome ∧
    ReadsWhole [firstPublication, secondPublication] firstPublication.steps outcome := by
  obtain ⟨outcome, hreader, hwhole⟩ := readsWhole_iff .metaliumProfilerState publications_fit
    (show firstPublication.steps ++ [] ++ [] ++ secondPublication.steps <+: _ from List.prefix_rfl) completed_first
  exact ⟨outcome, hreader, hwhole.2 (fun step hs => nomatch hs)⟩

/-- A read whose file is replaced before it is looked at: nothing is read, and an issue is recorded. -/
theorem replaced_refused : firstPublication.steps ++ secondPublication.steps =
      [firstPublication, secondPublication].flatMap Publication.steps ∧
    Completed [firstPublication, secondPublication] firstPublication.steps 1 ∧
    ∃ outcome, (({} : FileSystem).run idlePublisher.targetName 4096 .metaliumProfilerState
        (interleaving firstPublication.steps secondPublication.steps [] [])).reader = .finished outcome ∧
      outcome = .returned none [⟨.metaliumProfilerState, .issue .invalidValue⟩] ∧
      ¬ ReadsWhole [firstPublication, secondPublication] firstPublication.steps outcome := by
  obtain ⟨i, p, -, -, hreader⟩ := read_interleaving .metaliumProfilerState publications_fit
    (show firstPublication.steps ++ secondPublication.steps ++ [] ++ [] <+: _ from List.prefix_rfl) completed_first
  refine ⟨rfl, completed_first, _, hreader, rfl, ?_⟩
  rintro ⟨_, _, _, -, -, h, -⟩
  cases h

end Tt
