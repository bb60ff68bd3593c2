import TtMetricsExporter.Readable
import TtMetricsExporter.StatusText
/-!
# Balance — how often a profiler record is counted

`tt_exporter_state_records` reports the accepted records and, as rejected, every issue but staleness.  Each file that
is opened counts once in one of the two.  So does each record that the merge drops as a duplicate, which was counted as
accepted before, each file that its status keeps from being read, and each one without a byte, which holds no record
(`counted_once_iff`).
-/
namespace Tt

open Py (Str)
open Posix (Node Path)
open StateIngestor

/-! ## What is to be counted -/

/-- The file that a name stands for in a directory. -/
def openedFile (fs : Node) (directory : SecureDirectory) (name : Str) : Option Path :=
  (Posix.openat fs directory.path name false).toOption

/-- A pod's snapshot for a device, where it has one. -/
def snapshotFile (fs : Node) (pods : SecureDirectory) (keys : List Str) (podUid : Str) : Option Path :=
  (stateDirectory fs pods podUid).bind (fun pod =>
    (keys.findSome? (stateDirectory fs pod)).bind (fun directory => openedFile fs directory "snapshot.state".toList))

/-- The name of a legacy file. -/
def IsStateFile (filename : Str) : Prop := 6 < filename.length ∧ Py.endsWith ".state".toList filename = true

instance (filename : Str) : Decidable (IsStateFile filename) := inferInstanceAs (Decidable (_ ∧ _))

/-- A legacy file, where its name stands for one. -/
def legacyFile (fs : Node) (directory : SecureDirectory) (filename : Str) : Option Path :=
  if IsStateFile filename then openedFile fs directory filename else none

/-- What the names of a device's snapshots and legacy files stand for. -/
def openedFiles (fs : Node) (root : SecureDirectory) (keys : List Str) : List Path :=
  (workloadDirectory fs root).toList.flatMap (fun pods => (listed fs pods).filterMap (snapshotFile fs pods keys)) ++
    (keys.findSome? (stateDirectory fs root)).toList.flatMap (fun directory =>
      (listed fs directory).filterMap (legacyFile fs directory))

/-- The content of a file whose status lets it be read. -/
def readFile (fs : Node) (path : Path) : Option ByteArray :=
  match fs.at path with
  | some (.regular file) =>
    if statusIssue file.links file.size maximumStateFileBytes = none then file.content.toOption else none
  | _ => none

/-- The snapshots and legacy files of a device that are read, by their contents. -/
def recordFiles (fs : Node) (root : SecureDirectory) (keys : List Str) : List ByteArray :=
  (openedFiles fs root keys).filterMap (readFile fs)

/-- A file that is read and has a byte. -/
def HoldsRecord (fs : Node) (path : Path) : Prop := ∃ content, readFile fs path = some content ∧ content.size ≠ 0

/-! ## Counting -/

/-- An increment of what `tt_exporter_state_records` reports of the profiler's records. -/
def countsRecord (i : Increment) : Bool :=
  i.source = .metaliumProfilerState && match i.counter with
    | .filesRead => false
    | .recordsAccepted => true
    | .issue issue => issue ≠ .staleRecord

/-- Neither an I/O error nor a limit. -/
def Undisturbed (i : Increment) : Prop :=
  i.counter ≠ .issue .permissionDenied ∧ i.counter ≠ .issue .readFailed ∧ i.counter ≠ .issue .cardinalityLimit

/-- What the two values of `tt_exporter_state_records` add up to. -/
def stateRecords (d : SourceDiagnostics) : Nat := d.recordsAccepted + d.rejected

/-- The diagnostics of the profiler's source after some increments. -/
def counted (before : SourceDiagnostics) (w : List Increment) : SourceDiagnostics :=
  ((w.filter (·.source = .metaliumProfilerState)).map (·.counter)).foldl SourceDiagnostics.bump before

theorem rejected_eq (d : SourceDiagnostics) : d.rejected = d.issues .missingRoot + (d.issues .permissionDenied +
    (d.issues .readFailed + (d.issues .invalidValue + (d.issues .oversizedRecord + (d.issues .unsupportedSchema +
      (d.issues .cardinalityLimit + 0)))))) := rfl

theorem stateRecords_bump (d : SourceDiagnostics) (c : Counter) : stateRecords (d.bump c) =
    stateRecords d + if countsRecord ⟨.metaliumProfilerState, c⟩ then 1 else 0 := by
  unfold stateRecords
  cases c with
  | filesRead => rfl
  | recordsAccepted =>
    show d.recordsAccepted + 1 + d.rejected = d.recordsAccepted + d.rejected + 1
    omega
  | issue i =>
    rw [rejected_eq, rejected_eq]
    cases i <;> simp [SourceDiagnostics.bump, countsRecord] <;> omega

theorem stateRecords_counted (before : SourceDiagnostics) (w : List Increment) :
    stateRecords (counted before w) = stateRecords before + w.countP countsRecord := by
  unfold counted
  induction w generalizing before with
  | nil => rfl
  | cons i w ih =>
    obtain ⟨source, counter⟩ := i
    rw [List.countP_cons]
    by_cases hs : source = .metaliumProfilerState
    · subst hs
      rw [List.filter_cons_of_pos (by simp), List.map_cons, List.foldl_cons, ih, stateRecords_bump, Nat.add_assoc,
        Nat.add_comm (List.countP _ w)]
    · have hno : countsRecord ⟨source, counter⟩ = false := by
        unfold countsRecord
        rw [decide_eq_false hs, Bool.false_and]
      rw [List.filter_cons_of_neg (by simpa using hs), ih, hno]
      rfl

/-! ## Readers -/

/-- A run makes so many increments of what is reported, where nothing disturbs it. -/
abbrev CountsRecords {α : Type} (x : Reading α) (n : Nat) : Prop := x.Counts Undisturbed countsRecord n

theorem counts_recordIssue {issue : CollectionIssue} (h : issue ≠ .staleRecord) :
    CountsRecords (recordIssue .metaliumProfilerState issue) 1 := by
  have hc : countsRecord ⟨.metaliumProfilerState, .issue issue⟩ = true := by simpa [countsRecord] using h
  have hone : CountsRecords (Tally.count ⟨.metaliumProfilerState, .issue issue⟩)
      (if countsRecord ⟨.metaliumProfilerState, .issue issue⟩ then 1 else 0) := .count _
  rw [if_pos hc] at hone
  exact hone

theorem counts_recordOsError (e : Posix.Errno) (n : Nat) : CountsRecords (recordOsError e .metaliumProfilerState) n := by
  unfold recordOsError
  split
  · exact .loud (fun h => h.1 rfl) n
  · exact .loud (fun h => h.2.1 rfl) n

theorem counts_recordFileRead : CountsRecords (recordFileRead .metaliumProfilerState) 0 :=
  Tally.Counts.count (p := countsRecord) ⟨.metaliumProfilerState, .filesRead⟩

/-- An issue ends a reader that yields nothing. -/
theorem counts_refused {α : Type} {issue : CollectionIssue} (h : issue ≠ .staleRecord) :
    CountsRecords (do recordIssue .metaliumProfilerState issue; return (none : Option α)) 1 :=
  (counts_recordIssue h).bind (n := 0) (fun _ _ => .pure none)

theorem counts_decodeRecord (content : ByteArray) (maximumSize : Nat) :
    CountsRecords (decodeRecord content maximumSize .metaliumProfilerState)
      (if (recordText content maximumSize).isNone then 1 else 0) := by
  unfold decodeRecord recordText
  by_cases hl : maximumSize < content.size
  · rw [if_pos hl, if_pos hl]
    exact counts_refused (by decide)
  · rw [if_neg hl, if_neg hl]
    cases Py.decodeUtf8 content with
    | none => exact counts_recordFileRead.bind (n := 1) (fun _ _ => counts_refused (by decide))
    | some text =>
      rw [Option.map_some]
      dsimp only
      by_cases hv : Py.stripAscii text = []
      · rw [if_pos hv, Option.filter_some_neg (by simpa using hv)]
        exact counts_recordFileRead.bind (n := 1) (fun _ _ => counts_refused (by decide))
      · rw [if_neg hv, Option.filter_some_pos (by simpa using hv)]
        exact counts_recordFileRead.bind (n := 0) (fun _ _ => .pure _)

theorem counts_readOpened {node : Option Node} {maximumSize : Nat} {text : Option Str}
    (ht : openedText node maximumSize = text) :
    CountsRecords (readOpened node maximumSize .metaliumProfilerState) (if text.isNone then 1 else 0) := by
  have hrefused : CountsRecords (do recordIssue .metaliumProfilerState .invalidValue; return (none : Option Str)) 1 :=
    counts_refused (by decide)
  unfold readOpened
  unfold openedText at ht
  cases node with
  | none =>
    subst ht
    exact hrefused
  | some node =>
    cases node with
    | regular file =>
      dsimp only at ht ⊢
      cases hs : statusIssue file.links file.size maximumSize with
      | some issue =>
        rw [hs] at ht
        subst ht
        refine counts_refused (fun he => ?_)
        subst he
        unfold statusIssue at hs
        split at hs
        · cases hs
        · split at hs <;> cases hs
      | none =>
        rw [hs] at ht
        cases hc : file.content with
        | error e => exact (counts_recordOsError e _).bind (n := 0) (fun _ _ => .pure none)
        | ok content =>
          rw [hc] at ht
          subst ht
          exact counts_decodeRecord content maximumSize
    | _ =>
      subst ht
      exact hrefused

/-- A reader that opens by name. -/
theorem counts_osOpen {fs : Node} {here : Path} {name : Str} {directoryOnly : Bool} :
    CountsRecords (osOpen fs here name directoryOnly) 0 := by
  unfold osOpen
  split
  · rintro _ _ h -
    cases h
  · exact .pure _

theorem counts_openDirectory {fs : Node} {directory : SecureDirectory} {component : Str}
    (hc : validComponent component = true) :
    CountsRecords (directory.openDirectory fs component .metaliumProfilerState) 0 := by
  unfold SecureDirectory.openDirectory
  rw [if_pos hc]
  refine counts_osOpen.bind (n := 0) (fun r _ => ?_)
  cases r with
  | ok path => exact .pure _
  | error e =>
    cases e <;> first
      | exact .pure _
      | exact (counts_recordOsError _ 0).bind (n := 0) (fun _ _ => .pure none)

/-- A name that stands for a file counts once, unless the file yields a text. -/
theorem counts_readText (fs : Node) (directory : SecureDirectory) {name : Str} (hc : validComponent name 255 = true) :
    CountsRecords (directory.readText fs name maximumStateFileBytes .metaliumProfilerState)
      (if (openedFile fs directory name).isSome ∧ (stateText fs directory name maximumStateFileBytes).isNone then 1
        else 0) := by
  have hopen := value_osOpen fs directory.path hc false
  unfold SecureDirectory.readText openedFile stateText
  rw [if_pos hc, if_pos hc, ← Nat.zero_add (ite _ _ _)]
  refine counts_osOpen.bind (fun r hr => ?_)
  obtain rfl := Option.some.inj (hopen.symm.trans hr)
  cases Posix.openat fs directory.path name false with
  | ok path =>
    have h : CountsRecords (readOpened (fs.at path) maximumStateFileBytes .metaliumProfilerState)
        (if (openedText (fs.at path) maximumStateFileBytes).isNone then 1 else 0) := counts_readOpened rfl
    simpa [Except.toOption] using h
  | error e =>
    cases e <;> first
      | exact .pure _
      | exact (counts_recordOsError _ 0).bind (n := 0) (fun _ _ => .pure none)

theorem counts_firstDeviceDirectory {fs : Node} {directory : SecureDirectory} {device : DeviceTelemetry} :
    CountsRecords (firstDeviceDirectory fs directory device .metaliumProfilerState) 0 := by
  refine Tally.Counts.first (fun key hk => counts_openDirectory ?_)
  exact (List.mem_filter.1 hk).2

theorem counts_openWorkloadRoot {fs : Node} {root : SecureDirectory} : CountsRecords (openWorkloadRoot fs root) 0 := by
  refine (counts_openDirectory (by decide)).bind (n := 0) (fun v2 _ => ?_)
  cases v2 with
  | none => exact .pure _
  | some v2 => exact counts_openDirectory (by decide)

theorem counts_entries {fs : Node} {directory : SecureDirectory} :
    CountsRecords (directory.entries fs maximumStateFiles .metaliumProfilerState) 0 := by
  unfold SecureDirectory.entries
  cases Posix.listdir fs directory.path with
  | error e => exact (counts_recordOsError e 0).bind (n := 0) (fun _ _ => .pure _)
  | ok names =>
    dsimp only
    split
    · have hloud : CountsRecords (recordIssue .metaliumProfilerState .cardinalityLimit) 0 := .loud (fun h => h.2.2 rfl) 0
      exact hloud.bind (n := 0) (fun _ _ => .pure _)
    · exact .pure _

/-- **Parsing counts once**, whatever it makes of the text. -/
theorem counts_parseWorkload {self : StateIngestor} (content : Str) (expectedSchema : Int) :
    CountsRecords (self.parseWorkload content expectedSchema .metaliumProfilerState) 1 := by
  unfold parseWorkload
  cases parseKeyValues content with
  | none => exact counts_refused (by decide)
  | some values =>
    dsimp only
    refine (Tally.Counts.lift _).bind (n := 1) (fun schema _ => ?_)
    split
    · exact counts_refused (by decide)
    · refine (Tally.Counts.lift _).bind (n := 1) (fun workload _ => ?_)
      split
      · exact counts_refused (by decide)
      · have haccepted : CountsRecords (recordAccepted .metaliumProfilerState) 1 :=
          Tally.Counts.count (p := countsRecord) ⟨.metaliumProfilerState, .recordsAccepted⟩
        have hstale : CountsRecords (recordIssue .metaliumProfilerState .staleRecord) 0 :=
          Tally.Counts.count (p := countsRecord) ⟨.metaliumProfilerState, .issue .staleRecord⟩
        split
        · exact hstale.bind (n := 1) (fun _ _ => haccepted.bind (n := 0) (fun _ _ => .pure _))
        · exact haccepted.bind (n := 0) (fun _ _ => .pure _)

section Records
variable {fs : Node} {self : StateIngestor} {device : DeviceTelemetry} {root : SecureDirectory}

theorem openedFile_of_stateText {directory : SecureDirectory} {name : Str} {text : Str}
    (h : stateText fs directory name maximumStateFileBytes = some text) : (openedFile fs directory name).isSome := by
  unfold stateText at h
  unfold openedFile
  split at h
  · cases hp : Posix.openat fs directory.path name false with
    | ok path => rfl
    | error e =>
      rw [hp] at h
      cases h
  · cases h

/-- **A file that is opened counts once**, in reading it or in parsing it. -/
theorem counts_readRecord {α : Type} {directory : SecureDirectory} {name : Str} (hc : validComponent name 255 = true)
    {parse : Str → Reading (Option α)} (hp : ∀ content, CountsRecords (parse content) 1) :
    CountsRecords (do
      match ← directory.readText fs name maximumStateFileBytes .metaliumProfilerState with
      | none => return none
      | some content => parse content) (openedFile fs directory name).toList.length := by
  have htext := value_stateReadText fs directory name maximumStateFileBytes .metaliumProfilerState
  have hread := counts_readText fs directory hc
  cases ht : stateText fs directory name maximumStateFileBytes with
  | none =>
    rw [ht] at htext hread
    have hlen : (openedFile fs directory name).toList.length =
        (if (openedFile fs directory name).isSome ∧ (none : Option Str).isNone then 1 else 0) + 0 := by
      cases openedFile fs directory name <;> rfl
    rw [hlen]
    refine hread.bind (fun t hv => ?_)
    obtain rfl := Option.some.inj (htext.symm.trans hv)
    exact .pure _
  | some text =>
    rw [ht] at htext hread
    obtain ⟨path, hpath⟩ := Option.isSome_iff_exists.1 (openedFile_of_stateText ht)
    rw [hpath] at hread ⊢
    refine hread.bind (n := 1) (fun t hv => ?_)
    obtain rfl := Option.some.inj (htext.symm.trans hv)
    exact hp text

theorem counts_readPod {pods : SecureDirectory} {podUid : Str} (hc : validComponent podUid = true) :
    CountsRecords (self.readPod fs device pods podUid)
      (snapshotFile fs pods (deviceKeys device) podUid).toList.length := by
  unfold readPod snapshotFile
  dsimp only
  rw [if_neg (by rw [show validComponent podUid maximumWorkloadIdBytes = true from hc]; decide), ← Nat.zero_add (List.length _)]
  refine (counts_openDirectory hc).bind (fun pod hv => ?_)
  obtain rfl := Option.some.inj ((value_openDirectory fs pods podUid _).symm.trans hv)
  cases stateDirectory fs pods podUid with
  | none => exact .pure _
  | some pod =>
    dsimp only
    rw [Option.bind_some, ← Nat.zero_add (List.length _)]
    refine counts_firstDeviceDirectory.bind (fun directory hv => ?_)
    obtain rfl := Option.some.inj ((value_firstDeviceDirectory fs pod device _).symm.trans hv)
    cases (deviceKeys device).findSome? (stateDirectory fs pod) with
    | none => exact .pure _
    | some directory =>
      refine counts_readRecord (by decide) (fun content => (counts_parseWorkload content 2).bind (n := 0) (fun w _ => ?_))
      cases w <;> exact .pure _

theorem counts_readLegacyFile {directory : SecureDirectory} {filename : Str}
    (hc : IsStateFile filename → validComponent filename 255 = true) :
    CountsRecords (self.readLegacyFile fs directory filename) (legacyFile fs directory filename).toList.length := by
  unfold readLegacyFile legacyFile
  by_cases h : IsStateFile filename
  · have hkeep : ¬ (filename.length ≤ 6 ∨ Py.endsWith ".state".toList filename = false) := by
      rw [not_or, Nat.not_le, Bool.not_eq_false]
      exact h
    rw [if_neg hkeep, if_pos h]
    exact counts_readRecord (hc h) (fun content => counts_parseWorkload content 1)
  · have hskip : filename.length ≤ 6 ∨ Py.endsWith ".state".toList filename = false := by
      rw [← Nat.not_lt, ← Bool.not_eq_true, ← not_and_or]
      exact h
    rw [if_pos hskip, if_neg h]
    exact .pure _

theorem sum_length_toList {α β : Type} (f : α → Option β) : ∀ (l : List α),
    (l.map (fun a => (f a).toList.length)).sum = (l.filterMap f).length
  | [] => rfl
  | a :: rest => by
    rw [List.map_cons, List.sum_cons, sum_length_toList f rest, List.filterMap_cons]
    cases f a with
    | none => exact Nat.zero_add _
    | some b => exact Nat.add_comm _ _

/-- The names that are looked at are those of components: the pods', and those of legacy files. -/
structure ValidNames (fs : Node) (root : SecureDirectory) (keys : List Str) : Prop where
  pods : ∀ pods, workloadDirectory fs root = some pods → ∀ podUid ∈ listed fs pods, validComponent podUid = true
  legacy : ∀ directory, keys.findSome? (stateDirectory fs root) = some directory →
    ∀ filename ∈ listed fs directory, IsStateFile filename → validComponent filename 255 = true

theorem counts_readV2 (hn : ValidNames fs root (deviceKeys device)) : CountsRecords (self.readV2 fs device root)
    ((workloadDirectory fs root).toList.flatMap (fun pods =>
      (listed fs pods).filterMap (snapshotFile fs pods (deviceKeys device)))).length := by
  unfold readV2
  rw [← Nat.zero_add (List.length _)]
  refine counts_openWorkloadRoot.bind (fun pods hv => ?_)
  obtain rfl := Option.some.inj ((value_openWorkloadRoot fs root).symm.trans hv)
  cases hw : workloadDirectory fs root with
  | none => exact .pure _
  | some pods =>
    unfold readV2Workloads
    rw [Option.toList_some, List.flatMap_singleton, ← sum_length_toList, ← Nat.zero_add (List.sum _)]
    refine counts_entries.bind (fun names hv => ?_)
    obtain rfl := Option.some.inj ((value_entries fs pods).symm.trans hv)
    exact .each (fun podUid hm => counts_readPod (hn.pods pods hw podUid hm))

theorem counts_readLegacy (hn : ValidNames fs root (deviceKeys device)) : CountsRecords (self.readLegacy fs device root)
    (((deviceKeys device).findSome? (stateDirectory fs root)).toList.flatMap (fun directory =>
      (listed fs directory).filterMap (legacyFile fs directory))).length := by
  unfold readLegacy
  rw [← Nat.zero_add (List.length _)]
  refine counts_firstDeviceDirectory.bind (fun directory hv => ?_)
  obtain rfl := Option.some.inj ((value_firstDeviceDirectory fs root device _).symm.trans hv)
  cases hd : (deviceKeys device).findSome? (stateDirectory fs root) with
  | none => exact .pure _
  | some directory =>
    rw [Option.toList_some, List.flatMap_singleton, ← sum_length_toList, ← Nat.zero_add (List.sum _)]
    refine counts_entries.bind (fun names hv => ?_)
    obtain rfl := Option.some.inj ((value_entries fs directory).symm.trans hv)
    exact .each (fun filename hm => counts_readLegacyFile (hn.legacy directory hd filename hm))

/-! ## Merging -/

/-- How many records repeat an identity that was seen before. -/
def repeats (identities : List Str) : List Workload → Nat
  | [] => 0
  | w :: rest => if w.workloadId ∈ identities then 1 + repeats identities rest else
    repeats (w.workloadId :: identities) rest

theorem repeats_eq_zero : ∀ {l : List Workload} {identities : List Str}, repeats identities l = 0 ↔
    (∀ w ∈ l, w.workloadId ∉ identities) ∧ (l.map (·.workloadId)).Nodup
  | [], _ => by simp [repeats]
  | w :: rest, identities => by
    unfold repeats
    rw [List.map_cons, List.nodup_cons, List.forall_mem_cons]
    by_cases h : w.workloadId ∈ identities
    · rw [if_pos h]
      exact iff_of_false (by omega) (fun hn => hn.1.1 h)
    · rw [if_neg h, repeats_eq_zero]
      simp only [List.mem_cons, not_or, List.mem_map, not_exists, not_and]
      constructor
      · rintro ⟨hr, hn⟩
        exact ⟨⟨h, fun v hv => (hr v hv).2⟩, fun v hv he => (hr v hv).1 he, hn⟩
      · rintro ⟨⟨-, hr⟩, hw, hn⟩
        exact ⟨fun v hv => ⟨hw v hv, hr v hv⟩, hn⟩

theorem counts_uniqueWorkloads : ∀ {l : List Workload} {identities : List Str},
    CountsRecords (uniqueWorkloads identities l) (repeats identities l)
  | [], _ => .pure _
  | w :: rest, identities => by
    unfold uniqueWorkloads repeats
    by_cases h : w.workloadId ∈ identities
    · rw [if_pos h, if_pos h]
      exact (counts_recordIssue (by decide)).bind (fun _ _ => counts_uniqueWorkloads)
    · rw [if_neg h, if_neg h]
      exact counts_uniqueWorkloads.bind (n := 0) (fun _ _ => .pure _)

theorem counts_mergeWorkloads {v2 : List (Str × Workload)} {legacy : List Workload} :
    CountsRecords (mergeWorkloads v2 legacy) (repeats [] (sortWorkloads (exportable v2 legacy))) := by
  have hloud : CountsRecords (recordIssue .metaliumProfilerState .cardinalityLimit) 0 := .loud (fun h => h.2.2 rfl) 0
  unfold mergeWorkloads
  refine counts_uniqueWorkloads.bind (n := 0) (fun unique _ => ?_)
  split
  · exact hloud.bind (n := 0) (fun _ _ => .pure _)
  · exact .pure _

variable (self) in
/-- **What a reading counts**: every file that it opens, and every record that it drops as a repetition. -/
theorem counts_readWorkloads (hn : ValidNames fs root (deviceKeys device)) :
    CountsRecords (self.readWorkloads fs device root) ((openedFiles fs root (deviceKeys device)).length +
      repeats [] (sortWorkloads (exportable (v2Records fs self device root) (legacyRecords fs self device root)))) := by
  unfold readWorkloads openedFiles
  rw [List.length_append, Nat.add_assoc]
  refine (counts_readV2 hn).bind (fun v2 hv2 => (counts_readLegacy hn).bind (fun legacy hl => ?_))
  rw [← value_readV2 hv2, ← value_readLegacy hl]
  exact counts_mergeWorkloads

/-! ## Balance -/

variable (fs self device root)

/-- A reading returns, and what is reported of the profiler's records grows by the number of non-empty files read. -/
def CountedOnce : Prop :=
  ∃ out w, self.readWorkloads fs device root = .returned out w ∧ ∀ before : SourceDiagnostics,
    stateRecords (counted before w) = stateRecords before +
      ((recordFiles fs root (deviceKeys device)).filter (fun content => content.size ≠ 0)).length

variable {fs self device root}

theorem length_recordFiles (files : List Path) :
    (((files.filterMap (readFile fs)).filter (fun content => content.size ≠ 0)).length ≤ files.length) ∧
    (((files.filterMap (readFile fs)).filter (fun content => content.size ≠ 0)).length = files.length ↔
      ∀ path ∈ files, HoldsRecord fs path) := by
  rw [List.filter_filterMap]
  refine ⟨List.length_filterMap_le _ _, List.filterMap_length_eq_length.trans ?_⟩
  refine forall_congr' (fun path => forall_congr' (fun _ => ?_))
  unfold HoldsRecord
  cases readFile fs path with
  | none => exact iff_of_false Bool.false_ne_true (fun ⟨_, he, _⟩ => nomatch he)
  | some content =>
    rw [Option.filter_some]
    by_cases h : content.size ≠ 0
    · rw [if_pos (decide_eq_true h)]
      exact iff_of_true rfl ⟨content, rfl, h⟩
    · rw [if_neg (fun hd => h (of_decide_eq_true hd))]
      refine iff_of_false Bool.false_ne_true ?_
      rintro ⟨_, he, hsize⟩
      exact h (Option.some.inj he ▸ hsize)

/-- **Every record is counted once exactly when** no file makes the parser raise, no two records share an identity, and
every file that is opened is read and has a byte. -/
theorem counted_once_iff (hn : ValidNames fs root (deviceKeys device))
    (hq : ∀ out w, self.readWorkloads fs device root = .returned out w → ∀ i ∈ w, Undisturbed i) :
    CountedOnce fs self device root ↔ WorkloadsReadable fs root (deviceKeys device) ∧
      ((exportable (v2Records fs self device root) (legacyRecords fs self device root)).map (·.workloadId)).Nodup ∧
      ∀ path ∈ openedFiles fs root (deviceKeys device), HoldsRecord fs path := by
  have hcount := counts_readWorkloads self hn
  generalize hrecords : exportable (v2Records fs self device root) (legacyRecords fs self device root) = records at hcount ⊢
  unfold CountedOnce recordFiles
  generalize openedFiles fs root (deviceKeys device) = files at hcount ⊢
  have hrepeats : repeats [] (sortWorkloads records) = 0 ↔ (records.map (·.workloadId)).Nodup := by
    rw [repeats_eq_zero]
    refine (and_iff_right (fun w _ => List.not_mem_nil)).trans ?_
    exact ((List.perm_insertionSort _ records).map _).nodup_iff
  obtain ⟨hle, hread⟩ := @length_recordFiles fs files
  rw [← returns_readWorkloads]
  constructor
  · rintro ⟨out, w, hrun, hbalance⟩
    have htotal := hcount out w hrun (hq out w hrun)
    have hb := hbalance {}
    rw [stateRecords_counted, htotal] at hb
    exact ⟨by rw [hrun]; rfl, hrepeats.1 (by omega), hread.1 (by omega)⟩
  · rintro ⟨hreturns, hnodup, hholds⟩
    obtain ⟨out, hout⟩ := Tally.returns_iff.1 hreturns
    obtain ⟨w, hrun⟩ := Tally.exists_returned_of_value hout
    refine ⟨out, w, hrun, fun before => ?_⟩
    rw [stateRecords_counted, hcount out w hrun (hq out w hrun), hrepeats.2 hnodup, hread.2 hholds, Nat.add_zero]

end Records

/-! ## A record that is dropped -/

theorem overtakenTree_validNames : ValidNames overtakenTree profilerDirectory (deviceKeys firstDevice) where
  pods pods h := by
    have hp : workloadDirectory overtakenTree profilerDirectory =
        some ⟨["profiler".toList, "v2".toList, "workloads".toList]⟩ := by decide +kernel
    obtain rfl := Option.some.inj (hp.symm.trans h)
    decide +kernel
  legacy directory h := by
    have hd : (deviceKeys firstDevice).findSome? (stateDirectory overtakenTree profilerDirectory) =
        some ⟨["profiler".toList, "0".toList]⟩ := by decide +kernel
    obtain rfl := Option.some.inj (hd.symm.trans h)
    decide +kernel

instance (i : Increment) : Decidable (Undisturbed i) := inferInstanceAs (Decidable (_ ∧ _))

/-- Two files are read; what is reported adds up to three. -/
theorem overtakenTree_counts : ∃ out w,
    profilerIngestor.readWorkloads overtakenTree firstDevice profilerDirectory = .returned out w ∧
    (∀ i ∈ w, Undisturbed i) ∧ w.countP countsRecord = 3 := by
  have h : (match profilerIngestor.readWorkloads overtakenTree firstDevice profilerDirectory with
    | .raised _ => false
    | .returned _ w => w.all (fun i => decide (Undisturbed i)) && w.countP countsRecord == 3) = true := by
    decide +kernel
  generalize profilerIngestor.readWorkloads overtakenTree firstDevice profilerDirectory = run at h
  cases run with
  | raised e => cases h
  | returned out w =>
    obtain ⟨hq, hc⟩ := Bool.and_eq_true_iff.1 h
    exact ⟨out, w, rfl, fun i hi => of_decide_eq_true (List.all_eq_true.1 hq i hi), eq_of_beq hc⟩

theorem overtakenTree_undisturbed : ∀ out w,
    profilerIngestor.readWorkloads overtakenTree firstDevice profilerDirectory = .returned out w →
    ∀ i ∈ w, Undisturbed i := by
  intro out w h
  obtain ⟨out', w', h', hq, -⟩ := overtakenTree_counts
  obtain ⟨rfl, rfl⟩ := Tally.returned.inj (h'.symm.trans h)
  exact hq

theorem overtakenTree_files : ((recordFiles overtakenTree profilerDirectory (deviceKeys firstDevice)).filter
    (fun content => content.size ≠ 0)).length = 2 := by
  decide +kernel

theorem overtakenTree_not_countedOnce : ¬ CountedOnce overtakenTree profilerIngestor firstDevice profilerDirectory := by
  rintro ⟨out, w, hrun, hbalance⟩
  obtain ⟨out', w', h', -, hc⟩ := overtakenTree_counts
  obtain ⟨rfl, rfl⟩ := Tally.returned.inj (h'.symm.trans hrun)
  have hb := hbalance {}
  rw [stateRecords_counted, hc, overtakenTree_files] at hb
  omega

/-- **A record that the merge drops is counted as accepted and as rejected.** -/
theorem dropped_counted_twice : ValidNames overtakenTree profilerDirectory (deviceKeys firstDevice) ∧
    (∀ out w, profilerIngestor.readWorkloads overtakenTree firstDevice profilerDirectory = .returned out w →
      ∀ i ∈ w, Undisturbed i) ∧
    ¬ CountedOnce overtakenTree profilerIngestor firstDevice profilerDirectory :=
  ⟨overtakenTree_validNames, overtakenTree_undisturbed, overtakenTree_not_countedOnce⟩

theorem counted_once_iff_overtakenTree : ¬ (WorkloadsReadable overtakenTree profilerDirectory (deviceKeys firstDevice) ∧
    ((exportable (v2Records overtakenTree profilerIngestor firstDevice profilerDirectory)
      (legacyRecords overtakenTree profilerIngestor firstDevice profilerDirectory)).map (·.workloadId)).Nodup ∧
    ∀ path ∈ openedFiles overtakenTree profilerDirectory (deviceKeys firstDevice),
      HoldsRecord overtakenTree path) := fun h =>
  overtakenTree_not_countedOnce ((counted_once_iff overtakenTree_validNames overtakenTree_undisturbed).2 h)

end Tt
