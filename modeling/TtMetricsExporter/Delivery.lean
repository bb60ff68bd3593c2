import TtMetricsExporter.EnumerationOrder
import TtMetricsExporter.ReadBack
import TtMetricsExporter.RoundTrip
import TtMetricsExporter.Schema
import TtMetricsExporter.Utf8
/-!
# Delivery — from a workload's profiler to the text of a scrape

What a publisher has last written for a device, in the file that it writes it to, is what a collection reads there and
what the text of the metrics shows, field for field, under the name of the pod's directory: `ReadBack`, the walk to the
file, the merge of `Workloads` and `RoundTrip`, one after the other.
-/
namespace Tt

open Py (Str strInt)
open Posix (Node Path)
open MetaliumProfilerPublisher

/-! ## The text of the file -/

/-- One line that ends as it stands when white space is removed. -/
structure Closed (value : Str) : Prop where
  nonempty : value ≠ []
  line : ∀ c ∈ value, Py.isLineBreak c = false
  last : ∀ c, value.getLast? = some c → Py.isAsciiSpace c = false

theorem isAsciiSpace_of_not_isSpace {c : Char} (h : Py.isSpace c = false) : Py.isAsciiSpace c = false := by
  by_contra ha
  simp only [Py.isAsciiSpace, Bool.not_eq_false, Bool.or_eq_true, Bool.and_eq_true, decide_eq_true_eq, beq_iff_eq] at ha
  unfold Py.isSpace Py.isSpaceCode at h
  simp only [Bool.or_eq_false_iff, Bool.and_eq_false_iff, decide_eq_false_iff_not, beq_eq_false_iff_ne] at h
  omega

theorem closed_label {maximum : Nat} {value : Str} (h : TrimmedLabel maximum value) : Closed value := by
  refine ⟨h.nonempty, fun c hc => ?_, fun c hc => isAsciiSpace_of_not_isSpace ?_⟩
  · have hp := h.printable c hc
    simp only [Py.isLineBreak, Bool.or_eq_false_iff, Bool.and_eq_false_iff, decide_eq_false_iff_not,
      beq_eq_false_iff_ne]
    omega
  · rw [← h.trimmed] at hc
    exact Py.getLast_stripBy hc

theorem closed_strInt (n : Int) : Closed (strInt n) := by
  obtain ⟨sign, body, he, -, hne, hd, -, -⟩ := strInt_parts n
  refine ⟨?_, strInt_line, fun c hc => isAsciiSpace_of_not_isSpace (isSpace_of_isAsciiDigit (hd c ?_))⟩
  · rw [he]
    exact List.append_ne_nil_of_right_ne_nil _ hne
  · rw [he, List.getLast?_append_of_ne_nil _ hne] at hc
    exact List.mem_of_getLast? hc

theorem stateValue_of_line {value : Str} (h : ∀ c ∈ value, Py.isLineBreak c = false) : stateValue value = value := by
  have hreplace : ∀ {c : Char}, Py.isLineBreak c = true → Py.replaceChar c [' '] value = value := by
    intro c hc
    have hne : ∀ d ∈ value, d ≠ c := fun d hd he => by rw [← he, h d hd] at hc; cases hc
    unfold Py.replaceChar
    rw [List.flatMap_congr (g := fun d => [d]) (fun d hd => if_neg (hne d hd))]
    simp
  unfold stateValue
  rw [hreplace rfl, hreplace rfl]

theorem splitlines_of_line {value : Str} (hne : value ≠ []) (h : ∀ c ∈ value, Py.isLineBreak c = false) :
    Py.splitlines value = [value] ∧ Py.splitlines (value ++ ['\n']) = [value] := by
  have hnewline : Py.splitlines ['\n'] = [[]] := rfl
  have hline := Py.splitlines_append hnewline h
  rw [List.append_nil] at hline
  refine ⟨?_, hline⟩
  obtain ⟨before, c, rfl⟩ := List.eq_nil_or_concat value |>.resolve_left hne
  rw [List.concat_eq_append] at h ⊢
  have hc : Py.isLineBreak c = false := h c (List.mem_append_right _ (List.mem_singleton.2 rfl))
  have hone : Py.splitlines [c] = [[c]] := by
    rw [Py.splitlines_cons (.inr (by simp)), hc]
    rfl
  exact Py.splitlines_append hone (fun d hd => h d (List.mem_append_left _ hd))

/-- The last newline of a file makes no difference. -/
theorem splitlines_records {value : Str} (hne : value ≠ []) (h : ∀ c ∈ value, Py.isLineBreak c = false) :
    ∀ fields : List (Str × Str), Py.splitlines (fields.flatMap recordLine ++ value) =
      Py.splitlines (fields.flatMap recordLine ++ value ++ ['\n'])
  | [] => (splitlines_of_line hne h).1.trans (splitlines_of_line hne h).2.symm
  | field :: rest => by
    have hsplit : ∀ later : Str, (field :: rest).flatMap recordLine ++ later =
        (field.1 ++ '=' :: stateValue field.2) ++ '\n' :: (rest.flatMap recordLine ++ later) := by
      intro later
      simp [recordLine]
    rw [List.append_assoc, hsplit, hsplit, Py.splitlines_append_newline,
      Py.splitlines_append_newline _ (rest.flatMap recordLine ++ (value ++ ['\n'])), splitlines_records hne h rest,
      List.append_assoc (rest.flatMap recordLine)]

section Text
variable {self : MetaliumProfilerPublisher} {summary : ProfilerSummary} {timestamp : Int} {text : Str}

theorem closed_recordFields (h : WellLabelled self) : ∀ field ∈ self.recordFields summary timestamp, Closed field.2 := by
  intro field hf
  rcases mem_recordFields hf with ⟨n, hn⟩ | hlabel
  · rw [hn]
    exact closed_strInt n
  · obtain ⟨_, hlabel⟩ := h.labels _ hlabel
    exact closed_label hlabel

/-- A payload is its text between white space, and a newline. -/
theorem payload_body (h : WellLabelled self) (hp : self.payload summary timestamp = some text) :
    text = Py.stripAscii text ++ ['\n'] ∧ Py.splitlines (Py.stripAscii text) = Py.splitlines text := by
  obtain ⟨-, rfl⟩ := payload_eq_some.1 hp
  obtain ⟨fields, last, hfields⟩ : ∃ fields last, self.recordFields summary timestamp = fields ++ [last] := by
    rcases List.eq_nil_or_concat (self.recordFields summary timestamp) with hnil | ⟨fields, last, hlast⟩
    · rw [recordFields_eq] at hnil
      cases hnil
    · exact ⟨fields, last, hlast.trans List.concat_eq_append⟩
  have hclosed : Closed last.2 := closed_recordFields h last (hfields ▸ List.mem_append_right _ List.mem_cons_self)
  have hkey : ∀ c ∈ last.1, Py.isLineBreak c = false := by
    obtain ⟨-, -, -, hall⟩ := plainKey_recordFields last (hfields ▸ List.mem_append_right _ List.mem_cons_self)
    exact fun c hc => by simpa using List.all_eq_true.1 hall c hc
  have htext : (self.recordFields summary timestamp).flatMap recordLine =
      fields.flatMap recordLine ++ (last.1 ++ '=' :: last.2) ++ ['\n'] := by
    rw [hfields, List.flatMap_append, List.flatMap_singleton, recordLine, stateValue_of_line hclosed.line,
      List.append_assoc (fields.flatMap recordLine)]
  have hlast : ∀ c ∈ last.1 ++ '=' :: last.2, Py.isLineBreak c = false := by
    intro c hc
    rcases List.mem_append.1 hc with hc | hc
    · exact hkey c hc
    · rcases List.mem_cons.1 hc with rfl | hc
      · rfl
      · exact hclosed.line c hc
  have hstrip : Py.stripAscii ((self.recordFields summary timestamp).flatMap recordLine) =
      fields.flatMap recordLine ++ (last.1 ++ '=' :: last.2) := by
    have hhead : ∀ c, (fields.flatMap recordLine ++ (last.1 ++ '=' :: last.2)).head? = some c →
        Py.isAsciiSpace c = false := by
      intro c hc
      have hstart : ((self.recordFields summary timestamp).flatMap recordLine).head? = some 's' := by
        rw [recordFields_eq]
        rfl
      rw [htext, List.head?_append_of_ne_nil _ (by simp), hc] at hstart
      obtain rfl := Option.some.inj hstart
      rfl
    have hend : ∀ c, (fields.flatMap recordLine ++ (last.1 ++ '=' :: last.2)).getLast? = some c →
        Py.isAsciiSpace c = false := by
      intro c hc
      have hvalue : fields.flatMap recordLine ++ (last.1 ++ '=' :: last.2) =
          fields.flatMap recordLine ++ (last.1 ++ ['=']) ++ last.2 := by simp
      rw [hvalue, List.getLast?_append_of_ne_nil _ hclosed.nonempty] at hc
      exact hclosed.last c hc
    have hnewline : ∀ c ∈ ['\n'], Py.isAsciiSpace c = true := by
      intro c hc
      rw [List.mem_singleton.1 hc]
      rfl
    rw [htext]
    exact Py.stripBy_append (fun _ hc => (List.not_mem_nil hc).elim) hnewline hhead hend (by simp)
  rw [hstrip, htext]
  exact ⟨rfl, splitlines_records (by simp) hlast fields⟩

/-- **What is read of the file is parsed like the payload.** -/
theorem parse_stripped (h : WellLabelled self) (hp : self.payload summary timestamp = some text) :
    parseKeyValues (Py.stripAscii text) = parseKeyValues text := by
  obtain ⟨hbody, hlines⟩ := payload_body h hp
  have hnul : '\x00' ∈ Py.stripAscii text ↔ '\x00' ∈ text := by
    refine ⟨Py.mem_of_mem_stripBy, fun hm => ?_⟩
    rw [hbody] at hm
    rcases List.mem_append.1 hm with hm | hm
    · exact hm
    · cases List.mem_singleton.1 hm
  rw [parseKeyValues_eq, parseKeyValues_eq]
  unfold contentFields
  rw [hlines]
  simp only [hnul]

theorem strInt_length {n : Int} (h : n.natAbs < 10 ^ 20) : (strInt n).length ≤ 21 := by
  obtain ⟨sign, body, he, hs, -, -, hb, -⟩ := strInt_parts n
  have hbody : body.length ≤ 20 := by
    rw [hb]
    exact Nat.toDigits_length _ _ _ (by decide) h
  have hsign : sign.length ≤ 1 := by
    simp only [List.mem_cons, List.not_mem_nil, or_false] at hs
    rcases hs with rfl | rfl | rfl <;> simp
  rw [he, List.length_append]
  omega

theorem label_length (h : WellLabelled self) : ∀ field ∈ self.labelFields, field.2.length ≤ maximumPodNameBytes := by
  intro field hf
  obtain ⟨⟨key, label⟩, hm, hf⟩ := List.mem_filterMap.1 hf
  obtain ⟨value, hkept, rfl⟩ := Option.map_eq_some_iff.1 hf
  have hlabel := (Option.filter_eq_some_iff.1 hkept).1
  simp only [List.mem_cons, Prod.mk.injEq, List.not_mem_nil, or_false] at hm
  rcases hm with ⟨-, rfl⟩ | ⟨-, rfl⟩ | ⟨-, rfl⟩
  · exact (h.podNamespace value hlabel).short.trans (by decide)
  · exact (h.podName value hlabel).short
  · exact (h.containerName value hlabel).short.trans (by decide)

theorem value_length (h : WellLabelled self)
    (hnumbers : ∀ field ∈ numberFields summary timestamp, field.2.natAbs < 10 ^ 20) :
    ∀ field ∈ self.recordFields summary timestamp, field.2.length ≤ maximumPodNameBytes := by
  have hnumber : ∀ {n : Int}, n.natAbs < 10 ^ 20 → (strInt n).length ≤ maximumPodNameBytes := fun hn =>
    (strInt_length hn).trans (by decide)
  intro field hf
  unfold recordFields at hf
  rcases List.mem_append.1 hf with hf | hf
  · rcases List.mem_append.1 hf with hf | hf
    · simp only [List.mem_cons, List.not_mem_nil, or_false] at hf
      rcases hf with rfl | rfl
      · show (strInt self.layoutVersion).length ≤ maximumPodNameBytes
        refine hnumber ?_
        rcases self.layout_valid with hl | hl <;> rw [hl] <;> decide
      · exact h.workloadId.short.trans (by decide)
    · obtain ⟨number, hn, rfl⟩ := List.mem_map.1 hf
      exact hnumber (hnumbers number hn)
  · exact label_length h field hf

theorem size_le_length : ∀ s : Str, (Py.encodeUtf8 s).size ≤ 4 * s.length
  | [] => Nat.zero_le _
  | c :: rest => by
    have hrest := size_le_length rest
    have hc := c.utf8Size_le_four
    rw [Py.size_encodeUtf8_cons, List.length_cons]
    omega

/-- **A payload is far smaller than a state file may be.** -/
theorem payload_size (h : WellLabelled self) (hp : self.payload summary timestamp = some text)
    (hnumbers : ∀ field ∈ numberFields summary timestamp, field.2.natAbs < 10 ^ 20) :
    (Py.encodeUtf8 text).size ≤ maximumStateFileBytes := by
  obtain ⟨-, rfl⟩ := payload_eq_some.1 hp
  have hkeys := keys_recordFields self summary timestamp
  have hline : ∀ field ∈ self.recordFields summary timestamp, (recordLine field).length ≤ 279 := by
    intro field hf
    have hshort : ∀ key ∈ recordKeys, key.length ≤ 24 := by decide
    have hkey := hshort _ (hkeys.subset (List.mem_map_of_mem hf))
    have hvalue : field.2.length ≤ 253 := value_length h hnumbers field hf
    rw [recordLine, stateValue_of_line (closed_recordFields h field hf).line]
    simp only [List.length_append, List.length_cons, List.length_nil]
    omega
  have hcount : (self.recordFields summary timestamp).length ≤ 10 := by
    have hlength := hkeys.length_le
    rw [List.length_map] at hlength
    exact hlength
  have htotal : ((self.recordFields summary timestamp).flatMap recordLine).length ≤
      (self.recordFields summary timestamp).length * 279 := by
    have hsum := List.sum_le_card_nsmul ((self.recordFields summary timestamp).map (fun f => (recordLine f).length)) 279
      (fun n hn => by
        obtain ⟨field, hf, rfl⟩ := List.mem_map.1 hn
        exact hline field hf)
    rw [List.length_map, smul_eq_mul] at hsum
    rw [List.length_flatMap]
    exact hsum
  have hbytes := size_le_length ((self.recordFields summary timestamp).flatMap recordLine)
  unfold maximumStateFileBytes
  omega

end Text

/-! ## The walk to the file -/

/-- The directories on a path refuse nothing, from a root on. -/
def Open (fs : Node) (path : Path) : Prop := ∃ entries, fs.at path = some (.directory .free entries)

section Walk
variable {fs : Node} {here : Path} {name : Str}

theorem openDirectory_open (hv : validComponent name = true) (hhere : Open fs here) (hthere : Open fs (here ++ [name]))
    (diagnostics : TelemetrySource) :
    SecureDirectory.openDirectory fs ⟨here⟩ name diagnostics = return some ⟨here ++ [name]⟩ := by
  obtain ⟨entries, hh⟩ := hhere
  obtain ⟨later, ht⟩ := hthere
  rw [Posix.at_child hh] at ht
  unfold SecureDirectory.openDirectory
  rw [if_pos hv, osOpen_of_validComponent fs _ hv, pure_bind]
  dsimp only
  rw [hh]
  unfold Posix.openEntry
  dsimp only [Posix.Access.free]
  rw [ht]
  rfl

theorem openDirectory_absent (hv : validComponent name = true) (hhere : Open fs here)
    (hthere : fs.at (here ++ [name]) = none) (diagnostics : TelemetrySource) :
    SecureDirectory.openDirectory fs ⟨here⟩ name diagnostics = return none := by
  obtain ⟨entries, hh⟩ := hhere
  rw [Posix.at_child hh] at hthere
  unfold SecureDirectory.openDirectory
  rw [if_pos hv, osOpen_of_validComponent fs _ hv, pure_bind]
  dsimp only
  rw [hh]
  unfold Posix.openEntry
  dsimp only [Posix.Access.free]
  rw [hthere]
  rfl

/-- A regular file of its own that refuses nothing. -/
def ownFile (content : ByteArray) : Node := .regular ⟨none, 1, content.size, .ok content⟩

theorem readText_ownFile {text : Str} {maximumSize : Nat} (hv : validComponent name 255 = true) (hhere : Open fs here)
    (hfile : fs.at (here ++ [name]) = some (ownFile (Py.encodeUtf8 text)))
    (hsize : (Py.encodeUtf8 text).size ≤ maximumSize) (hne : Py.stripAscii text ≠ []) (diagnostics : TelemetrySource) :
    SecureDirectory.readText fs ⟨here⟩ name maximumSize diagnostics =
      .returned (some (Py.stripAscii text)) [⟨diagnostics, .filesRead⟩] := by
  obtain ⟨entries, hh⟩ := hhere
  have hlookup := hfile
  rw [Posix.at_child hh] at hlookup
  unfold SecureDirectory.readText
  rw [if_pos hv, osOpen_of_validComponent fs _ hv, pure_bind]
  dsimp only
  rw [hh]
  unfold Posix.openEntry
  dsimp only [Posix.Access.free]
  rw [hlookup]
  show readOpened (fs.at (here ++ [name])) maximumSize diagnostics = _
  rw [hfile]
  have hstatus : statusIssue 1 (Py.encodeUtf8 text).size maximumSize = none := by
    unfold statusIssue
    rw [if_neg (not_not.2 rfl), if_neg (Nat.not_lt.2 hsize)]
  unfold readOpened ownFile
  dsimp only
  rw [hstatus]
  dsimp only
  unfold decodeRecord
  rw [if_neg (Nat.not_lt.2 hsize), Py.decodeUtf8_encodeUtf8]
  dsimp only
  rw [if_neg hne]
  rfl

/-- The first of a device's keys for which there is a directory. -/
theorem firstDeviceDirectory_open {device : DeviceTelemetry} {earlier later : List Str} {key : Str}
    (hkeys : deviceKeys device = earlier ++ key :: later) (hhere : Open fs here)
    (habsent : ∀ k ∈ earlier, fs.at (here ++ [k]) = none) (hthere : Open fs (here ++ [key]))
    (diagnostics : TelemetrySource) :
    StateIngestor.firstDeviceDirectory fs ⟨here⟩ device diagnostics = return some ⟨here ++ [key]⟩ := by
  have hvalid : ∀ k ∈ earlier ++ key :: later, validComponent k = true := by
    rw [← hkeys]
    exact fun k hk => (List.mem_filter.1 hk).2
  unfold StateIngestor.firstDeviceDirectory
  rw [hkeys]
  clear hkeys
  induction earlier with
  | nil =>
    rw [List.nil_append, Tally.first, openDirectory_open (hvalid key List.mem_cons_self) hhere hthere, pure_bind]
  | cons k earlier ih =>
    rw [List.cons_append, Tally.first, openDirectory_absent (hvalid k List.mem_cons_self) hhere
      (habsent k List.mem_cons_self), pure_bind]
    exact ih (fun k' hk' => habsent k' (List.mem_cons_of_mem _ hk')) (fun k' hk' => hvalid k' (List.mem_cons_of_mem _ hk'))

end Walk

/-! ## One pod -/

section Pod
variable {self : MetaliumProfilerPublisher} {fs : Node} {root : SecureDirectory} {pod deviceKey : Str}

/-- The directory under which the pods of a profiler root have theirs. -/
def podsPath (root : SecureDirectory) : Path := root.path ++ ["v2".toList, "workloads".toList]

/-- A tree that holds a record as a pod's snapshot for a device, among not too many pods. -/
structure Delivered (fs : Node) (root : SecureDirectory) (pod deviceKey : Str) (r : WrittenRecord) : Prop where
  pod_valid : validComponent pod maximumWorkloadIdBytes = true
  root_open : Open fs root.path
  v2_open : Open fs (root.path ++ ["v2".toList])
  workloads : ∃ entries, fs.at (podsPath root) = some (.directory .free entries) ∧ entries.length ≤ maximumStateFiles
  pod_open : Open fs (podsPath root ++ [pod])
  device_open : Open fs (podsPath root ++ [pod] ++ [deviceKey])
  snapshot : fs.at (podsPath root ++ [pod] ++ [deviceKey] ++ ["snapshot.state".toList]) =
    some (ownFile (Py.encodeUtf8 r.payload))

theorem openWorkloadRoot_delivered {r : WrittenRecord} (h : Delivered fs root pod deviceKey r) :
    StateIngestor.openWorkloadRoot fs root = return some ⟨podsPath root⟩ := by
  obtain ⟨entries, hworkloads, -⟩ := h.workloads
  have hpods : podsPath root = root.path ++ ["v2".toList] ++ ["workloads".toList] := by
    rw [podsPath, List.append_assoc]
    rfl
  rw [hpods] at hworkloads
  unfold StateIngestor.openWorkloadRoot
  rw [openDirectory_open (by decide) h.root_open h.v2_open, pure_bind, hpods]
  exact openDirectory_open (by decide) h.v2_open ⟨entries, hworkloads⟩ _

theorem mem_listed {r : WrittenRecord} (h : Delivered fs root pod deviceKey r) : pod ∈ listed fs ⟨podsPath root⟩ := by
  obtain ⟨entries, hworkloads, hlength⟩ := h.workloads
  obtain ⟨later, hpod⟩ := h.pod_open
  rw [Posix.at_child hworkloads] at hpod
  have hnames : pod ∈ entries.map Prod.fst := by
    by_contra hm
    rw [Py.lookup_eq_none_iff_notMem.2 hm] at hpod
    cases hpod
  unfold listed SecureDirectory.entries Posix.listdir
  dsimp only
  rw [hworkloads]
  dsimp only [Posix.Access.free]
  rw [if_neg (by rw [List.length_map]; exact Nat.not_lt.2 hlength)]
  exact hnames

theorem numbers_short {r : WrittenRecord} (hsound : SoundRecord self r)
    (hprograms : (r.summary.programsObserved : Int) ≤ int64Max) (htimestamp : r.timestamp ≤ int64Max) :
    ∀ field ∈ numberFields r.summary r.timestamp, field.2.natAbs < 10 ^ 20 := by
  have hmax : int64Max < 10 ^ 20 := by decide
  have hshort : ∀ {n : Int}, 0 ≤ n → n ≤ int64Max → n.natAbs < 10 ^ 20 := by
    intro n h0 hn
    zify
    rw [abs_of_nonneg h0]
    exact lt_of_le_of_lt hn hmax
  have hactive : (r.summary.active : Int) ≤ int64Max := by
    have h1 := hsound.active
    exact le_trans (by exact_mod_cast h1) (show (1 : Int) ≤ int64Max by decide)
  intro field hf
  unfold numberFields at hf
  rcases List.mem_append.1 hf with hf | hf
  · simp only [List.mem_cons, List.not_mem_nil, or_false] at hf
    rcases hf with rfl | rfl | rfl | rfl
    · exact hshort hsound.timestamp htimestamp
    · exact hshort (Int.natCast_nonneg _) hactive
    · exact hshort (Int.natCast_nonneg _) hprograms
    · exact hshort (Int.natCast_nonneg _) hsound.tensixCoresUsed
  · obtain ⟨total, ht, rfl⟩ := Option.map_eq_some_iff.1 (Option.mem_toList.1 hf)
    exact hshort (Int.natCast_nonneg _) (hsound.tensixCoresTotal total ht).2

/-- **The pod's turn yields its record**, under the pod's name. -/
theorem readPod_delivered (ingestor : StateIngestor) (hlabels : WellLabelled self) (hlayout : self.layoutVersion = 2)
    {r : WrittenRecord} (hsound : SoundRecord self r) (h : Delivered fs root pod deviceKey r)
    (hread : IsReadBack ingestor .metaliumProfilerState self r) {device : DeviceTelemetry} {earlier later : List Str}
    (hkeys : deviceKeys device = earlier ++ deviceKey :: later)
    (habsent : ∀ k ∈ earlier, fs.at (podsPath root ++ [pod] ++ [k]) = none) :
    ∃ w, (ingestor.readPod fs device ⟨podsPath root⟩ pod).value =
        some (some (self.workloadId, { w with workloadId := pod })) ∧ PublishedAs self r w ∧
      w.stale = isStale ingestor.staleAfterSeconds ingestor.nowSeconds r.timestamp := by
  obtain ⟨-, hprograms, htimestamp⟩ := (isReadBack_sound hlabels hsound).1 hread
  obtain ⟨w, hparsed, hpublished⟩ := isReadBack_iff.1 hread
  have hsize := payload_size hlabels hsound.payload (numbers_short hsound hprograms htimestamp)
  have hne : Py.stripAscii r.payload ≠ [] := by
    intro hnil
    obtain ⟨hbody, -⟩ := payload_body hlabels hsound.payload
    obtain ⟨-, hpayload⟩ := payload_eq_some.1 hsound.payload
    rw [hnil, hpayload, recordFields_eq] at hbody
    cases hbody
  have htext := readText_ownFile (by decide) h.device_open h.snapshot hsize hne .metaliumProfilerState
  have hcontent : ingestor.parseWorkload (Py.stripAscii r.payload) 2 .metaliumProfilerState =
      ingestor.parseWorkload r.payload self.layoutVersion .metaliumProfilerState := by
    unfold StateIngestor.parseWorkload
    rw [parse_stripped hlabels hsound.payload, hlayout]
    rfl
  have hpods : Open fs (podsPath root) := h.workloads.imp (fun _ he => he.1)
  refine ⟨w, ?_, hpublished, ?_⟩
  · unfold StateIngestor.readPod
    rw [if_neg (by rw [h.pod_valid]; decide), openDirectory_open h.pod_valid hpods h.pod_open, pure_bind]
    dsimp only
    rw [firstDeviceDirectory_open hkeys h.pod_open habsent h.device_open, pure_bind]
    dsimp only
    rw [htext]
    simp only [Tally.value_bind, Tally.value_returned, Option.bind_some]
    rw [hcontent, hparsed]
    simp only [Option.bind_some, Tally.value_pure]
    rw [hpublished.workloadId]
  · obtain ⟨values, record, -, -, -, -, rfl⟩ := parseWorkload_eq_some.1 hparsed
    have hstamp : record.sampleTimestampSeconds = some r.timestamp := hpublished.sampleTimestampSeconds
    dsimp only
    rw [hstamp]
    rfl

end Pod

/-! ## Among the others -/

theorem exported_sublist (v2 : List (Str × Workload)) (legacy : List Workload) :
    (exported v2 legacy).Sublist (sortWorkloads (exportable v2 legacy)) := by
  rw [exported_eq]
  exact (List.take_sublist _ _).trans (Ranked.keepFirst_sublist _ _ _)

/-- A v2 record is exported where there is room and no legacy record has its name. -/
theorem mem_exported_of_v2 {v2 : List (Str × Workload)} {legacy : List Workload}
    (hd : (v2.map (·.2.workloadId)).Nodup) {r : Str × Workload} (hr : r ∈ v2)
    (hlegacy : ∀ l ∈ legacy, l.workloadId ≠ r.2.workloadId) (hroom : v2.length + legacy.length ≤ maximumWorkloads) :
    r.2 ∈ exported v2 legacy := by
  have hmerged := merged_exported v2 legacy
  have hmem : r.2 ∈ v2.map Prod.snd := List.mem_map_of_mem hr
  by_contra hout
  rcases hmerged.complete r.2 (.inl hmem) hout with ⟨hl, -⟩ | ⟨s, hs, hid, -⟩ | ⟨hfull, -⟩
  · exact hlegacy _ hl rfl
  · rcases hmerged.accepted s hs with hv | hl
    · obtain ⟨r', hr', rfl⟩ := List.mem_map.1 hv
      rw [List.inj_on_of_nodup_map hd hr' hr hid] at hs
      exact hout hs
    · exact hlegacy s hl hid
  · -- a full list leaves nothing out where there is room for every record
    have hlength : (sortWorkloads (exportable v2 legacy)).length ≤ (exported v2 legacy).length := by
      have hsorted : (sortWorkloads (exportable v2 legacy)).length = (exportable v2 legacy).length :=
        List.length_insertionSort _ _
      have hfiltered := List.length_filter_le (fun w : Workload => w.workloadId ∉ v2.map Prod.fst) legacy
      rw [hsorted, exportable, List.length_append, List.length_map, hfull]
      exact (Nat.add_le_add_left hfiltered _).trans hroom
    rw [(exported_sublist v2 legacy).eq_of_length_le hlength] at hout
    exact hout ((List.mem_insertionSort _).2 (mem_exportable.2 (.inl hmem)))

/-! ## A collection -/

section Collection
variable {m : Machine} {config : CollectorConfig} {result : CollectionResult}

/-- **The workloads of a collected device** are the ranking of what the profiler root yields under its keys. -/
theorem workloads_of_collect (h : SysfsCollector.collect m config = .ok result) {root : SecureDirectory}
    (hroot : (ingestorOf m config).profilerRoot = some root) : ∀ d ∈ result.devices, d.metaliumWorkloads =
      exported (v2Records m.fs (ingestorOf m config) d root) (legacyRecords m.fs (ingestorOf m config) d root) := by
  have hread : ∀ state, (StateIngestor.openRoots m.fs config m.now).value = some state → ∀ {entry : Str × Node},
      SysfsCollector.entryIsDir m config entry = true → (SysfsCollector.collectDevice m config state entry).Ensures
        (fun d => ∃ v, d = some v ∧ v.metaliumWorkloads =
          exported (v2Records m.fs (ingestorOf m config) v root) (legacyRecords m.fs (ingestorOf m config) v root)) := by
    intro state hstate entry hentry
    obtain rfl := Option.some.inj ((value_openRoots m config).symm.trans hstate)
    unfold SysfsCollector.collectDevice
    rw [if_pos hentry]
    refine .next (fun device => .bind (populate_ensures (P := fun out => out =
      exported (v2Records m.fs (ingestorOf m config) device root) (legacyRecords m.fs (ingestorOf m config) device root))
      m.fs _ device (fun hnone => by rw [hroot] at hnone; cases hnone) (fun d root' hkeys hroot' out hout => ?_)) ?_)
    · obtain rfl := Option.some.inj (hroot.symm.trans hroot')
      rw [value_readWorkloads hout, v2Records_keys _ m.fs hkeys, legacyRecords_keys _ m.fs hkeys]
    · rintro _ ⟨allocation, janitor, tensix, workloads, rfl, hworkloads⟩
      exact .pure ⟨_, rfl, hworkloads⟩
  have hdevices := devices_of_collect (R := fun _ v => v.metaliumWorkloads =
    exported (v2Records m.fs (ingestorOf m config) v root) (legacyRecords m.fs (ingestorOf m config) v root)) hread h
  cases hs : SysfsCollector.scanRoot m config with
  | error e =>
    rw [hs] at hdevices
    rw [hdevices]
    exact fun d hd => nomatch hd
  | ok entries =>
    rw [hs] at hdevices
    obtain ⟨devices, hp, hf⟩ := hdevices
    intro d hd
    exact (forall_mem_iff_of_forall₂ hf (fun _ _ hv => iff_of_true trivial hv)).1 (fun _ _ => trivial) d (hp.mem_iff.1 hd)

/-- **What a collection lists has a name of its own**: its devices, and the workloads of each. -/
theorem names_of_collect (hfs : m.fs.WellFormed) (h : SysfsCollector.collect m config = .ok result) :
    (result.devices.map (fun d => shown (some d.id))).Nodup ∧ ∀ d ∈ result.devices, Sound d := by
  have hdevices := devices_of_collect (fun state _ => collectDevice_ensures hfs state) h
  cases hs : SysfsCollector.scanRoot m config with
  | error e =>
    rw [hs] at hdevices
    rw [hdevices]
    exact ⟨List.nodup_nil, fun d hd => nomatch hd⟩
  | ok entries =>
    rw [hs] at hdevices
    obtain ⟨devices, hp, hf⟩ := hdevices
    have hnames := nodup_shown (names_scanRoot hfs hs)
    rw [List.map_map] at hnames
    refine ⟨?_, fun d hd => ?_⟩
    · rw [(hp.map _).nodup_iff, map_eq_of_forall₂ (f := fun e => shown (some e.1)) (fun e d hd => by rw [hd.name]) hf]
      exact hnames.sublist (List.filter_sublist.map _)
    · exact (forall_mem_iff_of_forall₂ hf (fun _ _ hv => iff_of_true trivial hv.sound)).1 (fun _ _ => trivial) d
        (hp.mem_iff.1 hd)

end Collection

/-! ## The text -/

/-- The families of the workloads, each with the value it gives a workload. -/
def workloadFamilies (ratio : Int → Int → Numeral) : List (String × (Workload → Option Str)) := [
  ("tt_metalium_workload_active", fun w => some (flag (!w.stale && w.active.getD 0 != 0))),
  ("tt_metalium_workload_profile_stale", fun w => some (flag w.stale)),
  ("tt_metalium_workload_tensix_cores_used", fun w => if w.stale then none else w.tensixCoresUsed.map strInt),
  ("tt_metalium_workload_tensix_cores_total", fun w => if w.stale then none else w.tensixCoresTotal.map strInt),
  ("tt_metalium_workload_core_occupancy_ratio", occupancy ratio),
  ("tt_metalium_workload_programs_observed", fun w => if w.stale then none else w.programsObserved.map strInt),
  ("tt_metalium_workload_sample_timestamp_seconds", fun w => w.sampleTimestampSeconds.map strInt)]

theorem mem_metrics_workload {ratio : Int → Int → Numeral} {name : String} {value : Workload → Option Str}
    (h : (name, value) ∈ workloadFamilies ratio) : ∃ help, Metric.workload name help value ∈ metrics ratio := by
  have hat : ∀ {metric : Metric} (i : Nat), (metrics ratio)[i]? = some metric → metric ∈ metrics ratio :=
    fun i hi => List.mem_of_getElem? hi
  simp only [workloadFamilies, List.mem_cons, Prod.mk.injEq, List.not_mem_nil, or_false] at h
  rcases h with ⟨rfl, rfl⟩ | ⟨rfl, rfl⟩ | ⟨rfl, rfl⟩ | ⟨rfl, rfl⟩ | ⟨rfl, rfl⟩ | ⟨rfl, rfl⟩ | ⟨rfl, rfl⟩
  · exact ⟨_, hat 32 rfl⟩
  · exact ⟨_, hat 33 rfl⟩
  · exact ⟨_, hat 34 rfl⟩
  · exact ⟨_, hat 35 rfl⟩
  · exact ⟨_, hat 36 rfl⟩
  · exact ⟨_, hat 37 rfl⟩
  · exact ⟨_, hat 38 rfl⟩

theorem flatMap_of_alone {α β : Type} {g : α → List β} {a : α} : ∀ {l : List α}, l.Nodup → a ∈ l →
    (∀ b ∈ l, b ≠ a → g b = []) → l.flatMap g = g a
  | [], _, ha, _ => (List.not_mem_nil ha).elim
  | b :: rest, hd, ha, hnone => by
    obtain ⟨hb, hd⟩ := List.nodup_cons.1 hd
    rw [List.flatMap_cons]
    rcases List.mem_cons.1 ha with rfl | ha
    · have hrest : rest.flatMap g = [] := List.flatMap_eq_nil_iff.2 (fun c hc =>
        hnone c (List.mem_cons_of_mem _ hc) (fun he => hb (he ▸ hc)))
      rw [hrest, List.append_nil]
    · rw [hnone b List.mem_cons_self (fun he => hb (he ▸ ha)), List.nil_append]
      exact flatMap_of_alone hd ha (fun c hc => hnone c (List.mem_cons_of_mem _ hc))

/-- The labels of a workload's samples. -/
def labelsOf (d : DeviceTelemetry) (w : Workload) : List (Str × Str) := Metric.showLabels d (workloadLabels w)

theorem names_of_labelsOf {d d' : DeviceTelemetry} {w w' : Workload} (h : labelsOf d w = labelsOf d' w') :
    shown (some d.id) = shown (some d'.id) ∧ shown (some w.workloadId) = shown (some w'.workloadId) := by
  simp only [labelsOf, Metric.showLabels, deviceLabels, workloadLabels, label, List.cons_append, List.nil_append,
    List.map_cons, List.map_nil, List.cons.injEq, Prod.mk.injEq, true_and, and_true] at h
  exact ⟨h.1, h.2.2.2.2.1⟩

/-- **A workload has its own sample in a family**, or none. -/
theorem samples_of_workload {name help : String} {value : Workload → Option Str} {devices : List DeviceTelemetry}
    (hids : (devices.map (fun d => shown (some d.id))).Nodup) {d : DeviceTelemetry} (hd : d ∈ devices)
    (hnames : (d.metaliumWorkloads.map (fun w => shown (some w.workloadId))).Nodup) {w : Workload}
    (hw : w ∈ d.metaliumWorkloads) :
    ((Metric.workload name help value).family devices).samples.filter (fun s => s.labels = labelsOf d w) =
      (value w).toList.map (fun v => ⟨name.toList, labelsOf d w, v⟩) := by
  have hsamples : ∀ d', (Metric.workload name help value).samples d' = d'.metaliumWorkloads.flatMap (fun w' =>
      (value w').toList.map (fun v => ⟨name.toList, labelsOf d' w', v⟩)) := by
    intro d'
    unfold Metric.workload Metric.listing Metric.samples labelsOf
    simp only [List.map_map]
    induction d'.metaliumWorkloads with
    | nil => rfl
    | cons w' rest ih =>
      rw [List.flatMap_cons, ← ih]
      cases hv : value w' with
      | none => rw [List.filterMap_cons_none (by rw [hv]; rfl)]; rfl
      | some v => rw [List.filterMap_cons_some (by rw [hv]; rfl)]; rfl
  have hown : ∀ d' w', (((value w').toList.map (fun v => (⟨name.toList, labelsOf d' w', v⟩ : Exposition.Sample))).filter
      (fun s => s.labels = labelsOf d w)) = if labelsOf d' w' = labelsOf d w then
        (value w').toList.map (fun v => ⟨name.toList, labelsOf d' w', v⟩) else [] := by
    intro d' w'
    split
    · rename_i he
      exact List.filter_eq_self.2 (fun s hs => by
        obtain ⟨v, -, rfl⟩ := List.mem_map.1 hs
        exact decide_eq_true he)
    · rename_i hne
      exact List.filter_eq_nil_iff.2 (fun s hs => by
        obtain ⟨v, -, rfl⟩ := List.mem_map.1 hs
        exact fun ht => hne (of_decide_eq_true ht))
  show (devices.flatMap (Metric.workload name help value).samples).filter _ = _
  rw [List.filter_flatMap, flatMap_of_alone (List.Nodup.of_map _ hids) hd, hsamples, List.filter_flatMap,
    flatMap_of_alone (List.Nodup.of_map _ hnames) hw, hown, if_pos rfl]
  · intro w' hw' hne
    rw [hown, if_neg (fun he => hne (List.inj_on_of_nodup_map hnames hw' hw (names_of_labelsOf he).2))]
  · intro d' hd' hne
    rw [hsamples, List.filter_flatMap, List.flatMap_eq_nil_iff]
    intro w' hw'
    rw [hown, if_neg (fun he => hne (List.inj_on_of_nodup_map hids hd' hd (names_of_labelsOf he).1))]

/-- The family of a name among those of a body, and what it shows of a workload. -/
def Shows (fs : List Exposition.Family) (name : String) (labels : List (Str × Str)) (value : Option Str) : Prop :=
  ∃ f, fs.filter (fun f => f.name = name.toList) = [f] ∧
    f.samples.filter (fun s => s.labels = labels) = value.toList.map (fun v => ⟨name.toList, labels, v⟩)

theorem shows_workload {ratio : Int → Int → Numeral} {number : Rat → Numeral} {status : RuntimeStatus}
    {build : BuildInfo} {now : Rat} {devices : List DeviceTelemetry}
    (hids : (devices.map (fun d => shown (some d.id))).Nodup) {d : DeviceTelemetry} (hd : d ∈ devices)
    (hsound : Sound d) {w : Workload} (hw : w ∈ d.metaliumWorkloads) :
    ∀ family ∈ workloadFamilies ratio, Shows (families ratio devices ++ status.families number build now) family.1
      (labelsOf d w) (family.2 w) := by
  rintro ⟨name, value⟩ hf
  obtain ⟨help, hm⟩ := mem_metrics_workload hf
  have hmem : (Metric.workload name help value).family devices ∈
      families ratio devices ++ status.families number build now :=
    List.mem_append_left _ (List.mem_cons_of_mem _ (List.mem_map_of_mem hm))
  exact ⟨_, Exposition.filter_key_eq Exposition.Family.name (body_names_nodup ratio number status build now devices) hmem,
    samples_of_workload hids hd hsound.workloads hw⟩

/-! ## From the publisher to the scrape -/

/-- What a scrape shows of a record: the value in each family, or none. -/
def shownRecord (ratio : Int → Int → Numeral) (r : WrittenRecord) (stale : Bool) : List (String × Option Str) :=
  let fresh (value : Option Str) := if stale then none else value
  [("tt_metalium_workload_active", some (flag (!stale && r.summary.active != 0))),
    ("tt_metalium_workload_profile_stale", some (flag stale)),
    ("tt_metalium_workload_tensix_cores_used", fresh (some (strInt r.summary.tensixCoresUsed))),
    ("tt_metalium_workload_tensix_cores_total", fresh (r.summary.tensixCoresTotal.map (fun total : Nat => strInt total))),
    ("tt_metalium_workload_core_occupancy_ratio",
      fresh (r.summary.tensixCoresTotal.map (fun total : Nat => (ratio r.summary.tensixCoresUsed total).text))),
    ("tt_metalium_workload_programs_observed", fresh (some (strInt r.summary.programsObserved))),
    ("tt_metalium_workload_sample_timestamp_seconds", some (strInt r.timestamp))]

/-- The labels a scrape shows with it: the device's, the pod's name and those of the publisher. -/
def shownLabels (self : MetaliumProfilerPublisher) (d : DeviceTelemetry) (pod : Str) : List (Str × Str) :=
  Metric.showLabels d [label "workload_id" (some pod), label "pod_namespace" self.podNamespace,
    label "pod_name" self.podName, label "container_name" self.containerName]

section Shown
variable {self : MetaliumProfilerPublisher} {r : WrittenRecord} {w : Workload}

theorem values_published (hp : PublishedAs self r w) (htotal : r.summary.tensixCoresTotal ≠ some 0)
    (ratio : Int → Int → Numeral) (pod : Str) :
    (workloadFamilies ratio).map (fun family => (family.1, family.2 { w with workloadId := pod })) =
      shownRecord ratio r w.stale := by
  have hactive : (w.active.getD 0 != 0) = (r.summary.active != 0) := by
    rw [hp.active, Option.getD_some]
    cases r.summary.active <;> rfl
  have hoccupancy : occupancy ratio { w with workloadId := pod } = if w.stale then none else
      r.summary.tensixCoresTotal.map (fun total : Nat => (ratio r.summary.tensixCoresUsed total).text) := by
    unfold occupancy
    dsimp only
    rw [hp.tensixCoresUsed, hp.tensixCoresTotal]
    cases ht : r.summary.tensixCoresTotal with
    | none => rw [Option.map_none, Option.map_none, ite_self]
    | some total =>
      have hne : total ≠ 0 := fun h0 => htotal (by rw [ht, h0])
      have hpos : ¬ (total : Int) ≤ 0 := by omega
      simp only [Option.map_some, hpos, or_false]
  unfold workloadFamilies shownRecord
  simp only [List.map_cons, List.map_nil, hactive, hoccupancy]
  simp only [hp.tensixCoresUsed, hp.tensixCoresTotal, hp.programsObserved, hp.sampleTimestampSeconds, Option.map_some,
    Option.map_map]
  rfl

theorem labels_published (hp : PublishedAs self r w) (d : DeviceTelemetry) (pod : Str) :
    labelsOf d { w with workloadId := pod } = shownLabels self d pod := by
  unfold labelsOf shownLabels workloadLabels
  rw [hp.podNamespace, hp.podName, hp.containerName]

end Shown

/-- **What a publisher has last written is what a scrape shows**: in each of its families the pod has the one sample
that its device's record stands for, or none, under the publisher's labels. -/
theorem delivered {self : MetaliumProfilerPublisher} (hlabels : WellLabelled self) (hlayout : self.layoutVersion = 2)
    {inputs : Nat → PublishInput} (hclock : ∀ k, 0 ≤ (inputs k).time) (htime : ∀ k, truncate (inputs k).time ≤ int64Max)
    {steps : List PublisherStep}
    (hfits : ∀ data finishedAt, .publishProfilerData data finishedAt ∈ steps → ∀ chip ∈ data, chip.Fits)
    (hmeasured : ∀ data finishedAt, .publishProfilerData data finishedAt ∈ steps → ∀ chip ∈ data, chip.Measured)
    {deviceKey : Str} {r : WrittenRecord} (hfile : (self.after inputs steps).file deviceKey = some r)
    {m : Machine} (hfs : m.fs.WellFormed) {config : CollectorConfig} {root : SecureDirectory}
    (hroot : (ingestorOf m config).profilerRoot = some root) {pod : Str} (htree : Delivered m.fs root pod deviceKey r)
    {result : CollectionResult} (hcollect : SysfsCollector.collect m config = .ok result) {d : DeviceTelemetry}
    (hd : d ∈ result.devices) {earlier later : List Str} (hkeys : deviceKeys d = earlier ++ deviceKey :: later)
    (habsent : ∀ k ∈ earlier, m.fs.at (podsPath root ++ [pod] ++ [k]) = none)
    (hlegacy : ∀ l ∈ legacyRecords m.fs (ingestorOf m config) d root, l.workloadId ≠ pod)
    (hroom : (v2Records m.fs (ingestorOf m config) d root).length +
      (legacyRecords m.fs (ingestorOf m config) d root).length ≤ maximumWorkloads)
    (ratio : Int → Int → Numeral) (number : Rat → Numeral) (status : RuntimeStatus) (build : BuildInfo) (now : Rat) :
    ∃ shown, Exposition.parse (metricsBody (some (renderPrometheus ratio result.devices))
        (status.renderPrometheus number build now)) = some shown ∧
      ∀ x ∈ shownRecord ratio r (isStale config.metaliumProfilerStaleAfterSeconds m.now r.timestamp),
        Shows shown x.1 (shownLabels self d pod) x.2 := by
  have hr : r ∈ (self.after inputs steps).written := (PublisherState.mem_of_file hfile).1
  have hkeeps := after_keeps self (fun _ => True) (fun _ => True) (fun _ => True) trivial
    (fun k => ⟨hclock k, trivial⟩) (fun data finishedAt hs chip hc => (hfits data finishedAt hs chip hc).keeps)
  have hsoundRecord : SoundRecord self r := (hkeeps.written r hr).1
  have hread : IsReadBack (ingestorOf m config) .metaliumProfilerState self r :=
    (readBack_iff hlabels hclock hfits _ _).2 hmeasured htime r hr
  obtain ⟨w, hpod, hpublished, hstale⟩ :=
    readPod_delivered (ingestorOf m config) hlabels hlayout hsoundRecord htree hread hkeys habsent
  have hlisted : (self.workloadId, { w with workloadId := pod }) ∈ v2Records m.fs (ingestorOf m config) d root := by
    unfold v2Records
    rw [openWorkloadRoot_delivered htree]
    exact List.mem_flatMap.2 ⟨_, List.mem_singleton.2 rfl, List.mem_filterMap.2 ⟨pod, mem_listed htree, by rw [hpod]; rfl⟩⟩
  have hw : { w with workloadId := pod } ∈ d.metaliumWorkloads := by
    rw [workloads_of_collect hcollect hroot d hd]
    exact mem_exported_of_v2 (nodup_v2Records hfs) hlisted hlegacy hroom
  obtain ⟨hids, hsound⟩ := names_of_collect hfs hcollect
  refine ⟨_, (parse_body ratio number status build now result.devices).1, fun x hx => ?_⟩
  have hvalues := values_published hpublished ((isReadBack_sound hlabels hsoundRecord).1 hread).1 ratio pod
  change x ∈ shownRecord ratio r (isStale (ingestorOf m config).staleAfterSeconds (ingestorOf m config).nowSeconds
    r.timestamp) at hx
  rw [← hstale, ← hvalues] at hx
  obtain ⟨family, hfamily, rfl⟩ := List.mem_map.1 hx
  rw [← labels_published hpublished]
  exact shows_workload hids hd (hsound d hd) hw family hfamily

def trainedRecord : WrittenRecord where
  deviceKey := ['0']
  summary := ⟨1, 1, 8, some 64⟩
  timestamp := 0
  payload := ("schema_version=2\nworkload_id=train\nsample_timestamp_seconds=0\nactive=1\nprograms_observed=1\n" ++
    "tensix_cores_used=8\ntensix_cores_total=64\n").toList

/-- A device, and a pod that has trained on it. -/
def trainedTree : Node := .folder [("sys", .folder [("0", .folder [])]),
  ("profiler", .folder [("v2", .folder [("workloads", .folder [("pod-a", .folder [("0", .folder [
    ("snapshot.state", ownFile (Py.encodeUtf8 trainedRecord.payload))])])])])])]

def trainedMachine : Machine := ⟨trainedTree, 5, id⟩
def trainedConfig : CollectorConfig where
  sysfsRoot := ["sys".toList]
  metaliumProfilerStateRoot := some ["profiler".toList]
  metaliumProfilerStaleAfterSeconds := 15

theorem trainedTree_wellFormed : trainedMachine.fs.WellFormed := by
  simp [trainedMachine, trainedTree, Node.folder, Node.WellFormed, Posix.entriesWellFormed, ownFile]
  decide

theorem trainedTree_delivered : Delivered trainedMachine.fs profilerDirectory "pod-a".toList ['0'] trainedRecord where
  pod_valid := by decide
  root_open := ⟨_, rfl⟩
  v2_open := ⟨_, rfl⟩
  workloads := ⟨_, rfl, by decide⟩
  pod_open := ⟨_, rfl⟩
  device_open := ⟨_, rfl⟩
  snapshot := rfl

theorem delivered_trainedTree : ∃ result d, SysfsCollector.collect trainedMachine trainedConfig = .ok result ∧
    d ∈ result.devices ∧ ∀ ratio number status build now,
      ∃ shown, Exposition.parse (metricsBody (some (renderPrometheus ratio result.devices))
          (RuntimeStatus.renderPrometheus number status build now)) = some shown ∧
        ∀ x ∈ shownRecord ratio trainedRecord false, Shows shown x.1 (shownLabels trainer d "pod-a".toList) x.2 := by
  have hc : (SysfsCollector.collect trainedMachine trainedConfig).toOption.map (fun r => r.devices.map deviceKeys) =
      some [[['0']]] := by
    decide +kernel
  obtain ⟨result, hcollect, hdevices⟩ := collected_of_map hc
  obtain ⟨d, hd, hkeys⟩ := List.mem_map.1 (hdevices ▸ List.mem_singleton.2 rfl : [['0']] ∈ result.devices.map deviceKeys)
  have hdata : ∀ {p : ChipRecords → Prop} {data finishedAt},
      .publishProfilerData data finishedAt ∈ [PublisherStep.publishProfilerData [oneProgram 8 64] 0] →
      p (oneProgram 8 64) → ∀ chip ∈ data, p chip := by
    intro p data finishedAt hs hp chip hm
    cases List.mem_singleton.1 hs
    exact List.mem_singleton.1 hm ▸ hp
  have hfirst : deviceKeys d = deviceKeys firstDevice := hkeys
  have hnone : legacyRecords trainedMachine.fs (ingestorOf trainedMachine trainedConfig) d profilerDirectory = [] := by
    rw [legacyRecords_keys _ _ hfirst]
    decide +kernel
  refine ⟨result, d, hcollect, hd, fun ratio number status build now => ?_⟩
  refine @delivered trainer wellLabelled_trainer rfl freshPublisher.inputs (fun _ => le_refl 0) (fun _ => ?time)
    [.publishProfilerData [oneProgram 8 64] 0] (fun _ _ hs => hdata hs (fits_oneProgram (by decide) (by decide)))
    (fun _ _ hs => hdata hs ?measured) ['0'] trainedRecord (by decide +kernel) trainedMachine trainedTree_wellFormed
    trainedConfig profilerDirectory rfl _ trainedTree_delivered result hcollect d hd [] [] hkeys
    (fun _ h => (List.not_mem_nil h).elim) (fun l hl => by rw [hnone] at hl; cases hl) ?room ratio number status build now
  case time =>
    show truncate 0 ≤ int64Max
    decide +kernel
  case measured =>
    intro records hr
    cases hr
    exact ⟨by decide, fun _ => ⟨_, List.mem_cons_self, 64, rfl, by decide⟩⟩
  case room =>
    rw [hnone, v2Records_keys _ _ hfirst]
    decide +kernel

end Tt
