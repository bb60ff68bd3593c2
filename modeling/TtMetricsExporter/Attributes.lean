import TtMetricsExporter.Collector
import TtMetricsExporter.Raises
/-!
# Attributes — what the readers yield of a tree, counters aside

Opening and reading never raise: what they yield is a function of the tree, `attributeText` for sysfs and `stateText` below
a state root.  So a reader that parses raises exactly when the text it reads makes its parser raise, and of several
alternatives only those up to the first that yields are read.
-/
namespace Tt

open Py (Str)
open Posix (Node Path Errno)

/-! ## Texts -/

/-- The stripped text of a file's bytes. -/
def recordText (content : ByteArray) (maximumSize : Nat) : Option Str :=
  if maximumSize < content.size then none
  else ((Py.decodeUtf8 content).map Py.stripAscii).filter (· ≠ [])

/-- The text of a sysfs attribute. -/
def attributeText (fs : Node) (path : Path) : Option Str :=
  match Posix.stat fs path with
  | .ok (.regular file) =>
    if maximumSysfsFileBytes < file.size then none
    else match file.openError, file.content with
      | none, .ok content => recordText content maximumSysfsFileBytes
      | _, _ => none
  | _ => none

/-- The text of an opened file of a state root. -/
def openedText (node : Option Node) (maximumSize : Nat) : Option Str :=
  match node with
  | some (.regular file) => match statusIssue file.links file.size maximumSize, file.content with
    | none, .ok content => recordText content maximumSize
    | _, _ => none
  | _ => none

def stateText (fs : Node) (directory : SecureDirectory) (name : Str) (maximumSize : Nat) : Option Str :=
  if validComponent name 255 then
    match Posix.openat fs directory.path name false with
    | .ok path => openedText (fs.at path) maximumSize
    | .error _ => none
  else none

def stateDirectory (fs : Node) (directory : SecureDirectory) (component : Str) : Option SecureDirectory :=
  if validComponent component then
    match Posix.openat fs directory.path component true with
    | .ok path => some ⟨path⟩
    | .error _ => none
  else none

theorem value_decodeRecord (content : ByteArray) (maximumSize : Nat) (diagnostics : TelemetrySource) :
    (decodeRecord content maximumSize diagnostics).value = some (recordText content maximumSize) := by
  unfold decodeRecord recordText
  by_cases hl : maximumSize < content.size
  · simp [hl, recordIssue]
  · cases hd : Py.decodeUtf8 content with
    | none => simp [hl, recordIssue, recordFileRead]
    | some text =>
      by_cases hv : Py.stripAscii text = []
      · simp [hl, hv, recordIssue, recordFileRead, Option.filter]
      · simp [hl, hv, recordFileRead, Option.filter]

theorem value_readText (fs : Node) (path : Path) (diagnostics : TelemetrySource) :
    (SysfsReader.readText fs path diagnostics).value = some (attributeText fs path) := by
  have hissue : ∀ e, (recordReadError e diagnostics).value = some () := by
    intro e
    unfold recordReadError
    split <;> rfl
  unfold SysfsReader.readText attributeText
  cases Posix.stat fs path with
  | error e => simp [hissue]
  | ok node =>
    cases node with
    | regular file =>
      by_cases hl : maximumSysfsFileBytes < file.size
      · simp [hl, recordIssue]
      · simp only [hl, if_false]
        cases file.openError with
        | some e => simp [hissue]
        | none =>
          cases file.content with
          | error e => simp [hissue]
          | ok content => exact value_decodeRecord _ _ _
    | _ => simp [recordIssue]

theorem value_recordOsError (e : Errno) (diagnostics : TelemetrySource) :
    (recordOsError e diagnostics).value = some () := rfl

theorem value_readOpened (node : Option Node) (maximumSize : Nat) (diagnostics : TelemetrySource) :
    (readOpened node maximumSize diagnostics).value = some (openedText node maximumSize) := by
  unfold readOpened openedText
  cases node with
  | none => simp [recordIssue]
  | some node =>
    cases node with
    | regular file =>
      simp only
      cases statusIssue file.links file.size maximumSize with
      | some issue => simp [recordIssue]
      | none =>
        cases file.content with
        | error e => simp [value_recordOsError]
        | ok content => exact value_decodeRecord _ _ _
    | _ => simp [recordIssue]

theorem value_osOpen (fs : Node) (here : Path) {name : Str} {maximum : Nat} (h : validComponent name maximum = true)
    (directoryOnly : Bool) : (osOpen fs here name directoryOnly).value = some (Posix.openat fs here name directoryOnly) := by
  have h0 : '\x00' ∉ name := by
    simp only [validComponent, Bool.and_eq_true, decide_eq_true_eq] at h
    exact h.1.2
  rw [osOpen, if_neg h0]
  rfl

theorem value_stateReadText (fs : Node) (directory : SecureDirectory) (name : Str) (maximumSize : Nat)
    (diagnostics : TelemetrySource) :
    (directory.readText fs name maximumSize diagnostics).value = some (stateText fs directory name maximumSize) := by
  unfold SecureDirectory.readText stateText
  by_cases hc : validComponent name 255 = true
  · rw [if_pos hc, if_pos hc, Tally.value_bind, value_osOpen fs _ hc, Option.bind_some]
    cases Posix.openat fs directory.path name false with
    | ok path => exact value_readOpened _ _ _
    | error e => cases e <;> simp [value_recordOsError]
  · rw [if_neg hc, if_neg hc]
    simp [recordIssue]

theorem value_openDirectory (fs : Node) (directory : SecureDirectory) (component : Str) (diagnostics : TelemetrySource) :
    (directory.openDirectory fs component diagnostics).value = some (stateDirectory fs directory component) := by
  unfold SecureDirectory.openDirectory stateDirectory
  by_cases hc : validComponent component = true
  · rw [if_pos hc, if_pos hc, Tally.value_bind, value_osOpen fs _ hc, Option.bind_some]
    cases Posix.openat fs directory.path component true with
    | ok path => rfl
    | error e => cases e <;> simp [value_recordOsError]
  · rw [if_neg hc, if_neg hc]
    simp [recordIssue]

theorem returns_of_value {α : Type} {x : Reading α} {a : α} (h : x.value = some a) : x.Returns :=
  Tally.returns_iff.2 ⟨a, h⟩

/-! ## Parsed attributes -/

/-- The attribute is missing or has a text that the parser makes a number of. -/
def Yields (fs : Node) (parser : Str → Except PyError (Option Int)) (path : Path) : Prop :=
  ∃ t n, attributeText fs path = some t ∧ parser t = .ok (some n)

theorem returns_parse (fs : Node) (path : Path) (diagnostics : TelemetrySource)
    (parser : Str → Except PyError (Option Int)) :
    (SysfsReader.parse fs path diagnostics parser).Returns ↔ ∀ t, attributeText fs path = some t → (parser t).isOk = true := by
  unfold SysfsReader.parse
  rw [Tally.returns_bind, value_readText]
  simp only [Option.some.injEq, exists_eq_left']
  cases attributeText fs path with
  | none => simp
  | some t =>
    rw [Tally.returns_bind_of (P := True), Tally.returns_lift]
    · simp
    · intro parsed
      cases parsed <;> exact iff_of_true rfl trivial

theorem value_parse_none {fs : Node} {path : Path} {diagnostics : TelemetrySource}
    {parser : Str → Except PyError (Option Int)} (h : ∀ t, attributeText fs path = some t → (parser t).isOk = true) :
    (SysfsReader.parse fs path diagnostics parser).value = some none ↔ ¬ Yields fs parser path := by
  unfold SysfsReader.parse Yields
  rw [Tally.value_bind, value_readText, Option.bind_some]
  cases hat : attributeText fs path with
  | none => simp
  | some t =>
    have ht := h t hat
    cases hp : parser t with
    | error e => rw [hp] at ht; cases ht
    | ok parsed => cases parsed <;> simp [Tally.lift, hp, recordIssue]

/-! ### Integers -/

/-- The attribute's text, if any, is not too long for `int()`. -/
def IntSafe (fs : Node) (path : Path) : Prop := ∀ t, attributeText fs path = some t → ¬ TooLong t

def BoolishSafe (fs : Node) (path : Path) : Prop :=
  ∀ t, attributeText fs path = some t → ¬ TooLong (Py.lowerAscii (Py.strip t))

/-- Of alternative attributes below a root, the ones up to the first that yields an integer are safe. -/
def FirstIntSafe (fs : Node) (root : Path) (names : List Str) : Prop :=
  Tally.FirstSafe (fun name => IntSafe fs (root ++ [name])) (fun name => Yields fs parseInt64 (root ++ [name])) names

def FirstBoolishSafe (fs : Node) (root : Path) (names : List Str) : Prop :=
  Tally.FirstSafe (fun name => BoolishSafe fs (root ++ [name]))
    (fun name => Yields fs parseBoolishInt (root ++ [name])) names

theorem returns_readInt (fs : Node) (path : Path) (diagnostics : TelemetrySource) :
    (SysfsReader.readInt fs path diagnostics).Returns ↔ IntSafe fs path := by
  unfold SysfsReader.readInt IntSafe
  rw [returns_parse]
  simp only [parseInt64_isOk]

theorem returns_readUint (fs : Node) (path : Path) (diagnostics : TelemetrySource) :
    (SysfsReader.readUint fs path diagnostics).Returns := by
  unfold SysfsReader.readUint
  rw [returns_parse]
  exact fun _ _ => rfl

theorem value_readInt_none {fs : Node} {path : Path} {diagnostics : TelemetrySource} (h : IntSafe fs path) :
    (SysfsReader.readInt fs path diagnostics).value = some none ↔ ¬ Yields fs parseInt64 path :=
  value_parse_none (fun t ht => (parseInt64_isOk t).2 (h t ht))

theorem returns_readFirstInt (fs : Node) (root : Path) (names : List Str) (diagnostics : TelemetrySource) :
    (SysfsReader.readFirstInt fs root names diagnostics).Returns ↔ FirstIntSafe fs root names :=
  Tally.returns_first_iff (fun _ => returns_readInt fs _ diagnostics) (fun _ => value_readInt_none) names

theorem value_readFirstInt_none {fs : Node} {root : Path} {names : List Str} {diagnostics : TelemetrySource}
    (h : (SysfsReader.readFirstInt fs root names diagnostics).Returns) :
    (SysfsReader.readFirstInt fs root names diagnostics).value = some none ↔
      ∀ name ∈ names, ¬ Yields fs parseInt64 (root ++ [name]) :=
  Tally.value_first_none (fun _ => returns_readInt fs _ diagnostics) (fun _ => value_readInt_none) h

theorem readFirstInt_ensures (fs : Node) (root : Path) (names : List Str) (diagnostics : TelemetrySource) :
    (SysfsReader.readFirstInt fs root names diagnostics).Ensures
      (fun value => value = none ↔ ∀ name ∈ names, ¬ Yields fs parseInt64 (root ++ [name])) := by
  intro value h
  rw [← value_readFirstInt_none (returns_of_value h), h, Option.some.injEq]

theorem returns_readFirstBoolish (fs : Node) (root : Path) (names : List Str) (diagnostics : TelemetrySource) :
    (SysfsReader.readFirstBoolish fs root names diagnostics).Returns ↔ FirstBoolishSafe fs root names := by
  refine Tally.returns_first_iff (fun name => ?_) (fun name h => ?_) names
  · unfold SysfsReader.readBoolish BoolishSafe
    rw [returns_parse]
    simp only [parseBoolishInt_isOk]
  · exact value_parse_none (fun t ht => (parseBoolishInt_isOk t).2 (h t ht))

theorem value_readFirstText (fs : Node) (root : Path) (names : List Str) (diagnostics : TelemetrySource) :
    (SysfsReader.readFirstText fs root names diagnostics).value =
      some (names.findSome? (fun name => attributeText fs (root ++ [name]))) :=
  Tally.value_first_of (fun _ => value_readText fs _ diagnostics) names

/-! ### Byte values -/

/-- The first token of the attribute's text, with the token after it. -/
def byteTokens (fs : Node) (path : Path) : Option (Str × Str) :=
  (attributeText fs path).bind (fun t => match tokenize t with
    | [] => none
    | token :: rest => some (token, rest.head?.getD []))

def ByteSafe (fs : Node) (path : Path) : Prop := ∀ p, byteTokens fs path = some p → ¬ ByteOverflow p.1 p.2

/-- The attribute's text starts with a byte value. -/
def YieldsBytes (fs : Node) (path : Path) : Prop :=
  ∃ p n, byteTokens fs path = some p ∧ parseByteValue p.1 p.2 = .ok (some n)

/-- Of alternative attributes below a root, the ones up to the first that yields a byte value are safe. -/
def FirstByteSafe (fs : Node) (root : Path) (names : List Str) : Prop :=
  Tally.FirstSafe (fun name => ByteSafe fs (root ++ [name])) (fun name => YieldsBytes fs (root ++ [name])) names

/-- `read_byte`, by the tokens it reads. -/
theorem readByte_value (fs : Node) (path : Path) (diagnostics : TelemetrySource) :
    (SysfsReader.readByte fs path diagnostics).value = match byteTokens fs path with
      | none => some none
      | some p => (parseByteValue p.1 p.2).toOption := by
  unfold SysfsReader.readByte byteTokens
  rw [Tally.value_bind, value_readText, Option.bind_some]
  cases attributeText fs path with
  | none => rfl
  | some t =>
    rw [Option.bind_some]
    show Tally.value (match tokenize t with | [] => _ | token :: rest => _) = _
    cases tokenize t with
    | nil => rfl
    | cons token rest =>
      simp only [Tally.value_bind, Tally.value_lift]
      cases parseByteValue token (rest.head?.getD []) with
      | error e => rfl
      | ok parsed => cases parsed <;> simp [Except.toOption, recordIssue]

theorem returns_readByte (fs : Node) (path : Path) (diagnostics : TelemetrySource) :
    (SysfsReader.readByte fs path diagnostics).Returns ↔ ByteSafe fs path := by
  unfold Tally.Returns ByteSafe
  rw [readByte_value]
  cases byteTokens fs path with
  | none => simp
  | some p =>
    simp only [Option.some.injEq, forall_eq', ← parseByteValue_isOk]
    cases parseByteValue p.1 p.2 <;> simp [Except.toOption, Except.isOk, Except.toBool]

theorem value_readByte_none {fs : Node} {path : Path} {diagnostics : TelemetrySource} (h : ByteSafe fs path) :
    (SysfsReader.readByte fs path diagnostics).value = some none ↔ ¬ YieldsBytes fs path := by
  unfold YieldsBytes
  rw [readByte_value]
  cases hb : byteTokens fs path with
  | none => simp
  | some p =>
    have hp := (parseByteValue_isOk p.1 p.2).2 (h p hb)
    cases hv : parseByteValue p.1 p.2 with
    | error e => rw [hv] at hp; cases hp
    | ok parsed => cases parsed <;> simp [Except.toOption, hv]

theorem returns_readFirstByte (fs : Node) (root : Path) (names : List Str) (diagnostics : TelemetrySource) :
    (SysfsReader.readFirstByte fs root names diagnostics).Returns ↔ FirstByteSafe fs root names :=
  Tally.returns_first_iff (fun _ => returns_readByte fs _ diagnostics) (fun _ => value_readByte_none) names

end Tt
