import TtMetricsExporter.DevicesJson
import TtMetricsExporter.Logging
import TtMetricsExporter.Utf8
/-!
# LogRecords — one call of the logger, one line

`Logger.log`.  Values are cut to a number of bytes and fields are kept by their names, and then the record is rendered
as text or as JSON.  Neither rendering lets a newline through: the text one replaces it in the values, where a kept name
holds none, and JSON escapes it everywhere.  The line is spelled out for the one and read back for the other
(`log_framed`).
-/
namespace Tt

open Py (Str strInt LongestPrefix)

/-! ## Records -/

/-- A `datetime` in UTC, of a year that `strftime` does not pad. -/
structure Instant where
  year : Nat
  month : Nat
  day : Nat
  hour : Nat := 0
  minute : Nat := 0
  second : Nat := 0
  microsecond : Nat := 0
  year_range : 1000 ≤ year ∧ year ≤ 9999
  month_range : 1 ≤ month ∧ month ≤ 12
  day_range : 1 ≤ day ∧ day ≤ 31
  time_range : hour < 24 ∧ minute < 60 ∧ second < 60 ∧ microsecond < 1000000

/-- A number, filled up with zeros. -/
def zeroPadded (width n : Nat) : Str := (strInt n).leftpad width '0'

/-- `instant.strftime("%Y-%m-%dT%H:%M:%S.") + f"{instant.microsecond // 1000:03d}Z"` -/
def Instant.text (instant : Instant) : Str :=
  zeroPadded 4 instant.year ++ '-' :: zeroPadded 2 instant.month ++ '-' :: zeroPadded 2 instant.day ++
    'T' :: zeroPadded 2 instant.hour ++ ':' :: zeroPadded 2 instant.minute ++ ':' :: zeroPadded 2 instant.second ++
    '.' :: zeroPadded 3 (instant.microsecond / 1000) ++ ['Z']

/-- `level.name.lower()` -/
def LogLevel.severity : LogLevel → Str
  | .debug => "debug".toList
  | .info => "info".toList
  | .warn => "warn".toList
  | .error => "error".toList

def isFieldChar (c : Char) : Bool :=
  ('A' ≤ c && c ≤ 'Z') || ('a' ≤ c && c ≤ 'z') || ('0' ≤ c && c ≤ '9') || c == '_'

/-- `_FIELD.fullmatch(name)`: what it matches ends with the name, not before a newline at its end. -/
def isField (name : Str) : Bool := 1 ≤ name.length && name.length ≤ 32 && name.all isFieldChar

/-- `_bounded` of a string. -/
def bounded (value : Str) (maximum : Nat) : Str :=
  Py.decodeIgnore ((Py.encodeUtf8 value).data.toList.take maximum)

def contractFields : List Str := ["timestamp".toList, "severity".toList, "event".toList, "message".toList]

/-- The fields that are kept, cut. -/
def keptFields (fields : List (Str × Str)) : List (Str × Str) :=
  (fields.filter (fun field => isField field.1)).map (fun (name, value) => (name, bounded value 256))

/-- `_record`: a field of a name that is taken already takes its place. -/
def logRecord (instant : Instant) (call : LogCall) : List (Str × Str) :=
  (keptFields call.fields).foldl (fun values (name, value) => Py.setItem name value values)
    [("timestamp".toList, instant.text), ("severity".toList, call.level.severity),
      ("event".toList, bounded call.event 64), ("message".toList, bounded call.message 512)]

/-! ## Rendering -/

/-- `escape` -/
def escapeText (value : Str) : Str :=
  Py.replaceChar '\t' ['\\', 't'] (Py.replaceChar '\r' ['\\', 'r'] (Py.replaceChar '\n' ['\\', 'n'] value))

/-- `_render_text`; `none` where a contract field is missing. -/
def renderText (values : List (Str × Str)) : Option Str := do
  let head ← contractFields.mapM (fun name => values.lookup name)
  let details := (values.filter (fun field => field.1 ∉ contractFields)).flatMap (fun (name, value) =>
    ' ' :: name ++ '=' :: escapeText value)
  return Py.join [' '] (head.map escapeText) ++ details

/-- A logger's settings, and what it has written to its stream. -/
structure LogWriter where
  json : Bool := false
  minimum : LogLevel := .info
  output : Str := []
  deriving DecidableEq

/-- The JSON value of a record. -/
def recordJson (values : List (Str × Str)) : Json := .object (values.map (fun (name, value) => (name, .string value)))

namespace LogWriter

def render (self : LogWriter) (values : List (Str × Str)) : Option Str :=
  if self.json then some (recordJson values).dumps else renderText values

/-- `_emit`; `none` where it raises before it writes. -/
def emit (self : LogWriter) (instant : Option Instant) (call : LogCall) : Option LogWriter := do
  let line ← self.render (logRecord (← instant) call)
  return { self with output := self.output ++ (line ++ ['\n']) }

/-- `log`, with what `fromtimestamp` makes of the wall clock, if it does not raise. -/
def log (self : LogWriter) (instant : Option Instant) (call : LogCall) : Option LogWriter :=
  if call.level.value < self.minimum.value then some self else self.emit instant call

end LogWriter

/-! ## Fields -/

/-- One to 32 ASCII letters, digits or underscores. -/
def FieldName (name : Str) : Prop := 1 ≤ name.length ∧ name.length ≤ 32 ∧ ∀ c ∈ name, c.isAlphanum = true ∨ c = '_'

instance (name : Str) : Decidable (FieldName name) := inferInstanceAs (Decidable (_ ∧ _))

theorem isFieldChar_iff {c : Char} : isFieldChar c = true ↔ c.isAlphanum = true ∨ c = '_' := by
  simp only [isFieldChar, Char.isAlphanum, Char.isAlpha, Char.isUpper, Char.isLower, Char.isDigit, Bool.or_eq_true,
    Bool.and_eq_true, decide_eq_true_eq, beq_iff_eq, Char.le_def, UInt32.le_iff_toNat_le]

theorem isField_iff {name : Str} : isField name = true ↔ FieldName name := by
  unfold isField FieldName
  simp only [Bool.and_eq_true, decide_eq_true_eq, List.all_eq_true, isFieldChar_iff, and_assoc]

theorem filter_fieldName (fields : List (Str × Str)) :
    fields.filter (fun field => FieldName field.1) = fields.filter (fun field => isField field.1) :=
  List.filter_congr (fun _ _ => (decide_eq_decide.2 isField_iff.symm).trans (Bool.decide_coe _))

theorem newline_not_mem_name {name : Str} (h : FieldName name) : '\n' ∉ name := by
  intro hm
  rcases h.2.2 _ hm with hc | hc
  · exact absurd hc (by decide)
  · cases hc

/-- New names are set one after the other. -/
theorem foldl_setItem : ∀ (fields values : List (Str × Str)), (values.map Prod.fst ++ fields.map Prod.fst).Nodup →
    fields.foldl (fun values (name, value) => Py.setItem name value values) values = values ++ fields
  | [], values, _ => (List.append_nil values).symm
  | (name, value) :: rest, values, h => by
    have hnew : name ∉ values.map Prod.fst := fun hm =>
      (List.nodup_append.1 h).2.2 _ hm _ List.mem_cons_self rfl
    rw [List.foldl_cons]
    dsimp only
    rw [Py.setItem_of_new hnew, foldl_setItem rest, List.append_assoc]
    · rfl
    · rw [List.map_append, List.append_assoc]
      exact h

/-- **A record of fields with names of their own**: the contract fields, and those that are kept. -/
theorem logRecord_eq {call : LogCall} (instant : Instant) (hdict : (call.fields.map Prod.fst).Nodup)
    (hnames : ∀ field ∈ call.fields, field.1 ∉ contractFields) :
    logRecord instant call = [("timestamp".toList, instant.text), ("severity".toList, call.level.severity),
      ("event".toList, bounded call.event 64), ("message".toList, bounded call.message 512)] ++
        keptFields call.fields := by
  have hkept : (keptFields call.fields).map Prod.fst =
      (call.fields.filter (fun field => isField field.1)).map Prod.fst := by
    unfold keptFields
    rw [List.map_map]
    rfl
  unfold logRecord
  rw [foldl_setItem]
  rw [List.nodup_append, hkept]
  refine ⟨show contractFields.Nodup by decide, (List.filter_sublist.map _).nodup hdict, ?_⟩
  rintro name hname _ hfield rfl
  obtain ⟨field, hf, rfl⟩ := List.mem_map.1 hfield
  exact hnames field (List.mem_of_mem_filter hf) hname

/-! ## Lines -/

/-- A character of a value as a text line shows it. -/
def shownInText (c : Char) : Str :=
  if c = '\n' then ['\\', 'n'] else if c = '\r' then ['\\', 'r'] else if c = '\t' then ['\\', 't'] else [c]

/-- Three replacements, one after the other, are one. -/
theorem escapeText_eq (value : Str) : escapeText value = value.flatMap shownInText := by
  unfold escapeText Py.replaceChar
  rw [List.flatMap_assoc, List.flatMap_assoc]
  refine List.flatMap_congr (fun c _ => ?_)
  unfold shownInText
  by_cases hn : c = '\n'
  · rw [if_pos hn, if_pos hn]
    rfl
  · rw [if_neg hn, if_neg hn, List.flatMap_singleton]
    by_cases hr : c = '\r'
    · rw [if_pos hr, if_pos hr]
      rfl
    · rw [if_neg hr, if_neg hr, List.flatMap_singleton]

theorem newline_not_mem_escapeText (value : Str) : '\n' ∉ escapeText value := by
  rw [escapeText_eq]
  intro hm
  obtain ⟨c, -, hm⟩ := List.mem_flatMap.1 hm
  unfold shownInText at hm
  split_ifs at hm with hn hr ht
  · exact absurd hm (by decide)
  · exact absurd hm (by decide)
  · exact absurd hm (by decide)
  · exact hn (List.mem_singleton.1 hm).symm

theorem newline_not_mem_quote (s : Str) : '\n' ∉ Json.quote s := by
  have hescape : ∀ c : Char, '\n' ∉ Json.escapeChar c := by
    intro c
    have hhex : ∀ n, n < 16 → '\n' ≠ Nat.digitChar n := by decide
    unfold Json.escapeChar
    split_ifs with h1 h2 h3 h4 h5 h6 h7 h8
    all_goals
      simp only [List.mem_cons, List.not_mem_nil, or_false, not_or]
    · decide
    · decide
    · decide
    · decide
    · decide
    · decide
    · decide
    · exact ⟨by decide, by decide, by decide, by decide, hhex _ (by omega), hhex _ (by omega)⟩
    · exact Ne.symm h3
  unfold Json.quote
  simp only [List.mem_cons, List.mem_append, List.mem_flatMap, List.not_mem_nil, or_false, not_or, not_exists, not_and]
  exact ⟨by decide, fun c _ => hescape c, by decide⟩

/-- JSON text of strings is one line. -/
theorem newline_not_mem_dumps (values : List (Str × Str)) : '\n' ∉ (recordJson values).dumps := by
  have hmembers : ∀ values : List (Str × Str),
      '\n' ∉ Json.dumpsMembers (values.map (fun (name, value) => (name, .string value))) := by
    intro values
    induction values with
    | nil => exact List.not_mem_nil
    | cons field rest ih =>
      obtain ⟨name, value⟩ := field
      cases rest with
      | nil =>
        simp only [List.map_cons, List.map_nil, Json.dumpsMembers, Json.dumps, List.mem_append, List.mem_cons, not_or]
        exact ⟨newline_not_mem_quote name, by decide, newline_not_mem_quote value⟩
      | cons next rest =>
        simp only [List.map_cons, Json.dumpsMembers, Json.dumps, List.mem_append, List.mem_cons, not_or] at ih ⊢
        exact ⟨newline_not_mem_quote name, by decide, newline_not_mem_quote value, by decide, ih⟩
  unfold recordJson Json.dumps
  simp only [List.mem_cons, List.mem_append, List.not_mem_nil, or_false, not_or]
  exact ⟨by decide, hmembers values, by decide⟩

/-- What is rendered as text is one line, given that no field's name holds a newline. -/
theorem newline_not_mem_renderText {values : List (Str × Str)} {line : Str} (h : renderText values = some line)
    (hnames : ∀ field ∈ values, '\n' ∉ field.1) : '\n' ∉ line := by
  obtain ⟨head, -, hline⟩ := Option.bind_eq_some_iff.1 h
  obtain rfl := Option.some.inj hline
  have hhead : ∀ texts : List Str, '\n' ∉ Py.join [' '] (texts.map escapeText) := by
    intro texts
    induction texts with
    | nil => exact List.not_mem_nil
    | cons value rest ih =>
      cases rest with
      | nil => exact newline_not_mem_escapeText value
      | cons next rest =>
        simp only [List.map_cons, Py.join, List.mem_append, not_or] at ih ⊢
        exact ⟨⟨newline_not_mem_escapeText value, by decide⟩, ih⟩
  rw [List.mem_append, not_or]
  refine ⟨hhead head, fun hm => ?_⟩
  obtain ⟨⟨name, value⟩, hf, hm⟩ := List.mem_flatMap.1 hm
  simp only [List.mem_append, List.mem_cons] at hm
  rcases hm with (hm | hm) | hm | hm
  · cases hm
  · exact hnames _ (List.mem_of_mem_filter hf) hm
  · cases hm
  · exact newline_not_mem_escapeText value hm

/-- A text line: the contract values, one after the other, and the other fields, each with its name. -/
def textLine (contract : List Str) (kept : List (Str × Str)) : Str :=
  Py.join [' '] (contract.map (·.flatMap shownInText)) ++
    kept.flatMap (fun (name, value) => ' ' :: name ++ '=' :: value.flatMap shownInText)

theorem renderText_eq (timestamp severity event message : Str) {kept : List (Str × Str)}
    (hkept : ∀ field ∈ kept, field.1 ∉ contractFields) :
    renderText ([("timestamp".toList, timestamp), ("severity".toList, severity), ("event".toList, event),
      ("message".toList, message)] ++ kept) = some (textLine [timestamp, severity, event, message] kept) := by
  have hescape : escapeText = (·.flatMap shownInText) := funext escapeText_eq
  have hfilter : ([("timestamp".toList, timestamp), ("severity".toList, severity), ("event".toList, event),
      ("message".toList, message)] ++ kept).filter (fun field => field.1 ∉ contractFields) = kept := by
    rw [List.filter_append, List.filter_eq_self.2 (fun field hf => decide_eq_true (hkept field hf))]
    rfl
  have hhead : contractFields.mapM (fun name => ([("timestamp".toList, timestamp), ("severity".toList, severity),
      ("event".toList, event), ("message".toList, message)] ++ kept).lookup name) =
      some [timestamp, severity, event, message] := rfl
  unfold renderText textLine
  rw [hfilter, hhead, hescape]
  rfl

theorem keptFields_spec (fields : List (Str × Str)) :
    List.Forall₂ (fun field entry => entry.1 = field.1 ∧ LongestPrefix 256 field.2 entry.2)
      (fields.filter (fun field => FieldName field.1)) (keptFields fields) := by
  unfold keptFields
  rw [filter_fieldName, List.forall₂_map_right_iff, List.forall₂_same]
  exact fun field _ => ⟨rfl, Py.decodeIgnore_take _ _⟩

theorem keptFields_names {fields : List (Str × Str)} (hnames : ∀ field ∈ fields, field.1 ∉ contractFields) :
    ∀ field ∈ keptFields fields, FieldName field.1 ∧ field.1 ∉ contractFields := by
  intro field hf
  obtain ⟨g, hg, rfl⟩ := List.mem_map.1 hf
  obtain ⟨hmem, hname⟩ := List.mem_filter.1 hg
  exact ⟨isField_iff.1 hname, hnames g hmem⟩

namespace LogWriter

/-- The two ways to write a record. -/
theorem render_logRecord (self : LogWriter) (instant : Instant) {call : LogCall}
    (hdict : (call.fields.map Prod.fst).Nodup) (hnames : ∀ field ∈ call.fields, field.1 ∉ contractFields) :
    ∃ line, self.render (logRecord instant call) = some line ∧ '\n' ∉ line ∧
      (self.json = false → line = textLine [instant.text, call.level.severity, bounded call.event 64,
        bounded call.message 512] (keptFields call.fields)) ∧
      (self.json = true → Json.parse line = some (recordJson (logRecord instant call))) := by
  have hkept := keptFields_names hnames
  have hrecord := logRecord_eq instant hdict hnames
  unfold render
  cases self.json with
  | true =>
    have hread := Json.parse_dumps (recordJson (logRecord instant call)) (List.forall_mem_nil _)
    rw [List.append_nil] at hread
    exact ⟨_, rfl, newline_not_mem_dumps _, fun h => (nomatch h), fun _ => hread⟩
  | false =>
    have hnewline : ∀ field ∈ logRecord instant call, '\n' ∉ field.1 := by
      have hcontract : ∀ name ∈ contractFields, '\n' ∉ name := by decide
      intro field hf
      rw [hrecord] at hf
      rcases List.mem_append.1 hf with hf | hf
      · exact hcontract _ (List.mem_map_of_mem hf)
      · exact newline_not_mem_name (hkept field hf).1
    have hline := renderText_eq instant.text call.level.severity (bounded call.event 64) (bounded call.message 512)
      (fun field hf => (hkept field hf).2)
    rw [← hrecord] at hline
    exact ⟨_, hline, newline_not_mem_renderText hline hnewline, fun _ => rfl, fun h => (nomatch h)⟩

/-- **A call of the logger writes one line**: of the contract fields and exactly those others whose names are field names,
each text cut to the longest prefix that fits.  A text line shows them one after the other; a JSON line is read back as
the record of them. -/
theorem log_framed (self : LogWriter) (instant : Instant) (call : LogCall)
    (hlevel : self.minimum.value ≤ call.level.value) (hdict : (call.fields.map Prod.fst).Nodup)
    (hnames : ∀ field ∈ call.fields, field.1 ∉ contractFields) :
    ∃ line event message kept,
      self.log (some instant) call = some { self with output := self.output ++ (line ++ ['\n']) } ∧ '\n' ∉ line ∧
      (self.json = false → line = textLine [instant.text, call.level.severity, event, message] kept) ∧
      (self.json = true → Json.parse line = some (recordJson ([("timestamp".toList, instant.text),
        ("severity".toList, call.level.severity), ("event".toList, event), ("message".toList, message)] ++ kept))) ∧
      LongestPrefix 64 call.event event ∧ LongestPrefix 512 call.message message ∧
      List.Forall₂ (fun field entry => entry.1 = field.1 ∧ LongestPrefix 256 field.2 entry.2)
        (call.fields.filter (fun field => FieldName field.1)) kept := by
  obtain ⟨line, hline, hframed, htext, hjson⟩ := render_logRecord self instant hdict hnames
  have hlog : self.log (some instant) call = some { self with output := self.output ++ (line ++ ['\n']) } := by
    unfold log emit
    rw [if_neg (Nat.not_lt.2 hlevel), Option.bind_eq_bind, Option.bind_some, hline]
    rfl
  exact ⟨line, bounded call.event 64, bounded call.message 512, keptFields call.fields, hlog, hframed, htext,
    logRecord_eq instant hdict hnames ▸ hjson, Py.decodeIgnore_take _ _, Py.decodeIgnore_take _ _,
    keptFields_spec call.fields⟩

/-- A message of two lines, and a field whose name is none. -/
def twoLines : LogCall where
  level := .info
  event := "event".toList
  message := "line\nmessage".toList
  boundedKey := []
  fields := [("valid_field".toList, "kept".toList), ("bad-name".toList, "ignored".toList)]

/-- The start of 1970. -/
def epoch : Instant where
  year := 1970
  month := 1
  day := 1
  year_range := by decide
  month_range := by decide
  day_range := by decide
  time_range := by decide

def twoLinesText : Str := "1970-01-01T00:00:00.000Z info event line\\nmessage valid_field=kept".toList

/-- In both modes. -/
theorem log_framed_twoLines :
    (∃ line, ({} : LogWriter).log (some epoch) twoLines = some { output := line ++ ['\n'] } ∧ '\n' ∉ line ∧
      line = twoLinesText) ∧
    ∃ line values, ({ json := true } : LogWriter).log (some epoch) twoLines =
      some { json := true, output := line ++ ['\n'] } ∧ '\n' ∉ line ∧ Json.parse line = some (recordJson values) ∧
      values.length = 5 := by
  refine ⟨?_, ?_⟩
  · obtain ⟨line, _, _, _, hlog, hframed, -⟩ := log_framed {} epoch twoLines (by decide) (by decide) (by decide)
    refine ⟨line, hlog, hframed, ?_⟩
    have hwritten : ({} : LogWriter).log (some epoch) twoLines = some { output := twoLinesText ++ ['\n'] } := by
      decide +kernel
    have houtput := congrArg LogWriter.output (Option.some.inj (hlog.symm.trans hwritten))
    exact (List.append_left_inj ['\n']).1 houtput
  · obtain ⟨line, event, message, kept, hlog, hframed, -, hread, -, -, hkept⟩ :=
      log_framed { json := true } epoch twoLines (by decide) (by decide) (by decide)
    have hone : (twoLines.fields.filter (fun field => isField field.1)).length = 1 := by decide +kernel
    refine ⟨line, _, hlog, hframed, hread rfl, ?_⟩
    rw [List.length_append, ← hkept.length_eq, filter_fieldName, hone]
    rfl

end LogWriter

end Tt
