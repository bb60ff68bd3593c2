import TtMetricsExporter.Accepted
import TtMetricsExporter.KeyValues
import TtMetricsExporter.Publisher
/-!
# Payload — what the exporter reads of a published record

The publisher replaces `\r` and `\n` in a value; the exporter ends a line at every boundary of `splitlines`.  So a value
is read up to its first other boundary, and what comes after it is read as lines of their own: `laterFields`.
-/
namespace Tt

open Py (Str strInt IsAsciiDigit)
open MetaliumProfilerPublisher

/-! ## Numerals -/

theorem isDecimal_of_isAsciiDigit {c : Char} (h : IsAsciiDigit c) : Py.isDecimal c = true := by
  rw [Py.isAsciiDigit_iff] at h
  unfold Py.isDecimal Py.decimalValue Py.digitZeros
  rw [List.find?_cons_of_pos (by simp; omega)]
  rfl

theorem isSpace_of_isAsciiDigit {c : Char} (h : IsAsciiDigit c) : Py.isSpace c = false := by
  rw [Py.isAsciiDigit_iff] at h
  simp only [Py.isSpace, Py.isSpaceCode, Bool.or_eq_false_iff, Bool.and_eq_false_iff, decide_eq_false_iff_not,
    beq_eq_false_iff_ne]
  omega

/-- A numeral is a sign or none before its digits. -/
theorem strInt_parts (n : Int) : ∃ sign body, strInt n = sign ++ body ∧ sign ∈ [[], ['-'], ['+']] ∧ body ≠ [] ∧
    (∀ c ∈ body, IsAsciiDigit c) ∧ body = Nat.toDigits 10 n.natAbs ∧
    (if sign == ['-'] then -(n.natAbs : Int) else n.natAbs) = n := by
  cases n with
  | ofNat n => exact ⟨[], _, rfl, by simp, Nat.toDigits_ne_nil, fun c => Py.isAsciiDigit_of_mem_toDigits, rfl, rfl⟩
  | negSucc n => exact ⟨['-'], _, rfl, by simp, Nat.toDigits_ne_nil, fun c => Py.isAsciiDigit_of_mem_toDigits, rfl, rfl⟩

/-- **A number that `str` writes is read back**, clamped to 64 bits. -/
theorem parseInt64_strInt {n : Int} (h : n.natAbs < 10 ^ Py.maxStrDigits) :
    parseInt64 (strInt n) = .ok (some (min (max n int64Min) int64Max)) := by
  obtain ⟨sign, body, he, hs, hne, hd, hb, hn⟩ := strInt_parts n
  obtain ⟨t, -, ht, hint⟩ := Py.int_of_decimals hs hne (fun c hc => isDecimal_of_isAsciiDigit (hd c hc))
  rw [ht hd, hb, Py.ofDigits_toDigits, ← hb, hn] at hint
  have hlen : ¬ Py.maxStrDigits < body.length := by
    rw [hb, Nat.not_lt]
    exact Nat.toDigits_length _ _ _ (by decide) h
  have hsplit := Py.splitSign_append hs hd
  have hspace : ∀ c ∈ sign ++ body, Py.isSpace c = false := by
    intro c hc
    rcases List.mem_append.1 hc with hc | hc
    · simp only [List.mem_cons, List.not_mem_nil, or_false] at hs
      rcases hs with rfl | rfl | rfl
      · cases hc
      · rw [List.mem_singleton.1 hc]
        rfl
      · rw [List.mem_singleton.1 hc]
        rfl
    · exact isSpace_of_isAsciiDigit (hd c hc)
  have htext : isIntegerText (sign ++ body) = true := by
    unfold isIntegerText
    rw [hsplit]
    simp only [hne, ne_eq, not_false_eq_true, decide_true, Bool.true_and, List.all_eq_true]
    exact fun c hc => isDecimal_of_isAsciiDigit (hd c hc)
  unfold parseInt64
  simp only [he, Py.strip, Py.stripBy_of_none hspace, htext, if_true, hint, if_neg hlen]

/-! ## Fields -/

/-- The lines that a written value takes up. -/
def valueLines (value : Str) : List Str := Py.splitlines (stateValue value ++ ['\n'])

/-- What is read as the value. -/
def firstLine (value : Str) : Str := (valueLines value).headD []

/-- **The fields that are read out of a value**: those of its lines after the first one. -/
def laterFields (value : Str) : List (Str × Str) := (valueLines value).tail.filterMap lineField

/-- A key that is read as it is written. -/
def PlainKey (key : Str) : Prop :=
  key ≠ [] ∧ '=' ∉ key ∧ Py.stripAscii key = key ∧ key.all (fun c => !Py.isLineBreak c) = true

instance (key : Str) : Decidable (PlainKey key) := inferInstanceAs (Decidable (_ ∧ _))

/-- One line of the payload is the field it was written for, and the fields within its value. -/
theorem contentFields_recordLine {key : Str} (hk : PlainKey key) (value rest : Str) :
    contentFields (recordLine (key, value) ++ rest) =
      (key, Py.stripAscii (firstLine value)) :: laterFields value ++ contentFields rest := by
  obtain ⟨hne, heq, hstrip, hbreak⟩ := hk
  have hplain : ∀ c ∈ key ++ ['='], Py.isLineBreak c = false := by
    intro c hc
    rcases List.mem_append.1 hc with hc | hc
    · simpa using List.all_eq_true.1 hbreak c hc
    · rw [List.mem_singleton.1 hc]
      rfl
  obtain ⟨line, lines, hl⟩ : ∃ line lines, valueLines value = line :: lines :=
    List.exists_cons_of_ne_nil (Py.splitlines_ne_nil (by simp))
  have hsplit : Py.splitlines (recordLine (key, value) ++ rest) =
      (key ++ '=' :: line) :: lines ++ Py.splitlines rest := by
    have hfirst := Py.splitlines_append hl hplain
    have htext : recordLine (key, value) ++ rest = (key ++ ['='] ++ stateValue value) ++ '\n' :: rest := by
      simp [recordLine]
    rw [htext, Py.splitlines_append_newline, List.append_assoc, hfirst]
    simp
  have hfield : lineField (key ++ '=' :: line) = some (key, Py.stripAscii line) :=
    lineField_iff.2 ⟨key, line, rfl, heq, hstrip.symm, hne, rfl⟩
  unfold contentFields laterFields firstLine
  rw [hsplit, hl, List.filterMap_append, List.filterMap_cons_some hfield]
  rfl

/-- **The fields of a payload**: each written one, followed by those within its value. -/
theorem contentFields_payload : ∀ {fields : List (Str × Str)}, (∀ f ∈ fields, PlainKey f.1) →
    contentFields (fields.flatMap recordLine) =
      fields.flatMap (fun f => (f.1, Py.stripAscii (firstLine f.2)) :: laterFields f.2)
  | [], _ => rfl
  | (key, value) :: rest, h => by
    rw [List.forall_mem_cons] at h
    rw [List.flatMap_cons, List.flatMap_cons, contentFields_recordLine h.1, contentFields_payload h.2]

/-- A value without a boundary is one line. -/
theorem valueLines_of_line {value : Str} (h : ∀ c ∈ value, Py.isLineBreak c = false) : valueLines value = [value] := by
  have hreplace : ∀ {c : Char}, Py.isLineBreak c = true → Py.replaceChar c [' '] value = value := by
    intro c hc
    have hne : ∀ d ∈ value, d ≠ c := fun d hd he => by rw [← he, h d hd] at hc; cases hc
    unfold Py.replaceChar
    rw [List.flatMap_congr (g := fun d => [d]) (fun d hd => if_neg (hne d hd))]
    simp
  unfold valueLines stateValue
  have hnewline : Py.splitlines ['\n'] = [[]] := rfl
  have hline := Py.splitlines_append hnewline h
  rw [List.append_nil] at hline
  rw [hreplace rfl, hreplace rfl]
  exact hline

theorem strInt_line {n : Int} : ∀ c ∈ strInt n, Py.isLineBreak c = false := by
  intro c hc
  rcases Py.mem_strInt hc with rfl | hd
  · rfl
  · rw [Py.isAsciiDigit_iff] at hd
    simp only [Py.isLineBreak, Bool.or_eq_false_iff, Bool.and_eq_false_iff, decide_eq_false_iff_not,
      beq_eq_false_iff_ne]
    omega

/-- A numeral holds no fields and is read as it is written. -/
theorem lines_strInt (n : Int) : laterFields (strInt n) = [] ∧ Py.stripAscii (firstLine (strInt n)) = strInt n := by
  unfold laterFields firstLine
  rw [valueLines_of_line strInt_line]
  refine ⟨rfl, Py.stripBy_of_none (fun c hc => ?_)⟩
  rcases Py.mem_strInt hc with rfl | hd
  · rfl
  · rw [Py.isAsciiDigit_iff] at hd
    simp only [Py.isAsciiSpace, Bool.or_eq_false_iff, Bool.and_eq_false_iff, decide_eq_false_iff_not,
      beq_eq_false_iff_ne]
    omega

end Tt
