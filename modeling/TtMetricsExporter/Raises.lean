import TtMetricsExporter.State
/-!
# Raises — when a parser raises

`int()` refuses a numeral of more than 4300 digits, and a product past the decimal context's range overflows.  Each
parser that lets such an exception through raises exactly on the contents described here: `TooLong` for integers,
`ByteOverflow` for byte values, and what is built from them for mesh dimensions, usage files and state records.
-/
namespace Tt

open Py (Str isDecimal)

/-! ## Integers -/

/-- An integer text of more digits than `int()` accepts. -/
def TooLong (value : Str) : Prop :=
  isIntegerText (Py.strip value) = true ∧ Py.maxStrDigits < (Py.splitSign (Py.strip value)).2.length

instance (value : Str) : Decidable (TooLong value) := inferInstanceAs (Decidable (_ ∧ _))

theorem isOk_bind {α β : Type} (x : Except PyError α) (f : α → Except PyError β) :
    (x >>= f).isOk = true ↔ ∃ a, x = .ok a ∧ (f a).isOk = true := by
  cases x with
  | error e => simp [bind, Except.bind, Except.isOk, Except.toBool]
  | ok a => simp [bind, Except.bind]

/-- A continuation whose success does not depend on the value it is given. -/
theorem isOk_bind_of {α β : Type} {x : Except PyError α} {f : α → Except PyError β} {P : Prop}
    (h : ∀ a, (f a).isOk = true ↔ P) : (x >>= f).isOk = true ↔ x.isOk = true ∧ P := by
  rw [isOk_bind]
  cases x with
  | error e => simp [Except.isOk, Except.toBool]
  | ok a => simp only [Except.ok.injEq, exists_eq_left', h]; simp [Except.isOk, Except.toBool]

/-- **`parse_int64` raises on integer texts that are too long, and on nothing else.** -/
theorem parseInt64_cases (value : Str) :
    (TooLong value ∧ parseInt64 value = .error .valueError) ∨
    (¬ TooLong value ∧ isIntegerText (Py.strip value) = true ∧ ∃ n, parseInt64 value = .ok (some n)) ∨
    (¬ TooLong value ∧ isIntegerText (Py.strip value) = false ∧ parseInt64 value = .ok none) := by
  unfold TooLong parseInt64
  by_cases hi : isIntegerText (Py.strip value) = true
  · have hi' := hi
    simp only [isIntegerText, Bool.and_eq_true, decide_eq_true_eq, List.all_eq_true] at hi'
    obtain ⟨sign, hs, ht⟩ := Py.splitSign_spec (Py.strip value)
    obtain ⟨t, -, -, hint⟩ := Py.int_of_decimals hs hi'.1 hi'.2
    rw [← ht] at hint
    simp only [hi, if_true, true_and, hint]
    by_cases hl : Py.maxStrDigits < (Py.splitSign (Py.strip value)).2.length
    · simp [hl]
    · simp [hl]
  · simp [hi]

theorem parseInt64_isOk (value : Str) : (parseInt64 value).isOk = true ↔ ¬ TooLong value := by
  rcases parseInt64_cases value with ⟨h, he⟩ | ⟨h, -, n, he⟩ | ⟨h, -, he⟩ <;>
    simp [h, he, Except.isOk, Except.toBool]

theorem parseBoolishInt_isOk (value : Str) :
    (parseBoolishInt value).isOk = true ↔ ¬ TooLong (Py.lowerAscii (Py.strip value)) := by
  unfold parseBoolishInt
  simp only
  split
  · rename_i h
    have hw : ∀ w ∈ ["true".toList, "yes".toList, "required".toList, "needed".toList], ¬ TooLong w := by decide
    simp [hw _ h, Except.isOk, Except.toBool]
  · split
    · rename_i h
      have hw : ∀ w ∈ ["false".toList, "no".toList, "not_required".toList, "none".toList], ¬ TooLong w := by decide
      simp [hw _ h, Except.isOk, Except.toBool]
    · exact parseInt64_isOk _

/-! ## Mesh dimensions -/

/-- Both texts are integer texts. -/
def IntegerPair (rowsText columnsText : Str) : Prop :=
  isIntegerText (Py.strip rowsText) = true ∧ isIntegerText (Py.strip columnsText) = true

/-- A numeral next to the first `x` is too long. -/
def TooLongAroundX (normalized : Str) : Prop :=
  'x' ∈ normalized ∧
    (TooLong (Py.splitOnce 'x' normalized).1 ∨ TooLong (Py.splitOnce 'x' normalized).2)

/-- Integers stand on both sides of the first `x`. -/
def IntegersAroundX (normalized : Str) : Prop :=
  'x' ∈ normalized ∧ IntegerPair (Py.splitOnce 'x' normalized).1 (Py.splitOnce 'x' normalized).2

/-- A numeral around the first `x` is too long, or where these are not two integers, one of the first two tokens is. -/
def MeshTooLong (value : Str) : Prop :=
  TooLongAroundX (Py.lowerAscii (Py.strip value)) ∨
    (¬ IntegersAroundX (Py.lowerAscii (Py.strip value)) ∧
      ∃ rows columns rest, tokenize value = rows :: columns :: rest ∧ (TooLong rows ∨ TooLong columns))

theorem parsePair_cases (rowsText columnsText : Str) :
    ((TooLong rowsText ∨ TooLong columnsText) ∧ (parsePair rowsText columnsText).isOk = false) ∨
    (¬ (TooLong rowsText ∨ TooLong columnsText) ∧ IntegerPair rowsText columnsText ∧
      ∃ dimensions, parsePair rowsText columnsText = .ok (some dimensions)) ∨
    (¬ (TooLong rowsText ∨ TooLong columnsText) ∧ ¬ IntegerPair rowsText columnsText ∧
      parsePair rowsText columnsText = .ok none) := by
  unfold parsePair IntegerPair
  rcases parseInt64_cases rowsText with ⟨h₁, e₁⟩ | ⟨h₁, i₁, n₁, e₁⟩ | ⟨h₁, i₁, e₁⟩ <;>
    rcases parseInt64_cases columnsText with ⟨h₂, e₂⟩ | ⟨h₂, i₂, n₂, e₂⟩ | ⟨h₂, i₂, e₂⟩ <;>
    simp_all [bind, Except.bind, pure, Except.pure, Except.isOk, Except.toBool]

theorem parsePair_isOk (rowsText columnsText : Str) :
    (parsePair rowsText columnsText).isOk = true ↔ ¬ (TooLong rowsText ∨ TooLong columnsText) := by
  rcases parsePair_cases rowsText columnsText with ⟨h, e⟩ | ⟨h, -, d, e⟩ | ⟨h, -, e⟩
  · simp [h, e]
  · simp [h, e, Except.isOk, Except.toBool]
  · simp [h, e, Except.isOk, Except.toBool]

theorem parseFirstTokens_isOk (value : Str) : (parseFirstTokens value).isOk = true ↔
    ¬ ∃ rows columns rest, tokenize value = rows :: columns :: rest ∧ (TooLong rows ∨ TooLong columns) := by
  unfold parseFirstTokens
  split
  · rename_i rows columns rest h
    rw [parsePair_isOk, h]
    simp
  · rename_i h
    refine iff_of_true rfl ?_
    rintro ⟨rows, columns, rest, he, -⟩
    exact h _ _ _ he

theorem parseAroundX_cases (normalized : Str) :
    (TooLongAroundX normalized ∧ (parseAroundX normalized).isOk = false) ∨
    (¬ TooLongAroundX normalized ∧ IntegersAroundX normalized ∧
      ∃ dimensions, parseAroundX normalized = .ok (some dimensions)) ∨
    (¬ TooLongAroundX normalized ∧ ¬ IntegersAroundX normalized ∧ parseAroundX normalized = .ok none) := by
  unfold parseAroundX TooLongAroundX IntegersAroundX
  by_cases hx : 'x' ∈ normalized
  · simp only [hx, if_true, true_and]
    exact parsePair_cases _ _
  · simp [hx]

theorem parseMeshDimensions_isOk (value : Str) :
    (parseMeshDimensions value).isOk = true ↔ ¬ MeshTooLong value := by
  unfold parseMeshDimensions MeshTooLong
  rw [isOk_bind]
  rcases parseAroundX_cases (Py.lowerAscii (Py.strip value)) with ⟨h, e⟩ | ⟨h, hi, d, e⟩ | ⟨h, hi, e⟩
  · refine iff_of_false ?_ (fun hn => hn (.inl h))
    rintro ⟨a, ha, -⟩
    rw [ha] at e
    cases e
  · simp [h, hi, e, pure, Except.pure, Except.isOk, Except.toBool]
  · simp only [e, Except.ok.injEq, exists_eq_left', h, false_or, hi, not_false_eq_true, true_and]
    exact parseFirstTokens_isOk value

/-! ## Byte values -/

/-- A number that is not negative, of a known unit, whose product with the unit's size is past the decimal range. -/
def ByteOverflow (token nextToken : Str) : Prop :=
  ∃ p value m, matchNumberPrefix token = some p ∧ p.decimal = some value ∧ value.isNegative = false ∧
    p.multiplier nextToken = some m ∧ value.mul m = none

theorem parseByteValue_isOk (token nextToken : Str) :
    (parseByteValue token nextToken).isOk = true ↔ ¬ ByteOverflow token nextToken := by
  unfold parseByteValue ByteOverflow
  cases hp : matchNumberPrefix token with
  | none => simp [Except.isOk, Except.toBool]
  | some p =>
    cases hd : p.decimal with
    | none => simp [hd, Except.isOk, Except.toBool]
    | some value =>
      by_cases hn : value.isNegative = true
      · simp [hd, hn, Except.isOk, Except.toBool]
      · cases hm : p.multiplier nextToken with
        | none => simp [hd, hn, hm, Except.isOk, Except.toBool]
        | some m => cases hv : value.mul m <;> simp [hd, hn, hm, hv, Except.isOk, Except.toBool]

/-! ## Usage files -/

/-- The token at which a byte value is read overflows: the one after a key that names a field, else the token itself. -/
def TokenOverflow (token following unit : Str) : Prop :=
  if namesUsed (Py.lowerAscii token) || namesTotal (Py.lowerAscii token) then ByteOverflow following unit
  else ByteOverflow token following

/-- A token of some line overflows, with the two tokens after it. -/
def UsageOverflow (content : Str) : Prop :=
  ∃ line ∈ Py.splitlines content, ∃ before token after, tokenize line = before ++ token :: after ∧
    TokenOverflow token (after.head?.getD []) (after.tail.head?.getD [])

theorem scanToken_isOk (scan : MemoryScan) (token following unit : Str) :
    (scanToken scan token following unit).isOk = true ↔ ¬ TokenOverflow token following unit := by
  unfold scanToken TokenOverflow
  simp only
  by_cases hu : namesUsed (Py.lowerAscii token) = true
  · rw [if_pos hu, isOk_bind_of (P := True) (fun parsed => by cases parsed <;> exact iff_of_true rfl trivial), and_true,
      if_pos (by simp [hu])]
    exact parseByteValue_isOk _ _
  · rw [if_neg hu]
    by_cases ht : namesTotal (Py.lowerAscii token) = true
    · rw [if_pos ht, isOk_bind_of (P := True) (fun parsed => by cases parsed <;> exact iff_of_true rfl trivial), and_true,
        if_pos (by simp [ht])]
      exact parseByteValue_isOk _ _
    · rw [if_neg ht, isOk_bind_of (P := True) (fun parsed => by cases parsed <;> exact iff_of_true rfl trivial), and_true,
        if_neg (by simp [hu, ht])]
      exact parseByteValue_isOk _ _

theorem scanTokens_isOk : ∀ (tokens : List Str) (scan : MemoryScan), (scanTokens scan tokens).isOk = true ↔
    ∀ before token after, tokens = before ++ token :: after →
      ¬ TokenOverflow token (after.head?.getD []) (after.tail.head?.getD [])
  | [], scan => by simp [scanTokens, Except.isOk, Except.toBool]
  | token :: rest, scan => by
    rw [scanTokens, isOk_bind_of (fun scan => scanTokens_isOk rest scan), scanToken_isOk]
    constructor
    · rintro ⟨h, hr⟩ before t after he
      cases before with
      | nil =>
        obtain ⟨rfl, rfl⟩ := List.cons.inj he
        exact h
      | cons b before => exact hr before t after (List.cons.inj he).2
    · intro h
      exact ⟨h [] token rest rfl, fun before t after he => h (token :: before) t after (by rw [he]; rfl)⟩

theorem scanLines_isOk : ∀ (lines : List Str) (scan : MemoryScan), (scanLines scan lines).isOk = true ↔
    ∀ line ∈ lines, ∀ before token after, tokenize line = before ++ token :: after →
      ¬ TokenOverflow token (after.head?.getD []) (after.tail.head?.getD [])
  | [], scan => by simp [scanLines, Except.isOk, Except.toBool]
  | line :: rest, scan => by
    rw [scanLines, isOk_bind_of (fun scan => scanLines_isOk rest scan), scanTokens_isOk, List.forall_mem_cons]

theorem parseMemoryUsage_isOk (content : Str) :
    (parseMemoryUsage content).isOk = true ↔ ¬ UsageOverflow content := by
  unfold parseMemoryUsage UsageOverflow
  rw [isOk_bind_of (P := True) (fun _ => iff_of_true rfl trivial), and_true, scanLines_isOk]
  simp only [not_exists, not_and]

/-! ## State records -/

theorem stateNonNegativeInt_isOk (values : List (Str × Str)) (key : Str) :
    (stateNonNegativeInt values key).isOk = true ↔ ¬ TooLong ((stateString values key).getD []) := by
  unfold stateNonNegativeInt
  rw [isOk_bind_of (P := True) (fun _ => iff_of_true rfl trivial), and_true, parseInt64_isOk]

def workloadIntKeys : List Str :=
  ["active".toList, "programs_observed".toList, "tensix_cores_used".toList, "tensix_cores_total".toList,
    "sample_timestamp_seconds".toList]

theorem workloadOf_isOk (values : List (Str × Str)) : (workloadOf values).isOk = true ↔
    ∀ key ∈ workloadIntKeys, ¬ TooLong ((stateString values key).getD []) := by
  unfold workloadOf workloadIntKeys
  rw [isOk_bind_of (fun _ => isOk_bind_of (fun _ => isOk_bind_of (fun _ => isOk_bind_of (fun _ =>
    isOk_bind_of (P := True) (fun _ => iff_of_true rfl trivial)))))]
  simp only [stateNonNegativeInt_isOk, List.forall_mem_cons, List.not_mem_nil, false_imp_iff, implies_true, and_true]

end Tt
