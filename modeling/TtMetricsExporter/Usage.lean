import TtMetricsExporter.Bytes
import TtMetricsExporter.Raises
/-!
# Usage — which field of a memory usage a number is given to

Every number of the content is a positional value, whether or not a key before it has consumed it
(`scanLines_numbers`): a key never is a number.  So a number that a key consumed is taken again for the other field
exactly when it is the first (the second) of the content and no key consumed a number for that field
(`memoryUsage_separate_iff`).
-/
namespace Tt

open Py (Str)

/-! ## Keys and numbers -/

/-- A numeral with a unit or nothing after it. -/
def IsNumber (token : Str) : Prop :=
  ∃ np, matchNumberPrefix token = some np ∧ (byteMultipliers.lookup (Py.lowerAscii np.suffix)).isSome

/-- A unit of bytes. -/
def IsUnit (token : Str) : Prop := (byteMultipliers.lookup (Py.lowerAscii token)).isSome

/-- The letters that tell a key from a number. -/
def keyLetters : List Char := ['u', 'o', 'c', 'z']

theorem mem_of_contains {needle : Str} {c : Char} (hc : c ∈ needle) :
    ∀ {s : Str}, Py.contains needle s = true → c ∈ s
  | [], h => by
    rw [Py.contains, List.isEmpty_iff] at h
    rw [h] at hc
    cases hc
  | d :: s, h => by
    rw [Py.contains, Bool.or_eq_true, List.isPrefixOf_iff_prefix] at h
    rcases h with h | h
    · exact h.subset hc
    · exact List.mem_cons_of_mem d (mem_of_contains hc h)

theorem keyLetter_of_namesUsed {key : Str} (h : namesUsed key = true) : ∃ c ∈ keyLetters, c ∈ key := by
  rw [namesUsed, Bool.or_eq_true] at h
  rcases h with h | h
  · exact ⟨'u', by decide, mem_of_contains (by decide) h⟩
  · exact ⟨'o', by decide, mem_of_contains (by decide) h⟩

theorem keyLetter_of_namesTotal {key : Str} (h : namesTotal key = true) : ∃ c ∈ keyLetters, c ∈ key := by
  simp only [namesTotal, Bool.or_eq_true, decide_eq_true_eq] at h
  rcases h with (h | h) | rfl
  · exact ⟨'o', by decide, mem_of_contains (by decide) h⟩
  · exact ⟨'c', by decide, mem_of_contains (by decide) h⟩
  · exact ⟨'z', by decide, by decide⟩

theorem lowerChar_of_isDecimal {c : Char} (h : Py.isDecimal c = true) : Py.lowerChar c = c := by
  unfold Py.lowerChar
  split
  · rename_i hletter
    have hlow : 65 ≤ c.toNat := hletter.1
    have hhigh : c.toNat ≤ 90 := hletter.2
    have hdigit := Py.isAsciiDigit_iff.1 (Py.isAsciiDigit_of_isDecimal h (by omega))
    omega
  · rfl

/-- The characters of a numeral. -/
theorem NumberText.char {p : Str} {v : ℚ} (h : NumberText p v) {c : Char} (hc : c ∈ p) :
    Py.isDecimal c = true ∨ c ∈ ['+', '-', '.', 'e', 'E'] := by
  have hsign : ∀ {sign : Str} {σ : ℤ}, Sign sign σ → c ∈ sign → c ∈ ['+', '-', '.', 'e', 'E'] := by
    intro sign σ hs hm
    cases hs <;> simp_all
  cases h with
  | mk hs hm hx =>
    rcases List.mem_append.1 hc with hc | hc
    · rcases List.mem_append.1 hc with hc | hc
      · exact Or.inr (hsign hs hc)
      · cases hm with
        | whole hw _ => exact Or.inl (hw c hc)
        | point hw _ hf =>
          rcases List.mem_append.1 hc with hc | hc
          · exact Or.inl (hw c hc)
          · rcases List.mem_cons.1 hc with rfl | hc
            · exact Or.inr (by decide)
            · exact Or.inl (hf c hc)
        | fraction hf _ =>
          rcases List.mem_cons.1 hc with rfl | hc
          · exact Or.inr (by decide)
          · exact Or.inl (hf c hc)
    · cases hx with
      | none => cases hc
      | some he hs hds _ =>
        rcases List.mem_cons.1 hc with rfl | hc
        · refine Or.inr ?_
          rcases he with rfl | rfl <;> decide
        · rcases List.mem_append.1 hc with hc | hc
          · exact Or.inr (hsign hs hc)
          · exact Or.inl (hds c hc)

theorem NumberText.exists_digit {p : Str} {v : ℚ} (h : NumberText p v) : ∃ c ∈ p, Py.isDecimal c = true := by
  have hfirst : ∀ {w : Str}, Digits w → w ≠ [] → ∃ c ∈ w, Py.isDecimal c = true := by
    intro w hw hne
    obtain ⟨c, w, rfl⟩ := List.exists_cons_of_ne_nil hne
    exact ⟨c, by simp, hw c (by simp)⟩
  cases h with
  | mk hs hm hx =>
    cases hm with
    | whole hw hne =>
      obtain ⟨c, hc, hd⟩ := hfirst hw hne
      exact ⟨c, by simp [hc], hd⟩
    | point hw hne hf =>
      obtain ⟨c, hc, hd⟩ := hfirst hw hne
      exact ⟨c, by simp [hc], hd⟩
    | fraction hf hne =>
      obtain ⟨c, hc, hd⟩ := hfirst hf hne
      exact ⟨c, by simp [hc], hd⟩

theorem lookup_mem {s : Str} {m : Nat} {table : List (Str × Nat)} (h : table.lookup s = some m) : (s, m) ∈ table := by
  induction table with
  | nil => cases h
  | cons entry table ih =>
    rw [List.lookup_cons] at h
    by_cases he : s = entry.1
    · rw [he, beq_self_eq_true] at h
      cases h
      rw [he]
      exact List.mem_cons_self
    · rw [beq_false_of_ne he] at h
      exact List.mem_cons_of_mem _ (ih h)

theorem byteMultipliers_letters {s : Str} {m : Nat} (h : (s, m) ∈ byteMultipliers) {c : Char} (hc : c ∈ s) :
    c ∉ keyLetters ∧ Py.isDecimal c = false := by
  have hall : (byteMultipliers.all fun entry =>
      entry.1.all fun c => !keyLetters.contains c && !Py.isDecimal c) = true := by decide +kernel
  have hentry := List.all_eq_true.1 hall _ h
  have hchar := List.all_eq_true.1 hentry c hc
  simpa using hchar

/-- **A number is no key.** -/
theorem IsNumber.no_keyLetter {token : Str} (h : IsNumber token) : ∀ c ∈ Py.lowerAscii token, c ∉ keyLetters := by
  obtain ⟨np, hmatch, hunit⟩ := h
  obtain ⟨p, he, hn⟩ := matchNumberPrefix_sound hmatch
  obtain ⟨m, hm⟩ := Option.isSome_iff_exists.1 hunit
  intro c hc
  rw [he, Py.lowerAscii, List.map_append, List.mem_append] at hc
  rcases hc with hc | hc
  · obtain ⟨d, hd, rfl⟩ := List.mem_map.1 hc
    rcases hn.char hd with hdec | hother
    · rw [lowerChar_of_isDecimal hdec]
      intro hk
      simp only [keyLetters, List.mem_cons, List.not_mem_nil, or_false] at hk
      rcases hk with rfl | rfl | rfl | rfl <;> exact absurd hdec (by decide)
    · simp only [List.mem_cons, List.not_mem_nil, or_false] at hother
      rcases hother with rfl | rfl | rfl | rfl | rfl <;> decide
  · exact (byteMultipliers_letters (lookup_mem hm) hc).1

theorem IsNumber.not_namesUsed {token : Str} (h : IsNumber token) : namesUsed (Py.lowerAscii token) = false := by
  refine Bool.eq_false_iff.2 (fun hkey => ?_)
  obtain ⟨c, hc, hmem⟩ := keyLetter_of_namesUsed hkey
  exact h.no_keyLetter c hmem hc

theorem IsNumber.not_namesTotal {token : Str} (h : IsNumber token) : namesTotal (Py.lowerAscii token) = false := by
  refine Bool.eq_false_iff.2 (fun hkey => ?_)
  obtain ⟨c, hc, hmem⟩ := keyLetter_of_namesTotal hkey
  exact h.no_keyLetter c hmem hc

/-- A unit is no number. -/
theorem IsUnit.not_isNumber {token : Str} (h : IsUnit token) : ¬IsNumber token := by
  rintro ⟨np, hmatch, -⟩
  obtain ⟨p, he, hn⟩ := matchNumberPrefix_sound hmatch
  obtain ⟨c, hc, hd⟩ := hn.exists_digit
  obtain ⟨m, hm⟩ := Option.isSome_iff_exists.1 h
  have hmem : c ∈ Py.lowerAscii token := by
    rw [he, Py.lowerAscii, List.map_append, List.mem_append, List.mem_map]
    exact Or.inl ⟨c, hc, lowerChar_of_isDecimal hd⟩
  rw [(byteMultipliers_letters (lookup_mem hm) hmem).2] at hd
  cases hd

/-- What is no number has no byte value, and raises nothing. -/
theorem parseByteValue_of_not_isNumber {token : Str} (h : ¬IsNumber token) (following : Str) :
    parseByteValue token following = .ok none := by
  unfold parseByteValue
  cases hmatch : matchNumberPrefix token with
  | none => rfl
  | some np =>
    have hsuffix : np.suffix ≠ [] := by
      intro hnil
      refine h ⟨np, hmatch, ?_⟩
      rw [hnil]
      decide
    have hlookup : byteMultipliers.lookup (Py.lowerAscii np.suffix) = none := by
      refine Option.not_isSome_iff_eq_none.1 (fun hs => h ⟨np, hmatch, hs⟩)
    have hmult : np.multiplier following = none := by
      unfold NumberPrefix.multiplier
      simp only [if_neg hsuffix, hlookup]
    dsimp only
    cases np.decimal with
    | none => rfl
    | some d =>
      dsimp only
      rw [hmult]
      split <;> rfl

/-! ## The numbers of a content -/

/-- A number of a line: the token before it, empty at the start of the line, and its byte value. -/
structure UsageNumber where
  before : Str
  value : Int
  deriving DecidableEq

namespace UsageNumber

/-- The token before it consumed it, for the field that token names. -/
def forUsed (n : UsageNumber) : Bool := namesUsed (Py.lowerAscii n.before)
def forTotal (n : UsageNumber) : Bool := !n.forUsed && namesTotal (Py.lowerAscii n.before)

end UsageNumber

def numberAt (before token following : Str) : Option UsageNumber :=
  match parseByteValue token following with
  | .ok (some value) => some ⟨before, value⟩
  | _ => none

/-- The numbers of a line's tokens, of which the first has `before` before it. -/
def lineNumbers (before : Str) : List Str → List UsageNumber
  | [] => []
  | token :: rest => (numberAt before token (rest.head?.getD [])).toList ++ lineNumbers token rest

def numbers (content : Str) : List UsageNumber :=
  (Py.splitlines content).flatMap (fun line => lineNumbers [] (tokenize line))

theorem numberAt_of_not_isNumber {token : Str} (h : ¬IsNumber token) (before following : Str) :
    numberAt before token following = none := by
  rw [numberAt, parseByteValue_of_not_isNumber h]

theorem numberAt_of_ok {before token following : Str} {result : Option Int}
    (h : parseByteValue token following = .ok result) :
    numberAt before token following = result.map (UsageNumber.mk before) := by
  rw [numberAt, h]
  cases result <;> rfl

theorem not_isNumber_nil : ¬IsNumber [] := by
  rintro ⟨np, hmatch, -⟩
  cases hmatch

/-! ## The scan -/

/-- A scan that took some positional values and in which keys consumed some numbers. -/
structure Scanned (scan : MemoryScan) (positional keyed : List UsageNumber) (scan' : MemoryScan) : Prop where
  values : scan'.unkeyedValues = scan.unkeyedValues ++ positional.map UsageNumber.value
  used : scan'.usage.usedBytes = none ↔ scan.usage.usedBytes = none ∧ ∀ n ∈ keyed, n.forUsed = false
  total : scan'.usage.totalBytes = none ↔ scan.usage.totalBytes = none ∧ ∀ n ∈ keyed, n.forTotal = false

namespace Scanned

theorem refl (scan : MemoryScan) : Scanned scan [] [] scan := by
  refine ⟨by simp, ?_, ?_⟩ <;> simp

theorem trans {scan scan' scan'' : MemoryScan} {positional positional' keyed keyed' : List UsageNumber}
    (h : Scanned scan positional keyed scan') (h' : Scanned scan' positional' keyed' scan'') :
    Scanned scan (positional ++ positional') (keyed ++ keyed') scan'' := by
  refine ⟨?_, ?_, ?_⟩
  · rw [h'.values, h.values, List.map_append, List.append_assoc]
  · rw [h'.used, h.used, and_assoc, List.forall_mem_append]
  · rw [h'.total, h.total, and_assoc, List.forall_mem_append]

end Scanned

/-- **One token**: a key consumes the number after it, any other number is a positional value. -/
theorem scanToken_scanned {scan scan' : MemoryScan} {token following unit : Str}
    (h : scanToken scan token following unit = .ok scan') (before : Str) :
    Scanned scan (numberAt before token following).toList (numberAt token following unit).toList scan' := by
  unfold scanToken at h
  dsimp only at h
  by_cases hu : namesUsed (Py.lowerAscii token) = true
  · have hkey : ¬IsNumber token := fun hn => by
      rw [hn.not_namesUsed] at hu
      cases hu
    rw [numberAt_of_not_isNumber hkey]
    rw [if_pos hu] at h
    obtain ⟨result, hr, h⟩ := Posix.ok_of_bind h
    rw [numberAt_of_ok hr]
    cases result with
    | none =>
      cases h
      exact .refl scan
    | some parsed =>
      cases h
      refine ⟨by simp, ?_, ?_⟩ <;> simp [UsageNumber.forUsed, UsageNumber.forTotal, hu]
  · have hu' : namesUsed (Py.lowerAscii token) = false := Bool.eq_false_iff.2 hu
    rw [if_neg hu] at h
    by_cases ht : namesTotal (Py.lowerAscii token) = true
    · have hkey : ¬IsNumber token := fun hn => by
        rw [hn.not_namesTotal] at ht
        cases ht
      rw [numberAt_of_not_isNumber hkey]
      rw [if_pos ht] at h
      obtain ⟨result, hr, h⟩ := Posix.ok_of_bind h
      rw [numberAt_of_ok hr]
      cases result with
      | none =>
        cases h
        exact .refl scan
      | some parsed =>
        cases h
        refine ⟨by simp, ?_, ?_⟩ <;> simp [UsageNumber.forUsed, UsageNumber.forTotal, hu', ht]
    · have ht' : namesTotal (Py.lowerAscii token) = false := Bool.eq_false_iff.2 ht
      have hkeyed : ∀ n ∈ (numberAt token following unit).toList, n.forUsed = false ∧ n.forTotal = false := by
        intro n hn
        rw [Option.mem_toList, numberAt] at hn
        split at hn
        · cases hn
          exact ⟨hu', by rw [UsageNumber.forTotal, ht', Bool.and_false]⟩
        · cases hn
      have hused : ∀ n ∈ (numberAt token following unit).toList, n.forUsed = false := fun n hn => (hkeyed n hn).1
      have htotal : ∀ n ∈ (numberAt token following unit).toList, n.forTotal = false := fun n hn => (hkeyed n hn).2
      rw [if_neg ht] at h
      obtain ⟨result, hr, h⟩ := Posix.ok_of_bind h
      rw [numberAt_of_ok hr]
      cases result with
      | none =>
        cases h
        exact ⟨by simp, (and_iff_left hused).symm, (and_iff_left htotal).symm⟩
      | some parsed =>
        cases h
        exact ⟨by simp, (and_iff_left hused).symm, (and_iff_left htotal).symm⟩

/-- The numbers that a line's keys consume are those after its first token. -/
theorem scanTokens_scanned : ∀ {tokens : List Str} {scan scan' : MemoryScan} (before : Str),
    scanTokens scan tokens = .ok scan' →
      Scanned scan (lineNumbers before tokens) (lineNumbers (tokens.head?.getD []) tokens.tail) scan'
  | [], scan, scan', before, h => by
    cases h
    exact .refl scan
  | token :: rest, scan, scan', before, h => by
    obtain ⟨scan₁, h₁, h₂⟩ := Posix.ok_of_bind h
    have hkeyed : (numberAt token (rest.head?.getD []) (rest.tail.head?.getD [])).toList ++
        lineNumbers (rest.head?.getD []) rest.tail = lineNumbers token rest := by
      cases rest with
      | nil =>
        rw [List.head?_nil, Option.getD_none, numberAt_of_not_isNumber not_isNumber_nil]
        rfl
      | cons next rest => rfl
    have hall := (scanToken_scanned h₁ before).trans (scanTokens_scanned token h₂)
    rw [hkeyed] at hall
    exact hall

theorem lineNumbers_keyed {f : UsageNumber → Bool} (hf : ∀ n : UsageNumber, n.before = [] → f n = false)
    (tokens : List Str) : (∀ n ∈ lineNumbers (tokens.head?.getD []) tokens.tail, f n = false) ↔
      ∀ n ∈ lineNumbers [] tokens, f n = false := by
  cases tokens with
  | nil => exact Iff.rfl
  | cons token rest =>
    have hfirst : ∀ n ∈ (numberAt [] token (rest.head?.getD [])).toList, f n = false := by
      intro n hn
      rw [Option.mem_toList, numberAt] at hn
      split at hn
      · cases hn
        exact hf _ rfl
      · cases hn
    rw [lineNumbers, List.forall_mem_append, and_iff_right hfirst]
    rfl

theorem forUsed_of_first {n : UsageNumber} (h : n.before = []) : n.forUsed = false := by
  rw [UsageNumber.forUsed, h]
  decide

theorem forTotal_of_first {n : UsageNumber} (h : n.before = []) : n.forTotal = false := by
  rw [UsageNumber.forTotal, forUsed_of_first h, h]
  decide

theorem scanLines_scanned : ∀ {lines : List Str} {scan scan' : MemoryScan}, scanLines scan lines = .ok scan' →
    Scanned scan (lines.flatMap (fun line => lineNumbers [] (tokenize line)))
      (lines.flatMap (fun line => lineNumbers [] (tokenize line))) scan'
  | [], scan, scan', h => by
    cases h
    exact .refl scan
  | line :: rest, scan, scan', h => by
    obtain ⟨scan₁, h₁, h₂⟩ := Posix.ok_of_bind h
    have hline := scanTokens_scanned [] h₁
    have hwhole : Scanned scan (lineNumbers [] (tokenize line)) (lineNumbers [] (tokenize line)) scan₁ := by
      refine ⟨hline.values, ?_, ?_⟩
      · rw [hline.used, lineNumbers_keyed (fun _ => forUsed_of_first)]
      · rw [hline.total, lineNumbers_keyed (fun _ => forTotal_of_first)]
    exact hwhole.trans (scanLines_scanned h₂)

/-- **The positional values are all the numbers**, and a field is keyed when a key for it consumed one of them. -/
theorem scanLines_numbers {content : Str} {scan : MemoryScan} (h : scanLines {} (Py.splitlines content) = .ok scan) :
    scan.unkeyedValues = (numbers content).map UsageNumber.value ∧
    (scan.usage.usedBytes = none ↔ ∀ n ∈ numbers content, n.forUsed = false) ∧
    (scan.usage.totalBytes = none ↔ ∀ n ∈ numbers content, n.forTotal = false) := by
  have hs := scanLines_scanned h
  refine ⟨hs.values, ?_, ?_⟩
  · rw [hs.used]
    exact and_iff_right rfl
  · rw [hs.total]
    exact and_iff_right rfl

/-! ## Which number a field is given -/

/-- The positional values of a scan, as numbers of the content, in its order; the first two go to the fields that no key
has given a value. -/
structure Positional (content : Str) (scan : MemoryScan) (usage : MemoryUsage) (taken : List UsageNumber) : Prop where
  sublist : taken.Sublist (numbers content)
  values : scan.unkeyedValues = taken.map UsageNumber.value
  used : usage.usedBytes = scan.usage.usedBytes.or (taken[0]?.map UsageNumber.value)
  total : usage.totalBytes = scan.usage.totalBytes.or (taken[1]?.map UsageNumber.value)

/-- No number that a key consumed is a positional value for the other field. -/
def Separate (content : Str) (scan : MemoryScan) (usage : MemoryUsage) : Prop :=
  ∃ taken, Positional content scan usage taken ∧
    (scan.usage.usedBytes = none → ∀ n, taken[0]? = some n → n.forTotal = false) ∧
    (scan.usage.totalBytes = none → ∀ n, taken[1]? = some n → n.forUsed = false)

section Scan
variable {content : Str} {scan : MemoryScan} {usage : MemoryUsage} {taken : List UsageNumber}

theorem parseMemoryUsage_of_scan (h : scanLines {} (Py.splitlines content) = .ok scan) :
    parseMemoryUsage content = .ok {
      usedBytes := scan.usage.usedBytes.or scan.unkeyedValues[0]?
      totalBytes := scan.usage.totalBytes.or scan.unkeyedValues[1]? } := by
  unfold parseMemoryUsage
  rw [h]
  refine congrArg Except.ok ?_
  rw [← List.head?_eq_getElem?]

/-- **The positional values are all the numbers.** -/
theorem positional_numbers (h : scanLines {} (Py.splitlines content) = .ok scan)
    (hp : parseMemoryUsage content = .ok usage) : Positional content scan usage (numbers content) := by
  obtain ⟨hvalues, -, -⟩ := scanLines_numbers h
  rw [parseMemoryUsage_of_scan h, hvalues, List.getElem?_map, List.getElem?_map] at hp
  cases hp
  exact ⟨.refl _, hvalues, rfl, rfl⟩

/-- They can be no other numbers. -/
theorem Positional.eq_numbers (ht : Positional content scan usage taken)
    (h : scanLines {} (Py.splitlines content) = .ok scan) : taken = numbers content := by
  have hlength : taken.length = (numbers content).length := by
    rw [← List.length_map UsageNumber.value, ← ht.values, (scanLines_numbers h).1, List.length_map]
  exact ht.sublist.eq_of_length hlength

end Scan

/-- A line `key number [unit]`. -/
def KeyNumber (tokens : List Str) : Prop :=
  ∃ key number unit, tokens = key :: number :: unit ∧ ¬IsNumber key ∧ IsNumber number ∧
    (unit = [] ∨ ∃ u, unit = [u] ∧ IsUnit u)

def KeyNumberLines (content : Str) : Prop := ∀ line ∈ Py.splitlines content, KeyNumber (tokenize line)

/-- The keys of such lines, in lower case. -/
def lineKeys (content : Str) : List Str :=
  (Py.splitlines content).filterMap (fun line => (tokenize line).head?.map Py.lowerAscii)

/-- A field that no key names has no value. -/
structure NothingInvented (content : Str) (usage : MemoryUsage) : Prop where
  used : (∀ key ∈ lineKeys content, namesUsed key = false) → usage.usedBytes = none
  total : (∀ key ∈ lineKeys content, namesTotal key = false) → usage.totalBytes = none

/-- The numbers of lines `key number [unit]` are those their keys consume. -/
theorem lineNumbers_keyNumber {tokens : List Str} (h : KeyNumber tokens) :
    ∀ n ∈ lineNumbers [] tokens, tokens.head? = some n.before := by
  obtain ⟨key, number, unit, rfl, hkey, hnumber, hunit⟩ := h
  intro n hn
  have hlast : ∀ before, lineNumbers before unit = [] := by
    intro before
    rcases hunit with rfl | ⟨u, rfl, hu⟩
    · rfl
    · rw [lineNumbers, numberAt_of_not_isNumber hu.not_isNumber]
      rfl
  rw [lineNumbers, numberAt_of_not_isNumber hkey, lineNumbers, hlast, List.append_nil, Option.toList_none,
    List.nil_append, Option.mem_toList, numberAt] at hn
  split at hn
  · cases hn
    rfl
  · cases hn

theorem mem_lineKeys {content : Str} (h : KeyNumberLines content) {n : UsageNumber} (hn : n ∈ numbers content) :
    Py.lowerAscii n.before ∈ lineKeys content := by
  obtain ⟨line, hline, hmem⟩ := List.mem_flatMap.1 hn
  rw [lineKeys, List.mem_filterMap]
  refine ⟨line, hline, ?_⟩
  rw [lineNumbers_keyNumber (h line hline) n hmem]
  rfl

/-- Where the first number follows a key for the total, some number follows one for the usage, where the second follows
one for the usage, some number follows one for the total; and lines `key number [unit]` whose keys leave a field
unnamed hold too few numbers for it. -/
structure Provided (content : Str) : Prop where
  used : ∀ n, (numbers content)[0]? = some n → n.forTotal = true → ∃ k ∈ numbers content, k.forUsed = true
  total : ∀ n, (numbers content)[1]? = some n → n.forUsed = true → ∃ k ∈ numbers content, k.forTotal = true
  lines : KeyNumberLines content →
    ((∀ key ∈ lineKeys content, namesUsed key = false) → numbers content = []) ∧
    ((∀ key ∈ lineKeys content, namesTotal key = false) → (numbers content).length < 2)

section Provided
variable {content : Str} {scan : MemoryScan} {usage : MemoryUsage}

theorem separate_iff (h : scanLines {} (Py.splitlines content) = .ok scan) (hp : parseMemoryUsage content = .ok usage) :
    Separate content scan usage ↔
      (∀ n, (numbers content)[0]? = some n → n.forTotal = true → ∃ k ∈ numbers content, k.forUsed = true) ∧
      (∀ n, (numbers content)[1]? = some n → n.forUsed = true → ∃ k ∈ numbers content, k.forTotal = true) := by
  obtain ⟨-, hused, htotal⟩ := scanLines_numbers h
  have hall : Separate content scan usage ↔
      (scan.usage.usedBytes = none → ∀ n, (numbers content)[0]? = some n → n.forTotal = false) ∧
      (scan.usage.totalBytes = none → ∀ n, (numbers content)[1]? = some n → n.forUsed = false) := by
    constructor
    · rintro ⟨taken, htaken, hseparate⟩
      rw [htaken.eq_numbers h] at hseparate
      exact hseparate
    · exact fun hseparate => ⟨_, positional_numbers h hp, hseparate⟩
  have hfield : ∀ {c : Prop} {f g : UsageNumber → Bool} {taken : Option UsageNumber},
      (c ↔ ∀ k ∈ numbers content, g k = false) →
      ((c → ∀ n, taken = some n → f n = false) ↔
        ∀ n, taken = some n → f n = true → ∃ k ∈ numbers content, g k = true) := by
    intro c f g taken hc
    constructor
    · intro hf n hn hfn
      by_contra hno
      have hnone : c := hc.2 (fun k hk => Bool.eq_false_iff.2 (fun hg => hno ⟨k, hk, hg⟩))
      rw [hf hnone n hn] at hfn
      cases hfn
    · intro hf hcc n hn
      refine Bool.eq_false_iff.2 (fun hfn => ?_)
      obtain ⟨k, hk, hg⟩ := hf n hn hfn
      rw [hc.1 hcc k hk] at hg
      cases hg
  rw [hall]
  exact and_congr (hfield hused) (hfield htotal)

theorem nothingInvented_iff (h : scanLines {} (Py.splitlines content) = .ok scan)
    (hp : parseMemoryUsage content = .ok usage) (hl : KeyNumberLines content) : NothingInvented content usage ↔
      ((∀ key ∈ lineKeys content, namesUsed key = false) → numbers content = []) ∧
      ((∀ key ∈ lineKeys content, namesTotal key = false) → (numbers content).length < 2) := by
  obtain ⟨-, hused, htotal⟩ := scanLines_numbers h
  have hpositional := positional_numbers h hp
  have husage : (∀ key ∈ lineKeys content, namesUsed key = false) →
      (usage.usedBytes = none ↔ numbers content = []) := by
    intro hkeys
    have hnone := hused.2 (fun n hn => hkeys _ (mem_lineKeys hl hn))
    rw [hpositional.used, hnone, Option.none_or, Option.map_eq_none_iff, List.getElem?_eq_none_iff, Nat.le_zero,
      List.length_eq_zero_iff]
  have htotals : (∀ key ∈ lineKeys content, namesTotal key = false) →
      (usage.totalBytes = none ↔ (numbers content).length < 2) := by
    intro hkeys
    have hnone := htotal.2 (fun n hn => by
      rw [UsageNumber.forTotal, hkeys _ (mem_lineKeys hl hn), Bool.and_false])
    rw [hpositional.total, hnone, Option.none_or, Option.map_eq_none_iff, List.getElem?_eq_none_iff]
    omega
  constructor
  · rintro ⟨hu, ht⟩
    exact ⟨fun hkeys => (husage hkeys).1 (hu hkeys), fun hkeys => (htotals hkeys).1 (ht hkeys)⟩
  · rintro ⟨hu, ht⟩
    exact ⟨fun hkeys => (husage hkeys).2 (hu hkeys), fun hkeys => (htotals hkeys).2 (ht hkeys)⟩

end Provided

/-- **Each number goes to one field**, and none to a field that no key names, exactly when the numbers are `Provided`. -/
theorem memoryUsage_separate_iff (content : Str) :
    (∀ scan usage, scanLines {} (Py.splitlines content) = .ok scan → parseMemoryUsage content = .ok usage →
      Separate content scan usage ∧ (KeyNumberLines content → NothingInvented content usage)) ↔
    (¬UsageOverflow content → Provided content) := by
  constructor
  · intro h hno
    have hok := (parseMemoryUsage_isOk content).2 hno
    cases hp : parseMemoryUsage content with
    | error e =>
      rw [hp] at hok
      cases hok
    | ok usage =>
      have hscan : ∃ scan, scanLines {} (Py.splitlines content) = .ok scan := by
        obtain ⟨scan, hs, -⟩ := Posix.ok_of_bind hp
        exact ⟨scan, hs⟩
      obtain ⟨scan, hs⟩ := hscan
      obtain ⟨hsep, hinv⟩ := h scan usage hs hp
      obtain ⟨hu, ht⟩ := (separate_iff hs hp).1 hsep
      exact ⟨hu, ht, fun hl => (nothingInvented_iff hs hp hl).1 (hinv hl)⟩
  · intro h scan usage hs hp
    have hno : ¬UsageOverflow content := by
      rw [← parseMemoryUsage_isOk, hp]
      rfl
    obtain ⟨hu, ht, hlines⟩ := h hno
    exact ⟨(separate_iff hs hp).2 ⟨hu, ht⟩, fun hl => (nothingInvented_iff hs hp hl).2 (hlines hl)⟩

/-- The total of a file without a usage is its usage too. -/
theorem not_forall_memoryUsage_separate :
    ¬∀ (content : Str) (scan : MemoryScan) (usage : MemoryUsage),
      scanLines {} (Py.splitlines content) = .ok scan → parseMemoryUsage content = .ok usage →
        Separate content scan usage ∧ (KeyNumberLines content → NothingInvented content usage) := by
  intro h
  have hscan : scanLines {} (Py.splitlines "total: 3 TiB".toList) =
      .ok ⟨⟨none, some 3298534883328⟩, [3298534883328]⟩ := by decide +kernel
  have hparse : parseMemoryUsage "total: 3 TiB".toList = .ok ⟨some 3298534883328, some 3298534883328⟩ := by
    decide +kernel
  have hnumbers : numbers "total: 3 TiB".toList = [⟨"total".toList, 3298534883328⟩] := by decide +kernel
  obtain ⟨taken, htaken, hused, -⟩ := (h _ _ _ hscan hparse).1
  have hfree := hused rfl ⟨"total".toList, 3298534883328⟩ (by rw [htaken.eq_numbers hscan, hnumbers]; rfl)
  exact absurd hfree (by decide)

end Tt
