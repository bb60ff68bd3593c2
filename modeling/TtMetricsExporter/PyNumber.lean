import TtMetricsExporter.PyText
/-!
# PyNumber — Python's `int(text, base)`, `str(n)`, `hex(n)` and `decimal.Decimal`

`int` follows CPython 3.11: outer whitespace, a sign, a base marker, any Unicode decimal digit, single underscores
between digits, and the limit of 4300 digits where the base is not a power of two.  `Decimal` is a sign, a coefficient
and an exponent; construction is exact within the limits of the C implementation, and a product is rounded half-even
to the 28 digits of the default context, which traps `Overflow` past exponent 999999.
-/
namespace Py

/-! ## Digits -/

/-- The zeros of Unicode 14's decimal digits (category `Nd`); each starts a run of ten. -/
def digitZeros : List Nat :=
  [0x30, 0x660, 0x6f0, 0x7c0, 0x966, 0x9e6, 0xa66, 0xae6, 0xb66, 0xbe6, 0xc66, 0xce6, 0xd66, 0xde6, 0xe50, 0xed0,
    0xf20, 0x1040, 0x1090, 0x17e0, 0x1810, 0x1946, 0x19d0, 0x1a80, 0x1a90, 0x1b50, 0x1bb0, 0x1c40, 0x1c50, 0xa620,
    0xa8d0, 0xa900, 0xa9d0, 0xa9f0, 0xaa50, 0xabf0, 0xff10, 0x104a0, 0x10d30, 0x11066, 0x110f0, 0x11136, 0x111d0,
    0x112f0, 0x11450, 0x114d0, 0x11650, 0x116c0, 0x11730, 0x118e0, 0x11950, 0x11c50, 0x11d50, 0x11da0, 0x16a60,
    0x16ac0, 0x16b50, 0x1d7ce, 0x1d7d8, 0x1d7e2, 0x1d7ec, 0x1d7f6, 0x1e140, 0x1e2f0, 0x1e950, 0x1fbf0]

def decimalValue (c : Char) : Option Nat :=
  (digitZeros.find? (fun z => z ≤ c.toNat && c.toNat < z + 10)).map (fun z => c.toNat - z)

/-- `\d` of a `str` pattern. -/
def isDecimal (c : Char) : Bool := (decimalValue c).isSome

/-- The value of an ASCII digit or letter in a numeral of some base up to 36. -/
def digitValue (c : Char) : Option Nat :=
  if '0' ≤ c ∧ c ≤ '9' then some (c.toNat - 48)
  else if 'a' ≤ c ∧ c ≤ 'z' then some (c.toNat - 87)
  else if 'A' ≤ c ∧ c ≤ 'Z' then some (c.toNat - 55)
  else none

/-- The digits read in a base, the first the most significant. -/
def ofDigits (base : Nat) (digits : List Nat) : Nat := digits.foldl (fun n d => n * base + d) 0

/-! ## `int(text, base)` -/

/-- The ASCII form of a code point of a text that is not all ASCII, where it has one. -/
def toAscii (c : Char) : Option Char :=
  if c.toNat < 127 then some c
  else if isSpace c then some ' '
  else (decimalValue c).map (fun d => Char.ofNat (48 + d))

def transformDecimalAndSpace (text : Str) : Option Str :=
  if text.all isAscii then some text else text.mapM toAscii

/-- A base marker and the one underscore that may follow it. -/
def dropMarker (base : Nat) : Str → Str
  | '0' :: c :: rest =>
    if (base = 16 ∧ (c = 'x' ∨ c = 'X')) ∨ (base = 8 ∧ (c = 'o' ∨ c = 'O')) then
      match rest with
      | '_' :: rest' => rest'
      | _ => rest
    else '0' :: c :: rest
  | text => text

/-- Digits with single underscores between them. -/
def literalDigits (base : Nat) : Str → Option (List Nat)
  | [] => none
  | [c] => ((digitValue c).filter (· < base)).map ([·])
  | c :: '_' :: rest => do
    let d ← (digitValue c).filter (· < base)
    let ds ← literalDigits base rest
    return d :: ds
  | c :: rest => do
    let d ← (digitValue c).filter (· < base)
    let ds ← literalDigits base rest
    return d :: ds

/-- `sys.int_info.default_max_str_digits`. -/
def maxStrDigits : Nat := 4300

def splitSign : Str → Bool × Str
  | '-' :: rest => (true, rest)
  | '+' :: rest => (false, rest)
  | text => (false, text)

/-- `int(text, base)` for base 8, 10 or 16, `none` for `ValueError`.  The digit limit spares the powers of two. -/
def int (text : Str) (base : Nat) : Option Int := do
  let ascii ← transformDecimalAndSpace text
  let (negative, body) := splitSign (stripBy isAsciiSpace ascii)
  let digits ← literalDigits base (dropMarker base body)
  if base = 10 ∧ maxStrDigits < digits.length then none
  else some (if negative then -(ofDigits base digits : Int) else ofDigits base digits)

/-- `str(n)`. -/
def strInt : Int → Str
  | .ofNat n => Nat.toDigits 10 n
  | .negSucc n => '-' :: Nat.toDigits 10 (n + 1)

/-- `hex(n)`. -/
def hex : Int → Str
  | .ofNat n => '0' :: 'x' :: Nat.toDigits 16 n
  | .negSucc n => '-' :: '0' :: 'x' :: Nat.toDigits 16 (n + 1)

/-! ## Numerals of decimal digits -/

def IsAsciiDigit (c : Char) : Prop := '0' ≤ c ∧ c ≤ '9'

instance (c : Char) : Decidable (IsAsciiDigit c) := inferInstanceAs (Decidable (_ ∧ _))

theorem isAsciiDigit_iff {c : Char} : IsAsciiDigit c ↔ 48 ≤ c.toNat ∧ c.toNat ≤ 57 := by
  constructor
  · rintro ⟨h₁, h₂⟩
    exact ⟨UInt32.le_iff_toNat_le.1 (Char.le_def.1 h₁), UInt32.le_iff_toNat_le.1 (Char.le_def.1 h₂)⟩
  · rintro ⟨h₁, h₂⟩
    exact ⟨Char.le_def.2 (UInt32.le_iff_toNat_le.2 h₁), Char.le_def.2 (UInt32.le_iff_toNat_le.2 h₂)⟩

theorem digitValue_of_isAsciiDigit {c : Char} (h : IsAsciiDigit c) : digitValue c = some (c.toNat - 48) := by
  unfold IsAsciiDigit at h
  rw [digitValue, if_pos h]

theorem literalDigits_of_digits : ∀ {s : Str}, s ≠ [] → (∀ c ∈ s, IsAsciiDigit c) →
    literalDigits 10 s = some (s.map (fun c => c.toNat - 48))
  | [], h, _ => absurd rfl h
  | [c], _, h => by
    have hc := h c (by simp)
    have hlt := isAsciiDigit_iff.1 hc
    rw [literalDigits, digitValue_of_isAsciiDigit hc]
    simp [Option.filter, show c.toNat - 48 < 10 by omega]
  | c :: d :: rest, _, h => by
    have hc := h c (by simp)
    have hlt := isAsciiDigit_iff.1 hc
    have hd : d ≠ '_' := fun he => by
      have := isAsciiDigit_iff.1 (h d (by simp))
      rw [he] at this
      exact absurd this.2 (by decide)
    have ih := literalDigits_of_digits (s := d :: rest) (by simp) (fun x hx => h x (List.mem_cons_of_mem _ hx))
    rw [literalDigits, digitValue_of_isAsciiDigit hc, ih]
    · simp [Option.filter, show c.toNat - 48 < 10 by omega]
    · simp
    · intro r hr
      exact hd (List.cons.inj hr).1

theorem dropMarker_ten (s : Str) : dropMarker 10 s = s := by
  unfold dropMarker
  split
  · rw [if_neg (by simp)]
  · rfl

theorem exists_zero_of_isDecimal {c : Char} (h : isDecimal c = true) :
    ∃ z ∈ digitZeros, ∃ k < 10, c.toNat = z + k ∧ decimalValue c = some k := by
  rw [isDecimal, decimalValue, Option.isSome_map] at h
  obtain ⟨z, hz⟩ := Option.isSome_iff_exists.1 h
  have hp := List.find?_some hz
  simp only [Bool.and_eq_true, decide_eq_true_eq] at hp
  refine ⟨z, List.mem_of_find?_eq_some hz, c.toNat - z, by omega, by omega, ?_⟩
  rw [decimalValue, hz]
  rfl

/-- The digit runs hold no space, and one run alone is in ASCII. -/
theorem digitZeros_spec : ∀ z ∈ digitZeros, (z = 48 ∨ 128 ≤ z) ∧ ∀ k < 10, isSpaceCode (z + k) = false := by decide

theorem isAsciiDigit_of_isDecimal {c : Char} (h : isDecimal c = true) (ha : c.toNat < 128) : IsAsciiDigit c := by
  obtain ⟨z, hz, k, hk, hc, -⟩ := exists_zero_of_isDecimal h
  rw [isAsciiDigit_iff]
  rcases (digitZeros_spec z hz).1 with h48 | h128 <;> omega

theorem isAsciiDigit_ofNat : ∀ k < 10, IsAsciiDigit (Char.ofNat (48 + k)) := by decide

theorem toAscii_of_isDecimal {c : Char} (h : isDecimal c = true) : ∃ d, toAscii c = some d ∧ IsAsciiDigit d := by
  by_cases ha : c.toNat < 127
  · exact ⟨c, by rw [toAscii, if_pos ha], isAsciiDigit_of_isDecimal h (by omega)⟩
  · obtain ⟨z, hz, k, hk, hc, hv⟩ := exists_zero_of_isDecimal h
    have hs : isSpace c = false := by rw [isSpace, hc]; exact (digitZeros_spec z hz).2 k hk
    refine ⟨Char.ofNat (48 + k), ?_, isAsciiDigit_ofNat k hk⟩
    rw [toAscii, if_neg ha, if_neg (by simp [hs]), hv]
    rfl

theorem mapM_toAscii_of_decimals : ∀ {s : Str}, (∀ c ∈ s, isDecimal c = true) →
    ∃ t, s.mapM toAscii = some t ∧ t.length = s.length ∧ ∀ c ∈ t, IsAsciiDigit c
  | [], _ => ⟨[], rfl, rfl, fun _ h => absurd h List.not_mem_nil⟩
  | c :: s, h => by
    obtain ⟨d, hd, hdd⟩ := toAscii_of_isDecimal (h c List.mem_cons_self)
    obtain ⟨t, ht, hl, htd⟩ := mapM_toAscii_of_decimals (fun x hx => h x (List.mem_cons_of_mem c hx))
    refine ⟨d :: t, ?_, by simp [hl], List.forall_mem_cons.2 ⟨hdd, htd⟩⟩
    rw [List.mapM_cons, hd, ht]
    rfl

/-- A numeral is a sign or none, and what follows it. -/
theorem splitSign_spec (text : Str) :
    ∃ sign ∈ [[], ['-'], ['+']], text = sign ++ (splitSign text).2 := by
  unfold splitSign
  split
  · exact ⟨['-'], by simp, rfl⟩
  · exact ⟨['+'], by simp, rfl⟩
  · exact ⟨[], by simp, rfl⟩

theorem splitSign_append {sign t : Str} (hs : sign ∈ [[], ['-'], ['+']]) (ht : ∀ c ∈ t, IsAsciiDigit c) :
    splitSign (sign ++ t) = (sign == ['-'], t) := by
  simp only [List.mem_cons, List.not_mem_nil, or_false] at hs
  rcases hs with rfl | rfl | rfl
  · cases t with
    | nil => rfl
    | cons c t =>
      have hc := ht c List.mem_cons_self
      have h₁ : c ≠ '-' := fun he => absurd (he ▸ hc) (by decide)
      have h₂ : c ≠ '+' := fun he => absurd (he ▸ hc) (by decide)
      rw [List.nil_append, splitSign]
      · rfl
      · intro r hr
        exact h₁ (List.cons.inj hr).1
      · intro r hr
        exact h₂ (List.cons.inj hr).1
  · rfl
  · rfl

/-- A signed run of decimal digits is brought to ASCII. -/
theorem transform_of_decimals {sign body : Str} (hs : sign ∈ [[], ['-'], ['+']])
    (hb : ∀ c ∈ body, isDecimal c = true) : ∃ t, transformDecimalAndSpace (sign ++ body) = some (sign ++ t) ∧
      t.length = body.length ∧ (∀ c ∈ t, IsAsciiDigit c) ∧ ((∀ c ∈ body, IsAsciiDigit c) → t = body) := by
  unfold transformDecimalAndSpace
  by_cases ha : (sign ++ body).all isAscii = true
  · rw [if_pos ha]
    refine ⟨body, rfl, rfl, fun c hc => isAsciiDigit_of_isDecimal (hb c hc) ?_, fun _ => rfl⟩
    have := List.all_eq_true.1 ha c (List.mem_append_right _ hc)
    simpa [isAscii] using this
  · rw [if_neg ha]
    obtain ⟨t, ht, hl, htd⟩ := mapM_toAscii_of_decimals hb
    have hsign : sign.mapM toAscii = some sign ∧ sign.all isAscii = true := by
      simp only [List.mem_cons, List.not_mem_nil, or_false] at hs
      rcases hs with rfl | rfl | rfl <;> decide
    refine ⟨t, ?_, hl, htd, fun hd => absurd ?_ ha⟩
    · rw [List.mapM_append, hsign.1, ht]
      rfl
    · rw [List.all_append, hsign.2, Bool.true_and, List.all_eq_true]
      intro c hc
      have := isAsciiDigit_iff.1 (hd c hc)
      simp only [isAscii, decide_eq_true_eq]
      omega

/-- **`int` of a signed run of decimal digits**: nothing but their number can refuse it. -/
theorem int_of_decimals {sign body : Str} (hs : sign ∈ [[], ['-'], ['+']]) (hne : body ≠ [])
    (hb : ∀ c ∈ body, isDecimal c = true) : ∃ t : Str, t.length = body.length ∧
      ((∀ c ∈ body, IsAsciiDigit c) → t = body) ∧
      int (sign ++ body) 10 = if maxStrDigits < body.length then none
        else some (if sign == ['-'] then -(ofDigits 10 (t.map (fun c => c.toNat - 48)) : Int)
          else ofDigits 10 (t.map (fun c => c.toNat - 48))) := by
  obtain ⟨t, ht, hl, htd, hsame⟩ := transform_of_decimals hs hb
  have hstrip : stripBy isAsciiSpace (sign ++ t) = sign ++ t := by
    refine stripBy_of_none (fun c hc => ?_)
    rcases List.mem_append.1 hc with hc | hc
    · simp only [List.mem_cons, List.not_mem_nil, or_false] at hs
      rcases hs with rfl | rfl | rfl
      · cases hc
      · rw [List.mem_singleton.1 hc]; rfl
      · rw [List.mem_singleton.1 hc]; rfl
    · have hd := isAsciiDigit_iff.1 (htd c hc)
      simp only [isAsciiSpace, Bool.or_eq_false_iff, Bool.and_eq_false_iff, decide_eq_false_iff_not, beq_eq_false_iff_ne]
      omega
  have htne : t ≠ [] := fun h => hne (List.length_eq_zero_iff.1 (by rw [← hl, h]; rfl))
  refine ⟨t, hl, hsame, ?_⟩
  simp only [int, ht, Option.bind_eq_bind, Option.bind_some, hstrip, splitSign_append hs htd, dropMarker_ten,
    literalDigits_of_digits htne htd, List.length_map, hl, true_and]

/-! ## Numerals of integers -/

theorem isAsciiDigit_of_mem_toDigits {n : Nat} {c : Char} (h : c ∈ Nat.toDigits 10 n) : IsAsciiDigit c := by
  have hd := Nat.isDigit_of_mem_toDigits (by decide) (by decide) h
  simp only [Char.isDigit, Bool.and_eq_true, decide_eq_true_eq] at hd
  exact isAsciiDigit_iff.2 ⟨hd.1, hd.2⟩

/-- **A numeral is read back as its number.** -/
theorem ofDigits_toDigits (n : Nat) : ofDigits 10 ((Nat.toDigits 10 n).map (fun c => c.toNat - 48)) = n := by
  have h := Nat.ofDigitChars_ten_toDigits (n := n)
  rw [Nat.ofDigitChars_eq_foldl] at h
  rw [ofDigits, List.foldl_map]
  refine Eq.trans ?_ h
  congr 1
  funext acc c
  simp [Nat.mul_comm]

theorem strInt_natCast (n : Nat) : strInt (n : Int) = Nat.toDigits 10 n := rfl

theorem strInt_natCast_inj {m n : Nat} (h : strInt (m : Int) = strInt (n : Int)) : m = n := by
  rw [strInt_natCast, strInt_natCast] at h
  rw [← ofDigits_toDigits m, h, ofDigits_toDigits]

theorem strInt_ne_nil (n : Int) : strInt n ≠ [] := by
  cases n with
  | ofNat n => exact Nat.toDigits_ne_nil
  | negSucc n => exact List.cons_ne_nil _ _

/-- A numeral is written in digits and a minus sign. -/
theorem mem_strInt {n : Int} {c : Char} (h : c ∈ strInt n) : c = '-' ∨ IsAsciiDigit c := by
  cases n with
  | ofNat n => exact .inr (isAsciiDigit_of_mem_toDigits h)
  | negSucc n =>
    rcases List.mem_cons.1 h with h | h
    · exact .inl h
    · exact .inr (isAsciiDigit_of_mem_toDigits h)

/-! ## `decimal.Decimal` -/

structure Decimal where
  negative : Bool
  coefficient : Nat
  exponent : Int
  deriving DecidableEq, Repr

namespace Decimal

/-- The digits of the coefficient; zero has one. -/
def digits (d : Decimal) : Nat := Nat.log 10 d.coefficient + 1

/-- The exponent of the leading digit. -/
def adjusted (d : Decimal) : Int := d.exponent + (d.digits - 1)

/-- `MAX_EMAX` and the least exponent of an exact construction. -/
def maxEmax : Int := 999999999999999999
def minEtiny : Int := -1999999999999999997

/-- `Decimal(text)` of a numeral with these parts, `none` for `InvalidOperation`. -/
def construct (d : Decimal) : Option Decimal :=
  if d.adjusted ≤ maxEmax ∧ minEtiny ≤ d.exponent then some d else none

/-- The default context's precision and `Emax`. -/
def precision : Nat := 28
def emax : Int := 999999

/-- `n / m` rounded to the nearest integer, a tie to the even one. -/
def roundHalfEven (n m : Nat) : Nat :=
  if 2 * (n % m) < m then n / m
  else if m < 2 * (n % m) then n / m + 1
  else n / m + n / m % 2

def round (d : Decimal) : Decimal :=
  if d.digits ≤ precision then d
  else
    let shift := d.digits - precision
    let c := roundHalfEven d.coefficient (10 ^ shift)
    if c = 10 ^ precision then { d with coefficient := 10 ^ (precision - 1), exponent := d.exponent + shift + 1 }
    else { d with coefficient := c, exponent := d.exponent + shift }

/-- `value * m` for an `int` that is not negative, `none` for `Overflow`.  A result below `Emin` is left unrounded:
its integer part is zero either way. -/
def mul (d : Decimal) (m : Nat) : Option Decimal :=
  let r := round { d with coefficient := d.coefficient * m }
  if r.coefficient ≠ 0 ∧ emax < r.adjusted then none else some r

/-- `value < 0`. -/
def isNegative (d : Decimal) : Bool := d.negative && d.coefficient ≠ 0

/-- `int(value)`: towards zero. -/
def toInt (d : Decimal) : Int :=
  let n : Nat :=
    if 0 ≤ d.exponent then d.coefficient * 10 ^ d.exponent.toNat
    else if (d.digits : Int) ≤ -d.exponent then 0
    else d.coefficient / 10 ^ (-d.exponent).toNat
  if d.negative then -(n : Int) else n

end Decimal
end Py
