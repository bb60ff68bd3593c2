import TtMetricsExporter.PyDecimal
import TtMetricsExporter.PyInt
/-!
# PyFormat — `format(x, ".<p>g")`

A number is rounded half-even to `p` significant digits, which are written in positional or in scientific notation,
without trailing zeros.  The text denotes the rounded number (`numeralValue_formatPositive`), and that is a multiple of a
unit of the last digit that comes within half a unit (`significant_spec`).
-/
namespace Py

/-! ## Formatting -/

/-- The coefficient of `p` digits that a positive number is rounded to, and the exponent of its unit. -/
def significant (p : Nat) (x : Rat) : Nat × Int :=
  let unit := Int.log 10 x - (p - 1 : Nat)
  let scaled := x / 10 ^ unit
  let coefficient := Decimal.roundHalfEven scaled.num.natAbs scaled.den
  -- A carry to another digit only moves the point.
  if coefficient = 10 ^ p then (10 ^ (p - 1), unit + 1) else (coefficient, unit)

/-- A fraction loses its trailing zeros, and the point with the last of its digits. -/
def pointed (whole fraction : Str) : Str :=
  let kept := fraction.rdropWhile (· = '0')
  if kept = [] then whole else whole ++ '.' :: kept

/-- An exponent has a sign and at least two digits. -/
def exponentText (exponent : Int) : Str :=
  let digits := Nat.toDigits 10 exponent.natAbs
  'e' :: (if exponent < 0 then '-' else '+') :: (if digits.length < 2 then '0' :: digits else digits)

/-- The text of a positive number. -/
def formatPositive (p : Nat) (x : Rat) : Str :=
  let (coefficient, unit) := significant p x
  let digits := Nat.toDigits 10 coefficient
  let exponent := unit + (p - 1 : Nat)
  if exponent < -4 ∨ p ≤ exponent then pointed (digits.take 1) (digits.drop 1) ++ exponentText exponent
  else if exponent < 0 then pointed ['0'] (List.replicate (-exponent - 1).toNat '0' ++ digits)
  else pointed (digits.take (exponent.toNat + 1)) (digits.drop (exponent.toNat + 1))

/-- `format(x, ".<p>g")`. -/
def formatGeneral (p : Nat) (x : Rat) : Str :=
  if x = 0 then ['0'] else if x < 0 then '-' :: formatPositive p (-x) else formatPositive p x

/-! ## What a numeral denotes -/

/-- The number that a decimal numeral denotes: a sign, digits with a point among them, and an exponent. -/
def numeralValue (text : Str) : Rat :=
  let (negative, body) := splitSign text
  let (mantissa, power) := splitOnce 'e' body
  let (whole, fraction) := splitOnce '.' mantissa
  let (below, digits) := splitSign power
  let exponent : Int := if below then -plainValue 10 digits else plainValue 10 digits
  (if negative then -1 else 1) * plainValue 10 (whole ++ fraction) * 10 ^ (exponent - fraction.length)

/-! ## Values of digits -/

theorem ofDigits_append (base : Nat) (ds es : List Nat) :
    ofDigits base (ds ++ es) = ofDigits base ds * base ^ es.length + ofDigits base es := by
  induction es using List.reverseRecOn with
  | nil => simp [ofDigits]
  | append_singleton es e ih =>
    have hconcat : ∀ l : List Nat, ofDigits base (l ++ [e]) = ofDigits base l * base + e := fun l => by
      unfold ofDigits
      rw [List.foldl_append]
      rfl
    rw [← List.append_assoc, hconcat, hconcat, ih, List.length_append, List.length_singleton, pow_succ]
    ring

theorem plainValue_append {s t : Str} (ht : ∀ c ∈ t, IsAsciiDigit c) :
    plainValue 10 (s ++ t) = plainValue 10 s * 10 ^ t.length + plainValue 10 t := by
  have hlength : (t.filterMap digitValue).length = t.length := by
    rw [List.filterMap_length_eq_length]
    intro c hc
    rw [digitValue_of_isAsciiDigit (ht c hc)]
    rfl
  unfold plainValue
  rw [List.filterMap_append, ofDigits_append, hlength]

theorem isAsciiDigit_zero : IsAsciiDigit '0' := by decide

theorem plainValue_replicate_zero : ∀ n : Nat, plainValue 10 (List.replicate n '0') = 0
  | 0 => rfl
  | n + 1 => by
    have hzero : plainValue 10 ['0'] = 0 := rfl
    rw [List.replicate_succ', plainValue_append (by simpa using isAsciiDigit_zero), plainValue_replicate_zero n, hzero,
      Nat.zero_mul]

theorem plainValue_toDigits (n : Nat) : plainValue 10 (Nat.toDigits 10 n) = n := by
  have hdigits : (Nat.toDigits 10 n).filterMap digitValue = (Nat.toDigits 10 n).map (fun c => c.toNat - 48) := by
    rw [← List.filterMap_eq_map]
    apply List.filterMap_congr
    intro c hc
    exact digitValue_of_isAsciiDigit (isAsciiDigit_of_mem_toDigits hc)
  unfold plainValue
  rw [hdigits, ofDigits_toDigits]

/-! ## The parts of a numeral -/

/-- A text without the separator may stand before one that starts with it. -/
theorem splitOnce_before {sep : Char} {before after : Str} (hb : sep ∉ before)
    (ha : after = [] ∨ ∃ rest, after = sep :: rest) : splitOnce sep (before ++ after) = (before, after.tail) := by
  have hall : ∀ c ∈ before, decide (c ≠ sep) = true := fun c hc => decide_eq_true (fun he => hb (he ▸ hc))
  unfold splitOnce
  rw [List.takeWhile_append_of_pos hall, List.dropWhile_append_of_pos hall]
  rcases ha with rfl | ⟨rest, rfl⟩
  · rw [List.takeWhile_nil, List.dropWhile_nil, List.append_nil]
  · rw [List.takeWhile_cons_of_neg (by simp), List.dropWhile_cons_of_neg (by simp), List.append_nil]

theorem ne_of_isAsciiDigit {c d : Char} (hc : IsAsciiDigit c) (hd : ¬ IsAsciiDigit d) : c ≠ d := fun he => hd (he ▸ hc)

theorem notMem_of_digits {s : Str} {d : Char} (h : ∀ c ∈ s, IsAsciiDigit c) (hd : ¬ IsAsciiDigit d) : d ∉ s :=
  fun hm => hd (h d hm)

theorem splitSign_of_digits {s : Str} (hne : s ≠ []) (h : ∀ c ∈ s, IsAsciiDigit c) (rest : Str) :
    splitSign (s ++ rest) = (false, s ++ rest) := by
  obtain ⟨c, s, rfl⟩ := List.exists_cons_of_ne_nil hne
  apply splitSign_of_head
  have hc := h c List.mem_cons_self
  have hminus : c ≠ '-' := ne_of_isAsciiDigit hc (by decide)
  have hplus : c ≠ '+' := ne_of_isAsciiDigit hc (by decide)
  simp [hminus, hplus]

/-- What `exponentText` writes: the exponents that a numeral may end in. -/
inductive Power : Str → Int → Prop
  | none : Power [] 0
  | some (exponent : Int) : Power (exponentText exponent) exponent

theorem Power.splitSign {tail : Str} {exponent : Int} (h : Power tail exponent) :
    let (below, digits) := splitSign tail.tail
    (if below then -(plainValue 10 digits : Int) else plainValue 10 digits) = exponent := by
  cases h with
  | none => rfl
  | some =>
    have hvalue : plainValue 10 (if (Nat.toDigits 10 exponent.natAbs).length < 2 then
        '0' :: Nat.toDigits 10 exponent.natAbs else Nat.toDigits 10 exponent.natAbs) = exponent.natAbs := by
      split
      · have h := @plainValue_append ['0'] _ (fun c => @isAsciiDigit_of_mem_toDigits exponent.natAbs c)
        have hzero : plainValue 10 ['0'] = 0 := rfl
        rw [hzero, Nat.zero_mul, Nat.zero_add, plainValue_toDigits] at h
        exact h
      · exact plainValue_toDigits _
    unfold exponentText
    by_cases hneg : exponent < 0
    · simp only [if_pos hneg, List.tail_cons, Py.splitSign, if_true, hvalue]
      omega
    · simp only [if_neg hneg, List.tail_cons, Py.splitSign, Bool.false_eq_true, if_false, hvalue]
      omega

theorem Power.starts {tail : Str} {exponent : Int} (h : Power tail exponent) :
    tail = [] ∨ ∃ rest, tail = 'e' :: rest := by
  cases h with
  | none => exact .inl rfl
  | some => exact .inr ⟨_, rfl⟩

/-- **A mantissa and an exponent denote their product.** -/
theorem numeralValue_pointed {whole fraction tail : Str} {exponent : Int} (hne : whole ≠ [])
    (hw : ∀ c ∈ whole, IsAsciiDigit c) (hf : ∀ c ∈ fraction, IsAsciiDigit c) (ht : Power tail exponent) :
    numeralValue (pointed whole fraction ++ tail) =
      plainValue 10 (whole ++ fraction) * 10 ^ (exponent - fraction.length) := by
  obtain ⟨kept, n, hfraction, hkept⟩ : ∃ kept n, fraction = kept ++ List.replicate n '0' ∧
      pointed whole fraction = if kept = [] then whole else whole ++ '.' :: kept := by
    refine ⟨fraction.rdropWhile (· = '0'), (fraction.rtakeWhile (· = '0')).length, ?_, rfl⟩
    have hzeros : fraction.rtakeWhile (· = '0') = List.replicate (fraction.rtakeWhile (· = '0')).length '0' := by
      rw [List.eq_replicate_iff]
      exact ⟨rfl, fun c hc => by simpa using List.mem_rtakeWhile_imp hc⟩
    rw [← hzeros, List.rdropWhile_append_rtakeWhile]
  obtain ⟨point, hpoint, hstarts, htail, hdigits⟩ : ∃ point, pointed whole fraction = whole ++ point ∧
      (point = [] ∨ ∃ rest, point = '.' :: rest) ∧ point.tail = kept ∧ 'e' ∉ whole ++ point := by
    have he : 'e' ∉ whole := notMem_of_digits hw (by decide)
    have hek : 'e' ∉ kept := notMem_of_digits (fun c hc => hf c (by rw [hfraction]; exact List.mem_append_left _ hc))
      (by decide)
    rw [hkept]
    by_cases hnil : kept = []
    · rw [if_pos hnil, hnil]
      exact ⟨[], (List.append_nil whole).symm, .inl rfl, rfl, by rwa [List.append_nil]⟩
    · rw [if_neg hnil]
      refine ⟨'.' :: kept, rfl, .inr ⟨kept, rfl⟩, rfl, ?_⟩
      rw [List.mem_append, List.mem_cons, not_or, not_or]
      exact ⟨he, by decide, hek⟩
  have hpower := ht.splitSign
  have hsign : splitSign (whole ++ point ++ tail) = (false, whole ++ point ++ tail) := by
    rw [List.append_assoc]
    exact splitSign_of_digits hne hw _
  have hzeros : plainValue 10 (whole ++ fraction) = plainValue 10 (whole ++ kept) * 10 ^ n := by
    rw [hfraction, ← List.append_assoc, plainValue_append, plainValue_replicate_zero, List.length_replicate, Nat.add_zero]
    intro c hc
    rw [List.eq_of_mem_replicate hc]
    exact isAsciiDigit_zero
  unfold numeralValue
  rw [hpoint, hsign]
  dsimp only
  rw [splitOnce_before hdigits ht.starts]
  dsimp only
  rw [splitOnce_before (notMem_of_digits hw (by decide)) hstarts, htail]
  dsimp only at hpower ⊢
  rw [hpower, hzeros, hfraction, List.length_append, List.length_replicate]
  push_cast
  rw [one_mul, mul_assoc, ← zpow_natCast, ← zpow_add₀ (by norm_num)]
  congr 2
  ring

/-! ## Rounding -/

/-- **Rounding stays within half.** -/
theorem roundHalfEven_near {n k : Nat} (hk : 0 < k) : 2 * (Decimal.roundHalfEven n k * k) ≤ 2 * n + k ∧
    2 * n ≤ 2 * (Decimal.roundHalfEven n k * k) + k := by
  have hn := Nat.div_add_mod n k
  have hr := Nat.mod_lt n hk
  unfold Decimal.roundHalfEven
  generalize n / k = q at *
  generalize n % k = r at *
  have hq : q * k = k * q := Nat.mul_comm q k
  have hq1 : (q + 1) * k = k * q + k := by rw [Nat.add_mul, hq, Nat.one_mul]
  by_cases hlow : 2 * r < k
  · rw [if_pos hlow]
    omega
  · rw [if_neg hlow]
    by_cases hhigh : k < 2 * r
    · rw [if_pos hhigh]
      omega
    · rw [if_neg hhigh]
      rcases Nat.mod_two_eq_zero_or_one q with he | he <;> rw [he]
      · rw [Nat.add_zero]
        omega
      · omega

section Significant
variable {p : Nat} {x : Rat}

/-- A unit of the last of `p` significant digits. -/
def unitOf (p : Nat) (x : Rat) : Rat := 10 ^ (Int.log 10 x - (p - 1 : Nat))

theorem unitOf_pos (p : Nat) (x : Rat) : 0 < unitOf p x := by
  unfold unitOf
  positivity

/-- A positive number has its first significant digit before the last unit. -/
theorem unitOf_bounds (hp : 1 ≤ p) (hx : 0 < x) : 10 ^ (p - 1) * unitOf p x ≤ x ∧ x < 10 ^ p * unitOf p x := by
  have hlow : (10 : ℚ) ^ Int.log 10 x ≤ x := by exact_mod_cast Int.zpow_log_le_self (b := 10) (by norm_num) hx
  have hhigh : x < (10 : ℚ) ^ (Int.log 10 x + 1) := by
    exact_mod_cast Int.lt_zpow_succ_log_self (b := 10) (by norm_num) x
  have hunits : ∀ k : Nat, (10 : ℚ) ^ k * unitOf p x = 10 ^ (Int.log 10 x + k - (p - 1 : Nat)) := by
    intro k
    unfold unitOf
    rw [← zpow_natCast, ← zpow_add₀ (by norm_num)]
    congr 1
    omega
  constructor
  · rw [hunits]
    have he : Int.log 10 x + ((p - 1 : Nat) : ℤ) - (p - 1 : Nat) = Int.log 10 x := by omega
    rwa [he]
  · rw [hunits]
    have he : Int.log 10 x + (p : ℤ) - (p - 1 : Nat) = Int.log 10 x + 1 := by omega
    rwa [he]

/-- **What a number is rounded to**: a coefficient of `p` digits, which is worth a multiple of the unit within half a
unit of the number. -/
theorem significant_spec (hp : 1 ≤ p) (hx : 0 < x) :
    10 ^ (p - 1) ≤ (significant p x).1 ∧ (significant p x).1 < 10 ^ p ∧
    ∃ k : Nat, (significant p x).1 * (10 : ℚ) ^ (significant p x).2 = k * unitOf p x ∧
      |k * unitOf p x - x| ≤ unitOf p x / 2 := by
  have hu := unitOf_pos p x
  obtain ⟨hlow, hhigh⟩ := unitOf_bounds hp hx
  have hscaled : x = ((x / unitOf p x).num.natAbs : ℚ) / (x / unitOf p x).den * unitOf p x := by
    have hpos : 0 < x / unitOf p x := div_pos hx hu
    have hnum : (((x / unitOf p x).num.natAbs : Nat) : ℚ) = (x / unitOf p x).num := by
      rw [← Int.cast_natCast, Int.natAbs_of_nonneg (Rat.num_nonneg.2 hpos.le)]
    rw [hnum, Rat.num_div_den, div_mul_cancel₀ _ hu.ne']
  have hden : 0 < (x / unitOf p x).den := (x / unitOf p x).den_pos
  have hvalue : significant p x =
      if Decimal.roundHalfEven (x / unitOf p x).num.natAbs (x / unitOf p x).den = 10 ^ p then
        (10 ^ (p - 1), Int.log 10 x - (p - 1 : Nat) + 1)
      else (Decimal.roundHalfEven (x / unitOf p x).num.natAbs (x / unitOf p x).den, Int.log 10 x - (p - 1 : Nat)) := rfl
  have hnear := @roundHalfEven_near (x / unitOf p x).num.natAbs _ hden
  have hunit : (10 : ℚ) ^ (Int.log 10 x - (p - 1 : Nat)) = unitOf p x := rfl
  rw [hvalue]
  generalize (x / unitOf p x).num.natAbs = n at *
  generalize (x / unitOf p x).den = d at *
  generalize Decimal.roundHalfEven n d = k at *
  generalize unitOf p x = u at *
  have hd : (0 : ℚ) < d := by exact_mod_cast hden
  have hn : 10 ^ (p - 1) * d ≤ n ∧ n < 10 ^ p * d := by
    rw [hscaled] at hlow hhigh
    have hlow' := le_of_mul_le_mul_right hlow hu
    have hhigh' := lt_of_mul_lt_mul_right hhigh hu.le
    rw [le_div_iff₀ hd] at hlow'
    rw [div_lt_iff₀ hd] at hhigh'
    exact ⟨by exact_mod_cast hlow', by exact_mod_cast hhigh'⟩
  have hklow : 10 ^ (p - 1) ≤ k := by
    by_contra hlt
    have h := Nat.mul_le_mul_right d (Nat.lt_of_not_le hlt)
    rw [Nat.succ_mul] at h
    omega
  have hkhigh : k ≤ 10 ^ p := by
    by_contra hlt
    have h := Nat.mul_le_mul_right d (Nat.lt_of_not_le hlt)
    rw [Nat.succ_mul] at h
    omega
  have hclose : |k * u - x| ≤ u / 2 := by
    have hbelow : (2 : ℚ) * (k * d) ≤ 2 * n + d := by exact_mod_cast hnear.1
    have habove : (2 : ℚ) * n ≤ 2 * (k * d) + d := by exact_mod_cast hnear.2
    have hfactor : k * u - x = (2 * (k * d) - 2 * n) * (u / (2 * d)) := by
      rw [hscaled]
      field_simp
    have hpos : 0 < u / (2 * d) := by positivity
    have hhalf : u / 2 = d * (u / (2 * d)) := by field_simp
    rw [hfactor, hhalf, abs_mul, abs_of_pos hpos, mul_le_mul_iff_left₀ hpos, abs_le]
    constructor <;> linarith
  have hp1 : 10 ^ p = 10 ^ (p - 1) * 10 := by rw [← pow_succ, Nat.sub_add_cancel hp]
  have hpos : 0 < 10 ^ (p - 1) := Nat.pow_pos (by decide)
  by_cases hcarry : k = 10 ^ p
  · rw [if_pos hcarry]
    refine ⟨le_refl _, by omega, k, ?_, hclose⟩
    rw [zpow_add₀ (by norm_num), hunit, hcarry, hp1]
    push_cast
    ring
  · rw [if_neg hcarry]
    exact ⟨hklow, by omega, k, by rw [hunit], hclose⟩

/-- **The text of a positive number denotes what it is rounded to.** -/
theorem numeralValue_formatPositive (hp : 1 ≤ p) (hx : 0 < x) : numeralValue (formatPositive p x) =
    (significant p x).1 * (10 : ℚ) ^ (significant p x).2 := by
  obtain ⟨hlow, hhigh, -⟩ := significant_spec hp hx
  unfold formatPositive
  dsimp only
  generalize (significant p x).1 = c at *
  generalize (significant p x).2 = unit at *
  have hdigits : ∀ d ∈ Nat.toDigits 10 c, IsAsciiDigit d := fun d => isAsciiDigit_of_mem_toDigits
  have hlength : (Nat.toDigits 10 c).length = p := by
    have hle := (Nat.length_toDigits_le_iff (n := c) (k := p) (by decide) hp).2 hhigh
    have hge : ¬ (Nat.toDigits 10 c).length ≤ p - 1 := by
      rcases Nat.eq_or_lt_of_le hp with rfl | hp1
      · have h := @Nat.length_toDigits_pos 10 c
        omega
      · rw [Nat.length_toDigits_le_iff (by decide) (by omega)]
        omega
    omega
  have htake : ∀ k, ∀ d ∈ (Nat.toDigits 10 c).take k, IsAsciiDigit d := fun k d hd => hdigits d (List.mem_of_mem_take hd)
  have hdrop : ∀ k, ∀ d ∈ (Nat.toDigits 10 c).drop k, IsAsciiDigit d := fun k d hd => hdigits d (List.mem_of_mem_drop hd)
  have hwhole : ∀ k, (Nat.toDigits 10 c).take (k + 1) ≠ [] := by
    intro k h
    have := congrArg List.length h
    rw [List.length_take, List.length_nil] at this
    omega
  by_cases hscientific : unit + ((p - 1 : Nat) : ℤ) < -4 ∨ (p : ℤ) ≤ unit + (p - 1 : Nat)
  · rw [if_pos hscientific, numeralValue_pointed (hwhole 0) (htake 1) (hdrop 1) (.some _), List.take_append_drop,
      plainValue_toDigits, List.length_drop, hlength]
    congr 2
    omega
  · rw [if_neg hscientific]
    by_cases hbelow : unit + ((p - 1 : Nat) : ℤ) < 0
    · have hzeros : ∀ d ∈ List.replicate (-(unit + ((p - 1 : Nat) : ℤ)) - 1).toNat '0', IsAsciiDigit d := by
        intro d hd
        rw [List.eq_of_mem_replicate hd]
        exact isAsciiDigit_zero
      have hvalue := numeralValue_pointed (List.cons_ne_nil '0' []) (by simpa using isAsciiDigit_zero)
        (fun d hd => (List.mem_append.1 hd).elim (hzeros d) (hdigits d)) .none
      rw [List.append_nil, ← List.append_assoc, plainValue_append hdigits, List.singleton_append, ← List.replicate_succ,
        plainValue_replicate_zero, Nat.zero_mul, Nat.zero_add, plainValue_toDigits, List.length_append,
        List.length_replicate, hlength] at hvalue
      rw [if_pos hbelow, hvalue]
      congr 2
      omega
    · have hvalue := numeralValue_pointed (hwhole (unit + ((p - 1 : Nat) : ℤ)).toNat) (htake _)
        (hdrop ((unit + ((p - 1 : Nat) : ℤ)).toNat + 1)) .none
      rw [List.append_nil, List.take_append_drop, plainValue_toDigits, List.length_drop, hlength] at hvalue
      rw [if_neg hbelow, hvalue]
      congr 2
      omega

end Significant

/-! ## One line -/

theorem mem_pointed {whole fraction : Str} {c : Char} (h : c ∈ pointed whole fraction) :
    c ∈ whole ∨ c = '.' ∨ c ∈ fraction := by
  unfold pointed at h
  dsimp only at h
  split at h
  · exact .inl h
  · rcases List.mem_append.1 h with h | h
    · exact .inl h
    · rcases List.mem_cons.1 h with h | h
      · exact .inr (.inl h)
      · exact .inr (.inr ((List.rdropWhile_prefix _ _).subset h))

theorem mem_exponentText {exponent : Int} {c : Char} (h : c ∈ exponentText exponent) :
    c ∈ ['e', '-', '+'] ∨ IsAsciiDigit c := by
  unfold exponentText at h
  dsimp only at h
  rcases List.mem_cons.1 h with rfl | h
  · exact .inl (by decide)
  · rcases List.mem_cons.1 h with h | h
    · split at h
      · exact .inl (by rw [h]; decide)
      · exact .inl (by rw [h]; decide)
    · split at h
      · rcases List.mem_cons.1 h with rfl | h
        · exact .inr isAsciiDigit_zero
        · exact .inr (isAsciiDigit_of_mem_toDigits h)
      · exact .inr (isAsciiDigit_of_mem_toDigits h)

theorem mem_formatPositive {p : Nat} {x : Rat} {c : Char} (h : c ∈ formatPositive p x) :
    c ∈ ['.', 'e', '-', '+'] ∨ IsAsciiDigit c := by
  have hpointed : ∀ {whole fraction : Str}, (∀ c ∈ whole, IsAsciiDigit c) → (∀ c ∈ fraction, IsAsciiDigit c) →
      c ∈ pointed whole fraction → c ∈ ['.', 'e', '-', '+'] ∨ IsAsciiDigit c := by
    intro whole fraction hw hf hc
    rcases mem_pointed hc with hc | rfl | hc
    · exact .inr (hw c hc)
    · exact .inl (by decide)
    · exact .inr (hf c hc)
  have hdigits : ∀ {n : Nat}, ∀ d ∈ Nat.toDigits 10 n, IsAsciiDigit d := fun d => isAsciiDigit_of_mem_toDigits
  unfold formatPositive at h
  dsimp only at h
  split at h
  · rcases List.mem_append.1 h with h | h
    · exact hpointed (fun d hd => hdigits d (List.mem_of_mem_take hd)) (fun d hd => hdigits d (List.mem_of_mem_drop hd)) h
    · rcases mem_exponentText h with h | h
      · exact .inl (List.mem_cons_of_mem _ h)
      · exact .inr h
  · split at h
    · refine hpointed (by simpa using isAsciiDigit_zero) (fun d hd => ?_) h
      rcases List.mem_append.1 hd with hd | hd
      · rw [List.eq_of_mem_replicate hd]
        exact isAsciiDigit_zero
      · exact hdigits d hd
    · exact hpointed (fun d hd => hdigits d (List.mem_of_mem_take hd)) (fun d hd => hdigits d (List.mem_of_mem_drop hd)) h

theorem line_formatGeneral (p : Nat) (x : Rat) : '\n' ∉ formatGeneral p x := by
  have hpositive : ∀ y, '\n' ∉ formatPositive p y := by
    intro y h
    rcases mem_formatPositive h with h | h
    · exact absurd h (by decide)
    · exact absurd h (by decide)
  unfold formatGeneral
  split
  · decide
  · split
    · exact fun h => (List.mem_cons.1 h).elim (by decide) (hpositive _)
    · exact hpositive x

end Py
