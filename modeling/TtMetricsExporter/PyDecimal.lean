import TtMetricsExporter.PyNumber
/-!
# PyDecimal — what a rounded product of `Decimal` is worth

The exact magnitude of a `Decimal` as a rational, and what `Decimal.mul` makes of it.  The product is rounded half-even
to 28 significant digits, so it reaches an even multiple of a unit of the last of these exactly when the exact product
comes within half a unit of it (`le_round_iff`); this gives the integer part of the rounded product (`toInt_of_mul`) and when
the product overflows (`mul_eq_none_iff`).
-/
namespace Py
namespace Decimal

/-- The exact magnitude. -/
def magnitude (d : Decimal) : ℚ := d.coefficient * 10 ^ d.exponent

theorem magnitude_nonneg (d : Decimal) : 0 ≤ d.magnitude := by
  unfold magnitude
  positivity

/-- A unit of the 28th significant digit. -/
def ulp (x : ℚ) : ℚ := 10 ^ (Int.log 10 x - 27)

theorem ulp_pos (x : ℚ) : 0 < ulp x := by
  unfold ulp
  positivity

/-! ## Rounding -/

/-- **Rounding reaches an even number exactly from half below it.** -/
theorem le_roundHalfEven_iff {n k t : Nat} (hk : 0 < k) (ht : t % 2 = 0) :
    t ≤ roundHalfEven n k ↔ 2 * (t * k) ≤ 2 * n + k := by
  have hn := Nat.div_add_mod n k
  have hr := Nat.mod_lt n hk
  generalize n / k = q at *
  generalize n % k = r at *
  subst hn
  have hdiv : (k * q + r) / k = q := by rw [Nat.mul_add_div hk, Nat.div_eq_of_lt hr, Nat.add_zero]
  have hmod : (k * q + r) % k = r := by rw [Nat.mul_add_mod, Nat.mod_eq_of_lt hr]
  rw [roundHalfEven, hdiv, hmod]
  rcases Nat.lt_trichotomy (q + 1) t with hqt | hqt | hqt
  · have hle : (q + 2) * k ≤ t * k := Nat.mul_le_mul_right k hqt
    have he : (q + 2) * k = k * q + 2 * k := by ring
    constructor
    · intro h
      split at h
      · omega
      · split at h <;> omega
    · intro h
      omega
  · subst hqt
    have he : (q + 1) * k = k * q + k := by ring
    rw [he]
    constructor
    · intro h
      split at h
      · omega
      · omega
    · intro h
      rw [if_neg (by omega)]
      split <;> omega
  · have hle : t * k ≤ q * k := Nat.mul_le_mul_right k (by omega)
    have he : q * k = k * q := by ring
    refine iff_of_true ?_ (by omega)
    split
    · omega
    · split <;> omega

/-! ## Magnitudes -/

theorem magnitude_pos {d : Decimal} (h : d.coefficient ≠ 0) : 0 < d.magnitude := by
  unfold magnitude
  have : (0 : ℚ) < d.coefficient := by exact_mod_cast Nat.pos_of_ne_zero h
  positivity

theorem adjusted_eq (d : Decimal) : d.adjusted = d.exponent + (Nat.log 10 d.coefficient : ℤ) := by
  unfold adjusted digits
  push_cast
  ring

/-- The leading digit's exponent is the magnitude's logarithm. -/
theorem log_magnitude {d : Decimal} (h : d.coefficient ≠ 0) : Int.log 10 d.magnitude = d.adjusted := by
  have hpos := magnitude_pos h
  have hlow : (10 : ℚ) ^ d.adjusted ≤ d.magnitude := by
    rw [adjusted_eq, magnitude, zpow_add₀ (by norm_num), zpow_natCast, mul_comm]
    have hc : ((10 ^ Nat.log 10 d.coefficient : ℕ) : ℚ) ≤ d.coefficient := by
      exact_mod_cast Nat.pow_log_le_self 10 h
    push_cast at hc
    gcongr
  have hhigh : d.magnitude < (10 : ℚ) ^ (d.adjusted + 1) := by
    rw [adjusted_eq, magnitude, add_assoc, zpow_add₀ (by norm_num), mul_comm]
    have hc : (d.coefficient : ℚ) < ((10 ^ (Nat.log 10 d.coefficient + 1) : ℕ) : ℚ) := by
      exact_mod_cast Nat.lt_pow_succ_log_self (by norm_num) d.coefficient
    push_cast at hc
    have he : ((Nat.log 10 d.coefficient : ℤ) + 1) = ((Nat.log 10 d.coefficient + 1 : ℕ) : ℤ) := by push_cast; ring
    rw [he, zpow_natCast]
    gcongr
  have h₁ := (Int.zpow_le_iff_le_log (b := 10) (by norm_num) hpos).1 (by exact_mod_cast hlow)
  have h₂ := (Int.lt_zpow_iff_log_lt (b := 10) (by norm_num) hpos).1 (by exact_mod_cast hhigh)
  omega

/-- A multiple of a unit, in units. -/
theorem ulp_magnitude {d : Decimal} (h : d.coefficient ≠ 0) : ulp d.magnitude = 10 ^ (d.exponent + d.digits - 28) := by
  rw [ulp, log_magnitude h, adjusted]
  congr 1
  ring

/-- **A decimal rounded to 28 digits** reaches an even multiple of the unit exactly when it comes within half a unit. -/
theorem le_round_iff {d : Decimal} (h : d.coefficient ≠ 0) {t : Nat} (ht : t % 2 = 0) :
    t * ulp d.magnitude ≤ (round d).magnitude ↔ t * ulp d.magnitude ≤ d.magnitude + ulp d.magnitude / 2 := by
  have hu := ulp_pos d.magnitude
  unfold round
  by_cases hd : d.digits ≤ precision
  · rw [if_pos hd]
    -- The magnitude is itself a multiple of the unit.
    obtain ⟨s, hs⟩ : ∃ s : Nat, d.magnitude = s * ulp d.magnitude := by
      refine ⟨d.coefficient * 10 ^ (28 - d.digits), ?_⟩
      rw [ulp_magnitude h, magnitude]
      push_cast
      rw [mul_assoc, ← zpow_natCast, ← zpow_add₀ (by norm_num)]
      unfold precision at hd
      congr 2
      push_cast [Nat.cast_sub hd]
      ring
    generalize ulp d.magnitude = u at *
    rw [hs]
    constructor
    · intro hle
      linarith
    · intro hle
      have hlt : (t : ℚ) < s + 1 := by
        have : (t : ℚ) * u < (s + 1) * u := by linarith
        exact lt_of_mul_lt_mul_right this hu.le
      have hts : t ≤ s := by
        have : t < s + 1 := by exact_mod_cast hlt
        omega
      have : (t : ℚ) ≤ s := by exact_mod_cast hts
      exact mul_le_mul_of_nonneg_right this hu.le
  · rw [if_neg hd]
    dsimp only
    have hround := le_roundHalfEven_iff (n := d.coefficient) (Nat.pos_of_ne_zero (pow_ne_zero (d.digits - precision)
      (by norm_num : (10 : Nat) ≠ 0))) ht
    have hshift : ((d.digits - precision : Nat) : ℤ) = d.digits - 28 := by
      unfold precision at hd ⊢
      omega
    have hunit : ulp d.magnitude = ((10 ^ (d.digits - precision) : Nat) : ℚ) * 10 ^ d.exponent := by
      rw [ulp_magnitude h]
      push_cast
      rw [← zpow_natCast, ← zpow_add₀ (by norm_num), hshift]
      congr 1
      ring
    have hscale : (10 : ℚ) ^ (d.exponent + (d.digits - precision : Nat)) = ulp d.magnitude := by
      rw [ulp_magnitude h, hshift]
      congr 1
      ring
    -- A carry to a 29th digit only moves the point.
    have hvalue : (if roundHalfEven d.coefficient (10 ^ (d.digits - precision)) = 10 ^ precision then
        ({ d with coefficient := 10 ^ (precision - 1), exponent := d.exponent + (d.digits - precision : Nat) + 1 } : Decimal)
        else { d with
          coefficient := roundHalfEven d.coefficient (10 ^ (d.digits - precision))
          exponent := d.exponent + (d.digits - precision : Nat) }).magnitude =
        roundHalfEven d.coefficient (10 ^ (d.digits - precision)) * ulp d.magnitude := by
      split
      · rename_i hc
        rw [hc, magnitude, ← hscale]
        dsimp only
        rw [zpow_add₀ (by norm_num : (10 : ℚ) ≠ 0) _ 1, precision]
        norm_num
        ring
      · rw [magnitude, hscale]
    rw [hvalue, mul_le_mul_iff_left₀ hu, Nat.cast_le, hround]
    have hscaled : (0 : ℚ) < 10 ^ d.exponent := by positivity
    have hsum : d.magnitude + ulp d.magnitude / 2 =
        ((2 * d.coefficient + 10 ^ (d.digits - precision) : Nat) : ℚ) * (10 ^ d.exponent / 2) := by
      rw [hunit, magnitude]
      push_cast
      ring
    have hprod : t * ulp d.magnitude = ((2 * (t * 10 ^ (d.digits - precision)) : Nat) : ℚ) * (10 ^ d.exponent / 2) := by
      rw [hunit]
      push_cast
      ring
    rw [hsum, hprod, mul_le_mul_iff_left₀ (by positivity), Nat.cast_le]

theorem round_eq_of_zero {d : Decimal} (h : d.coefficient = 0) : round d = d := by
  unfold round digits
  rw [h]
  rfl

theorem magnitude_eq_zero {d : Decimal} (h : d.coefficient = 0) : d.magnitude = 0 := by
  simp [magnitude, h]

/-- A power of ten at least as large as two units is an even multiple of a unit. -/
theorem exists_even_multiple {x : ℚ} {k : ℤ} (h : Int.log 10 x - 27 < k) (n : Nat) :
    ∃ t : Nat, t % 2 = 0 ∧ (n : ℚ) * 10 ^ k = t * ulp x := by
  obtain ⟨j, hj⟩ : ∃ j : Nat, k = Int.log 10 x - 27 + (j + 1 : Nat) := ⟨(k - (Int.log 10 x - 27) - 1).toNat, by omega⟩
  refine ⟨n * 10 ^ (j + 1), ?_, ?_⟩
  · rw [Nat.mul_mod, Nat.pow_succ, Nat.mul_mod (10 ^ j)]
    simp
  · rw [hj, zpow_add₀ (by norm_num), ulp, zpow_natCast]
    push_cast
    ring

/-- **A rounded decimal reaches a power of ten** exactly when it comes within half a unit of it. -/
theorem pow_le_round_iff {d : Decimal} (h : d.coefficient ≠ 0) (k : ℤ) :
    10 ^ k ≤ (round d).magnitude ↔ 10 ^ k ≤ d.magnitude + ulp d.magnitude / 2 := by
  have hu := ulp_pos d.magnitude
  rcases lt_or_ge (Int.log 10 d.magnitude - 27) k with hk | hk
  · obtain ⟨t, ht, he⟩ := exists_even_multiple hk 1
    rw [Nat.cast_one, one_mul] at he
    rw [he]
    exact le_round_iff h ht
  · -- The whole unit is beyond the power, and the decimal beyond its unit.
    have hpow : (10 : ℚ) ^ k ≤ ulp d.magnitude := zpow_le_zpow_right₀ (by norm_num) hk
    have hlog : (10 : ℚ) ^ Int.log 10 d.magnitude ≤ d.magnitude := by
      exact_mod_cast Int.zpow_log_le_self (b := 10) (by norm_num) (magnitude_pos h)
    have hunits : (10 : ℚ) ^ Int.log 10 d.magnitude = 10 ^ 27 * ulp d.magnitude := by
      rw [ulp, zpow_sub₀ (by norm_num)]
      norm_num
      ring
    have hreach : ((2 : Nat) : ℚ) * ulp d.magnitude ≤ d.magnitude + ulp d.magnitude / 2 := by
      rw [hunits] at hlog
      push_cast
      linarith
    have hround := (le_round_iff h (by norm_num)).2 hreach
    push_cast at hround hreach
    exact iff_of_true (by linarith) (by linarith)

/-- Below 28 digits before the point, the same of every integer. -/
theorem int_le_round_iff {d : Decimal} (h : d.magnitude < 10 ^ 27) (z : ℤ) :
    z ≤ (round d).magnitude ↔ z ≤ d.magnitude + ulp d.magnitude / 2 := by
  have hu := ulp_pos d.magnitude
  rcases le_or_gt z 0 with hz | hz
  · have hle : (z : ℚ) ≤ 0 := by exact_mod_cast hz
    have hd := magnitude_nonneg d
    have hr := magnitude_nonneg (round d)
    exact iff_of_true (hle.trans hr) (by linarith)
  by_cases hc : d.coefficient = 0
  · have hone : (1 : ℚ) ≤ z := by exact_mod_cast hz
    rw [round_eq_of_zero hc, magnitude_eq_zero hc, ulp, Int.log_zero_right]
    refine iff_of_false (by linarith) (fun hle => ?_)
    norm_num at hle
    linarith
  · have hlog : Int.log 10 d.magnitude < 27 :=
      (Int.lt_zpow_iff_log_lt (b := 10) (by norm_num) (magnitude_pos hc)).1 (by exact_mod_cast h)
    obtain ⟨t, ht, he⟩ := exists_even_multiple (x := d.magnitude) (k := 0) (by omega) z.toNat
    have hzn : ((z.toNat : Nat) : ℚ) = (z : ℚ) := by
      have : ((z.toNat : Nat) : ℤ) = z := Int.toNat_of_nonneg hz.le
      exact_mod_cast this
    rw [zpow_zero, mul_one, hzn] at he
    rw [he]
    exact le_round_iff hc ht

/-! ## Integer parts and products -/

/-- **`int(value)`** of a decimal that is not negative is its integer part. -/
theorem toInt_eq {d : Decimal} (h : d.isNegative = false) : d.toInt = ⌊d.magnitude⌋ := by
  have hvalue : d.toInt = ((if 0 ≤ d.exponent then d.coefficient * 10 ^ d.exponent.toNat
      else if (d.digits : Int) ≤ -d.exponent then 0
      else d.coefficient / 10 ^ (-d.exponent).toNat : Nat) : ℤ) := by
    unfold toInt
    by_cases hneg : d.negative = true
    · -- A negative zero.
      have hc : d.coefficient = 0 := by
        unfold isNegative at h
        rw [hneg] at h
        simpa using h
      simp [hc]
    · dsimp only
      rw [if_neg hneg]
  rw [hvalue, eq_comm, Int.floor_eq_iff, magnitude]
  split
  · rename_i he
    have hpow : (10 : ℚ) ^ d.exponent = ((10 ^ d.exponent.toNat : Nat) : ℚ) := by
      rw [← Int.toNat_of_nonneg he, zpow_natCast]
      push_cast
      rfl
    rw [hpow]
    push_cast
    constructor <;> linarith
  · rename_i he
    have hpow : (10 : ℚ) ^ d.exponent = ((10 ^ (-d.exponent).toNat : Nat) : ℚ)⁻¹ := by
      have hn : ((-d.exponent).toNat : ℤ) = -d.exponent := Int.toNat_of_nonneg (by omega)
      rw [Nat.cast_pow, ← zpow_natCast, hn, zpow_neg, inv_inv]
      norm_num
    have hpos : 0 < 10 ^ (-d.exponent).toNat := by positivity
    rw [hpow, ← div_eq_mul_inv]
    split
    · rename_i hd
      have hlt : d.coefficient < 10 ^ (-d.exponent).toNat := by
        refine (Nat.lt_pow_succ_log_self (b := 10) (by norm_num) _).trans_le (Nat.pow_le_pow_right (by norm_num) ?_)
        unfold digits at hd
        omega
      generalize 10 ^ (-d.exponent).toNat = k at *
      have hk : (0 : ℚ) < k := by exact_mod_cast hpos
      have hltq : (d.coefficient : ℚ) < k := by exact_mod_cast hlt
      refine ⟨by push_cast; positivity, ?_⟩
      push_cast
      rw [div_lt_iff₀ hk]
      linarith
    · generalize 10 ^ (-d.exponent).toNat = k at *
      have hk : (0 : ℚ) < k := by exact_mod_cast hpos
      have hdiv := Nat.div_mul_le_self d.coefficient k
      have hlt := Nat.lt_div_mul_add hpos (a := d.coefficient)
      have hdivq : ((d.coefficient / k : Nat) : ℚ) * k ≤ d.coefficient := by exact_mod_cast hdiv
      have hltq : (d.coefficient : ℚ) < ((d.coefficient / k : Nat) : ℚ) * k + k := by exact_mod_cast hlt
      refine ⟨?_, ?_⟩
      · rw [le_div_iff₀ hk]
        exact_mod_cast hdivq
      · rw [div_lt_iff₀ hk, Int.cast_natCast]
        linarith

/-- The exact product. -/
def scaled (d : Decimal) (m : Nat) : Decimal := { d with coefficient := d.coefficient * m }

theorem magnitude_scaled (d : Decimal) (m : Nat) : (d.scaled m).magnitude = d.magnitude * m := by
  simp only [magnitude, scaled]
  push_cast
  ring

theorem negative_round (d : Decimal) : (round d).negative = d.negative := by
  unfold round
  split
  · rfl
  · dsimp only
    split <;> rfl

theorem isNegative_round_scaled {d : Decimal} (h : d.isNegative = false) (m : Nat) :
    (round (d.scaled m)).isNegative = false := by
  unfold isNegative at *
  by_cases hc : d.coefficient = 0
  · have hz : (d.scaled m).coefficient = 0 := by simp [scaled, hc]
    rw [round_eq_of_zero hz, hz]
    simp
  · have hn : d.negative = false := by simpa [hc] using h
    rw [negative_round, scaled, hn]
    rfl

theorem mul_eq (d : Decimal) (m : Nat) : d.mul m =
    if (round (d.scaled m)).coefficient ≠ 0 ∧ emax < (round (d.scaled m)).adjusted then none
    else some (round (d.scaled m)) := rfl

/-- **When a product overflows**: when it comes within half a unit of ten to the millionth. -/
theorem mul_eq_none_iff (d : Decimal) (m : Nat) :
    d.mul m = none ↔ 10 ^ (emax + 1) ≤ d.magnitude * m + ulp (d.magnitude * m) / 2 := by
  rw [mul_eq, ← magnitude_scaled]
  have hsplit : ∀ {c : Prop} [Decidable c] (r : Decimal), (if c then none else some r) = none ↔ c := by
    intro c _ r
    split <;> simp_all
  rw [hsplit]
  by_cases hc : (d.scaled m).coefficient = 0
  · rw [round_eq_of_zero hc, magnitude_eq_zero hc, ulp, Int.log_zero_right]
    refine iff_of_false (fun h => h.1 hc) (fun hle => ?_)
    have hbig : (10 : ℚ) ^ (0 : ℤ) ≤ 10 ^ (emax + 1) := zpow_le_zpow_right₀ (by norm_num) (by unfold emax; omega)
    rw [zpow_zero] at hbig
    have hsmall : (10 : ℚ) ^ ((0 : ℤ) - 27) / 2 < 1 := by norm_num
    linarith
  · rw [← pow_le_round_iff hc]
    by_cases hr : (round (d.scaled m)).coefficient = 0
    · rw [magnitude_eq_zero hr]
      refine iff_of_false (fun h => h.1 hr) (not_le.2 ?_)
      positivity
    · rw [← log_magnitude hr]
      have hlog := Int.zpow_le_iff_le_log (b := 10) (r := (round (d.scaled m)).magnitude) (x := emax + 1)
        (by norm_num) (magnitude_pos hr)
      rw [Nat.cast_ofNat] at hlog
      rw [hlog]
      constructor
      · intro h
        exact h.2
      · intro h
        exact ⟨hr, h⟩

/-- **The integer part of a product** below 28 digits before the point. -/
theorem toInt_of_mul {d r : Decimal} {m : Nat} (hn : d.isNegative = false) (h : d.mul m = some r)
    (hx : d.magnitude * m < 10 ^ 27) : r.toInt = ⌊d.magnitude * m + ulp (d.magnitude * m) / 2⌋ := by
  have hr : r = round (d.scaled m) := by
    rw [mul_eq] at h
    split at h
    · cases h
    · exact (Option.some.inj h).symm
  rw [hr, toInt_eq (isNegative_round_scaled hn m)]
  rw [← magnitude_scaled] at *
  have hle := int_le_round_iff hx
  apply le_antisymm
  · rw [Int.le_floor, ← hle, ← Int.le_floor]
  · rw [Int.le_floor, hle, ← Int.le_floor]

/-- Beyond them the product is no smaller than that. -/
theorem le_toInt_of_mul {d r : Decimal} {m : Nat} (hn : d.isNegative = false) (h : d.mul m = some r)
    (hx : 10 ^ 27 ≤ d.magnitude * m) : 10 ^ 27 ≤ r.toInt := by
  have hr : r = round (d.scaled m) := by
    rw [mul_eq] at h
    split at h
    · cases h
    · exact (Option.some.inj h).symm
  rw [← magnitude_scaled] at hx
  have hc : (d.scaled m).coefficient ≠ 0 := by
    intro hz
    rw [magnitude_eq_zero hz] at hx
    norm_num at hx
  have hu := ulp_pos (d.scaled m).magnitude
  have hpow := (pow_le_round_iff hc 27).2 (by rw [zpow_ofNat]; linarith)
  rw [hr, toInt_eq (isNegative_round_scaled hn m), Int.le_floor]
  rw [zpow_ofNat] at hpow
  exact_mod_cast hpow

end Decimal
end Py
