import TtMetricsExporter.Parsers
import TtMetricsExporter.PyDecimal
/-!
# Bytes — byte values are exact, up to what the decimal context rounds

A token denotes `floor(v * m)` for the longest numeral `v` at its start and the multiplier `m` of what follows
(`Denotes`).  `matchNumberPrefix` finds that numeral (`matchNumberPrefix_spec`), and `parse_byte_value` returns what the
token denotes exactly when the rounding of the product does not reach the next integer, the numeral's exponent is one
that `Decimal` takes and the product stays below `Emax` (`parseByteValue_exact_iff`).
-/
namespace Tt

open Py (Str Decimal)

/-! ## Numerals -/

def Digits (s : Str) : Prop := ∀ c ∈ s, Py.isDecimal c = true

def digitsValue (s : Str) : Nat := Py.ofDigits 10 (s.filterMap Py.decimalValue)

/-- `(?:\d+(?:\.\d*)?)|(?:\.\d+)`, with the number denoted. -/
inductive Mantissa : Str → ℚ → Prop
  | whole {w} : Digits w → w ≠ [] → Mantissa w (digitsValue w)
  | point {w f} : Digits w → w ≠ [] → Digits f → Mantissa (w ++ '.' :: f) (digitsValue (w ++ f) * 10 ^ (-f.length : ℤ))
  | fraction {f} : Digits f → f ≠ [] → Mantissa ('.' :: f) (digitsValue f * 10 ^ (-f.length : ℤ))

/-- `[+-]?`, with the factor denoted. -/
inductive Sign : Str → ℤ → Prop
  | none : Sign [] 1
  | plus : Sign ['+'] 1
  | minus : Sign ['-'] (-1)

/-- `(?:[eE][+-]?\d+)?`, with the power of ten denoted. -/
inductive Exponent : Str → ℤ → Prop
  | none : Exponent [] 0
  | some {c sign σ ds} : c = 'e' ∨ c = 'E' → Sign sign σ → Digits ds → ds ≠ [] →
    Exponent (c :: (sign ++ ds)) (σ * digitsValue ds)

/-- The whole of a text that `_NUMBER_PREFIX` describes. -/
inductive NumberText : Str → ℚ → Prop
  | mk {sign mantissa exponent σ v x} : Sign sign σ → Mantissa mantissa v → Exponent exponent x →
    NumberText (sign ++ mantissa ++ exponent) (σ * v * 10 ^ x)

/-- The longest numeral at the start of a token, its value and what it leaves. -/
structure Longest (token : Str) (v : ℚ) (suffix : Str) : Prop where
  numeral : ∃ p, token = p ++ suffix ∧ NumberText p v
  longest : ∀ p w rest, token = p ++ rest → NumberText p w → suffix.length ≤ rest.length

/-- The multiplier of a number's own suffix; with none, of the next token where that is a unit, else one. -/
def Multiplies (suffix nextToken : Str) (m : Nat) : Prop :=
  if suffix = [] then m = (byteMultipliers.lookup (Py.lowerAscii nextToken)).getD 1
  else byteMultipliers.lookup (Py.lowerAscii suffix) = some m

/-- A token and the one after it denote a number of bytes. -/
def Denotes (token nextToken : Str) (n : ℤ) : Prop :=
  ∃ v suffix m, Longest token v suffix ∧ Multiplies suffix nextToken m ∧ 0 ≤ v ∧ n = ⌊v * m⌋ ∧ n ≤ uint64Max

/-! ## The longest numeral -/

/-- The number a match denotes. -/
def NumberPrefix.value (p : NumberPrefix) : ℚ :=
  (if p.negative then -1 else 1) * Py.ofDigits 10 (p.whole ++ p.fraction) * 10 ^ (p.exponent - p.fraction.length)

theorem digitRun_append {w t : Str} (h : Digits w) :
    digitRun (w ++ t) = w.filterMap Py.decimalValue ++ digitRun t := by
  rw [digitRun, List.takeWhile_append_of_pos h, List.filterMap_append, digitRun]

theorem afterDigits_append {w t : Str} (h : Digits w) : afterDigits (w ++ t) = afterDigits t :=
  List.dropWhile_append_of_pos h

theorem digits_takeWhile (s : Str) : Digits (s.takeWhile Py.isDecimal) := fun _ hc => List.mem_takeWhile_imp hc

theorem length_filterMap_digits : ∀ {w : Str}, Digits w → (w.filterMap Py.decimalValue).length = w.length
  | [], _ => rfl
  | c :: w, h => by
    obtain ⟨d, hd⟩ := Option.isSome_iff_exists.1 (h c (by simp))
    rw [List.filterMap_cons_some hd, List.length_cons, List.length_cons,
      length_filterMap_digits (fun x hx => h x (List.mem_cons_of_mem _ hx))]

theorem filterMap_digits_eq_nil {w : Str} (h : Digits w) : w.filterMap Py.decimalValue = [] ↔ w = [] := by
  rw [← List.length_eq_zero_iff, length_filterMap_digits h, List.length_eq_zero_iff]

theorem digitRun_eq_nil {s : Str} : digitRun s = [] ↔ s.takeWhile Py.isDecimal = [] :=
  filterMap_digits_eq_nil (digits_takeWhile s)

theorem takeWhile_append_afterDigits (s : Str) : s.takeWhile Py.isDecimal ++ afterDigits s = s :=
  List.takeWhile_append_dropWhile

theorem afterDigits_length_le (s : Str) : (afterDigits s).length ≤ s.length :=
  List.length_dropWhile_le _ _

/-- A text whose first character is no digit. -/
theorem digits_stop {c : Char} {s : Str} (h : Py.isDecimal c = false) :
    digitRun (c :: s) = [] ∧ afterDigits (c :: s) = c :: s := by
  constructor
  · rw [digitRun_eq_nil, List.takeWhile_cons_of_neg (by rw [h]; decide)]
  · exact List.dropWhile_cons_of_neg (by rw [h]; decide)

theorem splitSign_append_of {sign t : Str} {σ : ℤ} (h : Sign sign σ) (ht : ∀ c ∈ t.head?, c ≠ '-' ∧ c ≠ '+') :
    Py.splitSign (sign ++ t) = (decide (σ = -1), t) := by
  cases h with
  | none =>
    cases t with
    | nil => rfl
    | cons c t =>
      obtain ⟨hminus, hplus⟩ := ht c rfl
      rw [List.nil_append]
      unfold Py.splitSign
      split <;> simp_all
  | plus => rfl
  | minus => rfl

theorem isDecimal_ne_sign {c : Char} (h : Py.isDecimal c = true) : c ≠ '-' ∧ c ≠ '+' := by
  constructor
  · rintro rfl
    exact absurd h (by decide)
  · rintro rfl
    exact absurd h (by decide)

theorem Digits.head {w t : Str} (h : Digits w) (hne : w ≠ []) : ∀ c ∈ (w ++ t).head?, Py.isDecimal c = true := by
  obtain ⟨c, w, rfl⟩ := List.exists_cons_of_ne_nil hne
  intro d hd
  cases hd
  exact h c (by simp)

/-! ### Exponents -/

theorem exponentPart_other {c : Char} {s : Str} (h : ¬(c = 'e' ∨ c = 'E')) : exponentPart (c :: s) = (0, c :: s) := by
  rw [exponentPart, if_neg h]

theorem splitSign_length_le (s : Str) : (Py.splitSign s).2.length ≤ s.length := by
  obtain ⟨sign, -, he⟩ := Py.splitSign_spec s
  have hl := congrArg List.length he
  rw [List.length_append] at hl
  omega

theorem exponentPart_length_le (s : Str) : (exponentPart s).2.length ≤ s.length := by
  cases s with
  | nil => exact le_refl 0
  | cons c rest =>
    rw [exponentPart]
    split
    · dsimp only
      split
      · exact le_refl _
      · have hbody := splitSign_length_le rest
        have hafter := afterDigits_length_le (Py.splitSign rest).2
        dsimp only
        rw [List.length_cons]
        omega
    · exact le_refl _

theorem sign_of_splitSign (s : Str) :
    ∃ sign σ, s = sign ++ (Py.splitSign s).2 ∧ Sign sign σ ∧ σ = if (Py.splitSign s).1 then -1 else 1 := by
  unfold Py.splitSign
  split
  · exact ⟨['-'], -1, rfl, .minus, rfl⟩
  · exact ⟨['+'], 1, rfl, .plus, rfl⟩
  · exact ⟨[], 1, rfl, .none, rfl⟩

/-- What `exponentPart` takes is an exponent. -/
theorem exponentPart_sound (s : Str) : ∃ e, s = e ++ (exponentPart s).2 ∧ Exponent e (exponentPart s).1 := by
  cases s with
  | nil => exact ⟨[], rfl, .none⟩
  | cons c rest =>
    by_cases hc : c = 'e' ∨ c = 'E'
    · obtain ⟨sign, σ, he, hs, hσ⟩ := sign_of_splitSign rest
      rw [exponentPart, if_pos hc]
      dsimp only
      split
      · exact ⟨[], rfl, .none⟩
      · rename_i hds
        have hne : (Py.splitSign rest).2.takeWhile Py.isDecimal ≠ [] := fun h => hds (digitRun_eq_nil.2 h)
        refine ⟨c :: (sign ++ (Py.splitSign rest).2.takeWhile Py.isDecimal), ?_, ?_⟩
        · dsimp only
          rw [List.cons_append, List.append_assoc, takeWhile_append_afterDigits, ← he]
        · have hx := Exponent.some hc hs (digits_takeWhile _) hne
          rw [hσ] at hx
          dsimp only
          convert hx using 1
          split <;> simp [digitsValue, digitRun]
    · exact ⟨[], by rw [exponentPart_other hc]; rfl, by rw [exponentPart_other hc]; exact .none⟩

/-- **No exponent at the start of a text is longer than the one `exponentPart` takes** after the remaining digits, and
one as long is that one, with no digits remaining. -/
theorem exponentPart_longest {e : Str} {x : ℤ} (h : Exponent e x) (rest : Str) :
    (exponentPart (afterDigits (e ++ rest))).2.length ≤ rest.length ∧
    ((exponentPart (afterDigits (e ++ rest))).2.length = rest.length →
      digitRun (e ++ rest) = [] ∧ (exponentPart (afterDigits (e ++ rest))).1 = x) := by
  cases h with
  | none =>
    rw [List.nil_append]
    have hle := exponentPart_length_le (afterDigits rest)
    have hafter := afterDigits_length_le rest
    refine ⟨hle.trans hafter, fun heq => ?_⟩
    have htaken := congrArg List.length (takeWhile_append_afterDigits rest)
    rw [List.length_append] at htaken
    obtain ⟨e, he, hx⟩ := exponentPart_sound (afterDigits rest)
    have hl := congrArg List.length he
    rw [List.length_append] at hl
    have hnil : e = [] := List.eq_nil_of_length_eq_zero (by omega)
    refine ⟨digitRun_eq_nil.2 (List.eq_nil_of_length_eq_zero (by omega)), ?_⟩
    rw [hnil] at hx
    generalize (exponentPart (afterDigits rest)).1 = y at hx
    cases hx
    rfl
  | @some c sign σ ds hc hs hds hne =>
    have hstop : Py.isDecimal c = false := by
      rcases hc with rfl | rfl <;> decide
    have hsplit : Py.splitSign (sign ++ ds ++ rest) = (decide (σ = -1), ds ++ rest) := by
      rw [List.append_assoc]
      exact splitSign_append_of hs (fun d hd => isDecimal_ne_sign (hds.head hne d hd))
    have hrun : digitRun (ds ++ rest) ≠ [] := by
      rw [digitRun_append hds]
      intro hnil
      exact hne ((filterMap_digits_eq_nil hds).1 (List.append_eq_nil_iff.1 hnil).1)
    rw [List.cons_append, (digits_stop hstop).2, (digits_stop hstop).1, exponentPart, if_pos hc, hsplit]
    dsimp only
    split
    · rename_i hnil
      exact absurd hnil hrun
    · dsimp only
      rw [afterDigits_append hds, digitRun_append hds]
      refine ⟨afterDigits_length_le rest, fun heq => ⟨rfl, ?_⟩⟩
      have htaken := congrArg List.length (takeWhile_append_afterDigits rest)
      rw [List.length_append] at htaken
      have hmore : digitRun rest = [] := digitRun_eq_nil.2 (List.eq_nil_of_length_eq_zero (by omega))
      rw [hmore, List.append_nil]
      cases hs <;> simp [digitsValue]

/-! ### Mantissas -/

/-- What `matchNumberPrefix` builds from the digits it found and the text after them. -/
def NumberPrefix.finish (negative : Bool) (whole fraction : List Nat) (rest : Str) : NumberPrefix :=
  ⟨negative, whole, fraction, (exponentPart rest).1, (exponentPart rest).2⟩

theorem matchNumberPrefix_eq (token : Str) : matchNumberPrefix token =
    match digitRun (Py.splitSign token).2 with
    | [] => match (Py.splitSign token).2 with
      | '.' :: rest => match digitRun rest with
        | [] => none
        | fraction => some (.finish (Py.splitSign token).1 [] fraction (afterDigits rest))
      | _ => none
    | whole => match afterDigits (Py.splitSign token).2 with
      | '.' :: rest => some (.finish (Py.splitSign token).1 whole (digitRun rest) (afterDigits rest))
      | rest => some (.finish (Py.splitSign token).1 whole [] rest) := rfl

theorem NumberText.of_parts {sign mantissa rest : Str} {v : ℚ} {σ : ℤ} {negative : Bool} {whole fraction : List Nat}
    (hs : Sign sign σ) (hσ : σ = if negative then -1 else 1) (hm : Mantissa mantissa v)
    (hv : v = Py.ofDigits 10 (whole ++ fraction) * 10 ^ (-fraction.length : ℤ)) :
    ∃ p, sign ++ (mantissa ++ rest) = p ++ (NumberPrefix.finish negative whole fraction rest).suffix ∧
      NumberText p (NumberPrefix.finish negative whole fraction rest).value := by
  obtain ⟨e, he, hx⟩ := exponentPart_sound rest
  refine ⟨sign ++ mantissa ++ e, ?_, ?_⟩
  · rw [NumberPrefix.finish, List.append_assoc, List.append_assoc, ← he]
  · have hn := NumberText.mk hs hm hx
    convert hn using 1
    rw [NumberPrefix.value, NumberPrefix.finish, hv, hσ, sub_eq_add_neg, zpow_add₀ (by norm_num)]
    dsimp only
    push_cast
    ring

/-- **A match is a numeral at the start of the token**, of the value read off its parts. -/
theorem matchNumberPrefix_sound {token : Str} {np : NumberPrefix} (h : matchNumberPrefix token = some np) :
    ∃ p, token = p ++ np.suffix ∧ NumberText p np.value := by
  obtain ⟨sign, σ, he, hs, hσ⟩ := sign_of_splitSign token
  rw [matchNumberPrefix_eq] at h
  generalize (Py.splitSign token).2 = body at *
  generalize (Py.splitSign token).1 = negative at *
  subst he
  split at h
  · split at h
    · rename_i rest _
      split at h
      · cases h
      · rename_i hrun
        cases h
        have hne : rest.takeWhile Py.isDecimal ≠ [] := fun hnil => hrun (digitRun_eq_nil.2 hnil)
        have hm := Mantissa.fraction (digits_takeWhile rest) hne
        have hbody : ('.' :: rest.takeWhile Py.isDecimal) ++ afterDigits rest = '.' :: rest := by
          rw [List.cons_append, takeWhile_append_afterDigits]
        rw [← hbody]
        refine NumberText.of_parts hs hσ hm ?_
        rw [List.nil_append, digitRun, length_filterMap_digits (digits_takeWhile rest), digitsValue]
    · cases h
  · rename_i hrun
    have hne : body.takeWhile Py.isDecimal ≠ [] := fun hnil => hrun (digitRun_eq_nil.2 hnil)
    have hbody := takeWhile_append_afterDigits body
    split at h
    · rename_i rest hrest
      cases h
      have hm := Mantissa.point (digits_takeWhile body) hne (digits_takeWhile rest)
      have hsplit : (body.takeWhile Py.isDecimal ++ '.' :: rest.takeWhile Py.isDecimal) ++ afterDigits rest = body := by
        rw [List.append_assoc, List.cons_append, takeWhile_append_afterDigits, ← hrest, hbody]
      have hparts : ∃ p, sign ++ ((body.takeWhile Py.isDecimal ++ '.' :: rest.takeWhile Py.isDecimal) ++ afterDigits rest) =
          p ++ (NumberPrefix.finish negative (digitRun body) (digitRun rest) (afterDigits rest)).suffix ∧
          NumberText p (NumberPrefix.finish negative (digitRun body) (digitRun rest) (afterDigits rest)).value := by
        refine NumberText.of_parts hs hσ hm ?_
        rw [digitRun, digitRun, length_filterMap_digits (digits_takeWhile rest), digitsValue, List.filterMap_append]
      rwa [hsplit] at hparts
    · cases h
      have hm := Mantissa.whole (digits_takeWhile body) hne
      have hparts : ∃ p, sign ++ (body.takeWhile Py.isDecimal ++ afterDigits body) =
          p ++ (NumberPrefix.finish negative (digitRun body) [] (afterDigits body)).suffix ∧
          NumberText p (NumberPrefix.finish negative (digitRun body) [] (afterDigits body)).value := by
        refine NumberText.of_parts hs hσ hm ?_
        simp [digitRun, digitsValue]
      rwa [hbody] at hparts

/-- No exponent starts with a point. -/
theorem Exponent.eq_nil_of_point {e rest r : Str} {x : ℤ} (h : Exponent e x)
    (hp : afterDigits (e ++ rest) = '.' :: r) : e = [] := by
  cases h with
  | none => rfl
  | @some c sign σ ds hc hs hds hne =>
    rw [List.cons_append] at hp
    rcases hc with rfl | rfl
    · rw [(digits_stop (by decide)).2] at hp
      cases hp
    · rw [(digits_stop (by decide)).2] at hp
      cases hp

/-- The parts of a match agree with a numeral that ends no sooner. -/
theorem NumberPrefix.value_finish {sign rest : Str} {v : ℚ} {σ x : ℤ} {whole fraction : List Nat}
    (hs : Sign sign σ) (hx : (exponentPart rest).1 = x)
    (hv : v = Py.ofDigits 10 (whole ++ fraction) * 10 ^ (-fraction.length : ℤ)) :
    (NumberPrefix.finish (decide (σ = -1)) whole fraction rest).value = σ * v * 10 ^ x := by
  have hsign : (if decide (σ = -1) = true then (-1 : ℚ) else 1) = σ := by
    cases hs <;> norm_num
  rw [value, finish, hv, hx, sub_eq_add_neg, zpow_add₀ (by norm_num), hsign]
  ring

/-- **A numeral at the start of a token is matched**, if not to its own end then beyond it, and then to its value. -/
theorem matchNumberPrefix_complete {p : Str} {v : ℚ} (h : NumberText p v) (rest : Str) :
    ∃ np, matchNumberPrefix (p ++ rest) = some np ∧ np.suffix.length ≤ rest.length ∧
      (np.suffix.length = rest.length → np.value = v) := by
  cases h with
  | @mk sign mantissa e σ v x hs hm hx =>
    obtain ⟨hlen, hend⟩ := exponentPart_longest hx rest
    have hassoc : sign ++ mantissa ++ e ++ rest = sign ++ (mantissa ++ (e ++ rest)) := by simp only [List.append_assoc]
    rw [matchNumberPrefix_eq, hassoc]
    cases hm with
    | @whole w hw hne =>
      rw [splitSign_append_of hs (fun c hc => isDecimal_ne_sign (hw.head hne c hc))]
      dsimp only
      rw [digitRun_append hw, afterDigits_append hw]
      split
      · rename_i hnil
        exact absurd ((filterMap_digits_eq_nil hw).1 (List.append_eq_nil_iff.1 hnil).1) hne
      · split
        · rename_i r hr
          -- The match takes a point and more digits.
          have henil := hx.eq_nil_of_point hr
          subst henil
          have hafter := afterDigits_length_le rest
          have hafter' := afterDigits_length_le r
          have hexp := exponentPart_length_le (afterDigits r)
          rw [List.nil_append] at hr
          rw [hr, List.length_cons] at hafter
          have hlt : (exponentPart (afterDigits r)).2.length < rest.length := by omega
          exact ⟨_, rfl, hlt.le, fun heq => absurd heq hlt.ne⟩
        · refine ⟨_, rfl, hlen, fun heq => ?_⟩
          obtain ⟨hrun, hval⟩ := hend heq
          refine NumberPrefix.value_finish hs hval ?_
          rw [hrun]
          simp [digitsValue]
    | @point w f hw hne hf =>
      rw [List.append_assoc, List.cons_append,
        splitSign_append_of hs (fun c hc => isDecimal_ne_sign (hw.head hne c hc))]
      dsimp only
      rw [digitRun_append hw, afterDigits_append hw, (digits_stop (by decide)).1, (digits_stop (by decide)).2]
      split
      · rename_i hnil
        exact absurd ((filterMap_digits_eq_nil hw).1 (List.append_eq_nil_iff.1 hnil).1) hne
      · split
        · rename_i r hr
          cases hr
          rw [digitRun_append hf, afterDigits_append hf]
          refine ⟨_, rfl, hlen, fun heq => ?_⟩
          obtain ⟨hrun, hval⟩ := hend heq
          refine NumberPrefix.value_finish hs hval ?_
          rw [hrun, List.append_nil, List.append_nil, length_filterMap_digits hf, digitsValue, List.filterMap_append]
        · rename_i hno
          exact absurd rfl (hno _)
    | @fraction f hf hne =>
      rw [List.cons_append, splitSign_append_of hs (by simp)]
      dsimp only
      rw [(digits_stop (by decide)).1]
      split
      · split
        · rename_i r hr
          cases hr
          rw [digitRun_append hf, afterDigits_append hf]
          split
          · rename_i hnil
            exact absurd ((filterMap_digits_eq_nil hf).1 (List.append_eq_nil_iff.1 hnil).1) hne
          · refine ⟨_, rfl, hlen, fun heq => ?_⟩
            obtain ⟨hrun, hval⟩ := hend heq
            refine NumberPrefix.value_finish hs hval ?_
            rw [hrun, List.append_nil, List.nil_append, length_filterMap_digits hf, digitsValue]
        · rename_i hno
          exact absurd rfl (hno _)
      · rename_i hrun
        exact absurd rfl hrun

/-- **`_NUMBER_PREFIX.match` finds the longest numeral.** -/
theorem matchNumberPrefix_spec {token : Str} {np : NumberPrefix} (h : matchNumberPrefix token = some np) :
    Longest token np.value np.suffix := by
  refine ⟨matchNumberPrefix_sound h, fun p w rest he hn => ?_⟩
  obtain ⟨np', hmatch, hle, -⟩ := matchNumberPrefix_complete hn rest
  rw [← he, h] at hmatch
  cases hmatch
  exact hle

theorem Longest.match {token suffix : Str} {v : ℚ} (h : Longest token v suffix) :
    ∃ np, matchNumberPrefix token = some np ∧ np.value = v ∧ np.suffix = suffix := by
  obtain ⟨p, he, hn⟩ := h.numeral
  obtain ⟨np, hmatch, hle, hval⟩ := matchNumberPrefix_complete hn suffix
  rw [← he] at hmatch
  obtain ⟨q, hq, hnq⟩ := matchNumberPrefix_sound hmatch
  have hge := h.longest q np.value np.suffix hq hnq
  have hlen : np.suffix.length = suffix.length := by omega
  refine ⟨np, hmatch, hval hlen, ?_⟩
  exact (List.append_inj' (hq.symm.trans he) hlen).2

/-! ## What a token denotes -/

theorem multiplies_iff {np : NumberPrefix} {nextToken : Str} {m : Nat} :
    Multiplies np.suffix nextToken m ↔ np.multiplier nextToken = some m := by
  unfold Multiplies NumberPrefix.multiplier
  by_cases hs : np.suffix = []
  · simp only [if_pos hs]
    cases byteMultipliers.lookup (Py.lowerAscii nextToken) with
    | none => exact eq_comm.trans (Option.some_inj).symm
    | some k => exact eq_comm.trans (Option.some_inj).symm
  · simp only [if_neg hs]
    cases byteMultipliers.lookup (Py.lowerAscii np.suffix) with
    | none => exact Iff.rfl
    | some k => exact Iff.rfl

theorem denotes_iff {token nextToken : Str} {np : NumberPrefix} (h : matchNumberPrefix token = some np) {n : ℤ} :
    Denotes token nextToken n ↔
      ∃ m, np.multiplier nextToken = some m ∧ 0 ≤ np.value ∧ n = ⌊np.value * m⌋ ∧ n ≤ uint64Max := by
  constructor
  · rintro ⟨v, suffix, m, hl, hm, hrest⟩
    obtain ⟨np', hmatch, rfl, rfl⟩ := hl.match
    rw [h] at hmatch
    cases hmatch
    exact ⟨m, multiplies_iff.1 hm, hrest⟩
  · rintro ⟨m, hm, hrest⟩
    exact ⟨np.value, np.suffix, m, matchNumberPrefix_spec h, multiplies_iff.2 hm, hrest⟩

theorem not_denotes_of_none {token nextToken : Str} (h : matchNumberPrefix token = none) (n : ℤ) :
    ¬Denotes token nextToken n := by
  rintro ⟨v, suffix, m, hl, -⟩
  obtain ⟨np, hmatch, -⟩ := hl.match
  rw [h] at hmatch
  cases hmatch

/-- The value of a match through its `Decimal`. -/
theorem NumberPrefix.value_of_decimal {np : NumberPrefix} {d : Decimal} (h : np.decimal = some d) :
    np.value = (if d.negative then -1 else 1) * d.magnitude := by
  unfold decimal Decimal.construct at h
  split at h
  · cases h
    rw [value, Decimal.magnitude]
    ring
  · cases h

theorem NumberPrefix.value_neg_iff {np : NumberPrefix} {d : Decimal} (h : np.decimal = some d) :
    np.value < 0 ↔ d.isNegative = true := by
  rw [value_of_decimal h, Decimal.isNegative]
  have hnonneg := d.magnitude_nonneg
  by_cases hc : d.coefficient = 0
  · rw [Decimal.magnitude_eq_zero hc, mul_zero]
    simp [hc]
  · have hpos := Decimal.magnitude_pos hc
    cases d.negative
    · simp [hc, hnonneg]
    · simp [hc, hpos]

theorem NumberPrefix.value_eq_magnitude {np : NumberPrefix} {d : Decimal} (h : np.decimal = some d)
    (hn : d.isNegative = false) : np.value = d.magnitude := by
  rw [value_of_decimal h]
  by_cases hc : d.coefficient = 0
  · rw [Decimal.magnitude_eq_zero hc, mul_zero]
  · have hneg : d.negative = false := by simpa [Decimal.isNegative, hc] using hn
    rw [hneg]
    norm_num

/-! ## Exactness -/

/-- The number of bytes `x` comes out of the decimal context as it went in: half a unit of its 28th digit does not carry
it to the next integer, or it is beyond 64 bits and still below `Emax`. -/
def Computed (np : NumberPrefix) (x : ℚ) : Prop :=
  if x < 2 ^ 64 then np.decimal.isSome ∧ ⌊x + Decimal.ulp x / 2⌋ = ⌊x⌋
  else np.decimal.isSome → x + Decimal.ulp x / 2 < 10 ^ (Decimal.emax + 1)

/-- Where the token's number is not negative and has a multiplier, their product is `Computed`. -/
def Exact (token nextToken : Str) : Prop :=
  ∀ np, matchNumberPrefix token = some np → 0 ≤ np.value →
    ∀ m, np.multiplier nextToken = some m → Computed np (np.value * m)

theorem floor_le_uint64Max_iff {x : ℚ} : ⌊x⌋ ≤ uint64Max ↔ x < 2 ^ 64 := by
  unfold uint64Max
  rw [← Int.lt_add_one_iff, Int.floor_lt]
  norm_num

/-- **What `parse_byte_value` makes of a number in range**: the integer part of the product with half a unit added. -/
theorem computed_iff {np : NumberPrefix} {d : Decimal} (hd : np.decimal = some d) (hn : d.isNegative = false) (m : Nat) :
    (∃ product, d.mul m = some product ∧
      ∀ n, (if product.toInt ≤ uint64Max then some product.toInt else none) = some n ↔
        n = ⌊np.value * m⌋ ∧ n ≤ uint64Max) ↔ Computed np (np.value * m) := by
  have hoverflow := Decimal.mul_eq_none_iff d m
  have hsmall := fun r h hx => Decimal.toInt_of_mul (d := d) (r := r) (m := m) hn h hx
  have hlarge := fun r h hx => Decimal.le_toInt_of_mul (d := d) (r := r) (m := m) hn h hx
  rw [← NumberPrefix.value_eq_magnitude hd hn] at hoverflow hsmall hlarge
  have hu := Decimal.ulp_pos (np.value * m)
  unfold Computed
  rw [hd]
  generalize np.value * m = x at *
  by_cases hx : x < 2 ^ 64
  · rw [if_pos hx]
    have hfloor := floor_le_uint64Max_iff.2 hx
    constructor
    · rintro ⟨product, hmul, hall⟩
      have hint := hsmall product hmul (by linarith)
      have hsome := (hall ⌊x⌋).2 ⟨rfl, hfloor⟩
      split at hsome
      · exact ⟨rfl, hint ▸ Option.some.inj hsome⟩
      · cases hsome
    · rintro ⟨-, heq⟩
      have hbelow : x + Decimal.ulp x / 2 < 10 ^ (Decimal.emax + 1) := by
        have hlt := Int.lt_floor_add_one (x + Decimal.ulp x / 2)
        have hle := Int.floor_le x
        have hpow : (10 : ℚ) ^ (20 : ℤ) ≤ 10 ^ (Decimal.emax + 1) :=
          zpow_le_zpow_right₀ (by norm_num) (by unfold Decimal.emax; omega)
        have htwenty : (10 : ℚ) ^ (20 : ℤ) = 100000000000000000000 := by norm_num
        rw [heq] at hlt
        linarith
      cases hmul : d.mul m with
      | none => exact absurd (hoverflow.1 hmul) (not_le.2 hbelow)
      | some product =>
        refine ⟨product, rfl, fun n => ?_⟩
        rw [hsmall product hmul (by linarith), heq, if_pos hfloor, Option.some_inj]
        constructor
        · rintro rfl
          exact ⟨rfl, hfloor⟩
        · rintro ⟨rfl, -⟩
          rfl
  · rw [if_neg hx]
    have hfloor : ¬⌊x⌋ ≤ uint64Max := fun h => hx (floor_le_uint64Max_iff.1 h)
    constructor
    · rintro ⟨product, hmul, -⟩ -
      refine lt_of_not_ge (fun hge => ?_)
      rw [hoverflow.2 hge] at hmul
      cases hmul
    · intro hbelow
      cases hmul : d.mul m with
      | none => exact absurd (hoverflow.1 hmul) (not_le.2 (hbelow rfl))
      | some product =>
        have hbig : ¬product.toInt ≤ uint64Max := by
          rcases lt_or_ge x (10 ^ 27) with hlt | hge
          · rw [hsmall product hmul hlt, floor_le_uint64Max_iff]
            linarith
          · have hle := hlarge product hmul hge
            unfold uint64Max
            omega
        refine ⟨product, rfl, fun n => ?_⟩
        rw [if_neg hbig]
        refine iff_of_false (fun h => by cases h) (fun h => ?_)
        exact hfloor (h.1 ▸ h.2)

/-- **A byte value is what its tokens denote** exactly when the decimal context computes the product without carrying
it, failing to take the numeral, or overflowing. -/
theorem parseByteValue_exact_iff (token nextToken : Str) :
    (∃ result, parseByteValue token nextToken = .ok result ∧ ∀ n, result = some n ↔ Denotes token nextToken n) ↔
      Exact token nextToken := by
  unfold parseByteValue Exact
  cases hmatch : matchNumberPrefix token with
  | none =>
    refine iff_of_true ⟨none, rfl, fun n => ?_⟩ (fun np h => by cases h)
    exact iff_of_false (fun h => by cases h) (not_denotes_of_none hmatch n)
  | some np =>
    simp only [denotes_iff hmatch, Option.some_inj, forall_eq']
    cases hd : np.decimal with
    | none =>
      dsimp only
      constructor
      · rintro ⟨result, hr, hall⟩ hv m hm
        cases hr
        unfold Computed
        split
        · rename_i hx
          have h := (hall ⌊np.value * m⌋).2 ⟨m, hm, hv, rfl, floor_le_uint64Max_iff.2 hx⟩
          cases h
        · rw [hd]
          intro h
          cases h
      · intro h
        refine ⟨none, rfl, fun n => iff_of_false (fun h => by cases h) ?_⟩
        rintro ⟨m, hm, hv, rfl, hle⟩
        have hc := h hv m hm
        rw [Computed, if_pos (floor_le_uint64Max_iff.1 hle), hd] at hc
        cases hc.1
    | some d =>
      dsimp only
      cases hn : d.isNegative with
      | true =>
        have hneg := (NumberPrefix.value_neg_iff hd).2 hn
        rw [if_pos rfl]
        refine iff_of_true ⟨none, rfl, fun n => ?_⟩ (fun hv => absurd hv (not_le.2 hneg))
        refine iff_of_false (fun h => by cases h) ?_
        rintro ⟨m, -, hv, -⟩
        exact absurd hv (not_le.2 hneg)
      | false =>
        have hv : 0 ≤ np.value := by
          refine le_of_not_gt (fun hlt => ?_)
          rw [(NumberPrefix.value_neg_iff hd).1 hlt] at hn
          cases hn
        rw [if_neg (by decide)]
        cases hm : np.multiplier nextToken with
        | none =>
          refine iff_of_true ⟨none, rfl, fun n => iff_of_false (fun h => by cases h) ?_⟩ (fun _ m h => by cases h)
          rintro ⟨m, h, -⟩
          cases h
        | some m =>
          have hcomputed := computed_iff hd hn m
          simp only [Option.some_inj, exists_eq_left', hv, true_and, forall_true_left, forall_eq']
          rw [← hcomputed]
          constructor
          · rintro ⟨result, hr, hall⟩
            cases hmul : d.mul m with
            | none =>
              rw [hmul] at hr
              cases hr
            | some product =>
              rw [hmul] at hr
              cases hr
              exact ⟨product, rfl, hall⟩
          · rintro ⟨product, hmul, hall⟩
            rw [hmul]
            exact ⟨_, rfl, hall⟩

/-- A number that `Decimal` takes and the multiplication does not. -/
theorem not_forall_parseByteValue_exact :
    ¬∀ token nextToken : Str, (∀ c ∈ token, isTokenChar c = true) → (∀ c ∈ nextToken, isTokenChar c = true) →
      ∃ result, parseByteValue token nextToken = .ok result ∧ ∀ n, result = some n ↔ Denotes token nextToken n := by
  intro h
  have hchars : ("9e999999k".toList).all isTokenChar = true := by decide
  obtain ⟨result, hr, -⟩ := h "9e999999k".toList [] (List.all_eq_true.1 hchars) (by simp)
  have hraise : parseByteValue "9e999999k".toList [] = .error .overflow := by decide +kernel
  rw [hraise] at hr
  cases hr

/-- Twenty-nine nines come back as the next integer. -/
example : parseByteValue "0.99999999999999999999999999999".toList [] = .ok (some 1) := by decide +kernel

end Tt
