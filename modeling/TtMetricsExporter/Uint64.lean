import TtMetricsExporter.Parsers
import TtMetricsExporter.PyInt
/-!
# Uint64 — the numerals of `parse_uint64`

`parse_uint64` reads a sign and finds the base itself, and leaves the rest to `int`, which reads a sign, a base marker,
spaces, underscores and any Unicode digit of its own.  So it accepts exactly the base-prefixed numerals unless what is
left to `int` is a numeral with more to it than digits of the base (`Lenient`).
-/
namespace Tt

open Py (Str IsDigitOf IntNumeral plainValue)

/-! ## The grammar -/

/-- `[+-]?(0[xX][0-9a-fA-F]+ | 0[0-7]* | [1-9][0-9]*)`, with its sign and value. -/
def Uint64Numeral (text : Str) (negative : Bool) (n : Nat) : Prop :=
  ∃ sign body, text = sign ++ body ∧ sign ∈ [[], ['-'], ['+']] ∧ negative = (sign == ['-']) ∧
    ((∃ x hex, (x = 'x' ∨ x = 'X') ∧ body = '0' :: x :: hex ∧ hex ≠ [] ∧ (∀ c ∈ hex, IsDigitOf 16 c) ∧
        n = plainValue 16 hex) ∨
      (∃ octal, body = '0' :: octal ∧ (∀ c ∈ octal, IsDigitOf 8 c) ∧ n = plainValue 8 octal) ∨
      (∃ d rest, body = d :: rest ∧ d ≠ '0' ∧ (∀ c ∈ d :: rest, IsDigitOf 10 c) ∧ n = plainValue 10 (d :: rest)))

/-- What a numeral is read as. -/
def uint64Value (negative : Bool) (n : Nat) : Int := if negative then -(n : Int) % 2 ^ 64 else min n uint64Max

/-- `parse_uint64` accepts the numerals alone, and reads each as its value. -/
def Agrees (value : Str) : Prop :=
  (parseUint64 value ≠ none ↔ ∃ negative n, Uint64Numeral (Py.strip value) negative n) ∧
    ∀ negative n, Uint64Numeral (Py.strip value) negative n → parseUint64 value = some (uint64Value negative n)

/-! ## What is left to `int` -/

/-- What follows the sign. -/
def unsigned (value : Str) : Str := (Py.splitSign (Py.strip value)).2

def isHexadecimal (digits : Str) : Bool := "0x".toList.isPrefixOf (Py.lowerAscii digits)

def baseOf (digits : Str) : Nat :=
  if isHexadecimal digits then 16 else if 1 < digits.length ∧ digits.head? = some '0' then 8 else 10

/-- The argument of `int`. -/
def leftText (digits : Str) : Str := if isHexadecimal digits then digits.drop 2 else digits

/-- A numeral of `int` that is not just digits of its base: it has a sign, a base marker, a space, an underscore or a
digit of another script. -/
def Lenient (value : Str) : Prop :=
  IntNumeral (baseOf (unsigned value)) (leftText (unsigned value)) ∧
    ∃ c ∈ leftText (unsigned value), ¬ IsDigitOf (baseOf (unsigned value)) c

theorem parseUint64_eq (value : Str) : parseUint64 value = if unsigned value = [] then none else
    (Py.int (leftText (unsigned value)) (baseOf (unsigned value))).map (fun n =>
      let parsed := if (Py.splitSign (Py.strip value)).1 then -n else n
      if parsed < 0 then parsed % 2 ^ 64 else min parsed uint64Max) := by
  unfold parseUint64 unsigned baseOf leftText isHexadecimal
  dsimp only
  by_cases hd : (Py.splitSign (Py.strip value)).2 = []
  · rw [if_pos hd, if_pos hd]
  · rw [if_neg hd, if_neg hd]
    cases Py.int _ _ with
    | none => rfl
    | some n => exact apply_ite some _ _ _ |>.symm

theorem baseOf_le (digits : Str) : baseOf digits ≤ 16 := by
  unfold baseOf
  split
  · exact Nat.le_refl 16
  · split <;> omega

/-! ## The grammar in terms of the base -/

theorem isHexadecimal_marked {x : Char} (hx : x = 'x' ∨ x = 'X') (hex : Str) : isHexadecimal ('0' :: x :: hex) = true := by
  rcases hx with rfl | rfl <;> rfl

theorem toNat_lowerChar (c : Char) :
    (Py.lowerChar c).toNat = if 65 ≤ c.toNat ∧ c.toNat ≤ 90 then c.toNat + 32 else c.toNat := by
  unfold Py.lowerChar
  simp only [Py.le_toNat]
  change (if 65 ≤ c.toNat ∧ c.toNat ≤ 90 then _ else _ : Char).toNat = _
  by_cases h : 65 ≤ c.toNat ∧ c.toNat ≤ 90
  · rw [if_pos h, if_pos h, Char.toNat_ofNat, if_pos (Or.inl (by omega))]
  · rw [if_neg h, if_neg h]

/-- A text that is hexadecimal is marked so. -/
theorem exists_of_isHexadecimal {digits : Str} (h : isHexadecimal digits = true) :
    ∃ x hex, (x = 'x' ∨ x = 'X') ∧ digits = '0' :: x :: hex := by
  unfold isHexadecimal Py.lowerAscii at h
  match digits, h with
  | [_], h =>
    have h' : ('0' == Py.lowerChar _ && false) = true := h
    rw [Bool.and_false] at h'
    cases h'
  | z :: x :: hex, h =>
    have h' : ('0' == Py.lowerChar z && ('x' == Py.lowerChar x && true)) = true := h
    simp only [Bool.and_true, Bool.and_eq_true, beq_iff_eq] at h'
    have hz := congrArg Char.toNat h'.1
    have hx := congrArg Char.toNat h'.2
    rw [toNat_lowerChar] at hz hx
    have hzero : z = '0' := Char.toNat_inj.1 (by
      split at hz
      · change 48 = _ at hz
        omega
      · exact hz.symm)
    refine ⟨x, hex, ?_, by rw [hzero]⟩
    change 120 = _ at hx
    split at hx
    · exact .inr (Char.toNat_inj.1 (show x.toNat = 88 by omega))
    · exact .inl (Char.toNat_inj.1 hx.symm)

/-- Digits of a base alone are not marked as hexadecimal. -/
theorem not_isHexadecimal {base : Nat} (hb : base ≤ 16) {digits : Str} (h : ∀ c ∈ digits, IsDigitOf base c) :
    isHexadecimal digits = false := by
  rw [Bool.eq_false_iff]
  intro hmarked
  obtain ⟨x, hex, hx, rfl⟩ := exists_of_isHexadecimal hmarked
  have hm := (Py.isDigitOf_char hb (h x (by simp))).2
  rcases hx with hx | hx
  · exact hm (by rw [hx]; decide)
  · exact hm (by rw [hx]; decide)

theorem splitSign_digits {base : Nat} (hb : base ≤ 16) {sign body : Str} (hs : sign ∈ [[], ['-'], ['+']]) {c : Char}
    {rest : Str} (hbody : body = c :: rest) (hc : IsDigitOf base c) :
    Py.splitSign (sign ++ body) = (sign == ['-'], body) := by
  subst hbody
  have hsign : c ∉ ['-', '+'] :=
    fun hm => (Py.isDigitOf_char hb hc).2 (List.mem_append_left ['_', 'x', 'X', 'o', 'O'] hm)
  simp only [List.mem_cons, List.not_mem_nil, or_false] at hs
  rcases hs with rfl | rfl | rfl
  · exact Py.splitSign_of_head hsign rest
  · rfl
  · rfl

theorem parts_hexadecimal {x : Char} (hx : x = 'x' ∨ x = 'X') (hex : Str) :
    leftText ('0' :: x :: hex) = hex ∧ baseOf ('0' :: x :: hex) = 16 := by
  unfold leftText baseOf
  rw [isHexadecimal_marked hx]
  exact ⟨rfl, rfl⟩

/-- Without the marker everything is left to `int`, in base 8 after a zero. -/
theorem parts_unmarked {digits : Str} (h : isHexadecimal digits = false) : leftText digits = digits ∧
    baseOf digits = if 1 < digits.length ∧ digits.head? = some '0' then 8 else 10 := by
  unfold leftText baseOf
  rw [h]
  exact ⟨rfl, rfl⟩

/-- The digits that follow a sign are what the grammar says. -/
theorem uint64Numeral_iff {text : Str} {negative : Bool} {n : Nat} : Uint64Numeral text negative n ↔
    negative = (Py.splitSign text).1 ∧ leftText (Py.splitSign text).2 ≠ [] ∧
      (∀ c ∈ leftText (Py.splitSign text).2, IsDigitOf (baseOf (Py.splitSign text).2) c) ∧
      n = plainValue (baseOf (Py.splitSign text).2) (leftText (Py.splitSign text).2) := by
  constructor
  · rintro ⟨sign, body, rfl, hs, rfl, h⟩
    rcases h with ⟨x, hex, hx, rfl, hne, hd, rfl⟩ | ⟨octal, rfl, hd, rfl⟩ | ⟨d, rest, rfl, hz, hd, rfl⟩
    · rw [splitSign_digits (Nat.le_refl 16) hs rfl ⟨0, rfl, by decide⟩]
      obtain ⟨htext, hbase⟩ := parts_hexadecimal hx hex
      dsimp only
      rw [htext, hbase]
      exact ⟨rfl, hne, hd, rfl⟩
    · have hzero : ∀ c ∈ '0' :: octal, IsDigitOf 8 c := List.forall_mem_cons.2 ⟨⟨0, rfl, by decide⟩, hd⟩
      rw [splitSign_digits (by decide) hs rfl (hzero '0' List.mem_cons_self)]
      obtain ⟨htext, hbase⟩ := parts_unmarked (not_isHexadecimal (by decide) hzero)
      dsimp only
      rw [htext, hbase]
      cases octal with
      | nil =>
        have hten : IsDigitOf 10 '0' := ⟨0, rfl, by decide⟩
        exact ⟨rfl, List.cons_ne_nil _ _, fun c hc => List.mem_singleton.1 hc ▸ hten, rfl⟩
      | cons c rest =>
        rw [if_pos ⟨Nat.succ_lt_succ (Nat.zero_lt_succ _), rfl⟩]
        exact ⟨rfl, List.cons_ne_nil _ _, hzero, rfl⟩
    · rw [splitSign_digits (by decide) hs rfl (hd d List.mem_cons_self)]
      obtain ⟨htext, hbase⟩ := parts_unmarked (not_isHexadecimal (by decide) hd)
      have h8 : ¬ (1 < (d :: rest).length ∧ (d :: rest).head? = some '0') := fun h => hz (Option.some.inj h.2)
      rw [if_neg h8] at hbase
      dsimp only
      rw [htext, hbase]
      exact ⟨rfl, List.cons_ne_nil d rest, hd, rfl⟩
  · rintro ⟨rfl, hne, hd, rfl⟩
    obtain ⟨sign, hs, htext⟩ := Py.splitSign_spec text
    have hsign : ∀ {c rest}, (Py.splitSign text).2 = c :: rest → IsDigitOf 16 c →
        (Py.splitSign text).1 = (sign == ['-']) := by
      intro c rest hb hc
      have hsplit := splitSign_digits (Nat.le_refl 16) hs hb hc
      rw [← htext] at hsplit
      exact congrArg Prod.fst hsplit
    refine ⟨sign, _, htext, hs, ?_⟩
    generalize (Py.splitSign text).2 = body at hne hd hsign
    cases hm : isHexadecimal body with
    | true =>
      obtain ⟨x, hex, hx, rfl⟩ := exists_of_isHexadecimal hm
      obtain ⟨hparts, hbase⟩ := parts_hexadecimal hx hex
      rw [hparts] at hne hd ⊢
      rw [hbase] at hd ⊢
      exact ⟨hsign rfl ⟨0, rfl, by decide⟩, .inl ⟨x, hex, hx, rfl, hne, hd, rfl⟩⟩
    | false =>
      obtain ⟨hparts, hbase⟩ := parts_unmarked hm
      rw [hparts] at hne hd ⊢
      rw [hbase] at hd ⊢
      obtain ⟨d, rest, rfl⟩ := List.exists_cons_of_ne_nil hne
      by_cases h8 : 1 < (d :: rest).length ∧ (d :: rest).head? = some '0'
      · rw [if_pos h8] at hd ⊢
        obtain rfl := Option.some.inj h8.2
        exact ⟨hsign rfl ⟨0, rfl, by decide⟩,
          .inr (.inl ⟨rest, rfl, fun c hc => hd c (List.mem_cons_of_mem _ hc), rfl⟩)⟩
      · rw [if_neg h8] at hd ⊢
        obtain ⟨v, hv, hlt⟩ := hd d List.mem_cons_self
        refine ⟨hsign rfl ⟨v, hv, by omega⟩, ?_⟩
        by_cases hz : d = '0'
        · subst hz
          cases rest with
          | nil => exact .inr (.inl ⟨[], rfl, (fun c hc => nomatch hc), rfl⟩)
          | cons c rest => exact absurd ⟨Nat.succ_lt_succ (Nat.zero_lt_succ _), rfl⟩ h8
        · exact .inr (.inr ⟨d, rest, rfl, hz, hd, rfl⟩)

/-! ## Agreement -/

theorem length_leftText (value : Str) : (leftText (unsigned value)).length ≤ value.length := by
  have hstrip : (Py.strip value).length ≤ value.length :=
    ((List.rdropWhile_prefix _ _).sublist.trans (List.dropWhile_sublist _)).length_le
  have hsign : (unsigned value).length ≤ (Py.strip value).length := by
    obtain ⟨sign, -, htext⟩ := Py.splitSign_spec (Py.strip value)
    have hlen := congrArg List.length htext
    rw [List.length_append] at hlen
    unfold unsigned
    omega
  have htext : (leftText (unsigned value)).length ≤ (unsigned value).length := by
    unfold leftText
    split
    · rw [List.length_drop]
      omega
    · exact Nat.le_refl _
  omega

/-- What is left to `int` is a numeral, or nothing is read. -/
theorem intNumeral_of_parseUint64 {value : Str} {n : Int} (h : parseUint64 value = some n) :
    IntNumeral (baseOf (unsigned value)) (leftText (unsigned value)) := by
  rw [parseUint64_eq] at h
  split at h
  · cases h
  · obtain ⟨m, hm, -⟩ := Option.map_eq_some_iff.1 h
    exact Py.intNumeral_of_int hm

/-- What `int` accepts is a numeral of the grammar exactly when it is not lenient. -/
theorem numeral_iff_not_lenient {value : Str} (h : IntNumeral (baseOf (unsigned value)) (leftText (unsigned value))) :
    (∃ negative n, Uint64Numeral (Py.strip value) negative n) ↔ ¬ Lenient value := by
  constructor
  · rintro ⟨negative, n, hn⟩ ⟨-, c, hc, hd⟩
    exact hd ((uint64Numeral_iff.1 hn).2.2.1 c hc)
  · intro hl
    refine ⟨_, _, uint64Numeral_iff.2 ⟨rfl, Py.ne_nil_of_intNumeral h, fun c hc => ?_, rfl⟩⟩
    by_contra hd
    exact hl ⟨h, c, hc, hd⟩

theorem uint64Value_eq (negative : Bool) (n : Nat) :
    (let parsed := if negative then -(n : Int) else n
      if parsed < 0 then parsed % 2 ^ 64 else min parsed uint64Max) = uint64Value negative n := by
  unfold uint64Value uint64Max
  cases negative with
  | false => simp
  | true =>
    dsimp only
    rw [if_pos rfl, if_pos rfl]
    split <;> omega

theorem parseUint64_of_numeral {value : Str} {negative : Bool} {n : Nat} (hl : value.length ≤ 4300)
    (h : Uint64Numeral (Py.strip value) negative n) : parseUint64 value = some (uint64Value negative n) := by
  obtain ⟨rfl, hne, hd, rfl⟩ := uint64Numeral_iff.1 h
  have hlen := (length_leftText value).trans hl
  have hint : Py.int (leftText (unsigned value)) (baseOf (unsigned value)) = _ :=
    Py.int_of_plain (baseOf_le (unsigned value)) hne hd (.inr hlen)
  have hsome : unsigned value ≠ [] := by
    intro he
    unfold unsigned at he
    rw [he] at hne
    exact hne rfl
  rw [parseUint64_eq, if_neg hsome, hint]
  exact congrArg some (uint64Value_eq _ _)

/-- A numeral that is short enough is read. -/
theorem parseUint64_of_intNumeral {value : Str} (hl : value.length ≤ 4300)
    (h : IntNumeral (baseOf (unsigned value)) (leftText (unsigned value))) : parseUint64 value ≠ none := by
  obtain ⟨n, hn⟩ := Py.int_of_intNumeral (baseOf_le (unsigned value)) h ((length_leftText value).trans hl)
  have hsome : unsigned value ≠ [] := fun he => Py.ne_nil_of_intNumeral h (by rw [he]; rfl)
  rw [parseUint64_eq, if_neg hsome, hn]
  exact Option.some_ne_none _

/-- **`parse_uint64` accepts the numerals alone, unless what it leaves to `int` is more than digits.** -/
theorem agrees_iff {value : Str} (hl : value.length ≤ 4300) : Agrees value ↔ ¬ Lenient value := by
  constructor
  · intro h hlenient
    have hnumeral := h.1.1 (parseUint64_of_intNumeral hl hlenient.1)
    exact (numeral_iff_not_lenient hlenient.1).1 hnumeral hlenient
  · intro hn
    refine ⟨⟨fun hp => ?_, ?_⟩, fun negative n => parseUint64_of_numeral hl⟩
    · obtain ⟨v, hv⟩ := Option.ne_none_iff_exists'.1 hp
      exact (numeral_iff_not_lenient (intNumeral_of_parseUint64 hv)).2 hn
    · rintro ⟨negative, n, h⟩
      rw [parseUint64_of_numeral hl h]
      exact Option.some_ne_none _

/-! ## PCI resources -/

theorem parseUint64_range {value : Str} {n : Int} (h : parseUint64 value = some n) : 0 ≤ n ∧ n < 2 ^ 64 := by
  rw [parseUint64_eq] at h
  split at h
  · cases h
  · obtain ⟨m, -, rfl⟩ := Option.map_eq_some_iff.1 h
    dsimp only
    generalize (if (Py.splitSign (Py.strip value)).1 = true then -m else m) = parsed
    unfold uint64Max
    split <;> omega

/-- An entry is what a line's first three fields say. -/
structure FromLine (line : Str) (r : PciResource) (startText endText flagsText : Str) : Prop where
  fields : ∃ rest, Py.words line = startText :: endText :: flagsText :: rest
  start : parseUint64 startText = some r.start
  «end» : parseUint64 endText = some r.end
  flags : parseUint64 flagsText = some r.flags
  ordered : r.start ≤ r.end
  sizeBytes : r.sizeBytes = r.end - r.start + 1

theorem fromLine_of_parsePciResource {index : Nat} {line : Str} {r : PciResource}
    (h : parsePciResource index line = some r) : r.index = index ∧
      ∃ startText endText flagsText, FromLine line r startText endText flagsText := by
  unfold parsePciResource at h
  split at h
  · rename_i startText endText flagsText rest hw
    split at h
    · rename_i start stop flags hs he hf
      split at h
      · cases h
      · rename_i hn
        obtain rfl := Option.some.inj h
        exact ⟨rfl, startText, endText, flagsText, ⟨rest, hw⟩, hs, he, hf, not_lt.1 (fun hlt => hn (.inr hlt)), rfl⟩
    · cases h
  · cases h

/-- What a field is read as is within 64 bits, and it is a numeral of the grammar unless it is lenient. -/
theorem field_numeral {text : Str} {n : Int} (h : parseUint64 text = some n) :
    (∃ negative n, Uint64Numeral (Py.strip text) negative n) ↔ ¬ Lenient text :=
  numeral_iff_not_lenient (intNumeral_of_parseUint64 h)

theorem indices_increase (content : Str) : ((parsePciResources content).map (·.index)).Pairwise (· < ·) := by
  unfold parsePciResources
  rw [List.pairwise_map, List.pairwise_filterMap]
  have hz : (Py.splitlines content).zipIdx.Pairwise (fun x y => x.2 < y.2) := by
    rw [← List.pairwise_map, List.zipIdx_map_snd]
    exact List.pairwise_lt_range'
  refine hz.imp (fun {x y} hlt r hr r' hr' => ?_)
  rw [(fromLine_of_parsePciResource hr).1, (fromLine_of_parsePciResource hr').1]
  exact hlt

/-- **The numerals of `parse_uint64` and of PCI resources**: strict but for the lenient ones. -/
theorem uint64_grammar (value content : Str) : (value.length ≤ 4300 → (Agrees value ↔ ¬ Lenient value)) ∧
    ((parsePciResources content).map (·.index)).Pairwise (· < ·) ∧
    ∀ r ∈ parsePciResources content, 0 ≤ r.start ∧ r.start ≤ r.end ∧ r.end < 2 ^ 64 ∧
      r.sizeBytes = r.end - r.start + 1 ∧
      ∃ line startText endText flagsText, (Py.splitlines content)[r.index]? = some line ∧
        FromLine line r startText endText flagsText ∧
        ((∀ text ∈ [startText, endText, flagsText], ∃ negative n, Uint64Numeral (Py.strip text) negative n) ↔
          ∀ text ∈ [startText, endText, flagsText], ¬ Lenient text) := by
  refine ⟨agrees_iff, indices_increase content, fun r hr => ?_⟩
  obtain ⟨⟨line, index⟩, hm, hr⟩ := List.mem_filterMap.1 hr
  obtain ⟨rfl, startText, endText, flagsText, h⟩ := fromLine_of_parsePciResource hr
  refine ⟨(parseUint64_range h.start).1, h.ordered, (parseUint64_range h.end).2, h.sizeBytes, line, startText, endText,
    flagsText, List.mem_zipIdx_iff_getElem?.1 hm, h, ?_⟩
  simp only [List.forall_mem_cons, field_numeral h.start, field_numeral h.end, field_numeral h.flags, List.not_mem_nil,
    false_imp_iff, implies_true]

/-- Two signs. -/
theorem two_signs_accepted : parseUint64 "--5".toList = some 5 ∧ ¬ Agrees "--5".toList := by
  have hp : parseUint64 "--5".toList = some 5 := by decide +kernel
  refine ⟨hp, fun h => ?_⟩
  have hnumeral := h.1.1 (by rw [hp]; exact Option.some_ne_none _)
  obtain ⟨negative, n, hn⟩ := hnumeral
  obtain ⟨d, hd, -⟩ := (uint64Numeral_iff.1 hn).2.2.1 '-' (by decide +kernel)
  cases hd

end Tt
