import TtMetricsExporter.PyNumber
/-!
# PyInt — the texts that `int(text, base)` accepts

Once Unicode digits and spaces are read in ASCII, a numeral is a sign, a base marker with an underscore after it, and
digits with single underscores between them, each part but the digits optional, within outer whitespace (`IntNumeral`).
The plain ones, digits and nothing else, are read as they stand (`int_of_plain`).
-/
namespace Py

/-! ## The language -/

/-- The character is a digit of the base. -/
def IsDigitOf (base : Nat) (c : Char) : Prop := ∃ d, digitValue c = some d ∧ d < base

/-- Digits with single underscores between them. -/
inductive Underscored (base : Nat) : Str → Prop where
  | one {c : Char} (h : IsDigitOf base c) : Underscored base [c]
  | digit {c : Char} {rest : Str} (h : IsDigitOf base c) (hr : Underscored base rest) : Underscored base (c :: rest)
  | underscore {c : Char} {rest : Str} (h : IsDigitOf base c) (hr : Underscored base rest) :
      Underscored base (c :: '_' :: rest)

/-- The letters that mark a base after a zero. -/
def markerLetters (base : Nat) : List Char :=
  if base = 16 then ['x', 'X'] else if base = 8 then ['o', 'O'] else []

/-- The base markers, with the underscore that may follow, and the empty one. -/
def markers (base : Nat) : List Str := [] :: (markerLetters base).flatMap (fun c => [['0', c], ['0', c, '_']])

/-- The texts that are read as a number of the base. -/
def IntNumeral (base : Nat) (text : Str) : Prop :=
  ∃ before sign marker digits after, transformDecimalAndSpace text = some (before ++ (sign ++ (marker ++ digits)) ++ after) ∧
    (∀ c ∈ before, isAsciiSpace c = true) ∧ (∀ c ∈ after, isAsciiSpace c = true) ∧ sign ∈ [[], ['-'], ['+']] ∧
    marker ∈ markers base ∧ Underscored base digits

/-! ## Digits -/

theorem filter_digitValue {base : Nat} {c : Char} :
    ((digitValue c).filter (· < base)).isSome ↔ IsDigitOf base c := by
  unfold IsDigitOf
  cases digitValue c with
  | none => simp
  | some d => simp [Option.filter]

theorem not_isDigitOf_underscore {base : Nat} : ¬ IsDigitOf base '_' := fun ⟨_, h, _⟩ => nomatch h

theorem isSome_digit_bind {base : Nat} {c : Char} {rest : Str} : (do
    let d ← (digitValue c).filter (· < base)
    let ds ← literalDigits base rest
    return d :: ds : Option (List Nat)).isSome ↔ IsDigitOf base c ∧ (literalDigits base rest).isSome := by
  rw [← filter_digitValue]
  cases (digitValue c).filter (· < base) <;> cases literalDigits base rest <;> simp

theorem literalDigits_isSome {base : Nat} : ∀ {s : Str}, (literalDigits base s).isSome ↔ Underscored base s := by
  intro s
  fun_induction literalDigits base s with
  | case1 => exact iff_of_false (fun h => nomatch h) (fun h => nomatch h)
  | case2 c =>
    rw [Option.isSome_map, filter_digitValue]
    constructor
    · exact .one
    · intro h
      cases h with
      | one h => exact h
      | digit h hr => cases hr
  | case3 c rest ih =>
    rw [isSome_digit_bind, ih]
    constructor
    · exact fun h => .underscore h.1 h.2
    · intro h
      cases h with
      | underscore h hr => exact ⟨h, hr⟩
      | digit h hr =>
        -- an underscore is no digit
        cases hr with
        | one h' => exact absurd h' not_isDigitOf_underscore
        | digit h' _ => exact absurd h' not_isDigitOf_underscore
        | underscore h' _ => exact absurd h' not_isDigitOf_underscore
  | case4 c rest h1 h2 ih =>
    rw [isSome_digit_bind, ih]
    constructor
    · exact fun h => .digit h.1 h.2
    · intro h
      cases h with
      | one h => exact absurd rfl h1
      | digit h hr => exact ⟨h, hr⟩
      | underscore h hr => exact absurd rfl (h2 _)

theorem le_toNat {c d : Char} : c ≤ d ↔ c.toNat ≤ d.toNat := UInt32.le_iff_toNat_le

theorem isDigitOf_range {base : Nat} (hb : base ≤ 16) {c : Char} (h : IsDigitOf base c) :
    (48 ≤ c.toNat ∧ c.toNat ≤ 57) ∨ (97 ≤ c.toNat ∧ c.toNat ≤ 102) ∨ (65 ≤ c.toNat ∧ c.toNat ≤ 70) := by
  obtain ⟨d, hd, hlt⟩ := h
  unfold digitValue at hd
  simp only [le_toNat] at hd
  change (if 48 ≤ c.toNat ∧ c.toNat ≤ 57 then _ else if 97 ≤ c.toNat ∧ c.toNat ≤ 122 then _ else
    if 65 ≤ c.toNat ∧ c.toNat ≤ 90 then _ else _) = _ at hd
  split at hd
  · omega
  · split at hd
    · obtain rfl := Option.some.inj hd
      omega
    · split at hd
      · obtain rfl := Option.some.inj hd
        omega
      · cases hd

/-- A digit is neither a space nor a sign nor an underscore nor the letter of a marker. -/
theorem isDigitOf_char {base : Nat} (hb : base ≤ 16) {c : Char} (h : IsDigitOf base c) :
    isAsciiSpace c = false ∧ c ∉ ['-', '+', '_', 'x', 'X', 'o', 'O'] := by
  have hr := isDigitOf_range hb h
  refine ⟨?_, fun hm => ?_⟩
  · simp only [isAsciiSpace, Bool.or_eq_false_iff, Bool.and_eq_false_iff, decide_eq_false_iff_not, beq_eq_false_iff_ne]
    omega
  · have hcodes : c.toNat ∈ [45, 43, 95, 120, 88, 111, 79] := List.mem_map_of_mem (f := Char.toNat) hm
    simp only [List.mem_cons, List.not_mem_nil, or_false] at hcodes
    omega

/-! ## Outer whitespace -/

/-- What starts and ends with what is kept is left of what surrounds it. -/
theorem stripBy_append {p : Char → Bool} {before core after : Str} (hb : ∀ c ∈ before, p c = true)
    (ha : ∀ c ∈ after, p c = true) (hh : ∀ c, core.head? = some c → p c = false)
    (hl : ∀ c, core.getLast? = some c → p c = false) (hne : core ≠ []) : stripBy p (before ++ core ++ after) = core := by
  have hcore : stripBy p core = core := stripBy_of_ends hh hl
  have hdrop : core.dropWhile p = core := by
    obtain ⟨c, rest, rfl⟩ := List.exists_cons_of_ne_nil hne
    exact List.dropWhile_cons_of_neg (by simp [hh c rfl])
  unfold stripBy at hcore ⊢
  rw [hdrop] at hcore
  have hleft : (core ++ after).dropWhile p = core ++ after := by
    obtain ⟨c, rest, rfl⟩ := List.exists_cons_of_ne_nil hne
    exact List.dropWhile_cons_of_neg (by simp [hh c rfl])
  rw [List.append_assoc, List.dropWhile_append_of_pos hb, hleft]
  unfold List.rdropWhile at hcore ⊢
  rw [List.reverse_append, List.dropWhile_append_of_pos (fun c hc => ha c (List.mem_reverse.1 hc))]
  exact hcore

theorem exists_of_stripBy (p : Char → Bool) (s : Str) : ∃ before after, s = before ++ stripBy p s ++ after ∧
    (∀ c ∈ before, p c = true) ∧ ∀ c ∈ after, p c = true := by
  refine ⟨s.takeWhile p, (s.dropWhile p).rtakeWhile p, ?_, fun c hc => List.mem_takeWhile_imp hc,
    fun c hc => List.mem_rtakeWhile_imp hc⟩
  unfold stripBy
  rw [List.append_assoc, List.rdropWhile_append_rtakeWhile, List.takeWhile_append_dropWhile]

/-! ## The numerals of `int` -/

theorem underscored_head {base : Nat} {digits : Str} (h : Underscored base digits) :
    ∃ c rest, digits = c :: rest ∧ IsDigitOf base c := by
  cases h with
  | one h => exact ⟨_, _, rfl, h⟩
  | digit h _ => exact ⟨_, _, rfl, h⟩
  | underscore h _ => exact ⟨_, _, rfl, h⟩

theorem underscored_getLast {base : Nat} {digits : Str} (h : Underscored base digits) :
    ∀ c, digits.getLast? = some c → IsDigitOf base c := by
  induction h with
  | one h =>
    intro c hc
    obtain rfl := Option.some.inj hc
    exact h
  | digit _ hr ih =>
    obtain ⟨d, rest, rfl, -⟩ := underscored_head hr
    intro c hc
    rw [List.getLast?_cons_cons] at hc
    exact ih c hc
  | underscore _ hr ih =>
    obtain ⟨d, rest, rfl, -⟩ := underscored_head hr
    intro c hc
    rw [List.getLast?_cons_cons, List.getLast?_cons_cons] at hc
    exact ih c hc

theorem underscored_second {base : Nat} (hb : base ≤ 16) {c d : Char} {rest : Str}
    (h : Underscored base (c :: d :: rest)) : d ∉ ['x', 'X', 'o', 'O'] := by
  have hchar : ∀ {d}, IsDigitOf base d → d ∉ ['x', 'X', 'o', 'O'] :=
    fun hd hm => (isDigitOf_char hb hd).2 (List.mem_append_right ['-', '+', '_'] hm)
  cases h with
  | digit _ hr =>
    obtain ⟨d', rest', he, hd⟩ := underscored_head hr
    exact (List.cons.inj he).1 ▸ hchar hd
  | underscore _ _ => decide

theorem dropMarker_digits {base : Nat} (hb : base ≤ 16) {digits : Str} (h : Underscored base digits) :
    dropMarker base digits = digits := by
  unfold dropMarker
  split
  · have hsecond := underscored_second hb h
    simp only [List.mem_cons, List.not_mem_nil, or_false, not_or] at hsecond
    rw [if_neg (by simp [hsecond])]
  · rfl

theorem mem_markers {base : Nat} {marker : Str} : marker ∈ markers base ↔
    marker = [] ∨ ∃ c ∈ markerLetters base, marker = ['0', c] ∨ marker = ['0', c, '_'] := by
  unfold markers
  rw [List.mem_cons, List.mem_flatMap]
  simp only [List.mem_cons, List.not_mem_nil, or_false]

theorem mem_markerLetters {base : Nat} {c : Char} : c ∈ markerLetters base ↔
    (base = 16 ∧ (c = 'x' ∨ c = 'X')) ∨ (base = 8 ∧ (c = 'o' ∨ c = 'O')) := by
  unfold markerLetters
  by_cases h16 : base = 16
  · simp [h16]
  · by_cases h8 : base = 8 <;> simp [h16, h8]

theorem dropMarker_marked {base : Nat} {c : Char} (hc : c ∈ markerLetters base) (rest : Str) :
    dropMarker base ('0' :: c :: rest) = match rest with
      | '_' :: rest' => rest'
      | _ => rest := by
  unfold dropMarker
  exact if_pos (mem_markerLetters.1 hc)

/-- The markers are what `int` drops. -/
theorem dropMarker_append {base : Nat} (hb : base ≤ 16) {marker digits : Str} (hm : marker ∈ markers base)
    (hd : Underscored base digits) : dropMarker base (marker ++ digits) = digits := by
  obtain ⟨c, rest, rfl, hc⟩ := underscored_head hd
  have hne : c ≠ '_' := fun he => (isDigitOf_char hb hc).2 (by rw [he]; decide)
  rcases mem_markers.1 hm with rfl | ⟨l, hl, rfl | rfl⟩
  · exact dropMarker_digits hb hd
  · show dropMarker base ('0' :: l :: c :: rest) = c :: rest
    rw [dropMarker_marked hl]
    split
    · rename_i he
      exact absurd (List.cons.inj he).1 hne
    · rfl
  · exact dropMarker_marked hl ('_' :: c :: rest)

theorem exists_of_dropMarker (base : Nat) (body : Str) :
    ∃ marker ∈ markers base, body = marker ++ dropMarker base body := by
  unfold dropMarker
  split
  · rename_i c rest
    split
    · rename_i hc
      have hl := mem_markerLetters.2 hc
      split
      · exact ⟨['0', c, '_'], mem_markers.2 (.inr ⟨c, hl, .inr rfl⟩), rfl⟩
      · exact ⟨['0', c], mem_markers.2 (.inr ⟨c, hl, .inl rfl⟩), rfl⟩
    · exact ⟨[], mem_markers.2 (.inl rfl), rfl⟩
  · exact ⟨[], mem_markers.2 (.inl rfl), rfl⟩

theorem splitSign_of_head {c : Char} (h : c ∉ ['-', '+']) (rest : Str) : splitSign (c :: rest) = (false, c :: rest) := by
  unfold splitSign
  split
  · rename_i he
    exact absurd (by rw [(List.cons.inj he).1]; decide) h
  · rename_i he
    exact absurd (by rw [(List.cons.inj he).1]; decide) h
  · rfl

/-- A numeral without its outer whitespace: no end of it is a space, and its parts are found. -/
theorem numeral_core {base : Nat} (hb : base ≤ 16) {sign marker digits : Str} (hs : sign ∈ [[], ['-'], ['+']])
    (hm : marker ∈ markers base) (hd : Underscored base digits) :
    (∀ c, (sign ++ (marker ++ digits)).head? = some c → isAsciiSpace c = false) ∧
    (∀ c, (sign ++ (marker ++ digits)).getLast? = some c → isAsciiSpace c = false) ∧
    splitSign (sign ++ (marker ++ digits)) = (sign == ['-'], marker ++ digits) := by
  have hlast : ∀ c, (sign ++ (marker ++ digits)).getLast? = some c → isAsciiSpace c = false := by
    intro c hc
    obtain ⟨d, rest, rfl, -⟩ := underscored_head hd
    rw [List.getLast?_append_of_ne_nil _ (by simp), List.getLast?_append_of_ne_nil _ (by simp)] at hc
    exact (isDigitOf_char hb (underscored_getLast hd c hc)).1
  obtain ⟨c, rest, hbody, hspace, hsign⟩ : ∃ c rest, marker ++ digits = c :: rest ∧ isAsciiSpace c = false ∧
      c ∉ ['-', '+'] := by
    rcases mem_markers.1 hm with rfl | ⟨l, -, rfl | rfl⟩
    · obtain ⟨c, rest, rfl, hc⟩ := underscored_head hd
      have hchar := isDigitOf_char hb hc
      exact ⟨c, rest, rfl, hchar.1, fun hm => hchar.2 (List.mem_append_left ['_', 'x', 'X', 'o', 'O'] hm)⟩
    · exact ⟨_, _, rfl, rfl, by decide⟩
    · exact ⟨_, _, rfl, rfl, by decide⟩
  rw [hbody] at hlast ⊢
  simp only [List.mem_cons, List.not_mem_nil, or_false] at hs
  rcases hs with rfl | rfl | rfl
  · refine ⟨fun d hd => ?_, hlast, splitSign_of_head hsign rest⟩
    obtain rfl := Option.some.inj hd
    exact hspace
  · refine ⟨fun d hd => ?_, hlast, rfl⟩
    obtain rfl := Option.some.inj hd
    rfl
  · refine ⟨fun d hd => ?_, hlast, rfl⟩
    obtain rfl := Option.some.inj hd
    rfl

/-- **What `int` accepts is a numeral.** -/
theorem intNumeral_of_int {base : Nat} {text : Str} {n : Int} (h : int text base = some n) : IntNumeral base text := by
  unfold int at h
  obtain ⟨ascii, ht, h⟩ := Option.bind_eq_some_iff.1 h
  obtain ⟨before, after, hparts, hbefore, hafter⟩ := exists_of_stripBy isAsciiSpace ascii
  obtain ⟨sign, hs, hcore⟩ := splitSign_spec (stripBy isAsciiSpace ascii)
  generalize splitSign (stripBy isAsciiSpace ascii) = parts at h hcore
  obtain ⟨negative, body⟩ := parts
  obtain ⟨ds, hds, -⟩ := Option.bind_eq_some_iff.1 h
  obtain ⟨marker, hm, hbody⟩ := exists_of_dropMarker base body
  refine ⟨before, sign, marker, dropMarker base body, after, ?_, hbefore, hafter, hs, hm,
    literalDigits_isSome.1 (Option.isSome_of_eq_some hds)⟩
  rw [← hbody, ← hcore, ← hparts]
  exact ht

theorem eq_of_digit_bind {base : Nat} {c : Char} {rest : Str} {ds : List Nat} (h : (do
    let d ← (digitValue c).filter (· < base)
    let ds ← literalDigits base rest
    return d :: ds : Option (List Nat)) = some ds) : ∃ d ds', literalDigits base rest = some ds' ∧ ds = d :: ds' := by
  obtain ⟨d, -, h⟩ := Option.bind_eq_some_iff.1 h
  obtain ⟨ds', hds, h⟩ := Option.bind_eq_some_iff.1 h
  exact ⟨d, ds', hds, (Option.some.inj h).symm⟩

theorem length_literalDigits {base : Nat} : ∀ {s : Str} {ds : List Nat}, literalDigits base s = some ds →
    ds.length ≤ s.length := by
  intro s
  fun_induction literalDigits base s with
  | case1 => exact fun h => nomatch h
  | case2 c =>
    intro ds h
    obtain ⟨d, -, rfl⟩ := Option.map_eq_some_iff.1 h
    exact Nat.le_refl 1
  | case3 c rest ih =>
    intro ds h
    obtain ⟨d, ds', hds, rfl⟩ := eq_of_digit_bind h
    have hlen := ih hds
    simp only [List.length_cons]
    omega
  | case4 c rest _ _ ih =>
    intro ds h
    obtain ⟨d, ds', hds, rfl⟩ := eq_of_digit_bind h
    exact Nat.succ_le_succ (ih hds)

theorem length_of_mapM {α β : Type} {f : α → Option β} : ∀ {l : List α} {l' : List β}, l.mapM f = some l' →
    l'.length = l.length
  | [], _, h => by
    obtain rfl := Option.some.inj h
    rfl
  | x :: l, l', h => by
    rw [List.mapM_cons] at h
    obtain ⟨y, -, h⟩ := Option.bind_eq_some_iff.1 h
    obtain ⟨ys, hys, h⟩ := Option.bind_eq_some_iff.1 h
    obtain rfl := Option.some.inj h
    rw [List.length_cons, List.length_cons, length_of_mapM hys]

theorem length_transform {text ascii : Str} (h : transformDecimalAndSpace text = some ascii) :
    ascii.length = text.length := by
  unfold transformDecimalAndSpace at h
  by_cases ha : text.all isAscii = true
  · rw [if_pos ha] at h
    rw [Option.some.inj h]
  · rw [if_neg ha] at h
    exact length_of_mapM h

/-- **A numeral that is short enough is accepted.** -/
theorem int_of_intNumeral {base : Nat} (hb : base ≤ 16) {text : Str} (h : IntNumeral base text)
    (hl : text.length ≤ maxStrDigits) : ∃ n, int text base = some n := by
  obtain ⟨before, sign, marker, digits, after, ht, hbefore, hafter, hs, hm, hd⟩ := h
  obtain ⟨hhead, hlast, hsplit⟩ := numeral_core hb hs hm hd
  have hne : sign ++ (marker ++ digits) ≠ [] := by
    obtain ⟨c, rest, rfl, -⟩ := underscored_head hd
    simp
  obtain ⟨ds, hds⟩ := Option.isSome_iff_exists.1 (literalDigits_isSome.2 hd)
  have hlen : ¬ (base = 10 ∧ maxStrDigits < ds.length) := by
    have h1 := length_literalDigits hds
    have h2 := length_transform ht
    simp only [List.length_append] at h2
    omega
  unfold int
  rw [ht]
  simp only [Option.bind_eq_bind, Option.bind_some, stripBy_append hbefore hafter hhead hlast hne, hsplit,
    dropMarker_append hb hm hd, hds, if_neg hlen]
  exact ⟨_, rfl⟩

theorem ne_nil_of_intNumeral {base : Nat} {text : Str} (h : IntNumeral base text) : text ≠ [] := by
  obtain ⟨before, sign, marker, digits, after, ht, -, -, -, -, hd⟩ := h
  obtain ⟨c, rest, rfl, -⟩ := underscored_head hd
  have hlen := length_transform ht
  intro he
  subst he
  simp only [List.length_append, List.length_cons, List.length_nil] at hlen
  omega

/-! ## Plain digits -/

theorem underscored_of_plain {base : Nat} : ∀ {text : Str}, text ≠ [] → (∀ c ∈ text, IsDigitOf base c) →
    Underscored base text
  | [], h, _ => absurd rfl h
  | [c], _, h => .one (h c List.mem_cons_self)
  | c :: d :: rest, _, h => .digit (h c List.mem_cons_self)
      (underscored_of_plain (List.cons_ne_nil d rest) (fun x hx => h x (List.mem_cons_of_mem c hx)))

/-- The value of digits that stand alone. -/
def plainValue (base : Nat) (text : Str) : Nat := ofDigits base (text.filterMap digitValue)

theorem literalDigits_of_plain {base : Nat} {text : Str} (hne : text ≠ []) (h : ∀ c ∈ text, IsDigitOf base c) :
    literalDigits base text = some (text.filterMap digitValue) := by
  have hdigit : ∀ {c}, IsDigitOf base c → ∃ d, digitValue c = some d ∧ (digitValue c).filter (· < base) = some d := by
    rintro c ⟨d, hd, hlt⟩
    exact ⟨d, hd, by rw [hd, Option.filter_some_pos (by simpa using hlt)]⟩
  fun_induction literalDigits base text with
  | case1 => exact absurd rfl hne
  | case2 c =>
    obtain ⟨d, hd, hf⟩ := hdigit (h c List.mem_cons_self)
    rw [hf, List.filterMap_cons_some hd]
    rfl
  | case3 c rest ih => exact absurd (h '_' (by simp)) not_isDigitOf_underscore
  | case4 c rest h1 h2 ih =>
    obtain ⟨d, hd, hf⟩ := hdigit (h c List.mem_cons_self)
    rw [hf, List.filterMap_cons_some hd, ih h1 (fun x hx => h x (List.mem_cons_of_mem c hx))]
    rfl

theorem int_of_plain {base : Nat} (hb : base ≤ 16) {text : Str} (hne : text ≠ []) (h : ∀ c ∈ text, IsDigitOf base c)
    (hl : base ≠ 10 ∨ text.length ≤ maxStrDigits) : int text base = some (plainValue base text : Int) := by
  have hu := underscored_of_plain hne h
  have hascii : text.all isAscii = true := by
    rw [List.all_eq_true]
    intro c hc
    have hr := isDigitOf_range hb (h c hc)
    simp only [isAscii, decide_eq_true_eq]
    omega
  have hstrip : stripBy isAsciiSpace text = text := stripBy_of_none (fun c hc => (isDigitOf_char hb (h c hc)).1)
  have hsplit : splitSign text = (false, text) := by
    obtain ⟨c, rest, rfl, hc⟩ := underscored_head hu
    exact splitSign_of_head (fun hm => (isDigitOf_char hb hc).2 (List.mem_append_left ['_', 'x', 'X', 'o', 'O'] hm)) rest
  have hlen : ¬ (base = 10 ∧ maxStrDigits < (text.filterMap digitValue).length) := by
    have h1 := List.length_filterMap_le digitValue text
    omega
  unfold int transformDecimalAndSpace
  rw [if_pos hascii]
  simp only [Option.bind_eq_bind, Option.bind_some, hstrip, hsplit, dropMarker_digits hb hu,
    literalDigits_of_plain hne h, if_neg hlen]
  rfl

end Py
