import TtMetricsExporter.PyNumber
/-!
# JsonText — JSON values, their text, and a reader of it

`json.dumps` as it is called here: members in the order they are given, compact separators, and only quotes, backslashes
and control characters escaped.  The reader takes white space and every escape, surrogate pairs included, and numbers
without fraction or exponent; it keeps the members in order.  What is written is read back (`parse_dumps`).
-/
namespace Tt

open Py (Str strInt IsAsciiDigit)

inductive Json where
  | null
  | bool (value : Bool)
  | int (value : Int)
  | string (value : Str)
  | array (items : List Json)
  | object (members : List (Str × Json))

namespace Json

/-- One character of a string: `ensure_ascii=False` escapes what JSON must. -/
def escapeChar (c : Char) : Str :=
  if c = '"' then ['\\', '"']
  else if c = '\\' then ['\\', '\\']
  else if c = '\n' then ['\\', 'n']
  else if c = '\r' then ['\\', 'r']
  else if c = '\t' then ['\\', 't']
  else if c = '\x0c' then ['\\', 'f']
  else if c = '\x08' then ['\\', 'b']
  else if c.toNat < 0x20 then
    ['\\', 'u', '0', '0', Nat.digitChar (c.toNat / 16), Nat.digitChar (c.toNat % 16)]
  else [c]

def quote (s : Str) : Str := '"' :: (s.flatMap escapeChar ++ ['"'])

mutual
/-- `json.dumps(value, ensure_ascii=False, separators=(",", ":"))`. -/
def dumps : Json → Str
  | .null => "null".toList
  | .bool b => if b then "true".toList else "false".toList
  | .int n => strInt n
  | .string s => quote s
  | .array items => '[' :: (dumpsItems items ++ [']'])
  | .object members => '{' :: (dumpsMembers members ++ ['}'])
def dumpsItems : List Json → Str
  | [] => []
  | [item] => item.dumps
  | item :: rest => item.dumps ++ ',' :: dumpsItems rest
def dumpsMembers : List (Str × Json) → Str
  | [] => []
  | [(key, value)] => quote key ++ ':' :: value.dumps
  | (key, value) :: rest => quote key ++ ':' :: (value.dumps ++ ',' :: dumpsMembers rest)
end

/-! ## Reading -/

def isSpace (c : Char) : Bool := c == ' ' || c == '\t' || c == '\n' || c == '\r'

def skipSpace (s : Str) : Str := s.dropWhile isSpace

/-- What follows a mark, white space before it aside. -/
def expect (mark : Char) (s : Str) : Option Str :=
  match skipSpace s with
  | [] => none
  | c :: rest => if c = mark then some rest else none

def hexDigit (c : Char) : Option Nat := (Py.digitValue c).filter (· < 16)

/-- Four hexadecimal digits. -/
def readUnit : Str → Option (Nat × Str)
  | a :: b :: c :: d :: rest => ([a, b, c, d].mapM hexDigit).map (fun digits => (Py.ofDigits 16 digits, rest))
  | _ => none

/-- What follows `\u`: one unit, or a pair of surrogates. -/
def readUnicode (s : Str) : Option (Char × Str) := do
  let (unit, rest) ← readUnit s
  if 0xD800 ≤ unit ∧ unit < 0xDC00 then
    match rest with
    | '\\' :: 'u' :: rest => do
      let (low, rest) ← readUnit rest
      if 0xDC00 ≤ low ∧ low < 0xE000 then
        some (Char.ofNat (0x10000 + (unit - 0xD800) * 0x400 + (low - 0xDC00)), rest)
      else none
    | _ => none
  else if 0xDC00 ≤ unit ∧ unit < 0xE000 then none
  else some (Char.ofNat unit, rest)

def escapes : List (Char × Char) :=
  [('"', '"'), ('\\', '\\'), ('/', '/'), ('b', '\x08'), ('f', '\x0c'), ('n', '\n'), ('r', '\r'), ('t', '\t')]

/-- One character of a string; a control character must be escaped. -/
def readChar : Str → Option (Char × Str)
  | [] => none
  | c :: rest =>
    if c = '\\' then
      match rest with
      | [] => none
      | escape :: rest =>
        if escape = 'u' then readUnicode rest else (escapes.lookup escape).map (fun c => (c, rest))
    else if c.toNat < 0x20 then none
    else some (c, rest)

/-- A string up to its closing quote. -/
def readText : Nat → Str → Option (Str × Str)
  | 0, _ => none
  | fuel + 1, s =>
    if s.head? = some '"' then some ([], s.tail)
    else do
      let (c, s) ← readChar s
      let (text, s) ← readText fuel s
      return (c :: text, s)

/-- A number of digits; one that starts with zero is zero. -/
def readNat (s : Str) : Option (Nat × Str) :=
  let digits := s.takeWhile (fun c => IsAsciiDigit c)
  match digits with
  | [] => none
  | '0' :: _ => some (0, s.tail)
  | _ => some (Py.ofDigits 10 (digits.map (fun c => c.toNat - 48)), s.drop digits.length)

def readInt : Str → Option (Json × Str)
  | '-' :: s => (readNat s).map (fun p => (.int (-p.1), p.2))
  | s => (readNat s).map (fun p => (.int p.1, p.2))

def wordValues : List (Str × Json) :=
  [("null".toList, .null), ("true".toList, .bool true), ("false".toList, .bool false)]

def readWord (s : Str) : Option (Json × Str) :=
  wordValues.findSome? (fun w => if w.1.isPrefixOf s then some (w.2, s.drop w.1.length) else none)

mutual
def readValue : Nat → Str → Option (Json × Str)
  | 0, _ => none
  | fuel + 1, s =>
    match skipSpace s with
    | [] => none
    | c :: rest =>
      if c = '"' then (readText (rest.length + 1) rest).map (fun p => (.string p.1, p.2))
      else if c = '[' then
        match expect ']' rest with
        | some rest => some (.array [], rest)
        | none => (readItems fuel rest).map (fun p => (.array p.1, p.2))
      else if c = '{' then
        match expect '}' rest with
        | some rest => some (.object [], rest)
        | none => (readMembers fuel rest).map (fun p => (.object p.1, p.2))
      else if c = '-' ∨ IsAsciiDigit c then readInt (c :: rest)
      else readWord (c :: rest)
/-- The items up to the closing bracket. -/
def readItems : Nat → Str → Option (List Json × Str)
  | 0, _ => none
  | fuel + 1, s => do
    let (item, s) ← readValue fuel s
    match expect ',' s with
    | some s => (readItems fuel s).map (fun p => (item :: p.1, p.2))
    | none => (expect ']' s).map (fun s => ([item], s))
/-- The members up to the closing brace. -/
def readMembers : Nat → Str → Option (List (Str × Json) × Str)
  | 0, _ => none
  | fuel + 1, s => do
    let s ← expect '"' s
    let (key, s) ← readText (s.length + 1) s
    let s ← expect ':' s
    let (value, s) ← readValue fuel s
    match expect ',' s with
    | some s => (readMembers fuel s).map (fun p => ((key, value) :: p.1, p.2))
    | none => (expect '}' s).map (fun s => ([(key, value)], s))
end

/-- A text that is one value, white space around it aside. -/
def parse (s : Str) : Option Json :=
  match readValue (s.length + 1) s with
  | some (value, rest) => if skipSpace rest = [] then some value else none
  | none => none

/-! ## Strings -/

section
variable {c mark : Char} {s rest : Str}

theorem skipSpace_cons (h : isSpace c = false) : skipSpace (c :: rest) = c :: rest :=
  List.dropWhile_cons_of_neg (by simp [h])

theorem expect_self (h : isSpace c = false) : expect c (c :: rest) = some rest := by
  unfold expect
  rw [skipSpace_cons h]
  exact if_pos rfl

theorem expect_other (h : isSpace c = false) (hc : c ≠ mark) : expect mark (c :: rest) = none := by
  unfold expect
  rw [skipSpace_cons h]
  exact if_neg hc

theorem hexDigit_digitChar : ∀ n < 16, hexDigit (Nat.digitChar n) = some n := by decide

theorem readUnit_control (h : c.toNat < 0x20) :
    readUnit ('0' :: '0' :: Nat.digitChar (c.toNat / 16) :: Nat.digitChar (c.toNat % 16) :: rest) =
      some (c.toNat, rest) := by
  have hzero : hexDigit '0' = some 0 := by decide
  have hhigh := hexDigit_digitChar (c.toNat / 16) (by omega)
  have hlow := hexDigit_digitChar (c.toNat % 16) (Nat.mod_lt _ (by decide))
  have hvalue : Py.ofDigits 16 [0, 0, c.toNat / 16, c.toNat % 16] = c.toNat := by
    simp only [Py.ofDigits, List.foldl_cons, List.foldl_nil]
    omega
  simp only [readUnit, List.mapM_cons, List.mapM_nil, hzero, hhigh, hlow, Option.pure_def, Option.bind_eq_bind,
    Option.bind_some, Option.map_some, hvalue]

/-- **A character is read as it is written.** -/
theorem readChar_escapeChar (c : Char) (rest : Str) : readChar (escapeChar c ++ rest) = some (c, rest) := by
  unfold escapeChar
  split_ifs with h1 h2 h3 h4 h5 h6 h7 h8
  · subst h1; rfl
  · subst h2; rfl
  · subst h3; rfl
  · subst h4; rfl
  · subst h5; rfl
  · subst h6; rfl
  · subst h7; rfl
  · have hread : readUnicode ('0' :: '0' :: Nat.digitChar (c.toNat / 16) :: Nat.digitChar (c.toNat % 16) :: rest) =
        some (c, rest) := by
      unfold readUnicode
      rw [readUnit_control h8, Option.bind_eq_bind, Option.bind_some]
      dsimp only
      rw [if_neg (by omega), if_neg (by omega), Char.ofNat_toNat]
    exact hread
  · have hplain : readChar (c :: rest) = some (c, rest) := by
      unfold readChar
      dsimp only
      rw [if_neg h2, if_neg h8]
    exact hplain

/-- Inside a string no quote stands where a character starts. -/
theorem escapeChar_head (c : Char) : ∃ d t, escapeChar c = d :: t ∧ d ≠ '"' := by
  unfold escapeChar
  split_ifs with h1 h2 h3 h4 h5 h6 h7 h8
  · exact ⟨_, _, rfl, by decide⟩
  · exact ⟨_, _, rfl, by decide⟩
  · exact ⟨_, _, rfl, by decide⟩
  · exact ⟨_, _, rfl, by decide⟩
  · exact ⟨_, _, rfl, by decide⟩
  · exact ⟨_, _, rfl, by decide⟩
  · exact ⟨_, _, rfl, by decide⟩
  · exact ⟨_, _, rfl, by decide⟩
  · exact ⟨_, _, rfl, h1⟩

theorem readText_escaped : ∀ (s : Str) {fuel : Nat} {rest : Str}, s.length < fuel →
    readText fuel (s.flatMap escapeChar ++ '"' :: rest) = some (s, rest)
  | _, 0, _, h => absurd h (Nat.not_lt_zero _)
  | [], _ + 1, _, _ => rfl
  | c :: s, fuel + 1, rest, h => by
    obtain ⟨d, t, hd, hq⟩ := escapeChar_head c
    have hhead : ((c :: s).flatMap escapeChar ++ '"' :: rest).head? ≠ some '"' := by
      rw [List.flatMap_cons, hd]
      exact fun he => hq (Option.some.inj he)
    unfold readText
    rw [if_neg hhead, List.flatMap_cons, List.append_assoc, readChar_escapeChar, Option.bind_eq_bind, Option.bind_some]
    dsimp only
    rw [readText_escaped s (Nat.lt_of_succ_lt_succ h)]
    rfl

theorem length_le_flatMap_escapeChar : ∀ s : Str, s.length ≤ (s.flatMap escapeChar).length
  | [] => Nat.le_refl _
  | c :: s => by
    obtain ⟨d, t, hd, -⟩ := escapeChar_head c
    have ih := length_le_flatMap_escapeChar s
    rw [List.flatMap_cons, List.length_append, hd, List.length_cons, List.length_cons]
    omega

/-- What stands behind the opening quote of a string. -/
theorem readText_quote (s rest : Str) : readText ((s.flatMap escapeChar ++ '"' :: rest).length + 1)
    (s.flatMap escapeChar ++ '"' :: rest) = some (s, rest) := by
  refine readText_escaped s ?_
  have h := length_le_flatMap_escapeChar s
  rw [List.length_append]
  omega

/-! ## Numbers -/

/-- No digit follows. -/
def Ended (rest : Str) : Prop := ∀ c ∈ rest.head?, ¬ IsAsciiDigit c

theorem takeWhile_digits {digits : Str} (h : ∀ c ∈ digits, IsAsciiDigit c) (hr : Ended rest) :
    (digits ++ rest).takeWhile (fun c => IsAsciiDigit c) = digits := by
  rw [List.takeWhile_append_of_pos (fun c hc => decide_eq_true (h c hc))]
  cases rest with
  | nil => exact List.append_nil _
  | cons c rest =>
    rw [List.takeWhile_cons_of_neg (by simpa using hr c rfl), List.append_nil]

/-- A numeral starts with a zero only where that is all of it. -/
theorem head_toDigits (n : Nat) : ∀ t, Nat.toDigits 10 n = '0' :: t → n = 0 := by
  induction n using Nat.strong_induction_on with
  | _ n ih =>
    intro t ht
    by_cases hn : n < 10
    · rw [Nat.toDigits_of_lt_base hn] at ht
      have hchar : ∀ d < 10, Nat.digitChar d = '0' → d = 0 := by decide
      exact hchar n hn (List.cons.inj ht).1
    · rw [Nat.toDigits_of_base_le (by decide) (Nat.not_lt.1 hn)] at ht
      cases hd : Nat.toDigits 10 (n / 10) with
      | nil => exact absurd hd Nat.toDigits_ne_nil
      | cons d t' =>
        rw [hd] at ht
        have hzero := ih (n / 10) (by omega) t' (by rw [hd, (List.cons.inj ht).1])
        omega

theorem readNat_toDigits (n : Nat) (hr : Ended rest) : readNat (Nat.toDigits 10 n ++ rest) = some (n, rest) := by
  have htake := takeWhile_digits (fun c => Py.isAsciiDigit_of_mem_toDigits (n := n)) hr
  unfold readNat
  dsimp only
  rw [htake]
  cases hd : Nat.toDigits 10 n with
  | nil => exact absurd hd Nat.toDigits_ne_nil
  | cons d t =>
    by_cases hz : d = '0'
    · subst hz
      have hn := head_toDigits n t hd
      subst hn
      cases hd
      rfl
    · have hvalue := Py.ofDigits_toDigits n
      rw [hd] at hvalue
      split
      · rename_i h
        cases h
      · rename_i h
        exact absurd (List.cons.inj h).1 hz
      · rw [hvalue, List.drop_left]

theorem not_isAsciiDigit_minus : ¬ IsAsciiDigit '-' := by decide

theorem readInt_strInt (n : Int) (hr : Ended rest) : readInt (strInt n ++ rest) = some (.int n, rest) := by
  cases n with
  | ofNat n =>
    show readInt (Nat.toDigits 10 n ++ rest) = _
    have hread := readNat_toDigits n hr
    unfold readInt
    split
    · rename_i s h
      have hm : '-' ∈ Nat.toDigits 10 n := by
        cases hd : Nat.toDigits 10 n with
        | nil => exact absurd hd Nat.toDigits_ne_nil
        | cons d t =>
          rw [hd] at h
          exact (List.cons.inj h).1 ▸ List.mem_cons_self
      exact absurd (Py.isAsciiDigit_of_mem_toDigits hm) not_isAsciiDigit_minus
    · rw [hread]
      rfl
  | negSucc n =>
    show (readNat (Nat.toDigits 10 (n + 1) ++ rest)).map (fun p => (Json.int (-p.1), p.2)) = _
    rw [readNat_toDigits (n + 1) hr]
    rfl

/-! ## Values -/

/-- A value's text starts with a character that stands for it. -/
theorem dumps_head (v : Json) : ∃ c t, v.dumps = c :: t ∧ isSpace c = false ∧ c ≠ ']' := by
  cases v with
  | null => exact ⟨_, _, rfl, by decide, by decide⟩
  | bool b => cases b with
    | false => exact ⟨_, _, rfl, by decide, by decide⟩
    | true => exact ⟨_, _, rfl, by decide, by decide⟩
  | int n =>
    cases hn : strInt n with
    | nil => exact absurd hn (Py.strInt_ne_nil n)
    | cons c t =>
      refine ⟨c, t, hn, ?_⟩
      rcases Py.mem_strInt (hn ▸ List.mem_cons_self : c ∈ strInt n) with rfl | hd
      · exact ⟨by decide, by decide⟩
      · refine ⟨?_, ?_⟩
        · by_contra hs
          simp only [isSpace, Bool.not_eq_false, Bool.or_eq_true, beq_iff_eq] at hs
          rcases hs with ((rfl | rfl) | rfl) | rfl
          all_goals exact absurd hd (by decide)
        · rintro rfl
          exact absurd hd (by decide)
  | string s => exact ⟨_, _, rfl, by decide, by decide⟩
  | array items => exact ⟨_, _, rfl, by decide, by decide⟩
  | object members => exact ⟨_, _, rfl, by decide, by decide⟩

theorem readValue_int (n : Int) (fuel : Nat) (hr : Ended rest) :
    readValue (fuel + 1) (strInt n ++ rest) = some (.int n, rest) := by
  obtain ⟨c, t, hc, hspace, -⟩ := dumps_head (.int n)
  have hc : strInt n = c :: t := hc
  have hint := readInt_strInt n hr
  have hkind : c = '-' ∨ IsAsciiDigit c := Py.mem_strInt (hc ▸ List.mem_cons_self)
  have hother : ∀ d, d ≠ '-' → ¬ IsAsciiDigit d → c ≠ d := by
    rintro d hminus hdigit rfl
    exact hkind.elim hminus hdigit
  rw [hc] at hint ⊢
  unfold readValue
  rw [List.cons_append, skipSpace_cons hspace]
  dsimp only
  rw [if_neg (hother '"' (by decide) (by decide)), if_neg (hother '[' (by decide) (by decide)),
    if_neg (hother '\x7b' (by decide) (by decide)), if_pos hkind]
  exact hint

theorem readValue_quote (s : Str) (fuel : Nat) :
    readValue (fuel + 1) (quote s ++ rest) = some (.string s, rest) := by
  have htext : quote s ++ rest = '"' :: (s.flatMap escapeChar ++ '"' :: rest) := by
    unfold quote
    rw [List.cons_append, List.append_assoc]
    rfl
  rw [htext]
  unfold readValue
  rw [skipSpace_cons (by decide)]
  dsimp only
  rw [if_pos rfl, readText_quote]
  rfl

theorem ended_cons (h : ¬ IsAsciiDigit c) : Ended (c :: rest) := by
  intro d hd
  cases hd
  exact h

end

/-! ## Round trip -/

theorem dumpsItems_head (item : Json) (items : List Json) :
    ∃ c t, dumpsItems (item :: items) = c :: t ∧ isSpace c = false ∧ c ≠ ']' := by
  obtain ⟨c, t, hc, hs⟩ := dumps_head item
  cases items with
  | nil => exact ⟨c, t, hc, hs⟩
  | cons next items =>
    have htext : dumpsItems (item :: next :: items) = item.dumps ++ ',' :: dumpsItems (next :: items) := rfl
    rw [htext, hc]
    exact ⟨c, _, rfl, hs⟩

theorem dumpsMembers_head (key : Str) (value : Json) (members : List (Str × Json)) :
    ∃ t, dumpsMembers ((key, value) :: members) = quote key ++ ':' :: t := by
  cases members with
  | nil => exact ⟨_, rfl⟩
  | cons next members => exact ⟨_, rfl⟩

theorem expect_quote (s rest : Str) : expect '"' (quote s ++ rest) = some (s.flatMap escapeChar ++ '"' :: rest) := by
  unfold quote
  rw [List.cons_append, List.append_assoc]
  exact expect_self (by decide)

mutual
/-- **A value is read as it is written**, where no digit follows. -/
theorem readValue_dumps : ∀ (v : Json) (fuel : Nat) (rest : Str), v.dumps.length ≤ fuel → Ended rest →
    readValue fuel (v.dumps ++ rest) = some (v, rest)
  | v, 0, _, h, _ => by
    obtain ⟨c, t, hc, -⟩ := dumps_head v
    rw [hc] at h
    exact absurd h (Nat.not_succ_le_zero _)
  | .null, _ + 1, _, _, _ => rfl
  | .bool true, _ + 1, _, _, _ => rfl
  | .bool false, _ + 1, _, _, _ => rfl
  | .int n, fuel + 1, _, _, hr => readValue_int n fuel hr
  | .string s, fuel + 1, _, _, _ => readValue_quote s fuel
  | .array [], _ + 1, _, _, _ => rfl
  | .array (item :: items), fuel + 1, rest, h, _ => by
    obtain ⟨c, t, hc, hs, hb⟩ := dumpsItems_head item items
    have hlen : (dumpsItems (item :: items)).length < fuel := by
      rw [dumps, List.length_cons, List.length_append, List.length_singleton] at h
      omega
    have hitems := readItems_dumps (item :: items) fuel rest (List.cons_ne_nil _ _) hlen
    have hnone : expect ']' (dumpsItems (item :: items) ++ ']' :: rest) = none := by
      rw [hc]
      exact expect_other hs hb
    have htext : (Json.array (item :: items)).dumps ++ rest = '[' :: (dumpsItems (item :: items) ++ ']' :: rest) := by
      rw [dumps, List.cons_append, List.append_assoc]
      rfl
    rw [htext]
    unfold readValue
    rw [skipSpace_cons (by decide)]
    dsimp only
    rw [if_neg (by decide), if_pos rfl, hnone, hitems]
    rfl
  | .object [], _ + 1, _, _, _ => rfl
  | .object ((key, value) :: members), fuel + 1, rest, h, _ => by
    obtain ⟨t, ht⟩ := dumpsMembers_head key value members
    have hlen : (dumpsMembers ((key, value) :: members)).length < fuel := by
      rw [dumps, List.length_cons, List.length_append, List.length_singleton] at h
      omega
    have hmembers := readMembers_dumps ((key, value) :: members) fuel rest (List.cons_ne_nil _ _) hlen
    have hnone : expect '\x7d' (dumpsMembers ((key, value) :: members) ++ '\x7d' :: rest) = none := by
      rw [ht]
      exact expect_other (by decide) (by decide)
    have htext : (Json.object ((key, value) :: members)).dumps ++ rest =
        '\x7b' :: (dumpsMembers ((key, value) :: members) ++ '\x7d' :: rest) := by
      rw [dumps, List.cons_append, List.append_assoc]
      rfl
    rw [htext]
    unfold readValue
    rw [skipSpace_cons (by decide)]
    dsimp only
    rw [if_neg (by decide), if_neg (by decide), if_pos rfl, hnone, hmembers]
    rfl
theorem readItems_dumps : ∀ (items : List Json) (fuel : Nat) (rest : Str), items ≠ [] →
    (dumpsItems items).length < fuel → readItems fuel (dumpsItems items ++ ']' :: rest) = some (items, rest)
  | _, 0, _, _, h => absurd h (Nat.not_lt_zero _)
  | [], _ + 1, _, h, _ => absurd rfl h
  | [item], fuel + 1, rest, _, h => by
    have hitem := readValue_dumps item fuel (']' :: rest) (Nat.le_of_lt_succ h) (ended_cons (by decide))
    have hmark : expect ',' (']' :: rest) = none := expect_other (by decide) (by decide)
    have hclose : expect ']' (']' :: rest) = some rest := expect_self (by decide)
    unfold readItems
    rw [dumpsItems, hitem, Option.bind_eq_bind, Option.bind_some]
    dsimp only
    rw [hmark, hclose]
    rfl
  | item :: next :: items, fuel + 1, rest, _, h => by
    have htext : dumpsItems (item :: next :: items) = item.dumps ++ ',' :: dumpsItems (next :: items) := rfl
    rw [htext, List.length_append, List.length_cons] at h
    have hitem := readValue_dumps item fuel (',' :: (dumpsItems (next :: items) ++ ']' :: rest)) (by omega)
      (ended_cons (by decide))
    have hitems := readItems_dumps (next :: items) fuel rest (List.cons_ne_nil _ _) (by omega)
    have hmark : expect ',' (',' :: (dumpsItems (next :: items) ++ ']' :: rest)) = some _ := expect_self (by decide)
    unfold readItems
    rw [htext, List.append_assoc, List.cons_append, hitem, Option.bind_eq_bind, Option.bind_some]
    dsimp only
    rw [hmark]
    dsimp only
    rw [hitems]
    rfl
theorem readMembers_dumps : ∀ (members : List (Str × Json)) (fuel : Nat) (rest : Str), members ≠ [] →
    (dumpsMembers members).length < fuel →
    readMembers fuel (dumpsMembers members ++ '\x7d' :: rest) = some (members, rest)
  | _, 0, _, _, h => absurd h (Nat.not_lt_zero _)
  | [], _ + 1, _, h, _ => absurd rfl h
  | [(key, value)], fuel + 1, rest, _, h => by
    have htext : dumpsMembers [(key, value)] = quote key ++ ':' :: value.dumps := rfl
    rw [htext, List.length_append, List.length_cons] at h
    have hvalue := readValue_dumps value fuel ('\x7d' :: rest) (by omega) (ended_cons (by decide))
    have hcolon : expect ':' (':' :: (value.dumps ++ '\x7d' :: rest)) = some _ := expect_self (by decide)
    have hmark : expect ',' ('\x7d' :: rest) = none := expect_other (by decide) (by decide)
    have hclose : expect '\x7d' ('\x7d' :: rest) = some rest := expect_self (by decide)
    unfold readMembers
    simp only [htext, List.append_assoc, List.cons_append, expect_quote, readText_quote, Option.bind_eq_bind,
      Option.bind_some, hcolon, hvalue, hmark, hclose]
    rfl
  | (key, value) :: next :: members, fuel + 1, rest, _, h => by
    have htext : dumpsMembers ((key, value) :: next :: members) =
        quote key ++ ':' :: (value.dumps ++ ',' :: dumpsMembers (next :: members)) := rfl
    rw [htext, List.length_append, List.length_cons, List.length_append, List.length_cons] at h
    have hvalue := readValue_dumps value fuel (',' :: (dumpsMembers (next :: members) ++ '\x7d' :: rest)) (by omega)
      (ended_cons (by decide))
    have hmembers := readMembers_dumps (next :: members) fuel rest (List.cons_ne_nil _ _) (by omega)
    have hcolon : expect ':' (':' :: (value.dumps ++ ',' :: (dumpsMembers (next :: members) ++ '\x7d' :: rest))) =
        some _ := expect_self (by decide)
    have hmark : expect ',' (',' :: (dumpsMembers (next :: members) ++ '\x7d' :: rest)) = some _ :=
      expect_self (by decide)
    unfold readMembers
    simp only [htext, List.append_assoc, List.cons_append, expect_quote, readText_quote, Option.bind_eq_bind,
      Option.bind_some, hcolon, hvalue, hmark, hmembers]
    rfl
end

/-- **What is written is read back**, with white space after it. -/
theorem parse_dumps (v : Json) {space : Str} (h : ∀ c ∈ space, isSpace c = true) : parse (v.dumps ++ space) = some v := by
  have hended : Ended space := by
    intro c hc hd
    have hs := h c (List.mem_of_mem_head? hc)
    simp only [isSpace, Bool.or_eq_true, beq_iff_eq] at hs
    rcases hs with ((rfl | rfl) | rfl) | rfl
    all_goals exact absurd hd (by decide)
  have hread := readValue_dumps v ((v.dumps ++ space).length + 1) space
    (by rw [List.length_append]; omega) hended
  have hskip : skipSpace space = [] := List.dropWhile_eq_nil_iff.2 h
  unfold parse
  rw [hread]
  dsimp only
  rw [if_pos hskip]

end Json
end Tt
