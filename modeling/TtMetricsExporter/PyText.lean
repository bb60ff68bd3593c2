import Mathlib
/-!
# PyText — Python's `str` as a list of code points

The string operations the exporter and the publisher use, each under its Python name: `strip`, `splitlines`,
`split`, one-cut `split(sep, 1)`, `lower` on ASCII, `str.encode` sizes, and strict UTF-8 decoding.  A text is a list of
Unicode scalar values, so a lone surrogate is outside the model.
-/
namespace Py

/-- Python's `str`: its code points in order.  Strings compare as these lists do. -/
abbrev Str := List Char

instance instLawfulBEqStr : LawfulBEq Str := inferInstance

/-- The code points of `str.isspace`. -/
def isSpaceCode (n : Nat) : Bool :=
  (9 ≤ n && n ≤ 13) || (28 ≤ n && n ≤ 32) || n == 0x85 || n == 0xA0 || n == 0x1680 || (0x2000 ≤ n && n ≤ 0x200A) ||
    n == 0x2028 || n == 0x2029 || n == 0x202F || n == 0x205F || n == 0x3000

def isSpace (c : Char) : Bool := isSpaceCode c.toNat

/-- The whitespace of `" \t\n\r\v\f"`. -/
def isAsciiSpace (c : Char) : Bool := (9 ≤ c.toNat && c.toNat ≤ 13) || c.toNat == 32

/-- `str.strip(chars)`: drop from both ends. -/
def stripBy (p : Char → Bool) (s : Str) : Str := (s.dropWhile p).rdropWhile p

/-- `str.strip()`. -/
def strip (s : Str) : Str := stripBy isSpace s

/-- `str.strip(" \t\n\r\v\f")`. -/
def stripAscii (s : Str) : Str := stripBy isAsciiSpace s

/-- The line boundaries of `str.splitlines`; `"\r\n"` counts as one. -/
def isLineBreak (c : Char) : Bool :=
  let n := c.toNat
  (10 ≤ n && n ≤ 13) || (28 ≤ n && n ≤ 30) || n == 0x85 || n == 0x2028 || n == 0x2029

/-- `str.splitlines()`: no line after a final boundary. -/
def splitlines : Str → List Str
  | [] => []
  | '\r' :: '\n' :: rest => [] :: splitlines rest
  | c :: rest =>
    if isLineBreak c then [] :: splitlines rest
    else match splitlines rest with
      | [] => [[c]]
      | line :: lines => (c :: line) :: lines

/-- `str.split()`: the maximal runs of non-space code points. -/
def words : Str → List Str
  | [] => []
  | c :: rest =>
    if isSpace c then words rest
    else match rest with
      | [] => [[c]]
      | d :: _ =>
        if isSpace d then [c] :: words rest
        else match words rest with
          | [] => [[c]]
          | w :: ws => (c :: w) :: ws

/-- `s.split(sep)` on one separator code point. -/
def splitOn (sep : Char) : Str → List Str
  | [] => [[]]
  | c :: rest =>
    if c = sep then [] :: splitOn sep rest
    else match splitOn sep rest with
      | [] => [[c]]
      | part :: parts => (c :: part) :: parts

/-- `sep.join(parts)`. -/
def join (sep : Str) : List Str → Str
  | [] => []
  | [s] => s
  | s :: rest => s ++ sep ++ join sep rest

/-- `s.split(sep, 1)` where `sep` occurs: what stands before its first occurrence, and after it. -/
def splitOnce (sep : Char) (s : Str) : Str × Str :=
  (s.takeWhile (· ≠ sep), (s.dropWhile (· ≠ sep)).tail)

/-- `Path(s).name`: the last component that is neither empty nor `.`. -/
def pathName (s : Str) : Str := ((splitOn '/' s).filter (fun part => part ≠ [] ∧ part ≠ ['.'])).getLast?.getD []

/-- `str.isascii` of one code point. -/
def isAscii (c : Char) : Bool := c.toNat < 128

/-- `str.lower` of one ASCII code point; every other code point stays. -/
def lowerChar (c : Char) : Char := if 'A' ≤ c ∧ c ≤ 'Z' then Char.ofNat (c.toNat + 32) else c

/-- `str.lower` on ASCII letters.  Enough wherever the result is compared with words that have no `k` in them: only
U+212A (Kelvin sign) lowers to an ASCII letter by itself. -/
def lowerAscii (s : Str) : Str := s.map lowerChar

/-- `needle in s`. -/
def contains (needle : Str) : Str → Bool
  | [] => needle.isEmpty
  | c :: rest => needle.isPrefixOf (c :: rest) || contains needle rest

/-- `s.replace(old, new)` for a single code point. -/
def replaceChar (old : Char) (new : Str) (s : Str) : Str := s.flatMap (fun c => if c = old then new else [c])

/-- `s.endswith(ending)`. -/
def endsWith (ending s : Str) : Bool := ending.isSuffixOf s

/-- `len(s.encode())`. -/
def utf8Size (s : Str) : Nat := (s.map Char.utf8Size).sum

/-- `s.encode("utf-8")`. -/
def encodeUtf8 (s : Str) : ByteArray := (String.ofList s).toByteArray

/-- `content.decode("utf-8")`, `none` for `UnicodeDecodeError`. -/
def decodeUtf8 (content : ByteArray) : Option Str := (String.fromUTF8? content).map String.toList

@[simp] theorem replaceChar_nil (old : Char) (new : Str) : replaceChar old new [] = [] := rfl

theorem replaceChar_append (old : Char) (new s t : Str) :
    replaceChar old new (s ++ t) = replaceChar old new s ++ replaceChar old new t := List.flatMap_append

theorem splitOn_append_sep (sep : Char) : ∀ (s t : Str), sep ∉ s → splitOn sep (s ++ sep :: t) = s :: splitOn sep t
  | [], t, _ => by rw [List.nil_append, splitOn, if_pos rfl]
  | c :: s, t, h => by
    have hc : c ≠ sep := fun he => h (by simp [he])
    have hs : sep ∉ s := fun hm => h (by simp [hm])
    rw [List.cons_append, splitOn, if_neg hc, splitOn_append_sep sep s t hs]

/-- **Lines ended by a separator they do not contain are read back.** -/
theorem splitOn_join_ended (sep : Char) : ∀ (lines : List Str), lines ≠ [] → (∀ l ∈ lines, sep ∉ l) →
    splitOn sep (join [sep] lines ++ [sep]) = lines ++ [[]]
  | [], h, _ => absurd rfl h
  | [l], _, h => by
    rw [join, splitOn_append_sep sep l [] (h l (by simp))]
    rfl
  | l :: m :: rest, _, h => by
    rw [join, List.append_assoc, List.append_assoc, List.singleton_append,
      splitOn_append_sep sep l _ (h l (by simp)),
      splitOn_join_ended sep (m :: rest) (by simp) (fun x hx => h x (by simp [List.mem_cons.1 hx]))]
    · rfl
    · simp

theorem stripBy_of_none {p : Char → Bool} {s : Str} (h : ∀ c ∈ s, p c = false) : stripBy p s = s := by
  have h₁ : s.dropWhile p = s := by
    rw [List.dropWhile_eq_self_iff]
    intro hs
    simpa using h _ (List.getElem_mem hs)
  rw [stripBy, h₁, List.rdropWhile_eq_self_iff]
  intro hs
  simpa using h _ (List.getLast_mem hs)

/-! ## Lines -/

theorem splitlines_cons {c : Char} {rest : Str} (h : c ≠ '\r' ∨ rest.head? ≠ some '\n') : splitlines (c :: rest) =
    if isLineBreak c then [] :: splitlines rest
    else match splitlines rest with
      | [] => [[c]]
      | line :: lines => (c :: line) :: lines := by
  rw [splitlines]
  rintro rest' rfl rfl
  rcases h with h | h
  · exact h rfl
  · exact h rfl

theorem splitlines_ne_nil : ∀ {s : Str}, s ≠ [] → splitlines s ≠ []
  | [], h => absurd rfl h
  | c :: rest, _ => by
    by_cases hcr : c = '\r' ∧ rest.head? = some '\n'
    · obtain ⟨rfl, hr⟩ := hcr
      obtain ⟨rest', rfl⟩ : ∃ rest', rest = '\n' :: rest' := by
        cases rest with
        | nil => cases hr
        | cons d rest' => exact ⟨rest', by rw [Option.some.inj hr]⟩
      rw [splitlines]
      exact List.cons_ne_nil _ _
    · rw [splitlines_cons (not_and_or.1 hcr)]
      split
      · exact List.cons_ne_nil _ _
      · split <;> exact List.cons_ne_nil _ _

/-- **A newline ends a line, whatever follows it.** -/
theorem splitlines_append_newline (a b : Str) : splitlines (a ++ '\n' :: b) = splitlines (a ++ ['\n']) ++ splitlines b := by
  fun_induction splitlines a with
  | case1 => rfl
  | case2 rest ih =>
    show [] :: splitlines (rest ++ '\n' :: b) = [] :: splitlines (rest ++ ['\n']) ++ splitlines b
    rw [ih, List.cons_append]
  | case3 c rest hcr hc ih =>
    by_cases hend : c = '\r' ∧ rest = []
    · obtain ⟨rfl, rfl⟩ := hend
      rfl
    · have hhead : ∀ t, c ≠ '\r' ∨ (rest ++ '\n' :: t).head? ≠ some '\n' := by
        intro t
        by_cases hc : c = '\r'
        · cases rest with
          | nil => exact absurd ⟨hc, rfl⟩ hend
          | cons d rest' =>
            refine .inr (fun hd => ?_)
            obtain rfl := Option.some.inj hd
            exact hcr rest' hc rfl
        · exact .inl hc
      rw [List.cons_append, List.cons_append, splitlines_cons (hhead b), splitlines_cons (hhead []), if_pos hc, if_pos hc,
        ih, List.cons_append]
  | case4 c rest hcr hc hnil ih | case5 c rest hcr hc line lines hl ih =>
    have hne : c ≠ '\r' := fun he => hc (by rw [he]; rfl)
    rw [List.cons_append, List.cons_append, splitlines_cons (.inl hne), splitlines_cons (.inl hne), if_neg hc, if_neg hc,
      ih]
    cases he : splitlines (rest ++ ['\n']) with
    | nil => exact absurd he (splitlines_ne_nil (by simp))
    | cons line lines => rfl

/-- What comes before a line without a boundary belongs to that line. -/
theorem splitlines_append {rest line : Str} {lines : List Str} (h : splitlines rest = line :: lines) : ∀ {before : Str},
    (∀ c ∈ before, isLineBreak c = false) → splitlines (before ++ rest) = (before ++ line) :: lines
  | [], _ => h
  | c :: before, hb => by
    rw [List.forall_mem_cons] at hb
    have hne : c ≠ '\r' := fun he => by rw [he] at hb; exact absurd hb.1 (by decide)
    rw [List.cons_append, splitlines_cons (.inl hne), hb.1, splitlines_append h hb.2]
    rfl

theorem mem_of_mem_stripBy {p : Char → Bool} {s : Str} {c : Char} (h : c ∈ stripBy p s) : c ∈ s :=
  (List.dropWhile_sublist p).subset ((List.rdropWhile_prefix p _).subset h)

theorem head_dropWhile {p : Char → Bool} {s : Str} {c : Char} (h : (s.dropWhile p).head? = some c) : p c = false := by
  have hn := List.head?_dropWhile_not p s
  rw [h] at hn
  exact hn

/-- What is left of a text starts and ends with what is not dropped. -/
theorem head_stripBy {p : Char → Bool} {s : Str} {c : Char} (h : (stripBy p s).head? = some c) : p c = false := by
  obtain ⟨rest, hr⟩ := List.rdropWhile_prefix p (s.dropWhile p)
  have hs : (s.dropWhile p).head? = some c := by
    rw [← hr]
    show (stripBy p s ++ rest).head? = some c
    rw [List.head?_append, h]
    rfl
  exact head_dropWhile hs

theorem getLast_stripBy {p : Char → Bool} {s : Str} {c : Char} (h : (stripBy p s).getLast? = some c) : p c = false := by
  unfold stripBy List.rdropWhile at h
  rw [List.getLast?_reverse] at h
  exact head_dropWhile h

theorem stripBy_of_ends {p : Char → Bool} {s : Str} (hh : ∀ c, s.head? = some c → p c = false)
    (hl : ∀ c, s.getLast? = some c → p c = false) : stripBy p s = s := by
  have h₁ : s.dropWhile p = s := by
    rw [List.dropWhile_eq_self_iff]
    intro hs
    simpa using hh _ (List.head?_eq_getElem? ▸ List.getElem?_eq_getElem hs)
  rw [stripBy, h₁, List.rdropWhile_eq_self_iff]
  intro hs
  simpa using hl _ (List.getLast?_eq_some_getLast hs)

theorem decodeUtf8_encodeUtf8 (s : Str) : decodeUtf8 (encodeUtf8 s) = some s := by
  unfold decodeUtf8 encodeUtf8 String.fromUTF8?
  rw [dif_pos (String.ofList s).isValidUTF8]
  show some (String.ofList s).toList = some s
  rw [String.toList_ofList]

end Py
