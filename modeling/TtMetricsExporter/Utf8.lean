import TtMetricsExporter.PyText
/-!
# Utf8 — cutting the bytes of a text

`s.encode()[:n].decode(errors="ignore")`.  The cut leaves whole characters and at most one that is not: its first byte
announces more than there are, and the bytes after that one begin no character.  So what is decoded is the longest
prefix that fits (`decodeIgnore_take`).
-/
namespace Py

open String (utf8EncodeChar)

/-! ## Decoding -/

/-- Past some bytes of a character that is read already, what is decoded of the rest; a byte that begins no character is
ignored. -/
def decodeSkipping : Nat → List UInt8 → Str
  | _, [] => []
  | skip + 1, _ :: rest => decodeSkipping skip rest
  | 0, b :: rest =>
    match (b :: rest).toByteArray.utf8DecodeChar? 0 with
    | some c => c :: decodeSkipping (c.utf8Size - 1) rest
    | none => decodeSkipping 0 rest

/-- `bytes.decode(errors="ignore")` -/
def decodeIgnore (bytes : List UInt8) : Str := decodeSkipping 0 bytes

/-- The longest of a text's prefixes that have at most so many bytes. -/
structure LongestPrefix (maximum : Nat) (s p : Str) : Prop where
  isPrefix : p <+: s
  fits : (encodeUtf8 p).size ≤ maximum
  longest : ∀ q, q <+: s → (encodeUtf8 q).size ≤ maximum → q.length ≤ p.length

/-! ## Bytes -/

theorem encodeUtf8_nil : (encodeUtf8 []).data.toList = [] := rfl

theorem encodeUtf8_cons (c : Char) (s : Str) :
    (encodeUtf8 (c :: s)).data.toList = utf8EncodeChar c ++ (encodeUtf8 s).data.toList := by
  unfold encodeUtf8
  rw [String.toByteArray_ofList, String.toByteArray_ofList, List.utf8Encode_cons, List.utf8Encode_singleton]
  simp

theorem size_encodeUtf8_cons (c : Char) (s : Str) : (encodeUtf8 (c :: s)).size = c.utf8Size + (encodeUtf8 s).size := by
  have h := congrArg List.length (encodeUtf8_cons c s)
  rw [List.length_append, String.length_utf8EncodeChar] at h
  exact h

/-- A byte within a character, after its first one. -/
def IsContinuation (b : UInt8) : Prop := 0x80 ≤ b.toNat ∧ b.toNat < 0xC0

theorem utf8EncodeChar_shape (c : Char) : ∃ b rest, utf8EncodeChar c = b :: rest ∧ ¬ IsContinuation b ∧
    ∀ b' ∈ rest, IsContinuation b' := by
  have hvalid : c.val.toNat < 0x110000 := by
    have h := c.valid
    simp only [UInt32.isValidChar, Nat.isValidChar] at h
    omega
  unfold utf8EncodeChar IsContinuation
  dsimp only
  split_ifs
  all_goals
    refine ⟨_, _, rfl, ?_, ?_⟩
    · rw [UInt8.toNat_ofNat']
      omega
    · simp only [List.mem_cons, List.not_mem_nil, or_false, forall_eq_or_imp, forall_eq, UInt8.toNat_ofNat',
        IsEmpty.forall_iff, implies_true]
      try omega

theorem eq_append_of_decode {bytes : List UInt8} {c : Char} (h : bytes.toByteArray.utf8DecodeChar? 0 = some c) :
    ∃ rest, bytes = utf8EncodeChar c ++ rest := by
  obtain ⟨l, hl⟩ := ByteArray.exists_of_utf8DecodeChar?_eq_some h
  have hlist := congrArg (fun b => b.data.toList) hl
  exact ⟨l.data.toList, by simpa using hlist⟩

/-! ## What is decoded of a cut -/

theorem decodeSkipping_append : ∀ (read rest : List UInt8),
    decodeSkipping read.length (read ++ rest) = decodeSkipping 0 rest
  | [], _ => rfl
  | _ :: read, rest => decodeSkipping_append read rest

/-- A whole character is read. -/
theorem decodeIgnore_encodeChar (c : Char) (rest : List UInt8) :
    decodeIgnore (utf8EncodeChar c ++ rest) = c :: decodeIgnore rest := by
  obtain ⟨b, tail, hc, -⟩ := utf8EncodeChar_shape c
  have hlength : c.utf8Size - 1 = tail.length := by
    rw [← String.length_utf8EncodeChar, hc]
    rfl
  have hread : (b :: (tail ++ rest)).toByteArray.utf8DecodeChar? 0 = some c := by
    rw [← List.cons_append, ← hc, List.toByteArray_append]
    exact ByteArray.utf8DecodeChar?_utf8EncodeChar_append
  rw [hc, List.cons_append]
  unfold decodeIgnore
  rw [decodeSkipping, hread]
  dsimp only
  rw [hlength, decodeSkipping_append]

/-- No character begins within another one. -/
theorem decodeIgnore_continuations : ∀ {bytes : List UInt8}, (∀ b ∈ bytes, IsContinuation b) → decodeIgnore bytes = []
  | [], _ => rfl
  | b :: rest, h => by
    rw [List.forall_mem_cons] at h
    have hnone : (b :: rest).toByteArray.utf8DecodeChar? 0 = none := by
      rw [Option.eq_none_iff_forall_not_mem]
      intro c hc
      obtain ⟨l, hl⟩ := eq_append_of_decode hc
      obtain ⟨b', tail, hb, hfirst, -⟩ := utf8EncodeChar_shape c
      rw [hb, List.cons_append, List.cons.injEq] at hl
      exact hfirst (hl.1 ▸ h.1)
    unfold decodeIgnore
    rw [decodeSkipping, hnone]
    exact decodeIgnore_continuations h.2

/-- Nothing is read of a character that is cut. -/
theorem decodeIgnore_take_encodeChar {c : Char} {n : Nat} (h : n < c.utf8Size) :
    decodeIgnore ((utf8EncodeChar c).take n) = [] := by
  obtain ⟨b, tail, hc, -, htail⟩ := utf8EncodeChar_shape c
  cases n with
  | zero => rfl
  | succ n =>
    have hnone : ((utf8EncodeChar c).take (n + 1)).toByteArray.utf8DecodeChar? 0 = none := by
      rw [Option.eq_none_iff_forall_not_mem]
      intro d hd
      -- the bytes that were cut do not change what is read
      have hwhole := ByteArray.utf8DecodeChar?_append_eq_some hd ((utf8EncodeChar c).drop (n + 1)).toByteArray
      rw [← List.toByteArray_append, List.take_append_drop] at hwhole
      have hc' := ByteArray.utf8DecodeChar?_utf8EncodeChar_append (b := ByteArray.empty) (c := c)
      rw [ByteArray.append_empty, hwhole, Option.some.injEq] at hc'
      have hsize := ByteArray.le_size_of_utf8DecodeChar?_eq_some hd
      rw [hc', List.size_toByteArray, List.length_take] at hsize
      omega
    rw [hc, List.take_succ_cons] at hnone ⊢
    unfold decodeIgnore
    rw [decodeSkipping, hnone]
    exact decodeIgnore_continuations (fun b' hb' => htail b' (List.mem_of_mem_take hb'))

/-- **What is decoded of a cut is the longest prefix that fits into it.** -/
theorem decodeIgnore_take : ∀ (s : Str) (maximum : Nat),
    LongestPrefix maximum s (decodeIgnore ((encodeUtf8 s).data.toList.take maximum))
  | [], maximum => by
    rw [encodeUtf8_nil, List.take_nil]
    exact ⟨List.prefix_rfl, Nat.zero_le _, fun q hq _ => hq.length_le⟩
  | c :: rest, maximum => by
    rw [encodeUtf8_cons, List.take_append, String.length_utf8EncodeChar]
    by_cases hfits : c.utf8Size ≤ maximum
    · obtain ⟨htake, hsize, hlongest⟩ := decodeIgnore_take rest (maximum - c.utf8Size)
      rw [List.take_of_length_le (by rw [String.length_utf8EncodeChar]; exact hfits), decodeIgnore_encodeChar]
      refine ⟨List.cons_prefix_cons.2 ⟨rfl, htake⟩, ?_, fun q hq hs => ?_⟩
      · rw [size_encodeUtf8_cons]
        omega
      · cases q with
        | nil => exact Nat.zero_le _
        | cons d q =>
          obtain ⟨rfl, htail⟩ := List.cons_prefix_cons.1 hq
          rw [size_encodeUtf8_cons] at hs
          exact Nat.succ_le_succ (hlongest q htail (by omega))
    · have hcut : maximum - c.utf8Size = 0 := by omega
      rw [hcut, List.take_zero, List.append_nil, decodeIgnore_take_encodeChar (Nat.not_le.1 hfits)]
      refine ⟨List.nil_prefix, Nat.zero_le _, fun q hq hs => ?_⟩
      cases q with
      | nil => exact Nat.zero_le _
      | cons d q =>
        obtain ⟨rfl, -⟩ := List.cons_prefix_cons.1 hq
        rw [size_encodeUtf8_cons] at hs
        omega

end Py
