import TtMetricsExporter.Publisher
import TtMetricsExporter.State
/-!
# FileNames — the publisher's file names as the exporter sees them

What `_safe_component` yields is made of component characters, starts and ends with neither a dash nor a dot and is not
empty, so it is a valid component and `_safe_component` leaves it as it is.  The exporter takes a file by its name:
`snapshot.state`, or what is longer than `.state` and ends in it.
-/
namespace Tt

open Py (Str strInt)

/-! ## Names that need no cleaning -/

/-- A name that `_safe_component` has nothing to do on. -/
structure CleanName (name : Str) : Prop where
  ne_nil : name ≠ []
  chars : ∀ c ∈ name, isComponentChar c = true
  head : ∀ c, name.head? = some c → isDashOrDot c = false
  last : ∀ c, name.getLast? = some c → isDashOrDot c = false

theorem mem_replaceRuns {c : Char} : ∀ {s : Str} {replaced : Bool}, c ∈ replaceRuns replaced s → isComponentChar c = true
  | [], _, h => absurd h List.not_mem_nil
  | d :: rest, replaced, h => by
    rw [replaceRuns] at h
    by_cases hd : isComponentChar d = true
    · rw [if_pos hd] at h
      rcases List.mem_cons.1 h with rfl | h
      · exact hd
      · exact mem_replaceRuns h
    · rw [if_neg hd] at h
      cases replaced with
      | true => exact mem_replaceRuns h
      | false =>
        rcases List.mem_cons.1 h with rfl | h
        · decide
        · exact mem_replaceRuns h

theorem replaceRuns_of_chars : ∀ {s : Str} (replaced : Bool), (∀ c ∈ s, isComponentChar c = true) →
    replaceRuns replaced s = s
  | [], _, _ => rfl
  | c :: rest, replaced, h => by
    rw [List.forall_mem_cons] at h
    rw [replaceRuns, if_pos h.1, replaceRuns_of_chars false h.2]

theorem workload_clean : CleanName "workload".toList where
  ne_nil := by decide
  chars := List.all_eq_true.1 (show "workload".toList.all isComponentChar = true by decide)
  head := by
    rintro c ⟨⟩
    rfl
  last := by
    rintro c ⟨⟩
    rfl

theorem cleanedName_clean (value : Str) : CleanName (cleanedName value) := by
  unfold cleanedName
  dsimp only
  by_cases h : Py.stripBy isDashOrDot (replaceRuns false value) = []
  · rw [if_pos h]
    exact workload_clean
  · rw [if_neg h]
    refine ⟨h, fun c hc => mem_replaceRuns (Py.mem_of_mem_stripBy hc), fun c hc => ?_, fun c hc => ?_⟩
    · exact Py.head_stripBy hc
    · exact Py.getLast_stripBy hc

theorem cleanedName_of_clean {name : Str} (h : CleanName name) : cleanedName name = name := by
  unfold cleanedName
  dsimp only
  rw [replaceRuns_of_chars false h.chars, Py.stripBy_of_ends h.head h.last, if_neg h.ne_nil]

theorem isComponentChar_digit : ∀ n < 16, isComponentChar (Nat.digitChar n) = true ∧
    isDashOrDot (Nat.digitChar n) = false := by decide

theorem digestedName_clean (value : Str) : CleanName (digestedName value) := by
  have hc := cleanedName_clean value
  unfold digestedName
  dsimp only
  by_cases he : cleanedName value = value
  · rw [if_neg (not_not.2 he)]
    exact hc
  · rw [if_pos he]
    generalize hd : (Sha256.hexDigest (Py.encodeUtf8 value).toList).take 8 = digest
    have hlen : digest.length = 8 := by
      rw [← hd, List.length_take, Sha256.length_hexDigest]
      rfl
    have hdigit : ∀ c ∈ digest, isComponentChar c = true ∧ isDashOrDot c = false := by
      intro c hm
      rw [← hd] at hm
      obtain ⟨n, hn, rfl⟩ := Sha256.mem_hexDigest (List.mem_of_mem_take hm)
      exact isComponentChar_digit n hn
    have hne : digest ≠ [] := fun h0 => by rw [h0] at hlen; cases hlen
    refine ⟨by simp, fun c hm => ?_, fun c hh => ?_, fun c hl => ?_⟩
    · rcases List.mem_append.1 hm with hm | hm
      · exact hc.chars c hm
      · rcases List.mem_cons.1 hm with rfl | hm
        · decide
        · exact (hdigit c hm).1
    · rw [List.head?_append_of_ne_nil _ hc.ne_nil] at hh
      exact hc.head c hh
    · rw [List.getLast?_append_cons, List.getLast?_cons_of_ne_nil hne] at hl
      exact (hdigit c (List.mem_of_getLast? hl)).2

/-- **What is not cut is left as it is.** -/
theorem safeComponent_idempotent {value : Str} (h : (safeComponent value).length < 160) :
    safeComponent (safeComponent value) = safeComponent value := by
  have hlen : (digestedName value).length < 160 := by
    unfold safeComponent at h
    rw [List.length_take] at h
    omega
  have he : safeComponent value = digestedName value := List.take_of_length_le (by omega)
  have hc := digestedName_clean value
  rw [he]
  show (digestedName (digestedName value)).take 160 = _
  rw [digestedName, cleanedName_of_clean hc, if_neg (not_not.2 rfl), List.take_of_length_le (by omega)]

/-! ## The exporter's side -/

theorem isComponentChar_spec {c : Char} (h : isComponentChar c = true) :
    0x21 ≤ c.toNat ∧ c.toNat ≤ 0x7E ∧ c ≠ '/' := by
  have hrange : ∀ {a b : Char}, a ≤ c → c ≤ b → a.toNat ≤ c.toNat ∧ c.toNat ≤ b.toNat :=
    fun h₁ h₂ => ⟨UInt32.le_iff_toNat_le.1 (Char.le_def.1 h₁), UInt32.le_iff_toNat_le.1 (Char.le_def.1 h₂)⟩
  have hslash : c = '/' → c.toNat = 47 := fun he => by rw [he]; rfl
  simp only [isComponentChar, Bool.or_eq_true, Bool.and_eq_true, decide_eq_true_eq, beq_iff_eq] at h
  rcases h with ((((⟨h₁, h₂⟩ | ⟨h₁, h₂⟩) | ⟨h₁, h₂⟩) | rfl) | rfl) | rfl
  · have hr : 65 ≤ c.toNat ∧ c.toNat ≤ 90 := hrange h₁ h₂
    exact ⟨by omega, by omega, fun he => by have := hslash he; omega⟩
  · have hr : 97 ≤ c.toNat ∧ c.toNat ≤ 122 := hrange h₁ h₂
    exact ⟨by omega, by omega, fun he => by have := hslash he; omega⟩
  · have hr : 48 ≤ c.toNat ∧ c.toNat ≤ 57 := hrange h₁ h₂
    exact ⟨by omega, by omega, fun he => by have := hslash he; omega⟩
  · decide
  · decide
  · decide

theorem validComponent_of_chars {name : Str} {maximum : Nat} (hne : name ≠ [])
    (hchars : ∀ c ∈ name, isComponentChar c = true) (hlen : name.length ≤ maximum)
    (hdots : name ≠ ['.'] ∧ name ≠ ['.', '.']) : validComponent name maximum = true := by
  have hascii : name.all Py.isAscii = true := by
    rw [List.all_eq_true]
    intro c hc
    have hr := isComponentChar_spec (hchars c hc)
    exact decide_eq_true (by omega)
  have hslash : '/' ∉ name := fun hm => (isComponentChar_spec (hchars _ hm)).2.2 rfl
  have hnul : '\x00' ∉ name := fun hm => absurd (isComponentChar_spec (hchars _ hm)).1 (by decide)
  have hprint : name.all (fun c => decide (0x21 ≤ c.toNat) && decide (c.toNat ≤ 0x7E)) = true := by
    rw [List.all_eq_true]
    intro c hc
    have hr := isComponentChar_spec (hchars c hc)
    simp [hr.1, hr.2.1]
  have hdot : name ∉ [".".toList, "..".toList] := by
    rintro hm
    rcases List.mem_cons.1 hm with he | hm
    · exact hdots.1 he
    · exact hdots.2 (List.mem_singleton.1 hm)
  unfold validComponent
  rw [hascii, hprint, decide_eq_true hne, decide_eq_true hlen, decide_eq_true hdot, decide_eq_true hslash,
    decide_eq_true hnul]
  rfl

/-- The names that the exporter reads for a layout. -/
def Selected (layoutVersion : Nat) (name : Str) : Prop :=
  if layoutVersion = 2 then name = "snapshot.state".toList
  else 6 < name.length ∧ Py.endsWith ".state".toList name = true

theorem endsWith_append (ending s : Str) : Py.endsWith ending (s ++ ending) = true := by
  unfold Py.endsWith
  rw [List.isSuffixOf_iff_suffix]
  exact List.suffix_append s ending

section Names
variable (self : MetaliumProfilerPublisher)

theorem targetName_spec : validComponent self.targetName 255 = true ∧
    (∀ c, self.targetName.head? = some c → isDashOrDot c = false) ∧ Selected self.layoutVersion self.targetName := by
  unfold MetaliumProfilerPublisher.targetName Selected
  by_cases hl : self.layoutVersion = 2
  · rw [if_pos hl, if_pos hl]
    refine ⟨by decide, ?_, rfl⟩
    rintro c ⟨⟩
    rfl
  · have hc := digestedName_clean self.workloadId
    obtain ⟨c, rest, hd⟩ := List.exists_cons_of_ne_nil hc.ne_nil
    have hname : safeComponent self.workloadId = c :: rest.take 159 := by
      unfold safeComponent
      rw [hd]
      rfl
    have hlen : (rest.take 159).length ≤ 159 := List.length_take_le _ _
    have hmark : ∀ d ∈ c :: rest.take 159, isComponentChar d = true := by
      intro d hm
      refine hc.chars d (hd ▸ ?_)
      rcases List.mem_cons.1 hm with rfl | hm
      · exact List.mem_cons_self
      · exact List.mem_cons_of_mem _ (List.mem_of_mem_take hm)
    have hstate : ∀ d ∈ ".state".toList, isComponentChar d = true :=
      List.all_eq_true.1 (show ".state".toList.all isComponentChar = true by decide)
    rw [if_neg hl, if_neg hl, hname]
    refine ⟨validComponent_of_chars (by simp) (fun d hm => ?_) ?_ ⟨?_, ?_⟩, ?_, ?_, endsWith_append _ _⟩
    · rcases List.mem_append.1 hm with hm | hm
      · exact hmark d hm
      · exact hstate d hm
    · rw [List.length_append, List.length_cons]
      show _ + 6 ≤ 255
      omega
    · intro he
      have := congrArg List.length he
      rw [List.length_append] at this
      change _ + 6 = 1 at this
      omega
    · intro he
      have := congrArg List.length he
      rw [List.length_append] at this
      change _ + 6 = 2 at this
      omega
    · rintro d ⟨⟩
      exact hc.head c (by rw [hd]; rfl)
    · rw [List.length_append, List.length_cons]
      show 6 < _ + 6
      omega

/-- A temporary name ends in `.tmp`. -/
theorem temporaryName_not_selected (layoutVersion pid threadIdent : Nat) :
    ¬ Selected layoutVersion (self.temporaryName pid threadIdent) := by
  unfold Selected MetaliumProfilerPublisher.temporaryName
  by_cases hl : layoutVersion = 2
  · rw [if_pos hl]
    intro he
    cases he
  · rw [if_neg hl]
    rintro ⟨-, he⟩
    unfold Py.endsWith at he
    rw [List.isSuffixOf_iff_suffix] at he
    have htmp : ".tmp".toList <:+ '.' :: self.targetName ++ '.' :: strInt pid ++ '.' :: strInt threadIdent ++
        ".tmp".toList := List.suffix_append _ _
    have hshort := List.suffix_of_suffix_length_le htmp he (by decide)
    exact absurd hshort (by decide)

/-- **The publisher's names**: the target is one component, which the exporter selects and which hides nothing; the
temporary file is never selected; and cleaning a name again changes nothing unless it was cut. -/
theorem publisher_names (self : MetaliumProfilerPublisher) :
    (validComponent self.targetName 255 = true ∧
      (∀ c, self.targetName.head? = some c → c ≠ '.' ∧ c ≠ '-') ∧
      Selected self.layoutVersion self.targetName ∧
      ∀ pid threadIdent, ¬ Selected 1 (self.temporaryName pid threadIdent) ∧
        ¬ Selected 2 (self.temporaryName pid threadIdent)) ∧
    ∀ value, (safeComponent value).length < 160 → safeComponent (safeComponent value) = safeComponent value := by
  obtain ⟨hv, hh, hs⟩ := targetName_spec self
  refine ⟨⟨hv, fun c hc => ?_, hs, fun pid threadIdent => ⟨?_, ?_⟩⟩, fun value => safeComponent_idempotent⟩
  · have hm := hh c hc
    constructor
    · rintro rfl
      cases hm
    · rintro rfl
      cases hm
  · exact temporaryName_not_selected self 1 pid threadIdent
  · exact temporaryName_not_selected self 2 pid threadIdent

end Names
end Tt
