import TtMetricsExporter.Dictionary
import TtMetricsExporter.State
/-!
# KeyValues — the grammar of a `key=value` file

`_parse_key_values` gives up at the first line that makes one field too many or repeats a key.  Neither depends on where
that line stands: a content is accepted exactly when its fields, taken together, are few enough and have distinct keys,
and then they are the result (`parseKeyValues_eq`).
-/
namespace Tt

open Py (Str)

/-! ## One line -/

/-- A line is a field when a key that is not blank stands before its first `=`. -/
def IsField (line key value : Str) : Prop :=
  ∃ before after, line = before ++ '=' :: after ∧ '=' ∉ before ∧ key = Py.stripAscii before ∧ key ≠ [] ∧
    value = Py.stripAscii after

theorem splitOnce_append {sep : Char} {before after : Str} (h : sep ∉ before) :
    Py.splitOnce sep (before ++ sep :: after) = (before, after) := by
  have hall : ∀ c ∈ before, decide (c ≠ sep) = true := fun c hc => decide_eq_true (fun he => h (he ▸ hc))
  unfold Py.splitOnce
  rw [List.takeWhile_append_of_pos hall, List.dropWhile_append_of_pos hall, List.takeWhile_cons_of_neg (by simp),
    List.dropWhile_cons_of_neg (by simp), List.append_nil]
  rfl

theorem lineField_iff {line key value : Str} : lineField line = some (key, value) ↔ IsField line key value := by
  unfold lineField IsField
  by_cases heq : '=' ∈ line
  · obtain ⟨before, after, rfl, hb⟩ := List.eq_append_cons_of_mem heq
    rw [if_pos heq, splitOnce_append hb]
    dsimp only
    constructor
    · intro h
      split at h
      · cases h
      · rename_i hk
        obtain ⟨rfl, rfl⟩ := Prod.mk.inj (Option.some.inj h)
        exact ⟨before, after, rfl, hb, rfl, hk, rfl⟩
    · rintro ⟨before', after', he, hb', rfl, hk, rfl⟩
      have hs := congrArg (Py.splitOnce '=') he
      rw [splitOnce_append hb, splitOnce_append hb'] at hs
      obtain ⟨rfl, rfl⟩ := Prod.mk.inj hs
      rw [if_neg hk]
  · rw [if_neg heq]
    constructor
    · intro h
      cases h
    · rintro ⟨before, after, rfl, -⟩
      exact absurd (by simp) heq

/-! ## The loop -/

/-- The fields of a content, in the order of its lines. -/
def contentFields (content : Str) : List (Str × Str) := (Py.splitlines content).filterMap lineField

/-- Fields that fit into one file: few enough, and no key twice. -/
def WithinLimits (values : List (Str × Str)) : Prop := values.length ≤ maximumStateFields ∧ (values.map Prod.fst).Nodup

instance (values : List (Str × Str)) : Decidable (WithinLimits values) := inferInstanceAs (Decidable (_ ∧ _))

theorem WithinLimits.of_append {values rest : List (Str × Str)} (h : WithinLimits (values ++ rest)) : WithinLimits values := by
  obtain ⟨hl, hn⟩ := h
  rw [List.length_append] at hl
  rw [List.map_append] at hn
  exact ⟨by omega, (List.nodup_append.1 hn).1⟩

theorem withinLimits_concat {values : List (Str × Str)} (h : WithinLimits values) (key value : Str) :
    WithinLimits (values ++ [(key, value)]) ↔ ¬ (maximumStateFields ≤ values.length ∨ key ∈ values.map Prod.fst) := by
  unfold WithinLimits
  rw [List.length_append, List.length_singleton, List.map_append, List.map_singleton, List.nodup_append, not_or]
  refine and_congr (by omega) ?_
  constructor
  · rintro ⟨-, -, hd⟩ hk
    exact hd key hk key List.mem_cons_self rfl
  · intro hk
    refine ⟨h.2, List.nodup_singleton _, fun a ha b hb hab => ?_⟩
    rw [List.mem_singleton.1 hb] at hab
    subst hab
    exact hk ha

/-- **The loop accepts what fits as a whole**, whatever it has already taken. -/
theorem foldlM_addLine : ∀ (lines : List Str) {values : List (Str × Str)}, WithinLimits values →
    lines.foldlM addLine values = if WithinLimits (values ++ lines.filterMap lineField) then
      some (values ++ lines.filterMap lineField) else none
  | [], values, h => by
    rw [List.filterMap_nil, List.append_nil, if_pos h]
    rfl
  | line :: rest, values, h => by
    rw [List.foldlM_cons, List.filterMap_cons]
    unfold addLine
    cases hf : lineField line with
    | none => exact foldlM_addLine rest h
    | some field =>
      obtain ⟨key, value⟩ := field
      dsimp only
      have happ : values ++ (key, value) :: rest.filterMap lineField =
          values ++ [(key, value)] ++ rest.filterMap lineField := by simp
      rw [happ]
      by_cases hfit : WithinLimits (values ++ [(key, value)])
      · rw [if_neg ((withinLimits_concat h key value).1 hfit)]
        exact foldlM_addLine rest hfit
      · have hstop := not_not.1 (mt (withinLimits_concat h key value).2 hfit)
        rw [if_pos hstop, if_neg (fun hall => hfit hall.of_append)]
        rfl

/-- **A content is accepted as a whole or not at all**, and its fields are the result. -/
theorem parseKeyValues_eq (content : Str) : parseKeyValues content =
    if '\x00' ∉ content ∧ WithinLimits (contentFields content) then some (contentFields content) else none := by
  unfold parseKeyValues
  by_cases h0 : '\x00' ∈ content
  · rw [if_pos h0, if_neg (fun h => h.1 h0)]
  · have hnil : WithinLimits [] := ⟨Nat.zero_le _, List.nodup_nil⟩
    rw [if_neg h0, foldlM_addLine _ hnil, List.nil_append]
    simp only [h0, not_false_eq_true, true_and]
    rfl

theorem parseKeyValues_eq_some {content : Str} {values : List (Str × Str)} : parseKeyValues content = some values ↔
    '\x00' ∉ content ∧ WithinLimits (contentFields content) ∧ values = contentFields content := by
  rw [parseKeyValues_eq]
  by_cases h : '\x00' ∉ content ∧ WithinLimits (contentFields content)
  · rw [if_pos h, Option.some.injEq, eq_comm, ← and_assoc, and_iff_right h]
  · rw [if_neg h, ← and_assoc]
    exact iff_of_false (fun he => nomatch he) (fun he => h he.1)

/-! ## The map -/

/-- One map: the same value under every key. -/
def SameMap (values values' : List (Str × Str)) : Prop := ∀ key, values.lookup key = values'.lookup key

theorem sameMap_of_perm {values values' : List (Str × Str)} (h : (values.map Prod.fst).Nodup) (hp : values.Perm values') :
    SameMap values values' := by
  intro key
  refine Option.ext (fun value => ?_)
  rw [Py.lookup_eq_some_iff h, Py.lookup_eq_some_iff ((hp.map Prod.fst).nodup_iff.1 h), hp.mem_iff]

theorem lookup_parseKeyValues {content : Str} {values : List (Str × Str)} (h : parseKeyValues content = some values)
    (key value : Str) : values.lookup key = some value ↔ ∃ line ∈ Py.splitlines content, IsField line key value := by
  obtain ⟨-, hfit, rfl⟩ := parseKeyValues_eq_some.1 h
  rw [Py.lookup_eq_some_iff hfit.2, contentFields, List.mem_filterMap]
  simp only [lineField_iff]

/-- What is no line boundary is in a line. -/
theorem mem_iff_mem_splitlines {c : Char} (hc : Py.isLineBreak c = false) : ∀ (s : Str),
    c ∈ s ↔ ∃ line ∈ Py.splitlines s, c ∈ line := by
  intro s
  have hcr : c ≠ '\r' := fun he => by rw [he] at hc; exact absurd hc (by decide)
  have hlf : c ≠ '\n' := fun he => by rw [he] at hc; exact absurd hc (by decide)
  fun_induction Py.splitlines s with
  | case1 => simp
  | case2 rest ih => simp [hcr, hlf, ih]
  | case3 d rest _ hd ih =>
    have hne : c ≠ d := fun he => by rw [he, hd] at hc; cases hc
    simp [hne, ih]
  | case4 d rest _ _ hl ih =>
    rw [hl] at ih
    simp [ih]
  | case5 d rest _ _ line lines hl ih =>
    rw [hl, List.exists_mem_cons_iff] at ih
    rw [List.exists_mem_cons_iff, List.mem_cons, List.mem_cons, or_assoc]
    exact or_congr_right ih

/-- **The grammar of a state file, and that the order of its lines does not matter.** -/
theorem parseKeyValues_grammar :
    (∀ content, (parseKeyValues content = none ↔ '\x00' ∈ content ∨ 32 < (contentFields content).length ∨
        ¬ ((contentFields content).map Prod.fst).Nodup) ∧
      ∀ values, parseKeyValues content = some values → ∀ key value,
        values.lookup key = some value ↔ ∃ line ∈ Py.splitlines content, IsField line key value) ∧
    ∀ content content', (Py.splitlines content).Perm (Py.splitlines content') →
      Option.Rel SameMap (parseKeyValues content) (parseKeyValues content') := by
  refine ⟨fun content => ⟨?_, fun values h => lookup_parseKeyValues h⟩, fun content content' hp => ?_⟩
  · have hlimit : 32 < (contentFields content).length ↔ ¬ (contentFields content).length ≤ maximumStateFields :=
      Nat.not_le.symm
    rw [parseKeyValues_eq, ite_eq_right_iff, hlimit, ← not_and_or]
    constructor
    · intro h
      by_cases h0 : '\x00' ∈ content
      · exact .inl h0
      · exact .inr (fun hfit => nomatch h ⟨h0, hfit⟩)
    · rintro (h0 | hfit) ⟨h0', hfit'⟩
      · exact absurd h0 h0'
      · exact absurd hfit' hfit
  · have hfields : (contentFields content).Perm (contentFields content') := hp.filterMap _
    have hnul : '\x00' ∈ content ↔ '\x00' ∈ content' := by
      rw [mem_iff_mem_splitlines rfl, mem_iff_mem_splitlines rfl]
      exact exists_congr (fun line => and_congr_left (fun _ => hp.mem_iff))
    have hfit : WithinLimits (contentFields content) ↔ WithinLimits (contentFields content') := by
      unfold WithinLimits
      rw [hfields.length_eq, (hfields.map Prod.fst).nodup_iff]
    rw [parseKeyValues_eq, parseKeyValues_eq]
    by_cases h : '\x00' ∉ content ∧ WithinLimits (contentFields content)
    · rw [if_pos h, if_pos ⟨fun h0 => h.1 (hnul.2 h0), hfit.1 h.2⟩]
      exact .some (sameMap_of_perm h.2.2 hfields)
    · rw [if_neg h, if_neg (fun h' => h ⟨fun h0 => h'.1 (hnul.1 h0), hfit.2 h'.2⟩)]
      exact .none

end Tt
