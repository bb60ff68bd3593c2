import Mathlib.Data.List.Nodup
/-!
# Dictionary — dictionaries as lists of entries

Entries stand in the order in which their keys were first set.  `List.lookup` reads a key.
-/
namespace Py

variable {α β : Type*} [BEq α] [LawfulBEq α]

/-- A key is there when reading it finds a value. -/
theorem lookup_eq_none_iff_notMem {key : α} {table : List (α × β)} :
    table.lookup key = none ↔ key ∉ table.map Prod.fst := by
  rw [List.lookup_eq_none_iff, List.mem_map]
  constructor
  · rintro h ⟨entry, hm, rfl⟩
    exact absurd (h entry hm) (by simp)
  · intro h entry hm
    exact bne_iff_ne.2 (fun he => h ⟨entry, hm, he.symm⟩)

/-- Where no key stands twice, reading a key finds the entries. -/
theorem lookup_eq_some_iff {table : List (α × β)} (h : (table.map Prod.fst).Nodup) {key : α} {value : β} :
    table.lookup key = some value ↔ (key, value) ∈ table := by
  induction table with
  | nil => simp
  | cons entry rest ih =>
    obtain ⟨k, v⟩ := entry
    rw [List.map_cons, List.nodup_cons] at h
    rw [List.lookup_cons, List.mem_cons]
    by_cases hk : key = k
    · subst hk
      have hnot : (key, value) ∉ rest := fun hm => h.1 (List.mem_map.2 ⟨_, hm, rfl⟩)
      simp [hnot, eq_comm]
    · rw [beq_false_of_ne hk]
      simp [hk, ih h.2]

variable [DecidableEq α]

/-- `table[key] = value`. -/
def setItem (key : α) (value : β) : List (α × β) → List (α × β)
  | [] => [(key, value)]
  | (k, v) :: rest => if k = key then (k, value) :: rest else (k, v) :: setItem key value rest

theorem lookup_setItem (key other : α) (value : β) : ∀ (table : List (α × β)),
    (setItem key value table).lookup other = if other = key then some value else table.lookup other
  | [] => by
    unfold setItem
    rw [List.lookup_cons]
    by_cases h : other = key
    · rw [h, beq_self_eq_true, if_pos rfl]
    · rw [beq_false_of_ne h, if_neg h]
  | (k, v) :: rest => by
    have ih := lookup_setItem key other value rest
    unfold setItem
    by_cases hk : k = key
    · subst hk
      rw [if_pos rfl, List.lookup_cons, List.lookup_cons]
      by_cases ho : other = k
      · rw [ho, beq_self_eq_true, if_pos rfl]
      · rw [beq_false_of_ne ho, if_neg ho]
    · rw [if_neg hk, List.lookup_cons, List.lookup_cons, ih]
      by_cases ho : other = key
      · rw [ho, beq_false_of_ne (Ne.symm hk), if_pos rfl]
      · rw [if_neg ho, if_neg ho]

theorem keys_setItem (key : α) (value : β) : ∀ (table : List (α × β)), (setItem key value table).map Prod.fst =
    if key ∈ table.map Prod.fst then table.map Prod.fst else table.map Prod.fst ++ [key]
  | [] => rfl
  | (k, v) :: rest => by
    have ih := keys_setItem key value rest
    unfold setItem
    by_cases hk : k = key
    · subst hk
      rw [if_pos rfl, List.map_cons, List.map_cons, if_pos List.mem_cons_self]
    · rw [if_neg hk, List.map_cons, List.map_cons, ih]
      by_cases hm : key ∈ rest.map Prod.fst
      · rw [if_pos hm, if_pos (List.mem_cons_of_mem k hm)]
      · rw [if_neg hm, if_neg (fun h => (List.mem_cons.1 h).elim (fun he => hk he.symm) hm)]
        rfl

omit [BEq α] [LawfulBEq α] in
/-- A new key comes last. -/
theorem setItem_of_new {key : α} {value : β} : ∀ {table : List (α × β)}, key ∉ table.map Prod.fst →
    setItem key value table = table ++ [(key, value)]
  | [], _ => rfl
  | (k, v) :: rest, h => by
    rw [List.map_cons, List.mem_cons, not_or] at h
    unfold setItem
    rw [if_neg (Ne.symm h.1), setItem_of_new h.2]
    rfl

theorem nodup_setItem {key : α} {value : β} {table : List (α × β)} (h : (table.map Prod.fst).Nodup) :
    ((setItem key value table).map Prod.fst).Nodup := by
  rw [keys_setItem]
  by_cases hm : key ∈ table.map Prod.fst
  · rw [if_pos hm]
    exact h
  · rw [if_neg hm, List.nodup_append]
    refine ⟨h, List.nodup_singleton key, fun k hk k' hk' he => hm ?_⟩
    rw [← List.mem_singleton.1 hk', ← he]
    exact hk

theorem keys_subset_setItem {key : α} {value : β} {table : List (α × β)} :
    table.map Prod.fst ⊆ (setItem key value table).map Prod.fst := by
  rw [keys_setItem]
  split
  · exact List.Subset.refl _
  · exact List.subset_append_left _ _

theorem length_setItem {key : α} {value : β} {table : List (α × β)} : (setItem key value table).length =
    if key ∈ table.map Prod.fst then table.length else table.length + 1 := by
  have h := congrArg List.length (keys_setItem key value table)
  rw [List.length_map] at h
  rw [h]
  split
  · rw [List.length_map]
  · rw [List.length_append, List.length_map, List.length_singleton]

end Py
