import Mathlib
/-!
# Ranked — records sorted by a key, the first of each identity, at most so many

Records are sorted by a key (stably), of several records with one identity the first is kept, and the list is cut.
Sorting and keeping the first commute with dropping whole identities, so two lists that differ in a few identities are
ranked alike outside them, up to what the cut takes (`ranked_outside`).  Where equal keys mean equal identities, a
record is kept by the cut exactly when few enough identities have a record ahead of it (`mem_ranking_iff`).
-/
namespace Ranked

section KeepFirst
variable {α ι : Type} [DecidableEq ι] (ident : α → ι)

/-- The first record of each identity that was not seen before. -/
def keepFirst (seen : List ι) : List α → List α
  | [] => []
  | a :: rest => if ident a ∈ seen then keepFirst seen rest else a :: keepFirst (ident a :: seen) rest

theorem keepFirst_sublist : ∀ (seen : List ι) (l : List α), (keepFirst ident seen l).Sublist l
  | _, [] => .slnil
  | seen, a :: rest => by
    rw [keepFirst]
    by_cases h : ident a ∈ seen
    · rw [if_pos h]; exact (keepFirst_sublist seen rest).cons a
    · rw [if_neg h]; exact (keepFirst_sublist _ rest).cons_cons a

theorem not_mem_seen : ∀ (seen : List ι) (l : List α), ∀ x ∈ keepFirst ident seen l, ident x ∉ seen
  | _, [], x, hx => absurd hx List.not_mem_nil
  | seen, a :: rest, x, hx => by
    rw [keepFirst] at hx
    by_cases h : ident a ∈ seen
    · rw [if_pos h] at hx; exact not_mem_seen seen rest x hx
    · rw [if_neg h] at hx
      rcases List.mem_cons.1 hx with rfl | hx
      · exact h
      · exact fun hs => not_mem_seen _ rest x hx (List.mem_cons_of_mem _ hs)

/-- **No identity is kept twice.** -/
theorem nodup_keepFirst : ∀ (seen : List ι) (l : List α), ((keepFirst ident seen l).map ident).Nodup
  | _, [] => List.nodup_nil
  | seen, a :: rest => by
    rw [keepFirst]
    by_cases h : ident a ∈ seen
    · rw [if_pos h]; exact nodup_keepFirst seen rest
    · rw [if_neg h, List.map_cons, List.nodup_cons]
      refine ⟨fun hm => ?_, nodup_keepFirst _ rest⟩
      obtain ⟨x, hx, he⟩ := List.mem_map.1 hm
      exact not_mem_seen ident _ rest x hx (by rw [he]; exact List.mem_cons_self)

/-- **Every identity that was not seen is kept**, with its first record. -/
theorem exists_keepFirst {κ : Type} [LinearOrder κ] (key : α → κ) : ∀ (seen : List ι) (l : List α),
    l.Pairwise (key · ≤ key ·) → ∀ x ∈ l, ident x ∉ seen →
    ∃ y ∈ keepFirst ident seen l, ident y = ident x ∧ key y ≤ key x
  | _, [], _, x, hx, _ => absurd hx List.not_mem_nil
  | seen, a :: rest, hs, x, hx, hn => by
    rw [List.pairwise_cons] at hs
    rw [keepFirst]
    by_cases h : ident a ∈ seen
    · rw [if_pos h]
      rcases List.mem_cons.1 hx with rfl | hx
      · exact absurd h hn
      · exact exists_keepFirst key seen rest hs.2 x hx hn
    · rw [if_neg h]
      rcases List.mem_cons.1 hx with rfl | hx
      · exact ⟨x, List.mem_cons_self, rfl, le_refl _⟩
      · by_cases he : ident x = ident a
        · exact ⟨a, List.mem_cons_self, he.symm, hs.1 x hx⟩
        · obtain ⟨y, hy, h1, h2⟩ := exists_keepFirst key (ident a :: seen) rest hs.2 x hx (by simp [he, hn])
          exact ⟨y, List.mem_cons_of_mem _ hy, h1, h2⟩

/-- Only what was seen of the list's own identities matters. -/
theorem keepFirst_congr : ∀ {s₁ s₂ : List ι} {l : List α}, (∀ x ∈ l, ident x ∈ s₁ ↔ ident x ∈ s₂) →
    keepFirst ident s₁ l = keepFirst ident s₂ l
  | _, _, [], _ => rfl
  | s₁, s₂, a :: rest, h => by
    have hrest := fun x hx => h x (List.mem_cons_of_mem a hx)
    rw [keepFirst, keepFirst]
    by_cases ha : ident a ∈ s₁
    · rw [if_pos ha, if_pos ((h a List.mem_cons_self).1 ha)]
      exact keepFirst_congr hrest
    · rw [if_neg ha, if_neg (fun h' => ha ((h a List.mem_cons_self).2 h'))]
      exact congrArg (a :: ·) (keepFirst_congr (fun x hx => by simp [hrest x hx]))

/-- **Keeping the first commutes with dropping identities.** -/
theorem filter_keepFirst (p : ι → Bool) : ∀ (seen : List ι) (l : List α),
    (keepFirst ident seen l).filter (fun x => p (ident x)) = keepFirst ident seen (l.filter (fun x => p (ident x)))
  | _, [] => rfl
  | seen, a :: rest => by
    rw [keepFirst, List.filter_cons]
    by_cases h : ident a ∈ seen
    · rw [if_pos h, filter_keepFirst p seen rest]
      by_cases hp : p (ident a) = true
      · rw [if_pos hp, keepFirst, if_pos h]
      · rw [if_neg hp]
    · rw [if_neg h, List.filter_cons, filter_keepFirst p _ rest]
      by_cases hp : p (ident a) = true
      · rw [if_pos hp, if_pos hp, keepFirst, if_neg h]
      · rw [if_neg hp, if_neg hp]
        refine keepFirst_congr ident (fun x hx => ?_)
        have hx : p (ident x) = true := (List.mem_filter.1 hx).2
        have hne : ident x ≠ ident a := fun he => hp (he ▸ hx)
        simp [hne]

/-- Of records that all have one identity, the first is kept. -/
theorem keepFirst_of_same {i : ι} : ∀ {l : List α}, (∀ x ∈ l, ident x = i) → keepFirst ident [] l = l.head?.toList
  | [], _ => rfl
  | a :: rest, h => by
    have hnil : ∀ (l : List α), (∀ x ∈ l, ident x = i) → keepFirst ident [i] l = [] := by
      intro l hl
      refine List.eq_nil_iff_forall_not_mem.2 (fun x hx => ?_)
      exact not_mem_seen ident [i] l x hx (by rw [hl x ((keepFirst_sublist ident [i] l).mem hx)]; simp)
    rw [keepFirst, if_neg List.not_mem_nil, h a List.mem_cons_self, hnil rest (fun x hx => h x (List.mem_cons_of_mem _ hx))]
    rfl

end KeepFirst

/-! ## Sorting -/

section Rank
variable {α ι κ : Type} [LinearOrder κ] (key : α → κ)

/-- Sorted by key, stably. -/
def rank (l : List α) : List α := l.insertionSort (key · ≤ key ·)

theorem sorted_rank (l : List α) : (rank key l).Pairwise (key · ≤ key ·) := by
  have : Std.Total (fun a b : α => key a ≤ key b) := ⟨fun a b => le_total (key a) (key b)⟩
  have : IsTrans α (fun a b => key a ≤ key b) := ⟨fun _ _ _ => le_trans⟩
  exact List.pairwise_insertionSort _ l

theorem rank_cons (a : α) (l : List α) : rank key (a :: l) = (rank key l).orderedInsert (key · ≤ key ·) a := rfl

theorem mem_rank {x : α} {l : List α} : x ∈ rank key l ↔ x ∈ l := List.mem_insertionSort _

theorem filter_orderedInsert (p : α → Bool) (a : α) : ∀ {l : List α}, l.Pairwise (key · ≤ key ·) →
    (l.orderedInsert (key · ≤ key ·) a).filter p =
      if p a then (l.filter p).orderedInsert (key · ≤ key ·) a else l.filter p
  | [], _ => by simp [List.filter_cons]
  | b :: l, h => by
    rw [List.pairwise_cons] at h
    rw [List.orderedInsert_cons]
    by_cases hab : key a ≤ key b
    · rw [if_pos hab, List.filter_cons]
      by_cases ha : p a = true
      · rw [if_pos ha, if_pos ha]
        cases hf : (b :: l).filter p with
        | nil => rfl
        | cons c rest =>
          have hc : c ∈ b :: l := List.mem_of_mem_filter (hf ▸ List.mem_cons_self : c ∈ (b :: l).filter p)
          have hac : key a ≤ key c := by
            rcases List.mem_cons.1 hc with rfl | hc
            · exact hab
            · exact le_trans hab (h.1 c hc)
          rw [List.orderedInsert_cons, if_pos hac]
      · rw [if_neg ha, if_neg ha]
    · rw [if_neg hab, List.filter_cons, filter_orderedInsert p a h.2, List.filter_cons]
      by_cases hb : p b = true
      · rw [if_pos hb, if_pos hb]
        by_cases ha : p a = true
        · rw [if_pos ha, if_pos ha, List.orderedInsert_cons, if_neg hab]
        · rw [if_neg ha, if_neg ha]
      · rw [if_neg hb, if_neg hb]

/-- **Sorting commutes with dropping records.** -/
theorem filter_rank (p : α → Bool) : ∀ (l : List α), (rank key l).filter p = rank key (l.filter p)
  | [] => rfl
  | a :: l => by
    rw [rank_cons, filter_orderedInsert key p a (sorted_rank key l), List.filter_cons, filter_rank p l]
    by_cases ha : p a = true
    · rw [if_pos ha, if_pos ha, rank_cons]
    · rw [if_neg ha, if_neg ha]

/-- A record that is first in key order among the others stays first. -/
theorem head_rank_of_le {a : α} {l : List α} (h : ∀ x ∈ l, key a ≤ key x) : (rank key (a :: l)).head? = some a := by
  rw [rank, List.insertionSort_cons_of_forall_rel _ h]
  rfl

/-- Sorted lists with the same records of each key are the same. -/
theorem eq_of_filters : ∀ {l₁ l₂ : List α}, l₁.Pairwise (key · ≤ key ·) → l₂.Pairwise (key · ≤ key ·) →
    (∀ k, l₁.filter (fun x => key x = k) = l₂.filter (fun x => key x = k)) → l₁ = l₂
  | [], [], _, _, _ => rfl
  | [], b :: l₂, _, _, h => by simpa using h (key b)
  | a :: l₁, [], _, _, h => by simpa using h (key a)
  | a :: l₁, b :: l₂, h₁, h₂, h => by
    rw [List.pairwise_cons] at h₁ h₂
    have hab : key a ≤ key b := by
      have hb : b ∈ (a :: l₁).filter (fun x => key x = key b) := by
        rw [h (key b)]
        simp
      rcases List.mem_cons.1 (List.mem_of_mem_filter hb) with rfl | hb
      · exact le_refl _
      · exact h₁.1 b hb
    have hba : key b ≤ key a := by
      have ha : a ∈ (b :: l₂).filter (fun x => key x = key a) := by
        rw [← h (key a)]
        simp
      rcases List.mem_cons.1 (List.mem_of_mem_filter ha) with rfl | ha
      · exact le_refl _
      · exact h₂.1 a ha
    have hkey : key a = key b := le_antisymm hab hba
    have hfirst := h (key b)
    rw [List.filter_cons_of_pos (by simpa using hkey), List.filter_cons_of_pos (by simp), List.cons.injEq] at hfirst
    obtain ⟨rfl, hrest⟩ := hfirst
    refine congrArg (a :: ·) (eq_of_filters h₁.2 h₂.2 (fun k => ?_))
    by_cases hk : key a = k
    · exact hk ▸ hrest
    · have hk' := h k
      rwa [List.filter_cons_of_neg (by simpa using hk), List.filter_cons_of_neg (by simpa using hk)] at hk'

theorem rank_of_same {k : κ} {l : List α} (h : ∀ x ∈ l, key x = k) : rank key l = l := by
  refine List.Pairwise.insertionSort_eq (List.pairwise_of_forall_mem_list (fun a ha b hb => ?_))
  rw [h a ha, h b hb]

/-- **Two lists are sorted alike exactly when each key has the same records in both**, in the same order. -/
theorem rank_eq_iff {l₁ l₂ : List α} : rank key l₁ = rank key l₂ ↔
    ∀ k, l₁.filter (fun x => key x = k) = l₂.filter (fun x => key x = k) := by
  have hsame : ∀ (l : List α) k, rank key (l.filter (fun x => key x = k)) = l.filter (fun x => key x = k) :=
    fun l k => rank_of_same key (k := k) (fun x hx => by simpa using (List.mem_filter.1 hx).2)
  constructor
  · intro h k
    rw [← hsame l₁ k, ← filter_rank, h, filter_rank, hsame]
  · intro h
    refine eq_of_filters key (sorted_rank key l₁) (sorted_rank key l₂) (fun k => ?_)
    rw [filter_rank, filter_rank, h k]

/-- Where a record is told by its key, another order of the records has the same records of each key. -/
theorem filter_eq_of_perm {l₁ l₂ : List α} (hp : l₁.Perm l₂) (hinj : ∀ x ∈ l₁, ∀ y ∈ l₁, key x = key y → x = y)
    (k : κ) : l₁.filter (fun x => key x = k) = l₂.filter (fun x => key x = k) := by
  have hf := hp.filter (fun x => key x = k)
  cases h₁ : l₁.filter (fun x => key x = k) with
  | nil =>
    rw [h₁] at hf
    exact (List.nil_perm.1 hf).symm
  | cons a rest =>
    have ha : a ∈ l₁.filter (fun x => key x = k) := by
      rw [h₁]
      exact List.mem_cons_self
    rw [List.mem_filter, decide_eq_true_eq] at ha
    have hall : ∀ x ∈ l₁.filter (fun x => key x = k), x = a := by
      intro x hx
      rw [List.mem_filter, decide_eq_true_eq] at hx
      exact hinj x hx.1 a ha.1 (hx.2.trans ha.2.symm)
    have he₁ := List.eq_replicate_of_mem hall
    have he₂ := List.eq_replicate_of_mem (fun x hx => hall x (hf.mem_iff.2 hx))
    rw [← h₁, he₁, he₂, hf.length_eq]

/-- **Parts that are each told by their keys are sorted alike in any order of each part.** -/
theorem rank_flatten_congr {ps qs : List (List α)}
    (h : List.Forall₂ (fun p q => p.Perm q ∧ ∀ x ∈ p, ∀ y ∈ p, key x = key y → x = y) ps qs) :
    rank key ps.flatten = rank key qs.flatten := by
  rw [rank_eq_iff]
  intro k
  induction h with
  | nil => rfl
  | cons hpq _ ih =>
    rw [List.flatten_cons, List.flatten_cons, List.filter_append, List.filter_append, ih,
      filter_eq_of_perm key hpq.1 hpq.2 k]

/-- **Lists that are sorted alike have the same records of each key in each part**, where the parts correspond. -/
theorem filters_of_rank_flatten {ps qs : List (List α)} (h : List.Forall₂ List.Perm ps qs)
    (hrank : rank key ps.flatten = rank key qs.flatten) (k : κ) :
    List.Forall₂ (fun p q => p.filter (fun x => key x = k) = q.filter (fun x => key x = k)) ps qs := by
  have hk := (rank_eq_iff key).1 hrank k
  clear hrank
  induction h with
  | nil => exact .nil
  | cons hpq _ ih =>
    rw [List.flatten_cons, List.flatten_cons, List.filter_append, List.filter_append] at hk
    obtain ⟨hfirst, hrest⟩ := List.append_inj hk (hpq.filter _).length_eq
    exact .cons hfirst (ih hrest)

end Rank

/-! ## The cut -/

section Ranking
variable {α ι κ : Type} [DecidableEq ι] [LinearOrder κ] (ident : α → ι) (key : α → κ) (n : Nat)

/-- The first record of each identity, in key order. -/
def leaders (l : List α) : List α := keepFirst ident [] (rank key l)

/-- The first `n` of them. -/
def ranking (l : List α) : List α := (leaders ident key l).take n

theorem mem_of_mem_leaders {l : List α} {x : α} (h : x ∈ leaders ident key l) : x ∈ l :=
  (mem_rank key).1 ((keepFirst_sublist ident [] _).mem h)

theorem nodup_leaders (l : List α) : ((leaders ident key l).map ident).Nodup := nodup_keepFirst ident [] _

theorem sorted_leaders (l : List α) : (leaders ident key l).Pairwise (key · ≤ key ·) :=
  (sorted_rank key l).sublist (keepFirst_sublist ident [] _)

theorem exists_leader {l : List α} {x : α} (h : x ∈ l) : ∃ y ∈ leaders ident key l, ident y = ident x ∧ key y ≤ key x :=
  exists_keepFirst ident key [] _ (sorted_rank key l) x ((mem_rank key).2 h) List.not_mem_nil

theorem leader_unique {l : List α} {x y : α} (hx : x ∈ leaders ident key l) (hy : y ∈ leaders ident key l)
    (h : ident x = ident y) : x = y := List.inj_on_of_nodup_map (nodup_leaders ident key l) hx hy h

/-- **A leader is first in key order among the records of its identity.** -/
theorem leader_le {l : List α} {x y : α} (hx : x ∈ leaders ident key l) (hy : y ∈ l) (h : ident x = ident y) :
    key x ≤ key y := by
  obtain ⟨z, hz, hzi, hzk⟩ := exists_leader ident key hy
  rw [leader_unique ident key hx hz (h.trans hzi.symm)]
  exact hzk

/-- **Ranking commutes with dropping identities.** -/
theorem filter_leaders (p : ι → Bool) (l : List α) :
    (leaders ident key l).filter (fun x => p (ident x)) = leaders ident key (l.filter (fun x => p (ident x))) := by
  rw [leaders, filter_keepFirst, filter_rank]
  rfl

/-- **Of records with one identity and least key, the first one given leads.** -/
theorem leader_eq_first {l rest : List α} {i : ι} {a x : α} (hl : l.filter (fun y => ident y = i) = a :: rest)
    (ha : ∀ y ∈ rest, key a ≤ key y) (hx : x ∈ leaders ident key l) (hi : ident x = i) : x = a := by
  have hf := filter_leaders ident key (fun j => decide (j = i)) l
  rw [hl] at hf
  have hall : ∀ y ∈ rank key (a :: rest), ident y = i := by
    intro y hy
    rw [mem_rank, ← hl, List.mem_filter, decide_eq_true_eq] at hy
    exact hy.2
  have hx' : x ∈ (leaders ident key l).filter (fun y => decide (ident y = i)) :=
    List.mem_filter.2 ⟨hx, decide_eq_true hi⟩
  rw [hf, leaders, keepFirst_of_same ident hall, head_rank_of_le key ha] at hx'
  simpa using hx'

/-- What the cut drops is no earlier than anything it keeps. -/
theorem dropped {l : List α} (hs : l.Pairwise (key · ≤ key ·)) {x : α} (hx : x ∈ l) (hn : x ∉ l.take n) :
    (l.take n).length = n ∧ ∀ y ∈ l.take n, key y ≤ key x := by
  have hd : x ∈ l.drop n := by
    have : x ∈ l.take n ++ l.drop n := by rwa [List.take_append_drop]
    exact (List.mem_append.1 this).resolve_left hn
  constructor
  · have hlen := List.length_pos_of_mem hd
    rw [List.length_drop] at hlen
    rw [List.length_take]
    omega
  · intro y hy
    rw [← List.take_append_drop n l, List.pairwise_append] at hs
    exact hs.2.2 y hy x hd

/-- **Nothing is lost but for a reason**: a record is ranked, or a record of its identity is ranked no later, or the
ranking is full of records that are no later. -/
theorem complete {l : List α} {x : α} (hx : x ∈ l) :
    (∃ y ∈ ranking ident key n l, ident y = ident x ∧ key y ≤ key x) ∨
      ((ranking ident key n l).length = n ∧ ∀ y ∈ ranking ident key n l, key y ≤ key x) := by
  obtain ⟨y, hy, hi, hk⟩ := exists_leader ident key hx
  by_cases hn : y ∈ ranking ident key n l
  · exact .inl ⟨y, hn, hi, hk⟩
  · obtain ⟨hl, hall⟩ := dropped key n (sorted_leaders ident key l) hy hn
    exact .inr ⟨hl, fun z hz => le_trans (hall z hz) hk⟩

/-- The identities that have a record ahead of a record. -/
def ahead (l : List α) (x : α) : List ι := ((l.filter (fun y => key y < key x)).map ident).dedup

theorem ahead_length_le {l : List α} {x y : α} (h : key x ≤ key y) :
    (ahead ident key l x).length ≤ (ahead ident key l y).length := by
  refine (List.subperm_of_subset (List.nodup_dedup _) (fun i hi => ?_)).length_le
  rw [List.mem_dedup] at hi
  rw [ahead, List.mem_dedup]
  obtain ⟨z, hz, rfl⟩ := List.mem_map.1 hi
  rw [List.mem_filter, decide_eq_true_eq] at hz
  exact List.mem_map_of_mem (List.mem_filter.2 ⟨hz.1, decide_eq_true (lt_of_lt_of_le hz.2 h)⟩)

omit [DecidableEq ι] in
theorem mem_take_append {l₁ l₂ : List α} {x : α} (h : x ∉ l₁) : x ∈ (l₁ ++ x :: l₂).take n ↔ l₁.length < n := by
  rw [List.take_append, List.mem_append]
  constructor
  · rintro (hx | hx)
    · exact absurd (List.mem_of_mem_take hx) h
    · by_contra hlt
      rw [Nat.sub_eq_zero_of_le (Nat.le_of_not_lt hlt)] at hx
      exact absurd hx List.not_mem_nil
  · intro hlt
    obtain ⟨k, hk⟩ : ∃ k, n - l₁.length = k + 1 := ⟨n - l₁.length - 1, by omega⟩
    rw [hk, List.take_succ_cons]
    exact .inr List.mem_cons_self

/-- **A leader is ranked exactly when few enough identities are ahead of it.** -/
theorem mem_ranking_iff {l : List α} (hk : ∀ x ∈ l, ∀ y ∈ l, key x = key y → ident x = ident y) {x : α}
    (hx : x ∈ leaders ident key l) : x ∈ ranking ident key n l ↔ (ahead ident key l x).length < n := by
  obtain ⟨before, after, hL⟩ := List.append_of_mem hx
  have hnd := nodup_leaders ident key l
  have hs := sorted_leaders ident key l
  have hmem : ∀ y ∈ leaders ident key l, y ∈ l := fun y => mem_of_mem_leaders ident key
  rw [hL] at hs hnd
  rw [List.pairwise_append, List.pairwise_cons] at hs
  rw [List.map_append, List.map_cons, List.nodup_append] at hnd
  obtain ⟨hnb, -, hdisj⟩ := hnd
  have hlt : ∀ y ∈ before, key y < key x := by
    intro y hy
    refine lt_of_le_of_ne (hs.2.2 y hy x List.mem_cons_self) (fun he => ?_)
    have hy' : y ∈ leaders ident key l := by rw [hL]; exact List.mem_append_left _ hy
    exact hdisj _ (List.mem_map_of_mem hy) _ List.mem_cons_self (hk y (hmem y hy') x (hmem x hx) he)
  have hxb : x ∉ before := fun h => lt_irrefl _ (hlt x h)
  have hperm : (ahead ident key l x).Perm (before.map ident) := by
    rw [ahead, List.perm_ext_iff_of_nodup (List.nodup_dedup _) hnb]
    intro i
    rw [List.mem_dedup]
    constructor
    · intro hi
      obtain ⟨r, hr, rfl⟩ := List.mem_map.1 hi
      rw [List.mem_filter, decide_eq_true_eq] at hr
      obtain ⟨y, hy, hyi, hyk⟩ := exists_leader ident key hr.1
      have hyx : key y < key x := lt_of_le_of_lt hyk hr.2
      rw [hL] at hy
      rcases List.mem_append.1 hy with hy | hy
      · exact List.mem_map.2 ⟨y, hy, hyi⟩
      · rcases List.mem_cons.1 hy with rfl | hy
        · exact absurd hyx (lt_irrefl _)
        · exact absurd hyx (not_lt_of_ge (hs.2.1.1 y hy))
    · intro hi
      obtain ⟨y, hy, rfl⟩ := List.mem_map.1 hi
      have hy' : y ∈ l := hmem y (by rw [hL]; exact List.mem_append_left _ hy)
      exact List.mem_map_of_mem (List.mem_filter.2 ⟨hy', decide_eq_true (hlt y hy)⟩)
  rw [ranking, hL, mem_take_append n hxb, hperm.length_eq, List.length_map]

/-! ## Two rankings of the same records -/

section Reordered
variable {l l₁ l₂ : List α}

/-- A record comes first of its key: an initial part of the list has it, and no other record of the key. -/
def FirstOfKey (l : List α) (x : α) : Prop :=
  ∃ before after, l = before ++ after ∧ x ∈ before ∧ ∀ y ∈ before, key y = key x → y = x

omit [DecidableEq ι] [LinearOrder κ] in
theorem FirstOfKey.of_only {x : α} (hx : x ∈ l) (h : ∀ y ∈ l, key y = key x → y = x) : FirstOfKey key l x :=
  ⟨l, [], (List.append_nil l).symm, hx, h⟩

omit [DecidableEq ι] in
theorem FirstOfKey.head {x : α} (h : FirstOfKey key l x) : (l.filter (fun y => key y = key x)).head? = some x := by
  obtain ⟨before, after, rfl, hx, hall⟩ := h
  rw [List.filter_append]
  cases hf : before.filter (fun y => key y = key x) with
  | nil => exact absurd (decide_eq_true rfl) (List.filter_eq_nil_iff.1 hf x hx)
  | cons a rest =>
    have ha : a ∈ before.filter (fun y => key y = key x) := hf ▸ List.mem_cons_self
    rw [List.mem_filter, decide_eq_true_eq] at ha
    rw [hall a ha.1 ha.2]
    rfl

/-- A record that comes first of its identity comes first of its key. -/
theorem head_of_identity (hk : ∀ x ∈ l, ∀ y ∈ l, key x = key y → ident x = ident y) {a : α} {rest : List α}
    (hl : l.filter (fun y => ident y = ident a) = a :: rest) :
    (l.filter (fun y => key y = key a)).head? = some a := by
  have ha : a ∈ l := List.mem_of_mem_filter (hl ▸ List.mem_cons_self : a ∈ l.filter (fun y => ident y = ident a))
  have hsub : l.filter (fun y => key y = key a) =
      (l.filter (fun y => ident y = ident a)).filter (fun y => key y = key a) := by
    rw [List.filter_filter]
    refine List.filter_congr (fun y hy => ?_)
    by_cases hya : key y = key a
    · simp [hya, hk y hy a ha hya]
    · simp [hya]
  rw [hsub, hl, List.filter_cons_of_pos (by simp)]
  rfl

/-- **A leader is the first one given of the records with its key.** -/
theorem head_of_leader (hk : ∀ x ∈ l, ∀ y ∈ l, key x = key y → ident x = ident y) {x : α}
    (hx : x ∈ leaders ident key l) : (l.filter (fun y => key y = key x)).head? = some x := by
  have hsame : ∀ y ∈ (rank key l).filter (fun y => ident y = ident x), ident y = ident x :=
    fun y hy => by simpa using (List.mem_filter.1 hy).2
  have hmem : x ∈ (leaders ident key l).filter (fun y => ident y = ident x) :=
    List.mem_filter.2 ⟨hx, by simp⟩
  rw [leaders, filter_keepFirst ident (fun i => i = ident x), keepFirst_of_same ident hsame, Option.mem_toList] at hmem
  obtain ⟨rest, hrest⟩ : ∃ rest, (rank key l).filter (fun y => ident y = ident x) = x :: rest := by
    cases hf : (rank key l).filter (fun y => ident y = ident x) with
    | nil => rw [hf] at hmem; cases hmem
    | cons a rest =>
      rw [hf] at hmem
      obtain rfl : a = x := Option.some.inj hmem
      exact ⟨rest, rfl⟩
  have hhead := head_of_identity ident key (fun x hx y hy => hk x ((mem_rank key).1 hx) y ((mem_rank key).1 hy)) hrest
  rwa [filter_rank, rank_of_same key (k := key x) (fun y hy => by simpa using (List.mem_filter.1 hy).2)] at hhead

/-- The keys of the leaders: those that are least for an identity. -/
theorem mem_keys_leaders {k : κ} : k ∈ (leaders ident key l).map key ↔
    ∃ x ∈ l, key x = k ∧ ∀ y ∈ l, ident y = ident x → k ≤ key y := by
  constructor
  · intro h
    obtain ⟨x, hx, rfl⟩ := List.mem_map.1 h
    exact ⟨x, mem_of_mem_leaders ident key hx, rfl, fun y hy he => leader_le ident key hx hy he.symm⟩
  · rintro ⟨x, hx, rfl, hle⟩
    obtain ⟨y, hy, hi, hyx⟩ := exists_leader ident key hx
    have hxy := hle y (mem_of_mem_leaders ident key hy) hi
    exact List.mem_map.2 ⟨y, hy, le_antisymm hyx hxy⟩

theorem sorted_keys_leaders (hk : ∀ x ∈ l, ∀ y ∈ l, key x = key y → ident x = ident y) :
    ((leaders ident key l).map key).Pairwise (· < ·) := by
  rw [List.pairwise_map]
  have hnd := nodup_leaders ident key l
  rw [List.Nodup, List.pairwise_map] at hnd
  have hboth := List.pairwise_and_iff.2 ⟨sorted_leaders ident key l, hnd⟩
  refine hboth.imp_of_mem (fun {x y} hx hy h => lt_of_le_of_ne h.1 (fun he => h.2 ?_))
  exact hk x (mem_of_mem_leaders ident key hx) y (mem_of_mem_leaders ident key hy) he

/-- The keys of the leaders do not depend on the order. -/
theorem keys_leaders_perm (hk : ∀ x ∈ l₁, ∀ y ∈ l₁, key x = key y → ident x = ident y) (hp : l₁.Perm l₂) :
    (leaders ident key l₁).map key = (leaders ident key l₂).map key := by
  have hk₂ : ∀ x ∈ l₂, ∀ y ∈ l₂, key x = key y → ident x = ident y :=
    fun x hx y hy => hk x (hp.mem_iff.2 hx) y (hp.mem_iff.2 hy)
  refine List.Pairwise.eq_of_mem_iff (sorted_keys_leaders ident key hk) (sorted_keys_leaders ident key hk₂) (fun k => ?_)
  simp only [mem_keys_leaders, hp.mem_iff]

/-- **Reordered records are ranked alike when each ranked record comes first of its key in both orders.** -/
theorem ranking_congr (hk : ∀ x ∈ l₁, ∀ y ∈ l₁, key x = key y → ident x = ident y) (hp : l₁.Perm l₂)
    (hh : ∀ x ∈ ranking ident key n l₁,
      (l₁.filter (fun y => key y = key x)).head? = (l₂.filter (fun y => key y = key x)).head?) :
    ranking ident key n l₁ = ranking ident key n l₂ := by
  have hk₂ : ∀ x ∈ l₂, ∀ y ∈ l₂, key x = key y → ident x = ident y :=
    fun x hx y hy => hk x (hp.mem_iff.2 hx) y (hp.mem_iff.2 hy)
  have hkeys := keys_leaders_perm ident key hk hp
  have hlength : (leaders ident key l₁).length = (leaders ident key l₂).length := by
    simpa using congrArg List.length hkeys
  unfold ranking at hh ⊢
  refine List.ext_getElem (by rw [List.length_take, List.length_take, hlength]) (fun i h₁ h₂ => ?_)
  rw [List.getElem_take, List.getElem_take]
  rw [List.length_take] at h₁ h₂
  have hi₁ : i < (leaders ident key l₁).length := by omega
  have hi₂ : i < (leaders ident key l₂).length := by omega
  have hkey : key (leaders ident key l₁)[i] = key (leaders ident key l₂)[i] := by
    have hg := congrArg (fun ks => ks[i]?) hkeys
    simpa [hi₁, hi₂] using hg
  have hx := head_of_leader ident key hk (List.getElem_mem hi₁)
  have hy := head_of_leader ident key hk₂ (List.getElem_mem hi₂)
  have hin : (leaders ident key l₁)[i] ∈ (leaders ident key l₁).take n :=
    List.mem_take_iff_getElem.2 ⟨i, by omega, rfl⟩
  rw [hh _ hin, hkey, hy] at hx
  exact (Option.some.inj hx).symm

theorem ahead_perm (hp : l₁.Perm l₂) (x : α) : (ahead ident key l₁ x).length = (ahead ident key l₂ x).length :=
  (((hp.filter _).map ident).dedup).length_eq

/-- A record that comes first of its key, which is least for its identity and has few enough identities ahead. -/
theorem mem_ranking_of_first (hk : ∀ x ∈ l, ∀ y ∈ l, key x = key y → ident x = ident y) {x : α} (hx : x ∈ l)
    (hfirst : FirstOfKey key l x) (hle : ∀ y ∈ l, ident y = ident x → key x ≤ key y)
    (hahead : (ahead ident key l x).length < n) : x ∈ ranking ident key n l := by
  obtain ⟨y, hy, hi, hyx⟩ := exists_leader ident key hx
  have hkey : key y = key x := le_antisymm hyx (hle y (mem_of_mem_leaders ident key hy) hi)
  have hhead := head_of_leader ident key hk hy
  rw [hkey, hfirst.head] at hhead
  obtain rfl : x = y := Option.some.inj hhead
  exact (mem_ranking_iff ident key n hk hy).2 hahead

end Reordered

/-! ## Two rankings that differ in a few identities -/

/-- What is ranked outside some identities. -/
def outside (excluded : List ι) (l : List α) : List α := l.filter (fun x => ident x ∉ excluded)

theorem length_ranking_le (excluded : List ι) (l : List α) :
    (ranking ident key n l).length ≤ (outside ident excluded (ranking ident key n l)).length + excluded.length := by
  have hnd : ((ranking ident key n l).map ident).Nodup :=
    (nodup_leaders ident key l).sublist ((List.take_sublist n _).map ident)
  have hin : ((ranking ident key n l).filter (fun x => !decide (ident x ∉ excluded))).length ≤ excluded.length := by
    rw [← List.length_map (f := ident)]
    refine (List.subperm_of_subset (hnd.sublist (List.filter_sublist.map ident)) (fun i hi => ?_)).length_le
    obtain ⟨x, hx, rfl⟩ := List.mem_map.1 hi
    simpa using (List.mem_filter.1 hx).2
  have hsum := List.length_eq_length_filter_add (l := ranking ident key n l) (fun x => decide (ident x ∉ excluded))
  rw [outside]
  omega

theorem outside_ranking_initial (excluded : List ι) (l : List α) :
    outside ident excluded (ranking ident key n l) <+: leaders ident key (outside ident excluded l) := by
  have hp := List.take_prefix n (leaders ident key l)
  have h := hp.filter (fun x => decide (ident x ∉ excluded))
  rwa [filter_leaders ident key (fun i => decide (i ∉ excluded))] at h

/-- **A ranking that keeps fewer records outside some identities was cut**, and keeps fewer by at most their number. -/
theorem outside_ranking_shorter {excluded : List ι} {l₁ l₂ : List α}
    (h : outside ident excluded l₁ = outside ident excluded l₂)
    (hlt : (outside ident excluded (ranking ident key n l₁)).length <
      (outside ident excluded (ranking ident key n l₂)).length) :
    (ranking ident key n l₁).length = n ∧
      (outside ident excluded (ranking ident key n l₂)).length ≤
        (outside ident excluded (ranking ident key n l₁)).length + excluded.length := by
  have hle : (outside ident excluded (ranking ident key n l₂)).length ≤ n :=
    le_trans (List.length_filter_le _ _) (List.length_take_le n _)
  have hfull : (ranking ident key n l₁).length = n := by
    rw [ranking, List.length_take]
    by_contra hne
    have hall : ranking ident key n l₁ = leaders ident key l₁ := List.take_of_length_le (by omega)
    have hwhole : outside ident excluded (ranking ident key n l₁) = leaders ident key (outside ident excluded l₁) := by
      rw [hall]
      exact filter_leaders ident key (fun i => decide (i ∉ excluded)) l₁
    have hpre := (outside_ranking_initial ident key n excluded l₂).length_le
    rw [hwhole, h] at hlt
    omega
  have := length_ranking_le ident key n excluded l₁
  exact ⟨hfull, by omega⟩

/-- **Lists that differ only in some identities are ranked alike outside them**, up to what the cut takes. -/
theorem ranked_outside {excluded : List ι} {l₁ l₂ : List α}
    (h : outside ident excluded l₁ = outside ident excluded l₂) :
    outside ident excluded (ranking ident key n l₁) <+: outside ident excluded (ranking ident key n l₂) ∨
      outside ident excluded (ranking ident key n l₂) <+: outside ident excluded (ranking ident key n l₁) := by
  have h₁ := outside_ranking_initial ident key n excluded l₁
  have h₂ := outside_ranking_initial ident key n excluded l₂
  rw [h] at h₁
  exact List.prefix_or_prefix_of_prefix h₁ h₂

end Ranking
end Ranked
