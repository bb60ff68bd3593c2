import Mathlib
/-!
# Tally — computations that may raise and only ever count upwards

A reader of untrusted input either raises or returns, and on its way it bumps counters it never reads.  `Tally ε ω α` is
that: an exception, or a value with the increments made, in order.  Because nothing reads the counters, a value never
depends on what was counted before it; `value` forgets the increments, `Returns` says that nothing was raised, and
`Related` compares two runs that count alike.
-/

/-- An exception of type `ε`, or a value with the increments `ω` made on the way. -/
inductive Tally (ε ω α : Type) where
  | raised (e : ε)
  | returned (a : α) (counted : List ω)
  deriving DecidableEq, Repr

namespace Tally

variable {ε ω α β γ : Type}

def bind (x : Tally ε ω α) (f : α → Tally ε ω β) : Tally ε ω β :=
  match x with
  | .raised e => .raised e
  | .returned a counted => match f a with
    | .raised e => .raised e
    | .returned b counted' => .returned b (counted ++ counted')

instance : Monad (Tally ε ω) where
  pure a := .returned a []
  bind := bind

/-- Count one increment. -/
def count (i : ω) : Tally ε ω Unit := .returned () [i]

/-- A computation that counts nothing. -/
def lift : Except ε α → Tally ε ω α
  | .error e => .raised e
  | .ok a => .returned a []

/-- The value, where nothing was raised. -/
def value : Tally ε ω α → Option α
  | .raised _ => none
  | .returned a _ => some a

/-- Nothing was raised. -/
def Returns (x : Tally ε ω α) : Prop := x.value.isSome

instance (x : Tally ε ω α) : Decidable x.Returns := inferInstanceAs (Decidable (_ = true))

/-- A loop over a list that appends what its body yields: a body that yields `none` is a `continue`. -/
def each (f : α → Tally ε ω (Option β)) : List α → Tally ε ω (List β)
  | [] => return []
  | a :: rest => do
    let b ← f a
    let bs ← each f rest
    return b.toList ++ bs

/-- The first of some alternatives that yields a value. -/
def first (f : α → Tally ε ω (Option β)) : List α → Tally ε ω (Option β)
  | [] => return none
  | a :: rest => do
    match ← f a with
    | some b => return some b
    | none => first f rest

/-! ## The monad's laws and projections -/

theorem bind_def (x : Tally ε ω α) (f : α → Tally ε ω β) : x >>= f = x.bind f := rfl
theorem pure_def (a : α) : (Pure.pure a : Tally ε ω α) = .returned a [] := rfl

@[simp] theorem raised_bind (e : ε) (f : α → Tally ε ω β) : (.raised e : Tally ε ω α) >>= f = .raised e := rfl

instance : LawfulMonad (Tally ε ω) := LawfulMonad.mk' (Tally ε ω)
  (fun x => by
    rcases x with e | ⟨a, w⟩
    · rfl
    · show Tally.returned a (w ++ []) = _
      rw [List.append_nil])
  (fun a f => by
    rw [bind_def, pure_def, bind]
    cases f a <;> rfl)
  (fun x f g => by
    rcases x with e | ⟨a, w⟩
    · rfl
    · simp only [bind_def, bind]
      rcases f a with e | ⟨b, w'⟩
      · rfl
      · simp only
        rcases g b with e | ⟨c, w''⟩
        · rfl
        · simp [List.append_assoc])

@[simp] theorem value_raised (e : ε) : (.raised e : Tally ε ω α).value = none := rfl
@[simp] theorem value_returned (a : α) (w : List ω) : (.returned a w : Tally ε ω α).value = some a := rfl
@[simp] theorem value_pure (a : α) : (Pure.pure a : Tally ε ω α).value = some a := rfl
@[simp] theorem value_count (i : ω) : (count i : Tally ε ω Unit).value = some () := rfl

@[simp] theorem value_bind (x : Tally ε ω α) (f : α → Tally ε ω β) :
    (x >>= f).value = x.value.bind (fun a => (f a).value) := by
  rcases x with e | ⟨a, w⟩
  · rfl
  · rw [bind_def, bind, value_returned, Option.bind_some]
    cases f a <;> rfl

@[simp] theorem value_map (f : α → β) (x : Tally ε ω α) : (f <$> x).value = x.value.map f := by
  rw [map_eq_pure_bind, value_bind]
  cases x.value <;> rfl

@[simp] theorem value_lift (x : Except ε α) : (lift x : Tally ε ω α).value = x.toOption := by
  cases x <;> rfl

theorem lift_ok (a : α) : (lift (.ok a) : Tally ε ω α) = Pure.pure a := rfl

theorem exists_returned_of_value {x : Tally ε ω α} {a : α} (h : x.value = some a) : ∃ w, x = .returned a w := by
  rcases x with e | ⟨b, w⟩
  · cases h
  · simp only [value_returned, Option.some.injEq] at h
    exact ⟨w, by rw [h]⟩

@[simp] theorem returns_pure (a : α) : (Pure.pure a : Tally ε ω α).Returns := rfl
@[simp] theorem returns_count (i : ω) : (count i : Tally ε ω Unit).Returns := rfl

theorem returns_lift (x : Except ε α) : (lift x : Tally ε ω α).Returns ↔ x.isOk = true := by
  cases x <;> simp [lift, Returns, Except.isOk, Except.toBool]

theorem returns_iff {x : Tally ε ω α} : x.Returns ↔ ∃ a, x.value = some a := Option.isSome_iff_exists

theorem returns_bind (x : Tally ε ω α) (f : α → Tally ε ω β) :
    (x >>= f).Returns ↔ ∃ a, x.value = some a ∧ (f a).Returns := by
  unfold Returns
  rw [value_bind]
  cases x.value <;> simp

theorem returns_lift_bind (x : Except ε α) (f : α → Tally ε ω β) :
    (lift x >>= f).Returns ↔ ∃ a, x = .ok a ∧ (f a).Returns := by
  rw [returns_bind, value_lift]
  cases x <;> simp [Except.toOption]

theorem Returns.bind {x : Tally ε ω α} {f : α → Tally ε ω β} (h : x.Returns) (hf : ∀ a, (f a).Returns) :
    (x >>= f).Returns := by
  obtain ⟨a, ha⟩ := returns_iff.1 h
  exact (returns_bind x f).2 ⟨a, ha, hf a⟩

/-- The rest of a computation whose returning does not depend on the value before it. -/
theorem returns_bind_of {x : Tally ε ω α} {f : α → Tally ε ω β} {P : Prop} (h : ∀ a, (f a).Returns ↔ P) :
    (x >>= f).Returns ↔ x.Returns ∧ P := by
  rw [returns_bind, returns_iff]
  simp only [h, exists_and_right]

/-! ## Postconditions -/

/-- Where the computation returns, its value satisfies `P`. -/
def Ensures (x : Tally ε ω α) (P : α → Prop) : Prop := ∀ a, x.value = some a → P a

theorem Ensures.pure {P : α → Prop} {a : α} (h : P a) : (Pure.pure a : Tally ε ω α).Ensures P := by
  rintro b hb
  cases hb
  exact h

theorem Ensures.of_value {x : Tally ε ω α} {P : α → Prop} {a : α} (h : x.value = some a) (ha : P a) : x.Ensures P := by
  intro b hb
  rw [h, Option.some.injEq] at hb
  exact hb ▸ ha

theorem Ensures.lift (x : Except ε α) : (lift x : Tally ε ω α).Ensures (fun a => x = .ok a) := by
  intro a h
  cases x with
  | error e => cases h
  | ok b =>
    cases h
    rfl

theorem Ensures.bind {x : Tally ε ω α} {f : α → Tally ε ω β} {P : α → Prop} {Q : β → Prop} (h : x.Ensures P)
    (hf : ∀ a, P a → (f a).Ensures Q) : (x >>= f).Ensures Q := by
  intro b hb
  rw [value_bind, Option.bind_eq_some_iff] at hb
  obtain ⟨a, ha, hb⟩ := hb
  exact hf a (h a ha) b hb

/-- A step whose value the postcondition does not depend on. -/
theorem Ensures.next {x : Tally ε ω α} {f : α → Tally ε ω β} {Q : β → Prop} (hf : ∀ a, (f a).Ensures Q) :
    (x >>= f).Ensures Q :=
  Ensures.bind (P := fun _ => True) (fun _ _ => trivial) (fun a _ => hf a)

/-- The rest of a computation whose returning depends only on what the step before it ensures. -/
theorem Ensures.returns_bind {x : Tally ε ω α} {f : α → Tally ε ω β} {P : α → Prop} {Q : Prop} (h : x.Ensures P)
    (hf : ∀ a, P a → ((f a).Returns ↔ Q)) : (x >>= f).Returns ↔ x.Returns ∧ Q := by
  rw [Tally.returns_bind, returns_iff]
  constructor
  · rintro ⟨a, ha, hr⟩
    exact ⟨⟨a, ha⟩, (hf a (h a ha)).1 hr⟩
  · rintro ⟨⟨a, ha⟩, hq⟩
    exact ⟨a, ha, (hf a (h a ha)).2 hq⟩

/-! ## Loops -/

theorem each_cons (f : α → Tally ε ω (Option β)) (a : α) (rest : List α) :
    each f (a :: rest) = (do let b ← f a; let bs ← each f rest; return b.toList ++ bs) := rfl

/-- **A loop returns exactly when its body returns at every element.** -/
theorem returns_each (f : α → Tally ε ω (Option β)) : ∀ (l : List α),
    (each f l).Returns ↔ ∀ a ∈ l, (f a).Returns
  | [] => by simp [each]
  | a :: rest => by
    have hrest : ∀ b : Option β, (do let bs ← each f rest; return b.toList ++ bs : Tally ε ω (List β)).Returns ↔
        (each f rest).Returns := fun b => by
      rw [returns_bind_of (fun bs => iff_true_intro (returns_pure _)), and_true]
    rw [each_cons, returns_bind_of hrest, returns_each f rest, List.forall_mem_cons]

/-- **What a loop that returns has gathered**: what its body yields at each element, in order. -/
theorem value_each (f : α → Tally ε ω (Option β)) : ∀ (l : List α) (bs : List β),
    (each f l).value = some bs → bs = l.filterMap (fun a => (f a).value.join)
  | [], bs, h => by
    simp only [each, value_pure, Option.some.injEq] at h
    exact h.symm
  | a :: rest, bs, h => by
    rw [each_cons] at h
    simp only [value_bind, Option.bind_eq_some_iff, value_pure, Option.some.injEq] at h
    obtain ⟨b, hb, bs', hbs', rfl⟩ := h
    rw [List.filterMap_cons, hb, value_each f rest bs' hbs']
    cases b <;> rfl

/-- **The first alternative returns** when every alternative read before one yields does. -/
theorem returns_first_cons (f : α → Tally ε ω (Option β)) (a : α) (rest : List α) :
    (first f (a :: rest)).Returns ↔ (f a).Returns ∧ ((f a).value = some none → (first f rest).Returns) := by
  rw [first, returns_bind, returns_iff]
  constructor
  · rintro ⟨b, hb, h⟩
    refine ⟨⟨b, hb⟩, fun hn => ?_⟩
    rw [hb, Option.some.injEq] at hn
    subst hn
    exact h
  · rintro ⟨⟨b, hb⟩, h⟩
    refine ⟨b, hb, ?_⟩
    cases b with
    | none => exact h hb
    | some b => exact returns_pure _

@[simp] theorem returns_first_nil (f : α → Tally ε ω (Option β)) : (first f []).Returns := rfl

/-- Alternatives, of which each one up to the first that yields is safe. -/
def FirstSafe (safe yields : α → Prop) : List α → Prop
  | [] => True
  | a :: rest => safe a ∧ (¬ yields a → FirstSafe safe yields rest)

section FirstSafe
variable {f : α → Tally ε ω (Option β)} {safe yields : α → Prop} (hs : ∀ a, (f a).Returns ↔ safe a)
  (hy : ∀ a, safe a → ((f a).value = some none ↔ ¬ yields a))
include hs hy

/-- **The first alternative returns** exactly when the alternatives it reads are safe. -/
theorem returns_first_iff : ∀ (l : List α), (first f l).Returns ↔ FirstSafe safe yields l
  | [] => iff_of_true (returns_first_nil f) trivial
  | a :: rest => by
    rw [returns_first_cons, hs, FirstSafe, returns_first_iff rest]
    refine and_congr_right (fun h => ?_)
    rw [hy a h]

/-- It yields nothing exactly when no alternative does. -/
theorem value_first_none : ∀ {l : List α}, (first f l).Returns → ((first f l).value = some none ↔ ∀ a ∈ l, ¬ yields a)
  | [], _ => by simp [first]
  | a :: rest, h => by
    rw [returns_first_cons, hs] at h
    obtain ⟨b, hb⟩ := returns_iff.1 ((hs a).2 h.1)
    have hya := hy a h.1
    rw [first, value_bind, hb, Option.bind_some, List.forall_mem_cons, ← hya, hb]
    cases b with
    | none => simpa using value_first_none (h.2 hb)
    | some b => simp

end FirstSafe

/-- The first alternative's value where no alternative raises. -/
theorem value_first_of {f : α → Tally ε ω (Option β)} {g : α → Option β} (h : ∀ a, (f a).value = some (g a)) :
    ∀ (l : List α), (first f l).value = some (l.findSome? g)
  | [] => rfl
  | a :: rest => by
    rw [first, value_bind, h, Option.bind_some, List.findSome?_cons]
    cases g a with
    | none => exact value_first_of h rest
    | some b => rfl

/-- A loop whose body's value is known gathers what it yields. -/
theorem Ensures.each {f : α → Tally ε ω (Option β)} {g : α → Option β} (h : ∀ a, (f a).Ensures (· = g a)) :
    ∀ (l : List α), (Tally.each f l).Ensures (· = l.filterMap g)
  | [] => .pure rfl
  | a :: rest => by
    rw [each_cons]
    refine .bind (h a) ?_
    rintro _ rfl
    refine .bind (Ensures.each h rest) ?_
    rintro _ rfl
    refine .pure ?_
    rw [List.filterMap_cons]
    cases g a <;> rfl

theorem Ensures.first {f : α → Tally ε ω (Option β)} {g : α → Option β} (h : ∀ a, (f a).Ensures (· = g a)) :
    ∀ (l : List α), (Tally.first f l).Ensures (· = l.findSome? g)
  | [] => .pure rfl
  | a :: rest => by
    rw [Tally.first]
    refine .bind (h a) ?_
    rintro _ rfl
    rw [List.findSome?_cons]
    cases g a with
    | none => exact Ensures.first h rest
    | some b => exact .pure rfl

/-- A loop that yields exactly at the elements with `p` gathers one value for each of these, in order. -/
theorem Ensures.each_forall₂ {f : α → Tally ε ω (Option β)} {p : α → Bool} {R : α → β → Prop} :
    ∀ {l : List α}, (∀ a ∈ l, p a = true → (f a).Ensures (fun b => ∃ v, b = some v ∧ R a v)) →
      (∀ a ∈ l, p a = false → (f a).Ensures (· = none)) → (Tally.each f l).Ensures (List.Forall₂ R (l.filter p))
  | [], _, _ => .pure .nil
  | a :: rest, hs, hn => by
    rw [List.forall_mem_cons] at hs hn
    rw [each_cons]
    cases hp : p a with
    | true =>
      rw [List.filter_cons_of_pos hp]
      refine .bind (hs.1 hp) ?_
      rintro _ ⟨v, rfl, hv⟩
      refine .bind (Ensures.each_forall₂ hs.2 hn.2) (fun bs hbs => .pure ?_)
      exact .cons hv hbs
    | false =>
      rw [List.filter_cons_of_neg (by simp [hp])]
      refine .bind (hn.1 hp) ?_
      rintro _ rfl
      exact .bind (Ensures.each_forall₂ hs.2 hn.2) (fun bs hbs => .pure hbs)

/-! ## Two runs that count alike -/

/-- Both raise the same exception, or both return, with the same increments and related values. -/
inductive Related (R : α → β → Prop) : Tally ε ω α → Tally ε ω β → Prop where
  | raised (e : ε) : Related R (.raised e) (.raised e)
  | returned {a : α} {b : β} (counted : List ω) (h : R a b) : Related R (.returned a counted) (.returned b counted)

theorem Related.pure {R : α → β → Prop} {a : α} {b : β} (h : R a b) :
    Related R (Pure.pure a : Tally ε ω α) (Pure.pure b) := .returned [] h

theorem Related.refl (x : Tally ε ω α) : Related Eq x x := by
  cases x with
  | raised e => exact .raised e
  | returned a w => exact .returned w rfl

theorem Related.of_eq {x y : Tally ε ω α} (h : x = y) : Related Eq x y := h ▸ Related.refl x

/-- **Related runs go on related.** -/
theorem Related.bind {R : α → β → Prop} {α' β' : Type} {S : α' → β' → Prop} {x : Tally ε ω α} {y : Tally ε ω β}
    {f : α → Tally ε ω α'} {g : β → Tally ε ω β'} (h : Related R x y) (hf : ∀ a b, R a b → Related S (f a) (g b)) :
    Related S (x >>= f) (y >>= g) := by
  cases h with
  | raised e => exact .raised e
  | returned w hab =>
    rename_i a b
    have hs := hf a b hab
    rw [bind_def, bind_def, Tally.bind, Tally.bind]
    generalize f a = u at hs
    generalize g b = v at hs
    cases hs with
    | raised e => exact .raised e
    | returned w' hcd => exact .returned (w ++ w') hcd

/-- **Runs related by equality are one run.** -/
theorem Related.eq {x y : Tally ε ω α} (h : Related Eq x y) : x = y := by
  cases h with
  | raised e => rfl
  | returned w hab => rw [hab]

theorem Related.each {f g : α → Tally ε ω (Option β)} : ∀ {l : List α}, (∀ a ∈ l, Related Eq (f a) (g a)) →
    Related Eq (Tally.each f l) (Tally.each g l)
  | [], _ => Related.pure rfl
  | a :: rest, h => by
    rw [each_cons, each_cons]
    refine Related.bind (h a List.mem_cons_self) ?_
    rintro b _ rfl
    refine Related.bind (Related.each (fun x hx => h x (List.mem_cons_of_mem _ hx))) ?_
    rintro bs _ rfl
    exact Related.pure rfl

theorem Related.first {R : β → γ → Prop} {f : α → Tally ε ω (Option β)} {g : α → Tally ε ω (Option γ)} :
    ∀ {l : List α}, (∀ a ∈ l, Related (Option.Rel R) (f a) (g a)) →
      Related (Option.Rel R) (Tally.first f l) (Tally.first g l)
  | [], _ => Related.pure .none
  | a :: rest, h => by
    rw [Tally.first, Tally.first]
    refine Related.bind (h a List.mem_cons_self) ?_
    intro b c hbc
    cases hbc with
    | none => exact Related.first (fun x hx => h x (List.mem_cons_of_mem _ hx))
    | some hbc => exact Related.pure (.some hbc)

/-- Loops whose bodies are related at each element gather related lists. -/
theorem Related.each₂ {R : β → γ → Prop} {f : α → Tally ε ω (Option β)} {g : α → Tally ε ω (Option γ)} :
    ∀ {l : List α}, (∀ a ∈ l, Related (Option.Rel R) (f a) (g a)) →
      Related (List.Forall₂ R) (Tally.each f l) (Tally.each g l)
  | [], _ => Related.pure .nil
  | a :: rest, h => by
    rw [each_cons, each_cons]
    refine Related.bind (h a List.mem_cons_self) (fun b c hbc => ?_)
    refine Related.bind (Related.each₂ (fun x hx => h x (List.mem_cons_of_mem _ hx))) (fun bs cs hbcs => ?_)
    cases hbc with
    | none => exact Related.pure hbcs
    | some hbc => exact Related.pure (.cons hbc hbcs)

theorem Related.mono {R S : α → β → Prop} {x : Tally ε ω α} {y : Tally ε ω β} (h : Related R x y)
    (hs : ∀ a b, R a b → S a b) : Related S x y := by
  cases h with
  | raised e => exact .raised e
  | returned w hab => exact .returned w (hs _ _ hab)

theorem Related.join {R : α → β → Prop} {x : Tally ε ω (Option α)} {y : Tally ε ω (Option β)}
    (h : Related (Option.Rel R) x y) : Option.Rel R x.value.join y.value.join := by
  cases h with
  | raised e => exact .none
  | returned w h => exact h

/-! ## How much is counted -/

section Counts
variable (quiet : ω → Prop) (p : ω → Bool)

/-- A run that makes only quiet increments makes so many of one kind. -/
def Counts (x : Tally ε ω α) (n : Nat) : Prop :=
  ∀ a w, x = .returned a w → (∀ i ∈ w, quiet i) → w.countP p = n

variable {quiet p}

theorem Counts.pure (a : α) : (Pure.pure a : Tally ε ω α).Counts quiet p 0 := by
  rintro _ _ h -
  cases h
  rfl

theorem Counts.count (i : ω) : (count i : Tally ε ω Unit).Counts quiet p (if p i then 1 else 0) := by
  rintro _ _ h -
  cases h
  exact List.countP_singleton

/-- What makes a loud increment counts as one likes. -/
theorem Counts.loud {i : ω} (h : ¬ quiet i) (n : Nat) : (Tally.count i : Tally ε ω Unit).Counts quiet p n := by
  rintro _ _ he hq
  cases he
  exact absurd (hq i List.mem_cons_self) h

theorem Counts.lift (x : Except ε α) : (lift x : Tally ε ω α).Counts quiet p 0 := by
  rintro a w h -
  cases x with
  | error e => cases h
  | ok a =>
    cases h
    rfl

/-- **Counts add up.** -/
theorem Counts.bind {x : Tally ε ω α} {f : α → Tally ε ω β} {m n : Nat} (h : x.Counts quiet p m)
    (hf : ∀ a, x.value = some a → (f a).Counts quiet p n) : (x >>= f).Counts quiet p (m + n) := by
  rcases x with e | ⟨a, w⟩
  · intro b w' he
    cases he
  · intro b w' he hq
    rw [bind_def, Tally.bind] at he
    cases hfa : f a with
    | raised e =>
      rw [hfa] at he
      cases he
    | returned b' w'' =>
      rw [hfa] at he
      cases he
      rw [List.countP_append, h a w rfl (fun i hi => hq i (List.mem_append_left _ hi)),
        hf a rfl b w'' hfa (fun i hi => hq i (List.mem_append_right _ hi))]

theorem Counts.each {f : α → Tally ε ω (Option β)} {n : α → Nat} : ∀ {l : List α},
    (∀ a ∈ l, (f a).Counts quiet p (n a)) → (each f l).Counts quiet p (l.map n).sum
  | [], _ => .pure _
  | a :: rest, h => by
    have hrest := Counts.each (l := rest) (fun b hb => h b (List.mem_cons_of_mem a hb))
    rw [List.map_cons, List.sum_cons, ← Nat.add_zero (rest.map n).sum]
    exact (h a List.mem_cons_self).bind (fun _ _ => hrest.bind (fun _ _ => .pure _))

theorem Counts.first {f : α → Tally ε ω (Option β)} : ∀ {l : List α},
    (∀ a ∈ l, (f a).Counts quiet p 0) → (first f l).Counts quiet p 0
  | [], _ => .pure _
  | a :: rest, h => by
    refine (h a List.mem_cons_self).bind (n := 0) (fun b _ => ?_)
    cases b with
    | some b => exact .pure _
    | none => exact Counts.first (fun b hb => h b (List.mem_cons_of_mem a hb))

end Counts

/-! ## Two runs that count the same in another order -/

/-- Both raise, or both return, with the same increments in some order and related values. -/
def Shuffled (R : α → β → Prop) : Tally ε ω α → Tally ε ω β → Prop
  | .raised _, .raised _ => True
  | .returned a counted, .returned b counted' => R a b ∧ counted.Perm counted'
  | _, _ => False

theorem Shuffled.pure {R : α → β → Prop} {a : α} {b : β} (h : R a b) :
    Shuffled R (Pure.pure a : Tally ε ω α) (Pure.pure b) := ⟨h, List.Perm.refl _⟩

theorem Shuffled.of_eq {x y : Tally ε ω α} (h : x = y) : Shuffled Eq x y := by
  subst h
  cases x with
  | raised e => trivial
  | returned a w => exact ⟨rfl, List.Perm.refl _⟩

/-- **Shuffled runs go on shuffled.** -/
theorem Shuffled.bind {R : α → β → Prop} {α' β' : Type} {S : α' → β' → Prop} {x : Tally ε ω α} {y : Tally ε ω β}
    {f : α → Tally ε ω α'} {g : β → Tally ε ω β'} (h : Shuffled R x y) (hf : ∀ a b, R a b → Shuffled S (f a) (g b)) :
    Shuffled S (x >>= f) (y >>= g) := by
  cases x with
  | raised e =>
    cases y with
    | raised e' => trivial
    | returned b w' => exact h.elim
  | returned a w =>
    cases y with
    | raised e' => exact h.elim
    | returned b w' =>
      have hs := hf a b h.1
      rw [bind_def, bind_def, Tally.bind, Tally.bind]
      cases hu : f a with
      | raised e =>
        cases hv : g b with
        | raised e' => trivial
        | returned d v => rw [hu, hv] at hs; exact hs.elim
      | returned c u =>
        cases hv : g b with
        | raised e' => rw [hu, hv] at hs; exact hs.elim
        | returned d v =>
          rw [hu, hv] at hs
          exact ⟨hs.1, h.2.append hs.2⟩

/-- One run before two that are shuffled. -/
theorem Shuffled.after {R : β → γ → Prop} {x y : Tally ε ω α} (h : Shuffled Eq x y) {f : α → Tally ε ω β}
    {g : α → Tally ε ω γ} (hf : ∀ a, Shuffled R (f a) (g a)) : Shuffled R (x >>= f) (y >>= g) :=
  h.bind (fun a _ hab => hab ▸ hf a)

theorem Shuffled.mono {R S : α → β → Prop} {x : Tally ε ω α} {y : Tally ε ω β} (h : Shuffled R x y)
    (hs : ∀ a b, R a b → S a b) : Shuffled S x y := by
  cases x with
  | raised e =>
    cases y with
    | raised e' => trivial
    | returned b w' => exact h.elim
  | returned a w =>
    cases y with
    | raised e' => exact h.elim
    | returned b w' => exact ⟨hs a b h.1, h.2⟩

theorem Shuffled.symm {R : α → β → Prop} {x : Tally ε ω α} {y : Tally ε ω β} (h : Shuffled R x y) :
    Shuffled (fun b a => R a b) y x := by
  cases x with
  | raised e =>
    cases y with
    | raised e' => trivial
    | returned b w' => exact h.elim
  | returned a w =>
    cases y with
    | raised e' => exact h.elim
    | returned b w' => exact ⟨h.1, h.2.symm⟩

theorem Shuffled.trans {R : α → β → Prop} {S : β → γ → Prop} {x : Tally ε ω α} {y : Tally ε ω β} {z : Tally ε ω γ}
    (h : Shuffled R x y) (h' : Shuffled S y z) : Shuffled (fun a c => ∃ b, R a b ∧ S b c) x z := by
  cases x with
  | raised e =>
    cases y with
    | raised e' => cases z with
      | raised e'' => trivial
      | returned c w'' => exact h'.elim
    | returned b w' => exact h.elim
  | returned a w =>
    cases y with
    | raised e' => exact h.elim
    | returned b w' => cases z with
      | raised e'' => exact h'.elim
      | returned c w'' => exact ⟨⟨b, h.1, h'.1⟩, h.2.trans h'.2⟩

theorem Shuffled.value_related {R : α → β → Prop} {x : Tally ε ω α} {y : Tally ε ω β} (h : Shuffled R x y) :
    Option.Rel R x.value y.value := by
  cases x with
  | raised e =>
    cases y with
    | raised e' => exact .none
    | returned b w' => exact h.elim
  | returned a w =>
    cases y with
    | raised e' => exact h.elim
    | returned b w' => exact .some h.1

/-- What each run ensures on its own may be used of both. -/
theorem Shuffled.ensures {R : α → β → Prop} {P : α → Prop} {Q : β → Prop} {x : Tally ε ω α} {y : Tally ε ω β}
    (h : Shuffled R x y) (hx : x.Ensures P) (hy : y.Ensures Q) : Shuffled (fun a b => R a b ∧ P a ∧ Q b) x y := by
  cases x with
  | raised e =>
    cases y with
    | raised e' => trivial
    | returned b w' => exact h.elim
  | returned a w =>
    cases y with
    | raised e' => exact h.elim
    | returned b w' => exact ⟨⟨h.1, hx a rfl, hy b rfl⟩, h.2⟩

/-- **A loop over the same elements in another order** gathers the same results in another order. -/
theorem Shuffled.each_perm (f : α → Tally ε ω (Option β)) {l₁ l₂ : List α} (hp : l₁.Perm l₂) :
    Shuffled List.Perm (each f l₁) (each f l₂) := by
  induction hp with
  | nil => exact .pure (List.Perm.refl _)
  | cons a hp ih =>
    rw [each_cons, each_cons]
    exact Shuffled.after (.of_eq rfl) (fun b => ih.bind (fun bs cs h => .pure (h.append_left _)))
  | swap a b l =>
    rw [each_cons, each_cons, each_cons, each_cons]
    cases ha : f a with
    | raised e => cases f b <;> trivial
    | returned ra wa =>
      cases hb : f b with
      | raised e => trivial
      | returned rb wb =>
        cases hl : each f l with
        | raised e => trivial
        | returned bs w =>
          refine ⟨List.perm_append_comm_assoc _ _ _, ?_⟩
          show (wb ++ (wa ++ (w ++ []) ++ [])).Perm (wa ++ (wb ++ (w ++ []) ++ []))
          rw [List.append_nil, List.append_nil, List.append_nil]
          exact List.perm_append_comm_assoc _ _ _
  | trans h h' ih ih' => exact (ih.trans ih').mono (fun _ _ ⟨_, h, h'⟩ => h.trans h')

/-- Loops whose bodies are shuffled at each element gather related lists. -/
theorem Shuffled.each {R : β → γ → Prop} {f : α → Tally ε ω (Option β)} {g : α → Tally ε ω (Option γ)} :
    ∀ {l : List α}, (∀ a ∈ l, Shuffled (Option.Rel R) (f a) (g a)) →
      Shuffled (List.Forall₂ R) (Tally.each f l) (Tally.each g l)
  | [], _ => .pure .nil
  | a :: rest, h => by
    rw [each_cons, each_cons]
    refine (h a List.mem_cons_self).bind (fun b c hbc => ?_)
    refine (Shuffled.each (fun x hx => h x (List.mem_cons_of_mem _ hx))).bind (fun bs cs hbcs => ?_)
    cases hbc with
    | none => exact .pure hbcs
    | some hbc => exact .pure (.cons hbc hbcs)

theorem each_map (g : γ → α) (f : α → Tally ε ω (Option β)) : ∀ (l : List γ),
    each f (l.map g) = each (fun c => f (g c)) l
  | [] => rfl
  | c :: rest => by rw [List.map_cons, each_cons, each_cons, each_map g f rest]

end Tally
