import Mathlib.Logic.Function.Basic
/-!
# Interleaving — programs over a shared state

A program is a tree of atomic actions (`Thread`): it runs alone, or in a pool where a schedule says which thread acts
next.  What a thread may expect of the others is a relation that each of their actions keeps (`Obeys`); a program is
verified against it action by action (`Meets`), with one rule for each construct.  `Pool.meets_run` brings the two
together along every schedule.
-/

/-- Each action is atomic; what follows it depends on the state that it met. -/
inductive Thread (ε σ α : Type) where
  | done (a : α)
  | raise (e : ε)
  | act (f : σ → σ) (next : σ → Thread ε σ α)

namespace Thread
variable {ε σ α β : Type}

protected def bind : Thread ε σ α → (α → Thread ε σ β) → Thread ε σ β
  | done a, k => k a
  | raise e, _ => raise e
  | act f next, k => act f (fun s => (next s).bind k)

instance : Monad (Thread ε σ) where
  pure := done
  bind := Thread.bind

/-- What is raised goes to the handler. -/
def handle : Thread ε σ α → (ε → Thread ε σ α) → Thread ε σ α
  | done a, _ => done a
  | raise e, h => h e
  | act f next, h => act f (fun s => (next s).handle h)

def ofExcept : Except ε α → Thread ε σ α
  | .ok a => done a
  | .error e => raise e

/-- One action that gives a result or raises. -/
def atomic (f : σ → Except ε α × σ) : Thread ε σ α := act (fun s => (f s).2) (fun s => ofExcept (f s).1)

def get (view : σ → α) : Thread ε σ α := act id (fun s => done (view s))

def update (f : σ → σ) : Thread ε σ Unit := act f (fun _ => done ())

/-- The program has come to its result. -/
def returned : Thread ε σ α → Bool
  | done _ => true
  | _ => false

theorem eq_done_of_returned {x : Thread ε σ Unit} (h : x.returned = true) : x = done () := by
  cases x with
  | done a => rfl
  | raise e => cases h
  | act f next => cases h

/-! ## Alone -/

def alone : Thread ε σ α → σ → Except ε α × σ
  | done a, s => (.ok a, s)
  | raise e, s => (.error e, s)
  | act f next, s => (next s).alone (f s)

section Alone
variable (s : σ)

theorem alone_pure (a : α) : (pure a : Thread ε σ α).alone s = (.ok a, s) := rfl

theorem alone_bind (x : Thread ε σ α) (k : α → Thread ε σ β) : (x >>= k).alone s =
    match x.alone s with
    | (.ok a, s') => (k a).alone s'
    | (.error e, s') => (.error e, s') := by
  induction x generalizing s with
  | done a => rfl
  | raise e => rfl
  | act f next ih => exact ih s (f s)

theorem alone_handle (x : Thread ε σ α) (h : ε → Thread ε σ α) : (x.handle h).alone s =
    match x.alone s with
    | (.ok a, s') => (.ok a, s')
    | (.error e, s') => (h e).alone s' := by
  induction x generalizing s with
  | done a => rfl
  | raise e => rfl
  | act f next ih => exact ih s (f s)

theorem alone_ofExcept (x : Except ε α) : (ofExcept x : Thread ε σ α).alone s = (x, s) := by
  cases x <;> rfl

theorem alone_atomic (f : σ → Except ε α × σ) : (atomic f).alone s = f s := alone_ofExcept _ _

theorem alone_get (view : σ → α) : (get view : Thread ε σ α).alone s = (.ok (view s), s) := rfl

theorem alone_update (f : σ → σ) : (update f : Thread ε σ Unit).alone s = (.ok (), f s) := rfl

/-- A program that runs alone keeps an invariant. -/
def Keeps (inv : σ → Prop) (x : Thread ε σ α) : Prop := ∀ s, inv s → inv (x.alone s).2

section Keeps
variable {inv : σ → Prop} {x : Thread ε σ α}

theorem keeps_pure (a : α) : (pure a : Thread ε σ α).Keeps inv := fun _ h => h

theorem keeps_update {f : σ → σ} (hf : ∀ s, inv s → inv (f s)) : (update f : Thread ε σ Unit).Keeps inv := hf

/-- What follows keeps the invariant from where the program leaves it. -/
theorem alone_bind_keeps {k : α → Thread ε σ β} {s : σ} (hs : inv (x.alone s).2) (hk : ∀ a, (k a).Keeps inv) :
    inv ((x >>= k).alone s).2 := by
  rw [alone_bind]
  rcases hr : x.alone s with ⟨_ | a, s'⟩
  · rw [hr] at hs
    exact hs
  · rw [hr] at hs
    exact hk a s' hs

theorem Keeps.bind {k : α → Thread ε σ β} (hx : x.Keeps inv) (hk : ∀ a, (k a).Keeps inv) : (x >>= k).Keeps inv :=
  fun s h => alone_bind_keeps (hx s h) hk

theorem Keeps.handle {handler : ε → Thread ε σ α} (hx : x.Keeps inv) (hh : ∀ e, (handler e).Keeps inv) :
    (x.handle handler).Keeps inv := by
  intro s h
  have hs := hx s h
  rw [alone_handle]
  rcases hr : x.alone s with ⟨e | _, s'⟩
  · rw [hr] at hs
    exact hh e s' hs
  · rw [hr] at hs
    exact hs

end Keeps

end Alone

/-! ## What a program's actions keep -/

/-- Every action of the program keeps a relation. -/
def Obeys (rel : σ → σ → Prop) : Thread ε σ α → Prop
  | done _ => True
  | raise _ => True
  | act f next => ∀ s, rel s (f s) ∧ (next s).Obeys rel

section Obeys
variable {rel : σ → σ → Prop}

theorem obeys_pure (a : α) : (pure a : Thread ε σ α).Obeys rel := trivial

theorem obeys_ofExcept : ∀ x : Except ε α, (ofExcept x : Thread ε σ α).Obeys rel
  | .ok _ => trivial
  | .error _ => trivial

theorem obeys_atomic {f : σ → Except ε α × σ} (h : ∀ s, rel s (f s).2) : (atomic f).Obeys rel :=
  fun s => ⟨h s, obeys_ofExcept _⟩

theorem obeys_get (hrefl : ∀ s, rel s s) (view : σ → α) : (get view : Thread ε σ α).Obeys rel :=
  fun s => ⟨hrefl s, trivial⟩

theorem obeys_update {f : σ → σ} (h : ∀ s, rel s (f s)) : (update f : Thread ε σ Unit).Obeys rel :=
  fun s => ⟨h s, trivial⟩

theorem Obeys.bind {x : Thread ε σ α} {k : α → Thread ε σ β} (hx : x.Obeys rel) (hk : ∀ a, (k a).Obeys rel) :
    (x >>= k).Obeys rel := by
  induction x with
  | done a => exact hk a
  | raise e => trivial
  | act f next ih => exact fun s => ⟨(hx s).1, ih s (hx s).2⟩

theorem Obeys.handle {x : Thread ε σ α} {h : ε → Thread ε σ α} (hx : x.Obeys rel) (hh : ∀ e, (h e).Obeys rel) :
    (x.handle h).Obeys rel := by
  induction x with
  | done a => trivial
  | raise e => exact hh e
  | act f next ih => exact fun s => ⟨(hx s).1, ih s (hx s).2⟩

/-- A program that runs alone keeps what its actions keep. -/
theorem Obeys.alone (hrefl : ∀ s, rel s s) (htrans : ∀ s t u, rel s t → rel t u → rel s u) {x : Thread ε σ α}
    (h : x.Obeys rel) (s : σ) : rel s (x.alone s).2 := by
  induction x generalizing s with
  | done a => exact hrefl s
  | raise e => exact hrefl s
  | act f next ih => exact htrans _ _ _ (h s).1 (ih s (h s).2 (f s))

end Obeys

/-! ## What a program meets among others -/

/-- From a state that it has left, the others moving within a relation between its actions and each of these taken in a
good state, the program ends in what is said of its result or of what it raises. -/
def Meets (rely : σ → σ → Prop) (good : σ → Prop) (post : α → σ → Prop) (err : ε → σ → Prop) :
    Thread ε σ α → σ → Prop
  | done a, s => post a s
  | raise e, s => err e s
  | act f next, s => ∀ s', rely s s' → good s' → (next s').Meets rely good post err (f s')

section Meets
variable {rely : σ → σ → Prop} {good : σ → Prop} {post : α → σ → Prop} {err : ε → σ → Prop} {s : σ}

theorem meets_atomic {f : σ → Except ε α × σ}
    (h : ∀ s', rely s s' → good s' → (ofExcept (f s').1 : Thread ε σ α).Meets rely good post err (f s').2) :
    (atomic f).Meets rely good post err s := h

theorem meets_get {view : σ → α} (h : ∀ s', rely s s' → good s' → post (view s') s') :
    (get view : Thread ε σ α).Meets rely good post err s := h

theorem meets_update {post : Unit → σ → Prop} {f : σ → σ} (h : ∀ s', rely s s' → good s' → post () (f s')) :
    (update f : Thread ε σ Unit).Meets rely good post err s := h

theorem Meets.bind {post : β → σ → Prop} {x : Thread ε σ α} {k : α → Thread ε σ β}
    (h : x.Meets rely good (fun a s => (k a).Meets rely good post err s) err s) :
    (x >>= k).Meets rely good post err s := by
  induction x generalizing s with
  | done a => exact h
  | raise e => exact h
  | act f next ih => exact fun s' hr hg => ih s' (h s' hr hg)

theorem Meets.handle {x : Thread ε σ α} {handler : ε → Thread ε σ α}
    (h : x.Meets rely good post (fun e s => (handler e).Meets rely good post err s) s) :
    (x.handle handler).Meets rely good post err s := by
  induction x generalizing s with
  | done a => exact h
  | raise e => exact h
  | act f next ih => exact fun s' hr hg => ih s' (h s' hr hg)

theorem Meets.mono {post' : α → σ → Prop} {err' : ε → σ → Prop} {x : Thread ε σ α}
    (h : x.Meets rely good post err s) (hpost : ∀ a s, post a s → post' a s) (herr : ∀ e s, err e s → err' e s) :
    x.Meets rely good post' err' s := by
  induction x generalizing s with
  | done a => exact hpost a s h
  | raise e => exact herr e s h
  | act f next ih => exact fun s' hr hg => ih s' (h s' hr hg)

end Meets

end Thread

/-! ## Pools -/

/-- Threads with names, over one state. -/
structure Pool (ι ε σ α : Type) where
  state : σ
  threads : ι → Thread ε σ α

namespace Pool
variable {ι ε σ α : Type} [DecidableEq ι]

/-- The thread takes its next action, if it has one. -/
def step (p : Pool ι ε σ α) (i : ι) : Pool ι ε σ α :=
  match p.threads i with
  | .done _ => p
  | .raise _ => p
  | .act f next => ⟨f p.state, Function.update p.threads i (next p.state)⟩

/-- A schedule names the thread that acts next, each time. -/
def run (p : Pool ι ε σ α) (schedule : List ι) : Pool ι ε σ α := schedule.foldl step p

/-- Every action of the schedule is taken in a state that is good for its thread. -/
def Along (good : ι → σ → Prop) : Pool ι ε σ α → List ι → Prop
  | _, [] => True
  | p, i :: rest => good i p.state ∧ Along good (p.step i) rest

variable {rely : σ → σ → Prop} {good : σ → Prop} {post : α → σ → Prop} {err : ε → σ → Prop} {p : Pool ι ε σ α} {i : ι}

theorem run_cons (p : Pool ι ε σ α) (i : ι) (rest : List ι) : p.run (i :: rest) = (p.step i).run rest := rfl

theorem step_obeys (h : ∀ j, (p.threads j).Obeys rely) (hrefl : ∀ s, rely s s) (i : ι) :
    rely p.state (p.step i).state ∧ ∀ j, ((p.step i).threads j).Obeys rely := by
  have hi := h i
  unfold step
  cases ht : p.threads i with
  | done a => exact ⟨hrefl _, h⟩
  | raise e => exact ⟨hrefl _, h⟩
  | act f next =>
    rw [ht] at hi
    refine ⟨(hi p.state).1, fun j => ?_⟩
    by_cases hj : j = i
    · subst hj
      dsimp only
      rw [Function.update_self]
      exact (hi p.state).2
    · dsimp only
      rw [Function.update_of_ne hj]
      exact h j

/-- **What every thread keeps, every run keeps.** -/
theorem obeys_run (hrefl : ∀ s, rely s s) (htrans : ∀ s t u, rely s t → rely t u → rely s u) :
    ∀ {schedule : List ι} {p : Pool ι ε σ α}, (∀ j, (p.threads j).Obeys rely) → rely p.state (p.run schedule).state
  | [], _, _ => hrefl _
  | i :: _, _, h => by
    obtain ⟨hstep, hnext⟩ := step_obeys h hrefl i
    rw [run_cons]
    exact htrans _ _ _ hstep (obeys_run hrefl htrans hnext)

theorem step_meets (htrans : ∀ s t u, rely s t → rely t u → rely s u) (hrefl : ∀ s, rely s s) (j : ι)
    (hothers : ∀ k, k ≠ i → (p.threads k).Obeys rely) (hgood : j = i → good p.state)
    (h : ∃ s, rely s p.state ∧ (p.threads i).Meets rely good post err s) :
    (∀ k, k ≠ i → ((p.step j).threads k).Obeys rely) ∧
      ∃ s, rely s (p.step j).state ∧ ((p.step j).threads i).Meets rely good post err s := by
  obtain ⟨s, hs, hmeets⟩ := h
  unfold step
  by_cases hj : j = i
  · subst hj
    cases ht : p.threads j with
    | done a => exact ⟨hothers, s, hs, hmeets⟩
    | raise e => exact ⟨hothers, s, hs, hmeets⟩
    | act f next =>
      rw [ht] at hmeets
      refine ⟨fun k hk => ?_, f p.state, hrefl _, ?_⟩
      · dsimp only
        rw [Function.update_of_ne hk]
        exact hothers k hk
      · dsimp only
        rw [Function.update_self]
        exact hmeets p.state hs (hgood rfl)
  · have hobeys := hothers j hj
    cases ht : p.threads j with
    | done a => exact ⟨hothers, s, hs, hmeets⟩
    | raise e => exact ⟨hothers, s, hs, hmeets⟩
    | act f next =>
      rw [ht] at hobeys
      refine ⟨fun k hk => ?_, s, htrans _ _ _ hs (hobeys p.state).1, ?_⟩
      · dsimp only
        by_cases hkj : k = j
        · rw [hkj, Function.update_self]
          exact (hobeys p.state).2
        · rw [Function.update_of_ne hkj]
          exact hothers k hk
      · dsimp only
        rw [Function.update_of_ne (Ne.symm hj)]
        exact hmeets

/-- **A thread among others**: where these keep to what it relies on, it meets what it was verified for, along every
schedule whose actions of its own are taken in good states. -/
theorem meets_run (hrefl : ∀ s, rely s s) (htrans : ∀ s t u, rely s t → rely t u → rely s u) :
    ∀ {schedule : List ι} {p : Pool ι ε σ α}, (∀ k, k ≠ i → (p.threads k).Obeys rely) →
    (∃ s, rely s p.state ∧ (p.threads i).Meets rely good post err s) →
    p.Along (fun j s => j = i → good s) schedule →
    (∀ k, k ≠ i → ((p.run schedule).threads k).Obeys rely) ∧
      ∃ s, rely s (p.run schedule).state ∧ ((p.run schedule).threads i).Meets rely good post err s
  | [], _, hothers, h, _ => ⟨hothers, h⟩
  | j :: _, _, hothers, h, halong => by
    obtain ⟨hothers', hnext⟩ := step_meets htrans hrefl j hothers halong.1 h
    rw [run_cons]
    exact meets_run hrefl htrans hothers' hnext halong.2

end Pool
