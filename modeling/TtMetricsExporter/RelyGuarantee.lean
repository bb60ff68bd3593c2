import TtMetricsExporter.Interleaving
import Mathlib.Algebra.BigOperators.Group.Finset.Basic
/-!
# RelyGuarantee — what the threads of a pool keep together

An action may keep an invariant only because of what its thread did before.  A program is therefore verified from each
state that it has left (`Secures`): the others move within a relation and keep the invariant, and so does each of its own
actions (`Pool.Secured.run`).  What a program comes to depends on the states that it met, and these are where its turns
are in the schedule (`Pool.threads_run`).  What programs count as they end is counted once for each (`Settles`,
`Pool.settled_run`).
-/
namespace Thread
variable {ε σ α β : Type}

/-- From a state that it has left, the others moving within a relation and keeping an invariant, the program's actions
do so too, and it ends in what is said of its result or of what it raises. -/
def Secures (rely : σ → σ → Prop) (inv : σ → Prop) (post : α → σ → Prop) (err : ε → σ → Prop) :
    Thread ε σ α → σ → Prop
  | done a, s => post a s
  | raise e, s => err e s
  | act f next, s => ∀ s', rely s s' → inv s' →
    rely s' (f s') ∧ inv (f s') ∧ (next s').Secures rely inv post err (f s')

section Secures
variable {rely : σ → σ → Prop} {inv : σ → Prop} {post : α → σ → Prop} {err : ε → σ → Prop} {s : σ}

theorem secures_get (hrefl : ∀ s, rely s s) {view : σ → α} (h : ∀ s', rely s s' → inv s' → post (view s') s') :
    (get view : Thread ε σ α).Secures rely inv post err s :=
  fun s' hr hi => ⟨hrefl s', hi, h s' hr hi⟩

theorem secures_update {post : Unit → σ → Prop} {f : σ → σ}
    (h : ∀ s', rely s s' → inv s' → rely s' (f s') ∧ inv (f s') ∧ post () (f s')) :
    (update f : Thread ε σ Unit).Secures rely inv post err s := h

theorem secures_atomic {f : σ → Except ε α × σ} (h : ∀ s', rely s s' → inv s' → rely s' (f s').2 ∧ inv (f s').2 ∧
    (ofExcept (f s').1 : Thread ε σ α).Secures rely inv post err (f s').2) :
    (atomic f).Secures rely inv post err s := h

theorem Secures.bind {post : β → σ → Prop} {x : Thread ε σ α} {k : α → Thread ε σ β}
    (h : x.Secures rely inv (fun a s => (k a).Secures rely inv post err s) err s) :
    (x >>= k).Secures rely inv post err s := by
  induction x generalizing s with
  | done a => exact h
  | raise e => exact h
  | act f next ih =>
    intro s' hr hi
    obtain ⟨hrely, hinv, hnext⟩ := h s' hr hi
    exact ⟨hrely, hinv, ih s' hnext⟩

theorem Secures.mono {post' : α → σ → Prop} {err' : ε → σ → Prop} {x : Thread ε σ α}
    (h : x.Secures rely inv post err s) (hpost : ∀ a s, post a s → post' a s) (herr : ∀ e s, err e s → err' e s) :
    x.Secures rely inv post' err' s := by
  induction x generalizing s with
  | done a => exact hpost a s h
  | raise e => exact herr e s h
  | act f next ih =>
    intro s' hr hi
    obtain ⟨hrely, hinv, hnext⟩ := h s' hr hi
    exact ⟨hrely, hinv, ih s' hnext⟩

/-- What held where the program began and every move keeps, holds where it ends. -/
theorem Secures.frame {held : σ → Prop} (hheld : ∀ s t, rely s t → held s → held t) {x : Thread ε σ α}
    (h : x.Secures rely inv post err s) (hs : held s) :
    x.Secures rely inv (fun a s => post a s ∧ held s) err s := by
  induction x generalizing s with
  | done a => exact ⟨h, hs⟩
  | raise e => exact h
  | act f next ih =>
    intro s' hr hi
    obtain ⟨hrely, hinv, hnext⟩ := h s' hr hi
    exact ⟨hrely, hinv, ih s' hnext (hheld _ _ hrely (hheld _ _ hr hs))⟩

/-- Actions that keep more than the relation secure it, and the invariant with it. -/
theorem secures_of_obeys {keep : σ → σ → Prop} (hrely : ∀ s t, keep s t → rely s t)
    (hinv : ∀ s t, keep s t → inv s → inv t) {x : Thread ε σ α} (h : x.Obeys keep) (s : σ) :
    x.Secures rely inv (fun _ _ => True) (fun _ _ => True) s := by
  induction x generalizing s with
  | done a => trivial
  | raise e => trivial
  | act f next ih =>
    intro s' _ hi
    exact ⟨hrely _ _ (h s').1, hinv _ _ (h s').1 hi, ih s' (h s').2 _⟩

/-- Actions that keep to what the others keep to leave the program where these could have. -/
theorem meets_of_obeys {good : σ → Prop} (htrans : ∀ s t u, rely s t → rely t u → rely s u) {x : Thread ε σ α}
    (h : x.Obeys rely) {s s₀ : σ} (hs : rely s₀ s) :
    x.Meets rely good (fun _ t => rely s₀ t) (fun _ t => rely s₀ t) s := by
  induction x generalizing s with
  | done a => exact hs
  | raise e => exact hs
  | act f next ih =>
    exact fun s' hr _ => ih s' (h s').2 (htrans _ _ _ (htrans _ _ _ hs hr) (h s').1)

end Secures

/-! ## The states that a program meets -/

/-- The program after actions that it took in the given states. -/
def after : Thread ε σ α → List σ → Thread ε σ α
  | act _ next, s :: rest => (next s).after rest
  | x, _ => x

section After
variable {s : σ} {met rest : List σ}

theorem after_nil (x : Thread ε σ α) : x.after [] = x := by cases x <;> rfl

theorem after_append (x : Thread ε σ α) : x.after (met ++ rest) = (x.after met).after rest := by
  induction met generalizing x with
  | nil => rw [after_nil, List.nil_append]
  | cons s met ih =>
    cases x with
    | done a => cases rest <;> rfl
    | raise e => cases rest <;> rfl
    | act f next => exact ih (next s)

/-- A program in two parts comes to its result with the second one. -/
theorem after_bind {x : Thread ε σ α} {k : α → Thread ε σ β} {b : β} (h : (x >>= k).after met = done b) :
    ∃ first rest a, met = first ++ rest ∧ x.after first = done a ∧ (k a).after rest = done b := by
  induction x generalizing met with
  | done a => exact ⟨[], met, a, rfl, rfl, h⟩
  | raise e => cases met <;> cases h
  | act f next ih =>
    cases met with
    | nil => cases h
    | cons s met =>
      obtain ⟨first, rest, a, rfl, ha, hb⟩ := ih s h
      exact ⟨s :: first, rest, a, rfl, ha, hb⟩

theorem after_get {view : σ → α} {a : α} (h : (get view : Thread ε σ α).after met = done a) :
    ∃ s rest, met = s :: rest ∧ a = view s := by
  cases met with
  | nil => cases h
  | cons s rest => exact ⟨s, rest, rfl, by cases rest <;> exact (Thread.done.inj h).symm⟩

theorem after_update {f : σ → σ} (h : (update f : Thread ε σ Unit).after met = done ()) : ∃ s rest, met = s :: rest := by
  cases met with
  | nil => cases h
  | cons s rest => exact ⟨s, rest, rfl⟩

theorem eq_of_after_done {a b : α} (h : (done a : Thread ε σ α).after met = done b) : b = a := by
  cases met <;> exact (Thread.done.inj h).symm

end After

/-! ## A part of the state -/

/-- A program that knows of a part of the state only. -/
def within {τ : Type} (view : τ → σ) (put : σ → τ → τ) : Thread ε σ α → Thread ε τ α
  | done a => done a
  | raise e => raise e
  | act f next => act (fun t => put (f (view t)) t) (fun t => (next (view t)).within view put)

theorem obeys_within {τ : Type} {view : τ → σ} {put : σ → τ → τ} {rel : τ → τ → Prop} (h : ∀ s t, rel t (put s t)) :
    ∀ x : Thread ε σ α, (x.within view put).Obeys rel
  | done _ => trivial
  | raise _ => trivial
  | act f next => fun t => ⟨h (f (view t)) t, obeys_within h (next (view t))⟩

theorem bind_assoc {γ : Type} (x : Thread ε σ α) (k : α → Thread ε σ β) (l : β → Thread ε σ γ) :
    x >>= k >>= l = x >>= fun a => k a >>= l := by
  induction x with
  | done a => rfl
  | raise e => rfl
  | act f next ih => exact congrArg (act f) (funext ih)

/-! ## What is counted at the end -/

/-- The result of a program that has ended. -/
def outcome : Thread ε σ α → Option (Except ε α)
  | done a => some (.ok a)
  | raise e => some (.error e)
  | act _ _ => none

/-- What an end adds to a count; a program that goes on adds nothing. -/
def owed (price : Except ε α → Nat) (x : Thread ε σ α) : Nat := (x.outcome.map price).getD 0

/-- The program's last action adds the price of its result to the count, and no other action changes the count. -/
def Settles (count : σ → Nat) (price : Except ε α → Nat) : Thread ε σ α → Prop
  | done _ => True
  | raise _ => True
  | act f next => ∀ s, count (f s) = count s + (next s).owed price ∧ (next s).Settles count price

section Settles
variable {count : σ → Nat} {price : Except ε α → Nat}

/-- What a program that ends at no price leaves alone. -/
theorem settles_of_obeys {x : Thread ε σ α} (hprice : ∀ r, price r = 0) (h : x.Obeys (fun s t => count t = count s)) :
    x.Settles count price := by
  have howed : ∀ x : Thread ε σ α, x.owed price = 0 := by
    intro x
    cases x with
    | done a => exact hprice _
    | raise e => exact hprice _
    | act f next => rfl
  induction x with
  | done a => trivial
  | raise e => trivial
  | act f next ih => exact fun s => ⟨by rw [(h s).1, howed, Nat.add_zero], ih s (h s).2⟩

end Settles

/-- The program leaves a count alone and raises nothing. -/
def Silent (count : σ → Nat) : Thread ε σ α → Prop
  | done _ => True
  | raise _ => False
  | act f next => ∀ s, count (f s) = count s ∧ (next s).Silent count

section Silent
variable {count : σ → Nat} {price : Except ε β → Nat}

theorem silent_pure (a : α) : (pure a : Thread ε σ α).Silent count := trivial

theorem silent_get (view : σ → α) : (get view : Thread ε σ α).Silent count := fun _ => ⟨rfl, trivial⟩

theorem Silent.bind {x : Thread ε σ α} {k : α → Thread ε σ β} (hx : x.Silent count) (hk : ∀ a, (k a).Silent count) :
    (x >>= k).Silent count := by
  induction x with
  | done a => exact hk a
  | raise e => exact hx.elim
  | act f next ih => exact fun s => ⟨(hx s).1, ih s (hx s).2⟩

/-- A silent program may stand before one that goes on and settles. -/
theorem Silent.settles {x : Thread ε σ α} {k : α → Thread ε σ β} (hx : x.Silent count)
    (hk : ∀ a, (k a).Settles count price) (hgoes : ∀ a, (k a).outcome = none) :
    (x >>= k).Settles count price ∧ (x >>= k).outcome = none := by
  induction x with
  | done a => exact ⟨hk a, hgoes a⟩
  | raise e => exact hx.elim
  | act f next ih =>
    refine ⟨fun s => ?_, rfl⟩
    obtain ⟨hnext, hnone⟩ := ih s (hx s).2
    have howed : ((next s).bind k).owed price = 0 := by
      unfold owed
      rw [show ((next s).bind k).outcome = none from hnone]
      rfl
    dsimp only
    exact ⟨by rw [(hx s).1, howed, Nat.add_zero], hnext⟩

end Silent
end Thread

namespace Pool
open Thread
variable {ι ε σ α : Type} [DecidableEq ι]

/-- A thread that the schedule does not name stays as it is. -/
theorem threads_run_of_notMem {i : ι} : ∀ {schedule : List ι} {p : Pool ι ε σ α}, i ∉ schedule →
    (p.run schedule).threads i = p.threads i
  | [], _, _ => rfl
  | j :: rest, p, h => by
    have hstep : (p.step j).threads i = p.threads i := by
      unfold step
      cases p.threads j with
      | done a => rfl
      | raise e => rfl
      | act f next => exact Function.update_of_ne (List.ne_of_not_mem_cons h) _ _
    rw [run_cons, threads_run_of_notMem (fun hm => h (List.mem_cons_of_mem _ hm)), hstep]

theorem along_of_forall {good : ι → σ → Prop} (h : ∀ i s, good i s) : ∀ {schedule : List ι} {p : Pool ι ε σ α},
    p.Along good schedule
  | [], _ => trivial
  | i :: _, p => ⟨h i p.state, along_of_forall h⟩

theorem run_append (p : Pool ι ε σ α) (before after : List ι) : p.run (before ++ after) = (p.run before).run after :=
  List.foldl_append

/-! ## Turns -/

/-- What a schedule has before each turn of a thread. -/
def turns (i : ι) : List ι → List (List ι)
  | [] => []
  | j :: rest => (if j = i then [[]] else []) ++ (turns i rest).map (j :: ·)

section Turns
variable {i : ι} {turn schedule before after : List ι}

theorem prefix_of_mem_turns : ∀ {schedule turn : List ι}, turn ∈ turns i schedule → turn <+: schedule
  | [], _, h => nomatch h
  | j :: rest, turn, h => by
    rcases List.mem_append.1 h with h | h
    · have hnil : turn = [] := by
        split_ifs at h
        · exact List.mem_singleton.1 h
        · cases h
      rw [hnil]
      exact List.nil_prefix
    · obtain ⟨turn, hturn, rfl⟩ := List.mem_map.1 h
      exact List.prefix_cons_inj j |>.2 (prefix_of_mem_turns hturn)

/-- A later turn comes after an earlier one. -/
theorem pairwise_turns : ∀ schedule : List ι, (turns i schedule).Pairwise (· <+: ·)
  | [] => .nil
  | j :: rest => by
    have hrest : ((turns i rest).map (j :: ·)).Pairwise (· <+: ·) :=
      (pairwise_turns rest).map _ (fun _ _ h => (List.prefix_cons_inj j).2 h)
    unfold turns
    split_ifs
    · exact List.pairwise_cons.2 ⟨fun _ _ => List.nil_prefix, hrest⟩
    · exact hrest

/-- The turns of a thread that a schedule begins without. -/
theorem turns_append (h : i ∉ before) : turns i (before ++ after) = (turns i after).map (before ++ ·) := by
  induction before with
  | nil => exact (List.map_id _).symm
  | cons j before ih =>
    have hj : j ≠ i := (List.ne_of_not_mem_cons h).symm
    rw [List.cons_append, turns, if_neg hj, ih (List.not_mem_of_not_mem_cons h), List.nil_append, List.map_map]
    rfl

/-- **A thread in a run** is what the states of its turns have made of it. -/
theorem threads_run : ∀ {schedule : List ι} {p : Pool ι ε σ α},
    (p.run schedule).threads i = (p.threads i).after ((turns i schedule).map (fun turn => (p.run turn).state))
  | [], p => (Thread.after_nil _).symm
  | j :: rest, p => by
    have hstep : (p.step j).threads i = (p.threads i).after (if j = i then [p.state] else []) := by
      unfold step
      by_cases hj : j = i
      · subst hj
        rw [if_pos rfl]
        cases ht : p.threads j with
        | done a => exact ht
        | raise e => exact ht
        | act f next =>
          dsimp only
          rw [Function.update_self]
          exact (Thread.after_nil _).symm
      · rw [if_neg hj, Thread.after_nil]
        cases ht : p.threads j with
        | done a => rfl
        | raise e => rfl
        | act f next => exact Function.update_of_ne (Ne.symm hj) _ _
    have hstates : (turns i (j :: rest)).map (fun turn => (p.run turn).state) =
        (if j = i then [p.state] else []) ++ (turns i rest).map (fun turn => ((p.step j).run turn).state) := by
      rw [turns, List.map_append, List.map_map]
      congr 1
      split_ifs <;> rfl
    rw [run_cons, threads_run, hstep, hstates, Thread.after_append]

end Turns

/-- **A thread that is scheduled often enough ends as it does alone**, from the state that it met. -/
theorem run_alone {i : ι} {x : Thread ε σ α} : ∀ {p : Pool ι ε σ α}, p.threads i = x →
    ∃ n, (p.run (List.replicate n i)).threads i = ofExcept (x.alone p.state).1 ∧
      (p.run (List.replicate n i)).state = (x.alone p.state).2 := by
  induction x with
  | done a => exact fun h => ⟨0, h, rfl⟩
  | raise e => exact fun h => ⟨0, h, rfl⟩
  | act f next ih =>
    intro p h
    have hstep : p.step i = ⟨f p.state, Function.update p.threads i (next p.state)⟩ := by
      unfold step
      rw [h]
    have hnext : (p.step i).threads i = next p.state := by
      rw [hstep]
      exact Function.update_self _ _ _
    obtain ⟨n, hthread, hstate⟩ := ih p.state hnext
    refine ⟨n + 1, ?_⟩
    rw [List.replicate_succ, run_cons, hthread, hstate, hstep]
    exact ⟨rfl, rfl⟩

/-! ## Safety -/

/-- The state is good, and each thread secures what is said of it from a state that it has left. -/
structure Secured (rely : σ → σ → Prop) (inv : σ → Prop) (post : ι → α → σ → Prop) (err : ι → ε → σ → Prop)
    (p : Pool ι ε σ α) : Prop where
  state : inv p.state
  threads : ∀ i, ∃ s, rely s p.state ∧ (p.threads i).Secures rely inv (post i) (err i) s

section Secured
variable {rely : σ → σ → Prop} {inv : σ → Prop} {post : ι → α → σ → Prop} {err : ι → ε → σ → Prop} {p : Pool ι ε σ α}
  (hrefl : ∀ s, rely s s) (htrans : ∀ s t u, rely s t → rely t u → rely s u)
include hrefl htrans

theorem Secured.step (h : p.Secured rely inv post err) (j : ι) :
    rely p.state (p.step j).state ∧ (p.step j).Secured rely inv post err := by
  obtain ⟨sj, hsj, hj⟩ := h.threads j
  unfold Pool.step
  cases ht : p.threads j with
  | done a => exact ⟨hrefl _, h⟩
  | raise e => exact ⟨hrefl _, h⟩
  | act f next =>
    rw [ht] at hj
    obtain ⟨hrely, hinv, hnext⟩ := hj p.state hsj h.state
    refine ⟨hrely, hinv, fun i => ?_⟩
    dsimp only
    by_cases hi : i = j
    · subst hi
      rw [Function.update_self]
      exact ⟨f p.state, hrefl _, hnext⟩
    · obtain ⟨s, hs, hthread⟩ := h.threads i
      rw [Function.update_of_ne hi]
      exact ⟨s, htrans _ _ _ hs hrely, hthread⟩

/-- **Threads that secure what they need keep the relation and the invariant, along every schedule.** -/
theorem Secured.run : ∀ {schedule : List ι} {p : Pool ι ε σ α}, p.Secured rely inv post err →
    rely p.state (p.run schedule).state ∧ (p.run schedule).Secured rely inv post err
  | [], _, h => ⟨hrefl _, h⟩
  | j :: _, _, h => by
    obtain ⟨hrely, hstep⟩ := h.step hrefl htrans j
    obtain ⟨hrest, hrun⟩ := Secured.run hstep
    rw [run_cons]
    exact ⟨htrans _ _ _ hrely hrest, hrun⟩

omit [DecidableEq ι] hrefl htrans in
theorem Secured.result {i : ι} {a : α} (h : p.Secured rely inv post err) (hi : p.threads i = .done a) :
    ∃ s, rely s p.state ∧ post i a s := by
  obtain ⟨s, hs, hthread⟩ := h.threads i
  rw [hi] at hthread
  exact ⟨s, hs, hthread⟩

end Secured

/-! ## Counting -/

section Counting
variable [Fintype ι] {count : σ → Nat} {price : ι → Except ε α → Nat} {p : Pool ι ε σ α}

/-- The prices of the threads that have ended. -/
def settled (price : ι → Except ε α → Nat) (p : Pool ι ε σ α) : Nat := ∑ i, (p.threads i).owed (price i)

theorem settled_step (h : ∀ i, (p.threads i).Settles count (price i)) (j : ι) :
    count (p.step j).state + p.settled price = count p.state + (p.step j).settled price ∧
      ∀ i, ((p.step j).threads i).Settles count (price i) := by
  have hj := h j
  unfold step
  cases ht : p.threads j with
  | done a => exact ⟨rfl, h⟩
  | raise e => exact ⟨rfl, h⟩
  | act f next =>
    rw [ht] at hj
    obtain ⟨hcount, hnext⟩ := hj p.state
    refine ⟨?_, fun i => ?_⟩
    · have hothers : ∑ i ∈ Finset.univ.erase j,
          (Function.update p.threads j (next p.state) i).owed (price i) =
          ∑ i ∈ Finset.univ.erase j, (p.threads i).owed (price i) := by
        refine Finset.sum_congr rfl (fun i hi => ?_)
        rw [Function.update_of_ne (Finset.ne_of_mem_erase hi)]
      have hzero : (p.threads j).owed (price j) = 0 := by
        rw [ht]
        rfl
      unfold settled
      dsimp only
      rw [← Finset.sum_erase_add _ _ (Finset.mem_univ j), ← Finset.sum_erase_add _ _ (Finset.mem_univ j), hothers,
        Function.update_self, hcount, hzero]
      omega
    · dsimp only
      by_cases hi : i = j
      · subst hi
        rw [Function.update_self]
        exact hnext
      · rw [Function.update_of_ne hi]
        exact h i

/-- **At every moment the count has grown by the prices of the threads that have ended.** -/
theorem settled_run : ∀ {schedule : List ι} {p : Pool ι ε σ α}, (∀ i, (p.threads i).Settles count (price i)) →
    count (p.run schedule).state + p.settled price = count p.state + (p.run schedule).settled price
  | [], _, _ => rfl
  | j :: rest, p, h => by
    obtain ⟨hstep, hnext⟩ := settled_step h j
    have hrest : _ = _ + ((p.step j).run rest).settled price := settled_run hnext
    rw [run_cons]
    omega

end Counting
end Pool
