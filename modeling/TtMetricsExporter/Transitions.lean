import Mathlib.Data.List.Induction
import Mathlib.Tactic.Common
/-!
# Transitions — runs of a machine whose moves may be disabled

A machine is a partial step function.  An invariant of the steps is one of the runs (`invariant`), a fact about the
history is proved from the run before and the move after (`run_snoc_iff`), and where each move lowers a rank, a run of
them is no longer than the rank (`length_le_rank`).
-/
namespace Transitions

variable {σ μ : Type} (step : σ → μ → Option σ)

/-- The state after the moves, where each was enabled in its turn. -/
def run (s : σ) : List μ → Option σ
  | [] => some s
  | m :: rest => (step s m).bind (fun t => run t rest)

variable {step} {s t : σ} {m : μ} {moves more : List μ}

theorem run_cons_iff : run step s (m :: moves) = some t ↔ ∃ u, step s m = some u ∧ run step u moves = some t := by
  rw [run, Option.bind_eq_some_iff]

theorem run_append : ∀ {s : σ} {moves : List μ},
    run step s (moves ++ more) = (run step s moves).bind (fun t => run step t more)
  | _, [] => rfl
  | s, m :: moves => by
    rw [List.cons_append, run, run]
    cases step s m with
    | none => rfl
    | some u => exact run_append

theorem run_snoc_iff : run step s (moves ++ [m]) = some t ↔ ∃ u, run step s moves = some u ∧ step u m = some t := by
  rw [run_append, Option.bind_eq_some_iff]
  refine exists_congr (fun u => and_congr_right (fun _ => ?_))
  rw [run]
  cases step u m <;> rfl

/-- **What every step keeps, with the moves so far, holds after every run.** -/
theorem invariant (inv : List μ → σ → Prop) (hstart : inv [] s)
    (hstep : ∀ moves u m v, run step s moves = some u → inv moves u → step u m = some v → inv (moves ++ [m]) v)
    (h : run step s moves = some t) : inv moves t := by
  induction moves using List.reverseRecOn generalizing t with
  | nil =>
    cases h
    exact hstart
  | append_singleton moves m ih =>
    obtain ⟨u, hu, hm⟩ := run_snoc_iff.1 h
    exact hstep moves u m t hu (ih hu) hm

/-- **A run of moves that each lower a rank is no longer than it.** -/
theorem length_le_rank {rank : σ → Nat} {inv : σ → Prop} {own : μ → Prop}
    (hstep : ∀ u m v, inv u → own m → step u m = some v → inv v ∧ rank v < rank u) :
    ∀ {moves : List μ} {s : σ}, inv s → (∀ m ∈ moves, own m) → run step s moves = some t →
      moves.length + rank t ≤ rank s
  | [], _, _, _, h => by
    cases h
    exact Nat.le_of_eq (Nat.zero_add _)
  | m :: moves, s, hs, hown, h => by
    obtain ⟨u, hu, h⟩ := run_cons_iff.1 h
    obtain ⟨hm, hrest⟩ := List.forall_mem_cons.1 hown
    obtain ⟨hinv, hrank⟩ := hstep s m u hs hm hu
    have hle := length_le_rank hstep hinv hrest h
    rw [List.length_cons]
    omega

/-- A move of a kind, in a state of a kind, in the course of a run. -/
def Occurred (step : σ → μ → Option σ) (s : σ) (moves : List μ) (move : μ) (when : σ → Prop) : Prop :=
  ∃ before after u, moves = before ++ move :: after ∧ run step s before = some u ∧ when u

theorem occurred_nil {move : μ} {when : σ → Prop} : ¬ Occurred step s [] move when := by
  rintro ⟨before, after, -, he, -, -⟩
  cases before <;> cases he

/-- **What has occurred has occurred before, or just now.** -/
theorem occurred_snoc {move : μ} {when : σ → Prop} {u : σ} (hu : run step s moves = some u) :
    Occurred step s (moves ++ [m]) move when ↔ Occurred step s moves move when ∨ (m = move ∧ when u) := by
  constructor
  · rintro ⟨before, after, v, he, hv, hwhen⟩
    rcases List.eq_nil_or_concat after with rfl | ⟨after, last, rfl⟩
    · obtain ⟨rfl, hlast⟩ := List.append_inj' he rfl
      obtain rfl : u = v := Option.some.inj (hu.symm.trans hv)
      exact .inr ⟨(List.cons.inj hlast).1, hwhen⟩
    · rw [List.concat_eq_append, ← List.cons_append, ← List.append_assoc] at he
      exact .inl ⟨before, after, v, (List.append_inj' he rfl).1, hv, hwhen⟩
  · rintro (⟨before, after, v, rfl, hv, hwhen⟩ | ⟨rfl, hwhen⟩)
    · exact ⟨before, after ++ [m], v, by rw [List.append_assoc]; rfl, hv, hwhen⟩
    · exact ⟨moves, [], u, rfl, hu, hwhen⟩

end Transitions
