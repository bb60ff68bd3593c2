import TtMetricsExporter.Stopping
/-!
# Returning — what has happened when `run` returns

Two threads may carry out `shutdown` beside each other.  What either leaves behind goes by how far it has come
(`Reached`), and the exit code by what `serve` and the two joins have come to (`Exiting`).
-/
namespace Tt

/-! ## Two shutdowns -/

def ShutdownPoint.index : ShutdownPoint → Nat
  | .check => 0
  | .log => 1
  | .beginShutdown => 2
  | .clearRunning => 3
  | .setRequested => 4
  | .stopServer => 5

/-- How many of the six actions of its `shutdown` a thread has behind it. -/
def MainPoint.index : MainPoint → Nat
  | .shutdown point _ => point.index
  | .joinPoller _ | .joinCoordinator _ | .examinePoller _ | .examineCoordinator _ | .logTimeout | .logCompleted _
  | .ended _ => 6
  | _ => 0

def CoordinatorPoint.index : CoordinatorPoint → Nat
  | .shutdown point => point.index
  | .ended => 6
  | _ => 0

namespace Lifecycle

/-- The lines that say that a shutdown has started. -/
def shutdownLines (self : Lifecycle) : Nat :=
  (self.log.filter (fun call => call.event = shutdownCall.event)).length

/-- What so many actions of a shutdown leave behind, whichever thread took them. -/
structure Reached (s : Lifecycle) (index : Nat) : Prop where
  logged : 2 ≤ index → 1 ≤ s.shutdownLines
  begun : 3 ≤ index → s.shuttingDown = true
  cleared : 4 ≤ index → s.running = false

/-- A shutdown that goes ahead has been told. -/
def Announced (self : Lifecycle) : Prop := self.running = false → 1 ≤ self.shutdownLines ∧ self.shuttingDown = true

end Lifecycle

/-- The line that a thread may still write. -/
def lineLeft (index : Nat) : Nat := if index ≤ 1 then 1 else 0

/-- What holds of the two threads that may shut down. -/
structure Announcing (s : Lifecycle) : Prop where
  main : s.Reached s.main.index
  coordinator : s.Reached s.coordinator.index
  announced : s.Announced
  lines : s.shutdownLines + lineLeft s.main.index + lineLeft s.coordinator.index ≤ 2

section Announcing
variable {options : RunOptions} {moves : List LifecycleMove} {m : LifecycleMove} {s t : Lifecycle}

theorem shutdownLines_logged (call : LogCall) : (s.logged call).shutdownLines =
    s.shutdownLines + if call.event = shutdownCall.event then 1 else 0 := by
  unfold Lifecycle.shutdownLines Lifecycle.logged
  rw [List.filter_append, List.length_append]
  by_cases h : call.event = shutdownCall.event <;> simp [h]

theorem Lifecycle.Reached.congr {i j : Nat} (h : s.Reached i) (hi : j = i) (hlines : t.shutdownLines = s.shutdownLines)
    (hbegun : t.shuttingDown = s.shuttingDown) (hrunning : t.running = s.running) : t.Reached j := by
  subst hi
  exact ⟨hlines ▸ h.logged, hbegun ▸ h.begun, hrunning ▸ h.cleared⟩

theorem reached_low {index : Nat} (h : index ≤ 1) : s.Reached index :=
  ⟨fun hi => by omega, fun hi => by omega, fun hi => by omega⟩

theorem reached_all (h : s.Announced) (hr : s.running = false) (index : Nat) : s.Reached index :=
  ⟨fun _ => (h hr).1, fun _ => (h hr).2, fun _ => hr⟩

/-- **One action of a shutdown** leaves behind what it should, and takes nothing back. -/
theorem shutdownStep_announcing (point : ShutdownPoint) (h : s.Reached point.index) (ha : s.Announced) :
    (s.shutdownStep point).1.Reached (((s.shutdownStep point).2.map ShutdownPoint.index).getD 6) ∧
      (s.shutdownStep point).1.Announced ∧ (∀ index, s.Reached index → (s.shutdownStep point).1.Reached index) ∧
      (s.shutdownStep point).1.shutdownLines + lineLeft (((s.shutdownStep point).2.map ShutdownPoint.index).getD 6) ≤
        s.shutdownLines + lineLeft point.index := by
  cases point with
  | check =>
    cases hr : s.running with
    | false =>
      have hstep : s.shutdownStep .check = (s, none) := by simp [Lifecycle.shutdownStep, hr]
      rw [hstep]
      exact ⟨reached_all ha hr 6, ha, fun _ hi => hi, by simp [lineLeft]⟩
    | true =>
      have hstep : s.shutdownStep .check = (s, some .log) := by simp [Lifecycle.shutdownStep, hr]
      rw [hstep]
      exact ⟨reached_low (Nat.le_refl 1), ha, fun _ hi => hi, by simp [lineLeft, ShutdownPoint.index]⟩
  | log =>
    have hlines : (s.logged shutdownCall).shutdownLines = s.shutdownLines + 1 := by simp [shutdownLines_logged]
    have hone : 1 ≤ (s.logged shutdownCall).shutdownLines := by omega
    have hnot : ∀ {n}, 2 < n → ¬ n ≤ 2 := fun h => Nat.not_le.2 h
    refine ⟨⟨fun _ => hone, fun hi => absurd hi (hnot (by decide)), fun hi => absurd hi (hnot (by decide))⟩,
      fun hr => ⟨hone, (ha hr).2⟩, fun index hi => ⟨fun _ => hone, hi.begun, hi.cleared⟩, ?_⟩
    show (s.logged shutdownCall).shutdownLines + lineLeft 2 ≤ s.shutdownLines + lineLeft 1
    rw [hlines]
    simp [lineLeft]
  | beginShutdown =>
    have hone : 1 ≤ s.shutdownLines := h.logged (by decide)
    have hnot : ¬ 4 ≤ 3 := by decide
    exact ⟨⟨fun _ => hone, fun _ => rfl, fun hi => absurd hi hnot⟩, fun _ => ⟨hone, rfl⟩,
      fun index hi => ⟨hi.logged, fun _ => rfl, hi.cleared⟩, Nat.le_refl _⟩
  | clearRunning =>
    have hone : 1 ≤ s.shutdownLines := h.logged (by decide)
    have hbegun : s.shuttingDown = true := h.begun (by decide)
    exact ⟨⟨fun _ => hone, fun _ => hbegun, fun _ => rfl⟩, fun _ => ⟨hone, hbegun⟩,
      fun index hi => ⟨hi.logged, hi.begun, fun _ => rfl⟩, Nat.le_refl _⟩
  | setRequested | stopServer =>
    have hr : s.running = false := h.cleared (by decide)
    exact ⟨⟨fun _ => (ha hr).1, fun _ => (ha hr).2, fun _ => hr⟩, ha,
      fun index hi => ⟨hi.logged, hi.begun, hi.cleared⟩, Nat.le_refl _⟩

/-- A move that is not one of a shutdown's. -/
theorem Announcing.frame (h : Announcing s) (hmain : t.main.index = s.main.index)
    (hcoordinator : t.coordinator.index = s.coordinator.index) (hrunning : t.running = s.running)
    (hbegun : t.shuttingDown = s.shuttingDown) (hlines : t.shutdownLines = s.shutdownLines) : Announcing t := by
  refine ⟨h.main.congr hmain hlines hbegun hrunning, h.coordinator.congr hcoordinator hlines hbegun hrunning,
    fun hr => ?_, ?_⟩
  · rw [hlines, hbegun]
    exact h.announced (hrunning ▸ hr)
  · rw [hmain, hcoordinator, hlines]
    exact h.lines

theorem Announcing.mainShutdown {point : ShutdownPoint} {result : Nat} (h : Announcing s)
    (hm : s.main = .shutdown point result) : Announcing { (s.shutdownStep point).1 with
      main := ((s.shutdownStep point).2.map (fun point => .shutdown point result)).getD (.joinPoller result) } := by
  have hmain := h.main
  have hlines := h.lines
  rw [hm] at hmain hlines
  obtain ⟨hreached, hannounced, hkept, hleft⟩ := shutdownStep_announcing point hmain h.announced
  have hindex : MainPoint.index (((s.shutdownStep point).2.map (fun point => .shutdown point result)).getD
      (.joinPoller result)) = ((s.shutdownStep point).2.map ShutdownPoint.index).getD 6 := by
    cases (s.shutdownStep point).2 <;> rfl
  have hcoordinator : (s.shutdownStep point).1.coordinator = s.coordinator := by simp
  refine ⟨hreached.congr hindex rfl rfl rfl,
    (hkept _ h.coordinator).congr (congrArg CoordinatorPoint.index hcoordinator) rfl rfl rfl, hannounced, ?_⟩
  show (s.shutdownStep point).1.shutdownLines + lineLeft (MainPoint.index _) +
    lineLeft (s.shutdownStep point).1.coordinator.index ≤ 2
  rw [hindex, hcoordinator]
  have hbefore : s.shutdownLines + lineLeft point.index + lineLeft s.coordinator.index ≤ 2 := hlines
  omega

theorem Announcing.coordinatorShutdown {point : ShutdownPoint} (h : Announcing s)
    (hc : s.coordinator = .shutdown point) : Announcing { (s.shutdownStep point).1 with
      coordinator := ((s.shutdownStep point).2.map .shutdown).getD .ended } := by
  have hcoordinator := h.coordinator
  have hlines := h.lines
  rw [hc] at hcoordinator hlines
  obtain ⟨hreached, hannounced, hkept, hleft⟩ := shutdownStep_announcing point hcoordinator h.announced
  have hindex : CoordinatorPoint.index (((s.shutdownStep point).2.map .shutdown).getD .ended) =
      ((s.shutdownStep point).2.map ShutdownPoint.index).getD 6 := by
    cases (s.shutdownStep point).2 <;> rfl
  have hmain : (s.shutdownStep point).1.main = s.main := by simp
  refine ⟨(hkept _ h.main).congr (congrArg MainPoint.index hmain) rfl rfl rfl, hreached.congr hindex rfl rfl rfl,
    hannounced, ?_⟩
  show (s.shutdownStep point).1.shutdownLines + lineLeft (s.shutdownStep point).1.main.index +
    lineLeft (CoordinatorPoint.index _) ≤ 2
  rw [hindex, hmain]
  have hbefore : s.shutdownLines + lineLeft s.main.index + lineLeft point.index ≤ 2 := hlines
  omega

/-- A line that tells of something else. -/
theorem shutdownLines_other {call : LogCall} (h : call.event ≠ shutdownCall.event) :
    (s.logged call).shutdownLines = s.shutdownLines := by
  rw [shutdownLines_logged, if_neg h, Nat.add_zero]

theorem Announcing.step (h : Announcing s) (hunstarted : s.main = .startCoordinator → s.coordinator = .unstarted)
    (hmoved : Moved options s m t) : Announcing t := by
  cases hmoved with
  | starting hm | logListening hm | logTimeout hm | logCompleted hm | failed hm =>
    refine h.frame (by simp [hm, MainPoint.index, ShutdownPoint.index]) rfl rfl rfl (shutdownLines_other ?_)
    simp [startingCall, listenCall, shutdownTimeoutCall, shutdownCompletedCall, activationFailedCall, shutdownCall,
      plainCall]
  | startCoordinator hm =>
    exact h.frame (by simp [hm, MainPoint.index]) (by simp [hunstarted hm, CoordinatorPoint.index]) rfl rfl rfl
  | refresh hm | firstRaised hm | startPoller hm | isRunning hm | notRunning hm | makeServer hm | joinPoller hm
  | joinCoordinator hm | pollerDead hm | pollerAlive hm | coordinatorDead hm | coordinatorAlive hm | returned hm | pollerLeft hm
  | coordinatorLeft hm =>
    exact h.frame (by simp [hm, MainPoint.index, ShutdownPoint.index]) rfl rfl rfl rfl
  | mainShutdown hm => exact h.mainShutdown hm
  | pollerStops | pollerGoesOn | polled | raised | captured | signal => exact h.frame rfl rfl rfl rfl rfl
  | coordinatorWakes hc | coordinatorStarts hc =>
    exact h.frame rfl (by simp [hc, CoordinatorPoint.index, ShutdownPoint.index]) rfl rfl rfl
  | coordinatorSkips hc hr =>
    -- the other thread's shutdown is as far as this one's would be
    have hlines := h.lines
    rw [hc] at hlines
    have hreached : ∀ index, s.Reached index := reached_all h.announced hr
    refine ⟨(hreached _).congr rfl rfl rfl rfl, (hreached _).congr rfl rfl rfl rfl, h.announced, ?_⟩
    exact Nat.le_trans (Nat.add_le_add_left (show lineLeft 6 ≤ lineLeft 0 by decide) _) hlines
  | coordinatorShutdown hc => exact h.coordinatorShutdown hc

theorem announcing_run (h : Transitions.run (Lifecycle.step options) {} moves = some s) : Announcing s := by
  have hstart : Announcing {} := by
    have hreached : ({} : Lifecycle).Reached 0 := reached_low (by decide)
    exact ⟨hreached, hreached, fun hr => (nomatch hr), by decide⟩
  refine Transitions.invariant (fun _ => Announcing) hstart (fun moves u m v hrun hinv hstep => ?_) h
  refine hinv.step (fun hm => ?_) (moved_of_step hstep)
  exact (stopping_run hrun).unstarted (by simp [hm, MainPoint.Early]) (by simp [hm]) (by simp [hm])

end Announcing

/-! ## The exit code -/

section Exiting
variable {options : RunOptions} {moves : List LifecycleMove} {m : LifecycleMove} {s t : Lifecycle}

/-- An exit code of `serve`. -/
def Earned (moves : List LifecycleMove) (code : Nat) : Prop :=
  code = 0 ∨ (code = 1 ∧ (.failed ∈ moves ∨ .returned false ∈ moves))

/-- What `run` goes by as it comes to its exit code. -/
def Exiting (moves : List LifecycleMove) (s : Lifecycle) : Prop :=
  match s.main with
  | .shutdown _ result | .joinPoller result => Earned moves result
  | .joinCoordinator result => Earned moves result ∧ (s.poller = .ended ∨ .timedOut ∈ moves)
  | .examinePoller result => Earned moves result ∧ (s.poller = .ended ∨ .timedOut ∈ moves) ∧
      (s.coordinator = .ended ∨ .timedOut ∈ moves)
  | .examineCoordinator result => Earned moves result ∧ s.poller = .ended ∧
      (s.coordinator = .ended ∨ .timedOut ∈ moves)
  | .logTimeout => .timedOut ∈ moves
  | .logCompleted result => Earned moves result ∧ s.poller = .ended ∧ s.coordinator = .ended
  | .ended code => (Earned moves code ∧ s.poller = .ended ∧ s.coordinator = .ended) ∨ (code = 1 ∧ .timedOut ∈ moves)
  | _ => True

theorem Earned.snoc {code : Nat} (h : Earned moves code) : Earned (moves ++ [m]) code :=
  h.imp_right (And.imp_right (Or.imp (List.mem_append_left _) (List.mem_append_left _)))

/-- A move that leaves `run` where it stands. -/
theorem Exiting.frame (h : Exiting moves s) (hmain : t.main = s.main) (hpoller : s.poller = .ended → t.poller = .ended)
    (hcoordinator : s.coordinator = .ended → t.coordinator = .ended) : Exiting (moves ++ [m]) t := by
  have hlater : .timedOut ∈ moves → .timedOut ∈ moves ++ [m] := List.mem_append_left _
  unfold Exiting at h ⊢
  rw [hmain]
  cases hm : s.main with
  | shutdown | joinPoller =>
    rw [hm] at h
    exact h.snoc
  | joinCoordinator =>
    rw [hm] at h
    exact ⟨h.1.snoc, h.2.imp hpoller hlater⟩
  | examinePoller =>
    rw [hm] at h
    exact ⟨h.1.snoc, h.2.1.imp hpoller hlater, h.2.2.imp hcoordinator hlater⟩
  | examineCoordinator =>
    rw [hm] at h
    exact ⟨h.1.snoc, hpoller h.2.1, h.2.2.imp hcoordinator hlater⟩
  | logTimeout =>
    rw [hm] at h
    exact hlater h
  | logCompleted =>
    rw [hm] at h
    exact ⟨h.1.snoc, hpoller h.2.1, hcoordinator h.2.2⟩
  | ended =>
    rw [hm] at h
    exact h.imp (fun he => ⟨he.1.snoc, hpoller he.2.1, hcoordinator he.2.2⟩) (And.imp_right hlater)
  | starting | refresh | startPoller | startCoordinator | checkRunning | makeServer | logListening | serving | raised =>
    trivial

theorem Exiting.step (h : Exiting moves s) (hmoved : Moved options s m t) : Exiting (moves ++ [m]) t := by
  have hlater : .timedOut ∈ moves → .timedOut ∈ moves ++ [m] := List.mem_append_left _
  have hnow : m ∈ moves ++ [m] := List.mem_append_right _ List.mem_cons_self
  have hexiting := h
  unfold Exiting at hexiting
  cases hmoved with
  | starting | refresh | firstRaised | startPoller | startCoordinator | isRunning | makeServer | logListening => trivial
  | notRunning => exact .inl rfl
  | mainShutdown hm =>
    rw [hm] at hexiting
    unfold Exiting
    dsimp only
    cases (s.shutdownStep _).2 <;> exact Earned.snoc hexiting
  | joinPoller hm hp =>
    rw [hm] at hexiting
    exact ⟨Earned.snoc hexiting, .inl hp⟩
  | joinCoordinator hm hc =>
    rw [hm] at hexiting
    exact ⟨hexiting.1.snoc, hexiting.2.imp_right hlater, .inl hc⟩
  | pollerDead hm hp =>
    rw [hm] at hexiting
    exact ⟨hexiting.1.snoc, hp, hexiting.2.2.imp_right hlater⟩
  | pollerAlive hm hp =>
    rw [hm] at hexiting
    exact hlater (hexiting.2.1.resolve_left hp)
  | coordinatorDead hm hc =>
    rw [hm] at hexiting
    exact ⟨hexiting.1.snoc, hexiting.2.1, hc⟩
  | coordinatorAlive hm hc =>
    rw [hm] at hexiting
    exact hlater (hexiting.2.2.resolve_left hc)
  | logTimeout hm =>
    rw [hm] at hexiting
    exact .inr ⟨rfl, hlater hexiting⟩
  | logCompleted hm =>
    rw [hm] at hexiting
    exact .inl ⟨hexiting.1.snoc, hexiting.2⟩
  | pollerLeft hm =>
    rw [hm] at hexiting
    exact ⟨Earned.snoc hexiting, .inr hnow⟩
  | coordinatorLeft hm =>
    rw [hm] at hexiting
    exact ⟨hexiting.1.snoc, hexiting.2.imp_right hlater, .inr hnow⟩
  | @returned started =>
    cases started with
    | true => exact .inl rfl
    | false => exact .inr ⟨rfl, .inr hnow⟩
  | failed => exact .inr ⟨rfl, .inl hnow⟩
  | pollerStops | raised => exact h.frame rfl (fun _ => rfl) id
  | pollerGoesOn hp | polled hp => exact h.frame rfl (fun he => by simp [hp] at he) id
  | captured | signal => exact h.frame rfl id id
  | coordinatorWakes hc | coordinatorStarts hc => exact h.frame rfl id (fun he => by simp [hc] at he)
  | coordinatorSkips => exact h.frame rfl id (fun _ => rfl)
  | coordinatorShutdown hc => exact h.frame (by simp) (by simp) (fun he => by simp [hc] at he)

theorem exiting_run (h : Transitions.run (Lifecycle.step options) {} moves = some s) : Exiting moves s :=
  Transitions.invariant Exiting (show Exiting [] {} from trivial)
    (fun _ _ _ _ _ hinv hstep => hinv.step (moved_of_step hstep)) h

/-- **What has happened when `run` returns**, in every order of the threads, the signals and uvicorn: readiness has been
taken back, the log tells of the shutdown, twice at most, and the code is zero only if both threads have ended, and one
only if the listener failed or a thread was not waited for. -/
theorem run_ended {code : Nat} (h : Transitions.run (Lifecycle.step options) {} moves = some s)
    (hended : s.main = .ended code) : s.running = false ∧ s.shuttingDown = true ∧ 1 ≤ s.shutdownLines ∧
      s.shutdownLines ≤ 2 ∧ ((code = 0 ∧ s.poller = .ended ∧ s.coordinator = .ended) ∨
        (code = 1 ∧ (.failed ∈ moves ∨ .returned false ∈ moves ∨ .timedOut ∈ moves))) := by
  have hannouncing := announcing_run h
  have hmain := hannouncing.main
  rw [hended] at hmain
  have hsix : 4 ≤ (MainPoint.ended code).index := show 4 ≤ 6 by decide
  have hlines := hannouncing.lines
  have hexiting := exiting_run h
  unfold Exiting at hexiting
  rw [hended] at hexiting
  refine ⟨hmain.cleared hsix, hmain.begun (by omega), hmain.logged (by omega), by omega, ?_⟩
  rcases hexiting with ⟨rfl | ⟨rfl, hfailed⟩, hthreads⟩ | ⟨rfl, htimeout⟩
  · exact .inl ⟨rfl, hthreads⟩
  · exact .inr ⟨rfl, hfailed.elim .inl (fun hr => .inr (.inl hr))⟩
  · exact .inr ⟨rfl, .inr (.inr htimeout)⟩

end Exiting

/-- A shutdown that both threads begin. -/
def twiceMoves : List LifecycleMove :=
  List.flatten [List.replicate 7 .main, [.signal, .captured], List.replicate 3 .coordinator, [.returned true, .main],
    List.replicate 5 .coordinator, List.replicate 5 .main, [.poller], List.replicate 5 .main]

theorem run_ended_twiceMoves : ∃ s, Transitions.run (Lifecycle.step plainRun) {} twiceMoves = some s ∧
    s.shuttingDown = true ∧ s.shutdownLines = 2 := by
  have h : (Transitions.run (Lifecycle.step plainRun) {} twiceMoves).map (fun s => (s.main, s.shutdownLines)) =
      some (.ended 0, 2) := by decide +kernel
  obtain ⟨s, hrun, hs⟩ := Option.map_eq_some_iff.1 h
  obtain ⟨hmain, hlines⟩ := Prod.mk.inj hs
  exact ⟨s, hrun, (run_ended hrun hmain).2.1, hlines⟩

end Tt
