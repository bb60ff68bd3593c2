import TtMetricsExporter.Lifecycle
/-!
# Stopping — whether a requested shutdown ends

The coordinator stops the listener through an attribute that `serve` sets after it has looked at `running`, so there is
one moment at which its stop is lost (`stop_lost_iff`).  Otherwise a requested shutdown ends: its actions are bounded,
and none of its threads waits for another in vain.
-/
namespace Tt

/-! ## The stop that is lost -/

/-- No listener has been made yet. -/
def MainPoint.Early : MainPoint → Prop
  | .starting | .refresh | .startPoller | .startCoordinator | .checkRunning | .makeServer => True
  | _ => False

/-- There is a listener, and it has not returned. -/
def MainPoint.Listening : MainPoint → Prop
  | .logListening | .serving => True
  | _ => False

/-- `running` has been cleared. -/
def CoordinatorPoint.Cleared : CoordinatorPoint → Prop
  | .shutdown .setRequested | .shutdown .stopServer | .ended => True
  | _ => False

/-- The coordinator's stop has come between the check of `running` and the making of the listener. -/
def StopLost (options : RunOptions) (moves : List LifecycleMove) : Prop :=
  Transitions.Occurred (Lifecycle.step options) {} moves .coordinator
    (fun s => s.coordinator = .shutdown .stopServer ∧ s.main = .makeServer)

/-- What holds until the listener has returned. -/
structure Stopping (options : RunOptions) (moves : List LifecycleMove) (s : Lifecycle) : Prop where
  early : s.main.Early → s.server = none ∧ .captured ∉ moves
  unstarted : s.main.Early → s.main ≠ .checkRunning → s.main ≠ .makeServer → s.coordinator = .unstarted
  cleared : s.main.Early ∨ s.main.Listening → (s.running = false ↔ s.coordinator.Cleared)
  lost : s.main.Early ∨ s.main.Listening → StopLost options moves → s.coordinator = .ended
  made : s.main.Early → (StopLost options moves ↔ s.main = .makeServer ∧ s.coordinator = .ended)
  told : s.main.Listening → ∃ told, s.server = some told ∧
    (told = false ↔ .captured ∉ moves ∧ (s.coordinator = .ended → StopLost options moves))

section Stopping
variable {options : RunOptions} {moves : List LifecycleMove} {m : LifecycleMove} {s t : Lifecycle}

theorem stopLost_snoc (h : Transitions.run (Lifecycle.step options) {} moves = some s) :
    StopLost options (moves ++ [m]) ↔ StopLost options moves ∨
      (m = .coordinator ∧ s.coordinator = .shutdown .stopServer ∧ s.main = .makeServer) :=
  Transitions.occurred_snoc h

theorem stopping_closing (h : ¬ (t.main.Early ∨ t.main.Listening)) : Stopping options moves t where
  early he := absurd (.inl he) h
  unstarted he := absurd (.inl he) h
  cleared he := absurd he h
  lost he := absurd he h
  made he := absurd (.inl he) h
  told he := absurd (.inr he) h

/-- A move that touches none of it. -/
theorem Stopping.frame (h : Stopping options moves s) (hrun : Transitions.run (Lifecycle.step options) {} moves = some s)
    (hmoved : m ≠ .coordinator ∧ m ≠ .captured) (hmain : t.main = s.main) (hcoordinator : t.coordinator = s.coordinator)
    (hrunning : t.running = s.running) (hserver : t.server = s.server) : Stopping options (moves ++ [m]) t := by
  have hlost : StopLost options (moves ++ [m]) ↔ StopLost options moves := by
    rw [stopLost_snoc hrun]
    simp [hmoved.1]
  have hcaptured : .captured ∈ moves ++ [m] ↔ .captured ∈ moves := by simp [hmoved.2.symm]
  refine ⟨?_, ?_, ?_, ?_, ?_, ?_⟩ <;> simp only [hmain, hcoordinator, hrunning, hserver, hlost, hcaptured]
  · exact h.early
  · exact h.unstarted
  · exact h.cleared
  · exact h.lost
  · exact h.made
  · exact h.told

/-- An action of `run` before there is a listener, but for its check of `running` and the making of the listener. -/
theorem Stopping.coming (h : Stopping options moves s)
    (hrun : Transitions.run (Lifecycle.step options) {} moves = some s) (hfrom : s.main.Early)
    (hnot : s.main ≠ .makeServer) (hto : t.main ≠ .makeServer) (hserver : t.server = s.server)
    (hrunning : t.running = s.running) (hunstarted : t.main ≠ .checkRunning → t.coordinator = .unstarted)
    (hcleared : t.coordinator.Cleared ↔ s.coordinator.Cleared) (hearly : t.main.Early) :
    Stopping options (moves ++ [.main]) t := by
  have hlost : ¬ StopLost options (moves ++ [.main]) := by
    rw [stopLost_snoc hrun, h.made hfrom]
    simp [hnot]
  obtain ⟨hnone, hcaptured⟩ := h.early hfrom
  refine ⟨fun _ => ⟨hserver.trans hnone, by simp [hcaptured]⟩, fun _ hc _ => hunstarted hc, fun _ => ?_,
    fun _ hl => absurd hl hlost, fun _ => ⟨fun hl => absurd hl hlost, fun hm => absurd hm.1 hto⟩, fun hl => ?_⟩
  · rw [hrunning, hcleared]
    exact h.cleared (.inl hfrom)
  · cases hm : t.main <;> simp [hm, MainPoint.Early, MainPoint.Listening] at hearly hl

/-- An action of the coordinator before its last one. -/
theorem Stopping.going (h : Stopping options moves s)
    (hrun : Transitions.run (Lifecycle.step options) {} moves = some s) (hmain : t.main = s.main)
    (hserver : t.server = s.server) (hfrom : s.coordinator ≠ .ended) (hto : t.coordinator ≠ .ended)
    (hstarted : s.coordinator ≠ .unstarted) (hstop : s.coordinator ≠ .shutdown .stopServer)
    (hcleared : s.main.Early ∨ s.main.Listening → (t.running = false ↔ t.coordinator.Cleared)) :
    Stopping options (moves ++ [.coordinator]) t := by
  have hlost : StopLost options (moves ++ [.coordinator]) ↔ StopLost options moves := by
    rw [stopLost_snoc hrun]
    simp [hstop]
  have hcaptured : .captured ∈ moves ++ [.coordinator] ↔ .captured ∈ moves := by simp
  refine ⟨?_, ?_, ?_, ?_, ?_, ?_⟩ <;> simp only [hmain, hserver, hlost, hcaptured]
  · exact h.early
  · exact fun he hc hm => absurd (h.unstarted he hc hm) hstarted
  · exact hcleared
  · exact fun hp hl => absurd (h.lost hp hl) hfrom
  · exact fun he => ⟨fun hl => absurd ((h.made he).1 hl).2 hfrom, fun hn => absurd hn.2 hto⟩
  · intro hl
    obtain ⟨told, hserver, htold⟩ := h.told hl
    refine ⟨told, hserver, htold.trans (and_congr_right (fun _ => ?_))⟩
    exact ⟨fun _ hn => absurd hn hto, fun _ hn => absurd hn hfrom⟩

theorem Stopping.coordinator {point : ShutdownPoint} (h : Stopping options moves s)
    (hrun : Transitions.run (Lifecycle.step options) {} moves = some s) (hc : s.coordinator = .shutdown point) :
    Stopping options (moves ++ [.coordinator]) { (s.shutdownStep point).1 with
      coordinator := ((s.shutdownStep point).2.map .shutdown).getD .ended } := by
  by_cases hp : s.main.Early ∨ s.main.Listening
  swap
  · exact stopping_closing (by simpa using hp)
  have hcleared := h.cleared hp
  rw [hc] at hcleared
  cases point with
  | check =>
    have hr : s.running = true := by
      cases hr : s.running with
      | true => rfl
      | false => exact (hcleared.1 hr).elim
    refine h.going hrun rfl rfl (by simp [hc]) ?_ (by simp [hc]) (by simp [hc]) (fun _ => ?_)
    · simp [Lifecycle.shutdownStep, hr]
    · simp [Lifecycle.shutdownStep, hr, CoordinatorPoint.Cleared]
  | clearRunning =>
    refine h.going hrun rfl rfl (by simp [hc]) ?_ (by simp [hc]) (by simp [hc]) (fun _ => ?_)
    · simp [Lifecycle.shutdownStep]
    · simp [Lifecycle.shutdownStep, CoordinatorPoint.Cleared]
  | log | beginShutdown | setRequested =>
    refine h.going hrun rfl rfl (by simp [hc]) ?_ (by simp [hc]) (by simp [hc]) (fun _ => ?_)
    · simp [Lifecycle.shutdownStep]
    · simpa [Lifecycle.shutdownStep, Lifecycle.logged, CoordinatorPoint.Cleared] using hcleared
  | stopServer =>
    -- its last action: it finds a listener, unless `run` has not made one yet
    have hended : s.coordinator ≠ .ended := by simp [hc]
    have hlost : StopLost options (moves ++ [.coordinator]) ↔ StopLost options moves ∨ s.main = .makeServer := by
      rw [stopLost_snoc hrun]
      simp [hc]
    refine ⟨fun he => ?_, fun he hne hne' => ?_, fun _ => ?_, fun _ _ => rfl, fun he => ?_, fun hl => ?_⟩
    · obtain ⟨hnone, hcaptured⟩ := h.early he
      exact ⟨by simp [Lifecycle.shutdownStep, hnone], by simp [hcaptured]⟩
    · have hunstarted := h.unstarted he hne hne'
      rw [hc] at hunstarted
      cases hunstarted
    · exact hcleared
    · rw [hlost]
      exact ⟨fun hor => ⟨hor.elim (fun hlo => absurd ((h.made he).1 hlo).2 hended) id, rfl⟩, fun hn => .inr hn.1⟩
    · obtain ⟨told, hserver, -⟩ := h.told hl
      have hnot : ¬ StopLost options (moves ++ [.coordinator]) := by
        rw [hlost, not_or]
        refine ⟨fun hlo => hended (h.lost (.inr hl) hlo), fun hm => ?_⟩
        have hl' : s.main.Listening := hl
        rw [hm] at hl'
        exact hl'
      refine ⟨true, by simp [Lifecycle.shutdownStep, hserver], ?_⟩
      exact ⟨fun hf => (nomatch hf), fun hn => absurd (hn.2 rfl) hnot⟩

theorem Stopping.captured (h : Stopping options moves s)
    (hrun : Transitions.run (Lifecycle.step options) {} moves = some s) (hm : s.main = .serving) :
    Stopping options (moves ++ [.captured]) { s with server := some true } := by
  have hlost : StopLost options (moves ++ [.captured]) ↔ StopLost options moves := by
    rw [stopLost_snoc hrun]
    simp
  have hearly : ¬ s.main.Early := by simp [hm, MainPoint.Early]
  refine ⟨fun he => absurd he hearly, fun he => absurd he hearly, h.cleared, fun hp hl => h.lost hp (hlost.1 hl),
    fun he => absurd he hearly, fun _ => ⟨true, rfl, ?_⟩⟩
  simp

/-- **What every move keeps.** -/
theorem Stopping.step (h : Stopping options moves s)
    (hrun : Transitions.run (Lifecycle.step options) {} moves = some s) (hmoved : Moved options s m t) :
    Stopping options (moves ++ [m]) t := by
  cases hmoved with
  | starting hm | refresh hm | startPoller hm =>
    have hearly : s.main.Early := by simp [hm, MainPoint.Early]
    have hunstarted := h.unstarted hearly (by simp [hm]) (by simp [hm])
    exact h.coming hrun hearly (by simp [hm]) (by simp) rfl rfl (fun _ => hunstarted) Iff.rfl trivial
  | startCoordinator hm =>
    have hearly : s.main.Early := by simp [hm, MainPoint.Early]
    have hunstarted := h.unstarted hearly (by simp [hm]) (by simp [hm])
    refine h.coming hrun hearly (by simp [hm]) (by simp) rfl rfl (fun hne => absurd rfl hne) ?_ trivial
    simp [hunstarted, CoordinatorPoint.Cleared]
  | isRunning hm hr =>
    have hearly : s.main.Early := by simp [hm, MainPoint.Early]
    have hcleared := h.cleared (.inl hearly)
    have hended : s.coordinator ≠ .ended := fun hn => by
      rw [hn, hr] at hcleared
      exact nomatch hcleared.2 trivial
    have hlost : ¬ StopLost options (moves ++ [.main]) := by
      rw [stopLost_snoc hrun, h.made hearly]
      simp [hm]
    obtain ⟨hnone, hcaptured⟩ := h.early hearly
    refine ⟨fun _ => ⟨hnone, by simp [hcaptured]⟩, fun _ _ hne => absurd rfl hne, fun _ => hcleared,
      fun _ hl => absurd hl hlost, fun _ => ⟨fun hl => absurd hl hlost, fun hn => absurd hn.2 hended⟩,
      fun hl => (nomatch hl)⟩
  | makeServer hm =>
    have hearly : s.main.Early := by simp [hm, MainPoint.Early]
    have hlost : StopLost options (moves ++ [.main]) ↔ s.coordinator = .ended := by
      rw [stopLost_snoc hrun, h.made hearly]
      simp [hm]
    refine ⟨fun he => (nomatch he), fun he => (nomatch he), fun _ => h.cleared (.inl hearly), fun _ hl => hlost.1 hl,
      fun he => (nomatch he), fun _ => ⟨false, rfl, ?_⟩⟩
    simp [hlost, (h.early hearly).2]
  | logListening hm =>
    have hl : s.main.Listening := by simp [hm, MainPoint.Listening]
    have hlost : StopLost options (moves ++ [.main]) ↔ StopLost options moves := by
      rw [stopLost_snoc hrun]
      simp
    have hcaptured : .captured ∈ moves ++ [.main] ↔ .captured ∈ moves := by simp
    refine ⟨fun he => (nomatch he), fun he => (nomatch he), fun _ => h.cleared (.inr hl), fun _ hlo => ?_,
      fun he => (nomatch he), fun _ => ?_⟩
    · exact h.lost (.inr hl) (hlost.1 hlo)
    · rw [hlost, hcaptured]
      exact h.told hl
  | pollerStops | pollerGoesOn | polled | raised | signal => exact h.frame hrun ⟨by simp, by simp⟩ rfl rfl rfl rfl
  | firstRaised | notRunning | joinPoller | joinCoordinator | pollerDead | pollerAlive | coordinatorDead
  | coordinatorAlive | logTimeout | logCompleted | returned | failed | pollerLeft | coordinatorLeft =>
    exact stopping_closing (by simp [MainPoint.Early, MainPoint.Listening])
  | mainShutdown =>
    refine stopping_closing ?_
    cases (s.shutdownStep _).2 <;> simp [MainPoint.Early, MainPoint.Listening]
  | captured hm => exact h.captured hrun hm
  | coordinatorWakes hc hr =>
    refine h.going hrun rfl rfl (by simp [hc]) (by simp) (by simp [hc]) (by simp [hc]) (fun hp => ?_)
    have hcleared := h.cleared hp
    rw [hc] at hcleared
    exact hcleared
  | coordinatorStarts hc hr =>
    refine h.going hrun rfl rfl (by simp [hc]) (by simp) (by simp [hc]) (by simp [hc]) (fun _ => ?_)
    simp [hr, CoordinatorPoint.Cleared]
  | coordinatorSkips hc hr =>
    refine stopping_closing (fun hp => ?_)
    have hcleared := h.cleared hp
    rw [hc] at hcleared
    exact hcleared.1 hr
  | coordinatorShutdown hc => exact h.coordinator hrun hc

theorem stopping_start : Stopping options [] {} where
  early _ := ⟨rfl, List.not_mem_nil⟩
  unstarted _ _ _ := rfl
  cleared _ := ⟨fun h => (nomatch h), fun h => (nomatch h)⟩
  lost _ h := absurd h Transitions.occurred_nil
  made _ := ⟨fun h => absurd h Transitions.occurred_nil, fun h => (nomatch h.1)⟩
  told h := nomatch h

theorem stopping_run (h : Transitions.run (Lifecycle.step options) {} moves = some s) : Stopping options moves s :=
  Transitions.invariant (Stopping options) stopping_start
    (fun _ _ _ _ hrun hinv hstep => hinv.step hrun (moved_of_step hstep)) h

/-- **When a stop is lost**: with the coordinator at its end and the listener at work, the listener has been told to exit,
but where the coordinator's stop came between the check of `running` and the making of the listener. -/
theorem stop_lost_iff (h : Transitions.run (Lifecycle.step options) {} moves = some s) (hmain : s.main = .serving)
    (hcoordinator : s.coordinator = .ended) :
    s.server = some false ↔ StopLost options moves ∧ .captured ∉ moves := by
  obtain ⟨told, hserver, htold⟩ := (stopping_run h).told (by simp [hmain, MainPoint.Listening])
  rw [hserver, Option.some.injEq, htold, and_comm]
  simp [hcoordinator]

end Stopping

/-- A signal that comes before the listener is made. -/
def lostMoves : List LifecycleMove :=
  List.flatten [List.replicate 5 .main, [.signal], List.replicate 8 .coordinator, [.main, .main]]

def plainRun : RunOptions := ⟨[], 9400, [], []⟩

theorem stop_lost_iff_lostMoves : StopLost plainRun lostMoves ∧ .captured ∉ lostMoves :=
  (stop_lost_iff rfl rfl rfl).1 rfl

/-! ## The end of a shutdown -/

def ShutdownPoint.rank : ShutdownPoint → Nat
  | .check => 6
  | .log => 5
  | .beginShutdown => 4
  | .clearRunning => 3
  | .setRequested => 2
  | .stopServer => 1

/-- Room for the threads that it starts, too. -/
def MainPoint.rank : MainPoint → Nat
  | .starting => 30
  | .refresh => 29
  | .startPoller => 28
  | .startCoordinator => 26
  | .checkRunning => 17
  | .makeServer => 16
  | .logListening => 15
  | .serving => 14
  | .shutdown point _ => 7 + point.rank
  | .joinPoller _ => 7
  | .joinCoordinator _ => 6
  | .examinePoller _ => 5
  | .examineCoordinator _ => 4
  | .logTimeout => 3
  | .logCompleted _ => 3
  | .ended _ => 0
  | .raised => 0

def PollerPoint.rank : PollerPoint → Nat
  | .refresh => 2
  | .wait => 1
  | _ => 0

def CoordinatorPoint.rank : CoordinatorPoint → Nat
  | .wait => 8
  | .checkRunning => 7
  | .shutdown point => point.rank
  | _ => 0

/-- How many actions the threads have left once a shutdown is requested, at most. -/
def Lifecycle.rank (self : Lifecycle) : Nat := self.main.rank + self.poller.rank + self.coordinator.rank

/-- A move of a thread, or of a listener that was told to exit. -/
def LifecycleMove.Own : LifecycleMove → Prop
  | .main | .poller | .coordinator | .returned _ | .firstRaised | .raised => True
  | _ => False

section Ending
variable {options : RunOptions} {moves : List LifecycleMove} {m : LifecycleMove} {s t : Lifecycle}

theorem rank_shutdownStep (point : ShutdownPoint) :
    (s.shutdownStep point).2 = none ∨ ∃ next, (s.shutdownStep point).2 = some next ∧ next.rank < point.rank := by
  cases point with
  | check =>
    cases hr : s.running with
    | false => exact .inl (by simp [Lifecycle.shutdownStep, hr])
    | true => exact .inr ⟨.log, by simp [Lifecycle.shutdownStep, hr], by decide⟩
  | stopServer => exact .inl rfl
  | log | beginShutdown | clearRunning | setRequested => exact .inr ⟨_, rfl, by decide⟩

theorem rank_pos (point : ShutdownPoint) : 0 < point.rank := by cases point <;> decide

theorem requested_shutdownStep (point : ShutdownPoint) (h : s.shutdownRequested = true) :
    (s.shutdownStep point).1.shutdownRequested = true := by
  cases point <;> simp [Lifecycle.shutdownStep, Lifecycle.logged, h]

/-- **A requested shutdown goes on**: each action of a thread leaves it requested, and fewer to come. -/
theorem rank_step (h : s.shutdownRequested = true) (hown : m.Own) (hmoved : Moved options s m t) :
    t.shutdownRequested = true ∧ t.rank < s.rank := by
  cases hmoved with
  | starting hm | refresh hm | firstRaised hm | startPoller hm | startCoordinator hm | isRunning hm | notRunning hm
  | makeServer hm | logListening hm | joinPoller hm | joinCoordinator hm | pollerDead hm | pollerAlive hm | coordinatorDead hm
  | coordinatorAlive hm | logTimeout hm | logCompleted hm | returned hm =>
    refine ⟨h, ?_⟩
    simp only [Lifecycle.rank, Lifecycle.logged, hm, MainPoint.rank, ShutdownPoint.rank, PollerPoint.rank,
      CoordinatorPoint.rank]
    omega
  | @mainShutdown point result hm =>
    refine ⟨requested_shutdownStep point h, ?_⟩
    have hpos := rank_pos point
    rcases rank_shutdownStep (s := s) point with hnone | ⟨next, hnext, hrank⟩
    · simp [Lifecycle.rank, hm, hnone, MainPoint.rank]
      omega
    · simp [Lifecycle.rank, hm, hnext, MainPoint.rank]
      omega
  | pollerStops hp => exact ⟨h, by simp [Lifecycle.rank, hp, PollerPoint.rank]⟩
  | pollerGoesOn _ hr =>
    rw [h] at hr
    cases hr
  | polled hp | raised hp => exact ⟨h, by simp [Lifecycle.rank, hp, PollerPoint.rank]⟩
  | coordinatorWakes hc | coordinatorStarts hc | coordinatorSkips hc =>
    exact ⟨h, by simp [Lifecycle.rank, hc, CoordinatorPoint.rank, ShutdownPoint.rank]⟩
  | @coordinatorShutdown point hc =>
    refine ⟨requested_shutdownStep point h, ?_⟩
    have hpos := rank_pos point
    rcases rank_shutdownStep (s := s) point with hnone | ⟨next, hnext, hrank⟩
    · simp [Lifecycle.rank, hc, hnone, CoordinatorPoint.rank, hpos]
    · simp [Lifecycle.rank, hc, hnext, CoordinatorPoint.rank, hrank]
  | failed | captured | signal | pollerLeft | coordinatorLeft => exact hown.elim

/-- The poller has not been started. -/
def MainPoint.NoPoller : MainPoint → Prop
  | .starting | .refresh | .startPoller | .raised => True
  | _ => False

/-- The coordinator has not been started. -/
def MainPoint.NoCoordinator : MainPoint → Prop
  | .starting | .refresh | .startPoller | .startCoordinator | .raised => True
  | _ => False

/-- A thread has not been started as long as `run` has not come to it, or where an exception has left `run` before. -/
structure Started (s : Lifecycle) : Prop where
  poller : s.poller = .unstarted ↔ s.main.NoPoller
  coordinator : s.coordinator = .unstarted ↔ s.main.NoCoordinator

theorem Started.step (h : Started s) (hmoved : Moved options s m t) : Started t := by
  have hpoller := h.poller
  have hcoordinator := h.coordinator
  cases hmoved with
  | startPoller hm =>
    rw [hm] at hcoordinator
    exact ⟨by simp [MainPoint.NoPoller], hcoordinator⟩
  | startCoordinator hm =>
    rw [hm] at hpoller
    exact ⟨hpoller, by simp [MainPoint.NoCoordinator]⟩
  | starting hm | refresh hm | firstRaised hm | isRunning hm | notRunning hm | makeServer hm | logListening hm
  | joinPoller hm | joinCoordinator hm | pollerDead hm | pollerAlive hm | coordinatorDead hm | coordinatorAlive hm
  | logTimeout hm | logCompleted hm | returned hm | failed hm | pollerLeft hm | coordinatorLeft hm =>
    rw [hm] at hpoller hcoordinator
    exact ⟨hpoller, hcoordinator⟩
  | @mainShutdown point result hm =>
    rw [hm] at hpoller hcoordinator
    rw [← Lifecycle.shutdownStep_poller s point] at hpoller
    rw [← Lifecycle.shutdownStep_coordinator s point] at hcoordinator
    cases hnext : (s.shutdownStep point).2 with
    | none => exact ⟨hpoller, hcoordinator⟩
    | some next => exact ⟨hpoller, hcoordinator⟩
  | pollerStops hp | pollerGoesOn hp | polled hp | raised hp => exact ⟨by simpa [hp] using hpoller, hcoordinator⟩
  | coordinatorWakes hc | coordinatorStarts hc | coordinatorSkips hc =>
    exact ⟨hpoller, by simpa [hc] using hcoordinator⟩
  | @coordinatorShutdown point hc =>
    refine ⟨by simpa using hpoller, ?_⟩
    have hnot : ¬ s.main.NoCoordinator := by simpa [hc] using hcoordinator
    cases hnext : (s.shutdownStep point).2 <;> simpa using hnot
  | captured | signal => exact ⟨hpoller, hcoordinator⟩

theorem started_run (h : Transitions.run (Lifecycle.step options) {} moves = some s) : Started s :=
  Transitions.invariant (fun _ => Started) ⟨by simp [MainPoint.NoPoller], by simp [MainPoint.NoCoordinator]⟩
    (fun _ _ _ _ _ hinv hstep => hinv.step (moved_of_step hstep)) h

theorem unblocked_poller (h : s.step options .poller = none) : s.poller = .unstarted ∨ s.poller = .ended := by
  simp only [Lifecycle.step, Lifecycle.pollerStep] at h
  cases hp : s.poller with
  | unstarted => exact .inl rfl
  | ended => exact .inr rfl
  | wait | refresh =>
    rw [hp] at h
    cases h

theorem unblocked_coordinator (hrequested : s.shutdownRequested = true) (h : s.step options .coordinator = none) :
    s.coordinator = .unstarted ∨ s.coordinator = .ended := by
  simp only [Lifecycle.step, Lifecycle.coordinatorStep] at h
  cases hc : s.coordinator with
  | unstarted => exact .inl rfl
  | ended => exact .inr rfl
  | wait =>
    rw [hc, hrequested] at h
    cases h
  | checkRunning | shutdown =>
    rw [hc] at h
    cases h

theorem blocked_main (h : s.step options .main = none) (hraised : s.main ≠ .raised) :
    s.main = .serving ∨ (∃ code, s.main = .ended code) ∨ (∃ result, s.main = .joinPoller result ∧ s.poller ≠ .ended) ∨
    ∃ result, s.main = .joinCoordinator result ∧ s.coordinator ≠ .ended := by
  simp only [Lifecycle.step, Lifecycle.mainStep] at h
  cases hm : s.main with
  | serving => exact .inl rfl
  | ended code => exact .inr (.inl ⟨code, rfl⟩)
  | raised => exact absurd hm hraised
  | joinPoller result =>
    rw [hm] at h
    refine .inr (.inr (.inl ⟨result, rfl, fun hp => ?_⟩))
    simp [hp] at h
  | joinCoordinator result =>
    rw [hm] at h
    refine .inr (.inr (.inr ⟨result, rfl, fun hc => ?_⟩))
    simp [hc] at h
  | starting | refresh | startPoller | startCoordinator | checkRunning | makeServer | logListening | shutdown |
      examinePoller | examineCoordinator | logTimeout | logCompleted =>
    rw [hm] at h
    cases h

theorem rank_le (s : Lifecycle) : s.rank ≤ 40 := by
  have hmain : s.main.rank ≤ 30 := by
    cases s.main with
    | shutdown point => cases point <;> simp [MainPoint.rank, ShutdownPoint.rank]
    | _ => simp [MainPoint.rank]
  have hpoller : s.poller.rank ≤ 2 := by cases s.poller <;> simp [PollerPoint.rank]
  have hcoordinator : s.coordinator.rank ≤ 8 := by
    cases s.coordinator with
    | shutdown point => cases point <;> simp [CoordinatorPoint.rank, ShutdownPoint.rank]
    | _ => simp [CoordinatorPoint.rank]
  unfold Lifecycle.rank
  omega

/-- Where no thread can go on once the shutdown is requested. -/
theorem ended_of_blocked (h : Transitions.run (Lifecycle.step options) {} moves = some s)
    (hrequested : s.shutdownRequested = true) (hblocked : ∀ m, m.Own → s.step options m = none) :
    (s.main = .raised ∧ s.poller = .unstarted ∧ s.coordinator = .unstarted) ∨
    (s.poller = .ended ∧ s.coordinator = .ended ∧
      ((∃ code, s.main = .ended code) ∨ (s.main = .serving ∧ StopLost options moves ∧ .captured ∉ moves))) := by
  have hstarted := started_run h
  by_cases hraised : s.main = .raised
  · have hp : s.poller = .unstarted := hstarted.poller.2 (by simp [hraised, MainPoint.NoPoller])
    have hc : s.coordinator = .unstarted := hstarted.coordinator.2 (by simp [hraised, MainPoint.NoCoordinator])
    exact .inl ⟨hraised, hp, hc⟩
  have hmain := blocked_main (hblocked .main trivial) hraised
  have hthreads : ¬ s.main.NoPoller ∧ ¬ s.main.NoCoordinator := by
    rcases hmain with hm | ⟨_, hm⟩ | ⟨_, hm, -⟩ | ⟨_, hm, -⟩ <;> simp [hm, MainPoint.NoPoller, MainPoint.NoCoordinator]
  have hp : s.poller = .ended := (unblocked_poller (hblocked .poller trivial)).resolve_left
    (fun hu => hthreads.1 (hstarted.poller.1 hu))
  have hc : s.coordinator = .ended := (unblocked_coordinator hrequested (hblocked .coordinator trivial)).resolve_left
    (fun hu => hthreads.2 (hstarted.coordinator.1 hu))
  refine .inr ⟨hp, hc, ?_⟩
  rcases hmain with hm | hended | ⟨_, -, hne⟩ | ⟨_, -, hne⟩
  · obtain ⟨told, hserver, htold⟩ := (stopping_run h).told (by simp [hm, MainPoint.Listening])
    cases told with
    | true =>
      have hreturn := hblocked (.returned true) trivial
      simp [Lifecycle.step, hm, hserver] at hreturn
    | false =>
      obtain ⟨hcaptured, hlost⟩ := htold.1 rfl
      exact .inr ⟨hm, hlost hc, hcaptured⟩
  · exact .inl hended
  · exact absurd hp hne
  · exact absurd hc hne

/-- **A requested shutdown ends, but for a lost stop**: whatever the threads do next, they have at most forty actions
left, and where none can go on, an exception has left `run` before it started a thread; or both threads have ended, and
`run` too, but where it waits for a listener that the coordinator's stop has missed. -/
theorem shutdown_ends (h : Transitions.run (Lifecycle.step options) {} moves = some s)
    (hrequested : s.shutdownRequested = true) :
    (∀ more t, (∀ m ∈ more, m.Own) → Transitions.run (Lifecycle.step options) s more = some t → more.length ≤ 40) ∧
    ((∀ m, m.Own → s.step options m = none) →
      (s.main = .raised ∧ s.poller = .unstarted ∧ s.coordinator = .unstarted) ∨
      (s.poller = .ended ∧ s.coordinator = .ended ∧
        ((∃ code, s.main = .ended code) ∨ (s.main = .serving ∧ StopLost options moves ∧ .captured ∉ moves)))) := by
  refine ⟨fun more t hown hrun => ?_, fun hblocked => ended_of_blocked h hrequested hblocked⟩
  have hbound := rank_le s
  have hlength := Transitions.length_le_rank (fun _ _ _ hr ho hs => rank_step hr ho (moved_of_step hs)) hrequested
    hown hrun
  omega

/-- The poller ends, too, and `run` waits. -/
theorem shutdown_ends_lostMoves : ∃ s, Transitions.run (Lifecycle.step plainRun) {} (lostMoves ++ [.poller]) = some s ∧
    (∀ more t, (∀ m ∈ more, m.Own) → Transitions.run (Lifecycle.step plainRun) s more = some t → more.length ≤ 40) ∧
    s.main = .serving ∧ StopLost plainRun (lostMoves ++ [.poller]) := by
  have h : (Transitions.run (Lifecycle.step plainRun) {} (lostMoves ++ [.poller])).map
      (fun s => (s.main, s.poller, s.coordinator, s.shutdownRequested, s.server)) =
      some (.serving, .ended, .ended, true, some false) := by decide +kernel
  obtain ⟨s, hrun, hs⟩ := Option.map_eq_some_iff.1 h
  simp only [Prod.mk.injEq] at hs
  obtain ⟨hm, hp, hc, hrequested, hserver⟩ := hs
  obtain ⟨hbound, hblocked⟩ := shutdown_ends hrun hrequested
  have hnone : ∀ m : LifecycleMove, m.Own → s.step plainRun m = none := by
    intro m hown
    cases m with
    | main => simp [Lifecycle.step, Lifecycle.mainStep, hm]
    | poller => simp [Lifecycle.step, Lifecycle.pollerStep, hp]
    | coordinator => simp [Lifecycle.step, Lifecycle.coordinatorStep, hc]
    | returned started => simp [Lifecycle.step, hserver]
    | firstRaised => simp [Lifecycle.step, hm]
    | raised => simp [Lifecycle.step, hp]
    | failed | captured | signal | timedOut => exact hown.elim
  refine ⟨s, hrun, hbound, hm, ?_⟩
  rcases hblocked hnone with ⟨hraised, -⟩ | ⟨-, -, ⟨_, hended⟩ | ⟨-, hlost, -⟩⟩
  · rw [hm] at hraised
    cases hraised
  · rw [hm] at hended
    cases hended
  · exact hlost

end Ending

end Tt
