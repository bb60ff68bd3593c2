import TtMetricsExporter.Reporting
import TtMetricsExporter.Transitions
/-!
# Lifecycle — a run of the exporter, from its start to its return

`ExporterService.run` with its two threads, `HttpServer.serve` and `HttpServer.stop`, and what the system and uvicorn may
do in between.  A state holds where each of the three threads stands; each of their actions on what they share is a move
of its own.
-/
namespace Tt

open Py (Str strInt)

/-! ## Where the threads stand -/

/-- The actions of `ExporterService.shutdown`, the next one. -/
inductive ShutdownPoint where
  | check
  | log
  | beginShutdown
  | clearRunning
  | setRequested
  | stopServer
  deriving DecidableEq, Repr

/-- The next action of `run`, with the exit code that `serve` has returned; an exception leaves it for good. -/
inductive MainPoint where
  | starting
  | refresh
  | startPoller
  | startCoordinator
  | checkRunning
  | makeServer
  | logListening
  | serving
  | shutdown (point : ShutdownPoint) (result : Nat)
  | joinPoller (result : Nat)
  | joinCoordinator (result : Nat)
  | examinePoller (result : Nat)
  | examineCoordinator (result : Nat)
  | logTimeout
  | logCompleted (result : Nat)
  | ended (code : Nat)
  | raised
  deriving DecidableEq, Repr

/-- The next action of `poll`. -/
inductive PollerPoint where
  | unstarted
  | wait
  | refresh
  | ended
  deriving DecidableEq, Repr

/-- The next action of `coordinate_shutdown`. -/
inductive CoordinatorPoint where
  | unstarted
  | wait
  | checkRunning
  | shutdown (point : ShutdownPoint)
  | ended
  deriving DecidableEq, Repr

/-- What is written when the exporter starts. -/
structure RunOptions where
  listenAddress : Str
  port : Nat
  version : Str
  revision : Str

structure Lifecycle where
  running : Bool := true
  shutdownRequested : Bool := false
  /-- `HttpServer._server`, with its `should_exit`. -/
  server : Option Bool := none
  shuttingDown : Bool := false
  log : List LogCall := []
  main : MainPoint := .starting
  poller : PollerPoint := .unstarted
  coordinator : CoordinatorPoint := .unstarted

/-! ## The lines of the log -/

def startingCall (options : RunOptions) : LogCall :=
  plainCall .info "exporter.starting" "Tenstorrent metrics exporter starting"
    [("address".toList, options.listenAddress), ("port".toList, strInt options.port),
      ("version".toList, options.version), ("revision".toList, options.revision)]

def listenCall (options : RunOptions) : LogCall :=
  plainCall .info "http.listen_started" "HTTP listener started"
    [("address".toList, options.listenAddress), ("port".toList, strInt options.port)]

def activationFailedCall : LogCall := plainCall .error "http.request_rejected" "listener activation failed"

/-- `str` of a flag. -/
def strBool (b : Bool) : Str := if b then "True".toList else "False".toList

def shutdownTimeoutCall (pollerAlive coordinatorAlive : Bool) : LogCall :=
  plainCall .warn "exporter.shutdown_timeout" "shutdown did not complete within grace period"
    [("poller_alive".toList, strBool pollerAlive), ("coordinator_alive".toList, strBool coordinatorAlive)]

def shutdownCompletedCall : LogCall := plainCall .info "exporter.shutdown_completed" "exporter shutdown completed"

/-! ## Moves -/

/-- An action of a thread, or what uvicorn, the clock or a signal does. -/
inductive LifecycleMove where
  | main
  | poller
  | coordinator
  /-- uvicorn's `run` returns because it was told to, having started or not. -/
  | returned (started : Bool)
  /-- uvicorn's `run` raises `OSError` or `SystemExit`. -/
  | failed
  /-- uvicorn's own handler takes a signal. -/
  | captured
  /-- `request_shutdown`, as a signal handler. -/
  | signal
  /-- A `join` gives up. -/
  | timedOut
  /-- The refresh of `run` raises. -/
  | firstRaised
  /-- A refresh of the poller raises. -/
  | raised
  deriving DecidableEq, Repr

namespace Lifecycle

def logged (self : Lifecycle) (call : LogCall) : Lifecycle := { self with log := self.log ++ [call] }

/-- One action of `shutdown`, and the next one where there is any. -/
def shutdownStep (self : Lifecycle) : ShutdownPoint → Lifecycle × Option ShutdownPoint
  | .check => (self, if self.running then some .log else none)
  | .log => (self.logged shutdownCall, some .beginShutdown)
  | .beginShutdown => ({ self with shuttingDown := true }, some .clearRunning)
  | .clearRunning => ({ self with running := false }, some .setRequested)
  | .setRequested => ({ self with shutdownRequested := true }, some .stopServer)
  | .stopServer => ({ self with server := self.server.map (fun _ => true) }, none)

/-- `run`, with `serve` where it stands in it; a refresh that raises is a move of its own. -/
def mainStep (options : RunOptions) (self : Lifecycle) : Option Lifecycle :=
  match self.main with
  | .starting => some { self.logged (startingCall options) with main := .refresh }
  | .refresh => some { self with main := .startPoller }
  | .startPoller => some { self with main := .startCoordinator, poller := .wait }
  | .startCoordinator => some { self with main := .checkRunning, coordinator := .wait }
  | .checkRunning => some { self with main := if self.running then .makeServer else .shutdown .check 0 }
  | .makeServer => some { self with main := .logListening, server := some false }
  | .logListening => some { self.logged (listenCall options) with main := .serving }
  | .serving => none
  | .shutdown point result =>
    let next := self.shutdownStep point
    some { next.1 with main := (next.2.map (fun point => .shutdown point result)).getD (.joinPoller result) }
  | .joinPoller result => if self.poller = .ended then some { self with main := .joinCoordinator result } else none
  | .joinCoordinator result =>
    if self.coordinator = .ended then some { self with main := .examinePoller result } else none
  | .examinePoller result =>
    some { self with main := if self.poller = .ended then .examineCoordinator result else .logTimeout }
  | .examineCoordinator result =>
    some { self with main := if self.coordinator = .ended then .logCompleted result else .logTimeout }
  | .logTimeout =>
    let call := shutdownTimeoutCall (self.poller ≠ .ended) (self.coordinator ≠ .ended)
    some { self.logged call with main := .ended 1 }
  | .logCompleted result => some { self.logged shutdownCompletedCall with main := .ended result }
  | .ended _ => none
  | .raised => none

/-- `poll` -/
def pollerStep (self : Lifecycle) : Option Lifecycle :=
  match self.poller with
  | .wait => some { self with poller := if self.shutdownRequested then .ended else .refresh }
  | .refresh => some { self with poller := .wait }
  | _ => none

/-- `coordinate_shutdown` -/
def coordinatorStep (self : Lifecycle) : Option Lifecycle :=
  match self.coordinator with
  | .wait => if self.shutdownRequested then some { self with coordinator := .checkRunning } else none
  | .checkRunning => some { self with coordinator := if self.running then .shutdown .check else .ended }
  | .shutdown point =>
    let next := self.shutdownStep point
    some { next.1 with coordinator := (next.2.map .shutdown).getD .ended }
  | _ => none

def step (options : RunOptions) (self : Lifecycle) : LifecycleMove → Option Lifecycle
  | .main => self.mainStep options
  | .poller => self.pollerStep
  | .coordinator => self.coordinatorStep
  | .returned started =>
    if self.main = .serving ∧ self.server = some true then
      some { self with main := .shutdown .check (if started then 0 else 1) }
    else none
  | .failed =>
    if self.main = .serving then some { self.logged activationFailedCall with main := .shutdown .check 1 } else none
  | .captured => if self.main = .serving then some { self with server := some true } else none
  | .signal =>
    match self.main with
    | .ended _ => none
    | .raised => none
    | _ => some { self with shutdownRequested := true }
  | .timedOut =>
    match self.main with
    | .joinPoller result => some { self with main := .joinCoordinator result }
    | .joinCoordinator result => some { self with main := .examinePoller result }
    | _ => none
  | .firstRaised => if self.main = .refresh then some { self with main := .raised } else none
  | .raised => if self.poller = .refresh then some { self with poller := .ended } else none

end Lifecycle

/-! ## One action of a shutdown -/

namespace Lifecycle

section Frame
variable (self : Lifecycle) (point : ShutdownPoint)

@[simp] theorem shutdownStep_main : (self.shutdownStep point).1.main = self.main := by cases point <;> rfl

@[simp] theorem shutdownStep_poller : (self.shutdownStep point).1.poller = self.poller := by cases point <;> rfl

@[simp] theorem shutdownStep_coordinator : (self.shutdownStep point).1.coordinator = self.coordinator := by
  cases point <;> rfl

end Frame

end Lifecycle

/-! ## What a move does -/

/-- What each move can do, by where the threads stand. -/
inductive Moved (options : RunOptions) (s : Lifecycle) : LifecycleMove → Lifecycle → Prop where
  | starting (hm : s.main = .starting) :
      Moved options s .main { s.logged (startingCall options) with main := .refresh }
  | refresh (hm : s.main = .refresh) : Moved options s .main { s with main := .startPoller }
  | firstRaised (hm : s.main = .refresh) : Moved options s .firstRaised { s with main := .raised }
  | startPoller (hm : s.main = .startPoller) :
      Moved options s .main { s with main := .startCoordinator, poller := .wait }
  | startCoordinator (hm : s.main = .startCoordinator) :
      Moved options s .main { s with main := .checkRunning, coordinator := .wait }
  | isRunning (hm : s.main = .checkRunning) (hr : s.running = true) :
      Moved options s .main { s with main := .makeServer }
  | notRunning (hm : s.main = .checkRunning) (hr : s.running = false) :
      Moved options s .main { s with main := .shutdown .check 0 }
  | makeServer (hm : s.main = .makeServer) :
      Moved options s .main { s with main := .logListening, server := some false }
  | logListening (hm : s.main = .logListening) :
      Moved options s .main { s.logged (listenCall options) with main := .serving }
  | mainShutdown {point : ShutdownPoint} {result : Nat} (hm : s.main = .shutdown point result) :
      Moved options s .main { (s.shutdownStep point).1 with
        main := ((s.shutdownStep point).2.map (fun point => .shutdown point result)).getD (.joinPoller result) }
  | joinPoller {result : Nat} (hm : s.main = .joinPoller result) (hp : s.poller = .ended) :
      Moved options s .main { s with main := .joinCoordinator result }
  | joinCoordinator {result : Nat} (hm : s.main = .joinCoordinator result) (hc : s.coordinator = .ended) :
      Moved options s .main { s with main := .examinePoller result }
  | pollerDead {result : Nat} (hm : s.main = .examinePoller result) (hp : s.poller = .ended) :
      Moved options s .main { s with main := .examineCoordinator result }
  | pollerAlive {result : Nat} (hm : s.main = .examinePoller result) (hp : s.poller ≠ .ended) :
      Moved options s .main { s with main := .logTimeout }
  | coordinatorDead {result : Nat} (hm : s.main = .examineCoordinator result) (hc : s.coordinator = .ended) :
      Moved options s .main { s with main := .logCompleted result }
  | coordinatorAlive {result : Nat} (hm : s.main = .examineCoordinator result) (hc : s.coordinator ≠ .ended) :
      Moved options s .main { s with main := .logTimeout }
  | logTimeout (hm : s.main = .logTimeout) :
      Moved options s .main { s.logged (shutdownTimeoutCall (s.poller ≠ .ended) (s.coordinator ≠ .ended)) with
        main := .ended 1 }
  | logCompleted {result : Nat} (hm : s.main = .logCompleted result) :
      Moved options s .main { s.logged shutdownCompletedCall with main := .ended result }
  | pollerStops (hp : s.poller = .wait) (hr : s.shutdownRequested = true) :
      Moved options s .poller { s with poller := .ended }
  | pollerGoesOn (hp : s.poller = .wait) (hr : s.shutdownRequested = false) :
      Moved options s .poller { s with poller := .refresh }
  | polled (hp : s.poller = .refresh) : Moved options s .poller { s with poller := .wait }
  | raised (hp : s.poller = .refresh) : Moved options s .raised { s with poller := .ended }
  | coordinatorWakes (hc : s.coordinator = .wait) (hr : s.shutdownRequested = true) :
      Moved options s .coordinator { s with coordinator := .checkRunning }
  | coordinatorStarts (hc : s.coordinator = .checkRunning) (hr : s.running = true) :
      Moved options s .coordinator { s with coordinator := .shutdown .check }
  | coordinatorSkips (hc : s.coordinator = .checkRunning) (hr : s.running = false) :
      Moved options s .coordinator { s with coordinator := .ended }
  | coordinatorShutdown {point : ShutdownPoint} (hc : s.coordinator = .shutdown point) :
      Moved options s .coordinator { (s.shutdownStep point).1 with
        coordinator := ((s.shutdownStep point).2.map .shutdown).getD .ended }
  | returned {started : Bool} (hm : s.main = .serving) (hs : s.server = some true) :
      Moved options s (.returned started) { s with main := .shutdown .check (if started then 0 else 1) }
  | failed (hm : s.main = .serving) :
      Moved options s .failed { s.logged activationFailedCall with main := .shutdown .check 1 }
  | captured (hm : s.main = .serving) : Moved options s .captured { s with server := some true }
  | signal : Moved options s .signal { s with shutdownRequested := true }
  | pollerLeft {result : Nat} (hm : s.main = .joinPoller result) :
      Moved options s .timedOut { s with main := .joinCoordinator result }
  | coordinatorLeft {result : Nat} (hm : s.main = .joinCoordinator result) :
      Moved options s .timedOut { s with main := .examinePoller result }

section Moved
variable {options : RunOptions} {m : LifecycleMove} {s t : Lifecycle}

theorem moved_main (h : s.mainStep options = some t) : Moved options s .main t := by
  unfold Lifecycle.mainStep at h
  cases hm : s.main with
  | serving | ended | raised =>
    rw [hm] at h
    cases h
  | starting =>
    rw [hm] at h
    obtain rfl := Option.some.inj h
    exact .starting hm
  | refresh =>
    rw [hm] at h
    obtain rfl := Option.some.inj h
    exact .refresh hm
  | startPoller =>
    rw [hm] at h
    obtain rfl := Option.some.inj h
    exact .startPoller hm
  | startCoordinator =>
    rw [hm] at h
    obtain rfl := Option.some.inj h
    exact .startCoordinator hm
  | checkRunning =>
    rw [hm] at h
    obtain rfl := Option.some.inj h
    by_cases hr : s.running = true
    · rw [if_pos hr]
      exact .isRunning hm hr
    · rw [if_neg hr]
      exact .notRunning hm (Bool.eq_false_iff.2 hr)
  | makeServer =>
    rw [hm] at h
    obtain rfl := Option.some.inj h
    exact .makeServer hm
  | logListening =>
    rw [hm] at h
    obtain rfl := Option.some.inj h
    exact .logListening hm
  | shutdown point result =>
    rw [hm] at h
    obtain rfl := Option.some.inj h
    exact .mainShutdown hm
  | joinPoller result =>
    rw [hm] at h
    obtain ⟨hp, he⟩ := Option.ite_none_right_eq_some.1 h
    obtain rfl := Option.some.inj he
    exact .joinPoller hm hp
  | joinCoordinator result =>
    rw [hm] at h
    obtain ⟨hc, he⟩ := Option.ite_none_right_eq_some.1 h
    obtain rfl := Option.some.inj he
    exact .joinCoordinator hm hc
  | examinePoller result =>
    rw [hm] at h
    obtain rfl := Option.some.inj h
    by_cases hp : s.poller = .ended
    · rw [if_pos hp]
      exact .pollerDead hm hp
    · rw [if_neg hp]
      exact .pollerAlive hm hp
  | examineCoordinator result =>
    rw [hm] at h
    obtain rfl := Option.some.inj h
    by_cases hc : s.coordinator = .ended
    · rw [if_pos hc]
      exact .coordinatorDead hm hc
    · rw [if_neg hc]
      exact .coordinatorAlive hm hc
  | logTimeout =>
    rw [hm] at h
    obtain rfl := Option.some.inj h
    exact .logTimeout hm
  | logCompleted result =>
    rw [hm] at h
    obtain rfl := Option.some.inj h
    exact .logCompleted hm

/-- **What an enabled move has done.** -/
theorem moved_of_step (h : s.step options m = some t) : Moved options s m t := by
  cases m with
  | main => exact moved_main h
  | poller =>
    simp only [Lifecycle.step, Lifecycle.pollerStep] at h
    cases hp : s.poller with
    | unstarted | ended =>
      rw [hp] at h
      cases h
    | wait =>
      rw [hp] at h
      obtain rfl := Option.some.inj h
      by_cases hr : s.shutdownRequested = true
      · rw [if_pos hr]
        exact .pollerStops hp hr
      · rw [if_neg hr]
        exact .pollerGoesOn hp (Bool.eq_false_iff.2 hr)
    | refresh =>
      rw [hp] at h
      obtain rfl := Option.some.inj h
      exact .polled hp
  | coordinator =>
    simp only [Lifecycle.step, Lifecycle.coordinatorStep] at h
    cases hc : s.coordinator with
    | unstarted | ended =>
      rw [hc] at h
      cases h
    | wait =>
      rw [hc] at h
      obtain ⟨hr, he⟩ := Option.ite_none_right_eq_some.1 h
      obtain rfl := Option.some.inj he
      exact .coordinatorWakes hc hr
    | checkRunning =>
      rw [hc] at h
      obtain rfl := Option.some.inj h
      by_cases hr : s.running = true
      · rw [if_pos hr]
        exact .coordinatorStarts hc hr
      · rw [if_neg hr]
        exact .coordinatorSkips hc (Bool.eq_false_iff.2 hr)
    | shutdown point =>
      rw [hc] at h
      obtain rfl := Option.some.inj h
      exact .coordinatorShutdown hc
  | returned started =>
    obtain ⟨⟨hm, hs⟩, he⟩ := Option.ite_none_right_eq_some.1 h
    obtain rfl := Option.some.inj he
    exact .returned hm hs
  | failed =>
    obtain ⟨hm, he⟩ := Option.ite_none_right_eq_some.1 h
    obtain rfl := Option.some.inj he
    exact .failed hm
  | captured =>
    obtain ⟨hm, he⟩ := Option.ite_none_right_eq_some.1 h
    obtain rfl := Option.some.inj he
    exact .captured hm
  | signal =>
    simp only [Lifecycle.step] at h
    split at h
    · cases h
    · cases h
    · obtain rfl := Option.some.inj h
      exact .signal
  | timedOut =>
    simp only [Lifecycle.step] at h
    split at h
    · rename_i hm
      obtain rfl := Option.some.inj h
      exact .pollerLeft hm
    · rename_i hm
      obtain rfl := Option.some.inj h
      exact .coordinatorLeft hm
    · cases h
  | firstRaised =>
    obtain ⟨hm, he⟩ := Option.ite_none_right_eq_some.1 h
    obtain rfl := Option.some.inj he
    exact .firstRaised hm
  | raised =>
    obtain ⟨hp, he⟩ := Option.ite_none_right_eq_some.1 h
    obtain rfl := Option.some.inj he
    exact .raised hp

end Moved

end Tt
