import TtMetricsExporter.Runtime
import Mathlib.Data.Finset.Card
/-!
# Connections — what the connection gauges count

`_protocol`.  Each connection is a protocol object; its callbacks run one at a time on the event loop.  What uvicorn's
own protocol does to the set of connections that the objects share is the parameter `H11Protocol`.
-/
namespace Tt

/-- The parent's callbacks, as far as they touch the shared set. -/
structure H11Protocol (ι : Type*) [DecidableEq ι] where
  connectionMade : ι → Finset ι → Finset ι
  connectionLost : ι → Finset ι → Finset ι
  connectionMade_eq : ∀ p s, connectionMade p s = insert p s
  connectionLost_eq : ∀ p s, connectionLost p s = s.erase p

structure HttpServerConfig where
  workers : Nat
  queueDepth : Nat

def HttpServerConfig.maximumConnections (config : HttpServerConfig) : Nat := config.workers + config.queueDepth

/-- What the callbacks of all protocol objects work on. -/
structure Listener (ι : Type*) where
  connections : Finset ι := ∅
  status : RuntimeStatus
  /-- The objects that wait for their first request, with a timeout set. -/
  initialRequestTimeouts : Finset ι := ∅
  /-- The objects whose transport was answered with 503 and closed. -/
  unavailable : List ι := []

inductive Callback (ι : Type*) where
  | made (p : ι)
  | lost (p : ι)
  deriving DecidableEq

section
variable {ι : Type*} [DecidableEq ι] (parent : H11Protocol ι) (config : HttpServerConfig)

namespace Listener
variable (self : Listener ι)

/-- No further connection is taken. -/
def Full : Prop := config.maximumConnections ≤ self.connections.card

instance : Decidable (self.Full config) := inferInstanceAs (Decidable (_ ≤ _))

def connectionMade (p : ι) : Listener ι :=
  if self.Full config then
    { self with status := self.status.connectionRejected, unavailable := self.unavailable ++ [p] }
  else
    { self with
      connections := parent.connectionMade p self.connections
      status := self.status.connectionOpened
      initialRequestTimeouts := insert p self.initialRequestTimeouts }

def cancelRequestTimeout (p : ι) : Listener ι :=
  { self with initialRequestTimeouts := self.initialRequestTimeouts.erase p }

def connectionLost (p : ι) : Listener ι :=
  let self := self.cancelRequestTimeout p
  let status := if p ∈ self.connections then self.status.connectionClosed else self.status
  { self with connections := parent.connectionLost p self.connections, status := status }

def step : Callback ι → Listener ι
  | .made p => self.connectionMade parent config p
  | .lost p => self.connectionLost parent p

def run (callbacks : List (Callback ι)) : Listener ι := callbacks.foldl (step parent config) self

/-- How many of the callbacks make a connection while the set is full. -/
def refusals : Listener ι → List (Callback ι) → Nat
  | _, [] => 0
  | self, .made p :: rest => (if self.Full config then 1 else 0) + refusals (self.step parent config (.made p)) rest
  | self, .lost p :: rest => refusals (self.step parent config (.lost p)) rest

end Listener

/-- Each object is made once, and lost at most once after that; some were made or lost before. -/
def Orderly (made lost : Finset ι) : List (Callback ι) → Prop
  | [] => True
  | .made p :: rest => p ∉ made ∧ Orderly (insert p made) lost rest
  | .lost p :: rest => p ∈ made ∧ p ∉ lost ∧ Orderly made (insert p lost) rest

/-- A listener that nothing has called yet. -/
def Listener.start (maxSnapshotAge : Rat) (requireDevice : Bool) : Listener ι where
  status := { maxSnapshotAge := maxSnapshotAge, requireDevice := requireDevice }

/-! ## Invariant -/

/-- The gauge counts the set, which is within its limit and holds objects that were made. -/
structure Accounted (made : Finset ι) (server : Listener ι) : Prop where
  active : server.status.activeConnections = server.connections.card
  bounded : server.connections.card ≤ config.maximumConnections
  live : server.connections ⊆ made

section
variable {parent config} {made lost : Finset ι} {server : Listener ι} {p : ι}

theorem connectionMade_full (h : server.Full config) : server.connectionMade parent config p =
    { server with status := server.status.connectionRejected, unavailable := server.unavailable ++ [p] } := if_pos h

theorem connectionMade_room (h : ¬ server.Full config) : server.connectionMade parent config p = { server with
    connections := insert p server.connections
    status := server.status.connectionOpened
    initialRequestTimeouts := insert p server.initialRequestTimeouts } := by
  unfold Listener.connectionMade
  rw [if_neg h, parent.connectionMade_eq]

theorem connectionLost_live (h : p ∈ server.connections) : server.connectionLost parent p = { server with
    connections := server.connections.erase p
    status := server.status.connectionClosed
    initialRequestTimeouts := server.initialRequestTimeouts.erase p } := by
  unfold Listener.connectionLost Listener.cancelRequestTimeout
  dsimp only
  rw [if_pos h, parent.connectionLost_eq]

/-- Losing an object that is not in the set leaves everything but its timeout. -/
theorem connectionLost_refused (h : p ∉ server.connections) : server.connectionLost parent p =
    { server with initialRequestTimeouts := server.initialRequestTimeouts.erase p } := by
  unfold Listener.connectionLost Listener.cancelRequestTimeout
  dsimp only
  rw [if_neg h, parent.connectionLost_eq, Finset.erase_eq_of_notMem h]

theorem accounted_made (h : Accounted config made server) (hp : p ∉ made) :
    Accounted config (insert p made) (server.connectionMade parent config p) := by
  by_cases hfull : server.Full config
  · rw [connectionMade_full hfull]
    exact ⟨h.active, h.bounded, h.live.trans (Finset.subset_insert p made)⟩
  · have hcard := Finset.card_insert_of_notMem (fun hm => hp (h.live hm))
    have hroom : server.connections.card < config.maximumConnections := Nat.lt_of_not_le hfull
    rw [connectionMade_room hfull]
    refine ⟨?_, ?_, Finset.insert_subset_insert p h.live⟩
    · rw [hcard, ← h.active]
      rfl
    · rw [hcard]
      exact hroom

theorem accounted_lost (h : Accounted config made server) : Accounted config made (server.connectionLost parent p) := by
  by_cases hp : p ∈ server.connections
  · rw [connectionLost_live hp]
    refine ⟨?_, le_trans Finset.card_erase_le h.bounded, (Finset.erase_subset p _).trans h.live⟩
    rw [Finset.card_erase_of_mem hp, ← h.active]
    rfl
  · rw [connectionLost_refused hp]
    exact ⟨h.active, h.bounded, h.live⟩

/-! ## Runs -/

theorem run_made {rest : List (Callback ι)} : server.run parent config (.made p :: rest) =
    (server.connectionMade parent config p).run parent config rest := rfl

theorem run_lost {rest : List (Callback ι)} : server.run parent config (.lost p :: rest) =
    (server.connectionLost parent p).run parent config rest := rfl

theorem orderly_of_append : ∀ {before : List (Callback ι)} {after : List (Callback ι)} {made lost : Finset ι},
    Orderly made lost (before ++ after) → Orderly made lost before
  | [], _, _, _, _ => trivial
  | .made _ :: _, _, _, _, h => ⟨h.1, orderly_of_append h.2⟩
  | .lost _ :: _, _, _, _, h => ⟨h.1, h.2.1, orderly_of_append h.2.2⟩

theorem accounted_run : ∀ {callbacks : List (Callback ι)} {made lost : Finset ι} {server : Listener ι},
    Accounted config made server → Orderly made lost callbacks →
    ∃ made, Accounted config made (server.run parent config callbacks)
  | [], made, _, _, h, _ => ⟨made, h⟩
  | .made _ :: _, _, _, _, h, ho => by
    rw [run_made]
    exact accounted_run (accounted_made h ho.1) ho.2
  | .lost _ :: _, _, _, _, h, ho => by
    rw [run_lost]
    exact accounted_run (accounted_lost h) ho.2.2

theorem rejected_run : ∀ {callbacks : List (Callback ι)} {server : Listener ι},
    (server.run parent config callbacks).status.rejectedConnections =
      server.status.rejectedConnections + server.refusals parent config callbacks
  | [], _ => rfl
  | .made p :: _, server => by
    have hstep : (server.connectionMade parent config p).status.rejectedConnections =
        server.status.rejectedConnections + if server.Full config then 1 else 0 := by
      by_cases hfull : server.Full config
      · rw [connectionMade_full hfull, if_pos hfull]
        rfl
      · rw [connectionMade_room hfull, if_neg hfull]
        rfl
    unfold Listener.refusals
    rw [← Nat.add_assoc, ← hstep, run_made]
    exact rejected_run
  | .lost p :: _, server => by
    have hstep : (server.connectionLost parent p).status.rejectedConnections = server.status.rejectedConnections := by
      by_cases hp : p ∈ server.connections
      · rw [connectionLost_live hp]
        rfl
      · rw [connectionLost_refused hp]
    unfold Listener.refusals
    rw [← hstep, run_lost]
    exact rejected_run

/-- An object that was refused stays out of the set. -/
theorem notMem_run : ∀ {callbacks : List (Callback ι)} {made lost : Finset ι} {server : Listener ι},
    p ∈ made → p ∉ server.connections → Orderly made lost callbacks →
    p ∉ (server.run parent config callbacks).connections
  | [], _, _, _, _, hp, _ => hp
  | .made q :: _, made, _, server, hm, hp, ho => by
    rw [run_made]
    refine notMem_run (Finset.mem_insert_of_mem hm) ?_ ho.2
    by_cases hfull : server.Full config
    · rw [connectionMade_full hfull]
      exact hp
    · rw [connectionMade_room hfull]
      have hne : p ≠ q := fun he => ho.1 (he ▸ hm)
      exact fun hq => (Finset.mem_insert.1 hq).elim hne hp
  | .lost q :: _, _, _, server, hm, hp, ho => by
    rw [run_lost]
    refine notMem_run hm ?_ ho.2.2
    by_cases hq : q ∈ server.connections
    · rw [connectionLost_live hq]
      exact fun hm => hp (Finset.mem_of_mem_erase hm)
    · rw [connectionLost_refused hq]
      exact hp

/-- What is refused after some callbacks is out of the set after further ones. -/
theorem notMem_of_refused {between : List (Callback ι)} :
    ∀ {before : List (Callback ι)} {made lost : Finset ι} {server : Listener ι}, Accounted config made server →
    Orderly made lost (before ++ .made p :: between) → (server.run parent config before).Full config →
    p ∉ (server.run parent config (before ++ .made p :: between)).connections
  | [], made, _, server, h, ho, hfull => by
    have hrefused : server.connectionMade parent config p = _ := connectionMade_full hfull
    have hout : p ∉ (server.connectionMade parent config p).connections := by
      rw [hrefused]
      exact fun hm => ho.1 (h.live hm)
    rw [List.nil_append, run_made]
    exact notMem_run (Finset.mem_insert_self p made) hout ho.2
  | .made _ :: _, _, _, _, h, ho, hfull => by
    rw [List.cons_append, run_made]
    exact notMem_of_refused (accounted_made h ho.1) ho.2 hfull
  | .lost _ :: _, _, _, _, h, ho, hfull => by
    rw [List.cons_append, run_lost]
    exact notMem_of_refused (accounted_lost h) ho.2.2 hfull

end

/-- **The gauges account for every connection**: the active one is the size of the set, within the limit and without
the help of its clamp; the rejected one counts the connections that were made while the set was full; and losing one of
these changes nothing. -/
theorem connections_accounted (maxSnapshotAge : Rat) (requireDevice : Bool) {callbacks : List (Callback ι)}
    (h : Orderly ∅ ∅ callbacks) :
    let run := (Listener.start maxSnapshotAge requireDevice).run parent config
    (run callbacks).status.activeConnections = (run callbacks).connections.card ∧
    (run callbacks).status.activeConnections ≤ config.workers + config.queueDepth ∧
    (run callbacks).status.rejectedConnections =
      (Listener.start maxSnapshotAge requireDevice).refusals parent config callbacks ∧
    (∀ before p after, callbacks = before ++ .lost p :: after → p ∈ (run before).connections →
      0 < (run before).status.activeConnections) ∧
    ∀ before p between after, callbacks = before ++ .made p :: (between ++ .lost p :: after) →
      (run before).Full config →
      let refused := run (before ++ .made p :: between)
      (refused.connectionLost parent p).connections = refused.connections ∧
      (refused.connectionLost parent p).status = refused.status := by
  intro run
  have hstart : Accounted config ∅ (Listener.start maxSnapshotAge requireDevice : Listener ι) :=
    ⟨rfl, Nat.zero_le _, Finset.Subset.refl ∅⟩
  obtain ⟨made, hrun⟩ : ∃ made, Accounted config made (run callbacks) := accounted_run hstart h
  refine ⟨hrun.active, hrun.active ▸ hrun.bounded, ?_, ?_, ?_⟩
  · exact rejected_run.trans (Nat.zero_add _)
  · intro before p after hc hp
    obtain ⟨made, hbefore⟩ : ∃ made, Accounted config made (run before) :=
      accounted_run hstart (orderly_of_append (hc ▸ h))
    rw [hbefore.active]
    exact Finset.card_pos.2 ⟨p, hp⟩
  · intro before p between after hc hfull refused
    have ho : Orderly ∅ ∅ ((before ++ .made p :: between) ++ .lost p :: after) := by
      rw [List.append_assoc]
      exact hc ▸ h
    have hp := notMem_of_refused hstart (orderly_of_append ho) hfull
    have hlost : refused.connectionLost parent p = _ := connectionLost_refused hp
    rw [hlost]
    exact ⟨rfl, rfl⟩

/-- uvicorn's protocol. -/
def h11Protocol : H11Protocol ι where
  connectionMade p s := insert p s
  connectionLost p s := s.erase p
  connectionMade_eq _ _ := rfl
  connectionLost_eq _ _ := rfl

/-- Two connections where one is allowed: the second is refused, and lost before the first. -/
theorem two_connections_accounted :
    let run := (Listener.start 15 false).run (h11Protocol : H11Protocol Nat) ⟨1, 0⟩
    (run [.made 0, .made 1, .lost 1]).status.activeConnections = (run [.made 0, .made 1, .lost 1]).connections.card ∧
    (run [.made 0, .made 1, .lost 1]).status.rejectedConnections = 1 ∧
    ((run [.made 0, .made 1]).connectionLost h11Protocol 1).status = (run [.made 0, .made 1]).status := by
  have h : Orderly ∅ ∅ [.made 0, .made 1, .lost 1] := ⟨by decide, by decide, by decide, by decide, trivial⟩
  obtain ⟨hactive, -, hrejected, -, hrefused⟩ :=
    connections_accounted (h11Protocol : H11Protocol Nat) ⟨1, 0⟩ 15 false h
  have hfull : ((Listener.start 15 false).run (h11Protocol : H11Protocol Nat) ⟨1, 0⟩ [.made 0]).Full ⟨1, 0⟩ := by decide
  exact ⟨hactive, hrejected.trans (by decide), (hrefused [.made 0] 1 [] [] rfl hfull).2⟩

end
end Tt
