import TtMetricsExporter.Connections
/-!
# Deadlines — a connection has so long for its first request

The rest of `_protocol`: the timer that each accepted connection is given, what cancels it, and the answer where nothing
did.  To the callbacks of `Connections` come received data, of which the parent tells whether a request's head is
complete by now, the closing of a transport, and the loop's run of a timer that is still pending.
-/
namespace Tt

inductive ProtocolEvent (ι : Type*) where
  | made (p : ι)
  /-- Data has come, and with it the head of a request or not. -/
  | received (p : ι) (complete : Bool)
  /-- The transport begins to close for another reason than the deadline. -/
  | closing (p : ι)
  /-- The deadline has come. -/
  | expired (p : ι)
  | lost (p : ι)
  deriving DecidableEq

namespace ProtocolEvent
variable {ι : Type*}

/-- The protocol object whose callback it is. -/
def object : ProtocolEvent ι → ι
  | made p => p
  | received p _ => p
  | closing p => p
  | expired p => p
  | lost p => p

/-- The callback of `Connections` that it is, if it is one. -/
def callback : ProtocolEvent ι → Option (Callback ι)
  | made p => some (.made p)
  | lost p => some (.lost p)
  | _ => none

end ProtocolEvent

/-- The listener with what the timers read and do. -/
structure BoundedListener (ι : Type*) extends Listener ι where
  /-- The objects whose `scope` is set. -/
  scopes : Finset ι := ∅
  /-- The objects whose transport is closing. -/
  closings : Finset ι := ∅
  /-- The objects whose transport was answered with 400 at the deadline. -/
  badRequests : List ι := []

section
variable {ι : Type*} [DecidableEq ι] (parent : H11Protocol ι) (config : HttpServerConfig)

namespace BoundedListener
variable (self : BoundedListener ι)

def connectionMade (p : ι) : BoundedListener ι :=
  { self with
    toListener := self.toListener.connectionMade parent config p
    closings := if self.Full config then insert p self.closings else self.closings }

def dataReceived (p : ι) (complete : Bool) : BoundedListener ι :=
  let self := { self with scopes := if complete then insert p self.scopes else self.scopes }
  if p ∈ self.scopes then { self with toListener := self.cancelRequestTimeout p } else self

def connectionLost (p : ι) : BoundedListener ι :=
  { self with toListener := self.toListener.connectionLost parent p }

/-- `_request_timed_out`, where the timer is pending. -/
def requestTimedOut (p : ι) : BoundedListener ι :=
  if p ∈ self.initialRequestTimeouts then
    let self := { self with toListener := self.cancelRequestTimeout p }
    if p ∉ self.scopes ∧ p ∉ self.closings then
      { self with badRequests := self.badRequests ++ [p], closings := insert p self.closings }
    else self
  else self

def step : ProtocolEvent ι → BoundedListener ι
  | .made p => self.connectionMade parent config p
  | .received p complete => self.dataReceived p complete
  | .closing p => { self with closings := insert p self.closings }
  | .expired p => self.requestTimedOut p
  | .lost p => self.connectionLost parent p

def run (events : List (ProtocolEvent ι)) : BoundedListener ι := events.foldl (step parent config) self

/-- Nothing has been called yet. -/
def start (maxSnapshotAge : Rat) (requireDevice : Bool) : BoundedListener ι where
  toListener := .start maxSnapshotAge requireDevice

end BoundedListener

/-- Each object is made first and once, and nothing of it comes after its loss. -/
def InTurn (events : List (ProtocolEvent ι)) : Prop :=
  ∀ before e after, events = before ++ e :: after →
    ((∃ p, e = .made p) ∧ ∀ e' ∈ before, e'.object ≠ e.object) ∨
      ((∀ p, e ≠ .made p) ∧ .made e.object ∈ before ∧ .lost e.object ∉ before)

omit [DecidableEq ι] in
theorem inTurn_of_append {before after : List (ProtocolEvent ι)} (h : InTurn (before ++ after)) : InTurn before := by
  intro before' e after' he
  exact h before' e (after' ++ after) (by rw [he, List.append_assoc]; rfl)

omit [DecidableEq ι] in
theorem inTurn_snoc {events : List (ProtocolEvent ι)} {e : ProtocolEvent ι} (h : InTurn events)
    (he : ((∃ p, e = .made p) ∧ ∀ e' ∈ events, e'.object ≠ e.object) ∨
      ((∀ p, e ≠ .made p) ∧ .made e.object ∈ events ∧ .lost e.object ∉ events)) : InTurn (events ++ [e]) := by
  intro before e' after heq
  rcases List.eq_nil_or_concat after with rfl | ⟨after, last, rfl⟩
  · obtain ⟨rfl, hlast⟩ := List.append_inj' heq rfl
    obtain rfl := (List.cons.inj hlast).1
    exact he
  · rw [List.concat_eq_append, ← List.cons_append, ← List.append_assoc] at heq
    exact h before e' after (List.append_inj' heq rfl).1

/-! ## One event -/

/-- What has happened to an object: it was accepted and is open, without a request, and its deadline has not come. -/
structure Bounded (events : List (ProtocolEvent ι)) (server : BoundedListener ι) : Prop where
  /-- A timer is pending for every connection that waits for its first request before its deadline, and for no other. -/
  pending : ∀ p, p ∈ server.initialRequestTimeouts ↔
    p ∈ server.connections ∧ p ∉ server.scopes ∧ .expired p ∉ events
  inScope : ∀ p, p ∈ server.scopes ↔ .received p true ∈ events
  known : ∀ p, (∀ e ∈ events, e.object ≠ p) → p ∉ server.connections
  answered : ∀ p ∈ server.badRequests, .expired p ∈ events
  nodup : server.badRequests.Nodup

variable {parent config} {events : List (ProtocolEvent ι)} {server : BoundedListener ι} {p : ι}

omit [DecidableEq ι] in
theorem mem_append_of_ne {e e' : ProtocolEvent ι} (h : e ≠ e') : e ∈ events ++ [e'] ↔ e ∈ events := by
  rw [List.mem_append, List.mem_singleton]
  exact or_iff_left h

omit [DecidableEq ι] in
theorem objects_of_append {e : ProtocolEvent ι} {q : ι} (h : ∀ e' ∈ events ++ [e], e'.object ≠ q) :
    (∀ e' ∈ events, e'.object ≠ q) ∧ e.object ≠ q :=
  ⟨fun e' he => h e' (List.mem_append_left _ he), h e (List.mem_append_right _ List.mem_cons_self)⟩

omit [DecidableEq ι] in
theorem inScope_snoc {e : ProtocolEvent ι} (h : Bounded events server) (he : ∀ q, .received q true ≠ e) (q : ι) :
    q ∈ server.scopes ↔ .received q true ∈ events ++ [e] :=
  (h.inScope q).trans (mem_append_of_ne (he q)).symm

theorem bounded_made (h : Bounded events server) (hp : ∀ e ∈ events, e.object ≠ p) :
    Bounded (events ++ [.made p]) (server.connectionMade parent config p) := by
  have hscope : p ∉ server.scopes := fun hm => hp _ ((h.inScope p).1 hm) rfl
  have hfresh : .expired p ∉ events := fun hm => hp _ hm rfl
  have hexpired : ∀ q, (.expired q : ProtocolEvent ι) ∈ events ++ [.made p] ↔ .expired q ∈ events := fun q =>
    mem_append_of_ne (fun he => nomatch he)
  have hinScope : ∀ q, q ∈ server.scopes ↔ (.received q true : ProtocolEvent ι) ∈ events ++ [.made p] :=
    inScope_snoc h (fun q he => nomatch he)
  by_cases hfull : server.Full config
  · refine ⟨fun q => ?_, hinScope, fun q hq => ?_, fun q hq => ?_, h.nodup⟩
    · rw [hexpired]
      show q ∈ (server.toListener.connectionMade parent config p).initialRequestTimeouts ↔
        q ∈ (server.toListener.connectionMade parent config p).connections ∧ _
      rw [connectionMade_full hfull]
      exact h.pending q
    · show q ∉ (server.toListener.connectionMade parent config p).connections
      rw [connectionMade_full hfull]
      exact h.known q (objects_of_append hq).1
    · exact (hexpired q).2 (h.answered q hq)
  · refine ⟨fun q => ?_, hinScope, fun q hq => ?_, fun q hq => ?_, h.nodup⟩
    · rw [hexpired]
      show q ∈ (server.toListener.connectionMade parent config p).initialRequestTimeouts ↔
        q ∈ (server.toListener.connectionMade parent config p).connections ∧ q ∉ server.scopes ∧ _
      rw [connectionMade_room hfull]
      simp only [Finset.mem_insert]
      by_cases hq : q = p
      · subst hq
        simp [hscope, hfresh]
      · simp [hq, h.pending q]
    · obtain ⟨hold, hne⟩ := objects_of_append hq
      show q ∉ (server.toListener.connectionMade parent config p).connections
      rw [connectionMade_room hfull]
      exact fun hm => (Finset.mem_insert.1 hm).elim (fun he => hne he.symm) (h.known q hold)
    · exact (hexpired q).2 (h.answered q hq)

theorem bounded_received (h : Bounded events server) (complete : Bool) :
    Bounded (events ++ [.received p complete]) (server.dataReceived p complete) := by
  have hexpired : ∀ q, (.expired q : ProtocolEvent ι) ∈ events ++ [.received p complete] ↔ .expired q ∈ events :=
    fun q => mem_append_of_ne (fun he => nomatch he)
  have hstate : (server.dataReceived p complete).connections = server.connections ∧
      (server.dataReceived p complete).badRequests = server.badRequests ∧
      (∀ q, q ∈ (server.dataReceived p complete).scopes ↔ q ∈ server.scopes ∨ (q = p ∧ complete = true)) ∧
      (∀ q, q ∈ (server.dataReceived p complete).initialRequestTimeouts ↔ q ∈ server.initialRequestTimeouts ∧
        ¬ (q = p ∧ q ∈ (server.dataReceived p complete).scopes)) := by
    unfold BoundedListener.dataReceived
    dsimp only
    split_ifs with hc hs hs
    · refine ⟨rfl, rfl, fun q => by simp [hc, or_comm], fun q => ?_⟩
      by_cases hq : q = p <;> simp [Listener.cancelRequestTimeout, hq]
    · exact absurd (Finset.mem_insert_self p server.scopes) hs
    · refine ⟨rfl, rfl, fun q => by simp [hc], fun q => ?_⟩
      by_cases hq : q = p <;> simp [Listener.cancelRequestTimeout, hq, hs]
    · refine ⟨rfl, rfl, fun q => by simp [hc], fun q => ?_⟩
      by_cases hq : q = p <;> simp [hq, hs]
  obtain ⟨hconnections, hbad, hscopes, htimeouts⟩ := hstate
  refine ⟨fun q => ?_, fun q => ?_, fun q hq => ?_, fun q hq => ?_, hbad ▸ h.nodup⟩
  · rw [htimeouts, hexpired, hconnections, h.pending q]
    by_cases hs : q ∈ server.scopes
    · have hs' : q ∈ (server.dataReceived p complete).scopes := (hscopes q).2 (.inl hs)
      simp [hs, hs']
    · by_cases hs' : q ∈ (server.dataReceived p complete).scopes
      · have hq : q = p := (((hscopes q).1 hs').resolve_left hs).1
        simp [hq ▸ hs', hq]
      · simp [hs, hs']
  · rw [hscopes, h.inScope q, List.mem_append, List.mem_singleton, ProtocolEvent.received.injEq]
    exact or_congr_right (and_congr_right' eq_comm)
  · rw [hconnections]
    exact h.known q (objects_of_append hq).1
  · rw [hbad] at hq
    exact (hexpired q).2 (h.answered q hq)

theorem bounded_closing (h : Bounded events server) :
    Bounded (events ++ [.closing p]) { server with closings := insert p server.closings } := by
  have hexpired : ∀ q, (.expired q : ProtocolEvent ι) ∈ events ++ [.closing p] ↔ .expired q ∈ events :=
    fun q => mem_append_of_ne (fun he => nomatch he)
  have hscopes : ∀ q, q ∈ server.scopes ↔ (.received q true : ProtocolEvent ι) ∈ events ++ [.closing p] :=
    inScope_snoc h (fun q he => nomatch he)
  exact ⟨fun q => by rw [hexpired]; exact h.pending q,
    hscopes,
    fun q hq => h.known q (objects_of_append hq).1, fun q hq => (hexpired q).2 (h.answered q hq), h.nodup⟩

theorem bounded_lost (h : Bounded events server) :
    Bounded (events ++ [.lost p]) (server.connectionLost parent p) := by
  have hexpired : ∀ q, (.expired q : ProtocolEvent ι) ∈ events ++ [.lost p] ↔ .expired q ∈ events :=
    fun q => mem_append_of_ne (fun he => nomatch he)
  have hscopes : ∀ q, q ∈ server.scopes ↔ (.received q true : ProtocolEvent ι) ∈ events ++ [.lost p] :=
    inScope_snoc h (fun q he => nomatch he)
  have hstate : ∀ q, (q ∈ (server.connectionLost parent p).connections ↔ q ∈ server.connections ∧ q ≠ p) ∧
      (q ∈ (server.connectionLost parent p).initialRequestTimeouts ↔ q ∈ server.initialRequestTimeouts ∧ q ≠ p) := by
    intro q
    show (q ∈ (server.toListener.connectionLost parent p).connections ↔ _) ∧
      (q ∈ (server.toListener.connectionLost parent p).initialRequestTimeouts ↔ _)
    by_cases hp : p ∈ server.connections
    · rw [connectionLost_live hp]
      simp only [Finset.mem_erase, and_comm, and_self]
    · rw [connectionLost_refused hp]
      refine ⟨⟨fun hq => ⟨hq, fun he => hp (he ▸ hq)⟩, And.left⟩, ?_⟩
      simp only [Finset.mem_erase, and_comm]
  refine ⟨fun q => ?_, hscopes, fun q hq => ?_,
    fun q hq => (hexpired q).2 (h.answered q hq), h.nodup⟩
  · rw [(hstate q).2, (hstate q).1, hexpired, h.pending q]
    show _ ↔ _ ∧ q ∉ server.scopes ∧ _
    tauto
  · rw [(hstate q).1]
    exact fun hm => h.known q (objects_of_append hq).1 hm.1

/-- The timer of an open connection without a request answers it, unless its transport is closing. -/
theorem badRequests_expired (h : Bounded events server) : (server.requestTimedOut p).badRequests =
    if p ∈ server.connections ∧ p ∉ server.scopes ∧ .expired p ∉ events ∧ p ∉ server.closings then
      server.badRequests ++ [p] else server.badRequests := by
  have hpending := h.pending p
  unfold BoundedListener.requestTimedOut
  by_cases hp : p ∈ server.initialRequestTimeouts
  · obtain ⟨hc, hs, he⟩ := hpending.1 hp
    rw [if_pos hp]
    dsimp only
    by_cases hclosing : p ∈ server.closings
    · rw [if_neg (fun hh => hh.2 hclosing), if_neg (fun hh => hh.2.2.2 hclosing)]
    · rw [if_pos ⟨hs, hclosing⟩, if_pos ⟨hc, hs, he, hclosing⟩]
  · rw [if_neg hp, if_neg (fun hh => hp (hpending.2 ⟨hh.1, hh.2.1, hh.2.2.1⟩))]

theorem bounded_expired (h : Bounded events server) :
    Bounded (events ++ [.expired p]) (server.requestTimedOut p) := by
  have hexpired : ∀ q, (.expired q : ProtocolEvent ι) ∈ events ++ [.expired p] ↔ .expired q ∈ events ∨ q = p := by
    intro q
    rw [List.mem_append, List.mem_singleton, ProtocolEvent.expired.injEq]
  have hstate : (server.requestTimedOut p).connections = server.connections ∧
      (server.requestTimedOut p).scopes = server.scopes ∧
      (∀ q, q ∈ (server.requestTimedOut p).initialRequestTimeouts ↔ q ∈ server.initialRequestTimeouts ∧ q ≠ p) := by
    unfold BoundedListener.requestTimedOut
    by_cases hp : p ∈ server.initialRequestTimeouts
    · rw [if_pos hp]
      dsimp only
      split_ifs
      all_goals exact ⟨rfl, rfl, fun q => by simp [Listener.cancelRequestTimeout, and_comm]⟩
    · rw [if_neg hp]
      exact ⟨rfl, rfl, fun q => ⟨fun hq => ⟨hq, fun he => hp (he ▸ hq)⟩, And.left⟩⟩
  obtain ⟨hconnections, hscopes, htimeouts⟩ := hstate
  have hbad := badRequests_expired (p := p) h
  refine ⟨fun q => ?_, fun q => ?_, fun q hq => ?_, fun q hq => ?_, ?_⟩
  · rw [htimeouts, hexpired, hconnections, hscopes, h.pending q]
    tauto
  · rw [hscopes]
    exact inScope_snoc (e := .expired p) h (fun q' he => nomatch he) q
  · rw [hconnections]
    exact h.known q (objects_of_append hq).1
  · rw [hexpired]
    rw [hbad] at hq
    split_ifs at hq with hc
    · rcases List.mem_append.1 hq with hq | hq
      · exact .inl (h.answered q hq)
      · exact .inr (List.mem_singleton.1 hq)
    · exact .inl (h.answered q hq)
  · rw [hbad]
    split_ifs with hc
    · rw [List.nodup_append]
      refine ⟨h.nodup, List.nodup_singleton p, fun q hq q' hq' he => hc.2.2.1 ?_⟩
      rw [← List.mem_singleton.1 hq', ← he]
      exact h.answered q hq
    · exact h.nodup

/-! ## Runs -/

omit [DecidableEq ι] in
theorem bounded_start (maxSnapshotAge : Rat) (requireDevice : Bool) :
    Bounded [] (BoundedListener.start maxSnapshotAge requireDevice : BoundedListener ι) :=
  ⟨fun p => by simp [BoundedListener.start, Listener.start], fun p => by simp [BoundedListener.start],
    fun p _ => by simp [BoundedListener.start, Listener.start], fun p hp => (nomatch hp), List.nodup_nil⟩

theorem run_snoc (e : ProtocolEvent ι) :
    server.run parent config (events ++ [e]) = (server.run parent config events).step parent config e :=
  List.foldl_concat ..

theorem bounded_step {e : ProtocolEvent ι} (h : Bounded events server)
    (he : ∀ p, e = .made p → ∀ e' ∈ events, e'.object ≠ p) :
    Bounded (events ++ [e]) (server.step parent config e) := by
  cases e with
  | made p => exact bounded_made h (he p rfl)
  | received p complete => exact bounded_received h complete
  | closing p => exact bounded_closing h
  | expired p => exact bounded_expired h
  | lost p => exact bounded_lost h

omit [DecidableEq ι] in
theorem made_inTurn {e : ProtocolEvent ι} (h : InTurn (events ++ [e])) :
    ∀ p, e = .made p → ∀ e' ∈ events, e'.object ≠ p := by
  rintro p rfl
  rcases h events _ [] rfl with ⟨-, hfresh⟩ | ⟨hnot, -⟩
  · exact hfresh
  · exact absurd rfl (hnot p)

theorem bounded_run (maxSnapshotAge : Rat) (requireDevice : Bool) (h : InTurn events) :
    Bounded events ((BoundedListener.start maxSnapshotAge requireDevice).run parent config events) := by
  induction events using List.reverseRecOn with
  | nil => exact bounded_start maxSnapshotAge requireDevice
  | append_singleton events e ih =>
    rw [run_snoc]
    exact bounded_step (ih (inTurn_of_append h)) (made_inTurn h)

/-- What answers an object at its deadline, among the events of a run. -/
def TimedOut (parent : H11Protocol ι) (config : HttpServerConfig) (server : BoundedListener ι)
    (events : List (ProtocolEvent ι)) (p : ι) : Prop :=
  ∃ before after, events = before ++ .expired p :: after ∧ .expired p ∉ before ∧ .received p true ∉ before ∧
    p ∈ (server.run parent config before).connections ∧ p ∉ (server.run parent config before).closings

theorem timedOut_snoc {e : ProtocolEvent ι} : TimedOut parent config server (events ++ [e]) p ↔
    TimedOut parent config server events p ∨ (e = .expired p ∧ .expired p ∉ events ∧ .received p true ∉ events ∧
      p ∈ (server.run parent config events).connections ∧ p ∉ (server.run parent config events).closings) := by
  constructor
  · rintro ⟨before, after, he, h⟩
    rcases List.eq_nil_or_concat after with rfl | ⟨after, last, rfl⟩
    · obtain ⟨rfl, hlast⟩ := List.append_inj' he rfl
      exact .inr ⟨(List.cons.inj hlast).1, h⟩
    · refine .inl ⟨before, after, ?_, h⟩
      rw [List.concat_eq_append, ← List.cons_append, ← List.append_assoc] at he
      exact (List.append_inj' he rfl).1
  · rintro (⟨before, after, rfl, h⟩ | ⟨rfl, h⟩)
    · exact ⟨before, after ++ [e], by rw [List.append_assoc]; rfl, h⟩
    · exact ⟨events, [], rfl, h⟩

/-- The answers of one more event. -/
theorem badRequests_step {e : ProtocolEvent ι} (h : Bounded events server) :
    p ∈ (server.step parent config e).badRequests ↔ p ∈ server.badRequests ∨
      (e = .expired p ∧ .expired p ∉ events ∧ .received p true ∉ events ∧ p ∈ server.connections ∧
        p ∉ server.closings) := by
  cases e with
  | expired q =>
    show p ∈ (server.requestTimedOut q).badRequests ↔ _
    rw [badRequests_expired h]
    by_cases hq : q = p
    · subst hq
      rw [← h.inScope q]
      split_ifs with hc
      · simp [hc]
      · simp only [true_and]
        tauto
    · have hne : (.expired q : ProtocolEvent ι) ≠ .expired p := fun he => hq (ProtocolEvent.expired.inj he)
      split_ifs
      · simp [hne, Ne.symm hq]
      · simp [hne]
  | received q complete =>
    have hsame : (server.dataReceived q complete).badRequests = server.badRequests := by
      unfold BoundedListener.dataReceived
      dsimp only
      split_ifs <;> rfl
    show p ∈ (server.dataReceived q complete).badRequests ↔ _
    rw [hsame]
    simp
  | made q => exact ⟨.inl, fun hp => hp.resolve_right (fun he => nomatch he.1)⟩
  | closing q => exact ⟨.inl, fun hp => hp.resolve_right (fun he => nomatch he.1)⟩
  | lost q => exact ⟨.inl, fun hp => hp.resolve_right (fun he => nomatch he.1)⟩

/-- The timers change neither the set of connections nor the status. -/
theorem listener_run : ∀ (events : List (ProtocolEvent ι)) (server : BoundedListener ι) (listener : Listener ι),
    server.connections = listener.connections → server.status = listener.status →
    (server.run parent config events).connections =
        (listener.run parent config (events.filterMap ProtocolEvent.callback)).connections ∧
      (server.run parent config events).status =
        (listener.run parent config (events.filterMap ProtocolEvent.callback)).status
  | [], _, _, hc, hs => ⟨hc, hs⟩
  | .made p :: rest, server, listener, hc, hs => by
    have hfull : server.Full config ↔ listener.Full config := by
      unfold Listener.Full
      rw [hc]
    refine listener_run rest (server.connectionMade parent config p) (listener.connectionMade parent config p) ?_ ?_
    all_goals
      show _ = _
      unfold BoundedListener.connectionMade Listener.connectionMade
      by_cases hf : listener.Full config
      · simp [hf, hfull.2 hf, hc, hs]
      · simp [hf, mt hfull.1 hf, hc, hs]
  | .lost p :: rest, server, listener, hc, hs => by
    refine listener_run rest (server.connectionLost parent p) (listener.connectionLost parent p) ?_ ?_
    all_goals
      unfold BoundedListener.connectionLost Listener.connectionLost Listener.cancelRequestTimeout
      simp [hc, hs]
  | .received p complete :: rest, server, listener, hc, hs => by
    refine listener_run rest (server.dataReceived p complete) listener ?_ ?_
    all_goals
      unfold BoundedListener.dataReceived
      dsimp only
      split_ifs <;> assumption
  | .closing p :: rest, server, listener, hc, hs =>
    listener_run rest { server with closings := insert p server.closings } listener hc hs
  | .expired p :: rest, server, listener, hc, hs => by
    refine listener_run rest (server.requestTimedOut p) listener ?_ ?_
    all_goals
      unfold BoundedListener.requestTimedOut
      dsimp only
      split_ifs <;> assumption

/-- **The deadline is kept, and for the right connections**: a timer is pending for exactly the open connections that
have neither sent the head of a request nor come to their deadline; at its deadline a connection is answered with 400
exactly when it is open, has sent none and is not closing already, at most once; and none of this changes the gauges. -/
theorem deadlines_kept (maxSnapshotAge : Rat) (requireDevice : Bool) (h : InTurn events) :
    let server := BoundedListener.start maxSnapshotAge requireDevice
    (∀ p, p ∈ (server.run parent config events).initialRequestTimeouts ↔
      p ∈ (server.run parent config events).connections ∧ .received p true ∉ events ∧ .expired p ∉ events) ∧
    (∀ p, p ∈ (server.run parent config events).badRequests ↔ TimedOut parent config server events p) ∧
    (server.run parent config events).badRequests.Nodup ∧
    (server.run parent config events).status =
      ((Listener.start maxSnapshotAge requireDevice).run parent config
        (events.filterMap ProtocolEvent.callback)).status := by
  intro server
  have hrun : Bounded events (server.run parent config events) := bounded_run maxSnapshotAge requireDevice h
  refine ⟨fun p => ?_, fun p => ?_, hrun.nodup, (listener_run events server _ rfl rfl).2⟩
  · rw [← hrun.inScope p]
    exact hrun.pending p
  · clear hrun
    induction events using List.reverseRecOn with
    | nil => exact ⟨fun hp => (nomatch hp), fun ⟨before, after, he, _⟩ => absurd he.symm (by simp)⟩
    | append_singleton events e ih =>
      have hbefore := inTurn_of_append h
      rw [run_snoc, badRequests_step (bounded_run maxSnapshotAge requireDevice hbefore), timedOut_snoc, ih hbefore]

end

/-- Of two accepted connections the one that sends no head of a request is answered. -/
theorem deadlines_kept_two :
    let events := [ProtocolEvent.made 0, .made 1, .received 0 false, .received 1 true, .expired 0]
    InTurn events ∧
      0 ∈ ((BoundedListener.start 15 false).run (h11Protocol : H11Protocol Nat) ⟨1, 1⟩ events).badRequests ∧
      1 ∉ ((BoundedListener.start 15 false).run (h11Protocol : H11Protocol Nat) ⟨1, 1⟩ events).badRequests := by
  intro events
  have h : InTurn events := by
    have h₀ : InTurn ([] : List (ProtocolEvent Nat)) := fun before e after he => absurd he.symm (by simp)
    have h₁ := inTurn_snoc (e := .made 0) h₀ (by simp)
    have h₂ := inTurn_snoc (e := .made 1) h₁ (by simp [ProtocolEvent.object])
    have h₃ := inTurn_snoc (e := .received 0 false) h₂ (by simp [ProtocolEvent.object])
    have h₄ := inTurn_snoc (e := .received 1 true) h₃ (by simp [ProtocolEvent.object])
    exact inTurn_snoc (e := .expired 0) h₄ (by simp [ProtocolEvent.object])
  have hanswered : ∀ p, p ∈ ((BoundedListener.start 15 false).run h11Protocol ⟨1, 1⟩ events).badRequests ↔
      TimedOut h11Protocol ⟨1, 1⟩ (BoundedListener.start 15 false) events p := (deadlines_kept 15 false h).2.1
  refine ⟨h, (hanswered 0).2 ⟨[.made 0, .made 1, .received 0 false, .received 1 true], [], rfl, ?_, ?_, ?_, ?_⟩, ?_⟩
  · simp
  · simp
  · decide
  · decide
  · intro h1
    obtain ⟨before, after, he, -⟩ := (hanswered 1).1 h1
    have hm : ProtocolEvent.expired 1 ∈ events := he ▸ List.mem_append_right _ List.mem_cons_self
    simp [events] at hm

end Tt
