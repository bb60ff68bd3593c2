import TtMetricsExporter.Generations
import TtMetricsExporter.Requests
/-!
# Scrapes — what clients see of the exporter over time

The poll loop, requests, connections and a shutdown in any number and any interleaving.  Two things hold of the shared
state: what the store holds is a rendering of one collection, and a status that knows of a success has a snapshot behind
it (`Coherent`); and no step takes anything back (`Later`).  Every response is the one that the states at two moments of
the run give (`answered_at`), so that the responses of requests one after the other never go back.
-/
namespace Tt

open Py (Str)

/-! ## The order of states -/

/-- What a status counts has not gone back, and a shutdown has not been taken back. -/
structure RuntimeStatus.Grown (a b : RuntimeStatus) : Prop where
  successes : a.successes ≤ b.successes
  failures : a.failures ≤ b.failures
  issueTotals : ∀ source issue, a.issueTotals source issue ≤ b.issueTotals source issue
  httpRequests : ∀ route code, a.httpRequests route code ≤ b.httpRequests route code
  rejectedConnections : a.rejectedConnections ≤ b.rejectedConnections
  shuttingDown : a.shuttingDown = true → b.shuttingDown = true

namespace RuntimeStatus
variable (self : RuntimeStatus)

theorem Grown.refl : Grown self self :=
  ⟨le_refl _, le_refl _, fun _ _ => le_refl _, fun _ _ => le_refl _, le_refl _, id⟩

theorem Grown.trans {a b c : RuntimeStatus} (h : Grown a b) (h' : Grown b c) : Grown a c where
  successes := h.successes.trans h'.successes
  failures := h.failures.trans h'.failures
  issueTotals source issue := (h.issueTotals source issue).trans (h'.issueTotals source issue)
  httpRequests route code := (h.httpRequests route code).trans (h'.httpRequests route code)
  rejectedConnections := h.rejectedConnections.trans h'.rejectedConnections
  shuttingDown := h'.shuttingDown ∘ h.shuttingDown

theorem grown_recordCollection (steadyNow wallNow : Rat) (result : CollectionResult) (duration : Rat) (published : Bool)
    (generation : Nat) : Grown self (self.recordCollection steadyNow wallNow result duration published generation) := by
  unfold recordCollection
  dsimp only
  split_ifs
  · exact ⟨Nat.le_succ _, le_refl _, fun _ _ => Nat.le_add_right _ _, fun _ _ => le_refl _, le_refl _, id⟩
  · exact ⟨le_refl _, Nat.le_succ _, fun _ _ => Nat.le_add_right _ _, fun _ _ => le_refl _, le_refl _, id⟩

theorem grown_recordHttpRequest (route : HttpRoute) (statusCode : Nat) (duration : Rat) :
    Grown self (self.recordHttpRequest route statusCode duration) := by
  refine ⟨le_refl _, le_refl _, fun _ _ => le_refl _, fun r c => ?_, le_refl _, id⟩
  show self.httpRequests r c ≤ if r = route ∧ c = codeClass statusCode then _ else _
  split_ifs
  · exact Nat.le_succ _
  · exact le_refl _

theorem grown_record (event : ConnectionEvent) : Grown self (event.record self) := by
  cases event with
  | opened => exact ⟨le_refl _, le_refl _, fun _ _ => le_refl _, fun _ _ => le_refl _, le_refl _, id⟩
  | closed => exact ⟨le_refl _, le_refl _, fun _ _ => le_refl _, fun _ _ => le_refl _, le_refl _, id⟩
  | rejected => exact ⟨le_refl _, le_refl _, fun _ _ => le_refl _, fun _ _ => le_refl _, Nat.le_succ _, id⟩

theorem grown_beginShutdown : Grown self self.beginShutdown :=
  ⟨le_refl _, le_refl _, fun _ _ => le_refl _, fun _ _ => le_refl _, le_refl _, fun _ => rfl⟩

end RuntimeStatus

/-- One state comes after another: its status has grown, and its snapshot is the same or of a later generation. -/
structure Later (s t : ExporterService) : Prop where
  status : s.status.Grown t.status
  generation : s.snapshots.generation ≤ t.snapshots.generation
  same : s.snapshots.generation = t.snapshots.generation → s.snapshots = t.snapshots

theorem Later.refl (s : ExporterService) : Later s s := ⟨.refl _, le_refl _, fun _ => rfl⟩

theorem Later.trans (s t u : ExporterService) (h : Later s t) (h' : Later t u) : Later s u := by
  refine ⟨h.status.trans h'.status, h.generation.trans h'.generation, fun he => ?_⟩
  have hst : s.snapshots.generation = t.snapshots.generation :=
    le_antisymm h.generation (he ▸ h'.generation)
  exact (h.same hst).trans (h'.same (hst ▸ he))

theorem later_status {s : ExporterService} {status : RuntimeStatus} (h : s.status.Grown status) :
    Later s { s with status := status } := ⟨h, le_refl _, fun _ => rfl⟩

/-! ## The invariant -/

/-- What the store holds was collected and rendered by one refresh, and a success has a snapshot behind it. -/
structure Coherent (options : ServiceOptions) (source : Refresh → Prop) (s : ExporterService) : Prop where
  published : ∀ snapshot, s.snapshots = some snapshot → 1 ≤ snapshot.generation ∧
    ∃ r, source r ∧ snapshot.collection = r.collection ∧
      r.payloads options = some (snapshot.prometheus, snapshot.devicesJson)
  backed : s.status.lastSuccess ≠ none → s.snapshots ≠ none

section Coherent
variable {options : ServiceOptions} {source : Refresh → Prop} {s t : ExporterService}

theorem Coherent.status {status : RuntimeStatus} (h : Coherent options source s)
    (hs : status.lastSuccess = s.status.lastSuccess ∨ s.snapshots ≠ none) :
    Coherent options source { s with status := status } := by
  refine ⟨h.published, fun hl => ?_⟩
  rcases hs with hs | hs
  · exact h.backed (hs ▸ hl)
  · exact hs

/-- A snapshot that was there is followed by snapshots. -/
theorem Later.published (h : Later s t) (hs : Coherent options source s) (hp : s.snapshots ≠ none) :
    t.snapshots ≠ none := by
  obtain ⟨snapshot, hsnapshot⟩ := Option.ne_none_iff_exists'.1 hp
  have hone := (hs.published snapshot hsnapshot).1
  have hg := h.generation
  rintro hnone
  rw [hsnapshot, hnone] at hg
  exact absurd (hone.trans hg) (by decide)

variable (options) in
/-- **Publishing comes after**, and is consistent. -/
theorem publishStep_consistent {r : Refresh} (hr : source r) (hs : Coherent options source s) :
    Later s (s.publishStep options r).1 ∧ Coherent options source (s.publishStep options r).1 ∧
      ((s.publishStep options r).2 ≠ none → (s.publishStep options r).1.snapshots ≠ none) := by
  unfold ExporterService.publishStep
  cases hp : r.payloads options with
  | none => exact ⟨.refl s, hs, fun h => absurd rfl h⟩
  | some p =>
    obtain ⟨prometheus, devicesJson⟩ := p
    have hgeneration : (SnapshotStore.publish s.snapshots r.collection prometheus devicesJson).generation =
        s.snapshots.generation + 1 := by
      unfold SnapshotStore.publish SnapshotStore.generation
      cases s.snapshots <;> rfl
    have hlt : s.snapshots.generation <
        (SnapshotStore.publish s.snapshots r.collection prometheus devicesJson).generation :=
      hgeneration ▸ Nat.lt_succ_self _
    refine ⟨⟨.refl _, le_of_lt hlt, fun he => absurd he (ne_of_lt hlt)⟩, ⟨fun snapshot he => ?_, fun _ => ?_⟩, fun _ => ?_⟩
    · cases he
      exact ⟨hgeneration ▸ Nat.succ_le_succ (Nat.zero_le _), r, hr, rfl, hp⟩
    · exact Option.some_ne_none _
    · exact Option.some_ne_none _

theorem later_recordStep (r : Refresh) (published : Option ExporterSnapshot) : Later s (s.recordStep r published) := by
  unfold ExporterService.recordStep
  cases published with
  | none => exact later_status (s.status.grown_recordCollection _ _ _ _ _ _)
  | some snapshot => exact later_status (s.status.grown_recordCollection _ _ _ _ _ _)

theorem recordStep_consistent {r : Refresh} {published : Option ExporterSnapshot} (hs : Coherent options source s)
    (hp : published ≠ none → s.snapshots ≠ none) : Coherent options source (s.recordStep r published) := by
  unfold ExporterService.recordStep
  cases published with
  | none =>
    refine hs.status (.inl ?_)
    show (s.status.recordCollection _ _ _ _ false _).lastSuccess = _
    unfold RuntimeStatus.recordCollection
    rw [Bool.and_false]
    rfl
  | some snapshot => exact hs.status (.inr (hp (Option.some_ne_none _)))

end Coherent

/-! ## Answers -/

section Answer
variable (options : ServerOptions)

/-- The response that the snapshot of one state and the status of another give. -/
def answer (r : Request) (store status : ExporterService) : Response :=
  match r.scope.refusal options.maximumHeaderBytes with
  | some refusal => refusal
  | none => match options.starlette.endpoint r.scope.path with
    | some .metrics => response 200 "text/plain; version=0.0.4; charset=utf-8"
        (metricsBody (store.snapshots.map (·.prometheus))
          (status.status.renderPrometheus options.number options.build r.now))
    | some .devices => response 200 "application/json" (devicesBody store.snapshots)
    | some .health => response 200 "text/plain" "ok\n".toList
    | some .ready => readyResponse (status.status.readiness r.now)
    | some .missing => response 404 "text/plain" "not found\n".toList
    | none => options.starlette.unmatched r.scope.path

variable {options} {r : Request} {met : List ExporterService} {a : Response}

/-- An endpoint reads the snapshot in its first turn, and the status in that or the next. -/
theorem application_after (hr : r.scope.refusal options.maximumHeaderBytes = none)
    (h : (application options r).after met = .done a) (last : ExporterService) :
    ∃ t rest, met ++ [last] = t :: rest ∧ ∃ u ∈ t :: rest, a = answer options r t u := by
  obtain ⟨t, rest, hmet⟩ : ∃ t rest, met ++ [last] = t :: rest := by cases met <;> exact ⟨_, _, rfl⟩
  refine ⟨t, rest, hmet, ?_⟩
  unfold application at h
  unfold answer
  rw [hr]
  cases he : options.starlette.endpoint r.scope.path with
  | none =>
    rw [he] at h
    exact ⟨t, List.mem_cons_self, Thread.eq_of_after_done h⟩
  | some endpoint =>
    rw [he] at h
    cases endpoint with
    | metrics =>
      obtain ⟨first, _, body, rfl, hbody, ha⟩ := Thread.after_bind h
      obtain ⟨_, second, _, rfl, hstore, hbody⟩ := Thread.after_bind hbody
      obtain ⟨t', before, rfl, rfl⟩ := Thread.after_get hstore
      obtain ⟨_, _, _, rfl, hstatus, hbody⟩ := Thread.after_bind hbody
      obtain ⟨u, after, rfl, rfl⟩ := Thread.after_get hstatus
      obtain ⟨rfl, rfl⟩ := List.cons.inj hmet
      refine ⟨u, ?_, ?_⟩
      · simp
      · rw [Thread.eq_of_after_done ha, Thread.eq_of_after_done hbody]
    | devices =>
      obtain ⟨_, _, _, rfl, hbody, ha⟩ := Thread.after_bind h
      obtain ⟨t', before, rfl, rfl⟩ := Thread.after_get hbody
      obtain ⟨rfl, rfl⟩ := List.cons.inj hmet
      exact ⟨t', List.mem_cons_self, Thread.eq_of_after_done ha⟩
    | health => exact ⟨t, List.mem_cons_self, Thread.eq_of_after_done h⟩
    | ready =>
      obtain ⟨_, _, _, rfl, hready, ha⟩ := Thread.after_bind h
      obtain ⟨t', before, rfl, rfl⟩ := Thread.after_get hready
      obtain ⟨rfl, rfl⟩ := List.cons.inj hmet
      exact ⟨t', List.mem_cons_self, Thread.eq_of_after_done ha⟩
    | missing => exact ⟨t, List.mem_cons_self, Thread.eq_of_after_done h⟩

theorem answerRequest_after (h : (answerRequest options r).after met = .done a) (last : ExporterService) :
    ∃ t rest, met ++ [last] = t :: rest ∧ ∃ u ∈ t :: rest, a = answer options r t u := by
  unfold answerRequest at h
  cases hr : r.scope.refusal options.maximumHeaderBytes with
  | none =>
    rw [hr] at h
    exact application_after hr h last
  | some refusal =>
    obtain ⟨t, rest, hmet⟩ : ∃ t rest, met ++ [last] = t :: rest := by cases met <;> exact ⟨_, _, rfl⟩
    rw [hr] at h
    refine ⟨t, rest, hmet, t, List.mem_cons_self, ?_⟩
    unfold answer
    rw [hr, Thread.eq_of_after_done h]

theorem eq_of_sent {a a' : Response} (h : (r.sent a).2 = .ok a') : a' = a := by
  unfold Request.sent at h
  cases hi : r.interrupted with
  | none =>
    rw [hi] at h
    exact (Except.ok.inj h).symm
  | some interruption =>
    rw [hi] at h
    cases interruption <;> cases h

/-- **A request that is answered** is so from the first state that it met and from one of those that it met. -/
theorem handleRequest_after (h : (handleRequest options r).after met = .done a) :
    ∃ t rest, met = t :: rest ∧ ∃ u ∈ met, a = answer options r t u := by
  obtain ⟨first, _, answered, rfl, hanswer, hrecord⟩ := Thread.after_bind h
  obtain ⟨_, last, _, rfl, hupdate, hsend⟩ := Thread.after_bind hrecord
  obtain ⟨s, rest, rfl⟩ := Thread.after_update hupdate
  obtain ⟨t, others, hmet, u, hu, rfl⟩ := answerRequest_after hanswer s
  have hsplit : first ++ (s :: rest ++ last) = t :: (others ++ (rest ++ last)) := by
    rw [← List.cons_append, ← hmet, List.append_assoc]
    rfl
  refine ⟨t, _, hsplit, u, ?_, ?_⟩
  · rw [hsplit, ← List.cons_append]
    exact List.mem_append_left _ hu
  · cases hsent : (r.sent (answer options r t u)).2 with
    | error e =>
      rw [hsent] at hsend
      cases last <;> cases hsend
    | ok b =>
      rw [hsent] at hsend
      exact (Thread.eq_of_after_done hsend).trans (eq_of_sent hsent)

end Answer

/-! ## Alone -/

section Alone
variable (options : ServerOptions) (s : ExporterService)

/-- The poll loop alone is the run of its refreshes. -/
theorem pollLoop_alone : ∀ (refreshes : List Refresh) (s : ExporterService),
    (pollLoop options refreshes).alone s = (.ok (), s.run options.service refreshes)
  | [], _ => rfl
  | r :: rest, s => by
    unfold pollLoop
    rw [Thread.alone_bind, Thread.alone_atomic]
    dsimp only
    rw [Thread.alone_bind, Thread.alone_update]
    exact pollLoop_alone rest _

theorem application_alone {r : Request} (hr : r.scope.refusal options.maximumHeaderBytes = none) :
    (application options r).alone s = (.ok (answer options r s s), s) := by
  unfold application answer
  rw [hr]
  cases options.starlette.endpoint r.scope.path with
  | none => rfl
  | some endpoint => cases endpoint <;> rfl

/-- **A request alone is answered from the state that it meets**, and leaves it with its record. -/
theorem handleRequest_alone (r : Request) : (handleRequest options r).alone s =
    ((r.sent (answer options r s s)).2, { s with
      status := s.status.recordHttpRequest (httpRoute r.scope.path) (r.sent (answer options r s s)).1 r.duration }) := by
  have hanswer : (answerRequest options r).alone s = (.ok (answer options r s s), s) := by
    unfold answerRequest
    cases hr : r.scope.refusal options.maximumHeaderBytes with
    | none => exact application_alone options s hr
    | some refusal =>
      unfold answer
      rw [hr]
      rfl
  unfold handleRequest
  rw [Thread.alone_bind, hanswer]
  dsimp only
  rw [Thread.alone_bind, Thread.alone_update]
  exact Thread.alone_ofExcept _ _

section Pool
variable {ι : Type} [DecidableEq ι] {options : ServerOptions} {p : Pool ι Interrupted ExporterService (Option Response)}
  {i : ι}

/-- **A request that nothing breaks off is answered**, once it is scheduled often enough. -/
theorem request_answered {r : Request} (hi : p.threads i = (Activity.request r).thread options)
    (hr : r.interrupted = none) :
    ∃ n, (p.run (List.replicate n i)).threads i = .done (some (answer options r p.state p.state)) := by
  obtain ⟨n, hthread, -⟩ := Pool.run_alone hi
  refine ⟨n, hthread.trans ?_⟩
  have hsent : ∀ a, (r.sent a).2 = .ok a := by
    intro a
    unfold Request.sent
    rw [hr]
  have halone : ((Activity.request r).thread options).alone p.state = _ :=
    Thread.alone_bind p.state (handleRequest options r) _
  rw [halone, handleRequest_alone, hsent]
  rfl

theorem poll_answered {refreshes : List Refresh} (hi : p.threads i = (Activity.poll refreshes).thread options) :
    ∃ n, (p.run (List.replicate n i)).state = p.state.run options.service refreshes := by
  obtain ⟨n, -, hstate⟩ := Pool.run_alone hi
  refine ⟨n, hstate.trans ?_⟩
  have halone : ((Activity.poll refreshes).thread options).alone p.state = _ :=
    Thread.alone_bind p.state (pollLoop options refreshes) _
  rw [halone, pollLoop_alone]
  rfl

end Pool
end Alone

/-! ## Threads -/

section Threads
variable {options : ServerOptions} {source : Refresh → Prop}

theorem pollLoop_secures : ∀ {refreshes : List Refresh}, (∀ r ∈ refreshes, source r) → ∀ s,
    (pollLoop options refreshes).Secures Later (Coherent options.service source) (fun _ _ => True) (fun _ _ => True) s
  | [], _, _ => trivial
  | r :: rest, h, s => by
    refine .bind (Thread.secures_atomic (fun t _ hct => ?_))
    obtain ⟨hlater, hconsistent, hpublished⟩ := publishStep_consistent options.service (h r List.mem_cons_self) hct
    refine ⟨hlater, hconsistent, .bind (Thread.secures_update (fun u hu hcu => ?_))⟩
    have hthere : (t.publishStep options.service r).2 ≠ none → u.snapshots ≠ none := fun hp =>
      hu.published hconsistent (hpublished hp)
    exact ⟨later_recordStep r _, recordStep_consistent hcu hthere,
      pollLoop_secures (fun r hr => h r (List.mem_cons_of_mem _ hr)) _⟩

/-- What an action leaves later, and consistent where it was. -/
structure Kept (options : ServiceOptions) (source : Refresh → Prop) (s t : ExporterService) : Prop where
  later : Later s t
  coherent : Coherent options source s → Coherent options source t

theorem handleRequest_obeys (r : Request) : (handleRequest options r).Obeys (Kept options.service source) := by
  have hrefl : ∀ s, Kept options.service source s s := fun s => ⟨.refl s, id⟩
  have hanswer : (answerRequest options r).Obeys (Kept options.service source) := by
    unfold answerRequest application
    cases r.scope.refusal options.maximumHeaderBytes with
    | some refusal => exact Thread.obeys_pure _
    | none =>
      dsimp only
      cases options.starlette.endpoint r.scope.path with
      | none => exact Thread.obeys_pure _
      | some endpoint => cases endpoint with
        | metrics =>
          refine .bind (.bind (Thread.obeys_get hrefl _) (fun _ => .bind (Thread.obeys_get hrefl _) (fun _ => ?_)))
            (fun _ => Thread.obeys_pure _)
          exact Thread.obeys_pure _
        | devices => exact .bind (Thread.obeys_get hrefl _) (fun _ => Thread.obeys_pure _)
        | health => exact Thread.obeys_pure _
        | ready => exact .bind (Thread.obeys_get hrefl _) (fun _ => Thread.obeys_pure _)
        | missing => exact Thread.obeys_pure _
  refine hanswer.bind (fun answer => .bind (Thread.obeys_update (fun s => ⟨later_status ?_, fun hs => hs.status ?_⟩))
    (fun _ => Thread.obeys_ofExcept _))
  · exact s.status.grown_recordHttpRequest _ _ _
  · exact .inl rfl

/-- **Every thread keeps the order and the invariant.** -/
theorem thread_secures {activity : Activity} (s : ExporterService)
    (hsource : ∀ refreshes, activity = .poll refreshes → ∀ r ∈ refreshes, source r) :
    (activity.thread options).Secures Later (Coherent options.service source)
      (fun _ t => activity = .shutdown → t.status.shuttingDown = true) (fun _ _ => True) s := by
  cases activity with
  | poll refreshes =>
    exact .bind ((pollLoop_secures (hsource refreshes rfl) s).mono (fun _ _ _ h => nomatch h) (fun _ _ h => h))
  | request r =>
    have hsecures := Thread.secures_of_obeys (fun _ _ h => h.later) (fun _ _ h => h.coherent)
      (@handleRequest_obeys options source r) s
    exact .bind (hsecures.mono (fun _ _ _ h => nomatch h) (fun _ _ h => h))
  | connection event =>
    refine .bind (Thread.secures_update (fun t _ hct => ⟨later_status (t.status.grown_record event), ?_, fun h => ?_⟩))
    · refine hct.status (.inl ?_)
      cases event <;> rfl
    · cases h
  | shutdown =>
    refine .bind (Thread.secures_update (fun t _ hct => ⟨later_status t.status.grown_beginShutdown, ?_, fun _ => rfl⟩))
    exact hct.status (.inl rfl)

end Threads

/-! ## Runs -/

section Runs
variable {ι : Type} [DecidableEq ι] {options : ServerOptions} {maxSnapshotAge : Rat} {requireDevice : Bool}
  {activities : ι → Activity}

/-- The refresh is one of a poll loop's. -/
def Polled (activities : ι → Activity) (r : Refresh) : Prop :=
  ∃ i refreshes, activities i = .poll refreshes ∧ r ∈ refreshes

theorem start_consistent (options : ServiceOptions) (source : Refresh → Prop) :
    Coherent options source (.start maxSnapshotAge requireDevice) :=
  ⟨fun _ h => (nomatch h), fun h => absurd rfl h⟩

variable (options maxSnapshotAge requireDevice activities) in
/-- The state at a moment of a run. -/
def stateAt (turn : List ι) : ExporterService := ((exporter options maxSnapshotAge requireDevice activities).run turn).state

theorem secured_at (turn : List ι) : ((exporter options maxSnapshotAge requireDevice activities).run turn).Secured Later
    (Coherent options.service (Polled activities))
    (fun i _ t => activities i = .shutdown → t.status.shuttingDown = true) (fun _ _ _ => True) := by
  have hstart : (exporter options maxSnapshotAge requireDevice activities).Secured Later
      (Coherent options.service (Polled activities))
      (fun i _ t => activities i = .shutdown → t.status.shuttingDown = true) (fun _ _ _ => True) :=
    ⟨start_consistent options.service _, fun i => ⟨_, .refl _, thread_secures _ (fun refreshes hp r hr =>
      ⟨i, refreshes, hp, hr⟩)⟩⟩
  exact (hstart.run Later.refl Later.trans).2

/-- **At every moment of a run the state is consistent.** -/
theorem coherent_at (turn : List ι) :
    Coherent options.service (Polled activities) (stateAt options maxSnapshotAge requireDevice activities turn) :=
  (secured_at turn).state

/-- **What comes later in a run takes nothing back.** -/
theorem later_at {turn later : List ι} (h : turn <+: later) : Later
    (stateAt options maxSnapshotAge requireDevice activities turn)
    (stateAt options maxSnapshotAge requireDevice activities later) := by
  obtain ⟨rest, rfl⟩ := h
  have hsecured := @secured_at _ _ options maxSnapshotAge requireDevice activities turn
  have hrun : Later _ ((((exporter options maxSnapshotAge requireDevice activities).run turn).run rest).state) :=
    (hsecured.run Later.refl Later.trans).1
  rw [← Pool.run_append] at hrun
  exact hrun

variable {schedule : List ι} {i : ι}

/-- A shutdown that was carried out has begun. -/
theorem shuttingDown_at (hi : activities i = .shutdown) {result : Option Response}
    (ha : ((exporter options maxSnapshotAge requireDevice activities).run schedule).threads i = .done result) :
    (stateAt options maxSnapshotAge requireDevice activities schedule).status.shuttingDown = true := by
  obtain ⟨s, hs, hdown⟩ := (secured_at schedule).result ha
  exact hs.status.shuttingDown (hdown hi)

/-- **A response is that of two moments of the run**, at turns of its request. -/
theorem answered_at {r : Request} {a : Response} (hi : activities i = .request r)
    (ha : ((exporter options maxSnapshotAge requireDevice activities).run schedule).threads i = .done (some a)) :
    ∃ first ∈ Pool.turns i schedule, ∃ second ∈ Pool.turns i schedule, first <+: second ∧
      a = answer options r (stateAt options maxSnapshotAge requireDevice activities first)
        (stateAt options maxSnapshotAge requireDevice activities second) := by
  have hthread : (exporter options maxSnapshotAge requireDevice activities).threads i =
      (Activity.request r).thread options := congrArg (fun activity => activity.thread options) hi
  rw [Pool.threads_run, hthread] at ha
  obtain ⟨met, _, answered, hmet, hanswer, hdone⟩ := Thread.after_bind ha
  obtain ⟨t, rest, rfl, u, hu, rfl⟩ := handleRequest_after hanswer
  obtain rfl := Option.some.inj (Thread.eq_of_after_done hdone)
  obtain ⟨first, others, hturns, rfl, -⟩ := List.map_eq_cons_iff.1 hmet
  have hseen : u ∈ (Pool.turns i schedule).map (stateAt options maxSnapshotAge requireDevice activities) := by
    rw [show (Pool.turns i schedule).map (stateAt options maxSnapshotAge requireDevice activities) = _ from hmet]
    exact List.mem_append_left _ hu
  obtain ⟨second, hsecond, rfl⟩ := List.mem_map.1 hseen
  refine ⟨first, hturns ▸ List.mem_cons_self, second, hsecond, ?_, rfl⟩
  have hordered := Pool.pairwise_turns (i := i) schedule
  rw [hturns] at hordered hsecond
  rcases List.mem_cons.1 hsecond with rfl | hsecond
  · exact List.prefix_rfl
  · exact (List.pairwise_cons.1 hordered).1 second hsecond

end Runs
end Tt
