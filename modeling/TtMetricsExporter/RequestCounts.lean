import TtMetricsExporter.Requests
/-!
# RequestCounts — every request is counted once

What `tt_exporter_http_requests_total` counts, at every moment of every interleaving: the requests that have ended, each
under its path's route and in the class of the response that was started for it, which is a server error where none was.
-/
namespace Tt

/-- The status code under which the end of a request is recorded. -/
def recordedCode : Except Interrupted (Option Response) → Nat
  | .ok (some a) => a.status
  | .ok none => 500
  | .error e => e.started.getD 500

/-- What the end of a thread adds to the count of a route and a class. -/
def requestPrice (route : HttpRoute) (code : CodeClass) : Activity → Except Interrupted (Option Response) → Nat
  | .request r, outcome =>
    if route = httpRoute r.scope.path ∧ code = RuntimeStatus.codeClass (recordedCode outcome) then 1 else 0
  | _, _ => 0

section
variable {options : ServerOptions} {route : HttpRoute} {code : CodeClass}

/-- The count of a route and a class. -/
def requestCount (route : HttpRoute) (code : CodeClass) (s : ExporterService) : Nat := s.status.httpRequests route code

theorem application_silent (r : Request) : (application options r).Silent (requestCount route code) := by
  unfold application
  cases options.starlette.endpoint r.scope.path with
  | none => trivial
  | some endpoint => cases endpoint with
    | metrics =>
      refine .bind (.bind (Thread.silent_get _) (fun _ => .bind (Thread.silent_get _) (fun _ => ?_))) (fun _ => ?_)
      · exact Thread.silent_pure _
      · exact Thread.silent_pure _
    | devices => exact .bind (Thread.silent_get _) (fun _ => trivial)
    | health => trivial
    | ready => exact .bind (Thread.silent_get _) (fun _ => trivial)
    | missing => trivial

theorem answerRequest_silent (r : Request) : (answerRequest options r).Silent (requestCount route code) := by
  unfold answerRequest
  cases r.scope.refusal options.maximumHeaderBytes with
  | none => exact application_silent r
  | some refusal => trivial

/-- What a request does once it has its answer. -/
def finish (r : Request) (a : Response) : Serving (Option Response) := do
  .update (fun s => { s with status := s.status.recordHttpRequest (httpRoute r.scope.path) (r.sent a).1 r.duration })
  let a ← .ofExcept (r.sent a).2
  return some a

theorem request_eq (r : Request) : (Activity.request r).thread options = answerRequest options r >>= finish r := by
  show handleRequest options r >>= _ = _
  unfold handleRequest
  rw [Thread.bind_assoc]
  rfl

/-- **A request is recorded as it ends**, under the code of what was sent. -/
theorem finish_settles (r : Request) (a : Response) :
    (finish r a).Settles (requestCount route code) (requestPrice route code (.request r)) := by
  have hend : ∃ outcome, recordedCode outcome = (r.sent a).1 ∧
      ((Thread.ofExcept (r.sent a).2 : Serving Response) >>= fun a => pure (some a)).outcome = some outcome ∧
      ((Thread.ofExcept (r.sent a).2 : Serving Response) >>= fun a => pure (some a)).Settles
        (requestCount route code) (requestPrice route code (.request r)) := by
    unfold Request.sent
    cases r.interrupted with
    | none => exact ⟨.ok (some a), rfl, rfl, trivial⟩
    | some interruption => cases interruption with
      | beforeStart => exact ⟨.error ⟨none⟩, rfl, rfl, trivial⟩
      | afterStart => exact ⟨.error ⟨some a.status⟩, rfl, rfl, trivial⟩
  obtain ⟨outcome, hcode, houtcome, hsettles⟩ := hend
  refine fun s => ⟨?_, hsettles⟩
  have howed : ((Thread.ofExcept (r.sent a).2 : Serving Response) >>= fun a => pure (some a)).owed
      (requestPrice route code (.request r)) = requestPrice route code (.request r) outcome := by
    unfold Thread.owed
    rw [houtcome]
    rfl
  refine Eq.trans ?_ (congrArg _ howed.symm)
  show (if route = httpRoute r.scope.path ∧ code = RuntimeStatus.codeClass (r.sent a).1 then _ else _) =
    _ + (if route = httpRoute r.scope.path ∧ code = RuntimeStatus.codeClass (recordedCode outcome) then 1 else 0)
  rw [hcode]
  split_ifs
  · rfl
  · rfl

theorem pollLoop_obeys : ∀ refreshes : List Refresh,
    (pollLoop options refreshes).Obeys (fun s t => requestCount route code t = requestCount route code s)
  | [] => trivial
  | r :: rest => by
    have hpublish : ∀ s : ExporterService, requestCount route code (s.publishStep options.service r).1 =
        requestCount route code s := by
      intro s
      unfold ExporterService.publishStep
      cases r.payloads options.service <;> rfl
    have hrecord : ∀ (s : ExporterService) (published : Option ExporterSnapshot),
        requestCount route code (s.recordStep r published) = requestCount route code s := by
      intro s published
      unfold ExporterService.recordStep RuntimeStatus.recordCollection requestCount
      cases published with
      | none =>
        dsimp only
        split_ifs <;> rfl
      | some snapshot =>
        dsimp only
        split_ifs <;> rfl
    exact .bind (Thread.obeys_atomic hpublish) (fun published =>
      .bind (Thread.obeys_update (fun s => hrecord s published)) (fun _ => pollLoop_obeys rest))

/-- **Every thread settles its count**: a request adds its price as it ends, and no other thread adds any. -/
theorem thread_settles (activity : Activity) :
    (activity.thread options).Settles (requestCount route code) (requestPrice route code activity) ∧
      (activity.thread options).owed (requestPrice route code activity) = 0 := by
  cases activity with
  | poll refreshes =>
    have hobeys : ((Activity.poll refreshes).thread options).Obeys
        (fun s t => requestCount route code t = requestCount route code s) :=
      .bind (pollLoop_obeys refreshes) (fun _ => trivial)
    refine ⟨Thread.settles_of_obeys (fun _ => rfl) hobeys, ?_⟩
    unfold Thread.owed
    cases ((Activity.poll refreshes).thread options).outcome <;> rfl
  | request r =>
    rw [request_eq]
    have hfinish : ∀ a, (finish r a).Settles (requestCount route code) (requestPrice route code (.request r)) :=
      finish_settles r
    obtain ⟨hsettles, hgoes⟩ := (answerRequest_silent r).settles hfinish (fun _ => rfl)
    refine ⟨hsettles, ?_⟩
    unfold Thread.owed
    rw [hgoes]
    rfl
  | connection event =>
    refine ⟨Thread.settles_of_obeys (fun _ => rfl) (.bind (Thread.obeys_update (fun s => ?_)) (fun _ => trivial)), rfl⟩
    cases event <;> rfl
  | shutdown =>
    exact ⟨Thread.settles_of_obeys (fun _ => rfl) (.bind (Thread.obeys_update (fun _ => rfl)) (fun _ => trivial)), rfl⟩

end

/-! ## Runs -/

section Runs
variable {ι : Type} [Fintype ι] [DecidableEq ι] {options : ServerOptions} {activities : ι → Activity}

/-- The thread is a request of the route that has ended, and what was sent for it is of the class. -/
def CountedAs (activities : ι → Activity) (p : Pool ι Interrupted ExporterService (Option Response)) (route : HttpRoute)
    (code : CodeClass) (i : ι) : Prop :=
  ∃ r outcome, activities i = .request r ∧ route = httpRoute r.scope.path ∧ (p.threads i).outcome = some outcome ∧
    code = RuntimeStatus.codeClass (recordedCode outcome)

omit [Fintype ι] [DecidableEq ι] in
open Classical in
theorem owed_eq (p : Pool ι Interrupted ExporterService (Option Response)) (route : HttpRoute) (code : CodeClass)
    (i : ι) : (p.threads i).owed (requestPrice route code (activities i)) =
      if CountedAs activities p route code i then 1 else 0 := by
  unfold Thread.owed
  cases ho : (p.threads i).outcome with
  | none =>
    have hnot : ¬ CountedAs activities p route code i := by
      rintro ⟨_, _, -, -, h, -⟩
      rw [ho] at h
      cases h
    rw [if_neg hnot]
    rfl
  | some outcome =>
    cases ha : activities i with
    | request r =>
      have hiff : CountedAs activities p route code i ↔
          route = httpRoute r.scope.path ∧ code = RuntimeStatus.codeClass (recordedCode outcome) := by
        constructor
        · rintro ⟨r', outcome', h, hroute, h', hcode⟩
          rw [ha] at h
          rw [ho] at h'
          cases h
          cases h'
          exact ⟨hroute, hcode⟩
        · rintro ⟨hroute, hcode⟩
          exact ⟨r, outcome, ha, hroute, ho, hcode⟩
      exact if_congr hiff.symm rfl rfl
    | poll refreshes =>
      rw [if_neg (fun ⟨_, _, h, _⟩ => by rw [ha] at h; cases h)]
      rfl
    | connection event =>
      rw [if_neg (fun ⟨_, _, h, _⟩ => by rw [ha] at h; cases h)]
      rfl
    | shutdown =>
      rw [if_neg (fun ⟨_, _, h, _⟩ => by rw [ha] at h; cases h)]
      rfl

open Classical in
/-- **The request counters count the requests that have ended**, at every moment of every interleaving with the poll
loop, connections and a shutdown: each once, under its route and in the class of what was sent for it, however it
ended. -/
theorem requests_counted (maxSnapshotAge : Rat) (requireDevice : Bool) (schedule : List ι) (route : HttpRoute)
    (code : CodeClass) :
    let p := (exporter options maxSnapshotAge requireDevice activities).run schedule
    p.state.status.httpRequests route code = (Finset.univ.filter (CountedAs activities p route code)).card := by
  intro p
  have hsettles : ∀ i, ((exporter options maxSnapshotAge requireDevice activities).threads i).Settles
      (requestCount route code) (requestPrice route code (activities i)) := fun i => (thread_settles (activities i)).1
  have hstart : (exporter options maxSnapshotAge requireDevice activities).settled
      (fun i => requestPrice route code (activities i)) = 0 :=
    Finset.sum_eq_zero (fun i _ => (thread_settles (activities i)).2)
  have hrun : requestCount route code p.state + Pool.settled _ _ = _ + p.settled _ := Pool.settled_run hsettles
  have hzero : requestCount route code (exporter options maxSnapshotAge requireDevice activities).state = 0 := rfl
  rw [hstart, hzero, Nat.add_zero, Nat.zero_add] at hrun
  rw [Finset.card_filter]
  exact hrun.trans (Finset.sum_congr rfl (fun i _ => owed_eq _ route code i))

end Runs
end Tt
