import TtMetricsExporter.LastSuccess
import TtMetricsExporter.Scrapes
/-!
# Served — what a client may conclude from a response

Two requests of which one begins after the other was answered: who has seen the exporter ready is served a collection
from then on, who knows of a shutdown is told that it is not ready, and the counters of one scrape stand in the next
one, where they have not gone back.
-/
namespace Tt

open Py (Str strInt)

/-! ## Routing -/

namespace Starlette
variable (starlette : Starlette)

/-- A route without parameters is taken by its own path. -/
theorem endpoint_literal : ∀ route ∈ routes.dropLast, starlette.endpoint route.1.toList = some route.2 := by
  have hmatches : ∀ template path : String, '\x7b' ∉ template.toList → '\n' ∉ path.toList →
      starlette.matchesPath template path.toList = decide (path = template) := by
    intro template path ht hp
    rw [Bool.eq_iff_iff, starlette.matches_literal _ _ ht hp, decide_eq_true_iff]
    exact ⟨fun h => String.toList_injective h, congrArg _⟩
  intro route hroute
  simp only [routes, List.dropLast, List.mem_cons, List.not_mem_nil, or_false] at hroute
  unfold endpoint routes
  rcases hroute with rfl | rfl | rfl | rfl
  · rw [List.find?_cons_of_pos (by rw [hmatches _ _ (by decide) (by decide)]; decide)]
    rfl
  · rw [List.find?_cons_of_neg (by rw [hmatches _ _ (by decide) (by decide)]; decide),
      List.find?_cons_of_pos (by rw [hmatches _ _ (by decide) (by decide)]; decide)]
    rfl
  · rw [List.find?_cons_of_neg (by rw [hmatches _ _ (by decide) (by decide)]; decide),
      List.find?_cons_of_neg (by rw [hmatches _ _ (by decide) (by decide)]; decide),
      List.find?_cons_of_pos (by rw [hmatches _ _ (by decide) (by decide)]; decide)]
    rfl
  · rw [List.find?_cons_of_neg (by rw [hmatches _ _ (by decide) (by decide)]; decide),
      List.find?_cons_of_neg (by rw [hmatches _ _ (by decide) (by decide)]; decide),
      List.find?_cons_of_neg (by rw [hmatches _ _ (by decide) (by decide)]; decide),
      List.find?_cons_of_pos (by rw [hmatches _ _ (by decide) (by decide)]; decide)]
    rfl

/-- A template matches as the regular expression does that Starlette makes of it, on paths of one line. -/
def templates (unmatched : Str → Response) : Starlette where
  matchesPath template path := if template = "/\x7bpath:path\x7d" then path.head? = some '/' else path = template.toList
  unmatched := unmatched
  matches_literal template path ht _ := by
    have hne : template ≠ "/\x7bpath:path\x7d" := fun he => ht (he ▸ by decide)
    rw [if_neg hne, decide_eq_true_iff]
  matches_rest path _ := by rw [if_pos rfl, decide_eq_true_iff]

end Starlette

/-- The request passes the checks and asks for a path. -/
def Request.Asks (r : Request) (options : ServerOptions) (path : String) : Prop :=
  r.scope.refusal options.maximumHeaderBytes = none ∧ r.scope.path = path.toList

section Answer
variable {options : ServerOptions} {r : Request} {t u : ExporterService}

theorem answer_metrics (h : r.Asks options "/metrics") : (answer options r t u).body =
    metricsBody (t.snapshots.map (·.prometheus)) (u.status.renderPrometheus options.number options.build r.now) := by
  unfold answer
  rw [h.1, h.2, options.starlette.endpoint_literal ("/metrics", .metrics) (by decide)]
  rfl

theorem answer_devices (h : r.Asks options "/v1/devices") : (answer options r t u).body = devicesBody t.snapshots := by
  unfold answer
  rw [h.1, h.2, options.starlette.endpoint_literal ("/v1/devices", .devices) (by decide)]
  rfl

theorem answer_ready (h : r.Asks options "/readyz") :
    answer options r t u = readyResponse (u.status.readiness r.now) := by
  unfold answer
  rw [h.1, h.2, options.starlette.endpoint_literal ("/readyz", .ready) (by decide)]

theorem readyResponse_status (readiness : ReadinessReason) :
    (readyResponse readiness).status = if readiness = .ready then 200 else 503 := rfl

/-- A status that is ready knows of a success. -/
theorem lastSuccess_of_ready {status : RuntimeStatus} {now : Rat} (h : status.readiness now = .ready) :
    status.lastSuccess ≠ none := by
  intro hnone
  unfold RuntimeStatus.readiness at h
  rw [hnone] at h
  split_ifs at h

end Answer

/-! ## Counters -/

/-- The labels of a sample are the same, and a counter has not gone back. -/
def SampleKept (type : String) (x x' : List (String × Str) × Str) : Prop :=
  x.1 = x'.1 ∧ (type = "counter" → ∃ n n' : Nat, n ≤ n' ∧ x.2 = strInt n ∧ x'.2 = strInt n')

/-- The families of one text stand in another, with the same samples and no counter that has gone back. -/
def CountersKept (ms ms' : List StatusMetric) : Prop :=
  List.Forall₂ (fun m m' => m.name = m'.name ∧ m.type = m'.type ∧
    List.Forall₂ (SampleKept m.type) m.samples m'.samples) ms ms'

theorem sampleKept_gauge (labels : List (String × Str)) (value value' : Str) :
    SampleKept "gauge" (labels, value) (labels, value') := ⟨rfl, fun h => absurd h (by decide)⟩

theorem sampleKept_counter (labels : List (String × Str)) {n n' : Nat} (h : n ≤ n') :
    SampleKept "counter" (labels, strInt n) (labels, strInt n') := ⟨rfl, fun _ => ⟨n, n', h, rfl, rfl⟩⟩

theorem forall₂_map_same {α β : Type} {R : β → β → Prop} {f g : α → β} {l : List α} (h : ∀ a ∈ l, R (f a) (g a)) :
    List.Forall₂ R (l.map f) (l.map g) := by
  rw [List.forall₂_map_left_iff, List.forall₂_map_right_iff, List.forall₂_same]
  exact h

theorem forall₂_flatMap_same {α β : Type} {R : β → β → Prop} {f g : α → List β} : ∀ {l : List α},
    (∀ a ∈ l, List.Forall₂ R (f a) (g a)) → List.Forall₂ R (l.flatMap f) (l.flatMap g)
  | [], _ => .nil
  | a :: l, h => by
    rw [List.flatMap_cons, List.flatMap_cons]
    exact List.rel_append (h a List.mem_cons_self) (forall₂_flatMap_same (fun b hb => h b (List.mem_cons_of_mem _ hb)))

theorem countersKept_of_grown {number : Rat → Numeral} {build : BuildInfo} {a b : RuntimeStatus} {now now' : Rat}
    (h : a.Grown b) : CountersKept (a.metrics number build now) (b.metrics number build now') := by
  have hone : ∀ {name help : String} {value value' : Str}, (fun m m' : StatusMetric => m.name = m'.name ∧ m.type = m'.type ∧
      List.Forall₂ (SampleKept m.type) m.samples m'.samples) ⟨name, help, "gauge", [([], value)]⟩
        ⟨name, help, "gauge", [([], value')]⟩ :=
    fun {_ _ _ _} => ⟨rfl, rfl, .cons (sampleKept_gauge _ _ _) .nil⟩
  refine .cons ⟨rfl, rfl, .cons (sampleKept_gauge _ _ _) .nil⟩ <| .cons hone <| .cons hone <| .cons ⟨rfl, rfl, ?_⟩ <|
    .cons hone <| .cons hone <| .cons hone <| .cons ⟨rfl, rfl, ?_⟩ <| .cons ⟨rfl, rfl, ?_⟩ <| .cons ⟨rfl, rfl, ?_⟩ <|
    .cons ⟨rfl, rfl, ?_⟩ <| .cons ⟨rfl, rfl, ?_⟩ <| .cons hone <| .cons ⟨rfl, rfl, ?_⟩ .nil
  · exact .cons (sampleKept_counter _ h.successes) (.cons (sampleKept_counter _ h.failures) .nil)
  · dsimp only
    exact forall₂_map_same (fun source _ => sampleKept_gauge _ _ _)
  · dsimp only
    exact forall₂_flatMap_same (fun source _ => forall₂_map_same (fun issue _ =>
      sampleKept_counter _ (h.issueTotals source issue)))
  · dsimp only
    exact forall₂_flatMap_same (fun source _ => .cons (sampleKept_gauge _ _ _) (.cons (sampleKept_gauge _ _ _) .nil))
  · dsimp only
    exact forall₂_flatMap_same (fun route _ => forall₂_map_same (fun code _ =>
      sampleKept_counter _ (h.httpRequests route code)))
  · dsimp only
    exact forall₂_map_same (fun route _ => sampleKept_gauge _ _ _)
  · exact .cons (sampleKept_counter _ h.rejectedConnections) .nil

/-! ## A run -/

theorem zero_line : '\n' ∉ ['0'] := by decide

/-- A server whose texts show each float as zero. -/
def plainServer (limit : Nat) : ServerOptions where
  service := { config := {}, maximumRenderedPayloadBytes := limit, ratio := fun _ _ => ⟨['0'], zero_line⟩ }
  number _ := ⟨['0'], zero_line⟩
  build := ⟨[], [], 0⟩
  starlette := .templates (fun _ => response 404 "text/plain" [])

/-- A request without headers. -/
def plainGet (path : String) : Request where
  scope := ⟨"GET".toList, ascii path, [], "1.1".toList, path.toList, []⟩
  now := 1
  duration := 0

/-- A refresh that finds no device. -/
def emptyRefresh : Refresh where
  collection := { criticalSourcesOk := true, sources := fun source => { source := source, accessible := true } }
  renderFails := false
  duration := 0
  steadyNow := 0
  wallNow := 0

def visits : Fin 6 → Activity
  | 0 => .poll [emptyRefresh]
  | 1 => .request (plainGet "/readyz")
  | 2 => .request (plainGet "/v1/devices")
  | 3 => .request (plainGet "/metrics")
  | 4 => .request (plainGet "/metrics")
  | 5 => .shutdown

theorem plainGet_asks {path : String} (h : (plainGet path).scope.refusal (8 * 1024) = none) (limit : Nat) :
    (plainGet path).Asks (plainServer limit) path := ⟨h, rfl⟩

theorem ExporterService.run_singleton {options : ServiceOptions} {self : ExporterService} {refresh : Refresh} :
    self.run options [refresh] = self.refresh options refresh := rfl

/-- Two requests after the poll loop, one after the other. -/
theorem visits_in_order (limit : Nat) {i j : Fin 6} {path path' : String} (hi : visits i = .request (plainGet path))
    (hj : visits j = .request (plainGet path')) (hij : i ≠ j) : ∃ before after b, j ∉ before ∧
      ((exporter (plainServer limit) 15 false visits).run before).threads i = .done (some
        (answer (plainServer limit) (plainGet path)
          ((ExporterService.start 15 false).run (plainServer limit).service [emptyRefresh])
          ((ExporterService.start 15 false).run (plainServer limit).service [emptyRefresh]))) ∧
      ((exporter (plainServer limit) 15 false visits).run (before ++ after)).threads j = .done (some b) := by
  have hne : ∀ {k path}, visits k = .request (plainGet path) → k ≠ 0 := by
    rintro k path hk rfl
    cases hk
  have hthread : ∀ {k path}, visits k = .request (plainGet path) →
      (exporter (plainServer limit) 15 false visits).threads k =
        (Activity.request (plainGet path)).thread (plainServer limit) :=
    fun hk => congrArg (fun activity => activity.thread (plainServer limit)) hk
  obtain ⟨n, hn⟩ := poll_answered (p := exporter (plainServer limit) 15 false visits) (i := 0) rfl
  obtain ⟨m, hm⟩ := request_answered
    ((Pool.threads_run_of_notMem (fun hmem => hne hi (List.eq_of_mem_replicate hmem))).trans (hthread hi)) rfl
  rw [← Pool.run_append, hn] at hm
  have hfresh : j ∉ List.replicate n (0 : Fin 6) ++ List.replicate m i := by
    rw [List.mem_append, not_or]
    exact ⟨fun hmem => hne hj (List.eq_of_mem_replicate hmem), fun hmem => hij (List.eq_of_mem_replicate hmem).symm⟩
  obtain ⟨l, hl⟩ := request_answered ((Pool.threads_run_of_notMem hfresh).trans (hthread hj)) rfl
  rw [← Pool.run_append] at hl
  exact ⟨_, _, _, hfresh, hm, hl⟩

/-! ## Two requests in order -/

section Runs
variable {ι : Type} [DecidableEq ι] {options : ServerOptions} {maxSnapshotAge : Rat} {requireDevice : Bool}
  {activities : ι → Activity} {before after : List ι} {i j : ι} {r r' : Request} {a b : Response}

/-- What two requests were answered from, where one begins after the other was answered. -/
theorem answered_in_order (hi : activities i = .request r) (hj : activities j = .request r')
    (ha : ((exporter options maxSnapshotAge requireDevice activities).run before).threads i = .done (some a))
    (hfresh : j ∉ before)
    (hb : ((exporter options maxSnapshotAge requireDevice activities).run (before ++ after)).threads j =
      .done (some b)) :
    ∃ first ∈ Pool.turns i before, ∃ second ∈ Pool.turns i before, ∃ third ∈ Pool.turns j (before ++ after),
      ∃ fourth ∈ Pool.turns j (before ++ after), first <+: second ∧ before <+: third ∧ third <+: fourth ∧
      a = answer options r (stateAt options maxSnapshotAge requireDevice activities first)
        (stateAt options maxSnapshotAge requireDevice activities second) ∧
      b = answer options r' (stateAt options maxSnapshotAge requireDevice activities third)
        (stateAt options maxSnapshotAge requireDevice activities fourth) := by
  obtain ⟨first, hfirst, second, hsecond, hab, hanswer⟩ := answered_at hi ha
  obtain ⟨third, hthird, fourth, hfourth, hcd, hanswer'⟩ := answered_at hj hb
  have hbefore : before <+: third := by
    rw [Pool.turns_append hfresh] at hthird
    obtain ⟨later, -, rfl⟩ := List.mem_map.1 hthird
    exact List.prefix_append _ _
  exact ⟨first, hfirst, second, hsecond, third, hthird, fourth, hfourth, hab, hbefore, hcd, hanswer, hanswer'⟩

/-- **Responses never go back**: in every interleaving of the poll loop, requests, connections and a shutdown, each
response is the one that a snapshot and a status give that the run had at turns of its request, the status not before
the snapshot; where one request begins after another was answered, its turns come later, and the states there are
consistent and take nothing back. -/
theorem scrapes_ordered (hi : activities i = .request r) (hj : activities j = .request r')
    (ha : ((exporter options maxSnapshotAge requireDevice activities).run before).threads i = .done (some a))
    (hfresh : j ∉ before)
    (hb : ((exporter options maxSnapshotAge requireDevice activities).run (before ++ after)).threads j =
      .done (some b)) :
    ∃ first ∈ Pool.turns i before, ∃ second ∈ Pool.turns i before, ∃ third ∈ Pool.turns j (before ++ after),
      ∃ fourth ∈ Pool.turns j (before ++ after),
      [first, second, before, third, fourth, before ++ after].IsChain (· <+: ·) ∧
      (∀ turn ∈ [first, second, third, fourth], Coherent options.service (Polled activities)
        (stateAt options maxSnapshotAge requireDevice activities turn)) ∧
      ([first, second, third, fourth].map (stateAt options maxSnapshotAge requireDevice activities)).IsChain Later ∧
      a = answer options r (stateAt options maxSnapshotAge requireDevice activities first)
        (stateAt options maxSnapshotAge requireDevice activities second) ∧
      b = answer options r' (stateAt options maxSnapshotAge requireDevice activities third)
        (stateAt options maxSnapshotAge requireDevice activities fourth) := by
  obtain ⟨first, hfirst, second, hsecond, third, hthird, fourth, hfourth, hab, hbc, hcd, hanswers⟩ :=
    answered_in_order hi hj ha hfresh hb
  have hbefore : second <+: before := Pool.prefix_of_mem_turns hsecond
  have hend : fourth <+: before ++ after := Pool.prefix_of_mem_turns hfourth
  refine ⟨first, hfirst, second, hsecond, third, hthird, fourth, hfourth, ?_, fun turn _ => coherent_at turn, ?_,
    hanswers⟩
  · exact .cons_cons hab <| .cons_cons hbefore <| .cons_cons hbc <| .cons_cons hcd <| .cons_cons hend (.singleton _)
  · exact .cons_cons (later_at hab) <| .cons_cons (later_at (hbefore.trans hbc)) <| .cons_cons (later_at hcd)
      (.singleton _)

/-- The device list, and then the readiness. -/
theorem scrapes_ordered_visits : ∃ limit before after a b, ∃ first ∈ Pool.turns 2 before,
    ∃ second ∈ Pool.turns 2 before, ∃ third ∈ Pool.turns 1 (before ++ after), ∃ fourth ∈ Pool.turns 1 (before ++ after),
    ((exporter (plainServer limit) 15 false visits).run before).threads 2 = .done (some a) ∧
    ((exporter (plainServer limit) 15 false visits).run (before ++ after)).threads 1 = .done (some b) ∧
    ([first, second, third, fourth].map (stateAt (plainServer limit) 15 false visits)).IsChain Later ∧
    a = answer (plainServer limit) (plainGet "/v1/devices") (stateAt (plainServer limit) 15 false visits first)
      (stateAt (plainServer limit) 15 false visits second) ∧
    b = answer (plainServer limit) (plainGet "/readyz") (stateAt (plainServer limit) 15 false visits third)
      (stateAt (plainServer limit) 15 false visits fourth) := by
  have hi : visits 2 = .request (plainGet "/v1/devices") := rfl
  have hj : visits 1 = .request (plainGet "/readyz") := rfl
  obtain ⟨before, after, b, hfresh, ha, hb⟩ := visits_in_order 0 hi hj (by decide)
  obtain ⟨first, hfirst, second, hsecond, third, hthird, fourth, hfourth, -, -, h⟩ :=
    scrapes_ordered hi hj ha hfresh hb
  exact ⟨0, before, after, _, b, first, hfirst, second, hsecond, third, hthird, fourth, hfourth, ha, hb, h⟩

/-- **Ready means served**: a device list that is asked for after `/readyz` has answered 200 is the text of one collection
whose texts were within their limit, and so is what stands before the status in the metrics. -/
theorem ready_then_served (hi : activities i = .request r) (hj : activities j = .request r')
    (ha : ((exporter options maxSnapshotAge requireDevice activities).run before).threads i = .done (some a))
    (hfresh : j ∉ before)
    (hb : ((exporter options maxSnapshotAge requireDevice activities).run (before ++ after)).threads j = .done (some b))
    (hready : r.Asks options "/readyz") (h200 : a.status = 200) :
    ∃ refresh, Polled activities refresh ∧
      (r'.Asks options "/v1/devices" → b.body = renderDevicesJson refresh.collection.devices ∧
        Py.utf8Size b.body ≤ options.service.maximumRenderedPayloadBytes) ∧
      (r'.Asks options "/metrics" → ∃ status : RuntimeStatus, b.body =
        renderPrometheus options.service.ratio refresh.collection.devices ++
          status.renderPrometheus options.number options.build r'.now) := by
  obtain ⟨_, -, second, hsecond, third, -, _, -, -, hbefore, -, rfl, rfl⟩ := answered_in_order hi hj ha hfresh hb
  have hordered : second <+: third := (Pool.prefix_of_mem_turns hsecond).trans hbefore
  have hut := @later_at _ _ options maxSnapshotAge requireDevice activities _ _ hordered
  have hcu := @coherent_at _ _ options maxSnapshotAge requireDevice activities second
  have hct' := @coherent_at _ _ options maxSnapshotAge requireDevice activities third
  have hisready : (stateAt options maxSnapshotAge requireDevice activities second).status.readiness r.now = .ready := by
    rw [answer_ready hready, readyResponse_status] at h200
    by_contra hne
    rw [if_neg hne] at h200
    cases h200
  have hthere : (stateAt options maxSnapshotAge requireDevice activities third).snapshots ≠ none :=
    hut.published hcu (hcu.backed (lastSuccess_of_ready hisready))
  obtain ⟨snapshot, hsnapshot⟩ := Option.ne_none_iff_exists'.1 hthere
  obtain ⟨-, refresh, hsource, -, hpayloads⟩ := hct'.published snapshot hsnapshot
  obtain ⟨-, htexts, -, hsize⟩ := payloads_spec hpayloads
  rw [Prod.mk.injEq] at htexts
  refine ⟨refresh, hsource, fun hdevices => ?_, fun hmetrics => ?_⟩
  · rw [answer_devices hdevices, hsnapshot]
    exact ⟨htexts.2, hsize⟩
  · rw [answer_metrics hmetrics, hsnapshot]
    exact ⟨_, congrArg (· ++ _) htexts.1⟩

/-- A refresh that finds no device, `/readyz` and the device list. -/
theorem ready_then_served_visits : ∃ limit before after b,
    ((exporter (plainServer limit) 15 false visits).run (before ++ after)).threads 2 = .done (some b) ∧
    b.body = renderDevicesJson [] := by
  have hroom : ∀ (ratio : Int → Int → Numeral) (devices : List DeviceTelemetry), ∃ limit,
      Py.utf8Size (renderPrometheus ratio devices) ≤ limit ∧ Py.utf8Size (renderDevicesJson devices) ≤ limit :=
    fun ratio devices => ⟨_, le_max_left _ _, le_max_right _ _⟩
  obtain ⟨limit, hp, hd⟩ := hroom (fun _ _ => ⟨['0'], zero_line⟩) []
  have hpublishes : emptyRefresh.publishes (plainServer limit).service = true := publishes_of_room rfl rfl rfl hp hd
  obtain ⟨snapshot, -, -, -, -, -, -, hrefresh⟩ := refresh_of_publishes hpublishes (.start 15 false)
  have hi : visits 1 = .request (plainGet "/readyz") := rfl
  have hj : visits 2 = .request (plainGet "/v1/devices") := rfl
  have hready : (plainGet "/readyz").Asks (plainServer limit) "/readyz" := plainGet_asks (by decide +kernel) limit
  have hdevices : (plainGet "/v1/devices").Asks (plainServer limit) "/v1/devices" :=
    plainGet_asks (by decide +kernel) limit
  obtain ⟨before, after, b, hfresh, ha, hb⟩ := visits_in_order limit hi hj (by decide)
  have hrun : (ExporterService.start 15 false).run (plainServer limit).service [emptyRefresh] = _ :=
    ExporterService.run_singleton.trans hrefresh
  have h200 : (answer (plainServer limit) (plainGet "/readyz")
      ((ExporterService.start 15 false).run (plainServer limit).service [emptyRefresh])
      ((ExporterService.start 15 false).run (plainServer limit).service [emptyRefresh])).status = 200 := by
    rw [answer_ready hready, readyResponse_status, hrun]
    refine if_pos ?_
    simp [RuntimeStatus.readiness, ExporterService.start, emptyRefresh, plainGet]
  obtain ⟨refresh, ⟨k, refreshes, hk, hr⟩, hserved, -⟩ := ready_then_served hi hj ha hfresh hb hready h200
  have hrefresh : refresh = emptyRefresh := by
    fin_cases k
    · cases hk
      exact List.mem_singleton.1 hr
    all_goals cases hk
  refine ⟨limit, before, after, b, hb, ?_⟩
  rw [(hserved hdevices).1, hrefresh]
  rfl

/-- **A shutdown is final**: once it has begun, `/readyz` answers 503 with its reason. -/
theorem shutdown_then_unready (hi : activities i = .shutdown) (hj : activities j = .request r)
    (ha : ((exporter options maxSnapshotAge requireDevice activities).run before).threads i = .done none)
    (hfresh : j ∉ before)
    (hb : ((exporter options maxSnapshotAge requireDevice activities).run (before ++ after)).threads j = .done (some b))
    (hready : r.Asks options "/readyz") : b = readyResponse .shuttingDown := by
  obtain ⟨first, hfirst, second, -, hordered, rfl⟩ := answered_at hj hb
  have hbefore : before <+: second := by
    rw [Pool.turns_append hfresh] at hfirst
    obtain ⟨later, -, rfl⟩ := List.mem_map.1 hfirst
    exact (List.prefix_append _ _).trans hordered
  have hdown : (stateAt options maxSnapshotAge requireDevice activities second).status.shuttingDown = true :=
    (later_at hbefore).status.shuttingDown (shuttingDown_at hi ha)
  rw [answer_ready hready]
  unfold RuntimeStatus.readiness
  rw [if_pos hdown]

theorem shutdown_then_unready_visits : ∃ limit before after b,
    ((exporter (plainServer limit) 15 false visits).run (before ++ after)).threads 1 = .done (some b) ∧
    b = readyResponse .shuttingDown := by
  have hj : visits 1 = .request (plainGet "/readyz") := rfl
  have ha : ((exporter (plainServer 0) 15 false visits).run [5]).threads 5 = .done none := rfl
  obtain ⟨n, hb⟩ := request_answered (p := (exporter (plainServer 0) 15 false visits).run [5]) (i := 1)
    (r := plainGet "/readyz") rfl rfl
  rw [← Pool.run_append] at hb
  exact ⟨0, _, _, _, hb, shutdown_then_unready rfl hj ha (by decide) hb (plainGet_asks (by decide +kernel) 0)⟩

/-- **Counters never go back**: the status of a later scrape has every series of an earlier one, and each of its counters
is at least what it was. -/
theorem counters_kept (hi : activities i = .request r) (hj : activities j = .request r')
    (ha : ((exporter options maxSnapshotAge requireDevice activities).run before).threads i = .done (some a))
    (hfresh : j ∉ before)
    (hb : ((exporter options maxSnapshotAge requireDevice activities).run (before ++ after)).threads j = .done (some b))
    (hmetrics : r.Asks options "/metrics") (hmetrics' : r'.Asks options "/metrics") :
    ∃ (devices devices' : Option Str) (status status' : RuntimeStatus),
      a.body = metricsBody devices (status.renderPrometheus options.number options.build r.now) ∧
      b.body = metricsBody devices' (status'.renderPrometheus options.number options.build r'.now) ∧
      CountersKept (status.metrics options.number options.build r.now)
        (status'.metrics options.number options.build r'.now) := by
  obtain ⟨_, -, second, hsecond, _, -, fourth, -, -, hbefore, hcd, rfl, rfl⟩ := answered_in_order hi hj ha hfresh hb
  have hordered : second <+: fourth := (Pool.prefix_of_mem_turns hsecond).trans (hbefore.trans hcd)
  exact ⟨_, _, _, _, answer_metrics hmetrics, answer_metrics hmetrics',
    countersKept_of_grown (later_at hordered).status⟩

theorem counters_kept_visits : ∃ before after a b,
    ((exporter (plainServer 0) 15 false visits).run before).threads 3 = .done (some a) ∧
    ((exporter (plainServer 0) 15 false visits).run (before ++ after)).threads 4 = .done (some b) ∧
    ∃ status status' : RuntimeStatus,
      CountersKept (status.metrics (plainServer 0).number (plainServer 0).build (plainGet "/metrics").now)
        (status'.metrics (plainServer 0).number (plainServer 0).build (plainGet "/metrics").now) := by
  have hi : visits 3 = .request (plainGet "/metrics") := rfl
  have hj : visits 4 = .request (plainGet "/metrics") := rfl
  have hmetrics : (plainGet "/metrics").Asks (plainServer 0) "/metrics" := plainGet_asks (by decide +kernel) 0
  obtain ⟨before, after, b, hfresh, ha, hb⟩ := visits_in_order 0 hi hj (by decide)
  obtain ⟨-, -, status, status', -, -, hkept⟩ := counters_kept hi hj ha hfresh hb hmetrics hmetrics
  exact ⟨before, after, _, b, ha, hb, status, status', hkept⟩

end Runs
end Tt
