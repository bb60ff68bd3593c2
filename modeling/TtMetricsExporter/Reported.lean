import TtMetricsExporter.Reporting
import TtMetricsExporter.Served
/-!
# Reported — what the log is good for

Over every interleaving of refreshes, requests, connections and a shutdown: a warning is never lost to the limit on
keys, only held back for as long as the limit on the rate says (`warnings_reported`); and the lines about readiness are
its changes, as the refreshes found them (`readiness_reported`).
-/
namespace Tt

open Py (Str)

/-! ## The keys -/

theorem key_subject (w : Warning) : w.subject.key = w.key := by
  cases w <;> rfl

theorem mem_allSources (source : TelemetrySource) : source ∈ allSources := by
  cases source <;> decide

theorem mem_allIssues (issue : CollectionIssue) : issue ∈ allIssues := by
  cases issue <;> decide

theorem subject_mem (w : Warning) : w.subject ∈ Warning.subjects := by
  cases w with
  | collectionFailed ok => cases ok <;> decide
  | sourceDegraded source => cases source <;> decide
  | recordRejected source issue count =>
    refine List.mem_append_right _ (List.mem_flatMap.2 ⟨source, mem_allSources source, ?_⟩)
    exact List.mem_map.2 ⟨issue, mem_allIssues issue, rfl⟩
  | connectionRejected => decide

theorem key_utf8 (w : Warning) : 0 < Py.utf8Size w.key ∧ Py.utf8Size w.key ≤ 64 := by
  have hall : ∀ w ∈ Warning.subjects, 0 < Py.utf8Size w.key ∧ Py.utf8Size w.key ≤ 64 := by decide +kernel
  have hw := hall w.subject (subject_mem w)
  rw [key_subject] at hw
  exact hw

/-- A key has one subject. -/
theorem subject_of_key {w w' : Warning} (h : w.key = w'.key) : w.subject = w'.subject := by
  have hall : ∀ w ∈ Warning.subjects, ∀ w' ∈ Warning.subjects, w.key = w'.key → w = w' := by decide +kernel
  exact hall _ (subject_mem w) _ (subject_mem w') (by rw [key_subject, key_subject, h])

/-! ## Refreshes without their log -/

section Obeys
variable {rel : Operation → Operation → Prop}

theorem warnAll_obeys (clock : Warning → Rat) : ∀ {warnings : List Warning},
    (∀ w ∈ warnings, ∀ now s, rel s (s.logRateLimited now w.call)) → (warnAll clock warnings).Obeys rel
  | [], _ => trivial
  | w :: _, h => .bind (Thread.obeys_update (h w List.mem_cons_self (clock w)))
      (fun _ => warnAll_obeys clock (fun w hw => h w (List.mem_cons_of_mem _ hw)))

theorem reportCollection_obeys
    (hwarn : ∀ ok now s, rel s (s.logRateLimited now (Warning.collectionFailed ok).call))
    (hlog : ∀ snapshot duration s, rel s (s.log (completedCall snapshot duration)))
    (r : Report) (published : Option ExporterSnapshot) : (reportCollection r published).Obeys rel := by
  cases published with
  | none => exact Thread.obeys_update (hwarn _ _)
  | some snapshot => exact Thread.obeys_update (hlog snapshot r.refresh.duration)

theorem reportingConnections_obeys (hservice : ∀ service s, rel s (s.withService service))
    (hwarn : ∀ now s, rel s (s.logRateLimited now Warning.connectionRejected.call)) :
    ∀ events : List (ConnectionEvent × Rat), (reportingConnections events).Obeys rel
  | [] => trivial
  | (event, now) :: rest => by
    have hevent : (reportConnection event now).Obeys rel := by
      refine .bind (Thread.obeys_update (fun s => hservice _ s)) (fun _ => ?_)
      cases event with
      | opened => exact Thread.obeys_pure _
      | closed => exact Thread.obeys_pure _
      | rejected => exact Thread.obeys_update (hwarn now)
    exact hevent.bind (fun _ => reportingConnections_obeys hservice hwarn rest)

end Obeys

theorem log_service (call : LogCall) (s : Operation) : (s.log call).service = s.service := by
  unfold Operation.log
  split_ifs <;> rfl

theorem logRateLimited_service (now : Rat) (call : LogCall) (s : Operation) :
    (s.logRateLimited now call).service = s.service := by
  unfold Operation.logRateLimited
  split_ifs <;> rfl

/-- **What a refresh does to the service does not depend on its log.** -/
theorem reportingRefresh_service (options : ServerOptions) (r : Report) (s : Operation) :
    ((reportingRefresh options r).alone s).2.service = s.service.refresh options.service r.refresh := by
  have hwarn : ∀ (w : Warning) now (s : Operation), (s.logRateLimited now w.call).service = s.service := fun w now =>
    logRateLimited_service now w.call
  have hlater : ∀ published, (do
      reportCollection r published
      let diagnostics := (published.map (·.collection.sources)).getD r.refresh.collection.sources
      warnAll r.clock (sourceWarnings diagnostics)
      let readiness ← .get (fun s => s.service.status.readiness r.readinessNow)
      reportReadiness readiness
      return readiness : Reporting ReadinessReason).Obeys (fun s t => t.service = s.service) := by
    intro published
    refine .bind (reportCollection_obeys (fun _ => hwarn _) (fun _ _ => log_service _) r published) (fun _ => ?_)
    refine .bind (warnAll_obeys r.clock (fun w _ => hwarn w)) (fun _ => ?_)
    refine .bind (Thread.obeys_get (by exact fun _ => rfl) _) (fun readiness => ?_)
    refine .bind (.bind (Thread.obeys_get (by exact fun _ => rfl) _) (fun previous => ?_)) (fun _ => Thread.obeys_pure _)
    split_ifs
    · exact .bind (Thread.obeys_update (log_service _)) (fun _ => Thread.obeys_update (fun _ => rfl))
    · exact Thread.obeys_pure _
  exact (hlater _).alone (by exact fun _ => rfl) (by exact fun _ _ _ h h' => h'.trans h) _

/-! ## Warnings -/

/-- The table knows the keys of warnings only, and warnings only were let through. -/
structure Watched (minimum : LogLevel) (s : Operation) : Prop where
  limited : Limited s.logger
  keys : ∀ key ∈ s.logger.lastEmitted.map Prod.fst, ∃ w : Warning, w.key = key
  calls : ∀ e ∈ s.logger.output, ∃ w : Warning, e.call = w.call
  minimum : s.logger.minimum = minimum

/-- A warning on the same subject was let through when this one was asked for, or less than a minute before. -/
def ReportedBy (now : Rat) (w : Warning) (s : Operation) : Prop :=
  ∃ e ∈ s.logger.output, ∃ w' : Warning, e.call = w'.call ∧ w'.subject = w.subject ∧ now - 60 < e.now ∧ e.now ≤ now

/-- What threads do that do not warn under some keys: nothing is taken back, and nothing is let through under these. -/
structure Elsewhere (minimum : LogLevel) (keys : Str → Prop) (s t : Operation) : Prop where
  watched : Watched minimum s → Watched minimum t
  continues : s.logger.output ⊆ t.logger.output
  apart : ∀ e ∈ t.logger.output, keys e.call.boundedKey → e ∈ s.logger.output

/-- A thread between two of its warnings, each with its reading of the clock: what it asked for was reported, and what
it has still to ask for does not come before what was let through under its keys. -/
structure Midway (minimum : LogLevel) (keys : Str → Prop) (past future : List (Rat × Warning)) (s : Operation) : Prop where
  watched : Watched minimum s
  reported : ∀ x ∈ past, ReportedBy x.1 x.2 s
  own : ∀ x ∈ future, keys x.2.key
  ordered : (future.map Prod.fst).Pairwise (· ≤ ·)
  notLater : ∀ e ∈ s.logger.output, keys e.call.boundedKey → ∀ x ∈ future, e.now ≤ x.1

section Warnings
variable {minimum : LogLevel} {keys : Str → Prop} {past future : List (Rat × Warning)} {s t : Operation} {now : Rat}
  {w : Warning}

theorem Elsewhere.refl (s : Operation) : Elsewhere minimum keys s s := ⟨id, fun _ h => h, fun _ h _ => h⟩

theorem Elsewhere.trans (s t u : Operation) (h : Elsewhere minimum keys s t) (h' : Elsewhere minimum keys t u) :
    Elsewhere minimum keys s u :=
  ⟨h'.watched ∘ h.watched, fun _ he => h'.continues (h.continues he),
    fun e he hkey => h.apart e (h'.apart e he hkey) hkey⟩

/-- What leaves the rate limiter alone. -/
theorem elsewhere_of_logger (h : t.logger = s.logger) : Elsewhere minimum keys s t where
  watched hs := ⟨h ▸ hs.limited, h ▸ hs.keys, h ▸ hs.calls, h ▸ hs.minimum⟩
  continues := by
    rw [h]
    exact fun _ he => he
  apart := by
    rw [h]
    exact fun _ he _ => he

theorem ReportedBy.continues (h : s.logger.output ⊆ t.logger.output) (hr : ReportedBy now w s) : ReportedBy now w t := by
  obtain ⟨e, he, hw⟩ := hr
  exact ⟨e, h he, hw⟩

theorem Midway.elsewhere (h : Midway minimum keys past future s) (hst : Elsewhere minimum keys s t) :
    Midway minimum keys past future t where
  watched := hst.watched h.watched
  reported x hx := (h.reported x hx).continues hst.continues
  own := h.own
  ordered := h.ordered
  notLater e he hkey := h.notLater e (hst.apart e he hkey) hkey

/-- **There is room for every key**: a table that knows keys of warnings only is never full. -/
theorem Watched.room (h : Watched minimum s) : s.logger.lastEmitted.length < 64 := by
  have hsub : s.logger.lastEmitted.map Prod.fst ⊆ Warning.subjects.map Warning.key := by
    intro key hkey
    obtain ⟨w, rfl⟩ := h.keys key hkey
    rw [← key_subject]
    exact List.mem_map_of_mem (subject_mem w)
  have hlength := (h.limited.nodup.subperm hsub).length_le
  rw [List.length_map] at hlength
  exact lt_of_le_of_lt hlength (by decide)

theorem Watched.emit (h : Watched minimum s) (hdue : s.logger.Due now w.call) :
    Watched minimum { s with logger := s.logger.emit now w.call } := by
  refine ⟨limited_emit h.limited hdue, fun key hkey => ?_, fun e he => ?_, h.minimum⟩
  · replace hkey : key ∈ (Py.setItem w.key now s.logger.lastEmitted).map Prod.fst := hkey
    rw [Py.keys_setItem] at hkey
    split_ifs at hkey
    · exact h.keys key hkey
    · rcases List.mem_append.1 hkey with hkey | hkey
      · exact h.keys key hkey
      · exact ⟨w, (List.mem_singleton.1 hkey).symm⟩
  · rcases List.mem_append.1 he with he | he
    · exact h.calls e he
    · exact ⟨w, by rw [List.mem_singleton.1 he]⟩

/-- What is not due was let through before, not a minute ago. -/
theorem Watched.recent (h : Watched minimum s) (hdue : ¬ s.logger.Due now w.call) :
    ∃ e ∈ s.logger.output, e.call.boundedKey = w.key ∧ (∃ w' : Warning, e.call = w'.call ∧ w'.subject = w.subject) ∧
      now - 60 < e.now := by
  obtain ⟨previous, hprevious⟩ : ∃ previous, s.logger.lastEmitted.lookup w.key = some previous := by
    cases hp : s.logger.lastEmitted.lookup w.key with
    | none => exact absurd (.inl ⟨Py.lookup_eq_none_iff_notMem.1 hp, h.room⟩) hdue
    | some previous => exact ⟨previous, rfl⟩
  have hrecent : now - previous < 60 := not_le.1 (fun hi => hdue (.inr ⟨previous, hprevious, hi⟩))
  have hlast := h.limited.last w.key
  rw [hprevious, eq_comm, Option.map_eq_some_iff] at hlast
  obtain ⟨e, he, rfl⟩ := hlast
  obtain ⟨hmem, hkey⟩ := List.mem_filter.1 (List.mem_of_getLast? he)
  replace hkey : e.call.boundedKey = w.key := of_decide_eq_true hkey
  obtain ⟨w', hw'⟩ := h.calls e hmem
  have hkeys : w'.key = w.key := by
    rw [hw'] at hkey
    exact hkey
  exact ⟨e, hmem, hkey, ⟨w', hw', subject_of_key hkeys⟩, by linarith only [hrecent]⟩

theorem admits_warning (hm : minimum.value ≤ LogLevel.warn.value) (h : Watched minimum s) (w : Warning) :
    s.logger.Admits w.call := by
  rw [← h.minimum] at hm
  exact ⟨hm, key_utf8 w⟩

/-- A warning under another key. -/
theorem elsewhere_warning (h : ¬ keys w.key) (now : Rat) (s : Operation) :
    Elsewhere minimum keys s (s.logRateLimited now w.call) := by
  unfold Operation.logRateLimited
  split_ifs
  · by_cases hdue : s.logger.Due now w.call
    · rw [locked_of_due hdue]
      refine ⟨fun hs => hs.emit hdue, List.subset_append_left _ _, fun e he hkey => ?_⟩
      rcases List.mem_append.1 he with he | he
      · exact he
      · rw [List.mem_singleton.1 he] at hkey
        exact absurd hkey h
    · rw [locked_of_not_due hdue]
      exact .refl s
  · exact .refl s

/-- **One warning**: it is let through, or one was less than a minute before; either way the next ones do not come
before what was let through. -/
theorem Midway.warned (hm : minimum.value ≤ LogLevel.warn.value) (h : Midway minimum keys past ((now, w) :: future) s) :
    Midway minimum keys (past ++ [(now, w)]) future (s.logRateLimited now w.call) := by
  obtain ⟨hfirst, hordered⟩ := List.pairwise_cons.1 h.ordered
  have hown : ∀ x ∈ future, keys x.2.key := fun x hx => h.own x (List.mem_cons_of_mem _ hx)
  unfold Operation.logRateLimited
  rw [if_pos (admits_warning hm h.watched w)]
  by_cases hdue : s.logger.Due now w.call
  · rw [locked_of_due hdue]
    refine ⟨h.watched.emit hdue, fun x hx => ?_, hown, hordered, fun e he hkey x hx => ?_⟩
    · rcases List.mem_append.1 hx with hx | hx
      · exact (h.reported x hx).continues (List.subset_append_left _ _)
      · rw [List.mem_singleton.1 hx]
        refine ⟨⟨w.call, now⟩, List.mem_append_right _ (List.mem_singleton.2 rfl), w, rfl, rfl, ?_, le_refl _⟩
        linarith
    · rcases List.mem_append.1 he with he | he
      · exact h.notLater e he hkey x (List.mem_cons_of_mem _ hx)
      · rw [List.mem_singleton.1 he]
        exact hfirst x.1 (List.mem_map_of_mem hx)
  · rw [locked_of_not_due hdue]
    refine ⟨h.watched, fun x hx => ?_, hown, hordered, fun e he hkey x hx =>
      h.notLater e he hkey x (List.mem_cons_of_mem _ hx)⟩
    rcases List.mem_append.1 hx with hx | hx
    · exact h.reported x hx
    · rw [List.mem_singleton.1 hx]
      obtain ⟨e, he, hkey, ⟨w', hw', hsubject⟩, hrecent⟩ := h.watched.recent hdue
      have hkeys : keys e.call.boundedKey := hkey ▸ h.own _ List.mem_cons_self
      exact ⟨e, he, w', hw', hsubject, hrecent, h.notLater e he hkeys _ List.mem_cons_self⟩

theorem warn_meets (hm : minimum.value ≤ LogLevel.warn.value) (h : Midway minimum keys past ((now, w) :: future) s) :
    (warn now w).Meets (Elsewhere minimum keys) (fun _ => True)
      (fun _ t => Midway minimum keys (past ++ [(now, w)]) future t) (fun _ _ => True) s :=
  Thread.meets_update (fun _ hs _ => (h.elsewhere hs).warned hm)

theorem warnAll_meets (hm : minimum.value ≤ LogLevel.warn.value) (clock : Warning → Rat) :
    ∀ (warnings : List Warning) {past : List (Rat × Warning)} {s : Operation},
      Midway minimum keys past (warnings.map (fun w => (clock w, w)) ++ future) s →
      (warnAll clock warnings).Meets (Elsewhere minimum keys) (fun _ => True)
        (fun _ t => Midway minimum keys (past ++ warnings.map (fun w => (clock w, w))) future t) (fun _ _ => True) s
  | [], past, _, h => (List.append_nil past).symm ▸ h
  | w :: rest, past, _, h => by
    refine .bind ((warn_meets hm h).mono (fun _ t ht => ?_) (fun _ _ _ => trivial))
    refine (warnAll_meets hm clock rest ht).mono (fun _ u hu => ?_) (fun _ _ _ => trivial)
    rw [List.append_assoc] at hu
    exact hu

/-- What does not warn under the thread's keys leaves it where it is. -/
theorem midway_kept {α : Type} {x : Reporting α} (hx : x.Obeys (Elsewhere minimum keys))
    (h : Midway minimum keys past future s) :
    x.Meets (Elsewhere minimum keys) (fun _ => True) (fun _ t => Midway minimum keys past future t) (fun _ _ => True) s :=
  (Thread.meets_of_obeys Elsewhere.trans hx (Elsewhere.refl s)).mono (fun _ _ ht => h.elsewhere ht)
    (fun _ _ _ => trivial)

/-! ## Refreshes -/

variable (options : ServerOptions)

/-- What a refresh has to warn of. -/
def Report.Warns (r : Report) : Warning → Prop
  | .collectionFailed ok => r.refresh.payloads options.service = none ∧ ok = r.refresh.collection.criticalSourcesOk
  | .sourceDegraded source => (r.refresh.collection.sources source).configured = true ∧
      (r.refresh.collection.sources source).accessible = false
  | .recordRejected source issue count =>
    count ≠ 0 ∧ count = (r.refresh.collection.sources source).issues issue
  | .connectionRejected => False

/-- The warnings of a refresh in the order in which it asks for them. -/
def Report.warnings (r : Report) : List Warning :=
  (match r.refresh.payloads options.service with
  | some _ => []
  | none => [.collectionFailed r.refresh.collection.criticalSourcesOk]) ++ sourceWarnings r.refresh.collection.sources

/-- What a refresh asks for, each with its reading of the clock. -/
def Report.asks (r : Report) : List (Rat × Warning) := (r.warnings options).map (fun w => (r.clock w, w))

variable {options}

theorem mem_sourceWarnings {r : Report} {w : Warning} (h : r.Warns options w) :
    w ∈ sourceWarnings r.refresh.collection.sources ∨ ∃ ok, w = .collectionFailed ok := by
  cases w with
  | collectionFailed ok => exact .inr ⟨ok, rfl⟩
  | sourceDegraded source =>
    refine .inl (List.mem_flatMap.2 ⟨source, mem_allSources source, List.mem_append_left _ ?_⟩)
    rw [h.1, h.2]
    exact List.mem_singleton.2 rfl
  | recordRejected source issue count =>
    obtain ⟨hcount, rfl⟩ := h
    refine .inl (List.mem_flatMap.2 ⟨source, mem_allSources source, List.mem_append_right _ ?_⟩)
    exact List.mem_map.2 ⟨issue, List.mem_filter.2 ⟨mem_allIssues issue, decide_eq_true hcount⟩, rfl⟩
  | connectionRejected => exact h.elim

/-- A refresh asks for every warning that it has reason for. -/
theorem mem_warnings {r : Report} (h : r.Warns options w) : w ∈ r.warnings options := by
  rcases mem_sourceWarnings h with hmem | ⟨ok, rfl⟩
  · exact List.mem_append_right _ hmem
  · obtain ⟨hpayloads, rfl⟩ := h
    unfold Report.warnings
    rw [hpayloads]
    exact List.mem_append_left _ (List.mem_singleton.2 rfl)

/-- A refresh does not warn of connections. -/
theorem ne_connectionRejected {diagnostics : TelemetrySource → SourceDiagnostics} (h : w ∈ sourceWarnings diagnostics) :
    w ≠ .connectionRejected := by
  rintro rfl
  obtain ⟨source, -, h⟩ := List.mem_flatMap.1 h
  rcases List.mem_append.1 h with h | h
  · split_ifs at h
    · cases List.mem_singleton.1 h
    · cases h
  · obtain ⟨_, -, h⟩ := List.mem_map.1 h
    cases h

theorem log_logger (call : LogCall) (s : Operation) : (s.log call).logger = s.logger := by
  unfold Operation.log
  split_ifs <;> rfl

/-- The first section publishes the refresh's payloads, with its collection. -/
theorem publishStep_payloads (self : ExporterService) (r : Refresh) :
    ((self.publishStep options.service r).2 = none ↔ r.payloads options.service = none) ∧
      ∀ snapshot, (self.publishStep options.service r).2 = some snapshot → snapshot.collection = r.collection := by
  unfold ExporterService.publishStep
  cases r.payloads options.service with
  | none => exact ⟨⟨fun _ => rfl, fun _ => rfl⟩, fun _ h => nomatch h⟩
  | some p =>
    refine ⟨⟨fun h => (nomatch h), fun h => (nomatch h)⟩, fun snapshot h => ?_⟩
    cases h
    rfl

theorem reportReadiness_elsewhere (readiness : ReadinessReason) :
    (reportReadiness readiness).Obeys (Elsewhere minimum keys) := by
  refine .bind (Thread.obeys_get Elsewhere.refl _) (fun previous => ?_)
  split_ifs
  · refine .bind (Thread.obeys_update (fun s => elsewhere_of_logger (log_logger _ s))) (fun _ => ?_)
    exact Thread.obeys_update (fun _ => elsewhere_of_logger rfl)
  · exact Thread.obeys_pure _

/-- The warning about the collection comes first, and then those about its sources. -/
theorem reportCollection_warns (hm : minimum.value ≤ LogLevel.warn.value) {r : Report}
    {published : Option ExporterSnapshot} (hnone : published = none ↔ r.refresh.payloads options.service = none)
    (h : Midway minimum keys past (r.asks options ++ future) s) : ∃ first : List Warning,
      r.warnings options = first ++ sourceWarnings r.refresh.collection.sources ∧
      (reportCollection r published).Meets (Elsewhere minimum keys) (fun _ => True)
        (fun _ t => Midway minimum keys (past ++ first.map (fun w => (r.clock w, w)))
          ((sourceWarnings r.refresh.collection.sources).map (fun w => (r.clock w, w)) ++ future) t)
        (fun _ _ => True) s := by
  unfold Report.asks Report.warnings at h
  unfold Report.warnings
  cases published with
  | none =>
    rw [hnone.1 rfl] at h ⊢
    exact ⟨_, rfl, warn_meets hm h⟩
  | some snapshot =>
    obtain ⟨p, hp⟩ := Option.ne_none_iff_exists'.1 (fun he => Option.some_ne_none snapshot (hnone.2 he))
    rw [hp] at h ⊢
    refine ⟨[], rfl, ?_⟩
    rw [List.map_nil, List.append_nil]
    exact midway_kept (Thread.obeys_update (fun s => elsewhere_of_logger (log_logger _ s))) h

theorem reportingRefresh_warns (hm : minimum.value ≤ LogLevel.warn.value) (r : Report)
    (h : Midway minimum keys past (r.asks options ++ future) s) :
    (reportingRefresh options r).Meets (Elsewhere minimum keys) (fun _ => True)
      (fun _ t => Midway minimum keys (past ++ r.asks options) future t) (fun _ _ => True) s := by
  refine .bind (Thread.meets_atomic (fun s₁ hs₁ _ => ?_))
  obtain ⟨hnone, hcollection⟩ := @publishStep_payloads options s₁.service r.refresh
  have h₁ : Midway minimum keys past (r.asks options ++ future)
      (s₁.withService (s₁.service.publishStep options.service r.refresh).1) :=
    (h.elsewhere hs₁).elsewhere (elsewhere_of_logger rfl)
  generalize (s₁.service.publishStep options.service r.refresh).2 = published at hnone hcollection
  refine .bind (Thread.meets_update (fun s₂ hs₂ _ => ?_))
  have h₂ : Midway minimum keys past (r.asks options ++ future)
      (s₂.withService (s₂.service.recordStep r.refresh published)) :=
    (h₁.elsewhere hs₂).elsewhere (elsewhere_of_logger rfl)
  have hsources : (published.map (·.collection.sources)).getD r.refresh.collection.sources =
      r.refresh.collection.sources := by
    cases published with
    | none => rfl
    | some snapshot => exact congrArg CollectionResult.sources (hcollection snapshot rfl)
  rw [hsources]
  obtain ⟨first, hfirst, hmeets⟩ := reportCollection_warns hm hnone h₂
  refine .bind (hmeets.mono (fun _ s₃ h₃ => ?_) (fun _ _ _ => trivial))
  refine .bind ((warnAll_meets hm r.clock _ h₃).mono (fun _ s₄ h₄ => ?_) (fun _ _ _ => trivial))
  rw [List.append_assoc, ← List.map_append, ← hfirst] at h₄
  refine .bind (Thread.meets_get (fun s₅ hs₅ _ => ?_))
  exact .bind (midway_kept (reportReadiness_elsewhere _) (h₄.elsewhere hs₅))

theorem reportingLoop_warns (hm : minimum.value ≤ LogLevel.warn.value) :
    ∀ (reports : List Report) {past : List (Rat × Warning)} {s : Operation},
      Midway minimum keys past (reports.flatMap (·.asks options)) s →
      (reportingLoop options reports).Meets (Elsewhere minimum keys) (fun _ => True)
        (fun _ t => Midway minimum keys (past ++ reports.flatMap (·.asks options)) [] t) (fun _ _ => True) s
  | [], past, _, h => (List.append_nil past).symm ▸ h
  | r :: rest, past, _, h => by
    refine .bind ((reportingRefresh_warns hm r h).mono (fun _ t ht => ?_) (fun _ _ _ => trivial))
    refine .bind ((reportingLoop_warns hm rest ht).mono (fun _ u hu => ?_) (fun _ _ _ => trivial))
    rw [List.append_assoc] at hu
    exact hu

/-! ## Connections -/

/-- What a connection asks for. -/
def connectionAsks : ConnectionEvent × Rat → List (Rat × Warning)
  | (.rejected, now) => [(now, .connectionRejected)]
  | _ => []

theorem reportConnection_warns (hm : minimum.value ≤ LogLevel.warn.value) {event : ConnectionEvent}
    (h : Midway minimum keys past (connectionAsks (event, now) ++ future) s) :
    (reportConnection event now).Meets (Elsewhere minimum keys) (fun _ => True)
      (fun _ t => Midway minimum keys (past ++ connectionAsks (event, now)) future t) (fun _ _ => True) s := by
  refine .bind (Thread.meets_update (fun s₁ hs₁ _ => ?_))
  have h₁ : Midway minimum keys past (connectionAsks (event, now) ++ future)
      (s₁.withService { s₁.service with status := event.record s₁.service.status }) :=
    (h.elsewhere hs₁).elsewhere (elsewhere_of_logger rfl)
  cases event with
  | opened => exact (List.append_nil past).symm ▸ h₁
  | closed => exact (List.append_nil past).symm ▸ h₁
  | rejected => exact warn_meets hm h₁

theorem reportingConnections_warns (hm : minimum.value ≤ LogLevel.warn.value) :
    ∀ (events : List (ConnectionEvent × Rat)) {past : List (Rat × Warning)} {s : Operation},
      Midway minimum keys past (events.flatMap connectionAsks) s →
      (reportingConnections events).Meets (Elsewhere minimum keys) (fun _ => True)
        (fun _ t => Midway minimum keys (past ++ events.flatMap connectionAsks) [] t) (fun _ _ => True) s
  | [], past, _, h => (List.append_nil past).symm ▸ h
  | (event, now) :: rest, past, _, h => by
    refine .bind ((reportConnection_warns hm h).mono (fun _ t ht => ?_) (fun _ _ _ => trivial))
    refine (reportingConnections_warns hm rest ht).mono (fun _ u hu => ?_) (fun _ _ _ => trivial)
    rw [List.append_assoc] at hu
    exact hu

/-! ## Runs -/

/-- What a thread has to warn of, and the reading of the clock with which it does. -/
def Duty.Warns (options : ServerOptions) : Duty → Rat → Warning → Prop
  | .refreshes reports, now, w => ∃ r ∈ reports, r.Warns options w ∧ now = r.clock w
  | .connections events, now, w => w = .connectionRejected ∧ (.rejected, now) ∈ events
  | _, _, _ => False

/-- What a thread asks for, in its order. -/
def Duty.asks (options : ServerOptions) : Duty → List (Rat × Warning)
  | .refreshes reports => reports.flatMap (·.asks options)
  | .connections events => events.flatMap connectionAsks
  | _ => []

/-- Two threads that both refresh, or both take connections. -/
def Duty.Alike : Duty → Duty → Prop
  | .refreshes _, .refreshes _ => True
  | .connections _, .connections _ => True
  | _, _ => False

/-- The keys that a thread warns under. -/
def Duty.Keys : Duty → Str → Prop
  | .refreshes _, key => key ≠ Warning.connectionRejected.key
  | .connections _, key => key = Warning.connectionRejected.key
  | _, _ => False

theorem mem_asks {duty : Duty} (h : duty.Warns options now w) : (now, w) ∈ duty.asks options := by
  cases duty with
  | refreshes reports =>
    obtain ⟨r, hr, hwarns, rfl⟩ := h
    exact List.mem_flatMap.2 ⟨r, hr, List.mem_map.2 ⟨w, mem_warnings hwarns, rfl⟩⟩
  | connections events =>
    obtain ⟨rfl, hmem⟩ := h
    exact List.mem_flatMap.2 ⟨_, hmem, List.mem_singleton.2 rfl⟩
  | request r => exact h.elim
  | shutdown => exact h.elim

theorem key_ne_connectionRejected (h : w ≠ .connectionRejected) : w.key ≠ Warning.connectionRejected.key := by
  intro hkey
  have hsubject := subject_of_key hkey
  cases w <;> first | exact h rfl | cases hsubject

theorem warnings_ne_connectionRejected {r : Report} (h : w ∈ r.warnings options) : w ≠ .connectionRejected := by
  unfold Report.warnings at h
  rcases List.mem_append.1 h with h | h
  · cases hp : r.refresh.payloads options.service with
    | none =>
      rw [hp] at h
      rw [List.mem_singleton.1 h]
      exact fun he => nomatch he
    | some p =>
      rw [hp] at h
      cases h
  · exact ne_connectionRejected h

theorem keys_of_mem_asks {duty : Duty} {x : Rat × Warning} (h : x ∈ duty.asks options) : duty.Keys x.2.key := by
  cases duty with
  | refreshes reports =>
    obtain ⟨r, -, h⟩ := List.mem_flatMap.1 h
    obtain ⟨w, hw, rfl⟩ := List.mem_map.1 h
    exact key_ne_connectionRejected (warnings_ne_connectionRejected hw)
  | connections events =>
    obtain ⟨⟨event, now⟩, -, h⟩ := List.mem_flatMap.1 h
    cases event with
    | opened => cases h
    | closed => cases h
    | rejected =>
      rw [List.mem_singleton.1 h]
      rfl
  | request r => cases h
  | shutdown => cases h

theorem reportingRefresh_elsewhere (hkeys : ∀ w : Warning, w ≠ .connectionRejected → ¬ keys w.key) (r : Report) :
    (reportingRefresh options r).Obeys (Elsewhere minimum keys) := by
  refine .bind (Thread.obeys_atomic (fun _ => elsewhere_of_logger rfl)) (fun published => ?_)
  refine .bind (Thread.obeys_update (fun _ => elsewhere_of_logger rfl)) (fun _ => ?_)
  have hcollection : (reportCollection r published).Obeys (Elsewhere minimum keys) :=
    reportCollection_obeys (fun _ => elsewhere_warning (hkeys _ (fun he => nomatch he)))
      (fun _ _ s => elsewhere_of_logger (log_logger _ s)) r published
  refine hcollection.bind (fun _ => ?_)
  refine .bind (warnAll_obeys r.clock (fun w hw => elsewhere_warning (hkeys w (ne_connectionRejected hw)))) (fun _ => ?_)
  refine .bind (Thread.obeys_get Elsewhere.refl _) (fun readiness => ?_)
  exact .bind (reportReadiness_elsewhere readiness) (fun _ => Thread.obeys_pure _)

theorem reportingLoop_elsewhere (hkeys : ∀ w : Warning, w ≠ .connectionRejected → ¬ keys w.key) :
    ∀ reports : List Report, (reportingLoop options reports).Obeys (Elsewhere minimum keys)
  | [] => trivial
  | r :: rest => .bind (reportingRefresh_elsewhere hkeys r)
      (fun _ => .bind (reportingLoop_elsewhere hkeys rest) (fun _ => Thread.obeys_pure _))

/-- **A thread warns under its own keys only.** -/
theorem duty_elsewhere {duty : Duty} (h : ∀ key, duty.Keys key → ¬ keys key) :
    (duty.thread options).Obeys (Elsewhere minimum keys) := by
  cases duty with
  | refreshes reports => exact reportingLoop_elsewhere (fun w hw => h _ (key_ne_connectionRejected hw)) reports
  | request r =>
    refine .bind (Thread.obeys_within ?_ _) (fun _ => Thread.obeys_pure _)
    exact fun _ _ => elsewhere_of_logger rfl
  | connections events =>
    have hconnections : (reportingConnections events).Obeys (Elsewhere minimum keys) :=
      reportingConnections_obeys (fun _ _ => elsewhere_of_logger rfl) (elsewhere_warning (h _ rfl)) events
    exact hconnections.bind (fun _ => Thread.obeys_pure _)
  | shutdown =>
    refine .bind (Thread.obeys_update (fun s => elsewhere_of_logger (log_logger _ s))) (fun _ => ?_)
    exact .bind (Thread.obeys_update (fun _ => elsewhere_of_logger rfl)) (fun _ => Thread.obeys_pure _)

/-- **A thread has all that it asked for reported**, where no other warns under its keys. -/
theorem duty_warns (hm : minimum.value ≤ LogLevel.warn.value) (duty : Duty)
    (h : Midway minimum duty.Keys [] (duty.asks options) s) :
    (duty.thread options).Meets (Elsewhere minimum duty.Keys) (fun _ => True)
      (fun _ t => Midway minimum duty.Keys (duty.asks options) [] t) (fun _ _ => True) s := by
  cases duty with
  | refreshes reports => exact reportingLoop_warns hm reports h
  | connections events =>
    exact .bind ((reportingConnections_warns hm events h).mono (fun _ _ ht => ht) (fun _ _ _ => trivial))
  | request r => exact midway_kept (duty_elsewhere (fun _ hkey => hkey.elim)) h
  | shutdown => exact midway_kept (duty_elsewhere (fun _ hkey => hkey.elim)) h

end Warnings

section Runs
variable {ι : Type} [DecidableEq ι] {options : ServerOptions} {minimum : LogLevel}

omit [DecidableEq ι] in
theorem watched_start (maxSnapshotAge : Rat) (requireDevice : Bool) (duties : ι → Duty) :
    Watched minimum (reportingExporter options minimum maxSnapshotAge requireDevice duties).state where
  limited := ⟨List.nodup_nil, Nat.zero_le 64, fun _ => rfl, fun _ => .nil⟩
  keys := fun _ h => nomatch h
  calls := fun _ h => nomatch h
  minimum := rfl

/-- Threads that are not alike warn under different keys. -/
theorem not_keys_of_not_alike {duty duty' : Duty} (h : ¬ duty.Alike duty') (key : Str) (hkey : duty.Keys key) :
    ¬ duty'.Keys key := by
  cases duty with
  | request r => exact hkey.elim
  | shutdown => exact hkey.elim
  | refreshes reports =>
    cases duty' with
    | refreshes reports' => exact absurd trivial h
    | connections events => exact hkey
    | request r => exact id
    | shutdown => exact id
  | connections events =>
    cases duty' with
    | refreshes reports => exact fun hne => hne hkey
    | connections events' => exact absurd trivial h
    | request r => exact id
    | shutdown => exact id

/-- **No warning is lost, and none is repeated within a minute**, over every interleaving, where one thread refreshes
and one takes the connections, each with a clock that does not go back, and the level admits warnings: whatever a thread
that has ended had to warn of was let through when it asked or less than a minute before, with the same subject. -/
theorem warnings_reported (hm : minimum.value ≤ LogLevel.warn.value) (maxSnapshotAge : Rat) (requireDevice : Bool)
    (duties : ι → Duty) (schedule : List ι) (hone : ∀ i j, (duties i).Alike (duties j) → i = j)
    (hclock : ∀ i, (((duties i).asks options).map Prod.fst).Pairwise (· ≤ ·)) :
    let p := (reportingExporter options minimum maxSnapshotAge requireDevice duties).run schedule
    (∀ i readings, p.threads i = .done readings → ∀ now w, (duties i).Warns options now w → ReportedBy now w p.state) ∧
      ∀ w : Warning, (p.state.logger.emissions w.key).IsChain (fun e e' => 60 ≤ e'.now - e.now) := by
  intro p
  refine ⟨fun i readings hi now w hw => ?_, fun w => ?_⟩
  · have hothers : ∀ j, j ≠ i → ((duties j).thread options).Obeys (Elsewhere minimum (duties i).Keys) := fun j hj =>
      duty_elsewhere (not_keys_of_not_alike (fun halike => hj (hone j i halike)))
    have hstart : Midway minimum (duties i).Keys [] ((duties i).asks options)
        (reportingExporter options minimum maxSnapshotAge requireDevice duties).state :=
      ⟨watched_start maxSnapshotAge requireDevice duties, fun _ h => (nomatch h), fun _ h => keys_of_mem_asks h,
        hclock i, fun _ h => (nomatch h)⟩
    have halong : (reportingExporter options minimum maxSnapshotAge requireDevice duties).Along
        (fun j _ => j = i → True) schedule := Pool.along_of_forall (fun _ _ _ => trivial)
    obtain ⟨-, s, hs, hrun⟩ := Pool.meets_run Elsewhere.refl Elsewhere.trans hothers
      ⟨_, Elsewhere.refl _, duty_warns hm (duties i) hstart⟩ halong
    rw [show (Pool.run _ schedule).threads i = .done readings from hi] at hrun
    exact (hrun.reported _ (mem_asks hw)).continues hs.continues
  · have hkept : Elsewhere minimum (fun _ => False)
        (reportingExporter options minimum maxSnapshotAge requireDevice duties).state p.state :=
      Pool.obeys_run Elsewhere.refl Elsewhere.trans (fun j => duty_elsewhere (fun _ _ => id))
    have hwatched : Watched minimum p.state := hkept.watched (watched_start maxSnapshotAge requireDevice duties)
    have hinterval : ∀ e' ∈ p.state.logger.emissions w.key, e'.call.interval = 60 := by
      intro e' he'
      obtain ⟨w', hw'⟩ := hwatched.calls e' (List.mem_filter.1 he').1
      rw [hw']
      rfl
    have hspaced := hwatched.limited.spaced w.key
    exact hspaced.imp_of_mem_imp (fun e e' _ he' h => hinterval e' he' ▸ h)

/-- A shutdown, and two refreshes half a minute apart that find no root. -/
def lastDuties : Bool → Duty
  | false => .shutdown
  | true => .refreshes [⟨{ emptyRefresh with collection := {} }, fun _ => 100, 100⟩,
      ⟨{ emptyRefresh with collection := {} }, fun _ => 130, 130⟩]

/-- The shutdown first. -/
def lastSchedule : List Bool := [false, false] ++ List.replicate 14 true

theorem lastDuties_end : ((reportingExporter (plainServer 0) .info 15 false lastDuties).run lastSchedule).threads true =
    .done [.shuttingDown, .shuttingDown] := rfl

/-- The second refresh's warning stands as the first one's. -/
theorem warnings_reported_last : ReportedBy 130 (.collectionFailed false)
    ((reportingExporter (plainServer 0) .info 15 false lastDuties).run lastSchedule).state := by
  have hone : ∀ i j, (lastDuties i).Alike (lastDuties j) → i = j := by
    intro i j h
    cases i <;> cases j <;> first | rfl | exact h.elim
  have hclock : ∀ i, (((lastDuties i).asks (plainServer 0)).map Prod.fst).Pairwise (· ≤ ·) := by
    intro i
    cases i with
    | false => exact .nil
    | true => decide +kernel
  exact (warnings_reported (by decide) 15 false lastDuties lastSchedule hone hclock).1 true _ lastDuties_end 130 _
    ⟨_, List.mem_cons_of_mem _ List.mem_cons_self, ⟨rfl, rfl⟩, rfl⟩

end Runs

/-! ## Readiness -/

/-- The lines about readiness. -/
def Operation.readinessLines (s : Operation) : List LogCall :=
  s.logged.filter (fun call => call.event ∈ ["exporter.ready".toList, "exporter.not_ready".toList])

/-- The lines that a logger with a minimum writes about a sequence of readiness. -/
def writtenLines (minimum : LogLevel) (readiness : List ReadinessReason) : List LogCall :=
  (readiness.map readinessCall).filter (fun call => minimum.value ≤ call.level.value)

/-- Where a sequence changes, with what it comes from. -/
def changes (previous : ReadinessReason) (readiness : List ReadinessReason) : List ReadinessReason :=
  (readiness.destutter' (· ≠ ·) previous).tail

/-- What only the refreshes touch. -/
structure Untouched (s t : Operation) : Prop where
  previousReadiness : t.previousReadiness = s.previousReadiness
  readinessLines : t.readinessLines = s.readinessLines
  minimum : t.logger.minimum = s.logger.minimum

/-- Where some refreshes leave what only they touch. -/
structure Told (minimum : LogLevel) (previous : ReadinessReason) (lines : List LogCall) (s : Operation) : Prop where
  previousReadiness : s.previousReadiness = previous
  readinessLines : s.readinessLines = lines
  minimum : s.logger.minimum = minimum

section Readiness
variable {options : ServerOptions} {minimum : LogLevel} {s t : Operation} {previous readiness : ReadinessReason}
  {lines : List LogCall}

theorem destutter_eq_cons (previous : ReadinessReason) (readiness : List ReadinessReason) :
    readiness.destutter' (· ≠ ·) previous = previous :: changes previous readiness := by
  unfold changes
  induction readiness with
  | nil => rfl
  | cons readiness rest ih =>
    by_cases h : previous = readiness
    · rw [List.destutter'_cons_neg _ (not_not.2 h)]
      exact ih
    · rw [List.destutter'_cons_pos _ h]
      rfl

theorem changes_cons (readiness : ReadinessReason) (rest : List ReadinessReason) :
    changes previous (readiness :: rest) = changes previous [readiness] ++ changes readiness rest := by
  unfold changes
  by_cases h : previous = readiness
  · subst h
    rw [List.destutter'_cons_neg _ (not_not.2 rfl), List.destutter'_cons_neg _ (not_not.2 rfl)]
    rfl
  · rw [List.destutter'_cons_pos _ h, List.destutter'_cons_pos _ h, List.tail_cons, List.tail_cons, List.destutter'_nil,
      destutter_eq_cons]
    rfl

theorem writtenLines_append (before after : List ReadinessReason) :
    writtenLines minimum (before ++ after) = writtenLines minimum before ++ writtenLines minimum after := by
  unfold writtenLines
  rw [List.map_append, List.filter_append]

theorem Untouched.refl (s : Operation) : Untouched s s := ⟨rfl, rfl, rfl⟩

theorem Untouched.trans (s t u : Operation) (h : Untouched s t) (h' : Untouched t u) : Untouched s u :=
  ⟨h'.previousReadiness.trans h.previousReadiness, h'.readinessLines.trans h.readinessLines,
    h'.minimum.trans h.minimum⟩

theorem Told.untouched (h : Told minimum previous lines s) (hst : Untouched s t) : Told minimum previous lines t :=
  ⟨hst.previousReadiness.trans h.previousReadiness, hst.readinessLines.trans h.readinessLines,
    hst.minimum.trans h.minimum⟩

theorem untouched_warning (now : Rat) (w : Warning) (s : Operation) : Untouched s (s.logRateLimited now w.call) := by
  unfold Operation.logRateLimited
  split_ifs
  · refine ⟨rfl, rfl, ?_⟩
    by_cases hdue : s.logger.Due now w.call
    · rw [locked_of_due hdue]
      rfl
    · rw [locked_of_not_due hdue]
  · exact .refl s

/-- A line about something else. -/
theorem untouched_log {call : LogCall} (h : call.event ∉ ["exporter.ready".toList, "exporter.not_ready".toList])
    (s : Operation) : Untouched s (s.log call) := by
  unfold Operation.log
  split_ifs
  · exact .refl s
  · refine ⟨rfl, ?_, rfl⟩
    unfold Operation.readinessLines
    rw [List.filter_append, List.filter_cons_of_neg (by simpa using h), List.filter_nil, List.append_nil]

theorem untouched_completed (snapshot : ExporterSnapshot) (duration : Rat) (s : Operation) :
    Untouched s (s.log (completedCall snapshot duration)) := by
  have hevent : "collector.completed".toList ∉ ["exporter.ready".toList, "exporter.not_ready".toList] := by decide
  exact untouched_log hevent s

theorem readinessCall_event (readiness : ReadinessReason) :
    (readinessCall readiness).event ∈ ["exporter.ready".toList, "exporter.not_ready".toList] := by
  unfold readinessCall
  split_ifs
  · exact List.mem_cons_self
  · exact List.mem_cons_of_mem _ List.mem_cons_self

theorem readinessLines_log (s : Operation) (readiness : ReadinessReason) : (s.log (readinessCall readiness)).readinessLines =
    s.readinessLines ++ writtenLines s.logger.minimum [readiness] := by
  unfold Operation.log writtenLines
  rw [List.map_singleton]
  by_cases h : (readinessCall readiness).level.value < s.logger.minimum.value
  · rw [if_pos h, List.filter_cons_of_neg (by simpa using h), List.filter_nil, List.append_nil]
  · rw [if_neg h, List.filter_cons_of_pos (by simpa using h), List.filter_nil]
    unfold Operation.readinessLines
    have hself : [readinessCall readiness].filter
        (fun call => call.event ∈ ["exporter.ready".toList, "exporter.not_ready".toList]) = [readinessCall readiness] :=
      List.filter_eq_self.2 (fun call hcall => by
        rw [List.mem_singleton.1 hcall]
        exact decide_eq_true (readinessCall_event readiness))
    rw [List.filter_append, hself]

theorem log_minimum (call : LogCall) (s : Operation) : (s.log call).logger.minimum = s.logger.minimum := by
  rw [log_logger]

/-- **A readiness is told of where it is another than the previous one.** -/
theorem reportReadiness_meets (h : Told minimum previous lines s) (readiness : ReadinessReason) :
    (reportReadiness readiness).Meets Untouched (fun _ => True) (fun _ t => Told minimum readiness
      (lines ++ writtenLines minimum (changes previous [readiness])) t) (fun _ _ => True) s := by
  refine .bind (Thread.meets_get (fun s₁ h₁ _ => ?_))
  have ht₁ := h.untouched h₁
  by_cases he : readiness = s₁.previousReadiness
  · rw [if_neg (not_not.2 he)]
    have hnone : changes previous [readiness] = [] := by
      unfold changes
      rw [List.destutter'_cons_neg _ (not_not.2 (ht₁.previousReadiness.symm.trans he.symm))]
      rfl
    rw [hnone]
    refine ⟨he.symm, ?_, ht₁.minimum⟩
    rw [ht₁.readinessLines]
    exact (List.append_nil lines).symm
  · rw [if_pos he]
    have hone : changes previous [readiness] = [readiness] := by
      unfold changes
      rw [List.destutter'_cons_pos _ (fun hp => he (hp.symm.trans ht₁.previousReadiness.symm))]
      rfl
    rw [hone]
    refine .bind (Thread.meets_update (fun s₂ h₂ _ => Thread.meets_update (fun s₃ h₃ _ => ?_)))
    have ht₂ := ht₁.untouched h₂
    refine ⟨rfl, ?_, h₃.minimum.trans ((log_minimum _ s₂).trans ht₂.minimum)⟩
    refine h₃.readinessLines.trans ?_
    rw [readinessLines_log, ht₂.readinessLines, ht₂.minimum]

/-- What touches none of it leaves it told. -/
theorem told_kept {α : Type} {x : Reporting α} (hx : x.Obeys Untouched) (h : Told minimum previous lines s) :
    x.Meets Untouched (fun _ => True) (fun _ t => Told minimum previous lines t) (fun _ _ => True) s :=
  (Thread.meets_of_obeys Untouched.trans hx (Untouched.refl s)).mono (fun _ _ hu => h.untouched hu)
    (fun _ _ _ => trivial)

theorem reportingRefresh_meets (h : Told minimum previous lines s) (r : Report) :
    (reportingRefresh options r).Meets Untouched (fun _ => True) (fun readiness t => Told minimum readiness
      (lines ++ writtenLines minimum (changes previous [readiness])) t) (fun _ _ => True) s := by
  refine .bind (Thread.meets_atomic (fun s₁ h₁ _ => ?_))
  have ht₁ : Told minimum previous lines (s₁.withService (s₁.service.publishStep options.service r.refresh).1) :=
    (h.untouched h₁).untouched ⟨rfl, rfl, rfl⟩
  generalize (s₁.service.publishStep options.service r.refresh).2 = published
  refine .bind (Thread.meets_update (fun s₂ h₂ _ => ?_))
  have ht₂ : Told minimum previous lines (s₂.withService (s₂.service.recordStep r.refresh published)) :=
    (ht₁.untouched h₂).untouched ⟨rfl, rfl, rfl⟩
  have hcollection : (reportCollection r published).Obeys Untouched :=
    reportCollection_obeys (fun _ now => untouched_warning now _) untouched_completed r published
  refine .bind ((told_kept hcollection ht₂).mono (fun _ s₃ ht₃ => ?_) (fun _ _ _ => trivial))
  refine .bind ((told_kept (warnAll_obeys r.clock (fun w _ now => untouched_warning now w)) ht₃).mono
    (fun _ s₄ ht₄ => ?_) (fun _ _ _ => trivial))
  refine .bind (Thread.meets_get (fun s₅ h₅ _ => ?_))
  have ht₅ : Told minimum previous lines s₅ := ht₄.untouched h₅
  exact .bind ((reportReadiness_meets ht₅ _).mono (fun _ _ ht => ht) (fun _ _ _ => trivial))

theorem reportingLoop_meets : ∀ (reports : List Report) {previous : ReadinessReason} {lines : List LogCall}
    {s : Operation}, Told minimum previous lines s → (reportingLoop options reports).Meets Untouched (fun _ => True)
      (fun readiness t => t.readinessLines = lines ++ writtenLines minimum (changes previous readiness))
      (fun _ _ => True) s
  | [], _, lines, _, h => h.readinessLines.trans (List.append_nil lines).symm
  | r :: rest, previous, lines, s, h => by
    refine .bind ((reportingRefresh_meets h r).mono (fun readiness t ht => ?_) (fun _ _ _ => trivial))
    refine .bind ((reportingLoop_meets rest ht).mono (fun later u hu => ?_) (fun _ _ _ => trivial))
    show u.readinessLines = lines ++ writtenLines minimum (changes previous (readiness :: later))
    rw [hu, changes_cons readiness later, writtenLines_append, List.append_assoc]

/-- The other threads do not touch it. -/
theorem duty_obeys {duty : Duty} (h : ∀ reports, duty ≠ .refreshes reports) :
    (duty.thread options).Obeys Untouched := by
  cases duty with
  | refreshes reports => exact absurd rfl (h reports)
  | request r =>
    refine .bind (Thread.obeys_within ?_ _) (fun _ => Thread.obeys_pure _)
    exact fun _ _ => ⟨rfl, rfl, rfl⟩
  | connections events =>
    exact .bind (reportingConnections_obeys (fun _ _ => ⟨rfl, rfl, rfl⟩) (fun now => untouched_warning now _) events)
      (fun _ => Thread.obeys_pure _)
  | shutdown =>
    have hevent : shutdownCall.event ∉ ["exporter.ready".toList, "exporter.not_ready".toList] := by decide
    refine .bind (Thread.obeys_update (untouched_log hevent)) (fun _ => ?_)
    exact .bind (Thread.obeys_update (fun _ => ⟨rfl, rfl, rfl⟩)) (fun _ => Thread.obeys_pure _)

/-- **The lines about readiness are its changes**, over every interleaving with requests, connections and shutdowns:
the readiness that each refresh found, the first after the one that a service starts with, wherever it is another than
the refresh before had found. -/
theorem readiness_reported {ι : Type} [DecidableEq ι] (maxSnapshotAge : Rat) (requireDevice : Bool) (duties : ι → Duty)
    (schedule : List ι) {i : ι} (hothers : ∀ j, j ≠ i → ∀ reports, duties j ≠ .refreshes reports) {reports : List Report}
    (hi : duties i = .refreshes reports) {readiness : List ReadinessReason}
    (hend : ((reportingExporter options minimum maxSnapshotAge requireDevice duties).run schedule).threads i =
      .done readiness) :
    ((reportingExporter options minimum maxSnapshotAge requireDevice duties).run schedule).state.readinessLines =
      ((((.initialCollection :: readiness).destutter (· ≠ ·)).tail.map readinessCall).filter
        (fun call => minimum.value ≤ call.level.value)) := by
  have hstart : Told minimum .initialCollection []
      (reportingExporter options minimum maxSnapshotAge requireDevice duties).state := ⟨rfl, rfl, rfl⟩
  have hthread : (reportingExporter options minimum maxSnapshotAge requireDevice duties).threads i =
      reportingLoop options reports := by
    show (duties i).thread options = _
    rw [hi]
    rfl
  have hmeets := @reportingLoop_meets options minimum reports _ _ _ hstart
  rw [← hthread] at hmeets
  have halong : (reportingExporter options minimum maxSnapshotAge requireDevice duties).Along (fun j _ => j = i → True)
      schedule := Pool.along_of_forall (fun _ _ _ => trivial)
  obtain ⟨-, s, hs, hrun⟩ := Pool.meets_run Untouched.refl Untouched.trans (fun j hj => duty_obeys (hothers j hj))
    ⟨_, Untouched.refl _, hmeets⟩ halong
  rw [hend] at hrun
  exact hs.readinessLines.trans hrun

end Readiness

theorem readiness_reported_last :
    ((reportingExporter (plainServer 0) .info 15 false lastDuties).run lastSchedule).state.readinessLines =
      [readinessCall .shuttingDown] :=
  readiness_reported (i := true) 15 false lastDuties lastSchedule
    (fun j hj _ he => by cases j with
      | false => cases he
      | true => exact hj rfl) rfl lastDuties_end

end Tt
