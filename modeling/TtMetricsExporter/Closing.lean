import TtMetricsExporter.Publishing
/-!
# Closing — `close` among other calls

Threads that call `sample` and `publish_profiler_data` run beside one that calls `close`.  Once `close` has taken its
critical section no record of theirs reaches a file (`Quiet`); what is left is what `close` itself writes, device by
device (`markInactive_meets`).  It writes nothing where the publisher has been disabled before.
-/
namespace Tt

open Py (Str)

/-! ## Pools of calls -/

inductive PublisherCall where
  | sample (monotonicNow : Rat) (read : Except PyRaised ProfilerData) (finishedAt : Rat)
  | publishProfilerData (data : ProfilerData) (finishedAt : Rat)

namespace MetaliumProfilerPublisher
variable (self : MetaliumProfilerPublisher)

def program : PublisherCall → Publishing Summaries
  | .sample monotonicNow read finishedAt => self.sample monotonicNow read finishedAt
  | .publishProfilerData data finishedAt => self.publishProfilerData data finishedAt

/-- A thread's calls, one after the other, whatever each of them ends in. -/
def calls : List PublisherCall → Publishing Unit
  | [] => return ()
  | call :: rest => do
    let _ ← (self.program call).handle (fun _ => return [])
    calls rest

/-- One thread closes a publisher that has just been made, the others call it. -/
def closingPool {ι : Type} [DecidableEq ι] (order : SetOrder) (closer : ι) (callers : ι → List PublisherCall)
    (inputs : Nat → PublishInput) : Pool ι PublishError PublisherState Unit where
  state := { inputs := inputs }
  threads i := if i = closer then self.close order else self.calls (callers i)

end MetaliumProfilerPublisher

/-! ## What the state files say -/

def WrittenRecord.Inactive (r : WrittenRecord) : Prop := r.summary.active = 0 ∧ r.summary.tensixCoresUsed = 0

namespace PublisherState

/-- Every state file is that of an inactive device. -/
def AllInactive (s : PublisherState) : Prop := ∀ deviceKey r, s.file deviceKey = some r → r.Inactive

/-- A state in which `close` may go on: before it takes its critical section the publisher is not disabled or no state
file is active; after it a device whose file is still active has a total of at most 4300 digits. -/
structure Closable (s : PublisherState) : Prop where
  enabled : s.closed = false → s.disabled = true → s.AllInactive
  printable : s.closed = true → ∀ deviceKey r, s.file deviceKey = some r → ¬ r.Inactive →
    ∀ total, s.knownTotals.lookup deviceKey = some total → total < 10 ^ Py.maxStrDigits

/-- What is written is among the published devices, under a valid key. -/
def WellListed (s : PublisherState) : Prop := ∀ r ∈ s.written, r.deviceKey ∈ s.publishedDeviceKeys ∧
  MetaliumProfilerPublisher.validDeviceKey r.deviceKey = true

/-- What the others may do: no more than publish, and nothing to the records of a closed publisher. -/
structure Quiet (s s' : PublisherState) : Prop where
  inputs : s'.inputs = s.inputs
  closed : s'.closed = s.closed
  written : s.closed = true → s'.written = s.written
  listed : s.WellListed → s'.WellListed

theorem Quiet.refl (s : PublisherState) : Quiet s s := ⟨rfl, rfl, fun _ => rfl, id⟩

theorem Quiet.trans (s s' s'' : PublisherState) (h : Quiet s s') (h' : Quiet s' s'') : Quiet s s'' where
  inputs := h'.inputs.trans h.inputs
  closed := h'.closed.trans h.closed
  written hc := (h'.written (h.closed.trans hc)).trans (h.written hc)
  listed hl := h'.listed (h.listed hl)

theorem WellListed.replaced {s : PublisherState} (h : s.WellListed) {r : WrittenRecord}
    (hv : MetaliumProfilerPublisher.validDeviceKey r.deviceKey = true) :
    ((s.listed r.deviceKey).replaced r).WellListed := by
  intro r' hr
  rcases List.mem_append.1 hr with hr | hr
  · exact ⟨s.subset_listed _ (h r' hr).1, (h r' hr).2⟩
  · rw [List.mem_singleton.1 hr]
    exact ⟨s.mem_listed _, hv⟩

theorem WellListed.listed {s : PublisherState} (h : s.WellListed) (deviceKey : Str) :
    (s.listed deviceKey).WellListed := fun r hr => ⟨s.subset_listed _ (h r hr).1, (h r hr).2⟩

end PublisherState

open PublisherState (Quiet)

namespace MetaliumProfilerPublisher
variable (self : MetaliumProfilerPublisher)

/-! ## The callers are quiet -/

theorem publish_quiet (deviceKey : Str) (summary : ProfilerSummary) :
    (self.publish deviceKey summary).Obeys Quiet := by
  unfold publish
  split
  · rename_i hvalid
    apply Thread.obeys_atomic
    intro s
    rcases self.publishSection_cases deviceKey summary false s with ⟨-, -, h⟩ | ⟨hopen, _, h, -⟩ | ⟨hopen, _, _, -, h, -⟩
    all_goals rw [h]
    · exact .refl s
    · exact ⟨rfl, rfl, fun _ => rfl, fun hl => hl.listed deviceKey⟩
    · exact ⟨rfl, rfl, fun hc => absurd (hopen hc) Bool.false_ne_true, fun hl => hl.replaced hvalid⟩
  · trivial

theorem summaryOf_quiet (deviceKey : Str) (active programs cores : Nat) :
    (summaryOf deviceKey active programs cores).Obeys Quiet := Thread.obeys_get Quiet.refl _

theorem publishChip_quiet (chip : ChipRecords) : (self.publishChip chip).Obeys Quiet := by
  unfold publishChip
  refine (Thread.obeys_ofExcept _).bind (fun records => (Thread.obeys_ofExcept _).bind (fun (counts, totals) => ?_))
  have hremember : (remember (self.deviceKeyOf chip) totals).Obeys Quiet := by
    unfold remember
    split
    · exact Thread.obeys_update (fun s => ⟨rfl, rfl, fun _ => rfl, id⟩)
    · trivial
  have hcheck : (checkCores (self.deviceKeyOf chip) (counts.foldl max 0)).Obeys Quiet := by
    apply Thread.obeys_atomic
    intro s
    split <;> exact .refl s
  refine hremember.bind (fun _ => hcheck.bind (fun _ => (summaryOf_quiet _ _ _ _).bind (fun summary => ?_)))
  exact (self.publish_quiet _ _).bind (fun _ => Thread.obeys_pure _)

theorem publishChips_quiet : ∀ (chips : ProfilerData) (summaries : Summaries),
    (self.publishChips chips summaries).Obeys Quiet
  | [], _ => Thread.obeys_pure _
  | chip :: rest, _ => (self.publishChip_quiet chip).bind (fun _ => publishChips_quiet rest _)

theorem publishIdle_quiet : ∀ (deviceKeys : List Str) (summaries : Summaries),
    (self.publishIdle deviceKeys summaries).Obeys Quiet
  | [], _ => Thread.obeys_pure _
  | _ :: rest, _ => (summaryOf_quiet _ _ _ _).bind (fun _ => (self.publish_quiet _ _).bind
      (fun _ => publishIdle_quiet rest _))

theorem publishData_quiet (data : ProfilerData) (finishedAt : Rat) : (self.publishData data finishedAt).Obeys Quiet := by
  unfold publishData
  refine (self.publishChips_quiet data []).bind (fun _ => (self.publishIdle_quiet _ _).bind (fun _ => ?_))
  have hupdate := @Thread.obeys_update PublishError PublisherState Quiet
    (fun s => { s with lastFailure := none, lastSuccessTimestamp := some finishedAt })
    (fun s => ⟨rfl, rfl, fun _ => rfl, id⟩)
  exact hupdate.bind (fun _ => Thread.obeys_pure _)

theorem handleFailure_quiet (error : PublishError) (disable : Bool) : (handleFailure error disable).Obeys Quiet :=
  Thread.obeys_update (fun _ => ⟨rfl, rfl, fun _ => rfl, id⟩)

theorem caught_quiet {α : Type} {program : Publishing α} (h : program.Obeys Quiet) (disable : PublishError → Bool)
    (default : α) : (self.caught program disable default).Obeys Quiet := by
  refine h.handle (fun error => ?_)
  split
  · refine (handleFailure_quiet error _).bind (fun _ => ?_)
    split <;> trivial
  · trivial

theorem program_quiet (call : PublisherCall) : (self.program call).Obeys Quiet := by
  cases call with
  | sample monotonicNow read finishedAt =>
    refine (Thread.obeys_get Quiet.refl _).bind (fun disabled => ?_)
    split
    · trivial
    · refine (Thread.obeys_get Quiet.refl _).bind (fun due => ?_)
      split
      · refine (Thread.obeys_update (fun s => ⟨rfl, rfl, fun _ => rfl, id⟩)).bind (fun _ => self.caught_quiet ?_ _ _)
        exact (Thread.obeys_ofExcept _).bind (fun data => self.publishData_quiet data finishedAt)
      · trivial
  | publishProfilerData data finishedAt =>
    refine (Thread.obeys_get Quiet.refl _).bind (fun disabled => ?_)
    split
    · trivial
    · exact self.caught_quiet (self.publishData_quiet data finishedAt) _ _

/-- **Whatever the others call, they are quiet.** -/
theorem calls_quiet : ∀ callers : List PublisherCall, (self.calls callers).Obeys Quiet
  | [] => Thread.obeys_pure _
  | call :: rest =>
    ((self.program_quiet call).handle (fun _ => Thread.obeys_pure _)).bind (fun _ => calls_quiet rest)

/-! ## Numerals that are refused -/

/-- A float is not long. -/
theorem natAbs_truncate {time : Rat} (h : |time| < 2 ^ maxFloatExponent) : (truncate time).natAbs < 10 ^ Py.maxStrDigits := by
  have hle : ((truncate time).natAbs : Rat) ≤ |time| := by
    rw [Nat.cast_natAbs, Int.cast_abs]
    unfold truncate
    by_cases hpos : 0 ≤ time
    · rw [if_pos hpos, abs_of_nonneg (by exact_mod_cast Int.floor_nonneg.2 hpos), abs_of_nonneg hpos]
      exact Int.floor_le time
    · have hneg : time < 0 := not_le.1 hpos
      have hceil : ⌈time⌉ ≤ 0 := Int.ceil_le.2 (by exact_mod_cast hneg.le)
      rw [if_neg hpos, abs_of_nonpos (by exact_mod_cast hceil), abs_of_neg hneg]
      exact neg_le_neg (Int.le_ceil time)
  have hlt : ∀ k, |time| < 2 ^ k → (truncate time).natAbs < 2 ^ k := fun k hk => by
    exact_mod_cast lt_of_le_of_lt hle hk
  calc (truncate time).natAbs < 2 ^ maxFloatExponent := hlt _ h
    _ ≤ 10 ^ maxFloatExponent := Nat.pow_le_pow_left (by decide) _
    _ ≤ 10 ^ Py.maxStrDigits := Nat.pow_le_pow_right (by decide) (by decide)

/-- The record of an inactive device is refused for its total alone. -/
theorem payload_inactive {total : Option Nat} {timestamp : Int} (ht : timestamp.natAbs < 10 ^ Py.maxStrDigits)
    (h : self.payload ⟨0, 0, 0, total⟩ timestamp = none) : ∃ n, total = some n ∧ ¬ n < 10 ^ Py.maxStrDigits := by
  have hzero : ¬ 10 ^ Py.maxStrDigits ≤ (0 : Int).natAbs := Nat.not_le.2 (Nat.pow_pos (by decide))
  unfold payload at h
  split at h
  · rename_i hlong
    obtain ⟨field, hm, hlong⟩ := hlong
    unfold numberFields at hm
    simp only [List.cons_append, List.nil_append, List.mem_cons, Option.mem_toList, Option.map_eq_some_iff] at hm
    rcases hm with rfl | rfl | rfl | rfl | ⟨n, hn, rfl⟩
    · exact absurd hlong (Nat.not_le.2 ht)
    · exact absurd hlong hzero
    · exact absurd hlong hzero
    · exact absurd hlong hzero
    · exact ⟨n, hn, Nat.not_lt.2 hlong⟩
  · cases h

/-! ## Marking the devices -/

/-- The publisher is closed, and the active state files are those of devices that are left to mark. -/
structure Marking (deviceKeys : List Str) (s : PublisherState) : Prop where
  closed : s.closed = true
  listed : s.WellListed
  succeeds : ∀ n, (s.inputs n).outcome = .written
  marked : ∀ deviceKey r, s.file deviceKey = some r → r.Inactive ∨ deviceKey ∈ deviceKeys

theorem Marking.quiet {deviceKeys : List Str} {s s' : PublisherState} (h : Marking deviceKeys s) (hq : Quiet s s') :
    Marking deviceKeys s' where
  closed := hq.closed.trans h.closed
  listed := hq.listed h.listed
  succeeds n := by
    rw [hq.inputs]
    exact h.succeeds n
  marked deviceKey r hr := h.marked deviceKey r (by rwa [PublisherState.file_congr (hq.written h.closed)] at hr)

/-- A device whose file is not active need not be marked. -/
theorem Marking.skip {deviceKey : Str} {rest : List Str} {s : PublisherState} (h : Marking (deviceKey :: rest) s)
    (hr : ∀ r, s.file deviceKey = some r → r.Inactive) : Marking rest s := by
  refine ⟨h.closed, h.listed, h.succeeds, fun other r ho => ?_⟩
  rcases h.marked other r ho with hi | hm
  · exact .inl hi
  · rcases List.mem_cons.1 hm with rfl | hm
    · exact .inl (hr r ho)
    · exact .inr hm

/-- **A caught failure** leaves what the devices' marking needs. -/
theorem handler_meets (hstrict : self.strict = false) {rest : List Str} {error : PublishError} {s : PublisherState}
    (hcaught : error.raised.isException = true) (h : Marking rest s) :
    (do
      if error.raised.isException then
        handleFailure error false
        if self.strict then .raise error else return ()
      else .raise error : Publishing Unit).Meets Quiet PublisherState.Closable (fun _ => Marking rest)
        (fun _ _ => False) s := by
  rw [if_pos hcaught, hstrict, if_neg Bool.false_ne_true]
  refine Thread.Meets.bind (Thread.meets_update (fun s' hq _ => ?_))
  exact (h.quiet hq).quiet ⟨rfl, rfl, fun _ => rfl, id⟩

/-- **Marking a device**, among quiet others. -/
theorem markOne_meets (hstrict : self.strict = false) {deviceKey : Str} {rest : List Str} {s : PublisherState}
    (h : Marking (deviceKey :: rest) s) :
    (self.caught (do
      let summary ← summaryOf deviceKey
      self.publish deviceKey summary true) (fun _ => false) ()).Meets Quiet PublisherState.Closable
        (fun _ => Marking rest) (fun _ _ => False) s := by
  refine Thread.Meets.handle (Thread.Meets.bind (Thread.meets_get (fun s1 hq1 hgood => ?_)))
  have h1 := h.quiet hq1
  unfold publish
  by_cases hvalid : validDeviceKey deviceKey = true
  · rw [if_pos hvalid]
    refine Thread.meets_atomic (fun s2 hq2 _ => ?_)
    have h2 := h1.quiet hq2
    rcases self.publishSection_cases deviceKey ⟨0, 0, 0, s1.knownTotals.lookup deviceKey⟩ true s2 with
      ⟨-, hf, -⟩ | ⟨-, _, hs, ⟨rfl, hnone⟩ | ⟨_, -, ho⟩⟩ | ⟨-, payload, _, -, hs, rfl | ⟨_, -, ho⟩⟩
    · cases hf
    · -- The total is too long, so the file is not active.
      rw [hs]
      refine self.handler_meets hstrict rfl (Marking.skip (show Marking (deviceKey :: rest) _ from ?_) ?_)
      · exact ⟨h2.closed, h2.listed.listed deviceKey, h2.succeeds, h2.marked⟩
      · intro r hr
        have hr1 : s1.file deviceKey = some r := by
          rw [← PublisherState.file_congr (hq2.written h1.closed)]
          exact hr
        obtain ⟨n, hn, hlong⟩ := self.payload_inactive (natAbs_truncate (s2.inputs s2.sections).finite) hnone
        by_contra hactive
        exact hlong (hgood.printable h1.closed deviceKey r hr1 hactive n hn)
    · exact absurd (h2.succeeds _) ho
    · rw [hs]
      refine ⟨h2.closed, h2.listed.replaced hvalid, h2.succeeds, fun other r hr => ?_⟩
      rw [PublisherState.file_replaced] at hr
      dsimp only at hr
      split at hr
      · cases hr
        exact .inl ⟨rfl, rfl⟩
      · rename_i hne
        rcases h2.marked other r hr with hi | hm
        · exact .inl hi
        · exact .inr ((List.mem_cons.1 hm).resolve_left (Ne.symm hne))
    · exact absurd (h2.succeeds _) ho
  · -- No file has a key that is not valid.
    rw [if_neg hvalid]
    refine self.handler_meets hstrict rfl (h1.skip (fun r hr => ?_))
    obtain ⟨hm, rfl⟩ := PublisherState.mem_of_file hr
    exact absurd (h1.listed r hm).2 hvalid

theorem markInactive_meets (hstrict : self.strict = false) : ∀ {deviceKeys : List Str} {s : PublisherState},
    Marking deviceKeys s → (self.markInactive deviceKeys).Meets Quiet PublisherState.Closable
      (fun _ => Marking []) (fun _ _ => False) s
  | [], _, h => h
  | _ :: _, _, h => Thread.Meets.bind ((self.markOne_meets hstrict h).mono
      (fun _ _ h => markInactive_meets hstrict h) (fun _ _ h => h))

/-- **`close` marks every device**, among quiet others. -/
theorem close_meets (hstrict : self.strict = false) (order : SetOrder) {s : PublisherState} (hopen : s.closed = false)
    (hlisted : s.WellListed) (hsucceeds : ∀ n, (s.inputs n).outcome = .written) :
    (self.close order).Meets Quiet PublisherState.Closable (fun _ => Marking []) (fun _ _ => False) s := by
  refine Thread.Meets.bind (Thread.meets_atomic (fun s' hq hgood => ?_))
  have hopen' : s'.closed = false := hq.closed.trans hopen
  have hsucceeds' : ∀ n, (s'.inputs n).outcome = .written := by
    intro n
    rw [hq.inputs]
    exact hsucceeds n
  unfold closeSection
  rw [hopen', if_neg Bool.false_ne_true]
  dsimp only
  by_cases hdisabled : s'.disabled = true
  · rw [if_pos hdisabled]
    exact self.markInactive_meets hstrict
      ⟨rfl, hq.listed hlisted, hsucceeds', fun deviceKey r hr => .inl (hgood.enabled hopen' hdisabled deviceKey r hr)⟩
  · rw [if_neg hdisabled]
    refine self.markInactive_meets hstrict ⟨rfl, hq.listed hlisted, hsucceeds', fun deviceKey r hr => .inr ?_⟩
    obtain ⟨hm, rfl⟩ := PublisherState.mem_of_file hr
    have hpublished := (hq.listed hlisted r hm).1
    rw [if_pos (List.ne_nil_of_mem hpublished), (order.perm _).mem_iff]
    exact hpublished

/-! ## Runs -/

/-- **Once `close` has returned every state file is inactive, and stays as it is**: for any threads with any calls, in
any order, where each action of `close` is taken in a state in which it may go on. -/
theorem closed_inactive (hstrict : self.strict = false) (order : SetOrder) {ι : Type} [DecidableEq ι] (closer : ι)
    (callers : ι → List PublisherCall) {inputs : Nat → PublishInput} (hsucceeds : ∀ n, (inputs n).outcome = .written)
    {schedule : List ι}
    (hgood : (self.closingPool order closer callers inputs).Along (fun i s => i = closer → s.Closable) schedule)
    (hdone : ((self.closingPool order closer callers inputs).run schedule).threads closer = .done ()) :
    ((self.closingPool order closer callers inputs).run schedule).state.AllInactive ∧
    ∀ later, (((self.closingPool order closer callers inputs).run schedule).run later).state.written =
      ((self.closingPool order closer callers inputs).run schedule).state.written := by
  have hcallers : ∀ i, i ≠ closer →
      ((self.closingPool order closer callers inputs).threads i).Obeys Quiet := by
    intro i hi
    unfold closingPool
    dsimp only
    rw [if_neg hi]
    exact self.calls_quiet _
  have hcloser : ((self.closingPool order closer callers inputs).threads closer).Meets Quiet PublisherState.Closable
      (fun _ => Marking []) (fun _ _ => False) (self.closingPool order closer callers inputs).state := by
    unfold closingPool
    dsimp only
    rw [if_pos rfl]
    exact self.close_meets hstrict order rfl (fun r hr => absurd hr List.not_mem_nil) hsucceeds
  obtain ⟨hothers, s, hq, hmeets⟩ := Pool.meets_run Quiet.refl Quiet.trans hcallers ⟨_, .refl _, hcloser⟩ hgood
  generalize (self.closingPool order closer callers inputs).run schedule = p at *
  rw [hdone] at hmeets
  have hmarked : Marking [] p.state := Marking.quiet hmeets hq
  refine ⟨fun deviceKey r hr => ?_, fun later => ?_⟩
  · exact (hmarked.marked deviceKey r hr).resolve_right List.not_mem_nil
  · have hall : ∀ i, (p.threads i).Obeys Quiet := by
      intro i
      by_cases hi : i = closer
      · rw [hi, hdone]
        trivial
      · exact hothers i hi
    exact (Pool.obeys_run Quiet.refl Quiet.trans hall).written hmarked.closed

/-! ## Two runs -/

def onePublisher : MetaliumProfilerPublisher where
  workloadId := ['w']
  workloadId_ne := singleLetter_ne
  layout_valid := layout_two_valid

/-- One program on eight cores. -/
def activeRead : ProfilerData := [⟨['0'], .ok [⟨.ok 8, .ok 80⟩]⟩]

/-- A thread publishes an active sample, and then the check of the environment fails. -/
def disablingCalls : List PublisherCall :=
  [.publishProfilerData activeRead 0, .sample 0 (.error { typeName := "RuntimeError", isRuntimeError := true }) 0]

/-- The failure disables the publisher, and `close` leaves the sample active. -/
theorem disabled_stays_active :
    let pool := (onePublisher.closingPool ⟨id, List.Perm.refl⟩ true (fun _ => disablingCalls)
      freshPublisher.inputs).run (List.replicate 10 false ++ [true])
    pool.threads true = .done () ∧ pool.threads false = .done () ∧ ¬ pool.state.AllInactive := by
  intro pool
  refine ⟨Thread.eq_done_of_returned (by decide +kernel), Thread.eq_done_of_returned (by decide +kernel), fun h => ?_⟩
  have hfile : (pool.state.file ['0']).map (·.summary.active) = some 1 := by decide +kernel
  obtain ⟨r, hr, hactive⟩ := Option.map_eq_some_iff.1 hfile
  have hinactive := (h ['0'] r hr).1
  omega

theorem closed_inactive_activeRead :
    let pool := (onePublisher.closingPool ⟨id, List.Perm.refl⟩ true (fun _ => [.publishProfilerData activeRead 0])
      freshPublisher.inputs).run (List.replicate 6 false ++ List.replicate 3 true)
    pool.state.AllInactive ∧ ∀ later, (pool.run later).state.written = pool.state.written := by
  have hshort : ∀ total, ([(['0'], 80)] : List (Str × Nat)).lookup ['0'] = some total → total < 10 ^ Py.maxStrDigits := by
    intro total h
    cases h
    calc 80 < 10 ^ 2 := by decide
      _ ≤ 10 ^ Py.maxStrDigits := Nat.pow_le_pow_right (by decide) (by decide)
  have hfile : ∀ {s : PublisherState}, s.written.map (·.deviceKey) = [['0']] → s.knownTotals = [(['0'], 80)] →
      ∀ deviceKey r, s.file deviceKey = some r → ¬ r.Inactive →
        ∀ total, s.knownTotals.lookup deviceKey = some total → total < 10 ^ Py.maxStrDigits := by
    intro s hw hk deviceKey r hr _ total ht
    obtain ⟨hm, rfl⟩ := PublisherState.mem_of_file hr
    have hkey := List.mem_map_of_mem (f := (·.deviceKey)) hm
    rw [hw, List.mem_singleton] at hkey
    rw [hk, hkey] at ht
    exact hshort total ht
  refine onePublisher.closed_inactive rfl ⟨id, List.Perm.refl⟩ true _ (fun _ => rfl) ?_
    (Thread.eq_done_of_returned (by decide +kernel))
  refine ⟨nofun, nofun, nofun, nofun, nofun, nofun, fun _ => ⟨fun _ h => ?_, fun h => ?_⟩,
    fun _ => ⟨fun h => ?_, fun _ => ?_⟩, fun _ => ⟨fun h => ?_, fun _ => ?_⟩, trivial⟩
  · exact absurd h (by decide +kernel)
  · exact absurd h (by decide +kernel)
  · exact absurd h (by decide +kernel)
  · exact hfile (by decide +kernel) (by decide +kernel)
  · exact absurd h (by decide +kernel)
  · exact hfile (by decide +kernel) (by decide +kernel)

end MetaliumProfilerPublisher
end Tt
