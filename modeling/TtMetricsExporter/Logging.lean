import TtMetricsExporter.Dictionary
import TtMetricsExporter.PyText
import Mathlib.Data.Rat.Defs
/-!
# Logging — what rate limiting promises

`log_rate_limited`.  A call reads the clock and takes the lock later, so the sections of several threads come in any
order of their readings.  Each section compares with the reading remembered for its key, and that is the reading of the
key's last emission (`Limited`), whatever the order.  The text of an emission is left out.
-/
namespace Tt

open Py (Str)

inductive LogLevel where
  | debug | info | warn | error
  deriving DecidableEq

def LogLevel.value : LogLevel → Nat
  | .debug => 0
  | .info => 1
  | .warn => 2
  | .error => 3

/-- The arguments of one call. -/
structure LogCall where
  level : LogLevel
  event : Str
  message : Str
  boundedKey : Str
  interval : Rat := 60
  fields : List (Str × Str) := []

/-- A call that was written out, with its reading of the clock. -/
structure Emission where
  call : LogCall
  now : Rat

structure Logger where
  minimum : LogLevel := .info
  lastEmitted : List (Str × Rat) := []
  output : List Emission := []

namespace Logger
variable (self : Logger)

/-- The guard before the clock is read. -/
def Admits (call : LogCall) : Prop :=
  self.minimum.value ≤ call.level.value ∧ 0 < Py.utf8Size call.boundedKey ∧ Py.utf8Size call.boundedKey ≤ 64

def emit (now : Rat) (call : LogCall) : Logger :=
  { self with
    lastEmitted := Py.setItem call.boundedKey now self.lastEmitted
    output := self.output ++ [⟨call, now⟩] }

/-- The section under the lock. -/
def locked (now : Rat) (call : LogCall) : Logger :=
  match self.lastEmitted.lookup call.boundedKey with
  | some previous => if now - previous < call.interval then self else self.emit now call
  | none => if 64 ≤ self.lastEmitted.length then self else self.emit now call

end Logger

/-! ## Threads -/

/-- The logger, the clock, and the calls that have read it and wait for the lock. -/
structure LogSystem where
  logger : Logger
  clock : Rat
  waiting : List (Rat × LogCall) := []

/-- One step of some thread, or of the clock. -/
inductive LogSystem.Step : LogSystem → LogSystem → Prop where
  | tick {s : LogSystem} {clock : Rat} (h : s.clock ≤ clock) : Step s { s with clock := clock }
  | call {s : LogSystem} {call : LogCall} (h : s.logger.Admits call) :
      Step s { s with waiting := s.waiting ++ [(s.clock, call)] }
  | refused {s : LogSystem} {call : LogCall} (h : ¬ s.logger.Admits call) : Step s s
  | locked {s : LogSystem} {before after : List (Rat × LogCall)} {now : Rat} {call : LogCall}
      (h : s.waiting = before ++ (now, call) :: after) :
      Step s { s with logger := s.logger.locked now call, waiting := before ++ after }

/-- The systems that any number of threads can reach. -/
inductive LogSystem.Reachable (minimum : LogLevel) : LogSystem → Prop where
  | start (clock : Rat) : Reachable minimum ⟨{ minimum := minimum }, clock, []⟩
  | step {s s' : LogSystem} (h : Reachable minimum s) (hs : s.Step s') : Reachable minimum s'

/-! ## Invariant -/

/-- The emissions under a key. -/
def Logger.emissions (self : Logger) (key : Str) : List Emission :=
  self.output.filter (fun e => e.call.boundedKey = key)

/-- What is remembered is the reading of each key's last emission, for few enough keys, and emissions are spaced. -/
structure Limited (logger : Logger) : Prop where
  nodup : (logger.lastEmitted.map Prod.fst).Nodup
  bounded : logger.lastEmitted.length ≤ 64
  last : ∀ key, logger.lastEmitted.lookup key = (logger.emissions key).getLast?.map (·.now)
  spaced : ∀ key, (logger.emissions key).IsChain (fun e e' => e'.call.interval ≤ e'.now - e.now)

section
variable {logger : Logger} {now : Rat} {call : LogCall}

/-- The condition under which a section writes. -/
def Logger.Due (self : Logger) (now : Rat) (call : LogCall) : Prop :=
  (call.boundedKey ∉ self.lastEmitted.map Prod.fst ∧ self.lastEmitted.length < 64) ∨
    ∃ previous, self.lastEmitted.lookup call.boundedKey = some previous ∧ call.interval ≤ now - previous

/-- **A section writes exactly when it is due**, and else does nothing. -/
theorem locked_of_due (h : logger.Due now call) : logger.locked now call = logger.emit now call := by
  unfold Logger.locked
  rcases h with ⟨hk, hl⟩ | ⟨previous, hp, hi⟩
  · rw [Py.lookup_eq_none_iff_notMem.2 hk]
    exact if_neg (Nat.not_le.2 hl)
  · rw [hp]
    exact if_neg (not_lt.2 hi)

theorem locked_of_not_due (h : ¬ logger.Due now call) : logger.locked now call = logger := by
  unfold Logger.locked
  cases hp : logger.lastEmitted.lookup call.boundedKey with
  | none => exact if_pos (Nat.not_lt.1 (fun hl => h (.inl ⟨Py.lookup_eq_none_iff_notMem.1 hp, hl⟩)))
  | some previous => exact if_pos (not_le.1 (fun hi => h (.inr ⟨previous, hp, hi⟩)))

theorem emissions_emit (key : Str) : (logger.emit now call).emissions key =
    if call.boundedKey = key then logger.emissions key ++ [⟨call, now⟩] else logger.emissions key := by
  unfold Logger.emissions Logger.emit
  rw [List.filter_append]
  by_cases hk : call.boundedKey = key
  · rw [if_pos hk, List.filter_cons_of_pos (by simpa using hk)]
    rfl
  · rw [if_neg hk, List.filter_cons_of_neg (by simpa using hk)]
    exact List.append_nil _

theorem limited_emit (h : Limited logger) (hd : logger.Due now call) : Limited (logger.emit now call) := by
  refine ⟨Py.nodup_setItem h.nodup, ?_, fun key => ?_, fun key => ?_⟩
  · show (Py.setItem call.boundedKey now logger.lastEmitted).length ≤ 64
    have hb := h.bounded
    rw [Py.length_setItem]
    by_cases hm : call.boundedKey ∈ logger.lastEmitted.map Prod.fst
    · rw [if_pos hm]
      exact hb
    · rw [if_neg hm]
      rcases hd with hd | ⟨previous, hp, -⟩
      · omega
      · rw [Py.lookup_eq_none_iff_notMem.2 hm] at hp
        cases hp
  · show (Py.setItem call.boundedKey now logger.lastEmitted).lookup key = _
    rw [Py.lookup_setItem, emissions_emit]
    by_cases hk : call.boundedKey = key
    · rw [if_pos hk.symm, if_pos hk, List.getLast?_concat]
      rfl
    · rw [if_neg (Ne.symm hk), if_neg hk]
      exact h.last key
  · rw [emissions_emit]
    by_cases hk : call.boundedKey = key
    · rw [if_pos hk, List.isChain_append]
      refine ⟨h.spaced key, .singleton _, fun e he e' he' => ?_⟩
      obtain rfl := Option.some.inj he'
      have hlast : logger.lastEmitted.lookup call.boundedKey = some e.now := by
        rw [hk, h.last key, Option.mem_def.1 he]
        rfl
      -- the reading of the last emission is the one that the section compared with
      rcases hd with ⟨hm, -⟩ | ⟨previous, hp, hi⟩
      · rw [Py.lookup_eq_none_iff_notMem.2 hm] at hlast
        cases hlast
      · rw [hlast] at hp
        obtain rfl := Option.some.inj hp
        exact hi
    · rw [if_neg hk]
      exact h.spaced key

theorem limited_locked (h : Limited logger) : Limited (logger.locked now call) := by
  by_cases hd : logger.Due now call
  · rw [locked_of_due hd]
    exact limited_emit h hd
  · rw [locked_of_not_due hd]
    exact h

theorem limited_step {s s' : LogSystem} (h : Limited s.logger) (hs : s.Step s') : Limited s'.logger := by
  cases hs with
  | tick _ => exact h
  | call _ => exact h
  | refused _ => exact h
  | locked _ => exact limited_locked h

theorem limited_reachable {minimum : LogLevel} {s : LogSystem} (h : s.Reachable minimum) : Limited s.logger := by
  induction h with
  | start clock => exact ⟨List.nodup_nil, Nat.zero_le 64, fun _ => rfl, fun _ => .nil⟩
  | step _ hs ih => exact limited_step ih hs

/-- A step forgets no key. -/
theorem keys_step {s s' : LogSystem} (hs : s.Step s') :
    s.logger.lastEmitted.map Prod.fst ⊆ s'.logger.lastEmitted.map Prod.fst := by
  cases hs with
  | tick _ => exact List.Subset.refl _
  | call _ => exact List.Subset.refl _
  | refused _ => exact List.Subset.refl _
  | locked hw =>
    rename_i before after now call
    show s.logger.lastEmitted.map Prod.fst ⊆ (s.logger.locked now call).lastEmitted.map Prod.fst
    by_cases hd : s.logger.Due now call
    · rw [locked_of_due hd]
      exact Py.keys_subset_setItem
    · rw [locked_of_not_due hd]
      exact List.Subset.refl _

/-- Every emitted key is remembered. -/
theorem Limited.remembered (h : Limited logger) : ∀ e ∈ logger.output,
    e.call.boundedKey ∈ logger.lastEmitted.map Prod.fst := by
  intro e he
  by_contra hk
  have hlast := h.last e.call.boundedKey
  rw [Py.lookup_eq_none_iff_notMem.2 hk, eq_comm, Option.map_eq_none_iff, List.getLast?_eq_none_iff] at hlast
  have hm : e ∈ logger.emissions e.call.boundedKey := List.mem_filter.2 ⟨he, decide_eq_true rfl⟩
  rw [hlast] at hm
  cases hm

end

theorem minimum_reachable {minimum : LogLevel} {s : LogSystem} (h : s.Reachable minimum) :
    s.logger.minimum = minimum := by
  induction h with
  | start clock => rfl
  | step _ hs ih =>
    cases hs with
    | tick _ => exact ih
    | call _ => exact ih
    | refused _ => exact ih
    | @locked before after now call _ =>
      rename_i s _ _
      show (s.logger.locked now call).minimum = minimum
      by_cases hd : s.logger.Due now call
      · rw [locked_of_due hd]
        exact ih
      · rw [locked_of_not_due hd]
        exact ih

/-- **Rate-limited logging, over every interleaving**: emissions are spaced; few keys are ever known, and none is
forgotten; a call that is let through waits for the lock with its reading, and its section writes exactly when it is
due. -/
theorem rate_limited {minimum : LogLevel} {s : LogSystem} (h : s.Reachable minimum) :
    (∀ key, (s.logger.emissions key).IsChain (fun e e' => e'.call.interval ≤ e'.now - e.now)) ∧
    (∀ keys : List Str, keys.Nodup → (∀ key ∈ keys, key ∈ s.logger.lastEmitted.map Prod.fst ∨
      key ∈ s.logger.output.map (·.call.boundedKey)) → keys.length ≤ 64) ∧
    (∀ s', s.Step s' → s.logger.lastEmitted.map Prod.fst ⊆ s'.logger.lastEmitted.map Prod.fst) ∧
    (∀ call : LogCall, minimum.value ≤ call.level.value → 0 < Py.utf8Size call.boundedKey →
      Py.utf8Size call.boundedKey ≤ 64 → s.Step { s with waiting := s.waiting ++ [(s.clock, call)] }) ∧
    ∀ before now call after, s.waiting = before ++ (now, call) :: after → ∃ s', s.Step s' ∧
      s'.waiting = before ++ after ∧
      (s.logger.Due now call → s'.logger.output = s.logger.output ++ [⟨call, now⟩] ∧
        s'.logger.lastEmitted.lookup call.boundedKey = some now) ∧
      (¬ s.logger.Due now call → s'.logger = s.logger) := by
  have hl := limited_reachable h
  refine ⟨hl.spaced, fun keys hn hk => ?_, fun s' => keys_step, fun call hm h0 h64 => ?_, ?_⟩
  · have hsub : keys ⊆ s.logger.lastEmitted.map Prod.fst := by
      intro key hkey
      rcases hk key hkey with hm | hm
      · exact hm
      · obtain ⟨e, he, rfl⟩ := List.mem_map.1 hm
        exact hl.remembered e he
    have hlen := (hn.subperm hsub).length_le
    rw [List.length_map] at hlen
    exact hlen.trans hl.bounded
  · have hmin := minimum_reachable h
    exact .call ⟨hmin ▸ hm, h0, h64⟩
  · intro before now call after hw
    refine ⟨_, .locked hw, rfl, fun hd => ?_, fun hd => locked_of_not_due hd⟩
    show (s.logger.locked now call).output = _ ∧ (s.logger.locked now call).lastEmitted.lookup _ = _
    rw [locked_of_due hd]
    exact ⟨rfl, (Py.lookup_setItem _ _ _ _).trans (if_pos rfl)⟩

/-- The warning that a full listener logs. -/
def connectionLimit : LogCall where
  level := .warn
  event := "http.request_rejected".toList
  message := "HTTP connection limit reached".toList
  boundedKey := "http:connection_limit".toList

/-- The logger that has warned of it at 0. -/
def warnedOnce : Logger where
  lastEmitted := [(connectionLimit.boundedKey, 0)]
  output := [⟨connectionLimit, 0⟩]

/-- Of the warnings at 0, 59 and 60 the first and the last are written, and they are spaced. -/
theorem connectionLimit_emitted : ∃ s' s'' : LogSystem, (⟨warnedOnce, 59, [(59, connectionLimit)]⟩ : LogSystem).Step s' ∧
    s'.logger.output = [⟨connectionLimit, 0⟩] ∧
    (⟨warnedOnce, 60, [(60, connectionLimit)]⟩ : LogSystem).Step s'' ∧
    s''.logger.output = [⟨connectionLimit, 0⟩, ⟨connectionLimit, 60⟩] ∧
    (s''.logger.emissions connectionLimit.boundedKey).IsChain (fun e e' => e'.call.interval ≤ e'.now - e.now) := by
  have hpasses : ∀ logger : Logger, logger.minimum = .info → logger.Admits connectionLimit := by
    rintro logger h
    exact ⟨by rw [h]; decide, by decide, by decide⟩
  have hstart : (⟨{}, 0, []⟩ : LogSystem).Reachable .info := .start 0
  have hwaits : (⟨{}, 0, [(0, connectionLimit)]⟩ : LogSystem).Reachable .info := .step hstart (.call (hpasses _ rfl))
  have honce : (⟨warnedOnce, 0, []⟩ : LogSystem).Reachable .info :=
    .step hwaits (@LogSystem.Step.locked _ [] [] 0 connectionLimit rfl)
  have hlater : ∀ clock : Rat, 0 ≤ clock → (⟨warnedOnce, clock, [(clock, connectionLimit)]⟩ : LogSystem).Reachable .info :=
    fun clock h => .step (.step honce (.tick h)) (.call (hpasses _ rfl))
  obtain ⟨s', hs', -, -, hnot⟩ := (rate_limited (hlater 59 (by decide))).2.2.2.2 [] 59 connectionLimit [] rfl
  obtain ⟨s'', hs'', -, hdue, -⟩ := (rate_limited (hlater 60 (by decide))).2.2.2.2 [] 60 connectionLimit [] rfl
  have hlast : warnedOnce.lastEmitted.lookup connectionLimit.boundedKey = some 0 := by decide
  have hsoon : ¬ warnedOnce.Due 59 connectionLimit := by
    rintro (⟨hnew, -⟩ | ⟨previous, hprevious, hinterval⟩)
    · exact hnew List.mem_cons_self
    · obtain rfl := Option.some.inj (hprevious.symm.trans hlast)
      have hshort : ¬ connectionLimit.interval ≤ 59 - 0 := by
        unfold connectionLimit
        norm_num
      exact hshort hinterval
  have hlong : connectionLimit.interval ≤ 60 - 0 := by
    unfold connectionLimit
    norm_num
  have hlogger : s'.logger = warnedOnce := hnot hsoon
  have houtput := (hdue (.inr ⟨0, hlast, hlong⟩)).1
  exact ⟨s', s'', hs', congrArg Logger.output hlogger, hs'', houtput, (rate_limited (.step (hlater 60 (by decide)) hs'')).1 _⟩

end Tt
