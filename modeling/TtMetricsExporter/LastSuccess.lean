import TtMetricsExporter.PyFormat
import TtMetricsExporter.Readiness
/-!
# LastSuccess — the printed time of the last success

`_number` prints nine significant digits, and a wall clock has ten before the point: what is printed of a time is its
nearest multiple of ten seconds or more (`near_iff`).  `tt_exporter_last_success_timestamp_seconds` shows that of the
last refresh that published (`shownLastSuccess_eq`), because the status keeps its wall clock along every run
(`lastSuccessWall_run`).
-/
namespace Tt

open Py (Str)
open Exposition (Sample Family)

/-- `_number`. -/
def RuntimeStatus.number (value : Rat) : Numeral := ⟨Py.formatGeneral 9 value, Py.line_formatGeneral 9 value⟩

/-! ## Nine digits of a wall clock -/

/-- The time is within a second of a multiple of its ninth digit's unit: its seconds end in as many zeros as they have
digits beyond nine, or in nines and are not whole. -/
def NearUnit (w : Rat) : Prop :=
  let unit := 10 ^ (Nat.log 10 ⌊w⌋₊ - 8)
  ⌊w⌋₊ % unit = 0 ∨ ⌊w⌋₊ % unit = unit - 1 ∧ (⌊w⌋₊ : Rat) ≠ w

/-- The unit of a time of ten digits or more is ten seconds or more. -/
theorem unitOf_wall {w : Rat} (hw : 10 ^ 9 ≤ w) :
    Py.unitOf 9 w = ((10 ^ (Nat.log 10 ⌊w⌋₊ - 8) : Nat) : Rat) ∧ 10 ≤ 10 ^ (Nat.log 10 ⌊w⌋₊ - 8) := by
  have hone : 1 ≤ w := le_trans (by norm_num) hw
  have hfloor : 10 ^ 9 ≤ ⌊w⌋₊ := Nat.le_floor (by exact_mod_cast hw)
  have hlog : 9 ≤ Nat.log 10 ⌊w⌋₊ := Nat.le_log_of_pow_le (by decide) hfloor
  constructor
  · unfold Py.unitOf
    rw [Int.log_of_one_le_right 10 hone]
    have he : (Nat.log 10 ⌊w⌋₊ : ℤ) - ((9 - 1 : Nat) : ℤ) = ((Nat.log 10 ⌊w⌋₊ - 8 : Nat) : ℤ) := by omega
    rw [he, zpow_natCast]
    push_cast
    rfl
  · calc 10 = 10 ^ 1 := rfl
      _ ≤ 10 ^ (Nat.log 10 ⌊w⌋₊ - 8) := Nat.pow_le_pow_right (by decide) (by omega)

/-- **A multiple of the unit within a second** is there exactly for the times near it. -/
theorem near_multiple_iff {w : Rat} {unit : Nat} (hw : 0 ≤ w) (hu : 2 ≤ unit) :
    (∃ k : Nat, |(k : Rat) * unit - w| < 1) ↔ ⌊w⌋₊ % unit = 0 ∨ ⌊w⌋₊ % unit = unit - 1 ∧ (⌊w⌋₊ : Rat) ≠ w := by
  have hle : (⌊w⌋₊ : Rat) ≤ w := Nat.floor_le hw
  have hlt : w < ⌊w⌋₊ + 1 := Nat.lt_floor_add_one w
  generalize ⌊w⌋₊ = f at *
  constructor
  · rintro ⟨k, hk⟩
    rw [abs_lt] at hk
    have hlow : f < k * unit + 1 := by
      have h : (f : Rat) < k * unit + 1 := by linarith
      exact_mod_cast h
    have hhigh : k * unit < f + 2 := by
      have h : (k : Rat) * unit < f + 2 := by linarith
      exact_mod_cast h
    rcases Nat.eq_or_lt_of_le (Nat.le_of_lt_succ hlow) with he | hgt
    · left
      rw [he]
      exact Nat.mul_mod_left k unit
    · right
      have he : f + 1 = k * unit := by omega
      constructor
      · -- One more second reaches the multiple.
        obtain ⟨q, rfl⟩ : ∃ q, k = q + 1 := by
          cases k with
          | zero => omega
          | succ q => exact ⟨q, rfl⟩
        have hf : f = q * unit + (unit - 1) := by
          rw [Nat.add_mul, Nat.one_mul] at he
          omega
        rw [hf, Nat.add_comm, Nat.add_mul_mod_self_right, Nat.mod_eq_of_lt (by omega)]
      · intro hwhole
        have h : (f : Rat) + 1 = k * unit := by exact_mod_cast he
        linarith [hk.2]
  · have hdiv := Nat.div_add_mod f unit
    rintro (h | ⟨h, hne⟩)
    · refine ⟨f / unit, ?_⟩
      have hf : ((f / unit : Nat) : Rat) * unit = f := by
        rw [h, Nat.add_zero] at hdiv
        rw [mul_comm]
        exact_mod_cast hdiv
      rw [hf, abs_lt]
      constructor <;> linarith
    · refine ⟨f / unit + 1, ?_⟩
      have hf : ((f / unit + 1 : Nat) : Rat) * unit = f + 1 := by
        rw [h] at hdiv
        have hn : (f / unit + 1) * unit = f + 1 := by
          rw [Nat.add_mul, Nat.one_mul, Nat.mul_comm]
          omega
        exact_mod_cast hn
      rw [hf, abs_lt]
      have hgt : (f : Rat) < w := lt_of_le_of_ne hle hne
      constructor <;> linarith

/-- **What is printed of a time is within a second of it exactly when** the time is near its unit. -/
theorem near_iff {w : Rat} (hw : 10 ^ 9 ≤ w) :
    |Py.numeralValue (RuntimeStatus.number w).text - w| < 1 ↔ NearUnit w := by
  have hpos : 0 < w := lt_of_lt_of_le (by norm_num) hw
  obtain ⟨-, -, k, hk, hclose⟩ := Py.significant_spec (p := 9) (by decide) hpos
  obtain ⟨hunit, hten⟩ := unitOf_wall hw
  have htext : Py.numeralValue (RuntimeStatus.number w).text = k * Py.unitOf 9 w := by
    rw [← hk, ← Py.numeralValue_formatPositive (by decide) hpos]
    unfold RuntimeStatus.number Py.formatGeneral
    dsimp only
    rw [if_neg hpos.ne', if_neg hpos.not_gt]
  unfold NearUnit
  dsimp only
  rw [htext, ← near_multiple_iff hpos.le (le_trans (by decide) hten)]
  rw [hunit] at hclose ⊢
  generalize 10 ^ (Nat.log 10 ⌊w⌋₊ - 8) = unit at *
  refine ⟨fun h => ⟨k, h⟩, fun ⟨j, hj⟩ => ?_⟩
  -- Two multiples this close to one time are the same.
  have hten' : (10 : Rat) ≤ unit := by exact_mod_cast hten
  rw [abs_lt] at hj
  rw [abs_le] at hclose
  have hkj : k = j := by
    have hlow : (k : Rat) * unit < (j + 1) * unit := by linarith
    have hhigh : (j : Rat) * unit < (k + 1) * unit := by linarith
    have h1 : (k : Rat) < j + 1 := lt_of_mul_lt_mul_right hlow (by linarith)
    have h2 : (j : Rat) < k + 1 := lt_of_mul_lt_mul_right hhigh (by linarith)
    have h3 : k < j + 1 := by exact_mod_cast h1
    have h4 : j < k + 1 := by exact_mod_cast h2
    omega
  rw [hkj, abs_lt]
  exact hj

/-! ## Runs -/

section Run
variable {options : ServiceOptions} {maxSnapshotAge : Rat} {requireDevice : Bool}

theorem historyOf_concat (events : List Event) (e : Event) : historyOf (events ++ [e]) = (historyOf events).step e := by
  unfold historyOf
  rw [List.foldl_append]
  rfl

/-- **The status keeps the wall clock** of the last refresh that published. -/
theorem lastSuccessWall_run (events : List Event) :
    (statusAfter options maxSnapshotAge requireDevice events).lastSuccessWall =
      ((historyOf events).lastPublishing options).map (·.wallNow) := by
  induction events using List.reverseRecOn with
  | nil => rfl
  | append_singleton events e ih =>
    have hs := @summary_run options maxSnapshotAge requireDevice events
    have hrun : statusAfter options maxSnapshotAge requireDevice (events ++ [e]) =
        (((ServiceState.mk (.start maxSnapshotAge requireDevice) none).run options events).step options e).service.status := by
      unfold statusAfter ServiceState.run
      rw [List.foldl_append]
      rfl
    rw [hrun, historyOf_concat]
    unfold statusAfter at ih
    have hunder := hs.underWay
    generalize (ServiceState.mk (.start maxSnapshotAge requireDevice) none).run options events = s at *
    generalize historyOf events = h at *
    unfold ServiceState.step History.step
    cases e with
    | publish r =>
      dsimp only
      cases hu : s.underWay with
      | none =>
        rw [hu] at hunder
        rw [← hunder]
        exact (congrArg RuntimeStatus.lastSuccessWall (publishStep_published options s.service r).1).trans ih
      | some x =>
        rw [hu] at hunder
        rw [← hunder]
        exact ih
    | record =>
      dsimp only
      cases hu : s.underWay with
      | none =>
        rw [hu] at hunder
        rw [← hunder]
        exact ih
      | some x =>
        obtain ⟨r, published⟩ := x
        obtain ⟨hsome, hsnapshot⟩ := hs.published _ hu
        rw [hu] at hunder
        rw [← hunder]
        dsimp only [Option.map_some]
        cases published with
        | none =>
          rw [recordStep_none, lastPublishing_of_not_publishes hsome.symm h]
          exact ih
        | some snapshot =>
          rw [recordStep_some s.service hsome.symm (hsnapshot snapshot rfl).2, lastPublishing_of_publishes hsome.symm h]
          rfl
    | beginShutdown => exact ih

theorem recorded_step (h : History) (e : Event) : ∃ rs, (h.step e).recorded = h.recorded ++ rs ∧ rs.length ≤ 1 := by
  unfold History.step
  cases e with
  | publish r => cases h.underWay <;> exact ⟨[], (List.append_nil _).symm, Nat.zero_le 1⟩
  | record =>
    cases h.underWay with
    | none => exact ⟨[], (List.append_nil _).symm, Nat.zero_le 1⟩
    | some r => exact ⟨[r], rfl, le_refl 1⟩
  | beginShutdown => exact ⟨[], (List.append_nil _).symm, Nat.zero_le 1⟩

/-- What is recorded stays recorded. -/
theorem recorded_mono {before events : List Event} (h : before <+: events) :
    (historyOf before).recorded <+: (historyOf events).recorded := by
  obtain ⟨after, rfl⟩ := h
  induction after using List.reverseRecOn with
  | nil => rw [List.append_nil]
  | append_singleton after e ih =>
    obtain ⟨rs, hrs, -⟩ := recorded_step (historyOf (before ++ after)) e
    rw [← List.append_assoc, historyOf_concat, hrs]
    exact ih.trans (List.prefix_append _ rs)

/-- **The successes of a run** are the refreshes that are the last to have published after some of its events. -/
theorem mem_recorded_iff {events : List Event} {r : Refresh} :
    (r ∈ (historyOf events).recorded ∧ r.publishes options = true) ↔
      ∃ before, before <+: events ∧ (historyOf before).lastPublishing options = some r := by
  constructor
  · rintro ⟨hr, hp⟩
    induction events using List.reverseRecOn with
    | nil => cases hr
    | append_singleton events e ih =>
      obtain ⟨rs, hrs, hle⟩ := recorded_step (historyOf events) e
      rw [historyOf_concat, hrs, List.mem_append] at hr
      rcases hr with hr | hr
      · obtain ⟨before, hb, hl⟩ := ih hr
        exact ⟨before, hb.trans (List.prefix_append events [e]), hl⟩
      · -- The last event has recorded it.
        obtain rfl : rs = [r] := by
          match rs, hr, hle with
          | [x], hr, _ => rw [List.mem_singleton.1 hr]
          | _ :: _ :: _, _, hle => exact absurd hle (by simp)
        refine ⟨_, List.prefix_refl _, ?_⟩
        unfold History.lastPublishing
        rw [historyOf_concat, hrs, List.filter_append, List.filter_cons_of_pos hp, List.filter_nil,
          List.getLast?_concat]
  · rintro ⟨before, hb, hl⟩
    have hm := List.mem_filter.1 (List.mem_of_getLast? hl)
    exact ⟨(recorded_mono hb).subset hm.1, hm.2⟩

end Run

/-! ## The printed time -/

/-- The number that a text shows in the one sample of a family. -/
def shownNumber (text : Str) (family : String) : Option Rat := do
  let families ← Exposition.parse text
  match families.filter (fun f => f.name = family.toList) with
  | [⟨_, _, _, [sample]⟩] => some (Py.numeralValue sample.value)
  | _ => none

section Printed
variable (options : ServiceOptions) (maxSnapshotAge : Rat) (requireDevice : Bool) (build : BuildInfo)

/-- What is printed of the last success after some events. -/
def shownLastSuccess (events : List Event) (now : Rat) : Option Rat :=
  shownNumber ((statusAfter options maxSnapshotAge requireDevice events).renderPrometheus RuntimeStatus.number build now)
    "tt_exporter_last_success_timestamp_seconds"

/-- Every success of the run is printed within a second until the next one, and two that are two seconds apart are
printed differently. -/
structure AccurateToTheSecond (events : List Event) : Prop where
  accurate : ∀ before r now, before <+: events → (historyOf before).lastPublishing options = some r →
    10 ^ 9 ≤ r.wallNow →
    ∃ v, shownLastSuccess options maxSnapshotAge requireDevice build before now = some v ∧ |v - r.wallNow| < 1
  distinct : ∀ before before' r r' now now', before <+: events → before' <+: events →
    (historyOf before).lastPublishing options = some r → (historyOf before').lastPublishing options = some r' →
    10 ^ 9 ≤ r.wallNow → 10 ^ 9 ≤ r'.wallNow → 2 ≤ |r.wallNow - r'.wallNow| →
    shownLastSuccess options maxSnapshotAge requireDevice build before now ≠
      shownLastSuccess options maxSnapshotAge requireDevice build before' now'

variable {options maxSnapshotAge requireDevice build}

theorem shownLastSuccess_eq {events : List Event} {r : Refresh}
    (h : (historyOf events).lastPublishing options = some r) (now : Rat) :
    shownLastSuccess options maxSnapshotAge requireDevice build events now =
      some (Py.numeralValue (RuntimeStatus.number r.wallNow).text) := by
  have hwall := @lastSuccessWall_run options maxSnapshotAge requireDevice events
  rw [h, Option.map_some] at hwall
  unfold shownLastSuccess shownNumber
  generalize statusAfter options maxSnapshotAge requireDevice events = status at *
  have hm : (⟨"tt_exporter_last_success_timestamp_seconds", "Unix timestamp of the last successful collection.", "gauge",
      [([], (RuntimeStatus.number (status.lastSuccessWall.getD 0)).text)]⟩ : StatusMetric) ∈
      status.metrics RuntimeStatus.number build now := by
    unfold RuntimeStatus.metrics
    simp only [List.mem_cons, true_or, or_true]
  have hfamily := status_family RuntimeStatus.number status build now hm
  rw [parse_status]
  simp only [Option.bind_eq_bind, Option.bind_some]
  rw [hfamily, hwall]
  rfl

/-- **Last-success times are printed to the second exactly when** every one of them is near its unit. -/
theorem accurate_iff (options : ServiceOptions) (maxSnapshotAge : Rat) (requireDevice : Bool) (build : BuildInfo)
    (events : List Event) : AccurateToTheSecond options maxSnapshotAge requireDevice build events ↔
      ∀ r ∈ (historyOf events).recorded, r.publishes options = true → 10 ^ 9 ≤ r.wallNow → NearUnit r.wallNow := by
  constructor
  · intro h r hr hp hw
    obtain ⟨before, hb, hl⟩ := mem_recorded_iff.1 ⟨hr, hp⟩
    obtain ⟨v, hv, hclose⟩ := h.accurate before r 0 hb hl hw
    rw [shownLastSuccess_eq hl] at hv
    obtain rfl := Option.some.inj hv
    exact (near_iff hw).1 hclose
  · intro h
    have hclose : ∀ {before r}, before <+: events → (historyOf before).lastPublishing options = some r →
        10 ^ 9 ≤ r.wallNow → |Py.numeralValue (RuntimeStatus.number r.wallNow).text - r.wallNow| < 1 := by
      intro before r hb hl hw
      obtain ⟨hr, hp⟩ := mem_recorded_iff.2 ⟨before, hb, hl⟩
      exact (near_iff hw).2 (h r hr hp hw)
    refine ⟨fun before r now hb hl hw => ⟨_, shownLastSuccess_eq hl now, hclose hb hl hw⟩, ?_⟩
    intro before before' r r' now now' hb hb' hl hl' hw hw' happart heq
    rw [shownLastSuccess_eq hl, shownLastSuccess_eq hl', Option.some.injEq] at heq
    have h1 := abs_lt.1 (hclose hb hl hw)
    have h2 := abs_lt.1 (hclose hb' hl' hw')
    rw [heq] at h1
    have hnear : |r.wallNow - r'.wallNow| < 2 := by
      rw [abs_lt]
      constructor <;> linarith [h1.1, h1.2, h2.1, h2.2]
    exact absurd happart (not_le.2 hnear)

end Printed

/-! ## A time between two multiples of ten seconds -/

/-- A refresh that finds no devices. -/
def quietRefresh (wallNow : Rat) : Refresh where
  collection := { criticalSourcesOk := true }
  renderFails := false
  duration := 0
  steadyNow := 0
  wallNow := wallNow

/-- It publishes where there is room for its renderings. -/
theorem publishes_of_room {options : ServiceOptions} {r : Refresh} {limit : Nat}
    (hcritical : r.collection.criticalSourcesOk = true) (hfails : r.renderFails = false)
    (hlimit : options.maximumRenderedPayloadBytes = limit)
    (hp : Py.utf8Size (renderPrometheus options.ratio r.collection.devices) ≤ limit)
    (hd : Py.utf8Size (renderDevicesJson r.collection.devices) ≤ limit) : r.publishes options = true := by
  unfold Refresh.publishes Refresh.payloads Refresh.rendered
  rw [if_pos hcritical, hfails, if_neg Bool.false_ne_true, hlimit]
  simp [hp, hd]

/-- Five seconds from the nearest one. -/
theorem last_success_inaccurate : ∃ options,
    ¬ AccurateToTheSecond options 15 false ⟨[], [], 0⟩ [.publish (quietRefresh 1700000005), .record] := by
  have hroom : ∀ (ratio : Int → Int → Numeral) (devices : List DeviceTelemetry), ∃ limit,
      Py.utf8Size (renderPrometheus ratio devices) ≤ limit ∧ Py.utf8Size (renderDevicesJson devices) ≤ limit :=
    fun ratio devices => ⟨_, le_max_left _ _, le_max_right _ _⟩
  obtain ⟨limit, hp, hd⟩ := hroom (fun _ _ => ⟨['0'], by decide⟩) []
  generalize hoptions : (⟨{ sysfsRoot := ["sys".toList] }, limit, fun _ _ => ⟨['0'], by decide⟩⟩ : ServiceOptions) =
    options
  have hlimit : options.maximumRenderedPayloadBytes = limit := by rw [← hoptions]
  have hratio : options.ratio = fun _ _ => ⟨['0'], by decide⟩ := by rw [← hoptions]
  have hpublishes : (quietRefresh 1700000005).publishes options = true :=
    publishes_of_room rfl rfl hlimit (hratio ▸ hp) hd
  refine ⟨options, fun h => ?_⟩
  have hl : (historyOf [.publish (quietRefresh 1700000005), .record]).lastPublishing options =
      some (quietRefresh 1700000005) := by
    unfold History.lastPublishing
    have hr : (historyOf [.publish (quietRefresh 1700000005), .record]).recorded = [quietRefresh 1700000005] := rfl
    rw [hr, List.filter_cons_of_pos hpublishes]
    rfl
  have hw : (10 ^ 9 : Rat) ≤ (quietRefresh 1700000005).wallNow := by
    unfold quietRefresh
    norm_num
  obtain ⟨v, hv, hclose⟩ := h.accurate _ _ 0 (List.prefix_refl _) hl hw
  rw [shownLastSuccess_eq hl] at hv
  obtain rfl := Option.some.inj hv
  have hnear := (near_iff hw).1 hclose
  have hfloor : ⌊(quietRefresh 1700000005).wallNow⌋₊ = 1700000005 := by
    unfold quietRefresh
    norm_num
  have hlog : Nat.log 10 1700000005 = 9 := by norm_num
  unfold NearUnit at hnear
  rw [hfloor, hlog] at hnear
  exact absurd hnear (by norm_num)

end Tt
