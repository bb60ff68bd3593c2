import TtMetricsExporter.Publishing
/-!
# KnownTotals — what a rejected read leaves behind

`_publish_profiler_data` remembers a chip's total before it checks the chip, so the totals after a read are those of
the chips that it has got to, the one that it rejects among them wherever its values convert (`knownTotals_publishChips`).
-/
namespace Tt
namespace MetaliumProfilerPublisher

open Py (Str)

variable (self : MetaliumProfilerPublisher)

/-! ## Totals of a read -/

/-- The total of a chip whose values all convert, if it has records. -/
def chipTotal (chip : ChipRecords) : Option Nat :=
  match chip.records.mapError .unreadable >>= convert with
  | .error _ => none
  | .ok (_, coreTotals) => if coreTotals ≠ [] then some (coreTotals.foldl max 0) else none

/-- The last total among those of some chips that have a device's key. -/
def lastTotal (deviceKey : Str) (chips : ProfilerData) : Option Nat :=
  ((chips.filter (fun chip => self.deviceKeyOf chip = deviceKey)).filterMap chipTotal).getLast?

def rememberChip (knownTotals : List (Str × Nat)) (chip : ChipRecords) : List (Str × Nat) :=
  match chipTotal chip with
  | some total => Py.setItem (self.deviceKeyOf chip) total knownTotals
  | none => knownTotals

theorem lookup_rememberChip (deviceKey : Str) (knownTotals : List (Str × Nat)) (chip : ChipRecords) :
    (self.rememberChip knownTotals chip).lookup deviceKey =
      (self.lastTotal deviceKey [chip]).or (knownTotals.lookup deviceKey) := by
  unfold rememberChip lastTotal
  by_cases hk : self.deviceKeyOf chip = deviceKey
  · rw [List.filter_cons_of_pos (by simpa using hk), List.filter_nil]
    cases ht : chipTotal chip with
    | none => simp [ht]
    | some total => simp [ht, Py.lookup_setItem, hk]
  · rw [List.filter_cons_of_neg (by simpa using hk), List.filter_nil]
    cases ht : chipTotal chip with
    | none => simp
    | some total => simp [Py.lookup_setItem, Ne.symm hk]

theorem lastTotal_append (deviceKey : Str) (before after : ProfilerData) :
    self.lastTotal deviceKey (before ++ after) =
      (self.lastTotal deviceKey after).or (self.lastTotal deviceKey before) := by
  unfold lastTotal
  rw [List.filter_append, List.filterMap_append, List.getLast?_append]

theorem lookup_rememberChips (deviceKey : Str) : ∀ (chips : ProfilerData) (knownTotals : List (Str × Nat)),
    (chips.foldl self.rememberChip knownTotals).lookup deviceKey =
      (self.lastTotal deviceKey chips).or (knownTotals.lookup deviceKey)
  | [], _ => rfl
  | chip :: rest, knownTotals => by
    have hcons : chip :: rest = [chip] ++ rest := rfl
    rw [List.foldl_cons, lookup_rememberChips deviceKey rest, lookup_rememberChip, hcons, lastTotal_append,
      Option.or_assoc]

/-! ## What the programs remember -/

/-- The totals stay as they are. -/
def SameTotals (s s' : PublisherState) : Prop := s'.knownTotals = s.knownTotals

theorem SameTotals.refl (s : PublisherState) : SameTotals s s := rfl

theorem SameTotals.trans (s s' s'' : PublisherState) (h : SameTotals s s') (h' : SameTotals s' s'') : SameTotals s s'' :=
  Eq.trans h' h

theorem publish_sameTotals (deviceKey : Str) (summary : ProfilerSummary) (allowClosed : Bool) :
    (self.publish deviceKey summary allowClosed).Obeys SameTotals := by
  unfold publish
  split
  · apply Thread.obeys_atomic
    intro s
    rcases self.publishSection_cases deviceKey summary allowClosed s with ⟨-, -, h⟩ | ⟨-, _, h, -⟩ | ⟨-, _, _, -, h, -⟩
    all_goals
      rw [h]
      rfl
  · trivial

theorem checkCores_sameTotals (deviceKey : Str) (coresUsed : Nat) : (checkCores deviceKey coresUsed).Obeys SameTotals := by
  apply Thread.obeys_atomic
  intro s
  split <;> rfl

theorem summaryOf_sameTotals (deviceKey : Str) (active programs cores : Nat) :
    (summaryOf deviceKey active programs cores).Obeys SameTotals := Thread.obeys_get SameTotals.refl _

/-- What `_publish` raises is no validation error. -/
theorem error_publish {deviceKey : Str} {summary : ProfilerSummary} {allowClosed : Bool} {s : PublisherState}
    {error : PublishError} (h : ((self.publish deviceKey summary allowClosed).alone s).1 = .error error) :
    ¬ error.IsValidation := by
  unfold publish at h
  split at h
  · rw [Thread.alone_atomic] at h
    rcases self.publishSection_cases deviceKey summary allowClosed s with
      ⟨-, -, hs⟩ | ⟨-, _, hs, ⟨rfl, -⟩ | ⟨_, rfl, -⟩⟩ | ⟨-, _, _, -, hs, rfl | ⟨_, rfl, -⟩⟩
    all_goals
      rw [hs] at h
      cases h
    all_goals exact id
  · cases h
    exact id

/-- **A chip is remembered before it is checked**, whatever becomes of it. -/
theorem knownTotals_publishChip (chip : ChipRecords) (s : PublisherState) :
    ((self.publishChip chip).alone s).2.knownTotals = self.rememberChip s.knownTotals chip := by
  unfold publishChip rememberChip chipTotal
  dsimp only
  rw [Thread.alone_bind, Thread.alone_ofExcept]
  cases chip.records.mapError PublishError.unreadable with
  | error e => rfl
  | ok records =>
    have hbind : (Except.ok records >>= convert : Except PublishError (List Nat × List Nat)) = convert records := rfl
    dsimp only
    rw [Thread.alone_bind, Thread.alone_ofExcept, hbind]
    cases convert records with
    | error e => rfl
    | ok totals =>
      obtain ⟨coreCounts, coreTotals⟩ := totals
      dsimp only
      rw [Thread.alone_bind]
      -- What follows the update leaves the totals alone.
      have hrest : ∀ s' : PublisherState, ((do
          checkCores (self.deviceKeyOf chip) (coreCounts.foldl max 0)
          let summary ← summaryOf (self.deviceKeyOf chip) (if records = [] then 0 else 1) records.length
            (coreCounts.foldl max 0)
          self.publish (self.deviceKeyOf chip) summary
          return summary : Publishing ProfilerSummary).alone s').2.knownTotals = s'.knownTotals := by
        intro s'
        refine Thread.Obeys.alone SameTotals.refl SameTotals.trans ?_ s'
        refine (checkCores_sameTotals _ _).bind (fun _ => (summaryOf_sameTotals _ _ _ _).bind (fun summary => ?_))
        exact (self.publish_sameTotals _ _ _).bind (fun _ => Thread.obeys_pure _)
      unfold remember
      by_cases hne : coreTotals ≠ []
      · rw [if_pos hne, if_pos hne, Thread.alone_update]
        exact hrest _
      · rw [if_neg hne, if_neg hne, Thread.alone_pure]
        exact hrest s

theorem knownTotals_publishChips : ∀ {chips : ProfilerData} {summaries : Summaries} {s s' : PublisherState}
    {result : Summaries}, (self.publishChips chips summaries).alone s = (.ok result, s') →
    s'.knownTotals = chips.foldl self.rememberChip s.knownTotals
  | [], _, _, _, _, h => by
    cases h
    rfl
  | chip :: rest, summaries, s, s', result, h => by
    have hchip := self.knownTotals_publishChip chip s
    unfold publishChips at h
    rw [Thread.alone_bind] at h
    cases hc : (self.publishChip chip).alone s with
    | mk outcome s1 =>
      rw [hc] at h hchip
      cases outcome with
      | error e => cases h
      | ok summary =>
        dsimp only at h hchip
        rw [List.foldl_cons, ← hchip]
        exact knownTotals_publishChips h

/-! ## Where a read is rejected -/

/-- The loop over the chips raises an error at one of them, having published those before it. -/
def RejectsAt (s : PublisherState) (before : ProfilerData) (chip : ChipRecords) (error : PublishError) : Prop :=
  ∃ summaries s', (self.publishChips before []).alone s = (.ok summaries, s') ∧
    ((self.publishChip chip).alone s').1 = .error error

/-- A loop that fails fails at one of its chips. -/
theorem exists_rejected : ∀ {chips : ProfilerData} {summaries : Summaries} {s s' : PublisherState} {error : PublishError},
    (self.publishChips chips summaries).alone s = (.error error, s') →
    ∃ before chip after result s1, chips = before ++ chip :: after ∧
      (self.publishChips before summaries).alone s = (.ok result, s1) ∧
      (self.publishChip chip).alone s1 = (.error error, s')
  | [], _, _, _, _, h => by cases h
  | chip :: rest, summaries, s, s', error, h => by
    unfold publishChips at h
    rw [Thread.alone_bind] at h
    cases hc : (self.publishChip chip).alone s with
    | mk outcome s1 =>
      rw [hc] at h
      cases outcome with
      | error e =>
        cases h
        exact ⟨[], chip, rest, summaries, s, rfl, rfl, hc⟩
      | ok summary =>
        obtain ⟨before, chip', after, result, s2, rfl, hb, hf⟩ := exists_rejected h
        refine ⟨chip :: before, chip', after, result, s2, rfl, ?_, hf⟩
        unfold publishChips
        rw [Thread.alone_bind, hc]
        exact hb

theorem error_publishIdle : ∀ {deviceKeys : List Str} {summaries : Summaries} {s : PublisherState}
    {error : PublishError}, ((self.publishIdle deviceKeys summaries).alone s).1 = .error error → ¬ error.IsValidation
  | [], _, _, _, h => by cases h
  | deviceKey :: rest, summaries, s, error, h => by
    unfold publishIdle at h
    rw [Thread.alone_bind] at h
    unfold summaryOf at h
    rw [Thread.alone_get] at h
    dsimp only at h
    rw [Thread.alone_bind] at h
    cases hp : (self.publish deviceKey ⟨0, 0, 0, s.knownTotals.lookup deviceKey⟩).alone s with
    | mk outcome s1 =>
      rw [hp] at h
      cases outcome with
      | error e =>
        cases h
        exact self.error_publish (congrArg Prod.fst hp)
      | ok u => exact error_publishIdle h

/-- **A rejected read keeps a device's total exactly when** the last total that it got to for the device, that of the
rejected chip among them where its values convert, is the one that was known. -/
theorem total_kept_iff {s : PublisherState} {data : ProfilerData} {finishedAt : Rat} {error : PublishError}
    (h : ((self.publishData data finishedAt).alone s).1 = .error error) (hv : error.IsValidation) :
    ∃ before chip after, data = before ++ chip :: after ∧ self.RejectsAt s before chip error ∧
      let known := fun s : PublisherState => s.knownTotals.lookup (self.deviceKeyOf chip)
      (known ((self.publishData data finishedAt).alone s).2 = known s ↔
        ∀ total, self.lastTotal (self.deviceKeyOf chip) (before ++ [chip]) = some total → known s = some total) := by
  have hdata : ∃ s', (self.publishChips data []).alone s = (.error error, s') ∧
      ((self.publishData data finishedAt).alone s).2 = s' := by
    unfold publishData at h ⊢
    rw [Thread.alone_bind] at h ⊢
    cases hc : (self.publishChips data []).alone s with
    | mk outcome s1 =>
      rw [hc] at h
      cases outcome with
      | error e =>
        cases h
        exact ⟨s1, rfl, rfl⟩
      | ok summaries =>
        dsimp only at h
        rw [Thread.alone_bind] at h
        cases hi : (self.publishIdle (self.deviceKeys.filter (fun deviceKey => deviceKey ∉ data.map self.deviceKeyOf))
            summaries).alone s1 with
        | mk outcome s2 =>
          rw [hi] at h
          cases outcome with
          | error e =>
            cases h
            exact absurd hv (self.error_publishIdle (congrArg Prod.fst hi))
          | ok summaries => cases h
  obtain ⟨s', hs', hend⟩ := hdata
  obtain ⟨before, chip, after, result, s1, rfl, hb, hf⟩ := self.exists_rejected hs'
  refine ⟨before, chip, after, rfl, ⟨result, s1, hb, congrArg Prod.fst hf⟩, ?_⟩
  intro known
  have hknown : known s' = (self.lastTotal (self.deviceKeyOf chip) (before ++ [chip])).or (known s) := by
    have hchip := self.knownTotals_publishChip chip s1
    rw [hf, self.knownTotals_publishChips hb] at hchip
    have hfold : (before ++ [chip]).foldl self.rememberChip s.knownTotals =
        self.rememberChip (before.foldl self.rememberChip s.knownTotals) chip := by
      rw [List.foldl_append]
      rfl
    show s'.knownTotals.lookup _ = _
    rw [← self.lookup_rememberChips, hfold, ← hchip]
  rw [hend, hknown]
  cases self.lastTotal (self.deviceKeyOf chip) (before ++ [chip]) with
  | none => simp
  | some total => simp [eq_comm]

/-! ## A first read that is rejected -/

def firstPublisher : MetaliumProfilerPublisher where
  workloadId := ['w']
  workloadId_ne := singleLetter_ne
  layout_valid := layout_two_valid

/-- One program on more cores than there are. -/
def impossibleRead : ProfilerData := [⟨['0'], .ok [⟨.ok 81, .ok 80⟩]⟩]

/-- The total of the rejected read is remembered, and `close` publishes it. -/
theorem rejected_total_published :
    let read := (firstPublisher.publishData impossibleRead 0).alone freshPublisher
    read.1 = .error (.exceeds 81 80 ['0']) ∧ freshPublisher.knownTotals.lookup ['0'] = none ∧
    read.2.knownTotals.lookup ['0'] = some 80 ∧
    (((firstPublisher.close ⟨id, List.Perm.refl⟩).alone read.2).2.written.map (·.summary.tensixCoresTotal)) =
      [some 80] := by
  refine ⟨rfl, rfl, rfl, ?_⟩
  decide +kernel

theorem total_kept_iff_impossibleRead : ∃ before chip after, impossibleRead = before ++ chip :: after ∧
    firstPublisher.RejectsAt freshPublisher before chip (.exceeds 81 80 ['0']) ∧
    let known := fun s : PublisherState => s.knownTotals.lookup (firstPublisher.deviceKeyOf chip)
    (known ((firstPublisher.publishData impossibleRead 0).alone freshPublisher).2 = known freshPublisher ↔
      ∀ total, firstPublisher.lastTotal (firstPublisher.deviceKeyOf chip) (before ++ [chip]) = some total →
        known freshPublisher = some total) :=
  firstPublisher.total_kept_iff rfl trivial

end MetaliumProfilerPublisher
end Tt
