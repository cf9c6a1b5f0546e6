import CoherenceObservatory.Bookkeeping
import CoherenceObservatory.Counter.Arithmetic
import CoherenceObservatory.Validity

/-!
# What the journal holds

Observations are checked before they are journaled. The ones that are derived from counter samples
are not: a sample passes its own checks, and those leave out what an observation is checked for.
-/

namespace CoherenceObservatory

open Std Limits

/-! ## Observations derived from counters -/

/-- What a counter publication is not checked for, though the observation derived from it needs
it. -/
structure CounterPublication.Derivable (c : CounterPublication) : Prop where
  eventId : fnv1aU64 (fnv1aStr fnv1aInit c.counter) c.sequence ≠ 0
  source : ∀ r ∈ c.source, r.Valid
  target : ∀ r ∈ c.target, r.Valid
  distinct : DistinctRefs c.source c.target
  region : ∀ t ∈ c.region, IsToken t
  workload : ∀ t ∈ c.workload, IsToken t
  generation : c.generation ≠ 0
  backend : c.mappedType = .UnknownCoherenceEvent → c.metadata.contains backendEventKey

theorem scaledBytes_le (delta bytesPerUnit : UInt64) :
    scaledBytes delta bytesPerUnit ≤ maxByteCount := by
  unfold scaledBytes
  split
  · exact UInt64.le_refl _
  next h =>
    rw [UInt64.le_iff_toNat_le, UInt64.toNat_mul]
    exact (Nat.mod_le _ _).trans (Nat.not_lt.1 h)

theorem counterDirection_le (type : EventType) : (counterDirection type).raw ≤ 5 := by
  unfold counterDirection
  repeat' split
  all_goals decide

variable {c : CounterPublication} {s : State} {e : JournalEntry} {o : Observation} {a : Action}
  {now : Nanos} {p : PublisherState}

/-- The observation derived from a checked publication is valid exactly if the rest holds, too. -/
theorem derivedObservation_valid_iff (h : c.Valid) (hgranularity : c.granularity ≠ .Unknown)
    (hpublisher : IsToken c.publisher) (s : State) (delta : UInt64) :
    (derivedObservation s c delta).Valid ↔ c.Derivable := by
  constructor
  · intro h
    refine ⟨h.eventId, h.source, h.target, h.distinct, fun t ht => ?_, h.workload, ?_, h.backend⟩
    · have hregion := h.region
      rw [show (derivedObservation s c delta).region = some t from ht] at hregion
      exact hregion.1
    · exact h.delta_generation.1 rfl
  · intro hd
    have hregion : ValidNamed c.region c.regionGeneration := by
      cases hr : c.region with
      | none => exact h.region_alone hr
      | some t => exact ⟨hd.region t hr, h.region (by rw [hr]; rfl)⟩
    exact {
      eventId := hd.eventId
      type := h.type
      publisher := hpublisher
      boot := h.boot
      timestamp := h.timestamp
      sequence := h.sequence
      source := hd.source
      target := hd.target
      distinct := hd.distinct
      region := hregion
      domain := rfl
      workload := hd.workload
      process := nofun
      direction := counterDirection_le c.mappedType
      stateBefore := (by decide : CoherenceState.Unknown.raw ≤ 9)
      stateAfter := (by decide : CoherenceState.Unknown.raw ≤ 9)
      locality := (by decide : Locality.Unknown.raw ≤ Locality.count)
      provenance := h.provenance
      precision := (by decide : Precision.ExactCounterDelta.raw ≤ 6)
      granularity := h.granularity
      bytes := scaledBytes_le delta c.bytesPerUnit
      lines := (by decide : 0 ≤ maxLineCount)
      pages := (by decide : 0 ≤ maxLineCount)
      regionCount := Nat.zero_le _
      duration := (by decide : (-1 : Int64) ≤ -1 ∧ (-1 : Int64) ≤ maxMeasuredDurationNs)
      exact_granularity := fun _ => hgranularity
      delta_precision := fun _ => (by decide : Precision.ExactCounterDelta ≠ .ExactEvent)
      delta_generation := ⟨fun _ => hd.generation, fun _ => rfl⟩
      declared := fun _ => rfl
      backend := hd.backend }

/-! ## The journal -/

theorem mem_appendJournal {entry : JournalEntry} (h : e ∈ (appendJournal s entry).journal) :
    e ∈ s.journal ∨ e = entry := by
  unfold appendJournal at h
  split at h
  · rcases List.mem_append.1 h with h | h
    · exact .inl (List.mem_of_mem_drop h)
    · exact .inr (List.mem_singleton.1 h)
  · rcases List.mem_append.1 h with h | h
    · exact .inl h
    · exact .inr (List.mem_singleton.1 h)

theorem accumulateAll_journal (s : State) (o : Observation) :
    (accumulateAll s o).journal = s.journal := by
  unfold accumulateAll
  induction AggregateDimension.all generalizing s with
  | nil => rfl
  | cons d ds ih => exact ih _

theorem mem_applyEvidence {r : AttributionResult} {record : StaleEvidenceRecord}
    (h : e ∈ (applyEvidence s o r record).journal) : e ∈ s.journal ∨ e.observation = o := by
  have hstart : (if countsAsCurrentEvidence r.outcome then s else recordStale s record).journal =
      s.journal := by split <;> rfl
  have happend {s' : State} (hs : s'.journal = s.journal)
      (h : e ∈ (appendJournal s' ⟨o, r.outcome, r.locality, r.localityEstablished⟩).journal) :
      e ∈ s.journal ∨ e.observation = o := by
    rcases mem_appendJournal h with h | rfl
    · exact .inl (hs ▸ h)
    · exact .inr rfl
  unfold applyEvidence applyObservation at h
  dsimp only at h
  have hcounted {s' : State} (hs : s'.journal = s.journal) :
      (if countsAsCurrentEvidence r.outcome then accumulateAll s' o else s').journal =
        s.journal := by
    split
    · exact (accumulateAll_journal s' o).trans hs
    · exact hs
  split at h
  · exact happend (hcounted hstart) h
  · split at h
    · rw [sampleRegion_journal] at h
      exact happend (hcounted hstart) h
    · exact happend (hcounted hstart) h

theorem Action.Yields.cases (h : a.Yields o) :
    (∃ o₀ now late acceptedEpoch, a = .ingest o₀ now ∧ o = { o₀ with late, acceptedEpoch }) ∨
      ∃ c now s delta, a = .ingestCounter c now ∧ o = derivedObservation s c delta := by
  unfold Action.Yields at h
  split at h
  · obtain ⟨late, acceptedEpoch, h⟩ := h
    exact .inl ⟨_, _, late, acceptedEpoch, rfl, h⟩
  · obtain ⟨s, delta, h⟩ := h
    exact .inr ⟨_, _, s, delta, rfl, h⟩
  · exact h.elim

theorem admitted_of_applies (h : (act s (.ingest o now)).1.applies = true) :
    ∃ p, Admitted s o p := by
  by_contra hnone
  have hturned := ingestLocked_refused (not_exists.1 hnone) now
  change (ingestLocked s o now).1.disposition.isAccepted = true at h
  cases hd : (ingestLocked s o now).1
  rw [hd] at h hturned
  cases hturned <;> cases h

/-- A delta is produced by accepted samples only. -/
theorem accepted_of_producedDelta (hp : AdmittedCounter s c p) {outcome : CounterOutcome}
    (h : (ingestCounter s c now).1 = .ok outcome) (hdelta : outcome.producedDelta = true) :
    outcome.accepted = true := by
  rw [ingestCounter_admitted hp] at h
  obtain ⟨hduplicate, hrejected, hfull, hsampled⟩ := counterAccounted_answer s p c now
  rcases hd : (accountSequence p c.sequence (counterHash c)).disposition with _ | _ | _ | _
  case duplicate =>
    obtain rfl := Except.ok.inj ((hduplicate hd).symm.trans h)
    cases hdelta
  case rejected =>
    obtain ⟨e, he, -⟩ := hrejected hd
    rw [he] at h
    cases h
  all_goals
    have hfresh : (accountSequence p c.sequence (counterHash c)).disposition.isAccepted = true := by
      rw [hd]; rfl
    by_cases hroom : HasRoom s c ∧ FitsWidth c
    · obtain ⟨outcome', heq, haccepted, -⟩ := hsampled hfresh hroom.1 hroom.2
      obtain rfl := Except.ok.inj (heq.symm.trans h)
      exact haccepted
    · obtain ⟨e, he, -⟩ := hfull hfresh hroom
      rw [he] at h
      cases h

theorem admittedCounter_of_applies (h : (act s (.ingestCounter c now)).1.applies = true) :
    (∃ p, AdmittedCounter s c p) ∧
      (counterDelta ((previousCounter s c).describe c) c).1 ≠ 0 := by
  change (Answer.counter (ingestCounter s c now).1).applies = true at h
  cases hanswer : (ingestCounter s c now).1 with
  | error e => rw [hanswer] at h; cases h
  | ok outcome =>
    rw [hanswer] at h
    obtain ⟨p, hp⟩ : ∃ p, AdmittedCounter s c p := by
      by_contra hnone
      obtain ⟨e, he, -⟩ := ingestCounter_refused (not_exists.1 hnone) now
      rw [hanswer] at he
      cases he
    have haccepted := accepted_of_producedDelta hp hanswer h
    refine ⟨⟨p, hp⟩, ?_⟩
    cases metered_ingestCounter s c now with
    | refused _ hnot => exact absurd haccepted (by simp [hnot outcome hanswer])
    | wide _ _ hnot => exact absurd haccepted (by simp [hnot outcome hanswer])
    | sampled _ hresult _ =>
      obtain rfl := Except.ok.inj (hanswer.symm.trans hresult)
      exact of_decide_eq_true h

/-- What a step adds to the journal comes from what it was given, and was admitted. -/
theorem act_journal (h : e ∈ (act s a).2.journal) :
    e ∈ s.journal ∨
      (∃ o now p late acceptedEpoch, a = .ingest o now ∧ Admitted s o p ∧
        e.observation = { o with late, acceptedEpoch }) ∨
      ∃ c now p s₁ delta, a = .ingestCounter c now ∧ AdmittedCounter s c p ∧
        (counterDelta ((previousCounter s c).describe c) c).1 ≠ 0 ∧
        e.observation = derivedObservation s₁ c delta := by
  have hkept {s' : State} (hevidence : s'.evidence = s.evidence) (h : e ∈ s'.journal) :
      e ∈ s.journal := by
    have hjournal : s'.journal = s.journal := congrArg Evidence.journal hevidence
    rwa [hjournal] at h
  cases act_evidence s a with
  | quiet hevidence => exact .inl (hkept hevidence h)
  | load path data options clock staged ha hstate => rw [hstate] at h; cases h
  | apply s₁ o record honly hevidence _ hyields hstate happlied =>
    rw [hstate] at h
    rcases mem_applyEvidence h with h | rfl
    · exact .inl (hkept hevidence h)
    have happlies : (act s a).1.applies = true := by
      by_contra hnot
      rw [applied, if_neg hnot] at happlied
      cases happlied
    rcases hyields.cases with ⟨o₀, now, late, acceptedEpoch, rfl, ho⟩ | ⟨c, now, s₂, delta, rfl, ho⟩
    · obtain ⟨p, hp⟩ := admitted_of_applies happlies
      exact .inr (.inl ⟨o₀, now, p, late, acceptedEpoch, rfl, hp, ho⟩)
    · obtain ⟨⟨p, hp⟩, hdelta⟩ := admittedCounter_of_applies happlies
      exact .inr (.inr ⟨c, now, p, s₂, delta, rfl, hp, hdelta, ho⟩)

/-! ## Runs -/

/-- Whatever the step derives an observation from has what the observation needs. -/
def DerivesValid (s : State) (a : Action) : Prop :=
  ∀ c now, a = .ingestCounter c now →
    (counterDelta ((previousCounter s c).describe c) c).1 ≠ 0 → c.Derivable

/-- What is journaled would pass the checks of an observation. -/
def State.ValidJournal (s : State) : Prop := ∀ e ∈ s.journal, e.observation.Valid

theorem derived_valid_iff (hs : s.Sound) (hp : AdmittedCounter s c p) (s₁ : State) (delta : UInt64) :
    (derivedObservation s₁ c delta).Valid ↔ c.Derivable := by
  have hbinding : s.binding c.publisher = some p.binding := by rw [State.binding, hp.publisher]; rfl
  exact derivedObservation_valid_iff (validateCounterPublication_eq_ok.1 hp.valid) hp.granularity
    (hs.bindings _ _ hbinding).token s₁ delta

theorem Observation.Valid.accept (h : o.Valid) (late : Bool) (acceptedEpoch : ObservationEpoch) :
    { o with late, acceptedEpoch }.Valid := by
  obtain ⟨⟩ := h
  constructor <;> assumption

theorem act_validJournal (hs : s.Sound) (h : s.ValidJournal) (ha : DerivesValid s a) :
    (act s a).2.ValidJournal := by
  intro e he
  rcases act_journal he with he | ⟨o, now, p, late, acceptedEpoch, -, hp, heq⟩ |
    ⟨c, now, p, s₁, delta, rfl, hp, hdelta, heq⟩
  · exact h e he
  · rw [heq]
    exact (validateObservationStructure_eq_ok.1 hp.valid).accept late acceptedEpoch
  · rw [heq, derived_valid_iff hs hp]
    exact ha c now rfl hdelta

theorem validJournal_initial (options : ObservatoryOptions) (start : Nanos) :
    (State.initial options start).ValidJournal := by
  intro e he
  simp [State.initial] at he

/-- Every observation in the journal is a valid one, as long as the counters derive valid ones; and
    the one derived from a sample is valid exactly if the sample has what it needs. -/
theorem journal_valid (options : ObservatoryOptions) (start : Nanos) (l : List Action) :
    (Run.Along act DerivesValid (State.initial options start) l →
      ∀ e ∈ (Run.final act (State.initial options start) l).journal,
        validateObservationStructure e.observation = .ok ()) ∧
      ∀ c now e, applied (Run.final act (State.initial options start) l) (.ingestCounter c now) =
        some e → (validateObservationStructure e.observation = .ok () ↔ c.Derivable) := by
  constructor
  · intro hrun e he
    have h := Run.final_invariant (I := fun s => s.Sound ∧ s.ValidJournal)
      (fun s a h ha => ⟨act_sound h.1 a, act_validJournal h.1 h.2 ha⟩)
      ⟨sound_initial options start, validJournal_initial options start⟩ hrun
    exact validateObservationStructure_eq_ok.2 (h.2 e he)
  · intro c now e happlied
    have hs := final_sound (sound_initial options start) l
    generalize Run.final act (State.initial options start) l = s at hs happlied
    have happlies : (act s (.ingestCounter c now)).1.applies = true := by
      by_contra hnot
      rw [applied, if_neg hnot] at happlied
      cases happlied
    obtain ⟨⟨p, hp⟩, -⟩ := admittedCounter_of_applies happlies
    rw [validateObservationStructure_eq_ok]
    cases act_evidence s (.ingestCounter c now) with
    | quiet _ hnone => rw [hnone] at happlied; cases happlied
    | load _ _ _ _ _ ha => cases ha
    | apply s₁ o record _ _ _ hyields _ hsome =>
      obtain rfl := Option.some.inj (hsome.symm.trans happlied)
      obtain ⟨s₂, delta, rfl⟩ := hyields
      exact derived_valid_iff hs hp s₂ delta

theorem derivable_reading (kind : CounterKind) (bits : UInt32) {sequence : UInt64}
    (hid : fnv1aU64 (fnv1aStr fnv1aInit (ascii "c")) sequence ≠ 0) (value : UInt64) :
    (reading kind bits sequence value).Derivable :=
  ⟨hid, nofun, nofun, nofun, nofun, nofun, (by decide : (1 : UInt64) ≠ 0),
    fun h => absurd h (by decide : EventType.RemoteRead ≠ .UnknownCoherenceEvent)⟩

/-- Two samples derive one observation, which is valid. -/
theorem journal_valid_readings :
    let s := Run.final act (State.initial {} 0)
      (readingRun [reading .Absolute 64 1 10, reading .Absolute 64 2 25])
    s.journal.length = 1 ∧
      ∀ e ∈ s.journal, validateObservationStructure e.observation = .ok () := by
  intro s
  refine ⟨by decide +kernel, ?_⟩
  refine (journal_valid {} 0
    (readingRun [reading .Absolute 64 1 10, reading .Absolute 64 2 25])).1 ?_
  refine ⟨fun c now h => (nomatch h), fun c now h _ => ?_, fun c now h _ => ?_, trivial⟩
  · cases h
    exact derivable_reading _ _ (by decide +kernel) _
  · cases h
    exact derivable_reading _ _ (by decide +kernel) _

/-- A sample of a counter of generation zero derives an observation that no one could publish. -/
theorem zeroGeneration_journaled :
    let unnumbered (sequence value : UInt64) :=
      { reading .Absolute 64 sequence value with generation := 0 }
    let s := Run.final act (State.initial {} 0) (readingRun [unnumbered 1 10, unnumbered 2 25])
    (s.journal.map fun e => validateObservationStructure e.observation) =
      [.error (failWith .invalidArgument
        "counter-derived evidence requires a non-zero counter generation")] := by
  decide +kernel

end CoherenceObservatory
