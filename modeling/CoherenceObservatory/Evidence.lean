import CoherenceObservatory.Attribution.Sections
import CoherenceObservatory.Observatory

/-!
# What a step does to the evidence

Evidence enters the state through `applyEvidence` only: an accepted observation, or the
observation a counter sample turns into, is attributed and then applied. No other step
but a load touches the aggregates, the journal or the samples of regions.
-/

namespace CoherenceObservatory

open Std

/-- The stores of evidence, with the tallies of what they had to drop. -/
structure Evidence where
  aggregates : AggregateStore
  journal : List JournalEntry
  regionEvidence : ExtTreeMap Text RegionEvidence
  regionEvidenceOrder : List Text
  droppedAggregateUpdates : UInt64
  droppedJournalEntries : UInt64
  droppedRegionSamples : UInt64

/-- The evidence of a state. -/
def State.evidence (s : State) : Evidence where
  aggregates := s.aggregates
  journal := s.journal
  regionEvidence := s.regionEvidence
  regionEvidenceOrder := s.regionEvidenceOrder
  droppedAggregateUpdates := s.loss.droppedAggregateUpdates
  droppedJournalEntries := s.loss.droppedJournalEntries
  droppedRegionSamples := s.loss.droppedRegionSamples

/-- Whether an answer says that an observation was applied. -/
def Answer.applies : Answer → Bool
  | .ingested outcome => outcome.disposition.isAccepted
  | .counter (.ok outcome) => outcome.producedDelta
  | _ => false

/-- The observation a step applied, as it stands in the journal. -/
def applied (s : State) (a : Action) : Option JournalEntry :=
  if (act s a).1.applies then (act s a).2.journal.getLast? else none

/-- The observation a step applied as current evidence. -/
def counted (s : State) (a : Action) : Option Observation :=
  (applied s a).bind fun e => if countsAsCurrentEvidence e.outcome then some e.observation else none

/-- The observation `o` comes from what the step was given. -/
def Action.Yields : Action → Observation → Prop
  | .ingest o _, o' => ∃ late acceptedEpoch, o' = { o with late, acceptedEpoch }
  | .ingestCounter c _, o' => ∃ s delta, o' = derivedObservation s c delta
  | _, _ => False

/-- The effect of a step on the evidence. -/
inductive EvidenceStep (s : State) (a : Action) (s' : State) : Prop
  /-- No evidence is taken. -/
  | quiet (evidence_eq : s'.evidence = s.evidence) (applied_eq : applied s a = none)
  /-- An observation is attributed and applied once its sequence was accounted for. -/
  | apply (s₁ : State) (o : Observation) (record : StaleEvidenceRecord) (only : IngestOnly s s₁)
      (evidence_eq : s₁.evidence = s.evidence) (registered : o.sourcePublisher ∈ s₁.publishers)
      (yields : a.Yields o)
      (state_eq : s' = applyEvidence s₁ o (attributeObservation s₁ o) record)
      (applied_eq : applied s a = some ⟨o, (attributeObservation s₁ o).outcome,
        (attributeObservation s₁ o).locality, (attributeObservation s₁ o).localityEstablished⟩)
  /-- A file is loaded. -/
  | load (path : Text) (data : List UInt8) (options : PersistenceOptions) (clock : Nat → Nanos)
      (staged : StagedState) (a_eq : a = .load path (some data) options clock)
      (state_eq : s' = recover s staged clock)

/-! ## Applying an observation -/

theorem getLast?_appendJournal (s : State) (entry : JournalEntry) :
    (appendJournal s entry).journal.getLast? = some entry := by
  unfold appendJournal
  split <;> simp

theorem sampleRegion_journal (s : State) (key : Text) (o : Observation) :
    (sampleRegion s key o).journal = s.journal := by
  unfold sampleRegion trackRegion
  dsimp only
  split <;> rfl

theorem getLast?_applyObservation (s : State) (o : Observation) (outcome : AttributionOutcome)
    (locality : Locality) (established : Bool) :
    (applyObservation s o outcome locality established).journal.getLast? =
      some ⟨o, outcome, locality, established⟩ := by
  unfold applyObservation
  dsimp only
  split
  · exact getLast?_appendJournal _ _
  · split
    · rw [sampleRegion_journal]
      exact getLast?_appendJournal _ _
    · exact getLast?_appendJournal _ _

theorem getLast?_applyEvidence (s : State) (o : Observation) (r : AttributionResult)
    (record : StaleEvidenceRecord) :
    (applyEvidence s o r record).journal.getLast? =
      some ⟨o, r.outcome, r.locality, r.localityEstablished⟩ :=
  getLast?_applyObservation _ _ _ _ _

/-! ## What ingestion does -/

/-- An observation with the property `P` is attributed and applied after some accounting. -/
def AppliesOne (s s' : State) (P : Observation → Prop) : Prop :=
  ∃ s₁ o record, IngestOnly s s₁ ∧ s₁.evidence = s.evidence ∧
    o.sourcePublisher ∈ s₁.publishers ∧ P o ∧
    s' = applyEvidence s₁ o (attributeObservation s₁ o) record

theorem ingestAccepted_applies (s : State) (p : PublisherState) (o : Observation) (hash : UInt64)
    (d : SequenceDecision) (now : Nanos) :
    AppliesOne s (ingestAccepted s p o hash d now).2 fun o' =>
      ∃ late acceptedEpoch, o' = { o with late, acceptedEpoch } :=
  ⟨s.setPublisher o.sourcePublisher (acceptObservation p o hash d now)
      { s.loss with missingSequences := s.loss.missingSequences + d.missing },
    { o with
      late := o.late || d.disposition == .acceptedLate
      acceptedEpoch := s.observationEpoch },
    _, ⟨_, _, _, _, _, _, _, _, rfl⟩, rfl, ExtTreeMap.mem_insert_self, ⟨_, _, rfl⟩, rfl⟩

theorem ingestAccounted_evidence (s : State) (p : PublisherState) (o : Observation) (now : Nanos) :
    ((ingestAccounted s p o now).1.disposition.isAccepted = false ∧
        (ingestAccounted s p o now).2.evidence = s.evidence) ∨
      ((ingestAccounted s p o now).1.disposition.isAccepted = true ∧
        AppliesOne s (ingestAccounted s p o now).2 fun o' =>
          ∃ late acceptedEpoch, o' = { o with late, acceptedEpoch }) := by
  unfold ingestAccounted
  dsimp only
  split
  · exact .inl ⟨rfl, rfl⟩
  split
  · exact .inl ⟨rfl, rfl⟩
  · refine .inl ⟨rfl, ?_⟩
    split <;> rfl
  all_goals
    next hd =>
    refine .inr ⟨?_, ingestAccepted_applies s p o _ _ now⟩
    change (accountSequence p o.sequence o.contentHash).disposition.isAccepted = true
    rw [hd]
    rfl

theorem ingestLocked_evidence (s : State) (o : Observation) (now : Nanos) :
    ((ingestLocked s o now).1.disposition.isAccepted = false ∧
        (ingestLocked s o now).2.evidence = s.evidence) ∨
      ((ingestLocked s o now).1.disposition.isAccepted = true ∧
        AppliesOne s (ingestLocked s o now).2 fun o' =>
          ∃ late acceptedEpoch, o' = { o with late, acceptedEpoch }) := by
  unfold ingestLocked
  iterate 5
    split
    · exact .inl ⟨rfl, rfl⟩
  · exact ingestAccounted_evidence s _ o now

theorem sampleCounter_evidence (s : State) (p : PublisherState) (c : CounterPublication) :
    ((Answer.counter (sampleCounter s p c).1).applies = false ∧
        (sampleCounter s p c).2.evidence = s.evidence) ∨
      ((Answer.counter (sampleCounter s p c).1).applies = true ∧
        AppliesOne s (sampleCounter s p c).2 fun o' => ∃ s delta, o' = derivedObservation s c delta) := by
  unfold sampleCounter
  dsimp only
  split
  · exact .inl ⟨rfl, rfl⟩
  split
  next hdelta => exact .inl ⟨by simp [Answer.applies, hdelta], rfl⟩
  next hdelta =>
    refine .inr ⟨by simp [Answer.applies, hdelta], _, _, _, ?_, ?_, ?_, ?_, rfl⟩
    · exact ⟨_, _, _, _, _, _, _, _, rfl⟩
    · rfl
    · exact ExtTreeMap.mem_insert_self
    · exact ⟨_, _, rfl⟩

theorem counterAccounted_evidence (s : State) (p : PublisherState) (c : CounterPublication)
    (now : Nanos) :
    ((Answer.counter (counterAccounted s p c now).1).applies = false ∧
        (counterAccounted s p c now).2.evidence = s.evidence) ∨
      ((Answer.counter (counterAccounted s p c now).1).applies = true ∧
        AppliesOne s (counterAccounted s p c now).2 fun o' =>
          ∃ s delta, o' = derivedObservation s c delta) := by
  unfold counterAccounted
  dsimp only
  split
  · exact .inl ⟨rfl, rfl⟩
  · refine .inl ⟨rfl, ?_⟩
    dsimp only [State.evidence, State.setPublisher]
    split <;> rfl
  split
  · exact .inl ⟨rfl, rfl⟩
  · rcases sampleCounter_evidence (s.setPublisher c.publisher
        (acceptCounter p c (accountSequence p c.sequence (counterHash c)) now)
        { s.loss with missingSequences := s.loss.missingSequences +
          (accountSequence p c.sequence (counterHash c)).missing })
        (acceptCounter p c (accountSequence p c.sequence (counterHash c)) now) c with
      h | ⟨happlies, s₁, o₁, record, honly, h⟩
    · exact .inl h
    · exact .inr ⟨happlies, s₁, o₁, record,
        IngestOnly.trans ⟨_, _, _, _, _, _, _, _, rfl⟩ honly, h⟩

theorem ingestCounter_evidence (s : State) (c : CounterPublication) (now : Nanos) :
    ((Answer.counter (ingestCounter s c now).1).applies = false ∧
        (ingestCounter s c now).2.evidence = s.evidence) ∨
      ((Answer.counter (ingestCounter s c now).1).applies = true ∧
        AppliesOne s (ingestCounter s c now).2 fun o' =>
          ∃ s delta, o' = derivedObservation s c delta) := by
  unfold ingestCounter
  iterate 6
    split
    · exact .inl ⟨rfl, rfl⟩
  · exact counterAccounted_evidence s _ c now

/-! ## What a step does -/

/-- What a step can do to the evidence. -/
theorem act_evidence (s : State) (a : Action) : EvidenceStep s a (act s a).2 := by
  have hquiet {s' : State} (h : s'.evidence = s.evidence) (ha : (act s a).1.applies = false) :
      EvidenceStep s a s' := .quiet h (by rw [applied, ha]; rfl)
  have happly {s' : State} (hs : (act s a).2 = s') (ha : (act s a).1.applies = true)
      (h : AppliesOne s s' a.Yields) : EvidenceStep s a s' := by
    obtain ⟨s₁, o, record, honly, hevidence, hregistered, hyields, hstate⟩ := h
    refine .apply s₁ o record honly hevidence hregistered hyields hstate ?_
    rw [applied, if_pos ha, hs, hstate]
    exact getLast?_applyEvidence _ _ _ _
  cases a with
  | registerNode | registerProcessor | registerAccelerator | registerMemoryDomain
  | registerCoherenceDomain | registerRegion | setTopologyLink | setCapability | setCostModel
  | retireRegion | bumpTopologyGeneration =>
    exact hquiet (act_of_describes State.evidence rfl rfl) rfl
  | registerPublisher | fencePublisherBoot | reconcile =>
    exact hquiet (act_of_binds State.evidence rfl) rfl
  | finishBatch | snapshot | save => exact hquiet rfl rfl
  | admitBatch count =>
    refine hquiet ?_ rfl
    simp only [act, Prod.map, id, admitBatch]
    split_ifs <;> rfl
  | ingest o now =>
    rcases ingestLocked_evidence s o now with ⟨hrefused, h⟩ | ⟨haccepted, h⟩
    · exact hquiet h hrefused
    · exact happly rfl haccepted h
  | ingestCounter c now =>
    rcases ingestCounter_evidence s c now with ⟨hrefused, h⟩ | ⟨haccepted, h⟩
    · exact hquiet h hrefused
    · exact happly rfl haccepted h
  | load path file options clock =>
    rw [act, loadState]
    split
    next hread => exact hquiet rfl (by rw [act, loadState, hread]; rfl)
    next data hread =>
    obtain rfl := readFileBounded_eq_ok hread
    split
    next hparse => exact hquiet rfl (by simp only [act, loadState, hread, hparse]; rfl)
    next staged hparse => exact .load path data options clock staged rfl rfl

/-! ## What applying an observation does to each store -/

section

variable (s : State) (o : Observation) (r : AttributionResult) (record : StaleEvidenceRecord)

/-- The journal and the samples are written after the aggregates. -/
theorem applyObservation_aggregates (outcome : AttributionOutcome) (locality : Locality)
    (established : Bool) :
    (applyObservation s o outcome locality established).aggregates =
        (if countsAsCurrentEvidence outcome then accumulateAll s o else s).aggregates ∧
      (applyObservation s o outcome locality established).loss.droppedAggregateUpdates =
        (if countsAsCurrentEvidence outcome then accumulateAll s o
          else s).loss.droppedAggregateUpdates := by
  have hjournal (s : State) (entry : JournalEntry) :
      (appendJournal s entry).aggregates = s.aggregates ∧
        (appendJournal s entry).loss.droppedAggregateUpdates = s.loss.droppedAggregateUpdates := by
    unfold appendJournal
    split <;> exact ⟨rfl, rfl⟩
  have hsample (s : State) (key : Text) :
      (sampleRegion s key o).aggregates = s.aggregates ∧
        (sampleRegion s key o).loss.droppedAggregateUpdates =
          s.loss.droppedAggregateUpdates := by
    unfold sampleRegion trackRegion
    dsimp only
    constructor
    · split <;> rfl
    · split_ifs <;> rfl
  unfold applyObservation
  dsimp only
  split
  · exact hjournal _ _
  · split
    · rw [(hsample _ _).1, (hsample _ _).2]
      exact hjournal _ _
    · exact hjournal _ _

theorem applyEvidence_aggregates_of_counts (h : countsAsCurrentEvidence r.outcome = true) :
    (applyEvidence s o r record).aggregates = (accumulateAll s o).aggregates ∧
      (applyEvidence s o r record).loss.droppedAggregateUpdates =
        (accumulateAll s o).loss.droppedAggregateUpdates := by
  have happly := applyObservation_aggregates s o r.outcome r.locality r.localityEstablished
  rw [if_pos h] at happly
  unfold applyEvidence
  dsimp only
  rw [if_pos h]
  exact happly

theorem applyEvidence_aggregates_of_not_counts (h : countsAsCurrentEvidence r.outcome = false) :
    (applyEvidence s o r record).aggregates = s.aggregates ∧
      (applyEvidence s o r record).loss.droppedAggregateUpdates =
        s.loss.droppedAggregateUpdates := by
  have hnot : ¬countsAsCurrentEvidence r.outcome = true := by simp [h]
  have happly := applyObservation_aggregates (recordStale s record) o r.outcome r.locality
    r.localityEstablished
  rw [if_neg hnot] at happly
  unfold applyEvidence
  dsimp only
  rw [if_neg hnot]
  exact happly

end

/-- A step that is not a load leaves the aggregates alone, or enters one observation. -/
theorem act_aggregates (s : State) {a : Action} (h : a.loads = false) :
    (counted s a = none ∧ (act s a).2.aggregates = s.aggregates ∧
        (act s a).2.loss.droppedAggregateUpdates = s.loss.droppedAggregateUpdates) ∨
      ∃ o s₁, counted s a = some o ∧ IngestOnly s s₁ ∧ IngestOnly s₁ (act s a).2 ∧
        s₁.aggregates = s.aggregates ∧
        s₁.loss.droppedAggregateUpdates = s.loss.droppedAggregateUpdates ∧
        (act s a).2.aggregates = (accumulateAll s₁ o).aggregates ∧
        (act s a).2.loss.droppedAggregateUpdates =
          (accumulateAll s₁ o).loss.droppedAggregateUpdates := by
  cases act_evidence s a with
  | quiet hevidence happlied =>
    refine .inl ⟨by rw [counted, happlied]; rfl, ?_, ?_⟩
    · exact congrArg Evidence.aggregates hevidence
    · exact congrArg Evidence.droppedAggregateUpdates hevidence
  | apply s₁ o record honly hevidence _ hyields hstate happlied =>
    have haggregates := congrArg Evidence.aggregates hevidence
    have hdropped := congrArg Evidence.droppedAggregateUpdates hevidence
    cases hcounts : countsAsCurrentEvidence (attributeObservation s₁ o).outcome with
    | true =>
      refine .inr ⟨o, s₁, ?_, honly, ?_, haggregates, hdropped, ?_⟩
      · rw [counted, happlied, Option.bind_some, if_pos hcounts]
      · rw [hstate]
        exact applyEvidence_ingestOnly _ _ _ _
      · rw [hstate]
        exact applyEvidence_aggregates_of_counts s₁ o _ record hcounts
    | false =>
      left
      obtain ⟨hsame, hsame'⟩ := applyEvidence_aggregates_of_not_counts s₁ o
        (attributeObservation s₁ o) record hcounts
      refine ⟨?_, ?_, ?_⟩
      · rw [counted, happlied, Option.bind_some, if_neg (by simp [hcounts])]
      · rw [hstate, hsame]
        exact haggregates
      · rw [hstate, hsame']
        exact hdropped
  | load _ _ _ _ _ ha => rw [ha] at h; exact nomatch h

end CoherenceObservatory
