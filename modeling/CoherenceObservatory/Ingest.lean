import CoherenceObservatory.Attribution
import CoherenceObservatory.Publisher

/-!
# Ingestion

Observations, batches and counters share one sequence space per publisher boot.
`accountSequence` decides what a sequence number means for a boot, `commitSequence` records
it, and the rest of ingestion follows from the decision. What ingestion can do to the
authority of publishers is summed up in `CoherenceObservatory.Authority`.
-/

namespace CoherenceObservatory

open Std Limits

/-! ## Sequence accounting -/

/-- What `account_sequence` decides. -/
structure SequenceDecision where
  disposition : IngestionDisposition := .rejected
  code : ErrorCode := .ok
  detail : Text := []
  missing : UInt64 := 0
  mutate : Bool := false

/-- The retention window as a sequence distance. -/
def sequenceWindow : UInt64 := 4096

/-- `account_sequence`. -/
def accountSequence (p : PublisherState) (sequence contentHash : UInt64) : SequenceDecision :=
  if ¬p.hasWatermark then { disposition := .accepted, mutate := true }
  else if p.durableWatermark ∧ sequence ≤ p.highWatermark then
    { disposition := .rejected
      code := .staleSequence
      detail := ascii "sequence at or below the durable replay watermark" }
  else if sequence > p.highWatermark then
    let missing := sequence - p.highWatermark - 1
    { disposition := .accepted
      missing
      mutate := true
      detail := if missing ≠ 0 then ascii "sequence gap of " ++ formatU64 missing else [] }
  else
    match p.window.entries[sequence]? with
    | some seen =>
      if seen = contentHash then
        { disposition := .duplicate, code := .duplicate, detail := ascii "duplicate observation" }
      else
        { disposition := .rejected
          code := .conflict
          detail := ascii "conflicting duplicate: same sequence, different content" }
    | none =>
      if p.highWatermark ≥ sequenceWindow ∧ sequence ≤ p.highWatermark - sequenceWindow then
        { disposition := .rejected
          code := .staleSequence
          detail := ascii "sequence below the retention window" }
      else { disposition := .acceptedLate, mutate := true }

/-- `commit_sequence`. -/
def commitSequence (p : PublisherState) (sequence contentHash : UInt64) : PublisherState :=
  { p with
    highWatermark :=
      if ¬p.hasWatermark ∨ sequence > p.highWatermark then sequence else p.highWatermark
    hasWatermark := true
    window := p.window.push sequence contentHash }

/-- `commit_event_id`. -/
def commitEventId (p : PublisherState) (eventId contentHash : UInt64) : PublisherState :=
  { p with recentEventIds := p.recentEventIds.push eventId contentHash }

/-- The tallies that follow a committed sequence. -/
def SequenceState.commit (q : SequenceState) (d : SequenceDecision) (high : UInt64) :
    SequenceState :=
  { q with
    lateEvents := if d.disposition = .acceptedLate then q.lateEvents + 1 else q.lateEvents
    missingEvents := q.missingEvents + d.missing
    sequenceGaps := if d.missing ≠ 0 then q.sequenceGaps + 1 else q.sequenceGaps
    accepted := q.accepted + 1
    highWatermark := high
    nextExpected := high + 1 }

/-- The state after a publisher entry and the loss report were updated. -/
def State.setPublisher (s : State) (id : PublisherId) (p : PublisherState) (loss : LossReport) :
    State :=
  { s with publishers := s.publishers.insert id p, loss }

/-! ## Observations -/

/-- `to_string`. -/
def AttributionOutcome.toText : AttributionOutcome → Text
  | .attributedExact => ascii "ATTRIBUTED_EXACT"
  | .attributedPartial => ascii "ATTRIBUTED_PARTIAL"
  | .attributedAggregateOnly => ascii "ATTRIBUTED_AGGREGATE_ONLY"
  | .ambiguous => ascii "AMBIGUOUS"
  | .unattributed => ascii "UNATTRIBUTED"
  | .staleEvidence => ascii "STALE_EVIDENCE"
  | .unsupported => ascii "UNSUPPORTED"

/-- The reason an outcome is reported with. -/
def firstReason (a : AttributionResult) : Text := a.reasons.headD (ascii "no reason")

/-- The stale record of an accepted observation whose evidence is not current. -/
def staleRecordOf (o : Observation) (a : AttributionResult) : StaleEvidenceRecord :=
  let detail := ascii "attribution outcome " ++ a.outcome.toText ++ ascii " (" ++ firstReason a ++
    ascii ")"
  { eventId := o.eventId
    publisher := o.sourcePublisher
    publisherBoot := o.publisherBoot
    eventType := o.type
    observedAtNs := o.timestampNs
    region := o.region.getD []
    kind :=
      if a.outcome = .staleEvidence then
        if ascii "stale.region_retired" ∈ a.reasons then .retiredRegion
        else if ascii "stale.topology_generation" ∈ a.reasons then .topologySuperseded
        else if ascii "stale.region_generation" ∈ a.reasons then .staleGeneration
        else .staleBoot
      else .staleGeneration
    detail := if a.outcome = .staleEvidence then detail
      else ascii "unsupported observability claim: " ++ detail }

/-- The evidence of an accepted observation is recorded as stale or applied. -/
def applyEvidence (s : State) (o : Observation) (a : AttributionResult)
    (record : StaleEvidenceRecord) : State :=
  let s := if countsAsCurrentEvidence a.outcome then s else recordStale s record
  applyObservation s o a.outcome a.locality a.localityEstablished

/-- A rejection before any accounting. -/
def rejectAs (code : ErrorCode) (detail : Text) : IngestionOutcome :=
  { disposition := .rejected, code, detail }

/-- One more rejection for want of authority. -/
def State.unauthorized (s : State) : State :=
  { s with loss := { s.loss with rejectedUnauthorized := s.loss.rejectedUnauthorized + 1 } }

/-- One more malformed publication. -/
def State.malformed (s : State) : State :=
  { s with loss := { s.loss with rejectedMalformed := s.loss.rejectedMalformed + 1 } }

/-- The publisher after an accepted observation. -/
def acceptObservation (p : PublisherState) (o : Observation) (hash : UInt64)
    (d : SequenceDecision) (now : Nanos) : PublisherState :=
  let p := commitEventId (commitSequence p o.sequence hash) o.eventId hash
  { p with
    view := { p.view with
      sequences := p.view.sequences.commit d p.highWatermark
      acceptedEvents := p.view.acceptedEvents + 1
      lastSeenNs := now } }

/-- The part of `ingest_locked` after a sequence was accounted as new. -/
def ingestAccepted (s : State) (p : PublisherState) (o : Observation) (hash : UInt64)
    (d : SequenceDecision) (now : Nanos) : IngestionOutcome × State :=
  let s := s.setPublisher o.sourcePublisher (acceptObservation p o hash d now)
    { s.loss with missingSequences := s.loss.missingSequences + d.missing }
  let o := { o with
    late := o.late || d.disposition == .acceptedLate
    acceptedEpoch := s.observationEpoch }
  let a := attributeObservation s o
  ({ disposition := d.disposition
     code := .ok
     detail := d.detail
     missingSequences := d.missing
     attribution := a.outcome
     attributionReason := a.reasons.headD []
     counted := countsAsCurrentEvidence a.outcome },
   applyEvidence s o a (staleRecordOf o a))

/-- The part of `ingest_locked` for a publisher with authority. -/
def ingestAccounted (s : State) (p : PublisherState) (o : Observation) (now : Nanos) :
    IngestionOutcome × State :=
  let hash := o.contentHash
  let d := accountSequence p o.sequence hash
  let q := p.view.sequences
  if d.mutate ∧ p.recentEventIds.entries[o.eventId]?.any (· ≠ hash) then
    (rejectAs .conflict (ascii "conflicting duplicate: same event id, different content"),
     s.setPublisher o.sourcePublisher
       { p with view := { p.view with
           sequences := { q with conflictingDuplicates := q.conflictingDuplicates + 1 }
           rejectedEvents := p.view.rejectedEvents + 1 } }
       { s.loss with
         rejectedConflictingDuplicates := s.loss.rejectedConflictingDuplicates + 1 })
  else
    match d.disposition with
    | .duplicate =>
      ({ disposition := .duplicate, code := .duplicate, detail := d.detail },
       s.setPublisher o.sourcePublisher
         { p with view := { p.view with sequences := { q with duplicates := q.duplicates + 1 } } }
         { s.loss with rejectedDuplicates := s.loss.rejectedDuplicates + 1 })
    | .rejected =>
      (rejectAs d.code d.detail,
       if d.code = .staleSequence then
         s.setPublisher o.sourcePublisher
           { p with view := { p.view with
               sequences := { q with rejectedStale := q.rejectedStale + 1 }
               rejectedEvents := p.view.rejectedEvents + 1 } }
           { s.loss with rejectedStaleSequences := s.loss.rejectedStaleSequences + 1 }
       else
         s.setPublisher o.sourcePublisher
           { p with view := { p.view with
               sequences := { q with conflictingDuplicates := q.conflictingDuplicates + 1 }
               rejectedEvents := p.view.rejectedEvents + 1 } }
           { s.loss with
             rejectedConflictingDuplicates := s.loss.rejectedConflictingDuplicates + 1 })
    | .accepted => ingestAccepted s p o hash d now
    | .acceptedLate => ingestAccepted s p o hash d now

/-- `ingest_locked`. -/
def ingestLocked (s : State) (o : Observation) (now : Nanos) : IngestionOutcome × State :=
  match validateObservationStructure o with
  | .error e => (rejectAs e.code e.describe, s.malformed)
  | .ok () =>
    match s.publishers[o.sourcePublisher]? with
    | none => (rejectAs .unauthorized (ascii "unknown publisher"), s.unauthorized)
    | some p =>
      if p.view.boot ≠ o.publisherBoot then
        (rejectAs .staleBoot (ascii "superseded publisher boot"), s.unauthorized)
      else if o.coordinatorEpoch ≠ s.coordinatorEpoch then
        (rejectAs .staleEpoch (ascii "stale coordinator epoch"), s.unauthorized)
      else if ¬(p.view.current ∧ ¬p.view.fenced) ∧ s.options.enforceCurrentPublisher then
        (rejectAs .staleBoot (ascii "publisher boot is not current"), s.unauthorized)
      else ingestAccounted s p o now

/-! ## Batches -/

/-- The elements of a batch, one `ingest` each. -/
def ingestEach (clock : Nat → Nanos) : State → List Observation → List IngestionOutcome × State
  | s, [] => ([], s)
  | s, o :: os =>
    let (outcome, s) := ingestLocked s o (clock os.length)
    let (outcomes, s) := ingestEach clock s os
    (outcome :: outcomes, s)

/-- How many outcomes have a disposition. -/
def tally (outcomes : List IngestionOutcome) (d : IngestionDisposition) : UInt64 :=
  UInt64.ofNat (outcomes.countP fun o => o.disposition = d)

/-- The first part of `ingest_batch`: a batch is admitted as a whole or refused. -/
def admitBatch (s : State) (count : Nat) : Status × State :=
  if count = 0 then (.error (failWith .invalidArgument "empty batch"), s)
  else if count > maxBatchEvents then
    (.error (failWith .tooLarge "batch exceeds the maximum event count" (formatNat count)), s)
  else if s.pendingIngestion + count > s.options.maxPendingIngestion then
    (.error (failWith .capacity "ingestion capacity reached; batch rejected"
        (formatNat s.pendingIngestion)),
     { s with loss := { s.loss with
        backpressureRejections := s.loss.backpressureRejections + UInt64.ofNat count } })
  else (.ok (), { s with pendingIngestion := s.pendingIngestion + count })

/-- The last part of `ingest_batch`. -/
def finishBatch (s : State) (count : Nat) : State :=
  { s with pendingIngestion := s.pendingIngestion - count }

/-- What a batch reports of its elements. -/
def BatchOutcome.ofEach (outcomes : List IngestionOutcome) : BatchOutcome where
  accepted := tally outcomes .accepted
  acceptedLate := tally outcomes .acceptedLate
  duplicates := tally outcomes .duplicate
  rejected := tally outcomes .rejected
  missingSequences := (outcomes.map IngestionOutcome.missingSequences).sum
  perEvent := outcomes

/-- `ingest_batch`. -/
def ingestBatch (s : State) (os : List Observation) (clock : Nat → Nanos) :
    Except Error BatchOutcome × State :=
  match admitBatch s os.length with
  | (.error e, s) => (.error e, s)
  | (.ok (), s) =>
    let (outcomes, s) := ingestEach clock s os
    (.ok (.ofEach outcomes), finishBatch s os.length)

/-! ## Counters -/

/-- The hash a counter sample is accounted under. -/
def counterHash (c : CounterPublication) : UInt64 :=
  fnv1aStr (fnv1aStr fnv1aInit c.counter) (formatU64 c.rawValue)

/-- The publisher after a committed counter sample. -/
def acceptCounter (p : PublisherState) (c : CounterPublication) (d : SequenceDecision)
    (now : Nanos) : PublisherState :=
  let p := commitSequence p c.sequence (counterHash c)
  { p with
    view := { p.view with
      sequences := p.view.sequences.commit d p.highWatermark
      acceptedCounters := p.view.acceptedCounters + 1
      lastSeenNs := now } }

/-- A counter whose descriptor or generation differs from what its samples had. -/
def identityChanged (k : CounterState) (c : CounterPublication) : Bool :=
  k.samples != 0 && (k.generation != c.generation || k.kind != c.kind || k.scope != c.scope ||
    k.widthBits != c.widthBits || k.mappedType != c.mappedType)

/-- The counter under the descriptor of a publication. -/
def CounterState.describe (k : CounterState) (c : CounterPublication) : CounterState :=
  let changed := identityChanged k c
  { k with
    accumulated := if changed then 0 else k.accumulated
    hasLast := k.hasLast && !changed
    saturated := k.saturated && !changed
    kind := c.kind
    scope := c.scope
    widthBits := c.widthBits
    generation := c.generation
    bytesPerUnit := c.bytesPerUnit
    mappedType := c.mappedType
    provenance := c.provenance
    granularity := c.granularity
    source := c.source
    target := c.target
    region := c.region
    regionGeneration := c.regionGeneration
    workload := c.workload
    topologyGeneration := c.topologyGeneration }

/-- The largest value of a counter of this width. -/
def widthMax (bits : UInt32) : UInt64 :=
  if bits ≥ 64 then UInt64.ofNat (2 ^ 64 - 1) else ((1 : UInt64) <<< bits.toUInt64) - 1

/-- What a sample means relative to the one before it. -/
inductive CounterStep
  | advance | wrap | reset
  deriving DecidableEq

/-- The delta of a sample. A decrease is a wrap or a reset, never negative traffic. -/
def counterDelta (k : CounterState) (c : CounterPublication) : UInt64 × CounterStep :=
  if c.kind = .Delta then (c.rawValue, .advance)
  else if c.kind = .Sampled then (0, .advance)
  else if ¬k.hasLast then (0, .advance)
  else if c.rawValue ≥ k.lastRaw then (c.rawValue - k.lastRaw, .advance)
  else if c.kind = .Wrapping ∧ c.widthBits < 64 ∧ k.lastRaw - c.rawValue > widthMax c.widthBits / 2
  then ((widthMax c.widthBits - k.lastRaw) + c.rawValue + 1, .wrap)
  else (0, .reset)

/-- The counter after a sample with its delta. -/
def CounterState.sample (k : CounterState) (c : CounterPublication) (delta : UInt64)
    (step : CounterStep) : CounterState :=
  let accumulated := checkedAdd k.accumulated delta
  { k with
    wraps := if step = .wrap then k.wraps + 1 else k.wraps
    resets := if step = .reset then k.resets + 1 else k.resets
    hasLast := true
    lastRaw := c.rawValue
    samples := k.samples + 1
    firstNs := if k.hasTime then k.firstNs else c.timestampNs
    hasTime := true
    lastNs := c.timestampNs
    accumulated := accumulated.1
    saturated := k.saturated || accumulated.2 }

/-- The publisher's tallies of counter discontinuities. -/
def PublisherState.countDiscontinuity (p : PublisherState) (resets wraps : UInt64) :
    PublisherState :=
  { p with view := { p.view with sequences := { p.view.sequences with
    counterResets := p.view.sequences.counterResets + resets
    counterWraps := p.view.sequences.counterWraps + wraps } } }

/-- The direction implied by the event class a counter measures. -/
def counterDirection (type : EventType) : AccessDirection :=
  if type = .RemoteRead ∨ type = .SharedRead ∨ type = .DirectoryLookup then .Read
  else if type = .RemoteWrite ∨ type = .Writeback ∨ type = .WriteExclusiveTransition then .Write
  else if type = .RemoteAtomic then .Atomic
  else .None

/-- `checked_mul` clamped to the largest byte count. -/
def scaledBytes (delta bytesPerUnit : UInt64) : UInt64 :=
  if delta.toNat * bytesPerUnit.toNat > maxByteCount.toNat then maxByteCount
  else delta * bytesPerUnit

/-- The observation a nonzero delta becomes. -/
def derivedObservation (s : State) (c : CounterPublication) (delta : UInt64) : Observation where
  eventId := fnv1aU64 (fnv1aStr fnv1aInit c.counter) c.sequence
  type := c.mappedType
  sourcePublisher := c.publisher
  publisherBoot := c.publisherBoot
  coordinatorEpoch := s.coordinatorEpoch
  samplingEpoch := c.samplingEpoch
  evidenceGeneration := c.evidenceGeneration
  sequence := c.sequence
  timestampNs := c.timestampNs
  source := c.source
  target := c.target
  region := c.region
  regionGeneration := c.regionGeneration
  topologyGeneration := c.topologyGeneration
  workload := c.workload
  direction := counterDirection c.mappedType
  counterDelta := some delta
  counterGeneration := c.generation
  bytes := scaledBytes delta c.bytesPerUnit
  precision := .ExactCounterDelta
  granularity := c.granularity
  provenance := c.provenance
  metadata := c.metadata
  acceptedEpoch := s.observationEpoch

/-- The stale record of counter evidence that is not current. -/
def staleCounterRecord (o : Observation) (a : AttributionResult) : StaleEvidenceRecord where
  kind := .staleGeneration
  eventId := o.eventId
  publisher := o.sourcePublisher
  publisherBoot := o.publisherBoot
  eventType := o.type
  observedAtNs := o.timestampNs
  region := o.region.getD []
  detail := ascii "counter-derived evidence not current: " ++ firstReason a

/-- The part of `ingest_counter` after the sequence was committed and a slot found. -/
def sampleCounter (s : State) (p : PublisherState) (c : CounterPublication) :
    Except Error CounterOutcome × State :=
  let key : CounterKey := ⟨c.publisher, c.publisherBoot, c.counter⟩
  let old := s.counters[key]?.getD {}
  let changed := identityChanged old c
  let counter := old.describe c
  let p := if changed then p.countDiscontinuity 1 0 else p
  if c.kind ≠ .Delta ∧ c.kind ≠ .Sampled ∧ c.rawValue > widthMax c.widthBits then
    (.error (failWith .outOfRange "counter value exceeds its declared width"),
     { s.setPublisher c.publisher p s.loss with
       counters := s.counters.insert key counter }.malformed)
  else
    let (delta, step) := counterDelta counter c
    let p := p.countDiscontinuity (if step = .reset then 1 else 0) (if step = .wrap then 1 else 0)
    let s := { s.setPublisher c.publisher p s.loss with
      counters := s.counters.insert key (counter.sample c delta step) }
    let outcome : CounterOutcome :=
      { accepted := true
        delta
        producedDelta := delta ≠ 0
        discontinuity := changed || step != .advance
        discontinuityReason := match step with
          | .wrap => ascii "counter wrapped"
          | .reset => ascii "counter reset"
          | .advance => if changed then ascii "counter generation or descriptor changed" else [] }
    if delta = 0 then (.ok outcome, s)
    else
      let o := derivedObservation s c delta
      let a := attributeObservation s o
      (.ok outcome, applyEvidence s o a (staleCounterRecord o a))

/-- The part of `ingest_counter` for a publisher with authority. -/
def counterAccounted (s : State) (p : PublisherState) (c : CounterPublication) (now : Nanos) :
    Except Error CounterOutcome × State :=
  let d := accountSequence p c.sequence (counterHash c)
  let q := p.view.sequences
  match d.disposition with
  | .duplicate =>
    (.ok { detail := ascii "duplicate counter sample" },
     s.setPublisher c.publisher
       { p with view := { p.view with sequences := { q with duplicates := q.duplicates + 1 } } }
       { s.loss with rejectedDuplicates := s.loss.rejectedDuplicates + 1 })
  | .rejected =>
    (.error ⟨d.code, d.detail, []⟩,
     s.setPublisher c.publisher
       { p with view := { p.view with rejectedEvents := p.view.rejectedEvents + 1 } }
       (if d.code = .staleSequence
        then { s.loss with rejectedStaleSequences := s.loss.rejectedStaleSequences + 1 }
        else { s.loss with
          rejectedConflictingDuplicates := s.loss.rejectedConflictingDuplicates + 1 }))
  | _ =>
    let p := acceptCounter p c d now
    let s := s.setPublisher c.publisher p
      { s.loss with missingSequences := s.loss.missingSequences + d.missing }
    if ⟨c.publisher, c.publisherBoot, c.counter⟩ ∉ s.counters ∧
        s.counters.size ≥ maxCounterRecords then
      (.error (failWith .capacity "counter capacity reached"),
       { s with loss := { s.loss with rejectedOverflow := s.loss.rejectedOverflow + 1 } })
    else sampleCounter s p c

/-- `ingest_counter`. -/
def ingestCounter (s : State) (c : CounterPublication) (now : Nanos) :
    Except Error CounterOutcome × State :=
  match validateCounterPublication c with
  | .error e => (.error e, s.malformed)
  | .ok () =>
    if c.granularity = .Unknown then
      (.error (failWith .invalidArgument
        "a counter publication must state its evidence granularity"), s.malformed)
    else
      match s.publishers[c.publisher]? with
      | none => (.error (failWith .unauthorized "unknown publisher"), s.unauthorized)
      | some p =>
        if p.view.boot ≠ c.publisherBoot then
          (.error (failWith .staleBoot "superseded publisher boot"), s.unauthorized)
        else if c.coordinatorEpoch ≠ s.coordinatorEpoch then
          (.error (failWith .staleEpoch "stale coordinator epoch"), s.unauthorized)
        else if ¬p.view.current ∨ p.view.fenced then
          (.error (failWith .staleBoot "publisher boot is not current"), s.unauthorized)
        else counterAccounted s p c now

end CoherenceObservatory
