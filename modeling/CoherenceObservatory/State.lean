import CoherenceObservatory.Aggregate
import CoherenceObservatory.Lib.Fifo

/-!
# The runtime state

The authoritative state of one observatory and the helpers that apply evidence to it. A
`std::map` is an extensional tree map, a deque a list with its front at the head. The two
pairs of a map and an eviction queue kept per publisher are `BoundedFifo`s.
-/

namespace CoherenceObservatory

open Std Limits

/-! ## Parts of the state -/

/-- Bookkeeping of one publisher boot. -/
structure PublisherState where
  view : PublisherView := {}
  hasWatermark : Bool := false
  highWatermark : UInt64 := 0
  durableWatermark : Bool := false
  window : BoundedFifo UInt64 UInt64 maxSequenceWindow := .empty
  recentEventIds : BoundedFifo UInt64 UInt64 maxRecentEventIds := .empty
  bootIncarnations : UInt64 := 1

/-- The replay watermark kept for a boot that is no longer current. -/
structure PublisherWatermark where
  publisher : PublisherId := []
  boot : PublisherBootId := 0
  highWatermark : UInt64 := 0
  hasWatermark : Bool := false
  fenceReason : FenceReason := .notFenced
  fenced : Bool := false
  bootIncarnations : UInt64 := 1
  lastSeenNs : Nanos := 0

/-- What identifies a counter. -/
structure CounterKey where
  publisher : Text
  boot : UInt64
  counter : Text
  deriving DecidableEq

namespace CounterKey

/-- Field by field. -/
def cmp : CounterKey → CounterKey → Ordering :=
  compareLex (compareOn CounterKey.publisher)
    (compareLex (compareOn CounterKey.boot) (compareOn CounterKey.counter))

instance : Ord CounterKey := ⟨cmp⟩

instance : TransOrd CounterKey := inferInstanceAs (TransCmp (compareLex _ _))

instance : LawfulEqOrd CounterKey where
  eq_of_compare {a b} h := by
    have h' : cmp a b = .eq := h
    rw [cmp, compareLex_eq_eq, compareLex_eq_eq] at h'
    obtain ⟨h1, h2, h3⟩ := h'
    cases a
    cases b
    simp only [compareOn, LawfulEqOrd.compare_eq_iff_eq] at h1 h2 h3
    rw [h1, h2, h3]

end CounterKey

/-- Continuity state of one counter. -/
structure CounterState where
  kind : CounterKind := .Absolute
  scope : CounterScope := .Unknown
  widthBits : UInt32 := 64
  generation : CounterGeneration := 0
  bytesPerUnit : UInt64 := 0
  mappedType : EventType := .UnknownCoherenceEvent
  hasLast : Bool := false
  lastRaw : UInt64 := 0
  accumulated : UInt64 := 0
  saturated : Bool := false
  samples : UInt64 := 0
  resets : UInt64 := 0
  wraps : UInt64 := 0
  hasTime : Bool := false
  firstNs : Nanos := 0
  lastNs : Nanos := 0
  provenance : Provenance := .Unknown
  granularity : EvidenceGranularity := .Unknown
  source : Option ResourceRef := none
  target : Option ResourceRef := none
  region : Option MemoryRegionId := none
  regionGeneration : Option MemoryRegionGeneration := none
  workload : Option WorkloadId := none
  topologyGeneration : TopologyGeneration := 0

/-- An observation and what was made of it. -/
structure JournalEntry where
  observation : Observation
  outcome : AttributionOutcome
  locality : Locality
  localityEstablished : Bool

/-- What is kept of an observation for its region. -/
structure OwnershipSample where
  eventId : CoherenceEventId
  sequence : EventSequence
  timestampNs : Nanos
  source : ResourceRef
  target : ResourceRef
  type : EventType
  before : CoherenceState
  after : CoherenceState
  direction : AccessDirection
  precision : Precision
  provenance : Provenance
  granularity : EvidenceGranularity
  publisher : PublisherId
  publisherBoot : PublisherBootId
  regionGeneration : MemoryRegionGeneration
  lineIndex : Text

/-- The latest samples of a region. -/
structure RegionEvidence where
  samples : List OwnershipSample := []
  relevantTotal : UInt64 := 0
  evicted : UInt64 := 0
  lastUpdateNs : Nanos := 0

/-- Evidence restored from a file; never current. -/
structure HistoricalEvidence where
  region : MemoryRegionId := []
  eventType : EventType := .UnknownCoherenceEvent
  observations : UInt64 := 0
  bytes : UInt64 := 0
  lastTimestampNs : Nanos := 0
  precision : Precision := .Unknown
  provenance : Provenance := .Unknown
  sourceCoordinatorEpoch : UInt64 := 0

/-- `AttributionPolicy`. -/
structure AttributionPolicy where
  requireCurrentCoordinatorEpoch : Bool := true
  requireCurrentPublisher : Bool := true
  requireCurrentTopology : Bool := true
  requireCurrentRegionGeneration : Bool := true
  deriveLocalityFromTopology : Bool := true

/-- The options the modelled operations read. -/
structure ObservatoryOptions where
  observerId : ObserverId := []
  nodeId : NodeId := []
  displayName : Text := []
  initialCoordinatorEpoch : CoordinatorEpoch := 1
  costModel : CostModel := defaultCostModel
  attributionPolicy : AttributionPolicy := {}
  timeBucketNs : Int64 := 1000000000
  maxPendingIngestion : Nat := Limits.maxPendingIngestion
  enforceCurrentPublisher : Bool := true

/-! ## The state -/

/-- The state of the observatory, under its lock. -/
structure State where
  options : ObservatoryOptions := {}
  coordinatorEpoch : CoordinatorEpoch := 1
  observationEpoch : ObservationEpoch := 1
  topologyGeneration : TopologyGeneration := 1
  snapshotGeneration : UInt64 := 1
  evidenceGeneration : EvidenceGeneration := 1
  nodes : ExtTreeMap Text NodeRecord := ∅
  processors : ExtTreeMap Text ProcessorRecord := ∅
  accelerators : ExtTreeMap Text AcceleratorRecord := ∅
  memoryDomains : ExtTreeMap Text MemoryDomainRecord := ∅
  coherenceDomains : ExtTreeMap Text CoherenceDomainRecord := ∅
  regions : ExtTreeMap Text RegionRecord := ∅
  topology : TopologyRecord := {}
  publishers : ExtTreeMap Text PublisherState := ∅
  counters : ExtTreeMap CounterKey CounterState := ∅
  watermarks : ExtTreeMap Text PublisherWatermark := ∅
  aggregates : AggregateStore := {}
  historicalAggregates : AggregateStore := {}
  journal : List JournalEntry := []
  regionEvidence : ExtTreeMap Text RegionEvidence := ∅
  regionEvidenceOrder : List Text := []
  stale : List StaleEvidenceRecord := []
  capabilities : ExtTreeMap Text Capability := ∅
  history : List HistoricalEvidence := []
  historicalObservationCount : UInt64 := 0
  historySourceEpoch : CoordinatorEpoch := 0
  loss : LossReport := {}
  startedAtNs : Nanos := 0
  pendingIngestion : Nat := 0

/-- `install_default_capabilities`: nothing is claimed to be observable. -/
def defaultCapabilities : List Capability :=
  [⟨ascii "coherence.cache_line_ownership", .Unsupported,
    ascii "no operating-system or vendor interface on this host reports per-cache-line ownership or coherent sharer lists",
    ascii "none"⟩,
   ⟨ascii "coherence.invalidation_counters", .Unsupported,
    ascii "no interface on this host reports coherence invalidation counts; aggregate cache counters do not identify invalidations",
    ascii "none"⟩,
   ⟨ascii "accelerator.coherence_telemetry", .Unsupported,
    ascii "no vendor interface on this host exposes accelerator cache-line ownership or peer-coherence transitions",
    ascii "none"⟩,
   ⟨ascii "memory.cxl_telemetry", .Unsupported,
    ascii "no CXL device or CXL telemetry interface was detected on this host",
    ascii "none"⟩,
   ⟨ascii "memory.pooled_telemetry", .Unsupported,
    ascii "no pooled-memory fabric telemetry interface was detected on this host",
    ascii "none"⟩]

/-- The options after the constructor has filled in what was left open. -/
def ObservatoryOptions.complete (o : ObservatoryOptions) : ObservatoryOptions :=
  { o with
    observerId := if o.observerId = [] then ascii "observer.local" else o.observerId
    nodeId := if o.nodeId = [] then ascii "node.local" else o.nodeId
    initialCoordinatorEpoch :=
      if o.initialCoordinatorEpoch = 0 then 1 else o.initialCoordinatorEpoch
    costModel := if o.costModel.defined then o.costModel else defaultCostModel }

/-- `Observatory::Observatory`: the state of a fresh observatory started at `now`. -/
def State.initial (options : ObservatoryOptions) (now : Nanos) : State :=
  let o := options.complete
  { options := o
    coordinatorEpoch := o.initialCoordinatorEpoch
    startedAtNs := now
    topology := { generation := 1, createdAtNs := now }
    capabilities := defaultCapabilities.foldl (fun m c => m.insert c.key c) ∅
    nodes := (∅ : ExtTreeMap Text NodeRecord).insert o.nodeId
      { id := o.nodeId
        displayName := if o.displayName = [] then o.nodeId else o.displayName
        registeredAtNs := now } }

/-! ## Keys -/

/-- `detail::boot_key`. -/
def bootKey (publisher : PublisherId) (boot : PublisherBootId) : Text :=
  publisher ++ [35] ++ formatU64 boot

/-- The replay table never mixes up two boots. -/
theorem bootKey_injective {p p' : PublisherId} {b b' : PublisherBootId}
    (h : bootKey p b = bootKey p' b') : p = p' ∧ b = b' :=
  append_formatU64_inj (by decide) h

/-- `detail::resource_text`. -/
def resourceText (ref : ResourceRef) : Text :=
  if ref.id = [] then ascii "unknown"
  else ref.kind.toText ++ ascii ":" ++ ref.id ++ ascii "@" ++ formatU64 ref.generation

/-! ## Applying evidence -/

/-- `record_stale`: the oldest record makes room for the newest. -/
def recordStale (s : State) (record : StaleEvidenceRecord) : State :=
  { s with
    stale := (if s.stale.length ≥ maxFindings then s.stale.drop 1 else s.stale) ++
      [{ record with detail := truncate record.detail 240 }] }

/-- `is_region_relevant`. -/
def isRegionRelevant (type : EventType) : Bool :=
  type.isOwnershipEvent || type == .Invalidation || type == .RegionInvalidation ||
    type == .RemoteWrite || type == .RemoteRead || type == .CoherenceConflict ||
    type == .CoherenceRetry || type == .SharedRead || type == .Writeback ||
    type == .SnoopRequest || type == .SnoopResponse || type == .DirectoryLookup ||
    type == .DirectoryMiss || type == .RemoteAtomic || type == .MemoryDomainTransfer

/-- `counts_as_current_evidence`. -/
def countsAsCurrentEvidence : AttributionOutcome → Bool
  | .staleEvidence => false
  | .unsupported => false
  | _ => true

/-- One observation enters the bucket of every dimension; refused updates are losses. -/
def accumulateAll (s : State) (o : Observation) : State :=
  AggregateDimension.all.foldl (fun s d =>
    let key := ⟨d, aggregateValueText o s.options.timeBucketNs d⟩
    let (applied, aggregates) := s.aggregates.accumulate key (contributionOf o)
    { s with
      aggregates
      loss := if applied then s.loss
        else { s.loss with droppedAggregateUpdates := s.loss.droppedAggregateUpdates + 1 } }) s

/-- The journal keeps the latest entries. -/
def appendJournal (s : State) (entry : JournalEntry) : State :=
  if s.journal.length ≥ maxObservationJournal then
    { s with
      journal := s.journal.drop 1 ++ [entry]
      loss := { s.loss with droppedJournalEntries := s.loss.droppedJournalEntries + 1 } }
  else { s with journal := s.journal ++ [entry] }

/-- Drops queued regions until one of them was tracked; the remaining queue, the
tracked regions, and whether one was dropped. -/
def evictRegion (m : ExtTreeMap Text RegionEvidence) :
    List Text → List Text × ExtTreeMap Text RegionEvidence × Bool
  | [] => ([], m, false)
  | victim :: order =>
    if victim ∈ m then (order, m.erase victim, true) else evictRegion m order

/-- The region's evidence becomes tracked, at the cost of the oldest when full. -/
def trackRegion (s : State) (key : Text) : State :=
  if key ∈ s.regionEvidence then s
  else
    let (order, evidence, dropped) :=
      if s.regionEvidence.size ≥ maxTrackedRegions
      then evictRegion s.regionEvidence s.regionEvidenceOrder
      else (s.regionEvidenceOrder, s.regionEvidence, false)
    { s with
      regionEvidence := evidence.insert key {}
      regionEvidenceOrder := order ++ [key]
      loss := if dropped
        then { s.loss with droppedRegionSamples := s.loss.droppedRegionSamples + 1 } else s.loss }

/-- The sample of an observation. -/
def sampleOf (o : Observation) : OwnershipSample where
  eventId := o.eventId
  sequence := o.sequence
  timestampNs := o.timestampNs
  source := o.source.getD {}
  target := o.target.getD {}
  type := o.type
  before := o.stateBefore
  after := o.stateAfter
  direction := o.direction
  precision := o.precision
  provenance := o.provenance
  granularity := o.granularity
  publisher := o.sourcePublisher
  publisherBoot := o.publisherBoot
  regionGeneration := o.regionGeneration.getD 0
  lineIndex := ((o.metadata.entries.find? fun e => e.1 == ascii "line.index").map Prod.snd).getD []

/-- A relevant observation becomes a sample of its region. -/
def sampleRegion (s : State) (key : Text) (o : Observation) : State :=
  let s := trackRegion s key
  let evidence := s.regionEvidence[key]?.getD {}
  let full := evidence.samples.length ≥ maxRegionSamples
  { s with
    regionEvidence := s.regionEvidence.insert key
      { samples := (if full then evidence.samples.drop 1 else evidence.samples) ++ [sampleOf o]
        relevantTotal := evidence.relevantTotal + 1
        evicted := if full then evidence.evicted + 1 else evidence.evicted
        lastUpdateNs := o.timestampNs }
    loss := if full
      then { s.loss with droppedRegionSamples := s.loss.droppedRegionSamples + 1 } else s.loss }

/-- `apply_observation`. -/
def applyObservation (s : State) (o : Observation) (outcome : AttributionOutcome)
    (locality : Locality) (localityEstablished : Bool) : State :=
  let counted := countsAsCurrentEvidence outcome
  let s := if counted then accumulateAll s o else s
  let s := appendJournal s ⟨o, outcome, locality, localityEstablished⟩
  match o.region with
  | none => s
  | some key => if counted && isRegionRelevant o.type then sampleRegion s key o else s

/-! ## What applying evidence leaves alone -/

/-- `s'` differs from `s` at most in the evidence stores and the loss report. -/
def EvidenceOnly (s s' : State) : Prop :=
  ∃ aggregates journal evidence order loss, s' = { s with
    aggregates
    journal
    regionEvidence := evidence
    regionEvidenceOrder := order
    loss }

namespace EvidenceOnly

theorem refl (s : State) : EvidenceOnly s s := ⟨_, _, _, _, _, rfl⟩

theorem trans {s s' s'' : State} (h : EvidenceOnly s s') (h' : EvidenceOnly s' s'') :
    EvidenceOnly s s'' := by
  obtain ⟨a, j, e, o, l, rfl⟩ := h
  obtain ⟨a', j', e', o', l', rfl⟩ := h'
  exact ⟨a', j', e', o', l', rfl⟩

end EvidenceOnly

theorem accumulateAll_evidenceOnly (s : State) (o : Observation) :
    EvidenceOnly s (accumulateAll s o) := by
  unfold accumulateAll
  -- every dimension only touches the aggregates and the loss report
  induction AggregateDimension.all generalizing s with
  | nil => exact .refl s
  | cons d ds ih => exact EvidenceOnly.trans ⟨_, _, _, _, _, rfl⟩ (ih _)

theorem appendJournal_evidenceOnly (s : State) (entry : JournalEntry) :
    EvidenceOnly s (appendJournal s entry) := by
  unfold appendJournal
  split <;> exact ⟨_, _, _, _, _, rfl⟩

theorem sampleRegion_evidenceOnly (s : State) (key : Text) (o : Observation) :
    EvidenceOnly s (sampleRegion s key o) := by
  have htrack : EvidenceOnly s (trackRegion s key) := by
    unfold trackRegion
    split
    · exact .refl s
    · exact ⟨_, _, _, _, _, rfl⟩
  exact htrack.trans ⟨_, _, _, _, _, rfl⟩

/-- Applying an observation leaves everything but the evidence stores and the loss report alone. -/
theorem applyObservation_evidenceOnly (s : State) (o : Observation)
    (outcome : AttributionOutcome) (locality : Locality) (established : Bool) :
    EvidenceOnly s (applyObservation s o outcome locality established) := by
  have hcount : EvidenceOnly s (if countsAsCurrentEvidence outcome then accumulateAll s o else s) := by
    split
    · exact accumulateAll_evidenceOnly s o
    · exact .refl s
  have hjournal := hcount.trans (appendJournal_evidenceOnly _ ⟨o, outcome, locality, established⟩)
  unfold applyObservation
  dsimp only
  split
  · exact hjournal
  · split
    · exact hjournal.trans (sampleRegion_evidenceOnly _ _ _)
    · exact hjournal

end CoherenceObservatory
