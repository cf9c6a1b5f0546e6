import CoherenceObservatory.Observation

/-!
# Records of the runtime

The structural records (nodes, processors, accelerators, domains, regions,
topology, capabilities), the cost model, the view of a publisher registration and
the outcomes of the public operations. A `double` of the cost model is its IEEE 754
bit pattern, which is all that validation and persistence look at.
-/

namespace CoherenceObservatory

/-! ## Structural records -/

/-- A machine. -/
structure NodeRecord where
  id : NodeId := []
  displayName : Text := []
  registeredAtNs : Nanos := 0

/-- A processor, and the memory next to it. -/
structure ProcessorRecord where
  id : ProcessorId := []
  node : NodeId := []
  generation : DeviceGeneration := 0
  logicalProcessorCount : UInt32 := 0
  physicalCoreCount : UInt32 := 0
  numaNodeIndex : UInt32 := 0
  numaNodeIndexKnown : Bool := false
  localMemoryDomain : MemoryDomainId := []
  retired : Bool := false
  registeredAtNs : Nanos := 0

/-- An accelerator, and the memory next to it. -/
structure AcceleratorRecord where
  id : AcceleratorId := []
  node : NodeId := []
  generation : DeviceGeneration := 0
  vendor : Text := []
  vendorUuid : Text := []
  localMemoryDomain : MemoryDomainId := []
  peerCoherentCapable : Bool := false
  peerCoherentCapabilityKnown : Bool := false
  retired : Bool := false
  registeredAtNs : Nanos := 0

/-- Memory of one kind, and the domain that keeps it coherent. -/
structure MemoryDomainRecord where
  id : MemoryDomainId := []
  generation : MemoryDomainGeneration := 0
  node : NodeId := []
  kind : MemoryDomainKind := ⟨0⟩
  coherenceDomain : CoherenceDomainId := []
  coherentWithHost : Bool := false
  coherentWithHostKnown : Bool := false
  capacityBytes : UInt64 := 0
  capacityKnown : Bool := false
  retired : Bool := false
  registeredAtNs : Nanos := 0

/-- Agents that see one coherent memory. -/
structure CoherenceDomainRecord where
  id : CoherenceDomainId := []
  generation : CoherenceDomainGeneration := 0
  protocolFamily : Text := []
  members : List ResourceRef := []
  retired : Bool := false
  registeredAtNs : Nanos := 0

/-- A piece of memory under observation. -/
structure RegionRecord where
  id : MemoryRegionId := []
  generation : MemoryRegionGeneration := 0
  opaqueHandle : UInt64 := 0
  owner : Text := []
  memoryDomain : MemoryDomainId := []
  memoryDomainGeneration : MemoryDomainGeneration := 0
  coherenceDomain : CoherenceDomainId := []
  sharingScope : SharingScope := ⟨0⟩
  sizeBytes : UInt64 := 0
  sizeKnown : Bool := false
  pageSizeBytes : UInt64 := 0
  pageSizeKnown : Bool := false
  allocationGeneration : UInt64 := 0
  mappingGeneration : UInt64 := 0
  workload : WorkloadId := []
  annotationText : Text := []
  retired : Bool := false
  registeredAtNs : Nanos := 0
  retiredAtNs : Nanos := 0
  loadedFromState : Bool := false

/-- A link between two resources, with its locality. -/
structure TopologyLink where
  source : ResourceRef := {}
  target : ResourceRef := {}
  locality : Locality := .Unknown
  latencyNs : Int64 := -1
  bandwidthBytesPerSecond : UInt64 := 0
  provenance : Provenance := .Unknown

/-- The links of one generation. -/
structure TopologyRecord where
  generation : TopologyGeneration := 0
  links : List TopologyLink := []
  createdAtNs : Nanos := 0
  loadedFromState : Bool := false

/-- What a backend can observe. -/
structure Capability where
  key : Text := []
  status : CapabilityStatus := .Unsupported
  detail : Text := []
  mechanism : Text := []

/-! ## Cost model -/

/-- An IEEE 754 binary64 number, as its bits. -/
structure F64 where
  bits : UInt64
  deriving DecidableEq

namespace F64

/-- The bits without the sign. -/
def magnitude (v : F64) : Nat := v.bits.toNat % 2 ^ 63

/-- Exponent all ones and a nonzero fraction. -/
def isNaN (v : F64) : Bool := v.magnitude > 0x7FF0000000000000

/-- Numbers that are not NaN are ordered as these integers; both zeros are 0. -/
def key (v : F64) : Int := if v.bits.toNat ≥ 2 ^ 63 then -(v.magnitude : Int) else v.magnitude

/-- `finite_within` for a positive bound. -/
def finiteWithin (v bound : F64) : Bool :=
  !v.isNaN && v.key ≤ bound.key && v.key ≥ -bound.key

end F64

/-- What an event of a kind is taken to cost. -/
structure CostModel where
  id : Text := ascii "unset"
  version : UInt32 := 0
  defined : Bool := false
  remoteReadLatencyNs : F64 := ⟨0⟩
  remoteWriteLatencyNs : F64 := ⟨0⟩
  invalidationLatencyNs : F64 := ⟨0⟩
  ownershipTransferLatencyNs : F64 := ⟨0⟩
  retryLatencyNs : F64 := ⟨0⟩
  conflictStallNs : F64 := ⟨0⟩
  bandwidthBytesPerNs : F64 := ⟨0⟩
  cxlMultiplier : F64 := ⟨0x3ff0000000000000⟩
  pooledMultiplier : F64 := ⟨0x3ff0000000000000⟩
  remoteNodeMultiplier : F64 := ⟨0x3ff0000000000000⟩

/-- `validate_coefficient` with the lower bound zero that every caller passes. -/
def validateCoefficient (name : String) (value upper : F64) : Status :=
  failIf (¬value.finiteWithin upper ∨ value.key < 0)
    ⟨.outOfRange, ascii "cost coefficient out of range: " ++ ascii name, []⟩

namespace CostModel

/-- `1.0e12`, the bound of the latencies. -/
def maxLatency : F64 := ⟨0x426d1a94a2000000⟩

/-- `1.0e9`, the bound of the bandwidth. -/
def maxBandwidth : F64 := ⟨0x41cdcd6500000000⟩

/-- `1.0e6`, the bound of the multipliers. -/
def maxMultiplier : F64 := ⟨0x412e848000000000⟩

/-- `CostModel::validate`. -/
def validate (m : CostModel) : Status := do
  failIf (m.id = []) (failWith .invalidArgument "cost model id must not be empty")
  failIf (m.id.length > 96) (failWith .tooLarge "cost model id too long")
  validateCoefficient "remote_read_latency_ns" m.remoteReadLatencyNs maxLatency
  validateCoefficient "remote_write_latency_ns" m.remoteWriteLatencyNs maxLatency
  validateCoefficient "invalidation_latency_ns" m.invalidationLatencyNs maxLatency
  validateCoefficient "ownership_transfer_latency_ns" m.ownershipTransferLatencyNs maxLatency
  validateCoefficient "retry_latency_ns" m.retryLatencyNs maxLatency
  validateCoefficient "conflict_stall_ns" m.conflictStallNs maxLatency
  validateCoefficient "bandwidth_bytes_per_ns" m.bandwidthBytesPerNs maxBandwidth
  validateCoefficient "cxl_multiplier" m.cxlMultiplier maxMultiplier
  validateCoefficient "pooled_multiplier" m.pooledMultiplier maxMultiplier
  validateCoefficient "remote_node_multiplier" m.remoteNodeMultiplier maxMultiplier
  failIf (m.version = 0) (failWith .invalidArgument "cost model version must be non-zero")

end CostModel

/-- `default_cost_model`: 180, 220, 90, 240, 400, 600, 12, 1.8, 2.1 and 3. -/
def defaultCostModel : CostModel where
  id := ascii "generic-numa-latency"
  version := 1
  defined := true
  remoteReadLatencyNs := ⟨0x4066800000000000⟩
  remoteWriteLatencyNs := ⟨0x406b800000000000⟩
  invalidationLatencyNs := ⟨0x4056800000000000⟩
  ownershipTransferLatencyNs := ⟨0x406e000000000000⟩
  retryLatencyNs := ⟨0x4079000000000000⟩
  conflictStallNs := ⟨0x4082c00000000000⟩
  bandwidthBytesPerNs := ⟨0x4028000000000000⟩
  cxlMultiplier := ⟨0x3ffccccccccccccd⟩
  pooledMultiplier := ⟨0x4000cccccccccccd⟩
  remoteNodeMultiplier := ⟨0x4008000000000000⟩

/-- The default model passes its own validation. -/
theorem defaultCostModel_validate : defaultCostModel.validate = .ok () := by decide +kernel

/-! ## Publishers -/

/-- Why a boot identity lost authority. -/
inductive FenceReason
  | notFenced | connectionClosed | administrative | livenessDeadline | coordinatorRestart
  | supersededByNewBoot
  deriving DecidableEq

def FenceReason.toText : FenceReason → Text
  | notFenced => ascii "NOT_FENCED"
  | connectionClosed => ascii "CONNECTION_CLOSED"
  | administrative => ascii "ADMINISTRATIVE"
  | livenessDeadline => ascii "LIVENESS_DEADLINE"
  | coordinatorRestart => ascii "COORDINATOR_RESTART"
  | supersededByNewBoot => ascii "SUPERSEDED_BY_NEW_BOOT"

/-- The byte a reason is stored as. -/
def FenceReason.raw : FenceReason → UInt8
  | notFenced => 0
  | connectionClosed => 1
  | administrative => 2
  | livenessDeadline => 3
  | coordinatorRestart => 4
  | supersededByNewBoot => 5

/-- The reason with a given byte. -/
def FenceReason.ofRaw : UInt8 → Option FenceReason
  | 0 => some notFenced
  | 1 => some connectionClosed
  | 2 => some administrative
  | 3 => some livenessDeadline
  | 4 => some coordinatorRestart
  | 5 => some supersededByNewBoot
  | _ => none

theorem FenceReason.ofRaw_raw (reason : FenceReason) : ofRaw reason.raw = some reason := by
  cases reason <;> rfl

/-- Sequence accounting of one publisher boot. -/
structure SequenceState where
  highWatermark : EventSequence := 0
  nextExpected : EventSequence := 0
  accepted : UInt64 := 0
  duplicates : UInt64 := 0
  conflictingDuplicates : UInt64 := 0
  lateEvents : UInt64 := 0
  missingEvents : UInt64 := 0
  rejectedStale : UInt64 := 0
  counterResets : UInt64 := 0
  counterWraps : UInt64 := 0
  sequenceGaps : UInt64 := 0

/-- A publisher as callers see it. -/
structure PublisherView where
  id : PublisherId := []
  boot : PublisherBootId := 0
  observer : ObserverId := []
  node : NodeId := []
  displayName : Text := []
  provenance : Provenance := .Unknown
  reality : Reality := .real
  registeredEpoch : CoordinatorEpoch := 0
  evidenceGeneration : EvidenceGeneration := 0
  samplingEpoch : SamplingEpoch := 0
  registeredAtNs : Nanos := 0
  lastSeenNs : Nanos := 0
  current : Bool := false
  fenced : Bool := false
  fenceReason : FenceReason := .notFenced
  fenceDetail : Text := []
  loadedFromState : Bool := false
  sequences : SequenceState := {}
  acceptedEvents : UInt64 := 0
  acceptedBatches : UInt64 := 0
  acceptedCounters : UInt64 := 0
  rejectedEvents : UInt64 := 0

/-- A request to register one boot of a publisher. Epoch zero means any epoch. -/
structure PublisherRegistration where
  id : PublisherId := []
  boot : PublisherBootId := 0
  observer : ObserverId := []
  node : NodeId := []
  displayName : Text := []
  coordinatorEpoch : CoordinatorEpoch := 0
  evidenceGeneration : EvidenceGeneration := 1
  samplingEpoch : SamplingEpoch := 1
  provenance : Provenance := .SyntheticBackend

/-- Why evidence is not current. -/
inductive StaleKind
  | staleGeneration | retiredRegion | topologySuperseded | staleBoot | staleEpoch
  | staleSequence | fencedPublisher
  deriving DecidableEq

/-- Evidence that is not current, and why. -/
structure StaleEvidenceRecord where
  kind : StaleKind := .staleGeneration
  eventId : CoherenceEventId := 0
  publisher : PublisherId := []
  publisherBoot : PublisherBootId := 0
  region : MemoryRegionId := []
  eventType : EventType := .UnknownCoherenceEvent
  observedAtNs : Nanos := 0
  detail : Text := []

/-- Evidence that was offered or held and lost. -/
structure LossReport where
  rejectedObservations : UInt64 := 0
  rejectedDuplicates : UInt64 := 0
  rejectedConflictingDuplicates : UInt64 := 0
  rejectedStaleSequences : UInt64 := 0
  rejectedUnauthorized : UInt64 := 0
  rejectedMalformed : UInt64 := 0
  rejectedOverflow : UInt64 := 0
  droppedAggregateUpdates : UInt64 := 0
  droppedJournalEntries : UInt64 := 0
  droppedRegionSamples : UInt64 := 0
  evictedHistoryRecords : UInt64 := 0
  missingSequences : UInt64 := 0
  backpressureRejections : UInt64 := 0

/-! ## Outcomes -/

/-- What became of a publication. -/
inductive IngestionDisposition
  | accepted | acceptedLate | duplicate | rejected
  deriving DecidableEq

/-- How well evidence could be attributed. -/
inductive AttributionOutcome
  | attributedExact | attributedPartial | attributedAggregateOnly | ambiguous | unattributed
  | staleEvidence | unsupported
  deriving DecidableEq

/-- The answer to one publication. -/
structure IngestionOutcome where
  disposition : IngestionDisposition := .rejected
  code : ErrorCode := .ok
  detail : Text := []
  counted : Bool := false
  missingSequences : UInt64 := 0
  attribution : AttributionOutcome := .unattributed
  attributionReason : Text := []

/-- The answer to a batch. -/
structure BatchOutcome where
  accepted : UInt64 := 0
  acceptedLate : UInt64 := 0
  duplicates : UInt64 := 0
  rejected : UInt64 := 0
  missingSequences : UInt64 := 0
  perEvent : List IngestionOutcome := []

/-- The answer to a counter sample. -/
structure CounterOutcome where
  accepted : Bool := false
  code : ErrorCode := .ok
  detail : Text := []
  producedDelta : Bool := false
  delta : UInt64 := 0
  discontinuity : Bool := false
  discontinuityReason : Text := []

/-- The answer of `reconcile`. -/
structure ReconcileReport where
  coordinatorEpoch : CoordinatorEpoch := 0
  observationEpoch : ObservationEpoch := 0
  publishersMarkedStale : UInt64 := 0
  evidenceGenerationsRetired : UInt64 := 0
  staleRecords : UInt64 := 0
  findingsInvalidated : UInt64 := 0

end CoherenceObservatory
