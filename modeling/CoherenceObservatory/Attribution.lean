import CoherenceObservatory.Structure

/-!
# Attribution

What subject an observation can be bound to, decided from the state without changing it.
The source returns from the middle of one long function; here each of its sections is a
definition that either stops with a result (`.error`) or hands one on (`.ok`), and
`attributeObservation` chains them in order.
-/

namespace CoherenceObservatory

open Std

/-- What evidence can be attributed to. -/
inductive AttributionTargetKind
  | resource | memoryDomain | coherenceDomain | region | workload | process | topologyEdge
  | localityClass | eventClass
  deriving DecidableEq

/-- One thing that evidence is attributed to, at its generation. -/
structure AttributionTarget where
  kind : AttributionTargetKind
  value : Text
  generation : UInt64
  deriving DecidableEq

/-- The observation an attribution or a finding rests on. -/
structure EvidenceRef where
  eventId : CoherenceEventId
  publisher : PublisherId
  publisherBoot : PublisherBootId
  sequence : EventSequence
  eventType : EventType
  precision : Precision
  provenance : Provenance

/-- The epochs and generations a result was computed under. -/
structure GenerationBindings where
  coordinatorEpoch : CoordinatorEpoch := 0
  observationEpoch : ObservationEpoch := 0
  topologyGeneration : TopologyGeneration := 0
  evidenceGeneration : EvidenceGeneration := 0
  sourceDeviceGeneration : DeviceGeneration := 0
  targetDeviceGeneration : DeviceGeneration := 0
  regionGeneration : MemoryRegionGeneration := 0
  regionGenerationBound : Bool := false
  sourceDomainGeneration : MemoryDomainGeneration := 0

/-- The result of an attribution. Its identifier and its cost are not set here. -/
structure AttributionResult where
  outcome : AttributionOutcome := .unattributed
  eventType : EventType := .UnknownCoherenceEvent
  region : MemoryRegionId := []
  regionGeneration : MemoryRegionGeneration := 0
  reasons : List Text := []
  targets : List AttributionTarget := []
  evidence : List EvidenceRef := []
  precision : Precision := .Unknown
  provenance : Provenance := .Unknown
  reality : Reality := .real
  bindings : GenerationBindings := {}
  candidateCount : UInt64 := 0
  candidates : List Text := []
  locality : Locality := .Unknown
  localityEstablished : Bool := false

namespace AttributionResult

/-- `add_target`: targets are named, bounded in number and kept once. -/
def addTarget (r : AttributionResult) (kind : AttributionTargetKind) (value : Text)
    (generation : UInt64) : AttributionResult :=
  if value = [] ∨ r.targets.length ≥ 16 ∨ ⟨kind, value, generation⟩ ∈ r.targets then r
  else { r with targets := r.targets ++ [⟨kind, value, generation⟩] }

/-- `add_reason`. -/
def addReason (r : AttributionResult) (reason : String) : AttributionResult :=
  if ascii reason ∈ r.reasons then r else { r with reasons := r.reasons ++ [ascii reason] }

/-- `add_evidence`. -/
def addEvidence (r : AttributionResult) (o : Observation) : AttributionResult :=
  if r.evidence.length ≥ 32 then r
  else { r with
    evidence := r.evidence ++
      [⟨o.eventId, o.sourcePublisher, o.publisherBoot, o.sequence, o.type, o.precision,
        o.provenance⟩] }

/-- `add_resource_target`; a kind outside the enumeration adds nothing. -/
def addResourceTarget (r : AttributionResult) (ref : ResourceRef) : AttributionResult :=
  if ref.id = [] then r
  else if ref.kind = .MemoryDomain then r.addTarget .memoryDomain ref.id ref.generation
  else if ref.kind = .CoherenceDomain then r.addTarget .coherenceDomain ref.id ref.generation
  else if ref.kind.raw ≤ 3 then r.addTarget .resource ref.id ref.generation
  else r

/-- Stops with an outcome and the reason for it. -/
def stop (r : AttributionResult) (outcome : AttributionOutcome) (reason : String) :
    Except AttributionResult AttributionResult :=
  .error { r.addReason reason with outcome }

/-- `std::sort` of the reasons. -/
def sortReasons (r : AttributionResult) : AttributionResult :=
  { r with reasons := r.reasons.insertionSort fun a b => (compare a b).isLE = true }

end AttributionResult

/-- `capability_status`: what is not listed is unsupported. -/
def capabilityStatus (s : State) (key : String) : CapabilityStatus :=
  (s.capabilities[ascii key]?.map Capability.status).getD .Unsupported

/-- `TopologyRecord::locality_between`. -/
def TopologyRecord.localityBetween (t : TopologyRecord) (a b : ResourceRef) : Locality :=
  if a.id = [] ∨ b.id = [] then .Unknown
  else if a.kind = b.kind ∧ a.id = b.id then
    if a.generation = b.generation then .LocalProcessor else .Unknown
  else
    ((t.links.find? fun link => link.source.kind = a.kind ∧ link.source.id = a.id ∧
      link.target.kind = b.kind ∧ link.target.id = b.id).map TopologyLink.locality).getD .Unknown

/-- `regions_for_workload`: one more than the limit is enough to know. -/
def regionsForWorkload (s : State) (workload : WorkloadId) : List Text :=
  ((s.regions.toList.filter fun e => !e.2.retired && e.2.workload == workload).map Prod.fst).take 17

/-- The bindings known before any check. -/
def attributionStart (s : State) (o : Observation) : AttributionResult :=
  AttributionResult.addTarget
    { eventType := o.type
      precision := o.precision
      provenance := o.provenance
      reality := o.provenance.realityOf
      region := o.region.getD []
      regionGeneration := o.regionGeneration.getD 0
      bindings :=
        { coordinatorEpoch := s.coordinatorEpoch
          observationEpoch := s.observationEpoch
          topologyGeneration := o.topologyGeneration
          evidenceGeneration := o.evidenceGeneration
          sourceDeviceGeneration := (o.source.map ResourceRef.generation).getD 0
          targetDeviceGeneration := (o.target.map ResourceRef.generation).getD 0
          regionGeneration := o.regionGeneration.getD 0
          regionGenerationBound := o.regionGeneration.isSome } }
    .eventClass o.type.toText 0

/-- Authority and currentness of the publisher, the epoch and the topology. -/
def attributeAuthority (s : State) (o : Observation) (r : AttributionResult) :
    Except AttributionResult AttributionResult :=
  let policy := s.options.attributionPolicy
  if policy.requireCurrentCoordinatorEpoch ∧ o.coordinatorEpoch ≠ s.coordinatorEpoch then
    r.stop .staleEvidence "stale.coordinator_epoch"
  else
    match s.publishers[o.sourcePublisher]? with
    | none => r.stop .unattributed "unattributed.unknown_publisher"
    | some publisher =>
      if publisher.view.boot ≠ o.publisherBoot then
        r.stop .staleEvidence "stale.publisher_not_current"
      else if policy.requireCurrentPublisher ∧ (¬publisher.view.current ∨ publisher.view.fenced) then
        r.stop .staleEvidence "stale.publisher_not_current"
      else if policy.requireCurrentTopology ∧ o.topologyGeneration ≠ s.topologyGeneration then
        r.stop .staleEvidence "stale.topology_generation"
      else .ok r

/-- The targets of a bound region: the region, its domains and its workload. -/
def bindRegion (r : AttributionResult) (record : RegionRecord) : AttributionResult :=
  let r := { r with
    bindings := { r.bindings with
      regionGeneration := record.generation
      regionGenerationBound := true
      sourceDomainGeneration :=
        if record.memoryDomain ≠ [] then record.memoryDomainGeneration
        else r.bindings.sourceDomainGeneration } }
  ((r.addTarget .region record.id record.generation).addTarget .memoryDomain record.memoryDomain
    record.memoryDomainGeneration |>.addTarget .coherenceDomain record.coherenceDomain 0).addTarget
    .workload record.workload 0

/-- The region binding, and whether there is one. -/
def attributeRegion (s : State) (o : Observation) (r : AttributionResult) :
    Except AttributionResult (AttributionResult × Bool) :=
  match o.region with
  | none => .ok (r, false)
  | some region =>
    match s.regions[region]? with
    | none => .ok (r.addReason "unattributed.unknown_resource", false)
    | some record =>
      if record.retired then (r.stop .staleEvidence "stale.region_retired").map (·, false)
      else if s.options.attributionPolicy.requireCurrentRegionGeneration ∧
          o.regionGeneration ≠ some record.generation then
        (r.stop .staleEvidence "stale.region_generation").map (·, false)
      else .ok (bindRegion r record, true)

/-- Claims of real evidence need the capability to observe it. -/
def attributeCapability (s : State) (o : Observation) (r : AttributionResult) :
    Except AttributionResult AttributionResult :=
  if o.provenance.isReal ∧ o.granularity = .CacheLine ∧
      capabilityStatus s "coherence.cache_line_ownership" ≠ .Real then
    r.stop .unsupported "unsupported.capability"
  else if o.provenance.isReal ∧ o.localityDeclared ∧
      (o.locality = .CxlAttached ∨ o.locality = .PooledMemory) ∧
      capabilityStatus s "memory.cxl_telemetry" ≠ .Real then
    r.stop .unsupported "unsupported.capability"
  else .ok r

/-- A named resource becomes a target and must be current. -/
def attributeResource (s : State) (ref : Option ResourceRef) (r : AttributionResult) :
    Except AttributionResult AttributionResult :=
  match ref with
  | none => .ok r
  | some ref =>
    let r := r.addResourceTarget ref
    if resourceIsCurrent s ref then .ok r else r.stop .staleEvidence "stale.region_generation"

/-- A named coherence domain must be current at its generation. -/
def attributeDomain (s : State) (o : Observation) (r : AttributionResult) :
    Except AttributionResult AttributionResult :=
  match o.coherenceDomain with
  | none => .ok r
  | some domain =>
    match s.coherenceDomains[domain]? with
    | none => .ok (r.addReason "unattributed.unknown_resource")
    | some record =>
      if record.retired then r.stop .staleEvidence "stale.region_retired"
      else if o.coherenceDomainGeneration.any (· ≠ record.generation) then
        r.stop .staleEvidence "stale.region_generation"
      else .ok (r.addTarget .coherenceDomain record.id record.generation)

/-- Declared and derived locality; a disagreement is recorded as two candidates. -/
def attributeLocality (s : State) (o : Observation) (r : AttributionResult) : AttributionResult :=
  let declared := if o.localityDeclared then o.locality else .Unknown
  let derived :=
    match o.source, o.target with
    | some a, some b =>
      if s.options.attributionPolicy.deriveLocalityFromTopology
      then s.topology.localityBetween a b else .Unknown
    | _, _ => .Unknown
  let r := if derived ≠ .Unknown then
      (r.addTarget .topologyEdge
        ((o.source.map ResourceRef.id).getD [] ++ ascii "->" ++
          (o.target.map ResourceRef.id).getD []) 0).addReason "bound.topology_edge"
    else r
  if declared ≠ .Unknown ∧ derived ≠ .Unknown ∧ declared ≠ derived then
    { r.addReason "ambiguous.locality_mismatch" with
      candidates := r.candidates ++
        [ascii "declared:" ++ declared.toText, ascii "topology:" ++ derived.toText]
      candidateCount := 2 }
  else
    let effective := if declared ≠ .Unknown then declared else derived
    if effective ≠ .Unknown then
      ({ r with locality := effective, localityEstablished := true }.addTarget .localityClass
        effective.toText 0).addReason "bound.locality_class"
    else r

/-- A claim at region level that could mean several regions of its workload. -/
def attributeAmbiguity (s : State) (o : Observation) (regionBound : Bool) (r : AttributionResult) :
    Except AttributionResult AttributionResult :=
  match o.workload with
  | none => .ok r
  | some workload =>
    let candidates := regionsForWorkload s workload
    if ¬regionBound ∧ o.granularity.rank ≥ EvidenceGranularity.Region.rank ∧
        candidates.length > 1 then
      .error ({ r.addReason "ambiguous.multiple_regions" with
        candidates
        candidateCount := UInt64.ofNat candidates.length
        outcome := .ambiguous }.sortReasons.addEvidence o)
    else .ok r

/-- The outcome for evidence that passed every check. -/
def attributeOutcome (o : Observation) (regionBound : Bool) (r : AttributionResult) :
    AttributionResult :=
  if regionBound then
    if o.granularity.rank ≥ EvidenceGranularity.Region.rank then
      { r.addReason "bound.region_generation" with outcome := .attributedExact }
    else
      { r.addReason "limited.evidence_granularity" with
        outcome := .attributedAggregateOnly
        targets := r.targets.filter fun t => t.kind ≠ .region
        region := []
        regionGeneration := 0
        bindings := { r.bindings with regionGenerationBound := false }
        precision := r.precision.weakest .AggregatedCounter }
  else if r.targets.any fun t => t.kind ≠ .eventClass then
    { (if o.region = none then r.addReason "missing.region_identity" else r) with
      outcome := .attributedPartial }
  else { r.addReason "unattributed.no_subject" with outcome := .unattributed }

/-- The precision a counter-derived claim is held to. -/
def attributePrecision (o : Observation) (r : AttributionResult) : AttributionResult :=
  if o.counterDelta.isSome ∧ o.precision ≠ .ExactCounterDelta ∧
      o.precision.rank > Precision.ExactCounterDelta.rank then
    { r.addReason "limited.counter_scope" with
      precision := r.precision.weakest .ExactCounterDelta }
  else r

/-- The sections of `attribute_observation` in order. -/
def attributeSteps (s : State) (o : Observation) : Except AttributionResult AttributionResult := do
  let r ← attributeAuthority s o (attributionStart s o)
  let (r, regionBound) ← attributeRegion s o r
  let r ← attributeCapability s o r
  let r ← attributeResource s o.source r
  let r ← attributeResource s o.target r
  let r := r.addTarget .workload (o.workload.getD []) 0
  let r := r.addTarget .process (o.process.getD []) 0
  let r ← attributeDomain s o r
  let r ← attributeAmbiguity s o regionBound (attributeLocality s o r)
  -- reasons are added once, so removing neighbours after the sort changes nothing
  return (attributePrecision o (attributeOutcome o regionBound r)).sortReasons.addEvidence o

/-- `attribute_observation`. -/
def attributeObservation (s : State) (o : Observation) : AttributionResult :=
  match attributeSteps s o with
  | .ok r => r
  | .error r => r

end CoherenceObservatory
