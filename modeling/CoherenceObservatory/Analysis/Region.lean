import CoherenceObservatory.Analysis.Cost
import CoherenceObservatory.Attribution

/-!
# Attribution of a region

What the evidence held for a region supports. The answer names the generation the region is
registered at. The bucket and the samples it rests on are kept per region identity, with
no regard to generations.
-/

namespace CoherenceObservatory

open Std

/-- `AggregateValue::reality`. -/
def AggregateValue.reality (bucket : AggregateValue) : Reality :=
  if bucket.mixedContribution then .mixed
  else if bucket.syntheticContribution then .synthetic else .real

/-- An attribution with what it costs. -/
structure RegionAttribution extends AttributionResult where
  cost : CostEstimate := {}

/-- The bindings and targets of a region before its evidence is looked at. -/
def regionAttributionStart (s : State) (region : MemoryRegionId) : Option RegionRecord → AttributionResult
  | none =>
    AttributionResult.addTarget
      { region
        bindings :=
          { coordinatorEpoch := s.coordinatorEpoch
            observationEpoch := s.observationEpoch
            topologyGeneration := s.topologyGeneration } }
      .region region 0
  | some record =>
    ((AttributionResult.addTarget
      { region
        bindings :=
          { coordinatorEpoch := s.coordinatorEpoch
            observationEpoch := s.observationEpoch
            topologyGeneration := s.topologyGeneration
            regionGeneration := record.generation
            regionGenerationBound := true } }
      .region record.id record.generation).addTarget .memoryDomain record.memoryDomain
        record.memoryDomainGeneration
      |>.addTarget .coherenceDomain record.coherenceDomain 0
      |>.addTarget .workload record.workload 0).addTarget .eventClass (ascii "AGGREGATE") 0

/-- Whether some sample of the region resolves regions. -/
def hasRegionGranularity (s : State) (region : MemoryRegionId) : Bool :=
  s.regionEvidence[region]?.any fun evidence =>
    evidence.samples.any fun sample => sample.granularity.rank ≥ EvidenceGranularity.Region.rank

/-- `attribute_region_state`. -/
def attributeRegionState (s : State) (region : MemoryRegionId) : RegionAttribution :=
  let start := regionAttributionStart s region s.regions[region]?
  match s.regions[region]? with
  | none =>
    { start.addReason "unattributed.unknown_resource" with outcome := .unattributed }
  | some record =>
    if record.retired then
      { start.addReason "stale.region_retired" with outcome := .staleEvidence }
    else
      match s.aggregates.buckets[(⟨.region, region⟩ : AggregateKey)]? with
      | none => { start.addReason "unattributed.no_subject" with outcome := .unattributed }
      | some bucket =>
        if bucket.observations = 0 then
          { start.addReason "unattributed.no_subject" with outcome := .unattributed }
        else
          let exact := hasRegionGranularity s region
          let result := (start.addReason
            (if exact then "bound.region_generation" else "limited.evidence_granularity")).sortReasons
          { result with
            outcome := if exact then .attributedExact else .attributedAggregateOnly
            precision := bucket.weakestPrecision
            provenance := .DerivedAggregation
            reality := bucket.reality
            cost := estimateCost s.options.costModel
              { bytes := bucket.bytes
                remoteReads := bucket.remoteReads
                remoteWrites := bucket.remoteWrites
                invalidations := bucket.invalidations
                ownershipTransfers := bucket.ownershipTransfers
                retries := bucket.retries
                conflicts := bucket.conflicts
                precision := bucket.weakestPrecision } }

/-- `Observatory::attribute_region`. -/
def attributeRegionQuery (s : State) (region : MemoryRegionId) : Except Error RegionAttribution := do
  validateIdentityToken region
  return attributeRegionState s region

end CoherenceObservatory
