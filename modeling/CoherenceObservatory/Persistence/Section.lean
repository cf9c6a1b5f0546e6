import CoherenceObservatory.Payload
import CoherenceObservatory.State

/-!
# Sections of a state file

The records of a state file, each with what `save_state` writes for it and what the
section readers make of it. A reader checks a record completely before it is staged;
texts are bounded on both sides, but a writer drops a text past its bound and goes on.

Most sections are a counted list of records filed under their keys (`stageMap`) or kept
in order (`stageList`); the members of the family differ in the record, the bound and the
messages.
-/

namespace CoherenceObservatory

open Std Codec Limits

/-! ## Fields -/

/-- A flag: any byte but zero is true. -/
def PayloadReader.flag : PayloadReader Bool := do return (← PayloadReader.u8) != 0

/-- A read identity must be a token, or the file is refused with `e`. -/
def checkIdentity (id : Text) (e : Error) : PayloadReader Unit :=
  Reader.failIf (validateIdentityToken id ≠ .ok ()) e

/-- The error for a file that cannot be what was saved. -/
def corrupt (message : String) (context : Text := []) : Error :=
  failWith .corruptState message context

/-! ## Records that are written -/

section

open PayloadWriter

/-- A node in a file. -/
def writeNode (r : NodeRecord) : List UInt8 :=
  text r.id maxNameLength ++
  text r.displayName maxRegionAnnotationLength ++
  i64 r.registeredAtNs

/-- A processor in a file. -/
def writeProcessor (r : ProcessorRecord) : List UInt8 :=
  text r.id maxNameLength ++
  text r.node maxNameLength ++
  text r.localMemoryDomain maxNameLength ++
  u64 r.generation ++
  u32 r.logicalProcessorCount ++
  u32 r.physicalCoreCount ++
  u32 r.numaNodeIndex ++
  bool r.numaNodeIndexKnown ++
  bool r.retired ++
  i64 r.registeredAtNs

/-- An accelerator in a file. -/
def writeAccelerator (r : AcceleratorRecord) : List UInt8 :=
  text r.id maxNameLength ++
  text r.node maxNameLength ++
  text r.vendor maxNameLength ++
  text r.vendorUuid maxRegionAnnotationLength ++
  text r.localMemoryDomain maxNameLength ++
  u64 r.generation ++
  bool r.peerCoherentCapable ++
  bool r.peerCoherentCapabilityKnown ++
  bool r.retired ++
  i64 r.registeredAtNs

/-- A memory domain in a file. -/
def writeMemoryDomain (r : MemoryDomainRecord) : List UInt8 :=
  text r.id maxNameLength ++
  text r.node maxNameLength ++
  text r.coherenceDomain maxNameLength ++
  u64 r.generation ++
  u8 r.kind.raw ++
  bool r.coherentWithHost ++
  bool r.coherentWithHostKnown ++
  bool r.capacityKnown ++
  bool r.retired ++
  u64 r.capacityBytes ++
  i64 r.registeredAtNs

/-- A member of a coherence domain. -/
def writeMember (r : ResourceRef) : List UInt8 :=
  u8 r.kind.raw ++
  text r.id maxNameLength ++
  u64 r.generation

/-- A coherence domain in a file. -/
def writeCoherenceDomain (r : CoherenceDomainRecord) : List UInt8 :=
  text r.id maxNameLength ++
  text r.protocolFamily maxRegionAnnotationLength ++
  u64 r.generation ++
  bool r.retired ++
  u64 (UInt64.ofNat r.members.length) ++
  r.members.flatMap writeMember ++
  i64 r.registeredAtNs

/-- A region in a file. -/
def writeRegion (r : RegionRecord) : List UInt8 :=
  text r.id maxNameLength ++
  text r.owner maxRegionAnnotationLength ++
  text r.annotationText maxRegionAnnotationLength ++
  text r.memoryDomain maxNameLength ++
  text r.coherenceDomain maxNameLength ++
  text r.workload maxNameLength ++
  u64 r.generation ++
  u64 r.memoryDomainGeneration ++
  u64 r.opaqueHandle ++
  u64 r.sizeBytes ++
  u64 r.pageSizeBytes ++
  u64 r.allocationGeneration ++
  u64 r.mappingGeneration ++
  u8 r.sharingScope.raw ++
  bool r.sizeKnown ++
  bool r.pageSizeKnown ++
  bool r.retired ++
  i64 r.registeredAtNs ++
  i64 r.retiredAtNs

/-- A link in a file. -/
def writeLink (link : TopologyLink) : List UInt8 :=
  u8 link.source.kind.raw ++
  text link.source.id maxNameLength ++
  u64 link.source.generation ++
  u8 link.target.kind.raw ++
  text link.target.id maxNameLength ++
  u64 link.target.generation ++
  u8 link.locality.raw ++
  u8 link.provenance.raw ++
  i64 link.latencyNs ++
  u64 link.bandwidthBytesPerSecond

/-- A watermark in a file. -/
def writeWatermark (w : PublisherWatermark) : List UInt8 :=
  text w.publisher maxNameLength ++
  u64 w.boot ++
  u64 w.highWatermark ++
  bool w.hasWatermark ++
  bool w.fenced ++
  u8 w.fenceReason.raw ++
  u64 w.bootIncarnations ++
  i64 w.lastSeenNs

/-- A capability in a file. -/
def writeCapability (c : Capability) : List UInt8 :=
  text c.key maxNameLength ++
  u8 c.status.raw ++
  text c.detail 512 ++
  text c.mechanism 128

/-- A cost model in a file. -/
def writeCostModel (m : CostModel) : List UInt8 :=
  text m.id 96 ++
  u32 m.version ++
  u64 m.remoteReadLatencyNs.bits ++
  u64 m.remoteWriteLatencyNs.bits ++
  u64 m.invalidationLatencyNs.bits ++
  u64 m.ownershipTransferLatencyNs.bits ++
  u64 m.retryLatencyNs.bits ++
  u64 m.conflictStallNs.bits ++
  u64 m.bandwidthBytesPerNs.bits ++
  u64 m.cxlMultiplier.bits ++
  u64 m.pooledMultiplier.bits ++
  u64 m.remoteNodeMultiplier.bits

/-- A bucket of the historical aggregates; only some of its totals are stored. -/
def writeAggregate (key : AggregateKey) (value : AggregateValue) : List UInt8 :=
  u8 key.dimension.raw ++
  text key.value maxRegionAnnotationLength ++
  u64 value.observations ++
  u64 value.bytes ++
  u64 value.invalidations ++
  u64 value.ownershipTransfers ++
  u8 value.weakestPrecision.raw ++
  bool value.syntheticContribution

/-- Historical evidence in a file. -/
def writeHistory (r : HistoricalEvidence) : List UInt8 :=
  text r.region maxNameLength ++
  u8 r.eventType.raw ++
  u8 r.precision.raw ++
  u8 r.provenance.raw ++
  u64 r.observations ++
  u64 r.bytes ++
  i64 r.lastTimestampNs ++
  u64 r.sourceCoordinatorEpoch

end

/-! ## Records that are read -/

open PayloadReader

/-- A record of `stage_nodes`. -/
def readNode : PayloadReader NodeRecord := do
  let id ← text maxNameLength
  let displayName ← text maxRegionAnnotationLength
  let registeredAtNs ← i64
  checkIdentity id (corrupt "invalid node identity" id)
  return { id, displayName, registeredAtNs }

/-- A record of `stage_processors`. -/
def readProcessor : PayloadReader ProcessorRecord := do
  let id ← text maxNameLength
  let node ← text maxNameLength
  let localMemoryDomain ← text maxNameLength
  let generation ← u64
  let logicalProcessorCount ← u32
  let physicalCoreCount ← u32
  let numaNodeIndex ← u32
  let numaNodeIndexKnown ← flag
  let retired ← flag
  let registeredAtNs ← i64
  checkIdentity id (corrupt "invalid processor identity" id)
  Reader.failIf (generation = 0) (corrupt "processor generation must be non-zero" id)
  return {
    id, node, localMemoryDomain, generation, logicalProcessorCount, physicalCoreCount,
    numaNodeIndex, numaNodeIndexKnown, retired, registeredAtNs }

/-- A record of `stage_accelerators`. -/
def readAccelerator : PayloadReader AcceleratorRecord := do
  let id ← text maxNameLength
  let node ← text maxNameLength
  let vendor ← text maxNameLength
  let vendorUuid ← text maxRegionAnnotationLength
  let localMemoryDomain ← text maxNameLength
  let generation ← u64
  let peerCoherentCapable ← flag
  let peerCoherentCapabilityKnown ← flag
  let retired ← flag
  let registeredAtNs ← i64
  checkIdentity id (corrupt "invalid accelerator identity" id)
  Reader.failIf (generation = 0) (corrupt "accelerator generation must be non-zero" id)
  return {
    id, node, vendor, vendorUuid, localMemoryDomain, generation, peerCoherentCapable,
    peerCoherentCapabilityKnown, retired, registeredAtNs }

/-- A record of `stage_memory_domains`. -/
def readMemoryDomain : PayloadReader MemoryDomainRecord := do
  let id ← text maxNameLength
  let node ← text maxNameLength
  let coherenceDomain ← text maxNameLength
  let generation ← u64
  let kind ← u8
  let coherentWithHost ← flag
  let coherentWithHostKnown ← flag
  let capacityKnown ← flag
  let retired ← flag
  let capacityBytes ← u64
  let registeredAtNs ← i64
  Reader.failIf (kind > 6) (corrupt "memory domain kind out of range" id)
  checkIdentity id (corrupt "invalid memory domain identity" id)
  Reader.failIf (generation = 0) (corrupt "memory domain generation must be non-zero" id)
  return {
    id, node, coherenceDomain, generation, kind := ⟨kind⟩, coherentWithHost,
    coherentWithHostKnown, capacityKnown, retired, capacityBytes, registeredAtNs }

/-- A member of the coherence domain `domain`. -/
def readMember (domain : Text) : PayloadReader ResourceRef := do
  let kind ← u8
  let id ← text maxNameLength
  let generation ← u64
  Reader.failIf (kind > 5) (corrupt "coherence domain member kind out of range" domain)
  return { kind := ⟨kind⟩, id, generation }

/-- A record of `stage_coherence_domains`. -/
def readCoherenceDomain : PayloadReader CoherenceDomainRecord := do
  let id ← text maxNameLength
  let protocolFamily ← text maxRegionAnnotationLength
  let generation ← u64
  let retired ← flag
  let memberCount ← u64
  Reader.failIf (memberCount.toNat > maxTopologyLinkCount)
    (corrupt "coherence domain member count exceeds the bound" id)
  let members ← Reader.many (readMember id) memberCount.toNat
  let registeredAtNs ← i64
  checkIdentity id (corrupt "invalid coherence domain identity" id)
  Reader.failIf (generation = 0) (corrupt "coherence domain generation must be non-zero" id)
  return { id, protocolFamily, generation, retired, members, registeredAtNs }

/-- A record of `stage_regions`. -/
def readRegion : PayloadReader RegionRecord := do
  let id ← text maxNameLength
  let owner ← text maxRegionAnnotationLength
  let annotationText ← text maxRegionAnnotationLength
  let memoryDomain ← text maxNameLength
  let coherenceDomain ← text maxNameLength
  let workload ← text maxNameLength
  let generation ← u64
  let memoryDomainGeneration ← u64
  let opaqueHandle ← u64
  let sizeBytes ← u64
  let pageSizeBytes ← u64
  let allocationGeneration ← u64
  let mappingGeneration ← u64
  let scope ← u8
  let sizeKnown ← flag
  let pageSizeKnown ← flag
  let retired ← flag
  let registeredAtNs ← i64
  let retiredAtNs ← i64
  Reader.failIf (scope > 5) (corrupt "region sharing scope out of range" id)
  checkIdentity id (corrupt "invalid region identity" id)
  Reader.failIf (generation = 0) (corrupt "region generation must be non-zero" id)
  return {
    id, owner, annotationText, memoryDomain, coherenceDomain, workload, generation,
    memoryDomainGeneration, opaqueHandle, sizeBytes, pageSizeBytes, allocationGeneration,
    mappingGeneration, sharingScope := ⟨scope⟩, sizeKnown, pageSizeKnown, retired,
    registeredAtNs, retiredAtNs, loadedFromState := true }

/-- A record of `stage_topology`. -/
def readLink : PayloadReader TopologyLink := do
  let fromKind ← u8
  let fromId ← text maxNameLength
  let fromGeneration ← u64
  let toKind ← u8
  let toId ← text maxNameLength
  let toGeneration ← u64
  let locality ← u8
  let provenance ← u8
  let latencyNs ← i64
  let bandwidthBytesPerSecond ← u64
  Reader.failIf (fromKind > 5 ∨ toKind > 5) (corrupt "topology link resource kind out of range")
  Reader.failIf (locality ≥ Locality.count) (corrupt "topology link locality out of range")
  Reader.failIf (provenance > 9) (corrupt "topology link provenance out of range")
  return {
    source := { kind := ⟨fromKind⟩, id := fromId, generation := fromGeneration }
    target := { kind := ⟨toKind⟩, id := toId, generation := toGeneration }
    locality := ⟨locality⟩, provenance := ⟨provenance⟩, latencyNs, bandwidthBytesPerSecond }

/-- A fence reason; bytes above the last one are refused. -/
def fenceReasonOf (raw : UInt8) : Except Error FenceReason :=
  match FenceReason.ofRaw raw with
  | some reason => .ok reason
  | none => .error (corrupt "publisher watermark fence reason out of range")

/-- A record of `stage_watermarks`. -/
def readWatermark : PayloadReader PublisherWatermark := do
  let publisher ← text maxNameLength
  let boot ← u64
  let highWatermark ← u64
  let hasWatermark ← flag
  let fenced ← flag
  let rawReason ← u8
  let bootIncarnations ← u64
  let lastSeenNs ← i64
  let fenceReason ← Reader.lift (fenceReasonOf rawReason)
  checkIdentity publisher (corrupt "invalid publisher identity" publisher)
  Reader.failIf (boot = 0) (corrupt "publisher watermark boot must be non-zero" publisher)
  return {
    publisher, boot, highWatermark, hasWatermark, fenced, fenceReason, bootIncarnations,
    lastSeenNs }

/-- A record of `stage_capabilities`. -/
def readCapability : PayloadReader Capability := do
  let key ← text maxNameLength
  let status ← u8
  let detail ← text 512
  let mechanism ← text 128
  Reader.failIf (status > 2) (corrupt "capability status out of range" key)
  Reader.failIf (key = []) (corrupt "capability key must not be empty")
  return { key, status := ⟨status⟩, detail, mechanism }

/-- A cost model in a file must pass the validation it passed when it was set. -/
def checkStoredCostModel (m : CostModel) : Except Error CostModel :=
  match m.validate with
  | .ok () => .ok m
  | .error e => .error (corrupt "cost model in state file is invalid" e.describe)

/-- A record of `stage_cost_model`. -/
def readCostModel : PayloadReader CostModel := do
  let id ← text 96
  let version ← u32
  let remoteReadLatencyNs ← u64
  let remoteWriteLatencyNs ← u64
  let invalidationLatencyNs ← u64
  let ownershipTransferLatencyNs ← u64
  let retryLatencyNs ← u64
  let conflictStallNs ← u64
  let bandwidthBytesPerNs ← u64
  let cxlMultiplier ← u64
  let pooledMultiplier ← u64
  let remoteNodeMultiplier ← u64
  Reader.lift (checkStoredCostModel {
    id, version, defined := true
    remoteReadLatencyNs := ⟨remoteReadLatencyNs⟩
    remoteWriteLatencyNs := ⟨remoteWriteLatencyNs⟩
    invalidationLatencyNs := ⟨invalidationLatencyNs⟩
    ownershipTransferLatencyNs := ⟨ownershipTransferLatencyNs⟩
    retryLatencyNs := ⟨retryLatencyNs⟩
    conflictStallNs := ⟨conflictStallNs⟩
    bandwidthBytesPerNs := ⟨bandwidthBytesPerNs⟩
    cxlMultiplier := ⟨cxlMultiplier⟩
    pooledMultiplier := ⟨pooledMultiplier⟩
    remoteNodeMultiplier := ⟨remoteNodeMultiplier⟩ })

/-- The dimension of a byte, if there is one. -/
def dimensionOf (raw : UInt8) : Except Error AggregateDimension :=
  match AggregateDimension.ofRaw raw with
  | some dimension => .ok dimension
  | none => .error (corrupt "historical aggregate dimension out of range")

/-- A record of `stage_historical_aggregates`. -/
def readAggregate : PayloadReader (AggregateKey × AggregateValue) := do
  let rawDimension ← u8
  let dimension ← Reader.lift (dimensionOf rawDimension)
  let value ← text maxRegionAnnotationLength
  let observations ← u64
  let bytes ← u64
  let invalidations ← u64
  let ownershipTransfers ← u64
  let precision ← u8
  Reader.failIf (precision > 6) (corrupt "historical aggregate precision out of range")
  let syntheticContribution ← flag
  return (⟨dimension, value⟩, {
    observations, bytes, invalidations, ownershipTransfers, weakestPrecision := ⟨precision⟩
    hasObservations := observations != 0, syntheticContribution })

/-- A record of `stage_history`. -/
def readHistory : PayloadReader HistoricalEvidence := do
  let region ← text maxNameLength
  let type ← u8
  let precision ← u8
  let provenance ← u8
  let observations ← u64
  let bytes ← u64
  let lastTimestampNs ← i64
  let sourceCoordinatorEpoch ← u64
  Reader.failIf (type ≥ EventType.count) (corrupt "history event type out of range")
  Reader.failIf (precision > 6 ∨ provenance > 9) (corrupt "history classification out of range")
  return {
    region, eventType := ⟨type⟩, precision := ⟨precision⟩, provenance := ⟨provenance⟩
    observations, bytes, lastTimestampNs, sourceCoordinatorEpoch }

/-! ## Staging -/

/-- What has been read and checked of a file, before any of it is applied. -/
structure StagedState where
  hasMeta : Bool := false
  observerId : ObserverId := []
  nodeId : NodeId := []
  displayName : Text := []
  topologyGeneration : TopologyGeneration := 0
  evidenceGeneration : EvidenceGeneration := 0
  timeBucketNs : Int64 := 1000000000
  sourceCoordinatorEpoch : CoordinatorEpoch := 0
  sourceObservationEpoch : ObservationEpoch := 0
  nodes : ExtTreeMap Text NodeRecord := ∅
  processors : ExtTreeMap Text ProcessorRecord := ∅
  accelerators : ExtTreeMap Text AcceleratorRecord := ∅
  memoryDomains : ExtTreeMap Text MemoryDomainRecord := ∅
  coherenceDomains : ExtTreeMap Text CoherenceDomainRecord := ∅
  regions : ExtTreeMap Text RegionRecord := ∅
  links : List TopologyLink := []
  watermarks : ExtTreeMap Text PublisherWatermark := ∅
  capabilities : ExtTreeMap Text Capability := ∅
  costModel : Option CostModel := none
  historicalAggregates : ExtTreeMap AggregateKey AggregateValue := ∅
  history : List HistoricalEvidence := []
  seenSections : List UInt32 := []
  recordCount : UInt64 := 0

section

variable {κ α : Type} [Ord κ] [TransOrd κ]

/-- A counted list of records, filed one by one under their keys; no key may repeat. -/
def stageMap (m : ExtTreeMap κ α) (bound : Nat) (tooMany : String)
    (read : PayloadReader (κ × α)) (duplicate : κ → Error) :
    PayloadReader (UInt64 × ExtTreeMap κ α) := do
  let count ← u64
  Reader.failIf (count.toNat > bound) (corrupt tooMany)
  let m ← Reader.iterate (fun m => do
    let (key, record) ← read
    Reader.failIf (key ∈ m) (duplicate key)
    return m.insert key record) count.toNat m
  return (count, m)

/-- A counted list of records in order. -/
def stageList (bound : Nat) (tooMany : String) (read : PayloadReader α) :
    PayloadReader (UInt64 × List α) := do
  let count ← u64
  Reader.failIf (count.toNat > bound) (corrupt tooMany)
  let records ← Reader.many read count.toNat
  return (count, records)

end

/-- A record filed under the key it names. -/
def keyed {α : Type} (keyOf : α → Text) (read : PayloadReader α) : PayloadReader (Text × α) := do
  let record ← read
  return (keyOf record, record)

end CoherenceObservatory
