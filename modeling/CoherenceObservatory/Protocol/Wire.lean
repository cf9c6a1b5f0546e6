import CoherenceObservatory.Payload
import CoherenceObservatory.State

/-!
# Records on the wire

What a publisher, a client and the coordinator put into the payload of a frame: for each
record the writer of `wire.cpp` and its reader. A writer stops at the first text past its
bound and reports it, with what it appended so far left in the payload; a reader checks
enumerations and identities as it meets them.
-/

namespace CoherenceObservatory

open Codec Limits

/-! ## Acknowledgements -/

/-- How a request was taken. -/
inductive AckStatus
  | accepted | partiallyAccepted | rejected | unauthorized | staleEpoch | staleBoot
  | staleGeneration | staleSequence | malformed | capacity | unsupported | internalError
  deriving DecidableEq

namespace AckStatus

/-- Every status, in the order of the numbers that stand for them. -/
def all : List AckStatus :=
  [accepted, partiallyAccepted, rejected, unauthorized, staleEpoch, staleBoot, staleGeneration,
   staleSequence, malformed, capacity, unsupported, internalError]

def raw (status : AckStatus) : UInt16 := UInt16.ofNat (all.idxOf status)

def ofRaw (value : UInt16) : Option AckStatus := all[value.toNat]?

end AckStatus

/-- `ack_status_for`. -/
def ackStatusFor : ErrorCode → AckStatus
  | .ok => .accepted
  | .unauthorized => .unauthorized
  | .staleEpoch => .staleEpoch
  | .staleBoot => .staleBoot
  | .staleGeneration => .staleGeneration
  | .staleSequence => .staleSequence
  | .retiredEntity => .staleGeneration
  | .capacity | .tooMany => .capacity
  | .unsupportedCapability => .unsupported
  | _ => .malformed

/-- `AckPayload`. -/
structure AckPayload where
  status : AckStatus := .accepted
  coordinatorEpoch : CoordinatorEpoch := 0
  observationEpoch : ObservationEpoch := 0
  detail : Text := []
  accepted : UInt64 := 0
  rejected : UInt64 := 0
  duplicates : UInt64 := 0
  late : UInt64 := 0
  missing : UInt64 := 0
  producedDelta : UInt64 := 0
  delta : UInt64 := 0
  discontinuity : UInt64 := 0

namespace Wire

/-! ## Fields -/

/-- What a writer has appended, and whether it failed. -/
abbrev Written : Type := Codec.Written Error

def u8 (value : UInt8) : Written := (PayloadWriter.u8 value, .ok ())
def bool (value : Bool) : Written := (PayloadWriter.bool value, .ok ())
def u16 (value : UInt16) : Written := (PayloadWriter.u16 value, .ok ())
def u32 (value : UInt32) : Written := (PayloadWriter.u32 value, .ok ())
def u64 (value : UInt64) : Written := (PayloadWriter.u64 value, .ok ())
def i64 (value : Int64) : Written := (PayloadWriter.i64 value, .ok ())

def text (value : Text) (maxLength : Nat) : Written :=
  (PayloadWriter.text value maxLength, PayloadWriter.textStatus value maxLength)

/-- A flag: any byte but zero is true. -/
def readBool : PayloadReader Bool := do return (← PayloadReader.u8) ≠ 0

/-- `require_enum`. -/
def requireEnum (exclusiveMax : UInt8) (what : String) : PayloadReader UInt8 := do
  let value ← PayloadReader.u8
  Reader.failIf (value ≥ exclusiveMax)
    ⟨.invalidArgument, ascii what ++ ascii " out of range", formatNat value.toNat⟩
  return value

/-- `NameId::parse`. -/
def parse (token : Text) : PayloadReader Text := do
  Reader.lift (validateIdentityToken token)
  return token

/-- `write_resource_ref`. -/
def writeResourceRef (ref : ResourceRef) : Written :=
  .all [u8 ref.kind.raw, text ref.id maxNameLength, u64 ref.generation]

/-- `read_resource_ref`. -/
def readResourceRef : PayloadReader ResourceRef := do
  let kind ← requireEnum 6 "resource kind"
  let id ← PayloadReader.text maxNameLength
  let generation ← PayloadReader.u64
  let id ← parse id
  return { kind := ⟨kind⟩, id, generation }

/-- `write_name_id`. -/
def writeNameId (id : Text) : Written := text id maxNameLength

/-- `read_name_id`: the empty identity needs no parsing. -/
def readNameId : PayloadReader Text := do
  let id ← PayloadReader.text maxNameLength
  if id = [] then return [] else parse id

/-- A flag, and the value behind it when there is one. -/
def writeOptional {α : Type} (write : α → Written) : Option α → Written
  | none => .all [u8 0]
  | some x => .all [u8 1, write x]

@[inherit_doc writeOptional]
def readOptional {α : Type} (read : PayloadReader α) : PayloadReader (Option α) := do
  let present ← PayloadReader.u8
  if present = 0 then return none else return some (← read)

/-- `write_optional_resource`. -/
def writeOptionalResource (ref : Option ResourceRef) : Written :=
  writeOptional writeResourceRef ref

/-- `read_optional_resource`. -/
def readOptionalResource : PayloadReader (Option ResourceRef) := readOptional readResourceRef

/-- A key and its value. -/
def writeMetadataEntry (entry : Text × Text) : List UInt8 :=
  PayloadWriter.text entry.1 maxMetadataKeyLength ++
  PayloadWriter.text entry.2 maxMetadataValueLength

/-- `write_metadata`: entries in key order, with no look at the status of a text. -/
def writeMetadata (m : BoundedMetadata) : Written :=
  (PayloadWriter.u32 (UInt32.ofNat m.sortedEntries.length) ++
    m.sortedEntries.flatMap writeMetadataEntry, .ok ())

/-- One round of the loop of `read_metadata`. -/
def readMetadataEntry (m : BoundedMetadata) : PayloadReader BoundedMetadata := do
  let key ← PayloadReader.text maxMetadataKeyLength
  let value ← PayloadReader.text maxMetadataValueLength
  Reader.lift (m.add key value)

/-- `read_metadata`. -/
def readMetadata : PayloadReader BoundedMetadata := do
  let count ← PayloadReader.u32
  Reader.failIf (count.toNat > maxMetadataEntries)
    (failWith .tooMany "metadata entry count exceeds the bound" (formatNat count.toNat))
  Reader.iterate readMetadataEntry count.toNat .empty

/-! ## Records -/

/-- `write_observation`. -/
def writeObservation (o : Observation) : Written := .all [
  u64 o.eventId,
  u8 o.type.raw,
  writeNameId o.sourcePublisher,
  u64 o.publisherBoot,
  u64 o.coordinatorEpoch,
  u64 o.samplingEpoch,
  u64 o.evidenceGeneration,
  u64 o.sequence,
  i64 o.timestampNs,
  writeOptionalResource o.source,
  writeOptionalResource o.target,
  writeOptional writeNameId o.region,
  u64 (o.regionGeneration.getD 0),
  writeOptional writeNameId o.coherenceDomain,
  u64 (o.coherenceDomainGeneration.getD 0),
  u64 o.topologyGeneration,
  writeOptional writeNameId o.workload,
  writeOptional writeNameId o.process,
  u8 o.direction.raw,
  u8 o.stateBefore.raw,
  u8 o.stateAfter.raw,
  bool o.counterDelta.isSome,
  u64 (o.counterDelta.getD 0),
  u64 o.counterGeneration,
  u64 o.bytes,
  u64 o.lines,
  u64 o.pages,
  u64 o.regionCount,
  i64 o.measuredDurationNs,
  u8 o.locality.raw,
  bool o.localityDeclared,
  u8 o.provenance.raw,
  u8 o.precision.raw,
  u8 o.granularity.raw,
  writeMetadata o.metadata]

/-- `read_observation`. -/
def readObservation : PayloadReader Observation := do
  let eventId ← PayloadReader.u64
  let type ← requireEnum EventType.count "event type"
  let sourcePublisher ← readNameId
  let publisherBoot ← PayloadReader.u64
  let coordinatorEpoch ← PayloadReader.u64
  let samplingEpoch ← PayloadReader.u64
  let evidenceGeneration ← PayloadReader.u64
  let sequence ← PayloadReader.u64
  let timestampNs ← PayloadReader.i64
  let source ← readOptionalResource
  let target ← readOptionalResource
  let region ← readOptional readNameId
  let regionGeneration ← PayloadReader.u64
  let coherenceDomain ← readOptional readNameId
  let domainGeneration ← PayloadReader.u64
  let topologyGeneration ← PayloadReader.u64
  let workload ← readOptional readNameId
  let process ← readOptional readNameId
  let direction ← requireEnum 6 "access direction"
  let stateBefore ← requireEnum 10 "coherence state"
  let stateAfter ← requireEnum 10 "coherence state"
  let hasCounter ← readBool
  let counterDelta ← PayloadReader.u64
  let counterGeneration ← PayloadReader.u64
  let bytes ← PayloadReader.u64
  let lines ← PayloadReader.u64
  let pages ← PayloadReader.u64
  let regionCount ← PayloadReader.u64
  let measuredDurationNs ← PayloadReader.i64
  let locality ← requireEnum Locality.count "locality"
  let localityDeclared ← readBool
  let provenance ← requireEnum 10 "provenance"
  let precision ← requireEnum 7 "precision"
  let granularity ← requireEnum 7 "granularity"
  let metadata ← readMetadata
  return {
    eventId, type := ⟨type⟩, sourcePublisher, publisherBoot, coordinatorEpoch, samplingEpoch,
    evidenceGeneration, sequence, timestampNs, source, target, region,
    regionGeneration := region.map fun _ => regionGeneration, coherenceDomain,
    coherenceDomainGeneration := coherenceDomain.map fun _ => domainGeneration,
    topologyGeneration, workload, process, direction := ⟨direction⟩,
    stateBefore := ⟨stateBefore⟩, stateAfter := ⟨stateAfter⟩,
    counterDelta := if hasCounter then some counterDelta else none, counterGeneration,
    bytes, lines, pages, regionCount, measuredDurationNs, locality := ⟨locality⟩,
    localityDeclared, provenance := ⟨provenance⟩, precision := ⟨precision⟩,
    granularity := ⟨granularity⟩, metadata }

/-- `write_counter_publication`. -/
def writeCounterPublication (c : CounterPublication) : Written := .all [
  writeNameId c.publisher,
  u64 c.publisherBoot,
  u64 c.coordinatorEpoch,
  u64 c.evidenceGeneration,
  writeNameId c.counter,
  u8 c.mappedType.raw,
  u8 c.kind.raw,
  u8 c.scope.raw,
  u32 c.widthBits,
  u64 c.generation,
  u64 c.samplingEpoch,
  u64 c.rawValue,
  u64 c.bytesPerUnit,
  u64 c.sequence,
  i64 c.timestampNs,
  writeOptionalResource c.source,
  writeOptionalResource c.target,
  writeOptional writeNameId c.region,
  u64 (c.regionGeneration.getD 0),
  writeOptional writeNameId c.workload,
  u64 c.topologyGeneration,
  u8 c.provenance.raw,
  u8 c.granularity.raw,
  writeMetadata c.metadata]

/-- `read_counter_publication`. -/
def readCounterPublication : PayloadReader CounterPublication := do
  let publisher ← readNameId
  let publisherBoot ← PayloadReader.u64
  let coordinatorEpoch ← PayloadReader.u64
  let evidenceGeneration ← PayloadReader.u64
  let counter ← readNameId
  let mappedType ← requireEnum EventType.count "counter event type"
  let kind ← requireEnum 5 "counter kind"
  let scope ← requireEnum 7 "counter scope"
  let widthBits ← PayloadReader.u32
  let generation ← PayloadReader.u64
  let samplingEpoch ← PayloadReader.u64
  let rawValue ← PayloadReader.u64
  let bytesPerUnit ← PayloadReader.u64
  let sequence ← PayloadReader.u64
  let timestampNs ← PayloadReader.i64
  let source ← readOptionalResource
  let target ← readOptionalResource
  let region ← readOptional readNameId
  let regionGeneration ← PayloadReader.u64
  let workload ← readOptional readNameId
  let topologyGeneration ← PayloadReader.u64
  let provenance ← requireEnum 10 "counter provenance"
  let granularity ← requireEnum 7 "counter granularity"
  let metadata ← readMetadata
  return {
    publisher, publisherBoot, coordinatorEpoch, evidenceGeneration, counter,
    mappedType := ⟨mappedType⟩, kind := ⟨kind⟩, scope := ⟨scope⟩, widthBits, generation,
    samplingEpoch, rawValue, bytesPerUnit, sequence, timestampNs, source, target, region,
    regionGeneration := region.map fun _ => regionGeneration, workload, topologyGeneration,
    provenance := ⟨provenance⟩, granularity := ⟨granularity⟩, metadata }

/-- `write_publisher_registration`. -/
def writePublisherRegistration (r : PublisherRegistration) : Written := .all [
  writeNameId r.id,
  u64 r.boot,
  writeNameId r.observer,
  writeNameId r.node,
  text r.displayName maxRegionAnnotationLength,
  u64 r.coordinatorEpoch,
  u64 r.evidenceGeneration,
  u64 r.samplingEpoch,
  u8 r.provenance.raw]

/-- `read_publisher_registration`. -/
def readPublisherRegistration : PayloadReader PublisherRegistration := do
  let id ← readNameId
  let boot ← PayloadReader.u64
  let observer ← readNameId
  let node ← readNameId
  let displayName ← PayloadReader.text maxRegionAnnotationLength
  let coordinatorEpoch ← PayloadReader.u64
  let evidenceGeneration ← PayloadReader.u64
  let samplingEpoch ← PayloadReader.u64
  let provenance ← requireEnum 10 "publisher provenance"
  return {
    id, boot, observer, node, displayName, coordinatorEpoch, evidenceGeneration,
    samplingEpoch, provenance := ⟨provenance⟩ }

/-- `write_node`. -/
def writeNode (r : NodeRecord) : Written := .all [
  writeNameId r.id,
  text r.displayName maxRegionAnnotationLength,
  u64 r.registeredAtNs.toUInt64]

/-- `read_node`. -/
def readNode : PayloadReader NodeRecord := do
  let id ← readNameId
  let displayName ← PayloadReader.text maxRegionAnnotationLength
  let registered ← PayloadReader.u64
  return { id, displayName, registeredAtNs := registered.toInt64 }

/-- `write_processor`. -/
def writeProcessor (r : ProcessorRecord) : Written := .all [
  writeNameId r.id,
  writeNameId r.node,
  writeNameId r.localMemoryDomain,
  u64 r.generation,
  u32 r.logicalProcessorCount,
  u32 r.physicalCoreCount,
  u32 r.numaNodeIndex,
  bool r.numaNodeIndexKnown,
  bool r.retired,
  u64 r.registeredAtNs.toUInt64]

/-- `read_processor`. -/
def readProcessor : PayloadReader ProcessorRecord := do
  let id ← readNameId
  let node ← readNameId
  let localMemoryDomain ← readNameId
  let generation ← PayloadReader.u64
  let logicalProcessorCount ← PayloadReader.u32
  let physicalCoreCount ← PayloadReader.u32
  let numaNodeIndex ← PayloadReader.u32
  let numaNodeIndexKnown ← readBool
  let retired ← readBool
  let registered ← PayloadReader.u64
  return {
    id, node, localMemoryDomain, generation, logicalProcessorCount, physicalCoreCount,
    numaNodeIndex, numaNodeIndexKnown, retired, registeredAtNs := registered.toInt64 }

/-- `write_accelerator`. -/
def writeAccelerator (r : AcceleratorRecord) : Written := .all [
  writeNameId r.id,
  writeNameId r.node,
  text r.vendor maxNameLength,
  text r.vendorUuid maxRegionAnnotationLength,
  writeNameId r.localMemoryDomain,
  u64 r.generation,
  bool r.peerCoherentCapable,
  bool r.peerCoherentCapabilityKnown,
  bool r.retired,
  u64 r.registeredAtNs.toUInt64]

/-- `read_accelerator`. -/
def readAccelerator : PayloadReader AcceleratorRecord := do
  let id ← readNameId
  let node ← readNameId
  let vendor ← PayloadReader.text maxNameLength
  let vendorUuid ← PayloadReader.text maxRegionAnnotationLength
  let localMemoryDomain ← readNameId
  let generation ← PayloadReader.u64
  let peerCoherentCapable ← readBool
  let peerCoherentCapabilityKnown ← readBool
  let retired ← readBool
  let registered ← PayloadReader.u64
  return {
    id, node, vendor, vendorUuid, localMemoryDomain, generation, peerCoherentCapable,
    peerCoherentCapabilityKnown, retired, registeredAtNs := registered.toInt64 }

/-- `write_memory_domain`. -/
def writeMemoryDomain (r : MemoryDomainRecord) : Written := .all [
  writeNameId r.id,
  writeNameId r.node,
  writeNameId r.coherenceDomain,
  u64 r.generation,
  u8 r.kind.raw,
  bool r.coherentWithHost,
  bool r.coherentWithHostKnown,
  bool r.capacityKnown,
  bool r.retired,
  u64 r.capacityBytes,
  u64 r.registeredAtNs.toUInt64]

/-- `read_memory_domain`. -/
def readMemoryDomain : PayloadReader MemoryDomainRecord := do
  let id ← readNameId
  let node ← readNameId
  let coherenceDomain ← readNameId
  let generation ← PayloadReader.u64
  let kind ← requireEnum 7 "memory domain kind"
  let coherentWithHost ← readBool
  let coherentWithHostKnown ← readBool
  let capacityKnown ← readBool
  let retired ← readBool
  let capacityBytes ← PayloadReader.u64
  let registered ← PayloadReader.u64
  return {
    id, node, coherenceDomain, generation, kind := ⟨kind⟩, coherentWithHost,
    coherentWithHostKnown, capacityKnown, retired, capacityBytes,
    registeredAtNs := registered.toInt64 }

/-- `write_coherence_domain`. -/
def writeCoherenceDomain (r : CoherenceDomainRecord) : Written := .all [
  writeNameId r.id,
  text r.protocolFamily maxRegionAnnotationLength,
  u64 r.generation,
  bool r.retired,
  u32 (UInt32.ofNat r.members.length),
  .all (r.members.map writeResourceRef),
  u64 r.registeredAtNs.toUInt64]

/-- `read_coherence_domain`. -/
def readCoherenceDomain : PayloadReader CoherenceDomainRecord := do
  let id ← readNameId
  let protocolFamily ← PayloadReader.text maxRegionAnnotationLength
  let generation ← PayloadReader.u64
  let retired ← readBool
  let memberCount ← PayloadReader.u32
  Reader.failIf (memberCount.toNat > maxTopologyLinkCount)
    (failWith .tooMany "coherence domain member count")
  let members ← Reader.many readResourceRef memberCount.toNat
  let registered ← PayloadReader.u64
  return {
    id, protocolFamily, generation, retired, members, registeredAtNs := registered.toInt64 }

/-- `write_region`. -/
def writeRegion (r : RegionRecord) : Written := .all [
  writeNameId r.id,
  text r.owner maxRegionAnnotationLength,
  text r.annotationText maxRegionAnnotationLength,
  writeNameId r.memoryDomain,
  writeNameId r.coherenceDomain,
  writeNameId r.workload,
  u64 r.generation,
  u64 r.memoryDomainGeneration,
  u64 r.opaqueHandle,
  u64 r.sizeBytes,
  u64 r.pageSizeBytes,
  u64 r.allocationGeneration,
  u64 r.mappingGeneration,
  u8 r.sharingScope.raw,
  bool r.sizeKnown,
  bool r.pageSizeKnown,
  bool r.retired,
  u64 r.registeredAtNs.toUInt64,
  u64 r.retiredAtNs.toUInt64]

/-- `read_region`. -/
def readRegion : PayloadReader RegionRecord := do
  let id ← readNameId
  let owner ← PayloadReader.text maxRegionAnnotationLength
  let annotationText ← PayloadReader.text maxRegionAnnotationLength
  let memoryDomain ← readNameId
  let coherenceDomain ← readNameId
  let workload ← readNameId
  let generation ← PayloadReader.u64
  let memoryDomainGeneration ← PayloadReader.u64
  let opaqueHandle ← PayloadReader.u64
  let sizeBytes ← PayloadReader.u64
  let pageSizeBytes ← PayloadReader.u64
  let allocationGeneration ← PayloadReader.u64
  let mappingGeneration ← PayloadReader.u64
  let sharingScope ← requireEnum 6 "sharing scope"
  let sizeKnown ← readBool
  let pageSizeKnown ← readBool
  let retired ← readBool
  let registered ← PayloadReader.u64
  let retiredAt ← PayloadReader.u64
  return {
    id, owner, annotationText, memoryDomain, coherenceDomain, workload, generation,
    memoryDomainGeneration, opaqueHandle, sizeBytes, pageSizeBytes, allocationGeneration,
    mappingGeneration, sharingScope := ⟨sharingScope⟩, sizeKnown, pageSizeKnown, retired,
    registeredAtNs := registered.toInt64, retiredAtNs := retiredAt.toInt64 }

/-- `write_topology_link`. -/
def writeTopologyLink (link : TopologyLink) : Written := .all [
  writeResourceRef link.source,
  writeResourceRef link.target,
  u8 link.locality.raw,
  u8 link.provenance.raw,
  i64 link.latencyNs,
  u64 link.bandwidthBytesPerSecond]

/-- `read_topology_link`. -/
def readTopologyLink : PayloadReader TopologyLink := do
  let source ← readResourceRef
  let target ← readResourceRef
  let locality ← requireEnum Locality.count "locality"
  let provenance ← requireEnum 10 "provenance"
  let latencyNs ← PayloadReader.i64
  let bandwidthBytesPerSecond ← PayloadReader.u64
  return {
    source, target, locality := ⟨locality⟩, provenance := ⟨provenance⟩, latencyNs,
    bandwidthBytesPerSecond }

/-- The bound on the detail of an acknowledgement. -/
def maxAckDetail : Nat := 256

/-- `write_ack`. -/
def writeAck (ack : AckPayload) : Written := .all [
  u16 ack.status.raw,
  u64 ack.coordinatorEpoch,
  u64 ack.observationEpoch,
  text ack.detail maxAckDetail,
  u64 ack.accepted,
  u64 ack.rejected,
  u64 ack.duplicates,
  u64 ack.late,
  u64 ack.missing,
  u64 ack.producedDelta,
  u64 ack.delta,
  u64 ack.discontinuity]

/-- The range check of `read_ack`. -/
def requireAckStatus (value : UInt16) : Except Error AckStatus :=
  match AckStatus.ofRaw value with
  | none => .error (failWith .invalidArgument "ack status out of range")
  | some status => .ok status

/-- `read_ack`. -/
def readAck : PayloadReader AckPayload := do
  let status ← PayloadReader.u16
  let status ← Reader.lift (requireAckStatus status)
  let coordinatorEpoch ← PayloadReader.u64
  let observationEpoch ← PayloadReader.u64
  let detail ← PayloadReader.text maxAckDetail
  let accepted ← PayloadReader.u64
  let rejected ← PayloadReader.u64
  let duplicates ← PayloadReader.u64
  let late ← PayloadReader.u64
  let missing ← PayloadReader.u64
  let producedDelta ← PayloadReader.u64
  let delta ← PayloadReader.u64
  let discontinuity ← PayloadReader.u64
  return {
    status, coordinatorEpoch, observationEpoch, detail, accepted, rejected, duplicates, late,
    missing, producedDelta, delta, discontinuity }

end Wire

end CoherenceObservatory
