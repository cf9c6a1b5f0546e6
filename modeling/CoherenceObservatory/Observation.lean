import CoherenceObservatory.Lib.Codec
import CoherenceObservatory.Taxonomy

/-!
# Observations and counter publications

The two kinds of evidence a publisher can send, their structural validation, and
the content hash that tells a repeated event from a conflicting one.
Validation depends on the message alone; what depends on the runtime's state is
decided at ingestion.
-/

namespace CoherenceObservatory

open Limits

/-! ## Identities -/

abbrev PublisherId := Text
abbrev ObserverId := Text
abbrev NodeId := Text
abbrev ProcessorId := Text
abbrev AcceleratorId := Text
abbrev MemoryDomainId := Text
abbrev CoherenceDomainId := Text
abbrev MemoryRegionId := Text
abbrev WorkloadId := Text
abbrev ProcessId := Text
abbrev CounterId := Text
abbrev ResourceId := Text

abbrev PublisherBootId := UInt64
abbrev CoordinatorEpoch := UInt64
abbrev ObservationEpoch := UInt64
abbrev SamplingEpoch := UInt64
abbrev TopologyGeneration := UInt64
abbrev EvidenceGeneration := UInt64
abbrev CounterGeneration := UInt64
abbrev DeviceGeneration := UInt64
abbrev MemoryDomainGeneration := UInt64
abbrev CoherenceDomainGeneration := UInt64
abbrev MemoryRegionGeneration := UInt64
abbrev EventSequence := UInt64
abbrev CoherenceEventId := UInt64

/-- A reference to a registered resource at a specific generation. -/
structure ResourceRef where
  kind : ResourceKind := .Unknown
  id : ResourceId := []
  generation : UInt64 := 0
  deriving DecidableEq

/-! ## FNV-1a -/

/-- The offset basis. -/
def fnv1aInit : UInt64 := 1469598103934665603

/-- `fnv1a_bytes`. -/
def fnv1a (state : UInt64) (bytes : List UInt8) : UInt64 :=
  bytes.foldl (fun h b => (h ^^^ b.toUInt64) * 1099511628211) state

/-- `fnv1a_u64`: the eight bytes of the number. -/
def fnv1aU64 (state value : UInt64) : UInt64 := fnv1a state (Codec.toLE 8 value.toNat)

/-- A text is hashed behind its length. -/
def fnv1aStr (state : UInt64) (text : Text) : UInt64 :=
  fnv1a (fnv1aU64 state (UInt64.ofNat text.length)) text

/-! ## Metadata -/

/-- Bounded backend metadata. The entries are private to the class and only grow
through `add`, so they keep its bounds. -/
structure BoundedMetadata where
  entries : List (Text × Text)
  length_le : entries.length ≤ maxMetadataEntries
  nodup : (entries.map Prod.fst).Nodup
  bounded : ∀ e ∈ entries, e.1 ≠ [] ∧ e.1.length ≤ maxMetadataKeyLength ∧
    e.2.length ≤ maxMetadataValueLength

namespace BoundedMetadata

/-- No metadata. -/
def empty : BoundedMetadata := ⟨[], by simp, by simp, by simp⟩

/-- `BoundedMetadata::add`. -/
def add (m : BoundedMetadata) (key value : Text) : Except Error BoundedMetadata :=
  if hkey : key = [] then
    .error (failWith .invalidArgument "metadata key must not be empty")
  else if hlong : key.length > maxMetadataKeyLength then
    .error (failWith .tooLarge "metadata key exceeds maximum length")
  else if hvalue : value.length > maxMetadataValueLength then
    .error (failWith .tooLarge "metadata value exceeds maximum length")
  else if hfull : m.entries.length ≥ maxMetadataEntries then
    .error (failWith .tooMany "metadata entry limit reached")
  else if hdup : key ∈ m.entries.map Prod.fst then
    .error (failWith .alreadyExists "duplicate metadata key" key)
  else
    .ok
      { entries := m.entries ++ [(key, value)]
        length_le := by simpa using hfull
        nodup := by
          rw [List.map_append, List.nodup_append]
          refine ⟨m.nodup, by simp, ?_⟩
          rintro a ha b hb rfl
          obtain rfl : a = key := by simpa using hb
          exact hdup ha
        bounded := by
          intro e he
          rcases List.mem_append.1 he with he | he
          · exact m.bounded e he
          · obtain rfl : e = (key, value) := by simpa using he
            exact ⟨hkey, by simpa using hlong, by simpa using hvalue⟩ }

/-- `contains`. -/
def contains (m : BoundedMetadata) (key : Text) : Bool := m.entries.any fun e => e.1 == key

/-- `sorted_entries`: by key. -/
def sortedEntries (m : BoundedMetadata) : List (Text × Text) :=
  m.entries.insertionSort fun a b => (compare a.1 b.1).isLE = true

/-- `canonical_hash`: over the entries in key order. -/
def canonicalHash (m : BoundedMetadata) : UInt64 :=
  m.sortedEntries.foldl (fun h e => fnv1aStr (fnv1aStr h e.1) e.2) fnv1aInit

end BoundedMetadata

/-! ## Observations -/

/-- One coherence observation. -/
structure Observation where
  eventId : CoherenceEventId := 0
  type : EventType := .UnknownCoherenceEvent
  sourcePublisher : PublisherId := []
  publisherBoot : PublisherBootId := 0
  coordinatorEpoch : CoordinatorEpoch := 0
  samplingEpoch : SamplingEpoch := 0
  evidenceGeneration : EvidenceGeneration := 0
  sequence : EventSequence := 0
  timestampNs : Nanos := 0
  source : Option ResourceRef := none
  target : Option ResourceRef := none
  region : Option MemoryRegionId := none
  regionGeneration : Option MemoryRegionGeneration := none
  coherenceDomain : Option CoherenceDomainId := none
  coherenceDomainGeneration : Option CoherenceDomainGeneration := none
  topologyGeneration : TopologyGeneration := 0
  workload : Option WorkloadId := none
  process : Option ProcessId := none
  direction : AccessDirection := .None
  stateBefore : CoherenceState := .Unknown
  stateAfter : CoherenceState := .Unknown
  counterDelta : Option UInt64 := none
  counterGeneration : CounterGeneration := 0
  bytes : UInt64 := 0
  lines : UInt64 := 0
  pages : UInt64 := 0
  regionCount : UInt64 := 0
  measuredDurationNs : Int64 := -1
  locality : Locality := .Unknown
  localityDeclared : Bool := false
  provenance : Provenance := .Unknown
  precision : Precision := .Unknown
  granularity : EvidenceGranularity := .Unknown
  metadata : BoundedMetadata := .empty
  acceptedEpoch : ObservationEpoch := 0
  late : Bool := false

namespace Observation

/-- The hash of a resource reference behind the tag of its role. -/
def hashRef (h : UInt64) (tag : UInt64) : Option ResourceRef → UInt64
  | none => h
  | some ref =>
    fnv1aU64 (fnv1aStr (fnv1aU64 (fnv1aU64 h tag) ref.kind.raw.toUInt64) ref.id) ref.generation

/-- The hash of an identity with its generation, zero when absent. -/
def hashNamed (h : UInt64) (tag : UInt64) (id : Option Text) (generation : Option UInt64) :
    UInt64 :=
  match id with
  | none => h
  | some id => fnv1aU64 (fnv1aStr (fnv1aU64 h tag) id) (generation.getD 0)

/-- A name is hashed without a tag, if there is one. -/
def hashText (h : UInt64) : Option Text → UInt64
  | none => h
  | some text => fnv1aStr h text

/-- `Observation::content_hash`. -/
def contentHash (o : Observation) : UInt64 :=
  let h := [o.eventId, o.type.raw.toUInt64].foldl fnv1aU64 fnv1aInit
  let h := fnv1aStr h o.sourcePublisher
  let h := [o.publisherBoot, o.coordinatorEpoch, o.samplingEpoch, o.evidenceGeneration,
    o.sequence, o.timestampNs.toUInt64].foldl fnv1aU64 h
  let h := hashRef h 1 o.source
  let h := hashRef h 2 o.target
  let h := hashNamed h 3 o.region o.regionGeneration
  let h := hashNamed h 4 o.coherenceDomain o.coherenceDomainGeneration
  let h := fnv1aU64 h o.topologyGeneration
  let h := hashText h o.workload
  let h := hashText h o.process
  let h := [o.direction.raw.toUInt64, o.stateBefore.raw.toUInt64,
    o.stateAfter.raw.toUInt64].foldl fnv1aU64 h
  let h := match o.counterDelta with
    | none => h
    | some delta => fnv1aU64 (fnv1aU64 h 5) delta
  [o.counterGeneration, o.bytes, o.lines, o.pages, o.regionCount,
    o.measuredDurationNs.toUInt64, o.locality.raw.toUInt64,
    if o.localityDeclared then 1 else 0, o.provenance.raw.toUInt64, o.precision.raw.toUInt64,
    o.granularity.raw.toUInt64, o.metadata.canonicalHash].foldl fnv1aU64 h

/-- The reality implied by the provenance. -/
def reality (o : Observation) : Reality := o.provenance.realityOf

end Observation

/-! ## Structural validation -/

/-- A failed check under another message; the original message becomes the context. -/
def relabel (message : Text) : Status → Status
  | .ok () => .ok ()
  | .error e => .error { code := e.code, message, context := e.message }

/-- `validate_resource_ref`. A kind outside the enumeration meets no case of the
source's switch and passes. -/
def validateResourceRef (ref : ResourceRef) (role : String) : Status := do
  failIf (ref.id = []) ⟨.invalidArgument, ascii role ++ ascii " resource id is empty", []⟩
  relabel (ascii role ++ ascii " resource id invalid") (validateIdentityToken ref.id)
  failIf (ref.kind = .Node ∧ ref.generation ≠ 0)
    ⟨.invalidArgument, ascii role ++ ascii " node reference must not carry a device generation", []⟩
  failIf ((ref.kind = .Processor ∨ ref.kind = .Accelerator ∨ ref.kind = .MemoryDomain ∨
      ref.kind = .CoherenceDomain) ∧ ref.generation = 0)
    ⟨.invalidArgument, ascii role ++ ascii " reference requires a non-zero generation", []⟩
  failIf (ref.kind = .Unknown)
    ⟨.invalidArgument, ascii role ++ ascii " reference has unknown resource kind", []⟩

/-- An optional part is checked when present. -/
def whenSome {α : Type} (check : α → Status) : Option α → Status
  | none => .ok ()
  | some x => check x

/-- An identity that must travel with a non-zero generation, and a generation
that must not travel alone. -/
def validateNamed (id : Option Text) (generation : Option UInt64)
    (invalid needsGeneration alone : String) : Status :=
  match id with
  | some id => do
    relabel (ascii invalid) (validateIdentityToken id)
    failIf (generation.getD 0 = 0) (failWith .invalidArgument needsGeneration)
  | none => failIf generation.isSome (failWith .invalidArgument alone)

/-- A timestamp outside `[0, 2^62]`. -/
def timestampOutOfRange (t : Nanos) : Prop := t < 0 ∨ t.toUInt64 > maxTimestampNs

instance (t : Nanos) : Decidable (timestampOutOfRange t) :=
  inferInstanceAs (Decidable (_ ∨ _))

/-- The metadata key a backend names its event under. -/
def backendEventKey : Text := ascii "backend.event"

/-- The identity part of `validate_observation_structure`. -/
def validateIdentity (o : Observation) : Status := do
  failIf (o.eventId = 0) (failWith .invalidArgument "event id must be non-zero")
  failIf (o.type.raw ≥ EventType.count) (failWith .invalidArgument "event type out of range")
  failIf (o.sourcePublisher = []) (failWith .invalidArgument "source publisher is empty")
  relabel (ascii "source publisher identity invalid") (validateIdentityToken o.sourcePublisher)
  failIf (o.publisherBoot = 0)
    (failWith .invalidArgument "publisher boot identity must be non-zero")
  failIf (timestampOutOfRange o.timestampNs)
    (failWith .outOfRange "observation timestamp out of range")
  failIf (o.sequence = 0) (failWith .invalidArgument "event sequence must be non-zero")

/-- The subject and object part of `validate_observation_structure`. -/
def validateSubject (o : Observation) : Status := do
  whenSome (validateResourceRef · "source") o.source
  whenSome (validateResourceRef · "target") o.target
  match o.source, o.target with
  | some source, some target =>
    failIf (source.kind = target.kind ∧ source.id = target.id)
      (failWith .invalidArgument "source and target refer to the same resource" source.id)
  | _, _ => .ok ()
  validateNamed o.region o.regionGeneration "region identity invalid"
    "a region reference must carry a non-zero region generation"
    "region generation present without a region"
  validateNamed o.coherenceDomain o.coherenceDomainGeneration "coherence domain identity invalid"
    "a coherence domain reference must carry a non-zero generation"
    "coherence domain generation present without a domain"
  whenSome (fun w => relabel (ascii "workload identity invalid") (validateIdentityToken w))
    o.workload
  whenSome (fun p => relabel (ascii "process identity invalid") (validateIdentityToken p))
    o.process

/-- The range checks of `validate_observation_structure`. The locality is compared
with the number of localities itself, so that number passes. -/
def validateRanges (o : Observation) : Status := do
  failIf (o.direction.raw > 5) (failWith .invalidArgument "access direction out of range")
  failIf (o.stateBefore.raw > 9 ∨ o.stateAfter.raw > 9)
    (failWith .invalidArgument "coherence state out of range")
  failIf (o.locality.raw > Locality.count)
    (failWith .invalidArgument "locality class out of range")
  failIf (o.provenance.raw > 9) (failWith .invalidArgument "provenance out of range")
  failIf (o.precision.raw > 6) (failWith .invalidArgument "precision out of range")
  failIf (o.granularity.raw > 6) (failWith .invalidArgument "evidence granularity out of range")
  failIf (o.bytes > maxByteCount)
    (failWith .outOfRange "byte count exceeds the maximum accepted value")
  failIf (o.lines > maxLineCount ∨ o.pages > maxLineCount)
    (failWith .outOfRange "line/page count exceeds the maximum accepted value")
  failIf (o.regionCount.toNat > maxRegionCount)
    (failWith .outOfRange "region count exceeds the maximum accepted value")
  failIf (o.measuredDurationNs < -1 ∨ o.measuredDurationNs > maxMeasuredDurationNs)
    (failWith .outOfRange "measured duration out of range")

/-- The consistency checks of `validate_observation_structure`. -/
def validateClaims (o : Observation) : Status := do
  failIf (o.precision.rank ≥ Precision.ExactCounterDelta.rank ∧ o.granularity = .Unknown)
    (failWith .invalidArgument "exact precision requires an explicit evidence granularity")
  failIf (o.counterDelta.isSome ∧ o.precision = .ExactEvent)
    (failWith .invalidArgument "counter-derived evidence must not claim exact-event precision")
  failIf (o.counterDelta.isSome ∧ o.counterGeneration = 0)
    (failWith .invalidArgument "counter-derived evidence requires a non-zero counter generation")
  failIf (o.counterDelta = none ∧ o.counterGeneration ≠ 0)
    (failWith .invalidArgument "counter generation present without a counter delta")
  failIf (¬o.localityDeclared ∧ o.locality ≠ .Unknown)
    (failWith .invalidArgument "locality class present without the declared flag")
  failIf (o.type = .UnknownCoherenceEvent ∧ ¬o.metadata.contains backendEventKey)
    (failWith .invalidArgument "unknown coherence event must retain backend event detail"
      backendEventKey)

/-- `validate_observation_structure`. -/
def validateObservationStructure (o : Observation) : Status := do
  validateIdentity o
  validateSubject o
  validateRanges o
  validateClaims o

/-! ## Counter publications -/

/-- One raw counter reading. -/
structure CounterPublication where
  publisher : PublisherId := []
  publisherBoot : PublisherBootId := 0
  coordinatorEpoch : CoordinatorEpoch := 0
  evidenceGeneration : EvidenceGeneration := 0
  counter : CounterId := []
  mappedType : EventType := .UnknownCoherenceEvent
  kind : CounterKind := .Absolute
  scope : CounterScope := .Unknown
  widthBits : UInt32 := 64
  generation : CounterGeneration := 0
  samplingEpoch : SamplingEpoch := 0
  rawValue : UInt64 := 0
  bytesPerUnit : UInt64 := 0
  sequence : EventSequence := 0
  timestampNs : Nanos := 0
  source : Option ResourceRef := none
  target : Option ResourceRef := none
  region : Option MemoryRegionId := none
  regionGeneration : Option MemoryRegionGeneration := none
  workload : Option WorkloadId := none
  topologyGeneration : TopologyGeneration := 0
  provenance : Provenance := .Unknown
  granularity : EvidenceGranularity := .Unknown
  metadata : BoundedMetadata := .empty

/-- The region part of `validate_counter_publication`. -/
def validateCounterRegion (c : CounterPublication) : Status :=
  if c.region.isSome then do
    failIf (c.scope ≠ .PerRegion)
      (failWith .invalidArgument
        "a counter that is not genuinely per-region must not name a region" c.scope.toText)
    failIf (c.regionGeneration.getD 0 = 0)
      (failWith .invalidArgument "per-region counter requires a non-zero region generation")
  else do
    failIf (c.scope = .PerRegion)
      (failWith .invalidArgument "per-region counter requires a region identity")
    failIf c.regionGeneration.isSome
      (failWith .invalidArgument "region generation present without a region on a counter")

/-- `validate_counter_publication`. The publisher's name is only checked to be non-empty. -/
def validateCounterPublication (c : CounterPublication) : Status := do
  failIf (c.publisher = []) (failWith .invalidArgument "counter publisher is empty")
  failIf (c.publisherBoot = 0)
    (failWith .invalidArgument "counter publisher boot must be non-zero")
  failIf (c.counter = []) (failWith .invalidArgument "counter identity is empty")
  relabel (ascii "counter identity invalid") (validateIdentityToken c.counter)
  failIf (c.mappedType.raw ≥ EventType.count)
    (failWith .invalidArgument "counter mapped event type out of range")
  failIf (c.kind.raw > 4) (failWith .invalidArgument "counter kind out of range")
  failIf (c.scope.raw > 6) (failWith .invalidArgument "counter scope out of range")
  failIf (c.scope = .Unknown) (failWith .invalidArgument "counter scope must be stated")
  failIf (c.widthBits = 0 ∨ c.widthBits > 64)
    (failWith .outOfRange "counter width out of range")
  failIf (c.bytesPerUnit > maxByteCount)
    (failWith .outOfRange "counter bytes-per-unit out of range")
  failIf (c.sequence = 0) (failWith .invalidArgument "counter sequence must be non-zero")
  failIf (timestampOutOfRange c.timestampNs)
    (failWith .outOfRange "counter timestamp out of range")
  failIf (c.provenance.raw > 9) (failWith .invalidArgument "counter provenance out of range")
  failIf (c.granularity.raw > 6) (failWith .invalidArgument "counter granularity out of range")
  validateCounterRegion c
  failIf (c.scope ≠ .PerRegion ∧ c.granularity.rank > EvidenceGranularity.Device.rank)
    (failWith .invalidArgument "counter scope cannot support the claimed evidence granularity"
      c.scope.toText)
  failIf ((c.scope = .PerDevice ∨ c.scope = .PerDomain ∨ c.scope = .PerLink) ∧ c.source = none)
    (failWith .invalidArgument "a device/domain/link scoped counter requires a source resource")

end CoherenceObservatory
