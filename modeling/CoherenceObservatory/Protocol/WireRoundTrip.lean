import CoherenceObservatory.Metadata
import CoherenceObservatory.Protocol.Wire

/-!
# What survives the wire

The readers of `Protocol.Wire` undo its writers. The round trips are derivations of
`Codec.Carries`, one step per field, so a field read in another place or width than it was
written has no derivation. What a record must satisfy to survive is collected in the
structures `Sendable…`.
-/

namespace CoherenceObservatory

open Codec Limits

/-- What a reader makes of an observation: its metadata in key order, and nothing of what a
coordinator noted on accepting it. -/
def Observation.received (o : Observation) : Observation :=
  { o with metadata := o.metadata.sorted, acceptedEpoch := 0, late := false }

theorem Observation.contentHash_received (o : Observation) :
    o.received.contentHash = o.contentHash := by
  unfold Observation.contentHash Observation.received
  simp only [BoundedMetadata.canonicalHash_sorted]

variable {value : Text}

namespace Wire

/-! ## Fields -/

theorem carries_u8 (value : UInt8) : Carries (u8 value) PayloadReader.u8 value :=
  .always (PayloadReader.decodes_u8 value)

theorem carries_u16 (value : UInt16) : Carries (u16 value) PayloadReader.u16 value :=
  .always (PayloadReader.decodes_u16 value)

theorem carries_u32 (value : UInt32) : Carries (u32 value) PayloadReader.u32 value :=
  .always (PayloadReader.decodes_u32 value)

theorem carries_u64 (value : UInt64) : Carries (u64 value) PayloadReader.u64 value :=
  .always (PayloadReader.decodes_u64 value)

theorem carries_i64 (value : Int64) : Carries (i64 value) PayloadReader.i64 value :=
  .always (PayloadReader.decodes_i64 value)

theorem carries_bool (value : Bool) : Carries (bool value) readBool value :=
  .always ((PayloadReader.decodes_u8 _).ret (by cases value <;> rfl))

theorem carries_text {maxLength : Nat} (h : value.length ≤ maxLength) (hmax : maxLength < 2 ^ 32) :
    Carries (text value maxLength) (PayloadReader.text maxLength) value :=
  ⟨failIf_eq_ok.2 (Nat.not_lt.2 h), PayloadReader.decodes_text h hmax⟩

theorem carries_enum {value exclusiveMax : UInt8} (what : String) (h : value < exclusiveMax) :
    Carries (u8 value) (requireEnum exclusiveMax what) value :=
  (carries_u8 value).last (.seq (.failIf (by simpa using h)) (.pure value))

variable {token id : Text} {α : Type}

theorem decodes_parse (h : IsToken token) : Decodes (parse token) [] token :=
  .seq (.lift (validateIdentityToken_eq_ok.2 h)) (.pure token)

/-- An identity as the wire carries it: empty or a token. -/
def IsName (id : Text) : Prop := id = [] ∨ IsToken id

theorem IsName.length_le (h : IsName id) : id.length ≤ maxNameLength := by
  obtain rfl | h := h
  · exact Nat.zero_le _
  · exact h.length_le

theorem carries_nameId (h : IsName id) : Carries (writeNameId id) readNameId id := by
  refine (carries_text h.length_le (by decide)).last ?_
  split
  · next hid =>
    rw [hid]
    exact .pure []
  · next hid => exact decodes_parse (h.resolve_left hid)

/-- A reference to a resource, declared and named. -/
structure IsReference (ref : ResourceRef) : Prop where
  kind : ref.kind.raw < 6
  id : IsToken ref.id

theorem carries_resourceRef {ref : ResourceRef} (h : IsReference ref) :
    Carries (writeResourceRef ref) readResourceRef ref :=
  .cons (carries_enum _ h.kind) <| .cons (carries_text h.id.length_le (by decide)) <|
  .cons (carries_u64 _) <| .seq (decodes_parse h.id) <| .nil ref

theorem carries_optional {write : α → Written} {read : PayloadReader α} {o : Option α}
    (h : ∀ x ∈ o, Carries (write x) read x) :
    Carries (writeOptional write o) (readOptional read) o := by
  cases o with
  | none => exact .cons (carries_u8 0) (.nil none)
  | some x => exact .cons (carries_u8 1) (.cons (h x rfl) (.nil (some x)))

theorem carries_optionalName {id : Option Text} (h : ∀ x ∈ id, IsName x) :
    Carries (writeOptional writeNameId id) (readOptional readNameId) id :=
  carries_optional fun x hx => carries_nameId (h x hx)

theorem carries_optionalResource {ref : Option ResourceRef} (h : ∀ x ∈ ref, IsReference x) :
    Carries (writeOptionalResource ref) readOptionalResource ref :=
  carries_optional fun x hx => carries_resourceRef (h x hx)

/-- The loop of `read_metadata`, behind the entries it has already added. -/
theorem decodes_entries {m' : BoundedMetadata} :
    ∀ (l : List (Text × Text)) (m : BoundedMetadata), m'.entries = m.entries ++ l →
      Decodes (Reader.iterate readMetadataEntry l.length m) (l.flatMap writeMetadataEntry) m'
  | [], m, h => by
    obtain rfl : m' = m := BoundedMetadata.ext_entries (by simpa using h)
    exact .pure m'
  | e :: l, m, h => by
    obtain ⟨hkey, hlong, hvalue⟩ := m'.bounded e (by simp [h])
    obtain ⟨m₁, hadd, h₁⟩ := BoundedMetadata.add_eq_ok h
    have hentry : Decodes (readMetadataEntry m) (writeMetadataEntry e) m₁ :=
      (PayloadReader.decodes_text hlong (by decide)).bind
        ((PayloadReader.decodes_text hvalue (by decide)).last (.lift hadd))
    exact hentry.bind (decodes_entries l m₁ h₁)

theorem carries_metadata (m : BoundedMetadata) :
    Carries (writeMetadata m) readMetadata m.sorted := by
  have hle : m.sortedEntries.length ≤ 8 := m.sorted.length_le
  have hcount : (UInt32.ofNat m.sortedEntries.length).toNat = m.sortedEntries.length :=
    UInt32.toNat_ofNat_of_lt' (Nat.lt_of_le_of_lt hle (by decide))
  refine .always ((PayloadReader.decodes_u32 _).bind ?_)
  rw [hcount]
  exact .seq (.failIf (Nat.not_lt.2 hle)) (decodes_entries _ _ rfl)

/-! ## Observations -/

/-- An observation with declared enumerators and well-formed identities, whose generations
travel with what they are generations of. -/
structure SendableObservation (o : Observation) : Prop where
  type : o.type.raw < EventType.count
  sourcePublisher : IsName o.sourcePublisher
  source : ∀ x ∈ o.source, IsReference x
  target : ∀ x ∈ o.target, IsReference x
  region : ∀ x ∈ o.region, IsName x
  regionGeneration : o.regionGeneration.isSome = o.region.isSome
  coherenceDomain : ∀ x ∈ o.coherenceDomain, IsName x
  coherenceDomainGeneration : o.coherenceDomainGeneration.isSome = o.coherenceDomain.isSome
  workload : ∀ x ∈ o.workload, IsName x
  process : ∀ x ∈ o.process, IsName x
  direction : o.direction.raw < 6
  stateBefore : o.stateBefore.raw < 10
  stateAfter : o.stateAfter.raw < 10
  locality : o.locality.raw < Locality.count
  provenance : o.provenance.raw < 10
  precision : o.precision.raw < 7
  granularity : o.granularity.raw < 7

/-- A generation that is present exactly when its identity is comes back as it was. -/
theorem map_getD_of_isSome {id : Option α} {generation : Option UInt64}
    (h : generation.isSome = id.isSome) : (id.map fun _ => generation.getD 0) = generation := by
  cases id <;> cases generation <;> simp_all

/-- An observation comes back with its metadata in key order, and as one no coordinator has
accepted yet. -/
theorem carries_observation {o : Observation} (h : SendableObservation o) :
    Carries (writeObservation o) readObservation o.received := by
  -- The fields in the order of the source, each with the fact that makes its reader accept.
  refine .cons (carries_u64 _) <| .cons (carries_enum _ h.type) <|
    .cons (carries_nameId h.sourcePublisher) <| .cons (carries_u64 _) <|
    .cons (carries_u64 _) <| .cons (carries_u64 _) <| .cons (carries_u64 _) <|
    .cons (carries_u64 _) <| .cons (carries_i64 _) <|
    .cons (carries_optionalResource h.source) <| .cons (carries_optionalResource h.target) <|
    .cons (carries_optionalName h.region) <| .cons (carries_u64 _) <|
    .cons (carries_optionalName h.coherenceDomain) <| .cons (carries_u64 _) <|
    .cons (carries_u64 _) <| .cons (carries_optionalName h.workload) <|
    .cons (carries_optionalName h.process) <| .cons (carries_enum _ h.direction) <|
    .cons (carries_enum _ h.stateBefore) <| .cons (carries_enum _ h.stateAfter) <|
    .cons (carries_bool _) <| .cons (carries_u64 _) <| .cons (carries_u64 _) <|
    .cons (carries_u64 _) <| .cons (carries_u64 _) <| .cons (carries_u64 _) <|
    .cons (carries_u64 _) <| .cons (carries_i64 _) <| .cons (carries_enum _ h.locality) <|
    .cons (carries_bool _) <| .cons (carries_enum _ h.provenance) <|
    .cons (carries_enum _ h.precision) <| .cons (carries_enum _ h.granularity) <|
    .cons (carries_metadata _) ?_
  -- What is assembled from them is the observation.
  rw [map_getD_of_isSome h.regionGeneration, map_getD_of_isSome h.coherenceDomainGeneration]
  have hdelta : (if o.counterDelta.isSome then some (o.counterDelta.getD 0) else none) =
      o.counterDelta := by
    cases o.counterDelta <;> rfl
  rw [hdelta]
  exact .nil o.received

/-- An observation is written, and read back from in front of any other bytes as it was, its
    metadata in key order and without what a coordinator noted on accepting it; duplicate
    detection, which goes by the content hash, sees the same observation. -/
theorem observation_survives {o : Observation} (h : SendableObservation o) :
    (writeObservation o).2 = .ok () ∧
    Decodes readObservation (writeObservation o).1 o.received ∧
    o.received.metadata.entries.Perm o.metadata.entries ∧
    (o.received.metadata.entries.Pairwise fun a b => (compare a.1 b.1).isLE = true) ∧
    o.received.contentHash = o.contentHash :=
  ⟨(carries_observation h).ok, (carries_observation h).decodes, o.metadata.sortedEntries_perm,
    o.metadata.sortedEntries_pairwise, o.contentHash_received⟩

/-- Two entries that are not in key order. -/
def unordered : BoundedMetadata where
  entries := [(ascii "b", ascii "1"), (ascii "a", ascii "2")]
  length_le := by decide
  nodup := by decide
  bounded := by decide

/-- A remote write that names a processor, a region and metadata. -/
def remoteWrite : Observation where
  eventId := 7
  type := .RemoteWrite
  sourcePublisher := ascii "p"
  source := some ⟨.Processor, ascii "cpu0", 1⟩
  region := some (ascii "r")
  regionGeneration := some 3
  metadata := unordered
  late := true

theorem isToken_of_check (h : validateIdentityToken token = .ok ()) :
    IsToken token := validateIdentityToken_eq_ok.1 h

theorem sendable_remoteWrite : SendableObservation remoteWrite where
  type := by decide
  sourcePublisher := .inr (isToken_of_check (by decide))
  source := by
    rintro _ ⟨⟩
    exact ⟨by decide, isToken_of_check (by decide)⟩
  target := by rintro _ ⟨⟩
  region := by
    rintro _ ⟨⟩
    exact .inr (isToken_of_check (by decide))
  regionGeneration := rfl
  coherenceDomain := by rintro _ ⟨⟩
  coherenceDomainGeneration := rfl
  workload := by rintro _ ⟨⟩
  process := by rintro _ ⟨⟩
  direction := by decide
  stateBefore := by decide
  stateAfter := by decide
  locality := by decide
  provenance := by decide
  precision := by decide
  granularity := by decide

/-- The metadata arrives in the order of its keys. -/
theorem observation_survives_remoteWrite :
    SendableObservation remoteWrite ∧
    remoteWrite.received.metadata.entries = [(ascii "a", ascii "2"), (ascii "b", ascii "1")] ∧
    Decodes readObservation (writeObservation remoteWrite).1 remoteWrite.received :=
  ⟨sendable_remoteWrite, by decide, (observation_survives sendable_remoteWrite).2.1⟩

/-! ## Counter samples -/

/-- A sample that arrives as it is sent. -/
structure SendableCounter (c : CounterPublication) : Prop where
  publisher : IsName c.publisher
  counter : IsName c.counter
  mappedType : c.mappedType.raw < EventType.count
  kind : c.kind.raw < 5
  scope : c.scope.raw < 7
  source : ∀ x ∈ c.source, IsReference x
  target : ∀ x ∈ c.target, IsReference x
  region : ∀ x ∈ c.region, IsName x
  workload : ∀ x ∈ c.workload, IsName x
  provenance : c.provenance.raw < 10
  granularity : c.granularity.raw < 7

end Wire

/-- What a reader makes of a counter sample: its metadata in key order, and a region
generation exactly when there is a region, zero where it had none. -/
def CounterPublication.received (c : CounterPublication) : CounterPublication :=
  { c with
    regionGeneration := c.region.map fun _ => c.regionGeneration.getD 0
    metadata := c.metadata.sorted }

namespace Wire

/-- A counter sample comes back with its metadata in key order, and with a region generation
exactly when it has a region. -/
theorem carries_counterPublication {c : CounterPublication} (h : SendableCounter c) :
    Carries (writeCounterPublication c) readCounterPublication c.received :=
  .cons (carries_nameId h.publisher) <| .cons (carries_u64 _) <| .cons (carries_u64 _) <|
  .cons (carries_u64 _) <| .cons (carries_nameId h.counter) <|
  .cons (carries_enum _ h.mappedType) <| .cons (carries_enum _ h.kind) <|
  .cons (carries_enum _ h.scope) <| .cons (carries_u32 _) <| .cons (carries_u64 _) <|
  .cons (carries_u64 _) <| .cons (carries_u64 _) <| .cons (carries_u64 _) <|
  .cons (carries_u64 _) <| .cons (carries_i64 _) <|
  .cons (carries_optionalResource h.source) <| .cons (carries_optionalResource h.target) <|
  .cons (carries_optionalName h.region) <| .cons (carries_u64 _) <|
  .cons (carries_optionalName h.workload) <| .cons (carries_u64 _) <|
  .cons (carries_enum _ h.provenance) <| .cons (carries_enum _ h.granularity) <|
  .cons (carries_metadata _) <| .nil c.received

/-! ## Registrations and structure -/

/-- A text within the bound of an annotation. -/
def IsNote (text : Text) : Prop := text.length ≤ maxRegionAnnotationLength

theorem carries_note (h : IsNote value) :
    Carries (text value maxRegionAnnotationLength)
      (PayloadReader.text maxRegionAnnotationLength) value :=
  carries_text h (by decide)

/-- A registration that arrives as it is sent. -/
structure SendableRegistration (r : PublisherRegistration) : Prop where
  id : IsName r.id
  observer : IsName r.observer
  node : IsName r.node
  displayName : IsNote r.displayName
  provenance : r.provenance.raw < 10

theorem carries_publisherRegistration {r : PublisherRegistration} (h : SendableRegistration r) :
    Carries (writePublisherRegistration r) readPublisherRegistration r :=
  .cons (carries_nameId h.id) <| .cons (carries_u64 _) <| .cons (carries_nameId h.observer) <|
  .cons (carries_nameId h.node) <| .cons (carries_note h.displayName) <|
  .cons (carries_u64 _) <| .cons (carries_u64 _) <| .cons (carries_u64 _) <|
  .cons (carries_enum _ h.provenance) <| .nil r

/-- A node that arrives as it is sent. -/
structure SendableNode (r : NodeRecord) : Prop where
  id : IsName r.id
  displayName : IsNote r.displayName

theorem carries_node {r : NodeRecord} (h : SendableNode r) : Carries (writeNode r) readNode r :=
  .cons (carries_nameId h.id) <| .cons (carries_note h.displayName) <|
  .cons (carries_u64 _) <| .nil r

/-- A processor that arrives as it is sent. -/
structure SendableProcessor (r : ProcessorRecord) : Prop where
  id : IsName r.id
  node : IsName r.node
  localMemoryDomain : IsName r.localMemoryDomain

theorem carries_processor {r : ProcessorRecord} (h : SendableProcessor r) :
    Carries (writeProcessor r) readProcessor r :=
  .cons (carries_nameId h.id) <| .cons (carries_nameId h.node) <|
  .cons (carries_nameId h.localMemoryDomain) <| .cons (carries_u64 _) <|
  .cons (carries_u32 _) <| .cons (carries_u32 _) <| .cons (carries_u32 _) <|
  .cons (carries_bool _) <| .cons (carries_bool _) <| .cons (carries_u64 _) <| .nil r

/-- An accelerator that arrives as it is sent. -/
structure SendableAccelerator (r : AcceleratorRecord) : Prop where
  id : IsName r.id
  node : IsName r.node
  vendor : r.vendor.length ≤ maxNameLength
  vendorUuid : IsNote r.vendorUuid
  localMemoryDomain : IsName r.localMemoryDomain

theorem carries_accelerator {r : AcceleratorRecord} (h : SendableAccelerator r) :
    Carries (writeAccelerator r) readAccelerator r :=
  .cons (carries_nameId h.id) <| .cons (carries_nameId h.node) <|
  .cons (carries_text h.vendor (by decide)) <| .cons (carries_note h.vendorUuid) <|
  .cons (carries_nameId h.localMemoryDomain) <| .cons (carries_u64 _) <|
  .cons (carries_bool _) <| .cons (carries_bool _) <| .cons (carries_bool _) <|
  .cons (carries_u64 _) <| .nil r

/-- A memory domain that arrives as it is sent. -/
structure SendableMemoryDomain (r : MemoryDomainRecord) : Prop where
  id : IsName r.id
  node : IsName r.node
  coherenceDomain : IsName r.coherenceDomain
  kind : r.kind.raw < 7

theorem carries_memoryDomain {r : MemoryDomainRecord} (h : SendableMemoryDomain r) :
    Carries (writeMemoryDomain r) readMemoryDomain r :=
  .cons (carries_nameId h.id) <| .cons (carries_nameId h.node) <|
  .cons (carries_nameId h.coherenceDomain) <| .cons (carries_u64 _) <|
  .cons (carries_enum _ h.kind) <| .cons (carries_bool _) <| .cons (carries_bool _) <|
  .cons (carries_bool _) <| .cons (carries_bool _) <| .cons (carries_u64 _) <|
  .cons (carries_u64 _) <| .nil r

/-- A coherence domain that arrives as it is sent. -/
structure SendableCoherenceDomain (r : CoherenceDomainRecord) : Prop where
  id : IsName r.id
  protocolFamily : IsNote r.protocolFamily
  members : ∀ x ∈ r.members, IsReference x
  length_le : r.members.length ≤ maxTopologyLinkCount

theorem carries_coherenceDomain {r : CoherenceDomainRecord} (h : SendableCoherenceDomain r) :
    Carries (writeCoherenceDomain r) readCoherenceDomain r := by
  have hcount : (UInt32.ofNat r.members.length).toNat = r.members.length :=
    UInt32.toNat_ofNat_of_lt' (Nat.lt_of_le_of_lt h.length_le (by decide))
  refine .cons (carries_nameId h.id) <| .cons (carries_note h.protocolFamily) <|
    .cons (carries_u64 _) <| .cons (carries_bool _) <| .cons (carries_u32 _) ?_
  rw [hcount]
  exact .seq (.failIf (Nat.not_lt.2 h.length_le)) <|
    .cons (.many fun x hx => carries_resourceRef (h.members x hx)) <|
    .cons (carries_u64 _) <| .nil r

/-- A region that arrives as it is sent. -/
structure SendableRegion (r : RegionRecord) : Prop where
  id : IsName r.id
  owner : IsNote r.owner
  annotationText : IsNote r.annotationText
  memoryDomain : IsName r.memoryDomain
  coherenceDomain : IsName r.coherenceDomain
  workload : IsName r.workload
  sharingScope : r.sharingScope.raw < 6

/-- The structure records come back as they were. -/
theorem carries_region {r : RegionRecord} (h : SendableRegion r) :
    Carries (writeRegion r) readRegion { r with loadedFromState := false } :=
  .cons (carries_nameId h.id) <| .cons (carries_note h.owner) <|
  .cons (carries_note h.annotationText) <| .cons (carries_nameId h.memoryDomain) <|
  .cons (carries_nameId h.coherenceDomain) <| .cons (carries_nameId h.workload) <|
  .cons (carries_u64 _) <| .cons (carries_u64 _) <| .cons (carries_u64 _) <|
  .cons (carries_u64 _) <| .cons (carries_u64 _) <| .cons (carries_u64 _) <|
  .cons (carries_u64 _) <| .cons (carries_enum _ h.sharingScope) <| .cons (carries_bool _) <|
  .cons (carries_bool _) <| .cons (carries_bool _) <| .cons (carries_u64 _) <|
  .cons (carries_u64 _) <| .nil { r with loadedFromState := false }

/-- A link that arrives as it is sent. -/
structure SendableLink (link : TopologyLink) : Prop where
  source : IsReference link.source
  target : IsReference link.target
  locality : link.locality.raw < Locality.count
  provenance : link.provenance.raw < 10

theorem carries_topologyLink {link : TopologyLink} (h : SendableLink link) :
    Carries (writeTopologyLink link) readTopologyLink link :=
  .cons (carries_resourceRef h.source) <| .cons (carries_resourceRef h.target) <|
  .cons (carries_enum _ h.locality) <| .cons (carries_enum _ h.provenance) <|
  .cons (carries_i64 _) <| .cons (carries_u64 _) <| .nil link

theorem requireAckStatus_raw (status : AckStatus) : requireAckStatus status.raw = .ok status := by
  cases status <;> rfl

theorem carries_ack {ack : AckPayload} (h : ack.detail.length ≤ maxAckDetail) :
    Carries (writeAck ack) readAck ack :=
  .cons (carries_u16 _) <| .seq (.lift (requireAckStatus_raw _)) <| .cons (carries_u64 _) <|
  .cons (carries_u64 _) <| .cons (carries_text h (by decide)) <| .cons (carries_u64 _) <|
  .cons (carries_u64 _) <| .cons (carries_u64 _) <| .cons (carries_u64 _) <|
  .cons (carries_u64 _) <| .cons (carries_u64 _) <| .cons (carries_u64 _) <|
  .cons (carries_u64 _) <| .nil ack

/-- The control and structure records are written, and read back from in front of any other
    bytes: a counter sample with its metadata in key order and its region generation tied to
    its region, a region as one that was not loaded, and every other record as it was. -/
theorem records_survive :
    (∀ c, SendableCounter c →
      Carries (writeCounterPublication c) readCounterPublication c.received) ∧
    (∀ r, SendableRegistration r →
      Carries (writePublisherRegistration r) readPublisherRegistration r) ∧
    (∀ r, SendableNode r → Carries (writeNode r) readNode r) ∧
    (∀ r, SendableProcessor r → Carries (writeProcessor r) readProcessor r) ∧
    (∀ r, SendableAccelerator r → Carries (writeAccelerator r) readAccelerator r) ∧
    (∀ r, SendableMemoryDomain r → Carries (writeMemoryDomain r) readMemoryDomain r) ∧
    (∀ r, SendableCoherenceDomain r → Carries (writeCoherenceDomain r) readCoherenceDomain r) ∧
    (∀ r, SendableRegion r →
      Carries (writeRegion r) readRegion { r with loadedFromState := false }) ∧
    (∀ link, SendableLink link → Carries (writeTopologyLink link) readTopologyLink link) :=
  ⟨fun _ => carries_counterPublication, fun _ => carries_publisherRegistration,
    fun _ => carries_node, fun _ => carries_processor, fun _ => carries_accelerator,
    fun _ => carries_memoryDomain, fun _ => carries_coherenceDomain, fun _ => carries_region,
    fun _ => carries_topologyLink⟩

/-- A sample of a per-region counter that leaves the generation of its region out. -/
def regionSample : CounterPublication where
  publisher := ascii "p"
  counter := ascii "misses"
  scope := .PerRegion
  region := some (ascii "r")
  metadata := unordered

theorem sendable_regionSample : SendableCounter regionSample where
  publisher := .inr (isToken_of_check (by decide))
  counter := .inr (isToken_of_check (by decide))
  mappedType := by decide
  kind := by decide
  scope := by decide
  source := by rintro _ ⟨⟩
  target := by rintro _ ⟨⟩
  region := by
    rintro _ ⟨⟩
    exact .inr (isToken_of_check (by decide))
  workload := by rintro _ ⟨⟩
  provenance := by decide
  granularity := by decide

/-- A sample of a region, and a node. -/
theorem records_survive_regionSample :
    SendableCounter regionSample ∧ SendableNode { id := ascii "n" } ∧
    Carries (writeCounterPublication regionSample) readCounterPublication
      regionSample.received ∧
    Carries (writeNode { id := ascii "n" }) readNode { id := ascii "n" } := by
  have hnode : SendableNode { id := ascii "n" } :=
    ⟨.inr (isToken_of_check (by decide)), by unfold IsNote; decide⟩
  exact ⟨sendable_regionSample, hnode, records_survive.1 _ sendable_regionSample,
    records_survive.2.2.1 _ hnode⟩

/-- The sample comes back with its metadata reordered, and with a generation. -/
theorem regionSample_altered :
    SendableCounter regionSample ∧
    (writeCounterPublication regionSample).2 = .ok () ∧
    ∃ c, Decodes readCounterPublication (writeCounterPublication regionSample).1 c ∧
      regionSample.region ≠ none ∧
      c.regionGeneration ≠ regionSample.regionGeneration ∧
      c.metadata.entries ≠ regionSample.metadata.entries := by
  have hcarries := carries_counterPublication sendable_regionSample
  exact ⟨sendable_regionSample, hcarries.ok, _, hcarries.decodes, by decide, by decide,
    by decide⟩

end Wire

end CoherenceObservatory
