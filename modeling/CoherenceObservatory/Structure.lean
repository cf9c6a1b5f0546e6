import CoherenceObservatory.State

/-!
# Structural registration

Nodes, processors, accelerators, domains, regions, topology links, capabilities and the
cost model. Every operation validates its record against the state and, only when all
checks pass, replaces one entry; a refused request leaves the state as it was (`commit`).
-/

namespace CoherenceObservatory

open Std Limits

/-- Applies an update when the check passes. -/
def commit (s : State) (check : Status) (next : State) : Status × State :=
  match check with
  | .ok () => (.ok (), next)
  | .error e => (.error e, s)

/-- An operation failed and changed nothing, or passed its checks. -/
theorem commit_cases (s : State) (check : Status) (next : State) :
    (∃ e, check = .error e ∧ commit s check next = (.error e, s)) ∨
      (check = .ok () ∧ commit s check next = (.ok (), next)) := by
  cases check with
  | ok u => exact .inr ⟨rfl, rfl⟩
  | error e => exact .inl ⟨e, rfl, rfl⟩

variable {s : State} {α : Type} {key : Text}

/-- A property of the state before and of the next state when the check passes. -/
theorem commit_induction {P : State → Prop} {next : State} {check : Status} (hs : P s)
    (hnext : check = .ok () → P next) : P (commit s check next).2 := by
  rcases commit_cases s check next with ⟨e, _, h⟩ | ⟨hok, h⟩ <;> rw [h]
  · exact hs
  · exact hnext hok

/-- `resource_is_current`: registered under the stated kind and generation, and not retired. -/
def resourceIsCurrent (s : State) (ref : ResourceRef) : Bool :=
  if ref.kind = .Processor then
    s.processors[ref.id]?.any fun r => !r.retired && r.generation == ref.generation
  else if ref.kind = .Accelerator then
    s.accelerators[ref.id]?.any fun r => !r.retired && r.generation == ref.generation
  else if ref.kind = .MemoryDomain then
    s.memoryDomains[ref.id]?.any fun r => !r.retired && r.generation == ref.generation
  else if ref.kind = .CoherenceDomain then
    s.coherenceDomains[ref.id]?.any fun r => !r.retired && r.generation == ref.generation
  else if ref.kind = .Node then s.nodes.contains ref.id
  else false

/-- A record registered without a time gets the clock's. -/
def stamp (registeredAtNs now : Nanos) : Nanos := if registeredAtNs = 0 then now else registeredAtNs

/-- A new entry needs room; an existing one must not lose generations. -/
def checkSlot {α : Type} (m : ExtTreeMap Text α) (key : Text) (capacity : Nat)
    (generationOf : α → UInt64) (generation : UInt64) (what full : String) : Status :=
  match m[key]? with
  | none => failIf (m.size ≥ capacity) (failWith .tooMany full)
  | some existing =>
    failIf (generation < generationOf existing)
      ⟨.staleGeneration, ascii what ++ ascii " generation would roll back",
        ascii "existing=" ++ formatU64 (generationOf existing) ++ ascii " incoming=" ++
          formatU64 generation⟩

/-- A named entry must exist. -/
def checkReference {α : Type} (m : ExtTreeMap Text α) (key : Text) (message : String) : Status :=
  failIf (key ≠ [] ∧ key ∉ m) (failWith .invalidArgument message key)

/-- A slot check keeps generations from rolling back. -/
theorem checkSlot_generation {m : ExtTreeMap Text α} {capacity : Nat} {generationOf : α → UInt64}
    {generation : UInt64} {what full : String}
    (h : checkSlot m key capacity generationOf generation what full = .ok ()) {existing : α}
    (hexisting : m[key]? = some existing) : generationOf existing ≤ generation := by
  rw [checkSlot, hexisting] at h
  exact UInt64.not_lt.1 (failIf_eq_ok.1 h)

theorem checkReference_eq_ok {m : ExtTreeMap Text α} {message : String}
    (h : checkReference m key message = .ok ()) : key = [] ∨ key ∈ m := by
  have := failIf_eq_ok.1 h
  tauto

/-! ## Nodes and devices -/

/-- The checks of `register_node`. -/
def checkNode (s : State) (r : NodeRecord) : Status := do
  validateIdentityToken r.id
  failIf (r.displayName.length > maxRegionAnnotationLength)
    (failWith .tooLarge "node display name too long")
  failIf (r.id ∉ s.nodes ∧ s.nodes.size ≥ maxNodeCount)
    (failWith .tooMany "node capacity reached")

/-- `register_node`. -/
def registerNode (s : State) (r : NodeRecord) (now : Nanos) : Status × State :=
  commit s (checkNode s r)
    { s with nodes := s.nodes.insert r.id { r with registeredAtNs := stamp r.registeredAtNs now } }

/-- The checks, in the source's order. A processor's node is not among them. -/
def checkProcessor (s : State) (r : ProcessorRecord) : Status := do
  validateIdentityToken r.id
  failIf (r.generation = 0) (failWith .invalidArgument "processor generation must be non-zero")
  checkSlot s.processors r.id maxProcessorCount ProcessorRecord.generation r.generation
    "processor" "processor capacity reached"
  checkReference s.memoryDomains r.localMemoryDomain
    "processor references an unregistered memory domain"

/-- `register_processor`. -/
def registerProcessor (s : State) (r : ProcessorRecord) (now : Nanos) : Status × State :=
  commit s (checkProcessor s r)
    { s with
      processors := s.processors.insert r.id { r with registeredAtNs := stamp r.registeredAtNs now } }

/-- The checks of `register_accelerator`. -/
def checkAccelerator (s : State) (r : AcceleratorRecord) : Status := do
  validateIdentityToken r.id
  failIf (r.generation = 0) (failWith .invalidArgument "accelerator generation must be non-zero")
  failIf (r.vendor.length > maxNameLength ∨
      r.vendorUuid.length > maxRegionAnnotationLength)
    (failWith .tooLarge "accelerator description too long")
  checkSlot s.accelerators r.id maxAcceleratorCount AcceleratorRecord.generation
    r.generation "accelerator" "accelerator capacity reached"
  failIf (s.accelerators[r.id]?.any fun existing =>
      existing.vendorUuid ≠ r.vendorUuid ∧ r.vendorUuid ≠ [] ∧ existing.vendorUuid ≠ [])
    (failWith .conflict "accelerator identity would change meaning without a generation change"
      r.id)
  checkReference s.memoryDomains r.localMemoryDomain
    "accelerator references an unregistered memory domain"

/-- `register_accelerator`. -/
def registerAccelerator (s : State) (r : AcceleratorRecord) (now : Nanos) : Status × State :=
  commit s (checkAccelerator s r)
    { s with
      accelerators :=
        s.accelerators.insert r.id { r with registeredAtNs := stamp r.registeredAtNs now } }

/-! ## Domains and regions -/

/-- The checks of `register_memory_domain`. -/
def checkMemoryDomain (s : State) (r : MemoryDomainRecord) : Status := do
  validateIdentityToken r.id
  failIf (r.generation = 0)
    (failWith .invalidArgument "memory domain generation must be non-zero")
  failIf (¬r.kind.raw < 7) (failWith .invalidArgument "memory domain kind out of range")
  failIf (r.capacityKnown ∧ r.capacityBytes > maxByteCount)
    (failWith .outOfRange "memory domain capacity out of range")
  checkSlot s.memoryDomains r.id maxMemoryDomainCount MemoryDomainRecord.generation
    r.generation "memory domain" "memory domain capacity reached"
  checkReference s.coherenceDomains r.coherenceDomain
    "memory domain references an unregistered coherence domain"

/-- `register_memory_domain`. -/
def registerMemoryDomain (s : State) (r : MemoryDomainRecord) (now : Nanos) : Status × State :=
  commit s (checkMemoryDomain s r)
    { s with
      memoryDomains :=
        s.memoryDomains.insert r.id { r with registeredAtNs := stamp r.registeredAtNs now } }

/-- Each member in turn must be named and current. -/
def checkMembers (s : State) : List ResourceRef → Status
  | [] => .ok ()
  | member :: members => do
    failIf (member.id = [])
      (failWith .invalidArgument "coherence domain member reference is empty")
    failIf (¬resourceIsCurrent s member)
      (failWith .invalidArgument "coherence domain member is not a current registered resource"
        (resourceText member))
    checkMembers s members

/-- The checks of `register_coherence_domain`. -/
def checkCoherenceDomain (s : State) (r : CoherenceDomainRecord) : Status := do
  validateIdentityToken r.id
  failIf (r.generation = 0)
    (failWith .invalidArgument "coherence domain generation must be non-zero")
  failIf (r.protocolFamily.length > maxRegionAnnotationLength)
    (failWith .tooLarge "coherence domain protocol family too long")
  failIf (r.members.length > maxTopologyLinkCount)
    (failWith .tooMany "too many coherence domain members")
  checkSlot s.coherenceDomains r.id maxCoherenceDomainCount
    CoherenceDomainRecord.generation r.generation "coherence domain"
    "coherence domain capacity reached"
  checkMembers s r.members

/-- `register_coherence_domain`. -/
def registerCoherenceDomain (s : State) (r : CoherenceDomainRecord) (now : Nanos) :
    Status × State :=
  commit s (checkCoherenceDomain s r)
    { s with
      coherenceDomains :=
        s.coherenceDomains.insert r.id { r with registeredAtNs := stamp r.registeredAtNs now } }

/-- `is_power_of_two`. -/
def isPowerOfTwo (value : UInt64) : Bool := value != 0 && (value &&& (value - 1)) == 0

/-- The generation a region binds its memory domain at: the domain's own when left open. -/
def boundGeneration (s : State) (r : RegionRecord) : MemoryDomainGeneration :=
  match s.memoryDomains[r.memoryDomain]? with
  | none => r.memoryDomainGeneration
  | some domain =>
    if r.memoryDomain ≠ [] ∧ r.memoryDomainGeneration = 0 then domain.generation
    else r.memoryDomainGeneration

/-- The checks of `register_region`. -/
def checkRegion (s : State) (r : RegionRecord) : Status := do
  validateIdentityToken r.id
  failIf (r.generation = 0) (failWith .invalidArgument "region generation must be non-zero")
  failIf (¬r.sharingScope.raw < 6) (failWith .invalidArgument "sharing scope out of range")
  failIf (r.owner.length > maxRegionAnnotationLength ∨
      r.annotationText.length > maxRegionAnnotationLength)
    (failWith .tooLarge "region annotation too long")
  failIf (r.sizeKnown ∧ r.sizeBytes > maxByteCount)
    (failWith .outOfRange "region size out of range")
  failIf (r.pageSizeKnown ∧ (¬isPowerOfTwo r.pageSizeBytes ∨ r.pageSizeBytes > 1073741824))
    (failWith .invalidArgument "region page size must be a power of two")
  checkSlot s.regions r.id maxRegionCount RegionRecord.generation r.generation
    "region" "region capacity reached"
  failIf (s.regions[r.id]?.any fun existing => existing.retired ∧ r.generation = existing.generation)
    (failWith .retiredEntity
      "region generation is retired and cannot be re-registered at the same generation" r.id)
  checkReference s.memoryDomains r.memoryDomain "region references an unregistered memory domain"
  failIf (r.memoryDomain ≠ [] ∧ r.memoryDomainGeneration ≠ 0 ∧
      s.memoryDomains[r.memoryDomain]?.any fun domain =>
        domain.generation ≠ r.memoryDomainGeneration)
    (failWith .staleGeneration "region references a superseded memory domain generation"
      r.memoryDomain)
  checkReference s.coherenceDomains r.coherenceDomain
    "region references an unregistered coherence domain"

/-- `register_region`. -/
def registerRegion (s : State) (r : RegionRecord) (now : Nanos) : Status × State :=
  commit s (checkRegion s r)
    { s with
      regions := s.regions.insert r.id
        { r with
          memoryDomainGeneration := boundGeneration s r
          registeredAtNs := stamp r.registeredAtNs now
          loadedFromState := false } }

/-- The checks of `retire_region`. -/
def checkRetire (s : State) (region : MemoryRegionId) (generation : MemoryRegionGeneration) :
    Except Error RegionRecord :=
  match s.regions[region]? with
  | none => .error (failWith .notFound "unknown region" region)
  | some record => do
    failIf (record.generation ≠ generation)
      (failWith .staleGeneration "region retirement names a superseded generation" region)
    failIf record.retired (failWith .retiredEntity "region is already retired" region)
    return record

theorem checkRetire_eq_ok {region : MemoryRegionId} {generation : MemoryRegionGeneration}
    {record : RegionRecord} (h : checkRetire s region generation = .ok record) :
    s.regions[region]? = some record := by
  unfold checkRetire at h
  split at h
  · simp at h
  next existing hexisting =>
    iterate 2 obtain ⟨_, _, h⟩ := bind_eq_ok.1 h
    rw [hexisting, Except.ok.inj h]

/-- `retire_region`. -/
def retireRegion (s : State) (region : MemoryRegionId) (generation : MemoryRegionGeneration)
    (reason : Text) (now : Nanos) : Status × State :=
  match checkRetire s region generation with
  | .error e => (.error e, s)
  | .ok record =>
    let s := { s with
      regions := s.regions.insert region { record with retired := true, retiredAtNs := now } }
    (.ok (), recordStale s
      { kind := .retiredRegion
        region
        observedAtNs := now
        detail := ascii "region retired at generation " ++ formatU64 generation ++ ascii ": " ++
          reason })

/-! ## Topology, capabilities, cost model -/

/-- The first link with the same ends is replaced. -/
def replaceLink (link : TopologyLink) : List TopologyLink → Option (List TopologyLink)
  | [] => none
  | existing :: links =>
    if existing.source = link.source ∧ existing.target = link.target then some (link :: links)
    else (replaceLink link links).map (existing :: ·)

/-- The checks of `set_topology_link`. -/
def checkLink (s : State) (link : TopologyLink) : Status := do
  failIf (link.source.id = [] ∨ link.target.id = [])
    (failWith .invalidArgument "topology link endpoints must not be empty")
  failIf (link.source = link.target)
    (failWith .invalidArgument "topology link must connect two distinct resources")
  failIf (¬link.locality.raw < Locality.count)
    (failWith .invalidArgument "topology link locality out of range")
  failIf (link.latencyNs < -1 ∨ link.latencyNs > maxMeasuredDurationNs)
    (failWith .outOfRange "topology link latency out of range")
  failIf (link.bandwidthBytesPerSecond > maxByteCount)
    (failWith .outOfRange "topology link bandwidth out of range")
  failIf (¬resourceIsCurrent s link.source)
    (failWith .invalidArgument "topology link source is not a current resource"
      (resourceText link.source))
  failIf (¬resourceIsCurrent s link.target)
    (failWith .invalidArgument "topology link target is not a current resource"
      (resourceText link.target))
  failIf (replaceLink link s.topology.links = none ∧
      s.topology.links.length ≥ maxTopologyLinkCount)
    (failWith .tooMany "topology link capacity reached")

/-- `set_topology_link`. -/
def setTopologyLink (s : State) (link : TopologyLink) : Status × State :=
  commit s (checkLink s link)
    { s with
      topology := { s.topology with
        links := (replaceLink link s.topology.links).getD (s.topology.links ++ [link]) } }

/-- `bump_topology`. -/
def bumpTopology (s : State) (reason : Text) (now : Nanos) : State :=
  let generation := s.topologyGeneration + 1
  recordStale
    { s with
      topologyGeneration := generation
      topology := { s.topology with
        generation, createdAtNs := now, loadedFromState := false } }
    { kind := .topologySuperseded
      observedAtNs := now
      detail := ascii "topology generation advanced: " ++ reason }

/-- `bump_topology_generation`. -/
def bumpTopologyGeneration (s : State) (reason : Text) (now : Nanos) :
    Except Error TopologyGeneration × State :=
  if reason.length > maxRegionAnnotationLength then
    (.error (failWith .tooLarge "topology change reason too long"), s)
  else (.ok (s.topologyGeneration + 1), bumpTopology s reason now)

/-- The checks of `set_capability`. -/
def checkCapability (c : Capability) : Status := do
  failIf (c.key = [] ∨ c.key.length > maxNameLength)
    (failWith .invalidArgument "capability key must be a bounded non-empty token")
  failIf (c.detail.length > 512 ∨ c.mechanism.length > 128)
    (failWith .tooLarge "capability description too long")
  failIf (¬c.status.raw < 3) (failWith .invalidArgument "capability status out of range")

/-- `set_capability`. -/
def setCapability (s : State) (c : Capability) : Status × State :=
  commit s (checkCapability c) { s with capabilities := s.capabilities.insert c.key c }

/-- `set_cost_model`. -/
def setCostModel (s : State) (model : CostModel) : Status × State :=
  commit s model.validate
    { s with options := { s.options with costModel := { model with defined := true } } }

end CoherenceObservatory
