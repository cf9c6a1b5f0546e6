import CoherenceObservatory.Basic

/-!
# Enumerations

An `enum class : uint8_t` that enters from outside can hold any byte: the
validators test its range, and a byte outside it survives until they do. Such an
enumeration is its byte (`raw`) with the enumerators as named values.
Enumerations the runtime only produces itself are inductive types.
-/

namespace CoherenceObservatory

/-- The entry of a name table, or the fallback the source uses outside it. -/
def nameAt (names : List String) (fallback : String) (raw : UInt8) : Text :=
  ascii (names[raw.toNat]?.getD fallback)

/-! ## Event classes -/

structure EventType where
  raw : UInt8
  deriving DecidableEq

namespace EventType

def RemoteRead : EventType := ⟨0⟩
def RemoteWrite : EventType := ⟨1⟩
def Invalidation : EventType := ⟨2⟩
def OwnershipTransfer : EventType := ⟨3⟩
def OwnershipUpgrade : EventType := ⟨4⟩
def OwnershipDowngrade : EventType := ⟨5⟩
def SharedRead : EventType := ⟨6⟩
def WriteExclusiveTransition : EventType := ⟨7⟩
def CacheToCacheTransfer : EventType := ⟨8⟩
def MemoryDomainTransfer : EventType := ⟨9⟩
def SnoopRequest : EventType := ⟨10⟩
def SnoopResponse : EventType := ⟨11⟩
def DirectoryLookup : EventType := ⟨12⟩
def DirectoryMiss : EventType := ⟨13⟩
def CoherenceRetry : EventType := ⟨14⟩
def CoherenceConflict : EventType := ⟨15⟩
def Writeback : EventType := ⟨16⟩
def RemoteAtomic : EventType := ⟨17⟩
def ConsistencyBarrier : EventType := ⟨18⟩
def Flush : EventType := ⟨19⟩
def Fence : EventType := ⟨20⟩
def RegionInvalidation : EventType := ⟨21⟩
def UnknownCoherenceEvent : EventType := ⟨22⟩

/-- `kEventTypeCount`. -/
def count : UInt8 := 23

def names : List String :=
  ["REMOTE_READ", "REMOTE_WRITE", "INVALIDATION", "OWNERSHIP_TRANSFER", "OWNERSHIP_UPGRADE",
   "OWNERSHIP_DOWNGRADE", "SHARED_READ", "WRITE_EXCLUSIVE_TRANSITION",
   "CACHE_TO_CACHE_TRANSFER", "MEMORY_DOMAIN_TRANSFER", "SNOOP_REQUEST", "SNOOP_RESPONSE",
   "DIRECTORY_LOOKUP", "DIRECTORY_MISS", "COHERENCE_RETRY", "COHERENCE_CONFLICT", "WRITEBACK",
   "REMOTE_ATOMIC", "CONSISTENCY_BARRIER", "FLUSH", "FENCE", "REGION_INVALIDATION",
   "UNKNOWN_COHERENCE_EVENT"]

def toText (type : EventType) : Text := nameAt names "UNKNOWN_COHERENCE_EVENT" type.raw

/-- `is_ownership_event`. -/
def isOwnershipEvent (type : EventType) : Bool :=
  type == OwnershipTransfer || type == OwnershipUpgrade || type == OwnershipDowngrade ||
    type == WriteExclusiveTransition || type == CacheToCacheTransfer ||
    type == MemoryDomainTransfer

end EventType

structure AccessDirection where
  raw : UInt8
  deriving DecidableEq

namespace AccessDirection

def None : AccessDirection := ⟨0⟩
def Read : AccessDirection := ⟨1⟩
def Write : AccessDirection := ⟨2⟩
def ReadModifyWrite : AccessDirection := ⟨3⟩
def Atomic : AccessDirection := ⟨4⟩
def Unknown : AccessDirection := ⟨5⟩

end AccessDirection

structure CoherenceState where
  raw : UInt8
  deriving DecidableEq

namespace CoherenceState

def Unknown : CoherenceState := ⟨0⟩

end CoherenceState

structure EvidenceGranularity where
  raw : UInt8
  deriving DecidableEq

namespace EvidenceGranularity

def Unknown : EvidenceGranularity := ⟨0⟩
def CacheLine : EvidenceGranularity := ⟨1⟩
def Page : EvidenceGranularity := ⟨2⟩
def Region : EvidenceGranularity := ⟨3⟩
def Device : EvidenceGranularity := ⟨4⟩
def Domain : EvidenceGranularity := ⟨5⟩
def Aggregate : EvidenceGranularity := ⟨6⟩

def names : List String :=
  ["UNKNOWN", "CACHE_LINE", "PAGE", "REGION", "DEVICE", "DOMAIN", "AGGREGATE"]

def toText (granularity : EvidenceGranularity) : Text := nameAt names "UNKNOWN" granularity.raw

/-- `granularity_rank`: larger is finer. -/
def rank (granularity : EvidenceGranularity) : UInt8 :=
  if granularity = CacheLine then 6
  else if granularity = Page then 5
  else if granularity = Region then 4
  else if granularity = Device then 3
  else if granularity = Domain then 2
  else if granularity = Aggregate then 1
  else 0

end EvidenceGranularity

structure ResourceKind where
  raw : UInt8
  deriving DecidableEq

namespace ResourceKind

def Unknown : ResourceKind := ⟨0⟩
def Node : ResourceKind := ⟨1⟩
def Processor : ResourceKind := ⟨2⟩
def Accelerator : ResourceKind := ⟨3⟩
def MemoryDomain : ResourceKind := ⟨4⟩
def CoherenceDomain : ResourceKind := ⟨5⟩

def names : List String :=
  ["UNKNOWN", "NODE", "PROCESSOR", "ACCELERATOR", "MEMORY_DOMAIN", "COHERENCE_DOMAIN"]

def toText (kind : ResourceKind) : Text := nameAt names "UNKNOWN" kind.raw

end ResourceKind

/-! ## Counters -/

structure CounterKind where
  raw : UInt8
  deriving DecidableEq

namespace CounterKind

def Absolute : CounterKind := ⟨0⟩
def Delta : CounterKind := ⟨1⟩
def Resettable : CounterKind := ⟨2⟩
def Wrapping : CounterKind := ⟨3⟩
def Sampled : CounterKind := ⟨4⟩

end CounterKind

structure CounterScope where
  raw : UInt8
  deriving DecidableEq

namespace CounterScope

def Unknown : CounterScope := ⟨0⟩
def PerRegion : CounterScope := ⟨1⟩
def PerDevice : CounterScope := ⟨2⟩
def PerDomain : CounterScope := ⟨3⟩
def PerLink : CounterScope := ⟨4⟩
def PerProcess : CounterScope := ⟨5⟩
def Global : CounterScope := ⟨6⟩

def names : List String :=
  ["UNKNOWN", "PER_REGION", "PER_DEVICE", "PER_DOMAIN", "PER_LINK", "PER_PROCESS", "GLOBAL"]

def toText (scope : CounterScope) : Text := nameAt names "UNKNOWN" scope.raw

end CounterScope

/-! ## Provenance and precision -/

structure Provenance where
  raw : UInt8
  deriving DecidableEq

inductive Reality
  | real | synthetic | mixed
  deriving DecidableEq

namespace Provenance

def Unknown : Provenance := ⟨0⟩
def HardwarePerformanceCounter : Provenance := ⟨1⟩
def VendorTelemetryApi : Provenance := ⟨2⟩
def OsTelemetry : Provenance := ⟨3⟩
def RuntimeInstrumentation : Provenance := ⟨4⟩
def ApplicationInstrumentation : Provenance := ⟨5⟩
def FabricProvidedState : Provenance := ⟨6⟩
def SyntheticBackend : Provenance := ⟨7⟩
def ImportedTrace : Provenance := ⟨8⟩
def DerivedAggregation : Provenance := ⟨9⟩

/-- `is_real_provenance`. -/
def isReal (provenance : Provenance) : Bool :=
  provenance == HardwarePerformanceCounter || provenance == VendorTelemetryApi ||
    provenance == OsTelemetry || provenance == RuntimeInstrumentation ||
    provenance == ApplicationInstrumentation || provenance == FabricProvidedState

/-- `reality_of`: nothing but the six real mechanisms is promoted to real. -/
def realityOf (provenance : Provenance) : Reality :=
  if provenance = SyntheticBackend then .synthetic
  else if provenance.isReal then .real
  else .mixed

end Provenance

/-- `combine_reality`. -/
def Reality.combine (a b : Reality) : Reality := if a = b then a else .mixed

structure Precision where
  raw : UInt8
  deriving DecidableEq

namespace Precision

def Unknown : Precision := ⟨0⟩
def Inferred : Precision := ⟨1⟩
def Derived : Precision := ⟨2⟩
def AggregatedCounter : Precision := ⟨3⟩
def SampledEvent : Precision := ⟨4⟩
def ExactCounterDelta : Precision := ⟨5⟩
def ExactEvent : Precision := ⟨6⟩

/-- `precision_rank`: a byte outside the table ranks with `Unknown`. -/
def rank (precision : Precision) : UInt8 := if precision.raw < 7 then precision.raw else 0

/-- `weakest`. -/
def weakest (a b : Precision) : Precision := if a.rank ≤ b.rank then a else b

end Precision

/-! ## Localities, domains and capabilities -/

structure Locality where
  raw : UInt8
  deriving DecidableEq

namespace Locality

def Unknown : Locality := ⟨0⟩
def LocalProcessor : Locality := ⟨1⟩
def RemoteNuma : Locality := ⟨3⟩
def PeerAccelerator : Locality := ⟨5⟩
def RemoteAccelerator : Locality := ⟨7⟩
def CxlAttached : Locality := ⟨8⟩
def PooledMemory : Locality := ⟨9⟩
def RemoteNode : Locality := ⟨10⟩

/-- `kLocalityCount`. -/
def count : UInt8 := 11

def names : List String :=
  ["UNKNOWN", "LOCAL_PROCESSOR", "LOCAL_NUMA", "REMOTE_NUMA", "LOCAL_ACCELERATOR",
   "PEER_ACCELERATOR", "SAME_ROOT_COMPLEX", "REMOTE_ACCELERATOR", "CXL_ATTACHED",
   "POOLED_MEMORY", "REMOTE_NODE"]

def toText (locality : Locality) : Text := nameAt names "UNKNOWN" locality.raw

/-- `is_remote_locality`. -/
def isRemote (locality : Locality) : Bool :=
  locality == RemoteNuma || locality == RemoteAccelerator || locality == RemoteNode ||
    locality == CxlAttached || locality == PooledMemory

end Locality

structure MemoryDomainKind where
  raw : UInt8
  deriving DecidableEq

structure SharingScope where
  raw : UInt8
  deriving DecidableEq

structure CapabilityStatus where
  raw : UInt8
  deriving DecidableEq

namespace CapabilityStatus

def Real : CapabilityStatus := ⟨0⟩
def Synthetic : CapabilityStatus := ⟨1⟩
def Unsupported : CapabilityStatus := ⟨2⟩

end CapabilityStatus

end CoherenceObservatory
