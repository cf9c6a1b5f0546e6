import CoherenceObservatory.Analysis.Finding
import CoherenceObservatory.Lib.Ranking
import CoherenceObservatory.Names

/-!
# Hotspots

Regions, devices, localities and pairs of resources with much coherence traffic. The analysis
goes once over the buckets, in the order of their keys, builds a finding only for a bucket that
has a reason, and stops building findings for single subjects once it has four times as many as
are asked for.

The tests that compare floating point numbers are a parameter: whatever they answer, the rest
of the analysis is as the code has it.
-/

namespace CoherenceObservatory

open Std (ExtTreeMap)

/-- A bucket with its key. -/
abbrev Bucket := AggregateKey × AggregateValue

/-! ## Localities by name -/

/-- `parse_locality`, without the error. -/
def parseLocality (text : Text) : Option Locality :=
  (Locality.names.findIdx? fun name => iequals (ascii name) text).map fun i => ⟨.ofNat i⟩

/-- What traffic of a locality is compared with, and how an excess is named. -/
structure LocalityClass where
  threshold : UInt64
  metric : String
  reason : String

/-- The switch over localities, which the thresholds are chosen by. -/
def HotspotPolicy.localityClass (policy : HotspotPolicy) (locality : Locality) : LocalityClass :=
  if locality = .RemoteNuma ∨ locality = .RemoteNode then
    ⟨policy.minCrossNumaBytes, "cross_numa.bytes", "cross_numa_bytes"⟩
  else if locality = .RemoteAccelerator ∨ locality = .PeerAccelerator then
    ⟨policy.minCrossDeviceBytes, "cross_device.bytes", "cross_device_bytes"⟩
  else if locality = .CxlAttached ∨ locality = .PooledMemory then
    ⟨policy.minCxlClassBytes, "cxl_class.bytes", "cxl_class_bytes"⟩
  else ⟨policy.minCrossDomainBytes, "cross_domain.bytes", "cross_domain_bytes"⟩

/-! ## Tests -/

/-- `rate_over_span`: events per second. -/
def rateOverSpan (count : UInt64) (first last : Nanos) : F64 :=
  if last ≤ first then .zero
  else ((F64.ofUInt64 count).mul ⟨0x41cdcd6500000000⟩).div (.ofInt64 (last - first))

/-- The answers of the tests that compare floating point numbers, for each bucket; those about
pairs are asked by the name and the observations of the bucket. -/
structure HotspotTests where
  readRate : Bucket → Bool
  writeRate : Bucket → Bool
  byteShare : Bucket → Bool
  pairShare : Text → UInt64 → Bool

/-- Remote reads per second, over the span of the bucket. -/
def readRateOf (bucket : AggregateValue) : F64 :=
  rateOverSpan bucket.remoteReads bucket.firstTimestampNs bucket.lastTimestampNs

/-- Remote writes per second. -/
def writeRateOf (bucket : AggregateValue) : F64 :=
  rateOverSpan bucket.remoteWrites bucket.firstTimestampNs bucket.lastTimestampNs

/-- The share of a count in a total. -/
def shareOf (count total : UInt64) : F64 := (F64.ofUInt64 count).div (.ofUInt64 total)

/-- What the shares of regions are shares of. -/
def totalRegionBytes (s : State) : UInt64 := s.aggregates.bytesIn .region

/-- What the share of the first pair is a share of. -/
def totalPairObservations (s : State) : UInt64 := s.aggregates.observationsIn .sourceTargetPair

/-- The tests of the code. -/
def HotspotPolicy.tests (policy : HotspotPolicy) (s : State) : HotspotTests where
  readRate e := (readRateOf e.2).ge policy.minRemoteReadRatePerSecond
  writeRate e := (writeRateOf e.2).ge policy.minRemoteWriteRatePerSecond
  byteShare e := (shareOf e.2.bytes (totalRegionBytes s)).ge policy.minCoherenceByteShare
  pairShare _ observations :=
    (shareOf observations (totalPairObservations s)).ge policy.minSourceTargetConcentration

/-- The reasons that hold, in the order of the code. -/
def Finding.addReasons (f : Finding) (reasons : List (Bool × String)) : Finding :=
  reasons.foldl (fun f reason => if reason.1 then f.addReason reason.2 else f) f

variable (tests : HotspotTests) (s : State) (policy : HotspotPolicy)

/-- A region with a large share of all bytes. -/
def disproportionate (e : Bucket) : Bool :=
  totalRegionBytes s > 0 ∧ e.2.bytes > 0 ∧ tests.byteShare e = true

/-- The reasons to report a region, each with whether it holds. -/
def regionReasons (e : Bucket) : List (Bool × String) :=
  [(tests.readRate e && e.2.remoteReads ≥ policy.minRemoteAccesses, "remote_read_rate"),
    (tests.writeRate e && e.2.remoteWrites ≥ policy.minRemoteAccesses, "remote_write_rate"),
    (e.2.ownershipTransfers ≥ policy.minOwnershipTransfers, "ownership_transfer_count"),
    (e.2.invalidations ≥ policy.minInvalidations, "invalidation_burst"),
    (e.2.ownershipTransfers + e.2.invalidations ≥ policy.minRegionEvents, "region_contention"),
    (disproportionate tests s e, "coherence_byte_share")]

/-- The reasons to report a device. -/
def deviceReasons (e : Bucket) : List (Bool × String) :=
  [(e.2.remoteAccesses ≥ policy.minRemoteAccesses, "remote_read_rate"),
    (e.2.ownershipTransfers ≥ policy.minOwnershipTransfers, "ownership_transfer_count"),
    (e.2.invalidations ≥ policy.minInvalidations, "invalidation_burst")]

/-- A locality without a name counts as unknown here. -/
def localityExceeded (e : Bucket) : Bool :=
  e.2.bytes ≥ (policy.localityClass ((parseLocality e.1.value).getD .Unknown)).threshold

/-! ## Findings -/

/-- What every finding about a bucket says. -/
def bucketFinding (subjectKind : String) (e : Bucket) : Finding where
  kind := .hotspot
  subjectKind := ascii subjectKind
  subject := e.1.value
  precision := e.2.weakestPrecision
  provenance := .DerivedAggregation
  reality := e.2.reality
  bindings := currentBindings s

/-- The cost of what a bucket holds. -/
def bucketCost (bucket : AggregateValue) : CostEstimate :=
  estimateCost s.options.costModel
    { bytes := bucket.bytes
      remoteReads := bucket.remoteReads
      remoteWrites := bucket.remoteWrites
      invalidations := bucket.invalidations
      ownershipTransfers := bucket.ownershipTransfers
      retries := bucket.retries
      conflicts := bucket.conflicts
      precision := bucket.weakestPrecision }

/-- The metrics of a region. -/
def addRegionMetrics (f : Finding) (e : Bucket) : Finding :=
  let bucket := e.2
  let f := match s.regions[e.1.value]? with
    | none => f
    | some record => f.addMetric "region.generation" (.ofUInt64 record.generation)
        (ascii "generation")
  let f := f.addMetric "remote_read.count" (.ofUInt64 bucket.remoteReads) (ascii "accesses")
    |>.addMetric "remote_read.rate_per_second" (readRateOf bucket) (ascii "1/s")
      (some policy.minRemoteReadRatePerSecond)
    |>.addMetric "remote_write.count" (.ofUInt64 bucket.remoteWrites) (ascii "accesses")
    |>.addMetric "remote_write.rate_per_second" (writeRateOf bucket) (ascii "1/s")
      (some policy.minRemoteWriteRatePerSecond)
    |>.addMetric "remote_access.count" (.ofUInt64 bucket.remoteAccesses) (ascii "accesses")
      (some (.ofUInt64 policy.minRemoteAccesses))
    |>.addMetric "bytes" (.ofUInt64 bucket.bytes) (ascii "bytes")
    |>.addMetric "ownership_transfer.count" (.ofUInt64 bucket.ownershipTransfers)
      (ascii "transfers") (some (.ofUInt64 policy.minOwnershipTransfers))
    |>.addMetric "invalidation.count" (.ofUInt64 bucket.invalidations) (ascii "invalidations")
      (some (.ofUInt64 policy.minInvalidations))
    |>.addMetric "observations" (.ofUInt64 bucket.observations) (ascii "observations")
  if disproportionate tests s e then
    f.addMetric "coherence_byte_share" (shareOf bucket.bytes (totalRegionBytes s)) (ascii "share")
      (some policy.minCoherenceByteShare)
  else f

/-- The samples of the region as evidence, where it is tracked. -/
def addRegionEvidence (f : Finding) (region : MemoryRegionId) : Finding :=
  match s.regionEvidence[region]? with
  | none =>
    { f.addMissing (ascii "per-region pattern samples") with granularity := .Aggregate }
  | some evidence =>
    { evidence.samples.foldl (fun f sample => f.pushEvidence sample.evidenceRef)
        (f.addEvicted evidence.evicted) with
      granularity := (evidence.samples.getLast?.map (·.granularity)).getD f.granularity }

/-- The finding about a region. -/
def regionHotspot (e : Bucket) : Finding :=
  let f :=
    { bucketFinding s "region" e with
      bindings := regionBindings s e.1.value
      missingEvidence := if e.1.value ∈ s.regions then [] else [ascii "region.registration"] }
  let f := (addRegionMetrics tests s policy f e).addReasons (regionReasons tests s policy e)
  (addRegionEvidence s { f with cost := bucketCost s e.2 } e.1.value).sort

/-- The finding about a device. -/
def deviceHotspot (e : Bucket) : Finding :=
  let bucket := e.2
  let f := { bucketFinding s "device" e with granularity := .Device }
    |>.addMetric "observations" (.ofUInt64 bucket.observations) (ascii "observations")
    |>.addMetric "remote_access.count" (.ofUInt64 bucket.remoteAccesses) (ascii "accesses")
      (some (.ofUInt64 policy.minRemoteAccesses))
    |>.addMetric "ownership_transfer.count" (.ofUInt64 bucket.ownershipTransfers)
      (ascii "transfers") (some (.ofUInt64 policy.minOwnershipTransfers))
    |>.addMetric "invalidation.count" (.ofUInt64 bucket.invalidations) (ascii "invalidations")
      (some (.ofUInt64 policy.minInvalidations))
    |>.addMetric "bytes" (.ofUInt64 bucket.bytes) (ascii "bytes")
  { f.addReasons (deviceReasons policy e) with cost := bucketCost s bucket }.sort

/-- The finding about a locality, with its reason where the traffic is `exceeded`. -/
def localityHotspot (e : Bucket) (exceeded : Bool) : Finding :=
  let bucket := e.2
  let parsed := parseLocality e.1.value
  let f := (bucketFinding s "locality" e).addMetric "bytes" (.ofUInt64 bucket.bytes)
      (ascii "bytes")
    |>.addMetric "observations" (.ofUInt64 bucket.observations) (ascii "observations")
  let f := match parsed with
    | none => f
    | some locality =>
      let cls := policy.localityClass locality
      ((f.addMetric cls.metric (.ofUInt64 bucket.bytes) (ascii "bytes")
        (some (.ofUInt64 cls.threshold))).addReasons [(exceeded, cls.reason)])
  { f with
    locality := parsed.getD .Unknown
    localityEstablished := parsed.isSome
    cost := estimateCost s.options.costModel
      { bytes := bucket.bytes
        remoteReads := bucket.remoteReads
        remoteWrites := bucket.remoteWrites
        invalidations := bucket.invalidations
        ownershipTransfers := bucket.ownershipTransfers
        precision := bucket.weakestPrecision
        locality := parsed.getD .Unknown
        localityKnown := parsed.isSome } }.sort

/-- The finding about a pair, with its reason where the traffic is `concentrated`. -/
def pairHotspot (name : Text) (observations : UInt64) (reality : Reality) (concentrated : Bool) :
    Finding :=
  let f : Finding :=
    { kind := .hotspot
      subjectKind := ascii "source_target_pair"
      subject := name
      precision := .AggregatedCounter
      provenance := .DerivedAggregation
      reality
      bindings := currentBindings s
      granularity := .Aggregate }
  ((f.addReasons [(concentrated, "source_target_concentration")]).addMetric "pair.observations"
      (.ofUInt64 observations) (ascii "observations")
    |>.addMetric "source_target_concentration" (shareOf observations (totalPairObservations s))
      (ascii "share") (some policy.minSourceTargetConcentration)
    |>.addMetric "pair.total_observations" (.ofUInt64 (totalPairObservations s))
      (ascii "observations")).sort

/-! ## The pass over the buckets -/

/-- What the pass has gathered. -/
structure HotspotScan where
  findings : List Finding := []
  maxPair : UInt64 := 0
  maxPairName : Text := []
  maxPairReality : Reality := .real

/-- The cap on findings about single subjects, in the arithmetic of the machine. -/
def HotspotPolicy.perSubjectCap (policy : HotspotPolicy) : UInt64 := policy.maxHotspots * 4

/-- A finding is built where there is a reason and room for it. -/
def HotspotScan.push (scan : HotspotScan) (flagged : Bool) (f : Finding) : HotspotScan :=
  if !flagged ∨ scan.findings.length ≥ policy.perSubjectCap.toNat then scan
  else { scan with findings := scan.findings ++ [f] }

/-- One round of the loop over the buckets. -/
def HotspotScan.step (scan : HotspotScan) (e : Bucket) : HotspotScan :=
  if e.1.dimension = .region ∧ e.1.value ≠ unknownBucket then
    scan.push policy ((regionReasons tests s policy e).any Prod.fst)
      (regionHotspot tests s policy e)
  else if e.1.dimension = .device ∧ e.1.value ≠ unknownBucket then
    scan.push policy ((deviceReasons policy e).any Prod.fst) (deviceHotspot s policy e)
  else if e.1.dimension = .locality ∧ e.1.value ≠ unknownBucket then
    scan.push policy (localityExceeded policy e) (localityHotspot s policy e true)
  else if e.1.dimension = .sourceTargetPair ∧ e.2.observations > scan.maxPair then
    { scan with
      maxPair := e.2.observations
      maxPairName := e.1.value
      maxPairReality := e.2.reality }
  else scan

/-- The loop over the buckets, in key order. -/
def hotspotScan : HotspotScan :=
  s.aggregates.buckets.toList.foldl (HotspotScan.step tests s policy) {}

/-- The finding about the pair with the most observations, where they concentrate on it. -/
def concentrationHotspot (scan : HotspotScan) : List Finding :=
  if totalPairObservations s > 0 ∧ scan.maxPairName ≠ [] ∧
      tests.pairShare scan.maxPairName scan.maxPair = true then
    [pairHotspot s policy scan.maxPairName scan.maxPair scan.maxPairReality true]
  else []

/-- The analysis, for given answers of the tests. -/
def analyzeHotspotsWith : List Finding :=
  let scan := hotspotScan tests s policy
  finalizeFindings (scan.findings ++ concentrationHotspot tests s policy scan) policy.maxHotspots

/-- `analyze_hotspots`. -/
def analyzeHotspots : List Finding := analyzeHotspotsWith (policy.tests s) s policy

end CoherenceObservatory
