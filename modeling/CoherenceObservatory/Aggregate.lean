import CoherenceObservatory.Record

/-!
# Aggregates

The bounded store that sums the contributions of accepted observations, one bucket per
dimension and value. Sums saturate and say so; a new bucket is refused when the store is
full, and the refusal is counted.
-/

namespace CoherenceObservatory

open Std

/-! ## Keys -/

/-- Dimensions along which observations are aggregated, in the source's order. -/
inductive AggregateDimension
  | eventType | device | domain | region | workload | locality | timeBucket | publisher
  | coherenceDomain | sourceTargetPair
  deriving DecidableEq

namespace AggregateDimension

/-- The enumerator's byte. -/
def raw : AggregateDimension → UInt8
  | eventType => 0
  | device => 1
  | domain => 2
  | region => 3
  | workload => 4
  | locality => 5
  | timeBucket => 6
  | publisher => 7
  | coherenceDomain => 8
  | sourceTargetPair => 9

/-- All dimensions in order. -/
def all : List AggregateDimension :=
  [eventType, device, domain, region, workload, locality, timeBucket, publisher,
   coherenceDomain, sourceTargetPair]

theorem nodup_all : all.Nodup := by decide

theorem mem_all (d : AggregateDimension) : d ∈ all := by cases d <;> decide

/-- The dimension with a given byte. -/
def ofRaw (b : UInt8) : Option AggregateDimension := all[b.toNat]?

theorem raw_injective : Function.Injective raw := by
  intro a b h
  cases a <;> cases b <;> first | rfl | exact absurd h (by decide)

theorem ofRaw_raw (d : AggregateDimension) : ofRaw d.raw = some d := by cases d <;> rfl

end AggregateDimension

/-- A bucket: a dimension and the canonical text of a value in it. -/
structure AggregateKey where
  dimension : AggregateDimension
  value : Text
  deriving DecidableEq

namespace AggregateKey

/-- Member-wise order, as the source's defaulted comparison. -/
def cmp : AggregateKey → AggregateKey → Ordering :=
  compareLex (compareOn fun k => k.dimension.raw) (compareOn AggregateKey.value)

instance : Ord AggregateKey := ⟨cmp⟩

instance : TransOrd AggregateKey := inferInstanceAs (TransCmp (compareLex _ _))

instance : LawfulEqOrd AggregateKey where
  eq_of_compare {a b} h := by
    have h' : cmp a b = .eq := h
    rw [cmp, compareLex_eq_eq] at h'
    obtain ⟨h1, h2⟩ := h'
    cases a
    cases b
    simp only [compareOn, LawfulEqOrd.compare_eq_iff_eq] at h1 h2
    rw [AggregateDimension.raw_injective h1, h2]

end AggregateKey

/-! ## Buckets -/

/-- `checked_add`: the saturated sum and whether it saturated. -/
def checkedAdd (a b : UInt64) : UInt64 × Bool :=
  if a > UInt64.ofNat (2 ^ 64 - 1) - b then (UInt64.ofNat (2 ^ 64 - 1), true) else (a + b, false)

/-- What a bucket holds. -/
structure AggregateValue where
  observations : UInt64 := 0
  bytes : UInt64 := 0
  lines : UInt64 := 0
  pages : UInt64 := 0
  regionsTouched : UInt64 := 0
  remoteAccesses : UInt64 := 0
  remoteReads : UInt64 := 0
  remoteWrites : UInt64 := 0
  ownershipTransfers : UInt64 := 0
  invalidations : UInt64 := 0
  retries : UInt64 := 0
  conflicts : UInt64 := 0
  writebacks : UInt64 := 0
  counterDeltaTotal : UInt64 := 0
  firstTimestampNs : Nanos := 0
  lastTimestampNs : Nanos := 0
  hasTimestamps : Bool := false
  precisionCounts : List UInt64 := List.replicate 7 0
  provenanceCounts : List UInt64 := List.replicate 10 0
  saturated : Bool := false
  syntheticContribution : Bool := false
  mixedContribution : Bool := false
  weakestPrecision : Precision := .ExactEvent
  hasObservations : Bool := false

/-- What one observation adds to a bucket. -/
structure ObservationContribution where
  bytes : UInt64
  lines : UInt64
  pages : UInt64
  regionsTouched : UInt64
  remoteAccess : Bool
  remoteRead : Bool
  remoteWrite : Bool
  ownershipTransfer : Bool
  invalidation : Bool
  retry : Bool
  conflict : Bool
  writeback : Bool
  counterDelta : UInt64
  timestampNs : Nanos
  precision : Precision
  provenance : Provenance

/-- `contribution_of`. -/
def contributionOf (o : Observation) : ObservationContribution :=
  let remoteLocality := o.localityDeclared && o.locality.isRemote
  { bytes := o.bytes
    lines := o.lines
    pages := o.pages
    regionsTouched := o.regionCount
    remoteAccess := o.type == .RemoteRead || o.type == .RemoteWrite || o.type == .RemoteAtomic ||
      remoteLocality
    remoteRead := o.type == .RemoteRead || (remoteLocality && o.direction == .Read)
    remoteWrite := o.type == .RemoteWrite || o.type == .RemoteAtomic ||
      (remoteLocality && (o.direction == .Write || o.direction == .ReadModifyWrite ||
        o.direction == .Atomic))
    ownershipTransfer := o.type.isOwnershipEvent
    invalidation := o.type == .Invalidation || o.type == .RegionInvalidation
    retry := o.type == .CoherenceRetry
    conflict := o.type == .CoherenceConflict
    writeback := o.type == .Writeback
    counterDelta := o.counterDelta.getD 0
    timestampNs := o.timestampNs
    precision := o.precision
    provenance := o.provenance }

/-- The flags a contribution of the given reality leaves in a bucket: mixing is
noticed from the second observation on, and unestablished reality taints. -/
def mixReality (bucket : AggregateValue) (observations : UInt64) : Reality → Bool × Bool
  | .synthetic =>
    (true, bucket.mixedContribution || (!(bucket.syntheticContribution && observations > 1) &&
      (bucket.hasObservations && observations > 1)))
  | .mixed => (true, true)
  | .real => (bucket.syntheticContribution, bucket.mixedContribution || bucket.syntheticContribution)

namespace AggregateValue

/-- The update of one bucket in `AggregateStore::accumulate`, and whether a sum saturated. -/
def add (bucket : AggregateValue) (c : ObservationContribution) : AggregateValue × Bool :=
  let one (b : Bool) (n : UInt64) : UInt64 × Bool := if b then checkedAdd n 1 else (n, false)
  let observations := checkedAdd bucket.observations 1
  let bytes := checkedAdd bucket.bytes c.bytes
  let lines := checkedAdd bucket.lines c.lines
  let pages := checkedAdd bucket.pages c.pages
  let regionsTouched := checkedAdd bucket.regionsTouched c.regionsTouched
  let counterDeltaTotal := checkedAdd bucket.counterDeltaTotal c.counterDelta
  let remoteAccesses := one c.remoteAccess bucket.remoteAccesses
  let remoteReads := one c.remoteRead bucket.remoteReads
  let remoteWrites := one c.remoteWrite bucket.remoteWrites
  let ownershipTransfers := one c.ownershipTransfer bucket.ownershipTransfers
  let invalidations := one c.invalidation bucket.invalidations
  let retries := one c.retry bucket.retries
  let conflicts := one c.conflict bucket.conflicts
  let writebacks := one c.writeback bucket.writebacks
  let precisionIndex := c.precision.rank.toNat
  let provenanceIndex := c.provenance.raw.toNat
  let precisionSum := checkedAdd (bucket.precisionCounts.getD precisionIndex 0) 1
  let provenanceSum := checkedAdd (bucket.provenanceCounts.getD provenanceIndex 0) 1
  let (synthetic, mixed) := mixReality bucket observations.1 c.provenance.realityOf
  let overflowed := [observations, bytes, lines, pages, regionsTouched, counterDeltaTotal,
      remoteAccesses, remoteReads, remoteWrites, ownershipTransfers, invalidations, retries,
      conflicts, writebacks].any Prod.snd ||
    (precisionIndex < bucket.precisionCounts.length && precisionSum.2) ||
    (provenanceIndex < bucket.provenanceCounts.length && provenanceSum.2)
  ({ observations := observations.1
     bytes := bytes.1
     lines := lines.1
     pages := pages.1
     regionsTouched := regionsTouched.1
     remoteAccesses := remoteAccesses.1
     remoteReads := remoteReads.1
     remoteWrites := remoteWrites.1
     ownershipTransfers := ownershipTransfers.1
     invalidations := invalidations.1
     retries := retries.1
     conflicts := conflicts.1
     writebacks := writebacks.1
     counterDeltaTotal := counterDeltaTotal.1
     firstTimestampNs :=
       if bucket.hasTimestamps ∧ ¬c.timestampNs < bucket.firstTimestampNs
       then bucket.firstTimestampNs else c.timestampNs
     lastTimestampNs :=
       if bucket.hasTimestamps ∧ ¬c.timestampNs > bucket.lastTimestampNs
       then bucket.lastTimestampNs else c.timestampNs
     hasTimestamps := true
     precisionCounts := bucket.precisionCounts.set precisionIndex precisionSum.1
     provenanceCounts := bucket.provenanceCounts.set provenanceIndex provenanceSum.1
     saturated := bucket.saturated || overflowed
     syntheticContribution := synthetic
     mixedContribution := mixed
     weakestPrecision :=
       if bucket.hasObservations then bucket.weakestPrecision.weakest c.precision
       else c.precision
     hasObservations := true }, overflowed)

end AggregateValue

/-! ## The store -/

/-- The buckets, with tallies of sums that saturated and updates that were refused. -/
structure AggregateStore where
  buckets : ExtTreeMap AggregateKey AggregateValue := ∅
  saturations : UInt64 := 0
  refusedUpdates : UInt64 := 0

/-- `AggregateStore::accumulate`; the flag is false when the bucket was refused. -/
def AggregateStore.accumulate (store : AggregateStore) (key : AggregateKey)
    (c : ObservationContribution) : Bool × AggregateStore :=
  if key ∉ store.buckets ∧ store.buckets.size ≥ Limits.maxAggregateKeys then
    (false, { store with refusedUpdates := store.refusedUpdates + 1 })
  else
    let (bucket, overflowed) := (store.buckets[key]?.getD {}).add c
    (true, { store with
      buckets := store.buckets.insert key bucket
      saturations := if overflowed then store.saturations + 1 else store.saturations })

/-- Adds up a tally over buckets of one dimension, and stops at the largest value. -/
def sumIn (field : AggregateValue → UInt64) (dimension : AggregateDimension) :
    UInt64 → List (AggregateKey × AggregateValue) → UInt64
  | total, [] => total
  | total, (key, bucket) :: buckets =>
    if key.dimension ≠ dimension then sumIn field dimension total buckets
    else
      let sum := checkedAdd total (field bucket)
      if sum.2 then sum.1 else sumIn field dimension sum.1 buckets

/-- `observations_in`. -/
def AggregateStore.observationsIn (store : AggregateStore) (dimension : AggregateDimension) :
    UInt64 :=
  sumIn AggregateValue.observations dimension 0 store.buckets.toList

/-- `bytes_in`. -/
def AggregateStore.bytesIn (store : AggregateStore) (dimension : AggregateDimension) : UInt64 :=
  sumIn AggregateValue.bytes dimension 0 store.buckets.toList

/-- The bucket of observations that do not say. -/
def unknownBucket : Text := ascii "unknown"

/-- `aggregate_value_text`. -/
def aggregateValueText (o : Observation) (timeBucketNs : Int64) : AggregateDimension → Text
  | .eventType => o.type.toText
  | .device => (o.source.or o.target).elim unknownBucket ResourceRef.id
  | .domain =>
    match o.source.filter (fun r => r.kind = .MemoryDomain) with
    | some r => r.id
    | none => (o.target.filter fun r => r.kind = .MemoryDomain).elim unknownBucket ResourceRef.id
  | .region => o.region.getD unknownBucket
  | .workload => o.workload.getD unknownBucket
  | .locality =>
    if ¬o.localityDeclared ∨ o.locality = .Unknown then unknownBucket else o.locality.toText
  | .timeBucket =>
    if timeBucketNs ≤ 0 ∨ o.timestampNs < 0 then unknownBucket
    else formatNat (o.timestampNs / timeBucketNs).toNatClampNeg
  | .publisher => if o.sourcePublisher = [] then unknownBucket else o.sourcePublisher
  | .coherenceDomain => o.coherenceDomain.getD unknownBucket
  | .sourceTargetPair =>
    o.source.elim unknownBucket ResourceRef.id ++ ascii "->" ++
      o.target.elim unknownBucket ResourceRef.id

end CoherenceObservatory
