import CoherenceObservatory.Analysis.Finding
import CoherenceObservatory.Lib.Grouping

/-!
# Invalidations

Invalidations of the journal by region, source and target, with the bursts among them. Those
that counters report name no region and form a finding of their own. The journal is read
whatever the outcome of attribution was.
-/

namespace CoherenceObservatory

open Std (ExtTreeMap)

namespace Observation

/-- The texts an analysis of the journal groups by. -/
def sourceText (o : Observation) : Text := o.source.elim (ascii "unknown") ResourceRef.id

/-- The target, or what stands for a missing one. -/
def targetText (o : Observation) : Text := o.target.elim (ascii "unknown") ResourceRef.id

/-- The region, or what stands for a missing one. -/
def regionText (o : Observation) : Text := o.region.getD (ascii "unknown")

/-- The observation is of an invalidation. -/
def isInvalidation (o : Observation) : Bool :=
  o.type = .Invalidation ∨ o.type = .RegionInvalidation

/-- Parts of a key, with the unit separator between them. -/
def invalidationKey (o : Observation) : Text :=
  o.regionText ++ [31] ++ o.sourceText ++ [31] ++ o.targetText ++ [31] ++
    formatU64 (o.regionGeneration.getD 0)

end Observation

/-- One row of the analysis. The code never sets the row's own count of counter
invalidations, which is left out. -/
structure InvalidationRow where
  source : Text := []
  target : Text := []
  region : MemoryRegionId := []
  regionGeneration : MemoryRegionGeneration := 0
  stateBefore : CoherenceState := .Unknown
  stateAfter : CoherenceState := .Unknown
  individualEvents : UInt64 := 0
  burstCount : UInt64 := 0
  maxBurstSize : UInt64 := 0
  bytesInvalidated : UInt64 := 0
  cost : CostEstimate := {}
  granularity : EvidenceGranularity := .Unknown
  precision : Precision := .Unknown
  provenance : Provenance := .Unknown
  reality : Reality := .real

/-- A group while the journal is read. -/
structure InvalidationAccum where
  row : InvalidationRow := {}
  timestamps : List Nanos := []
  source : Text := []
  target : Text := []
  region : Text := []
  regionGeneration : UInt64 := 0

/-- An observation enters its group. A group without timestamps is seen for the first time. -/
def InvalidationAccum.add (accum : InvalidationAccum) (o : Observation) : InvalidationAccum where
  source := if accum.timestamps = [] then o.sourceText else accum.source
  target := if accum.timestamps = [] then o.targetText else accum.target
  region := if accum.timestamps = [] then o.regionText else accum.region
  regionGeneration := o.regionGeneration.getD 0
  timestamps := accum.timestamps ++ [o.timestampNs]
  row :=
    { accum.row with
      source := o.sourceText
      target := o.targetText
      region := o.region.getD accum.row.region
      regionGeneration := o.regionGeneration.getD accum.row.regionGeneration
      stateBefore := o.stateBefore
      stateAfter := o.stateAfter
      granularity := o.granularity
      precision := if accum.row.individualEvents = 0 then o.precision
        else accum.row.precision.weakest o.precision
      provenance := o.provenance
      reality := accum.row.reality.combine o.provenance.realityOf
      bytesInvalidated := accum.row.bytesInvalidated + o.bytes
      individualEvents := accum.row.individualEvents + 1 }

/-- The invalidations of the journal that are events of their own. -/
def individualInvalidations (s : State) : List Observation :=
  (s.journal.map (·.observation)).filter fun o => o.counterDelta.isNone && o.isInvalidation

/-- The groups, in the order of their keys. -/
def invalidationGroups (s : State) : ExtTreeMap Text InvalidationAccum :=
  Grouping.groups Observation.invalidationKey {} InvalidationAccum.add (individualInvalidations s)

/-- What counters report, in the arithmetic of the machine. -/
def aggregateCounterInvalidations (s : State) : UInt64 :=
  (s.journal.filter fun entry => entry.observation.isInvalidation).foldl
    (fun total entry => total + entry.observation.counterDelta.getD 0) 0

/-! ## Bursts -/

/-- The bursts seen so far. -/
structure BurstScan where
  start : Nat := 0
  burstCount : Nat := 0
  maxBurst : Nat := 0

/-- The window ends at `timestamps[i]` and moves its start on until it is short enough. With a
window of negative length the code would read past the end; here the start stops there. -/
def BurstScan.step (policy : InvalidationPolicy) (timestamps : List Nanos) (scan : BurstScan)
    (i : Nat) : BurstScan :=
  let current := timestamps.getD i 0
  let start := scan.start + ((timestamps.drop scan.start).takeWhile fun t =>
    current - t > policy.burstWindowNs).length
  let size := i + 1 - start
  let counts := size = policy.burstThreshold.toNat ∨ 0 < i ∧ current ≠ timestamps.getD (i - 1) 0
  { start
    burstCount := if size ≥ policy.burstThreshold.toNat ∧ counts then scan.burstCount + 1
      else scan.burstCount
    maxBurst := max scan.maxBurst size }

/-- The bursts among the timestamps of a group. -/
def burstScan (policy : InvalidationPolicy) (timestamps : List Nanos) : BurstScan :=
  let sorted := timestamps.insertionSort (· ≤ ·)
  (List.range sorted.length).foldl (BurstScan.step policy sorted) {}

/-! ## Rows and findings -/

/-- The row of a group, with its bursts and its cost. -/
def InvalidationAccum.finish (accum : InvalidationAccum) (s : State) (policy : InvalidationPolicy) :
    InvalidationRow :=
  let bursts := burstScan policy accum.timestamps
  { accum.row with
    burstCount := .ofNat bursts.burstCount
    maxBurstSize := .ofNat bursts.maxBurst
    cost := estimateCost s.options.costModel
      { invalidations := accum.row.individualEvents
        bytes := accum.row.bytesInvalidated
        precision := accum.row.precision } }

/-- The finding about a group with a burst. -/
def burstFinding (s : State) (policy : InvalidationPolicy) (accum : InvalidationAccum) :
    Option Finding :=
  let row := accum.finish s policy
  if row.burstCount = 0 then none
  else
    let threshold : F64 := .ofUInt64 policy.burstThreshold
    let f : Finding :=
      { kind := .invalidationBurst
        subjectKind := ascii "region"
        subject := accum.region
        precision := row.precision
        provenance := row.provenance
        reality := row.reality
        granularity := row.granularity
        bindings :=
          { currentBindings s with
            regionGeneration := accum.regionGeneration
            regionGenerationBound := accum.regionGeneration ≠ 0 }
        cost := row.cost }
    some ((((f.addReason "invalidation_burst").addMetric "bursts" (.ofUInt64 row.burstCount)
        (ascii "bursts")
      |>.addMetric "max_burst_size" (.ofUInt64 row.maxBurstSize) (ascii "invalidations")
        (some threshold)
      |>.addMetric "invalidations" (.ofUInt64 row.individualEvents) (ascii "invalidations")
        (some threshold)
      |>.addMetric "bytes_invalidated" (.ofUInt64 row.bytesInvalidated) (ascii "bytes")
      ).addParticipant accum.source).addParticipant accum.target).sort

/-- The finding about invalidations that only counters report. -/
def counterFinding (s : State) : Option Finding :=
  let total := aggregateCounterInvalidations s
  if total = 0 then none
  else
    let f : Finding :=
      { kind := .invalidationBurst
        subjectKind := ascii "system"
        subject := ascii "aggregate-invalidation-counters"
        precision := .AggregatedCounter
        provenance := .DerivedAggregation
        reality := .mixed
        granularity := .Aggregate
        bindings := currentBindings s }
    some (((f.addReason "insufficient_granularity").addMissing
      (ascii "these invalidations were reported by aggregate counters and carry no source, " ++
        ascii "target or region identity; they are not per-region evidence")).addMetric
      "aggregate_counter_invalidations" (.ofUInt64 total) (ascii "invalidations")).sort

/-- The order of rows; the code leaves the order of rows that agree in all three open. -/
def InvalidationRow.le (a b : InvalidationRow) : Prop :=
  if a.region ≠ b.region then Text.le a.region b.region
  else if a.source ≠ b.source then Text.le a.source b.source
  else Text.le a.target b.target

instance : DecidableRel InvalidationRow.le := fun a b =>
  inferInstanceAs (Decidable (if a.region ≠ b.region then Text.le a.region b.region
    else if a.source ≠ b.source then Text.le a.source b.source else Text.le a.target b.target))

/-- The rows `analyze_invalidations` fills in. -/
def invalidationRows (s : State) (policy : InvalidationPolicy) : List InvalidationRow :=
  (((invalidationGroups s).toList.map fun entry => entry.2.finish s policy).take
    Limits.maxQueryResults).insertionSort InvalidationRow.le

/-- The findings before the final order. -/
def invalidationFindings (s : State) (policy : InvalidationPolicy) : List Finding :=
  ((invalidationGroups s).toList.filterMap fun entry => burstFinding s policy entry.2) ++
    (counterFinding s).toList

/-- `analyze_invalidations`. -/
def analyzeInvalidations (s : State) (policy : InvalidationPolicy) : List Finding :=
  finalizeFindings (invalidationFindings s policy) policy.maxFindings

/-! ## The reality of a row -/

variable {s : State} {policy : InvalidationPolicy}

theorem InvalidationAccum.reality_finish (accum : InvalidationAccum) :
    (accum.finish s policy).reality = accum.row.reality := by
  rw [finish]

/-- The reality of a group. -/
theorem reality_foldl_add (l : List Observation) :
    (l.foldl InvalidationAccum.add {}).row.reality =
      Reality.ofAll (.real :: l.map (·.provenance.realityOf)) := by
  rw [← Reality.foldl_combine, List.foldl_map]
  exact (List.foldl_hom (fun accum : InvalidationAccum => accum.row.reality)
    fun _ _ => rfl).symm

variable {row : InvalidationRow}

/-- A row is that of a group of the journal. -/
theorem mem_invalidationRows (h : row ∈ invalidationRows s policy) :
    ∃ (key : Text) (accum : InvalidationAccum), (invalidationGroups s)[key]? = some accum ∧
      row = accum.finish s policy := by
  rw [invalidationRows, List.mem_insertionSort] at h
  obtain ⟨⟨key, accum⟩, hentry, rfl⟩ := List.mem_map.1 (List.mem_of_mem_take h)
  exact ⟨key, accum, ExtTreeMap.mem_toList_iff_getElem?_eq_some.1 hentry, rfl⟩

/-- The observations of the journal that make up a row. -/
theorem exists_members_invalidationRow (h : row ∈ invalidationRows s policy) :
    ∃ key, Grouping.members Observation.invalidationKey key (individualInvalidations s) ≠ [] ∧
      row = ((Grouping.members Observation.invalidationKey key
        (individualInvalidations s)).foldl InvalidationAccum.add {}).finish s policy := by
  obtain ⟨key, accum, haccum, rfl⟩ := mem_invalidationRows h
  obtain ⟨hne, rfl⟩ := Grouping.getElem?_groups_eq_some.1 haccum
  exact ⟨key, hne, rfl⟩

end CoherenceObservatory
