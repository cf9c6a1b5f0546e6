import CoherenceObservatory.Lib.Crc
import CoherenceObservatory.Lib.Table
import CoherenceObservatory.Observatory

/-!
# The state fingerprint

A hash over the authoritative state, by which a caller can tell that refused input changed
nothing. Every field is mixed into the hash of what came before it, and no mixing step
forgets its running value (`fnv1aU64_inj`, `fnv1aStr_inj`). The regions are the exception:
each one replaces the running value by the fingerprint of its identity.
-/

namespace CoherenceObservatory

open Std ExtTreeMap

/-! ## Mixing -/

/-- The factor of a mixing step is odd, so it can be divided out again. -/
theorem fnvPrime_mul_inverse : (1099511628211 : UInt64) * 14886173955864302971 = 1 := by decide

theorem fnv1a_injective (bytes : List UInt8) : Function.Injective (fnv1a · bytes) := by
  refine foldl_injective (fun b h h' heq => ?_) bytes
  have heq := congrArg (· * 14886173955864302971) heq
  simp only [UInt64.mul_assoc, fnvPrime_mul_inverse, UInt64.mul_one] at heq
  exact (UInt64.xor_left_inj _).1 heq

variable {h h' : UInt64} {α : Type} {s t : State}

@[simp] theorem fnv1aU64_inj {value : UInt64} :
    fnv1aU64 h value = fnv1aU64 h' value ↔ h = h' := (fnv1a_injective _).eq_iff

@[simp] theorem fnv1aStr_inj {text : Text} :
    fnv1aStr h text = fnv1aStr h' text ↔ h = h' := (fnv1a_injective _).eq_iff.trans fnv1aU64_inj

/-- Mixing in a list of records forgets nothing if no record does. -/
theorem foldl_mix_inj {f : UInt64 → α → UInt64}
    (hf : ∀ {h h' : UInt64} (x : α), f h x = f h' x ↔ h = h') (l : List α) :
    l.foldl f h = l.foldl f h' ↔ h = h' :=
  (foldl_injective (fun x _ _ => (hf x).1) l).eq_iff

/-! ## The fingerprint -/

/-- The number of the enumerator. -/
def AttributionOutcome.raw : AttributionOutcome → UInt64
  | .attributedExact => 0
  | .attributedPartial => 1
  | .attributedAggregateOnly => 2
  | .ambiguous => 3
  | .unattributed => 4
  | .staleEvidence => 5
  | .unsupported => 6

/-- The number of the enumerator. -/
def StaleKind.raw : StaleKind → UInt64
  | .staleGeneration => 0
  | .retiredRegion => 1
  | .topologySuperseded => 2
  | .staleBoot => 3
  | .staleEpoch => 4
  | .staleSequence => 5
  | .fencedPublisher => 6

/-- A flag as the source hashes it. -/
def flagWord (flag : Bool) : UInt64 := if flag then 1 else 0

/-- `region_identity_fingerprint`. -/
def regionIdentityFingerprint (r : RegionRecord) : UInt64 :=
  let h := fnv1aStr fnv1aInit r.id
  let h := fnv1aU64 h r.generation
  let h := fnv1aU64 h r.opaqueHandle
  let h := fnv1aStr h r.owner
  let h := fnv1aStr h r.memoryDomain
  let h := fnv1aU64 h r.memoryDomainGeneration
  let h := fnv1aStr h r.coherenceDomain
  let h := fnv1aU64 h r.sharingScope.raw.toUInt64
  let h := fnv1aU64 h r.sizeBytes
  let h := fnv1aU64 h r.pageSizeBytes
  let h := fnv1aU64 h r.allocationGeneration
  let h := fnv1aU64 h r.mappingGeneration
  fnv1aU64 h (flagWord r.retired)

/-- `hash_bucket`. -/
def hashBucket (h : UInt64) (e : AggregateKey × AggregateValue) : UInt64 :=
  let h := fnv1aU64 h e.1.dimension.raw.toUInt64
  let h := fnv1aStr h e.1.value
  let h := fnv1aU64 h e.2.observations
  let h := fnv1aU64 h e.2.bytes
  let h := fnv1aU64 h e.2.remoteAccesses
  let h := fnv1aU64 h e.2.remoteReads
  let h := fnv1aU64 h e.2.remoteWrites
  let h := fnv1aU64 h e.2.invalidations
  let h := fnv1aU64 h e.2.ownershipTransfers
  let h := fnv1aU64 h e.2.counterDeltaTotal
  let h := fnv1aU64 h (flagWord e.2.saturated)
  fnv1aU64 h e.2.weakestPrecision.raw.toUInt64

/-- `aggregate_fingerprint`. -/
def aggregateFingerprint (s : State) : UInt64 :=
  let h := s.aggregates.buckets.toList.foldl hashBucket fnv1aInit
  let h := fnv1aU64 h (UInt64.ofNat s.aggregates.buckets.size)
  let h := fnv1aU64 h s.aggregates.refusedUpdates
  fnv1aU64 h s.aggregates.saturations

/-- The part of `state_fingerprint` before the regions: epochs, nodes, devices and domains. -/
def structureFingerprint (s : State) : UInt64 :=
  let h := fnv1aU64 fnv1aInit s.coordinatorEpoch
  let h := fnv1aU64 h s.observationEpoch
  let h := fnv1aU64 h s.topologyGeneration
  let h := fnv1aU64 h s.evidenceGeneration
  let h := s.nodes.toList.foldl (fun h e => fnv1aStr (fnv1aStr h e.1) e.2.displayName) h
  let h := s.processors.toList.foldl (fun h e =>
    fnv1aU64 (fnv1aU64 (fnv1aU64 (fnv1aStr h e.1) e.2.generation)
      e.2.logicalProcessorCount.toUInt64) (flagWord e.2.retired)) h
  let h := s.accelerators.toList.foldl (fun h e =>
    fnv1aU64 (fnv1aStr (fnv1aU64 (fnv1aStr h e.1) e.2.generation) e.2.vendorUuid)
      (flagWord e.2.retired)) h
  let h := s.memoryDomains.toList.foldl (fun h e =>
    fnv1aU64 (fnv1aU64 (fnv1aU64 (fnv1aStr h e.1) e.2.generation) e.2.kind.raw.toUInt64)
      (flagWord e.2.retired)) h
  s.coherenceDomains.toList.foldl (fun h e =>
    fnv1aU64 (fnv1aStr (fnv1aU64 (fnv1aStr h e.1) e.2.generation) e.2.protocolFamily)
      (flagWord e.2.retired)) h

/-- The regions. The running value is not passed on. -/
def regionsFingerprint (s : State) (h : UInt64) : UInt64 :=
  s.regions.toList.foldl (fun _ e => regionIdentityFingerprint e.2) h

/-- Links, publishers, counters and watermarks. -/
def bindingsFingerprint (s : State) (h : UInt64) : UInt64 :=
  let h := fnv1aU64 h (UInt64.ofNat s.topology.links.length)
  let h := s.topology.links.foldl (fun h link =>
    fnv1aU64 (fnv1aStr (fnv1aStr h (resourceText link.source)) (resourceText link.target))
      link.locality.raw.toUInt64) h
  let h := s.publishers.toList.foldl (fun h e =>
    let h := fnv1aStr h e.1
    let h := fnv1aU64 h e.2.view.boot
    let h := fnv1aU64 h (flagWord e.2.view.current)
    let h := fnv1aU64 h (flagWord e.2.view.fenced)
    let h := fnv1aU64 h e.2.view.acceptedEvents
    let h := fnv1aU64 h e.2.highWatermark
    fnv1aU64 h (UInt64.ofNat e.2.window.entries.size)) h
  let h := s.counters.toList.foldl (fun h e =>
    let h := fnv1aStr h e.1.publisher
    let h := fnv1aU64 h e.1.boot
    let h := fnv1aStr h e.1.counter
    let h := fnv1aU64 h e.2.generation
    let h := fnv1aU64 h e.2.accumulated
    let h := fnv1aU64 h e.2.resets
    fnv1aU64 h e.2.wraps) h
  s.watermarks.toList.foldl (fun h e =>
    fnv1aU64 (fnv1aU64 (fnv1aStr h e.1) e.2.highWatermark) (flagWord e.2.fenced)) h

/-- Aggregates, journal and region evidence. -/
def evidenceFingerprint (s : State) (h : UInt64) : UInt64 :=
  let h := fnv1aU64 h (aggregateFingerprint s)
  let h := fnv1aU64 h (UInt64.ofNat s.journal.length)
  let h := s.journal.foldl (fun h e =>
    fnv1aU64 (fnv1aU64 h e.observation.contentHash) e.outcome.raw) h
  let h := fnv1aU64 h (UInt64.ofNat s.regionEvidence.size)
  s.regionEvidence.toList.foldl (fun h e =>
    let h := fnv1aStr h e.1
    let h := fnv1aU64 h e.2.relevantTotal
    let h := fnv1aU64 h e.2.evicted
    e.2.samples.foldl (fun h sample =>
      let h := fnv1aU64 h sample.eventId
      let h := fnv1aU64 h sample.sequence
      let h := fnv1aU64 h sample.type.raw.toUInt64
      let h := fnv1aStr h sample.source.id
      fnv1aStr h sample.target.id) h) h

/-- Stale records, capabilities and history. -/
def recordsFingerprint (s : State) (h : UInt64) : UInt64 :=
  let h := fnv1aU64 h (UInt64.ofNat s.stale.length)
  let h := s.stale.foldl (fun h record =>
    let h := fnv1aU64 h record.kind.raw
    let h := fnv1aU64 h record.eventId
    let h := fnv1aStr h record.publisher
    let h := fnv1aStr h record.region
    fnv1aStr h record.detail) h
  let h := s.capabilities.toList.foldl (fun h e =>
    fnv1aStr (fnv1aU64 (fnv1aStr h e.1) e.2.status.raw.toUInt64) e.2.detail) h
  let h := fnv1aU64 h (UInt64.ofNat s.history.length)
  let h := s.history.foldl (fun h record =>
    fnv1aU64 (fnv1aU64 (fnv1aStr h record.region) record.observations) record.bytes) h
  let h := fnv1aU64 h s.historicalObservationCount
  fnv1aU64 h s.historySourceEpoch

/-- What follows the regions. -/
def contentFingerprint (s : State) (h : UInt64) : UInt64 :=
  recordsFingerprint s (evidenceFingerprint s (bindingsFingerprint s h))

/-- `state_fingerprint`. -/
def stateFingerprint (s : State) : UInt64 :=
  contentFingerprint s (regionsFingerprint s (structureFingerprint s))

/-! ## What it forgets -/

theorem foldl_last {β : Type} (f : α → β) (l : List α) (h : β) :
    l.foldl (fun _ x => f x) h = (l.getLast?.map f).getD h := by
  rcases List.eq_nil_or_concat l with rfl | ⟨l, x, rfl⟩
  · rfl
  · rw [List.concat_eq_append, List.foldl_append, List.getLast?_append]
    rfl

/-- Of the regions the last one is left, and without regions what came before them. -/
theorem regionsFingerprint_eq (s : State) (h : UInt64) :
    regionsFingerprint s h =
      ((s.regions.maxKey?.bind fun k => s.regions[k]?).map regionIdentityFingerprint).getD h := by
  rw [regionsFingerprint, foldl_last fun e : Text × RegionRecord => regionIdentityFingerprint e.2,
    getLast?_toList]
  cases s.regions.maxKey? with
  | none => rfl
  | some k => cases hk : s.regions[k]? <;> simp [hk]

theorem bindingsFingerprint_inj : bindingsFingerprint s h = bindingsFingerprint s h' ↔ h = h' := by
  unfold bindingsFingerprint
  dsimp only
  rw [foldl_mix_inj (by simp), foldl_mix_inj (by simp), foldl_mix_inj (by simp),
    foldl_mix_inj (by simp), fnv1aU64_inj]

theorem evidenceFingerprint_inj : evidenceFingerprint s h = evidenceFingerprint s h' ↔ h = h' := by
  have hsamples {h h' : UInt64} (e : Text × RegionEvidence) :
      e.2.samples.foldl (fun h sample => fnv1aStr (fnv1aStr (fnv1aU64 (fnv1aU64 (fnv1aU64 h
          sample.eventId) sample.sequence) sample.type.raw.toUInt64) sample.source.id)
          sample.target.id) h =
        e.2.samples.foldl (fun h sample => fnv1aStr (fnv1aStr (fnv1aU64 (fnv1aU64 (fnv1aU64 h
          sample.eventId) sample.sequence) sample.type.raw.toUInt64) sample.source.id)
          sample.target.id) h' ↔ h = h' := foldl_mix_inj (by simp) _
  unfold evidenceFingerprint
  dsimp only
  rw [foldl_mix_inj (by simp [hsamples]), fnv1aU64_inj, foldl_mix_inj (by simp), fnv1aU64_inj,
    fnv1aU64_inj]

theorem recordsFingerprint_inj : recordsFingerprint s h = recordsFingerprint s h' ↔ h = h' := by
  unfold recordsFingerprint
  dsimp only
  rw [fnv1aU64_inj, fnv1aU64_inj, foldl_mix_inj (by simp), fnv1aU64_inj, foldl_mix_inj (by simp),
    foldl_mix_inj (by simp), fnv1aU64_inj]

/-- What follows the regions forgets nothing of what came before. -/
theorem contentFingerprint_inj : contentFingerprint s h = contentFingerprint s h' ↔ h = h' :=
  recordsFingerprint_inj.trans (evidenceFingerprint_inj.trans bindingsFingerprint_inj)

/-! ## What it shows -/

/-- The states agree on everything that is hashed from the regions on. -/
structure AgreesFromRegions (s t : State) : Prop where
  regions : t.regions = s.regions
  links : t.topology.links = s.topology.links
  publishers : t.publishers = s.publishers
  counters : t.counters = s.counters
  watermarks : t.watermarks = s.watermarks
  aggregates : t.aggregates = s.aggregates
  journal : t.journal = s.journal
  regionEvidence : t.regionEvidence = s.regionEvidence
  stale : t.stale = s.stale
  capabilities : t.capabilities = s.capabilities
  history : t.history = s.history
  historicalObservationCount : t.historicalObservationCount = s.historicalObservationCount
  historySourceEpoch : t.historySourceEpoch = s.historySourceEpoch

theorem AgreesFromRegions.contentFingerprint_eq (h : AgreesFromRegions s t) (hash : UInt64) :
    contentFingerprint t hash = contentFingerprint s hash := by
  simp only [contentFingerprint, bindingsFingerprint, evidenceFingerprint, aggregateFingerprint,
    recordsFingerprint, h.links, h.publishers, h.counters, h.watermarks, h.aggregates, h.journal,
    h.regionEvidence, h.stale, h.capabilities, h.history, h.historicalObservationCount,
    h.historySourceEpoch]

/-- A difference before the regions shows exactly if there are no regions. -/
theorem stateFingerprint_ne_iff_empty (h : AgreesFromRegions s t)
    (hne : structureFingerprint s ≠ structureFingerprint t) :
    stateFingerprint s ≠ stateFingerprint t ↔ s.regions = ∅ := by
  rw [stateFingerprint, stateFingerprint, h.contentFingerprint_eq, Ne, contentFingerprint_inj,
    regionsFingerprint_eq, regionsFingerprint_eq, h.regions]
  cases hmax : s.regions.maxKey? with
  | none =>
    rw [maxKey?_eq_none_iff] at hmax
    simp [hmax, hne]
  | some k =>
    obtain ⟨hmem, -⟩ := maxKey?_eq_some_iff_mem_and_forall.1 hmax
    have hnonempty : s.regions ≠ ∅ := by
      intro hempty
      rw [hempty] at hmem
      simp at hmem
    rw [mem_iff_isSome_getElem?, Option.isSome_iff_exists] at hmem
    obtain ⟨r, hr⟩ := hmem
    simp [hr, hnonempty]

/-- A difference in one region shows exactly if that is the last region. -/
theorem stateFingerprint_ne_iff_last {k : Text} {r r' : RegionRecord} (hr : s.regions[k]? = some r)
    (hne : regionIdentityFingerprint r ≠ regionIdentityFingerprint r') :
    stateFingerprint s ≠ stateFingerprint { s with regions := s.regions.insert k r' } ↔
      s.regions.maxKey? = some k := by
  have hmem : k ∈ s.regions := by
    rw [mem_iff_isSome_getElem?, hr]
    rfl
  change contentFingerprint s _ ≠ contentFingerprint s _ ↔ _
  rw [Ne, contentFingerprint_inj, regionsFingerprint_eq, regionsFingerprint_eq,
    maxKey?_insert_of_mem hmem]
  cases hmax : s.regions.maxKey? with
  | none =>
    rw [maxKey?_eq_none_iff] at hmax
    rw [hmax] at hmem
    simp at hmem
  | some last =>
    by_cases hlast : last = k
    · subst hlast
      simp [hr, hne]
    · obtain ⟨hmem, -⟩ := maxKey?_eq_some_iff_mem_and_forall.1 hmax
      rw [mem_iff_isSome_getElem?, Option.isSome_iff_exists] at hmem
      obtain ⟨record, hrecord⟩ := hmem
      simp [getElem?_insert, Ne.symm hlast, hlast, hrecord]

/-- Two states that differ in what is hashed before the regions have different fingerprints
    exactly if there are no regions, and two states that differ in one region exactly if it is
    the last one. -/
theorem stateFingerprint_sensitive_iff (s : State) :
    (∀ t : State, AgreesFromRegions s t → structureFingerprint s ≠ structureFingerprint t →
      (stateFingerprint s ≠ stateFingerprint t ↔ s.regions = ∅)) ∧
    ∀ (k : Text) (r r' : RegionRecord), s.regions[k]? = some r →
      regionIdentityFingerprint r ≠ regionIdentityFingerprint r' →
      (stateFingerprint s ≠ stateFingerprint { s with regions := s.regions.insert k r' } ↔
        s.regions.maxKey? = some k) :=
  ⟨fun _ => stateFingerprint_ne_iff_empty, fun _ _ _ => stateFingerprint_ne_iff_last⟩

/-- Without regions the coordinator epoch shows. -/
theorem stateFingerprint_sensitive_epoch :
    stateFingerprint (State.initial {} 0) ≠
      stateFingerprint { State.initial {} 0 with coordinatorEpoch := 2 } := by
  refine ((stateFingerprint_sensitive_iff _).1 _ ?_ (by decide +kernel)).2 rfl
  exact ⟨rfl, rfl, rfl, rfl, rfl, rfl, rfl, rfl, rfl, rfl, rfl, rfl, rfl⟩

/-- Two observatories with the same region and different coordinator epochs have the same
    fingerprint. -/
theorem region_hides_epoch :
    let region : Action := .registerRegion { id := ascii "r", generation := 1 } 0
    let s := Run.final act (State.initial {} 0) [region]
    let t := Run.final act (State.initial { initialCoordinatorEpoch := 2 } 0) [region]
    structureFingerprint s ≠ structureFingerprint t ∧ AgreesFromRegions s t ∧
      stateFingerprint s = stateFingerprint t := by
  intro region s t
  refine ⟨by decide +kernel, ?_, by decide +kernel⟩
  exact ⟨rfl, rfl, rfl, rfl, rfl, rfl, rfl, rfl, rfl, rfl, rfl, rfl, rfl⟩

end CoherenceObservatory
