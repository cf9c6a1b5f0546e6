import CoherenceObservatory.Observation

/-!
# What the validators accept

The validators check one thing after the other and stop at the first that fails. What they accept
is stated here as a whole, independent of the order of the checks and of their messages:
`Observation.Valid` and `CounterPublication.Valid`.
-/

namespace CoherenceObservatory

open Limits

/-! ## Checks -/

variable {check : Status} {c : CounterPublication}

@[simp] theorem relabel_eq_ok {message : Text} :
    relabel message check = .ok () ↔ check = .ok () := by
  cases check <;> simp [relabel]

theorem whenSome_eq_ok {α : Type} {check : α → Status} {x : Option α} :
    whenSome check x = .ok () ↔ ∀ y ∈ x, check y = .ok () := by
  cases x <;> simp [whenSome]

theorem status_bind_eq_ok {rest : Unit → Status} :
    (check >>= rest) = .ok () ↔ check = .ok () ∧ rest () = .ok () := by
  rw [bind_eq_ok]
  exact ⟨fun ⟨(), h⟩ => h, fun h => ⟨(), h⟩⟩

/-! ## Parts -/

/-- An acceptable resource reference. Its kind need not be one of the enumeration. -/
structure ResourceRef.Valid (ref : ResourceRef) : Prop where
  token : IsToken ref.id
  node : ref.kind = .Node → ref.generation = 0
  device : ref.kind = .Processor ∨ ref.kind = .Accelerator ∨ ref.kind = .MemoryDomain ∨
    ref.kind = .CoherenceDomain → ref.generation ≠ 0
  known : ref.kind ≠ .Unknown

theorem validateResourceRef_eq_ok {ref : ResourceRef} {role : String} :
    validateResourceRef ref role = .ok () ↔ ref.Valid := by
  simp only [validateResourceRef, status_bind_eq_ok, failIf_eq_ok, relabel_eq_ok,
    validateIdentityToken_eq_ok]
  constructor
  · rintro ⟨-, htoken, hnode, hdevice, hknown⟩
    exact ⟨htoken, fun h => by simpa [h] using hnode, fun h h' => hdevice ⟨h, h'⟩, hknown⟩
  · rintro ⟨htoken, hnode, hdevice, hknown⟩
    exact ⟨htoken.ne_nil, htoken, fun h => h.2 (hnode h.1), fun h => hdevice h.1 h.2, hknown⟩

/-- An identity travels with a generation, and a generation does not travel alone. -/
def ValidNamed (id : Option Text) (generation : Option UInt64) : Prop :=
  match id with
  | some id => IsToken id ∧ generation.getD 0 ≠ 0
  | none => generation = none

theorem validateNamed_eq_ok {id : Option Text} {generation : Option UInt64}
    {invalid needsGeneration alone : String} :
    validateNamed id generation invalid needsGeneration alone = .ok () ↔
      ValidNamed id generation := by
  cases id with
  | none => simp [validateNamed, ValidNamed, failIf_eq_ok]
  | some id =>
    simp only [validateNamed, ValidNamed, status_bind_eq_ok, failIf_eq_ok, relabel_eq_ok,
      validateIdentityToken_eq_ok, ne_eq]

/-- Neither is the other, as a kind and an identity. -/
def DistinctRefs (source target : Option ResourceRef) : Prop :=
  ∀ r ∈ source, ∀ r' ∈ target, ¬(r.kind = r'.kind ∧ r.id = r'.id)

/-! ## Observations -/

/-- What `validate_observation_structure` asks, check by check. -/
structure Observation.Valid (o : Observation) : Prop where
  eventId : o.eventId ≠ 0
  type : o.type.raw < EventType.count
  publisher : IsToken o.sourcePublisher
  boot : o.publisherBoot ≠ 0
  timestamp : ¬timestampOutOfRange o.timestampNs
  sequence : o.sequence ≠ 0
  source : ∀ r ∈ o.source, r.Valid
  target : ∀ r ∈ o.target, r.Valid
  distinct : DistinctRefs o.source o.target
  region : ValidNamed o.region o.regionGeneration
  domain : ValidNamed o.coherenceDomain o.coherenceDomainGeneration
  workload : ∀ t ∈ o.workload, IsToken t
  process : ∀ t ∈ o.process, IsToken t
  direction : o.direction.raw ≤ 5
  stateBefore : o.stateBefore.raw ≤ 9
  stateAfter : o.stateAfter.raw ≤ 9
  locality : o.locality.raw ≤ Locality.count
  provenance : o.provenance.raw ≤ 9
  precision : o.precision.raw ≤ 6
  granularity : o.granularity.raw ≤ 6
  bytes : o.bytes ≤ maxByteCount
  lines : o.lines ≤ maxLineCount
  pages : o.pages ≤ maxLineCount
  regionCount : o.regionCount.toNat ≤ maxRegionCount
  duration : -1 ≤ o.measuredDurationNs ∧ o.measuredDurationNs ≤ maxMeasuredDurationNs
  exact_granularity : o.precision.rank ≥ Precision.ExactCounterDelta.rank → o.granularity ≠ .Unknown
  delta_precision : o.counterDelta.isSome → o.precision ≠ .ExactEvent
  delta_generation : o.counterDelta.isSome ↔ o.counterGeneration ≠ 0
  declared : o.localityDeclared = false → o.locality = .Unknown
  backend : o.type = .UnknownCoherenceEvent → o.metadata.contains backendEventKey

section

variable {o : Observation}

theorem validateSubject_eq_ok :
    validateSubject o = .ok () ↔ (∀ r ∈ o.source, r.Valid) ∧ (∀ r ∈ o.target, r.Valid) ∧
      DistinctRefs o.source o.target ∧ ValidNamed o.region o.regionGeneration ∧
      ValidNamed o.coherenceDomain o.coherenceDomainGeneration ∧
      (∀ t ∈ o.workload, IsToken t) ∧ ∀ t ∈ o.process, IsToken t := by
  unfold validateSubject
  -- Both references are needed for the comparison, so the rest of the checks follows in each case.
  cases o.source <;> cases o.target <;>
    simp [status_bind_eq_ok, whenSome_eq_ok, validateResourceRef_eq_ok, validateNamed_eq_ok,
      validateIdentityToken_eq_ok, DistinctRefs, failIf_eq_ok]

theorem validateObservationStructure_eq_ok : validateObservationStructure o = .ok () ↔ o.Valid := by
  have hdelta : (o.counterDelta.isSome ↔ o.counterGeneration ≠ 0) ↔
      ¬(o.counterDelta.isSome = true ∧ o.counterGeneration = 0) ∧
        ¬(o.counterDelta = none ∧ o.counterGeneration ≠ 0) := by
    cases o.counterDelta <;> simp
  simp only [validateObservationStructure, status_bind_eq_ok, validateSubject_eq_ok,
    validateIdentity, validateRanges, validateClaims, failIf_eq_ok, relabel_eq_ok,
    validateIdentityToken_eq_ok, not_or, UInt8.not_lt, UInt64.not_lt, Int64.not_lt, Nat.not_lt,
    UInt8.not_le, ge_iff_le, gt_iff_lt]
  constructor
  · rintro ⟨⟨hevent, htype, -, hpublisher, hboot, htime, hsequence⟩,
      ⟨hsource, htarget, hdistinct, hregion, hdomain, hworkload, hprocess⟩,
      ⟨hdirection, ⟨hbefore, hafter⟩, hlocality, hprovenance, hprecision, hgranularity, hbytes,
        ⟨hlines, hpages⟩, hcount, hduration⟩,
      hexact, hprecise, hwithout, halone, hdeclared, hbackend⟩
    exact ⟨hevent, htype, hpublisher, hboot, htime, hsequence, hsource, htarget, hdistinct, hregion,
      hdomain, hworkload, hprocess, hdirection, hbefore, hafter, hlocality, hprovenance, hprecision,
      hgranularity, hbytes, hlines, hpages, hcount, hduration, fun h h' => hexact ⟨h, h'⟩,
      fun h h' => hprecise ⟨h, h'⟩, hdelta.2 ⟨hwithout, halone⟩,
      fun h => by simpa [h] using hdeclared, fun h => by simpa [h] using hbackend⟩
  · intro h
    obtain ⟨hwithout, halone⟩ := hdelta.1 h.delta_generation
    exact ⟨⟨h.eventId, h.type, h.publisher.ne_nil, h.publisher, h.boot, h.timestamp, h.sequence⟩,
      ⟨h.source, h.target, h.distinct, h.region, h.domain, h.workload, h.process⟩,
      ⟨h.direction, ⟨h.stateBefore, h.stateAfter⟩, h.locality, h.provenance, h.precision,
        h.granularity, h.bytes, ⟨h.lines, h.pages⟩, h.regionCount, h.duration⟩,
      fun h' => h.exact_granularity h'.1 h'.2, fun h' => h.delta_precision h'.1 h'.2, hwithout,
      halone, fun h' => h'.2 (h.declared (by simpa using h'.1)), fun h' => h'.2 (h.backend h'.1)⟩

end

/-! ## Counter publications -/

/-- What a counter publication is checked for. Its references and names are not looked at. -/
structure CounterPublication.Valid (c : CounterPublication) : Prop where
  publisher : c.publisher ≠ []
  boot : c.publisherBoot ≠ 0
  counter : IsToken c.counter
  type : c.mappedType.raw < EventType.count
  kind : c.kind.raw ≤ 4
  scope : c.scope.raw ≤ 6
  scope_known : c.scope ≠ .Unknown
  width : c.widthBits ≠ 0 ∧ c.widthBits ≤ 64
  bytesPerUnit : c.bytesPerUnit ≤ maxByteCount
  sequence : c.sequence ≠ 0
  timestamp : ¬timestampOutOfRange c.timestampNs
  provenance : c.provenance.raw ≤ 9
  granularity : c.granularity.raw ≤ 6
  per_region : c.region.isSome ↔ c.scope = .PerRegion
  region : c.region.isSome → c.regionGeneration.getD 0 ≠ 0
  region_alone : c.region = none → c.regionGeneration = none
  resolution : c.scope ≠ .PerRegion → c.granularity.rank ≤ EvidenceGranularity.Device.rank
  located : c.scope = .PerDevice ∨ c.scope = .PerDomain ∨ c.scope = .PerLink → c.source ≠ none

theorem validateCounterRegion_eq_ok :
    validateCounterRegion c = .ok () ↔ (c.region.isSome ↔ c.scope = .PerRegion) ∧
      (c.region.isSome → c.regionGeneration.getD 0 ≠ 0) ∧
      (c.region = none → c.regionGeneration = none) := by
  unfold validateCounterRegion
  cases c.region <;> simp [status_bind_eq_ok, failIf_eq_ok]

theorem validateCounterPublication_eq_ok : validateCounterPublication c = .ok () ↔ c.Valid := by
  simp only [validateCounterPublication, status_bind_eq_ok, validateCounterRegion_eq_ok,
    failIf_eq_ok, relabel_eq_ok, validateIdentityToken_eq_ok, not_or, UInt8.not_lt, UInt64.not_lt,
    UInt32.not_lt, UInt8.not_le, ge_iff_le, gt_iff_lt, not_and]
  constructor
  · rintro ⟨hpublisher, hboot, -, hcounter, htype, hkind, hscope, hknown, hwidth, hunit, hsequence,
      htime, hprovenance, hgranularity, ⟨hper, hregion, halone⟩, hresolution, hlocated⟩
    exact ⟨hpublisher, hboot, hcounter, htype, hkind, hscope, hknown, hwidth, hunit, hsequence,
      htime, hprovenance, hgranularity, hper, hregion, halone, hresolution, hlocated⟩
  · intro h
    exact ⟨h.publisher, h.boot, h.counter.ne_nil, h.counter, h.type, h.kind, h.scope, h.scope_known,
      h.width, h.bytesPerUnit, h.sequence, h.timestamp, h.provenance, h.granularity,
      ⟨h.per_region, h.region, h.region_alone⟩, h.resolution, h.located⟩

end CoherenceObservatory
