import CoherenceObservatory.Attribution

/-!
# The sections of attribution

Attribution leaves its checks from the middle. Each section either hands its result on or
refuses the evidence, and what it asks for is stated here once. Evidence that is asked for
everything is current; it goes on to the locality, the candidate regions and the outcome.
-/

namespace CoherenceObservatory

open Std ExtTreeMap

/-! ## What is asked for -/

/-- A resource is registered, not retired, and at the generation named. A node has neither a
generation nor an end. -/
def ResourceRef.Current (s : State) (ref : ResourceRef) : Prop :=
  (ref.kind = .Processor ∧ ∃ r, s.processors[ref.id]? = some r ∧ r.retired = false ∧
    r.generation = ref.generation) ∨
  (ref.kind = .Accelerator ∧ ∃ r, s.accelerators[ref.id]? = some r ∧ r.retired = false ∧
    r.generation = ref.generation) ∨
  (ref.kind = .MemoryDomain ∧ ∃ r, s.memoryDomains[ref.id]? = some r ∧ r.retired = false ∧
    r.generation = ref.generation) ∨
  (ref.kind = .CoherenceDomain ∧ ∃ r, s.coherenceDomains[ref.id]? = some r ∧ r.retired = false ∧
    r.generation = ref.generation) ∨
  (ref.kind = .Node ∧ ref.id ∈ s.nodes)

/-- The publisher is registered with the boot of the observation. Where the policy asks for it,
the boot is current and not fenced. -/
def PublisherHeld (s : State) (o : Observation) : Prop :=
  ∃ p, s.publishers[o.sourcePublisher]? = some p ∧ p.view.boot = o.publisherBoot ∧
    (s.options.attributionPolicy.requireCurrentPublisher = true →
      p.view.current = true ∧ p.view.fenced = false)

/-- The region, where it is named and registered, is not retired. Where the policy asks for it,
it is at the generation named. -/
def RegionHeld (s : State) (o : Observation) : Prop :=
  ∀ region record, o.region = some region → s.regions[region]? = some record →
    record.retired = false ∧
      (s.options.attributionPolicy.requireCurrentRegionGeneration = true →
        o.regionGeneration = some record.generation)

/-- A claim of real evidence for which the capability is missing. -/
def Gated (s : State) (o : Observation) : Prop :=
  o.provenance.isReal = true ∧
    (o.granularity = .CacheLine ∧ capabilityStatus s "coherence.cache_line_ownership" ≠ .Real ∨
      o.localityDeclared = true ∧ (o.locality = .CxlAttached ∨ o.locality = .PooledMemory) ∧
        capabilityStatus s "memory.cxl_telemetry" ≠ .Real)

/-- The coherence domain, where it is named and registered, is not retired, and at the generation
named, if one is. -/
def DomainCurrent (s : State) (o : Observation) : Prop :=
  ∀ domain record, o.coherenceDomain = some domain → s.coherenceDomains[domain]? = some record →
    record.retired = false ∧ ∀ g, o.coherenceDomainGeneration = some g → g = record.generation

/-- What the sections ask for together. -/
structure EvidenceCurrent (s : State) (o : Observation) : Prop where
  epoch : s.options.attributionPolicy.requireCurrentCoordinatorEpoch = true →
    o.coordinatorEpoch = s.coordinatorEpoch
  publisher : PublisherHeld s o
  topology : s.options.attributionPolicy.requireCurrentTopology = true →
    o.topologyGeneration = s.topologyGeneration
  region : RegionHeld s o
  capability : ¬Gated s o
  source : ∀ ref, o.source = some ref → ref.Current s
  target : ∀ ref, o.target = some ref → ref.Current s
  domain : DomainCurrent s o

variable {α : Type} {k : AttributionTargetKind} {r r' r'' : AttributionResult} {s : State}
  {o : Observation}

theorem any_record_iff {m : ExtTreeMap Text α} {key : Text} {retired : α → Bool}
    {generationOf : α → UInt64} {generation : UInt64} :
    (m[key]?.any fun r => !retired r && generationOf r == generation) = true ↔
      ∃ r, m[key]? = some r ∧ retired r = false ∧ generationOf r = generation := by
  rw [Option.any_eq_true_iff_get]
  cases m[key]? <;> simp

theorem resourceIsCurrent_iff (s : State) (ref : ResourceRef) :
    resourceIsCurrent s ref = true ↔ ref.Current s := by
  -- the kinds are different from each other
  have hkinds : [ResourceKind.Processor, .Accelerator, .MemoryDomain, .CoherenceDomain,
    .Node].Nodup := by decide
  simp only [List.nodup_cons, List.mem_cons, List.not_mem_nil, or_false, not_or] at hkinds
  obtain ⟨⟨_, _, _, _⟩, ⟨_, _, _⟩, ⟨_, _⟩, _, _⟩ := hkinds
  unfold resourceIsCurrent ResourceRef.Current
  split
  next h => simp_all [any_record_iff]
  split
  next h => simp_all [any_record_iff, Ne.symm]
  split
  next h => simp_all [any_record_iff, Ne.symm]
  split
  next h => simp_all [any_record_iff, Ne.symm]
  split
  next h => simp_all [contains_iff_mem, Ne.symm]
  next => simp_all

/-! ## How a section ends -/

/-- How a computation ends: with a value that is `good`, or with an error that is `bad`. -/
def Ends {ε α : Type} (x : Except ε α) (good : α → Prop) (bad : ε → Prop) : Prop :=
  match x with
  | .ok y => good y
  | .error e => bad e

theorem Ends.bind {ε β : Type} {x : Except ε α} {f : α → Except ε β} {good : α → Prop}
    {bad bad' : ε → Prop} {good' : β → Prop} (h : Ends x good bad) (hbad : ∀ e, bad e → bad' e)
    (hgood : ∀ y, good y → Ends (f y) good' bad') : Ends (x >>= f) good' bad' := by
  cases x with
  | ok y => exact hgood y h
  | error e => exact hbad e h

namespace AttributionResult

variable (r : AttributionResult) (kind : AttributionTargetKind) (value : Text) (generation : UInt64)

@[simp] theorem addTarget_outcome : (r.addTarget kind value generation).outcome = r.outcome := by
  unfold addTarget
  split <;> rfl

@[simp] theorem addTarget_precision :
    (r.addTarget kind value generation).precision = r.precision := by
  unfold addTarget
  split <;> rfl

@[simp] theorem addReason_outcome (reason : String) : (r.addReason reason).outcome = r.outcome := by
  unfold addReason
  split <;> rfl

@[simp] theorem addReason_precision (reason : String) :
    (r.addReason reason).precision = r.precision := by
  unfold addReason
  split <;> rfl

@[simp] theorem addEvidence_outcome (o : Observation) : (r.addEvidence o).outcome = r.outcome := by
  unfold addEvidence
  split <;> rfl

@[simp] theorem addEvidence_precision (o : Observation) :
    (r.addEvidence o).precision = r.precision := by
  unfold addEvidence
  split <;> rfl

@[simp] theorem addResourceTarget_precision (ref : ResourceRef) :
    (r.addResourceTarget ref).precision = r.precision := by
  unfold addResourceTarget
  repeat' split
  all_goals simp

@[simp] theorem sortReasons_outcome : r.sortReasons.outcome = r.outcome := rfl

@[simp] theorem sortReasons_precision : r.sortReasons.precision = r.precision := rfl

@[simp] theorem bindRegion_precision (record : RegionRecord) :
    (bindRegion r record).precision = r.precision := by
  simp [bindRegion]

end AttributionResult

/-- Nothing is said of a locality yet. -/
structure AttributionResult.Unlocated (r : AttributionResult) : Prop where
  candidates : r.candidates = []
  locality : r.locality = .Unknown
  established : r.localityEstablished = false
  targets : ∀ t ∈ r.targets, t.kind ≠ .localityClass

namespace AttributionResult.Unlocated

variable {r : AttributionResult}

theorem addTarget (h : r.Unlocated) (hk : k ≠ .localityClass) (value : Text) (generation : UInt64) :
    (r.addTarget k value generation).Unlocated := by
  unfold AttributionResult.addTarget
  split
  · exact h
  · refine ⟨h.candidates, h.locality, h.established, fun t ht => ?_⟩
    rcases List.mem_append.1 ht with ht | ht
    · exact h.targets t ht
    · rw [List.mem_singleton.1 ht]
      exact hk

theorem addReason (h : r.Unlocated) (reason : String) : (r.addReason reason).Unlocated := by
  unfold AttributionResult.addReason
  split
  · exact h
  · exact ⟨h.candidates, h.locality, h.established, h.targets⟩

theorem addResourceTarget (h : r.Unlocated) (ref : ResourceRef) :
    (r.addResourceTarget ref).Unlocated := by
  unfold AttributionResult.addResourceTarget
  split_ifs
  · exact h
  · exact h.addTarget (by decide) _ _
  · exact h.addTarget (by decide) _ _
  · exact h.addTarget (by decide) _ _
  · exact h

theorem bindRegion (h : r.Unlocated) (record : RegionRecord) :
    (CoherenceObservatory.bindRegion r record).Unlocated := by
  have hbound : { r with
      bindings := { r.bindings with
        regionGeneration := record.generation
        regionGenerationBound := true
        sourceDomainGeneration :=
          if record.memoryDomain ≠ [] then record.memoryDomainGeneration
          else r.bindings.sourceDomainGeneration } }.Unlocated :=
    ⟨h.candidates, h.locality, h.established, h.targets⟩
  have hdomains := (hbound.addTarget (k := .region) (by decide) record.id record.generation
    |>.addTarget (k := .memoryDomain) (by decide) record.memoryDomain
      record.memoryDomainGeneration).addTarget (k := .coherenceDomain) (by decide)
      record.coherenceDomain 0
  exact hdomains.addTarget (by decide) _ _

end AttributionResult.Unlocated

theorem attributionStart_unlocated (s : State) (o : Observation) :
    (attributionStart s o).Unlocated := by
  unfold attributionStart
  refine .addTarget ⟨rfl, rfl, rfl, ?_⟩ (by decide) _ _
  simp

/-- A section hands on `r'` for `r`: as precise as before, and without a word of the locality. -/
structure AttributionResult.Handed (r r' : AttributionResult) : Prop where
  precision : r'.precision = r.precision
  unlocated : r.Unlocated → r'.Unlocated

namespace AttributionResult.Handed

theorem refl (r : AttributionResult) : r.Handed r := ⟨rfl, id⟩

theorem trans (h : r.Handed r') (h' : r'.Handed r'') : r.Handed r'' :=
  ⟨h'.precision.trans h.precision, fun hr => h'.unlocated (h.unlocated hr)⟩

theorem addTarget (r : AttributionResult) (hk : k ≠ .localityClass) (value : Text)
    (generation : UInt64) : r.Handed (r.addTarget k value generation) :=
  ⟨by simp, fun hr => hr.addTarget hk _ _⟩

theorem addReason (r : AttributionResult) (reason : String) : r.Handed (r.addReason reason) :=
  ⟨by simp, fun hr => hr.addReason _⟩

end AttributionResult.Handed

/-- The evidence is refused with `r'`: as precise as before, and not attributed exactly. It does
not count, unless the publisher is not even known. -/
structure Refused (s : State) (o : Observation) (r r' : AttributionResult) : Prop where
  precision : r'.precision = r.precision
  outcome : r'.outcome ≠ .attributedExact
  counts : o.sourcePublisher ∈ s.publishers → countsAsCurrentEvidence r'.outcome = false

theorem Refused.of_handed (h : r.Handed r') (h' : Refused s o r' r'') : Refused s o r r'' :=
  ⟨h'.precision.trans h.precision, h'.outcome, h'.counts⟩

/-! ## The sections -/

section

variable {s : State} {o : Observation} (r : AttributionResult)

theorem refused_stop {outcome : AttributionOutcome}
    (h : countsAsCurrentEvidence outcome = false) (reason : String) :
    Refused s o r { r.addReason reason with outcome } where
  precision := r.addReason_precision reason
  outcome := by
    rintro rfl
    exact nomatch h
  counts _ := h

/-- What the first section asks for. -/
def AuthorityHeld (s : State) (o : Observation) : Prop :=
  (s.options.attributionPolicy.requireCurrentCoordinatorEpoch = true →
      o.coordinatorEpoch = s.coordinatorEpoch) ∧
    PublisherHeld s o ∧
    (s.options.attributionPolicy.requireCurrentTopology = true →
      o.topologyGeneration = s.topologyGeneration)

/-- How the section of the authority ends. -/
theorem attributeAuthority_ends : Ends (attributeAuthority s o r)
    (fun r' => r' = r ∧ AuthorityHeld s o) fun r' => Refused s o r r' ∧ ¬AuthorityHeld s o := by
  unfold attributeAuthority
  dsimp only
  split
  next h => exact ⟨refused_stop r rfl _, fun hheld => h.2 (hheld.1 h.1)⟩
  next hepoch =>
  split
  next hnone =>
    refine ⟨⟨by simp, nofun, fun hmem => ?_⟩, fun ⟨_, ⟨p, hp, _⟩, _⟩ => ?_⟩
    · rw [mem_iff_isSome_getElem?, hnone] at hmem
      exact nomatch hmem
    · rw [hnone] at hp
      exact nomatch hp
  next publisher hpublisher =>
  have hsame {p : PublisherState} (hp : s.publishers[o.sourcePublisher]? = some p) :
      p = publisher := Option.some.inj (hp.symm.trans hpublisher)
  split
  next h =>
    refine ⟨refused_stop r rfl _, fun ⟨_, ⟨p, hp, hboot, _⟩, _⟩ => h ?_⟩
    rw [← hsame hp, hboot]
  next hboot =>
  split
  next h =>
    refine ⟨refused_stop r rfl _, fun ⟨_, ⟨p, hp, _, hcurrent⟩, _⟩ => ?_⟩
    obtain rfl := hsame hp
    simp [hcurrent h.1] at h
  next hcurrent =>
  split
  next h => exact ⟨refused_stop r rfl _, fun hheld => h.2 (hheld.2.2 h.1)⟩
  next htopology =>
    refine ⟨rfl, by tauto, ⟨publisher, hpublisher, not_not.1 hboot, fun hpolicy => ?_⟩, by tauto⟩
    simpa [hpolicy] using hcurrent

/-- The observation names a region that is registered. -/
def regionNamed (s : State) (o : Observation) : Bool :=
  o.region.any fun region => s.regions.contains region

theorem bindRegion_handed (record : RegionRecord) : r.Handed (bindRegion r record) :=
  ⟨by simp, fun hr => hr.bindRegion record⟩

/-- How that of the region ends. -/
theorem attributeRegion_ends : Ends (attributeRegion s o r)
    (fun x => r.Handed x.1 ∧ x.2 = regionNamed s o ∧ RegionHeld s o)
    fun r' => Refused s o r r' ∧ ¬RegionHeld s o := by
  unfold attributeRegion regionNamed RegionHeld
  cases hregion : o.region with
  | none => exact ⟨.refl r, rfl, nofun⟩
  | some region =>
    rw [Option.any_some, contains_eq_isSome_getElem?]
    cases hrecord : s.regions[region]? with
    | none =>
      simp only [hrecord]
      refine ⟨.addReason r _, rfl, ?_⟩
      rintro _ record ⟨⟩ h
      rw [hrecord] at h
      exact nomatch h
    | some record =>
      simp only [hrecord]
      split
      next h =>
        refine ⟨refused_stop r rfl _, fun hheld => ?_⟩
        simp [(hheld region record rfl hrecord).1] at h
      next hretired =>
      split
      next h =>
        exact ⟨refused_stop r rfl _, fun hheld => h.2 ((hheld region record rfl hrecord).2 h.1)⟩
      next hgeneration =>
        refine ⟨bindRegion_handed r record, rfl, ?_⟩
        rintro _ record' ⟨⟩ h
        obtain rfl := Option.some.inj (hrecord.symm.trans h)
        exact ⟨by simpa using hretired, by tauto⟩

/-- How that of the capability ends. -/
theorem attributeCapability_ends : Ends (attributeCapability s o r)
    (fun r' => r' = r ∧ ¬Gated s o) fun r' => Refused s o r r' ∧ Gated s o := by
  unfold attributeCapability
  split
  next h => exact ⟨refused_stop r rfl _, h.1, .inl h.2⟩
  next hline =>
  split
  next h => exact ⟨refused_stop r rfl _, h.1, .inr h.2⟩
  next hcxl =>
    refine ⟨rfl, ?_⟩
    rintro ⟨hreal, h | h⟩
    · exact hline ⟨hreal, h⟩
    · exact hcxl ⟨hreal, h⟩

theorem addResourceTarget_handed (ref : ResourceRef) : r.Handed (r.addResourceTarget ref) :=
  ⟨by simp, fun hr => hr.addResourceTarget ref⟩

/-- How those of the resources end. -/
theorem attributeResource_ends (ref : Option ResourceRef) : Ends (attributeResource s ref r)
    (fun r' => r.Handed r' ∧ ∀ x, ref = some x → x.Current s)
    fun r' => Refused s o r r' ∧ ¬∀ x, ref = some x → x.Current s := by
  unfold attributeResource
  split
  · exact ⟨.refl r, nofun⟩
  next ref =>
  dsimp only
  split
  next h =>
    refine ⟨addResourceTarget_handed r ref, ?_⟩
    rintro x ⟨⟩
    exact (resourceIsCurrent_iff s ref).1 h
  next h =>
    refine ⟨.of_handed (addResourceTarget_handed r ref) (refused_stop _ rfl _), fun hcurrent => h ?_⟩
    exact (resourceIsCurrent_iff s ref).2 (hcurrent ref rfl)

/-- How that of the domain ends. -/
theorem attributeDomain_ends : Ends (attributeDomain s o r)
    (fun r' => r.Handed r' ∧ DomainCurrent s o) fun r' => Refused s o r r' ∧ ¬DomainCurrent s o := by
  unfold attributeDomain DomainCurrent
  cases hdomain : o.coherenceDomain with
  | none => exact ⟨.refl r, nofun⟩
  | some domain =>
    cases hrecord : s.coherenceDomains[domain]? with
    | none =>
      simp only [hrecord]
      refine ⟨.addReason r _, ?_⟩
      rintro _ record ⟨⟩ h
      rw [hrecord] at h
      exact nomatch h
    | some record =>
      simp only [hrecord]
      split
      next h =>
        refine ⟨refused_stop r rfl _, fun hcurrent => ?_⟩
        simp [(hcurrent domain record rfl hrecord).1] at h
      next hretired =>
      split
      next h =>
        refine ⟨refused_stop r rfl _, fun hcurrent => ?_⟩
        obtain ⟨g, hg, hne⟩ := (Option.any_eq_true _ _).1 h
        simp [(hcurrent domain record rfl hrecord).2 g hg] at hne
      next hgeneration =>
        refine ⟨.addTarget r (by decide) _ _, ?_⟩
        rintro _ record' ⟨⟩ h
        obtain rfl := Option.some.inj (hrecord.symm.trans h)
        refine ⟨by simpa using hretired, fun g hg => ?_⟩
        rw [hg] at hgeneration
        simpa using hgeneration

end

/-! ## All the sections -/

/-- What follows on the checks: the locality, the candidate regions and the outcome. -/
def concludeAttribution (s : State) (o : Observation) (r : AttributionResult) :
    AttributionResult :=
  match attributeAmbiguity s o (regionNamed s o) (attributeLocality s o r) with
  | .ok r =>
    (attributePrecision o (attributeOutcome o (regionNamed s o) r)).sortReasons.addEvidence o
  | .error r => r

/-- The evidence is current, and the attribution is what follows on the checks. -/
def Concluded (s : State) (o : Observation) (a : AttributionResult) : Prop :=
  EvidenceCurrent s o ∧ ∃ r, (attributionStart s o).Handed r ∧ a = concludeAttribution s o r

/-- How all of them end, one after the other. -/
theorem attributeSteps_ends (s : State) (o : Observation) :
    Ends (attributeSteps s o) (Concluded s o) fun a =>
      Concluded s o a ∨ ¬EvidenceCurrent s o ∧ Refused s o (attributionStart s o) a := by
  have hrefused {r a : AttributionResult} {p : Prop} (hr : (attributionStart s o).Handed r)
      (hp : EvidenceCurrent s o → p) (h : Refused s o r a ∧ ¬p) :
      Concluded s o a ∨ ¬EvidenceCurrent s o ∧ Refused s o (attributionStart s o) a :=
    .inr ⟨fun hcurrent => h.2 (hp hcurrent), .of_handed hr h.1⟩
  refine (attributeAuthority_ends _).bind (fun _ => hrefused (.refl _) ?_) ?_
  · exact fun h => ⟨h.epoch, h.publisher, h.topology⟩
  rintro _ ⟨rfl, hepoch, hpublisher, htopology⟩
  refine (attributeRegion_ends _).bind (fun _ => hrefused (.refl _) (·.region)) ?_
  rintro ⟨r₁, _⟩ ⟨h₁, rfl, hregion⟩
  refine (attributeCapability_ends _).bind (fun _ h => ?_) ?_
  · exact hrefused (p := ¬Gated s o) h₁ (·.capability) ⟨h.1, not_not.2 h.2⟩
  rintro _ ⟨rfl, hcapability⟩
  refine (attributeResource_ends _ o.source).bind (fun _ => hrefused h₁ (·.source)) ?_
  rintro r₂ ⟨h₂, hsource⟩
  replace h₂ := h₁.trans h₂
  refine (attributeResource_ends _ o.target).bind (fun _ => hrefused h₂ (·.target)) ?_
  rintro r₃ ⟨h₃, htarget⟩
  replace h₃ := (h₂.trans h₃).trans
    ((AttributionResult.Handed.addTarget r₃ (k := .workload) (by decide) (o.workload.getD []) 0).trans
      (.addTarget _ (k := .process) (by decide) (o.process.getD []) 0))
  refine (attributeDomain_ends _).bind (fun _ => hrefused h₃ (·.domain)) ?_
  rintro r₄ ⟨h₄, hdomain⟩
  have hcurrent : EvidenceCurrent s o :=
    ⟨hepoch, hpublisher, htopology, hregion, hcapability, hsource, htarget, hdomain⟩
  have hconcluded : Concluded s o (concludeAttribution s o r₄) :=
    ⟨hcurrent, r₄, h₃.trans h₄, rfl⟩
  unfold concludeAttribution at hconcluded
  cases hambiguity : attributeAmbiguity s o (regionNamed s o) (attributeLocality s o r₄) with
  | ok r =>
    rw [hambiguity] at hconcluded
    exact hconcluded
  | error r =>
    rw [hambiguity] at hconcluded
    exact .inl hconcluded

/-- Evidence is current and its attribution concluded, or it is refused. -/
theorem attributeObservation_cases (s : State) (o : Observation) :
    Concluded s o (attributeObservation s o) ∨
      ¬EvidenceCurrent s o ∧
        Refused s o (attributionStart s o) (attributeObservation s o) := by
  have h := attributeSteps_ends s o
  unfold attributeObservation
  cases hsteps : attributeSteps s o with
  | ok r =>
    rw [hsteps] at h
    exact .inl h
  | error r =>
    rw [hsteps] at h
    exact h

/-! ## Outcomes -/

section

variable (s : State) (o : Observation) (r : AttributionResult)

theorem attributeOutcome_exact (regionBound : Bool) :
    (attributeOutcome o regionBound r).outcome = .attributedExact ↔
      regionBound = true ∧ EvidenceGranularity.Region.rank ≤ o.granularity.rank := by
  unfold attributeOutcome
  split
  next hbound => split <;> simp_all
  next hbound => split <;> simp [hbound]

theorem attributeOutcome_counts (regionBound : Bool) :
    countsAsCurrentEvidence (attributeOutcome o regionBound r).outcome = true := by
  unfold attributeOutcome
  split
  · split <;> rfl
  · split <;> rfl

theorem attributePrecision_outcome : (attributePrecision o r).outcome = r.outcome := by
  unfold attributePrecision
  split <;> simp

/-- Only where no region is bound can several be meant. -/
theorem attributeAmbiguity_ends (regionBound : Bool) : Ends (attributeAmbiguity s o regionBound r)
    (fun r' => r' = r) fun r' =>
      r'.outcome = .ambiguous ∧ r'.precision = r.precision ∧ regionBound = false := by
  unfold attributeAmbiguity
  split
  · rfl
  dsimp only
  split
  next h => exact ⟨by simp, by simp, by simpa using h.1⟩
  · rfl

theorem concludeAttribution_exact :
    (concludeAttribution s o r).outcome = .attributedExact ↔
      regionNamed s o = true ∧ EvidenceGranularity.Region.rank ≤ o.granularity.rank := by
  have h := attributeAmbiguity_ends s o (attributeLocality s o r) (regionNamed s o)
  unfold concludeAttribution
  cases hambiguity : attributeAmbiguity s o (regionNamed s o) (attributeLocality s o r) with
  | ok r' =>
    dsimp only
    rw [AttributionResult.addEvidence_outcome, AttributionResult.sortReasons_outcome,
      attributePrecision_outcome, attributeOutcome_exact]
  | error r' =>
    rw [hambiguity] at h
    obtain ⟨houtcome, _, hbound⟩ := h
    simp [houtcome, hbound]

theorem concludeAttribution_counts :
    countsAsCurrentEvidence (concludeAttribution s o r).outcome = true := by
  have h := attributeAmbiguity_ends s o (attributeLocality s o r) (regionNamed s o)
  unfold concludeAttribution
  cases hambiguity : attributeAmbiguity s o (regionNamed s o) (attributeLocality s o r) with
  | ok r' =>
    dsimp only
    rw [AttributionResult.addEvidence_outcome, AttributionResult.sortReasons_outcome,
      attributePrecision_outcome, attributeOutcome_counts]
  | error r' =>
    rw [hambiguity] at h
    dsimp only
    rw [h.1]
    rfl

end

/-- Evidence of a registered publisher counts exactly if it is current. -/
theorem counts_iff (h : o.sourcePublisher ∈ s.publishers) :
    countsAsCurrentEvidence (attributeObservation s o).outcome = true ↔ EvidenceCurrent s o := by
  rcases attributeObservation_cases s o with ⟨hcurrent, r, _, heq⟩ | ⟨hcurrent, hrefused⟩
  · rw [heq]
    exact iff_of_true (concludeAttribution_counts s o r) hcurrent
  · rw [hrefused.counts h]
    exact iff_of_false Bool.false_ne_true hcurrent

end CoherenceObservatory
