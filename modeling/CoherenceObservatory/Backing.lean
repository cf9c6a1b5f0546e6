import CoherenceObservatory.Analysis.Region
import CoherenceObservatory.Evidence
import CoherenceObservatory.Lib.Table

/-!
# What exact claims about regions rest on

The answer about a region is exact when some sample held for it resolves regions, and it is
bound to the generation the region is registered at. Samples are held per region identity,
so they are of that generation only if none was left over when the generation changed.
-/

namespace CoherenceObservatory

open Std ExtTreeMap

/-- The samples held for a region. -/
def State.samples (s : State) (region : MemoryRegionId) : List OwnershipSample :=
  (s.regionEvidence[region]?.getD {}).samples

/-- A sample that resolves regions. -/
def OwnershipSample.resolves (sample : OwnershipSample) : Bool :=
  sample.granularity.rank ≥ EvidenceGranularity.Region.rank

theorem hasRegionGranularity_iff (s : State) (region : MemoryRegionId) :
    hasRegionGranularity s region = true ↔ ∃ sample ∈ s.samples region, sample.resolves = true := by
  unfold hasRegionGranularity State.samples
  cases s.regionEvidence[region]? with
  | none => simp
  | some evidence => simp [OwnershipSample.resolves]

/-! ## Where samples come from -/

theorem getElem?_evictRegion {m : ExtTreeMap Text RegionEvidence} {order : List Text} {k : Text}
    {evidence : RegionEvidence} (h : (evictRegion m order).2.1[k]? = some evidence) :
    m[k]? = some evidence := by
  induction order with
  | nil => exact h
  | cons victim order ih =>
    unfold evictRegion at h
    split at h
    next =>
      rw [getElem?_erase] at h
      split at h
      next => exact nomatch h
      next => exact h
    next => exact ih h

variable {s : State} {key region : Text} {sample : OwnershipSample} {o : Observation} {a : Action}
  {record : RegionRecord}

/-- Tracking a region adds no samples. -/
theorem mem_samples_trackRegion (h : sample ∈ (trackRegion s key).samples region) :
    sample ∈ s.samples region := by
  unfold trackRegion at h
  split at h
  next => exact h
  next =>
    dsimp only [State.samples] at h
    rw [getElem?_insert] at h
    split at h
    next => exact nomatch h
    next =>
      split at h
      next =>
        unfold State.samples
        cases hkept : (evictRegion s.regionEvidence s.regionEvidenceOrder).2.1[region]? with
        | none => rw [hkept] at h; exact nomatch h
        | some evidence =>
          rw [hkept] at h
          rw [getElem?_evictRegion hkept]
          exact h
      next => exact h

/-- A sample is new or was held before. -/
theorem mem_samples_sampleRegion (h : sample ∈ (sampleRegion s key o).samples region) :
    sample ∈ s.samples region ∨ key = region ∧ sample = sampleOf o := by
  have hold {sample : OwnershipSample} {region : Text} :
      sample ∈ ((trackRegion s key).regionEvidence[region]?.getD {}).samples →
        sample ∈ s.samples region := mem_samples_trackRegion
  unfold sampleRegion State.samples at h
  dsimp only at h
  rw [getElem?_insert] at h
  split at h
  next heq =>
    obtain rfl := LawfulEqOrd.eq_of_compare heq
    rw [Option.getD_some, List.mem_append, List.mem_singleton] at h
    refine h.imp (fun h => hold ?_) fun h => ⟨rfl, h⟩
    split at h
    next => exact List.mem_of_mem_drop h
    next => exact h
  next => exact .inl (hold h)

/-- Steps that leave the evidence alone leave the samples alone. -/
theorem samples_congr {s' : State} (h : s'.evidence = s.evidence) :
    s'.samples region = s.samples region :=
  congrArg (fun e : Evidence => (e.regionEvidence[region]?.getD {}).samples) h

theorem accumulateAll_samples (s : State) (o : Observation) :
    (accumulateAll s o).regionEvidence = s.regionEvidence := by
  unfold accumulateAll
  induction AggregateDimension.all generalizing s with
  | nil => rfl
  | cons d ds ih => exact ih _

/-- Samples come from counted observations. -/
theorem mem_samples_applyEvidence {r : AttributionResult} {record : StaleEvidenceRecord}
    (h : sample ∈ (applyEvidence s o r record).samples region) :
    sample ∈ s.samples region ∨
      countsAsCurrentEvidence r.outcome = true ∧ o.region = some region ∧ sample = sampleOf o := by
  have hjournal (s : State) (entry : JournalEntry) :
      (appendJournal s entry).samples region = s.samples region := by
    unfold appendJournal
    split <;> rfl
  have hbefore : (if countsAsCurrentEvidence r.outcome then
      accumulateAll (if countsAsCurrentEvidence r.outcome then s else recordStale s record) o
      else if countsAsCurrentEvidence r.outcome then s else recordStale s record).samples region =
        s.samples region := by
    split
    · rw [State.samples, accumulateAll_samples]
      rfl
    · rfl
  unfold applyEvidence applyObservation at h
  dsimp only at h
  split at h
  next =>
    rw [hjournal, hbefore] at h
    exact .inl h
  next key hkey =>
    split at h
    next hcounted =>
      rcases mem_samples_sampleRegion h with h | ⟨rfl, rfl⟩
      · rw [hjournal, hbefore] at h
        exact .inl h
      · exact .inr ⟨(Bool.and_eq_true_iff.1 hcounted).1, hkey, rfl⟩
    next =>
      rw [hjournal, hbefore] at h
      exact .inl h

/-- A sample held after a step was held before, or is that of the observation the step
counted. That names the generation its region is registered at if the policy asks for it. -/
theorem mem_samples_act (ha : a.loads = false) (h : sample ∈ (act s a).2.samples region) :
    sample ∈ s.samples region ∨
      ∃ o, counted s a = some o ∧ a.Yields o ∧ o.region = some region ∧ sample = sampleOf o ∧
        (s.options.attributionPolicy.requireCurrentRegionGeneration = true →
          ∀ record, s.regions[region]? = some record →
            o.regionGeneration = some record.generation) := by
  cases act_evidence s a with
  | quiet hevidence _ =>
    rw [samples_congr hevidence] at h
    exact .inl h
  | apply s₁ o record honly hevidence hregistered hyields hstate happlied =>
    rw [hstate] at h
    rcases mem_samples_applyEvidence h with h | ⟨hcounts, hregion, hsample⟩
    · rw [samples_congr hevidence] at h
      exact .inl h
    · refine .inr ⟨o, ?_, hyields, hregion, hsample, fun hpolicy record hrecord => ?_⟩
      · rw [counted, happlied, Option.bind_some, if_pos hcounts]
      · rw [← honly.regions_eq] at hrecord
        rw [← honly.options_eq] at hpolicy
        have hcurrent := (counts_iff hregistered).1 hcounts
        exact (hcurrent.region region record hregion hrecord).2 hpolicy
  | load _ _ _ _ _ heq => rw [heq] at ha; cases ha

/-! ## Generations of regions -/

theorem checkRegion_generation {r : RegionRecord} (h : checkRegion s r = .ok ()) :
    r.generation ≠ 0 := by
  obtain ⟨_, _, h⟩ := bind_eq_ok.1 h
  obtain ⟨_, hgeneration, _⟩ := bind_eq_ok.1 h
  exact failIf_eq_ok.1 hgeneration

/-- A region registered after a step was registered at that generation before, or is by the
step. -/
theorem getElem?_regions_act (ha : a.loads = false) {region : MemoryRegionId}
    (h : (act s a).2.regions[region]? = some record) :
    (∃ old, s.regions[region]? = some old ∧ old.generation = record.generation) ∨
      ∃ r now, a = .registerRegion r now ∧ r.id = region ∧ r.generation = record.generation ∧
        r.generation ≠ 0 := by
  have hsame (heq : (act s a).2.regions = s.regions) :
      ∃ old, s.regions[region]? = some old ∧ old.generation = record.generation := by
    rw [heq] at h
    exact ⟨record, h, rfl⟩
  have hcommit {next : State} {check : Status} (heq : next.regions = s.regions) :
      (commit s check next).2.regions = s.regions :=
    commit_induction (P := fun s' => s'.regions = s.regions) rfl fun _ => heq
  by_cases hdescribes : a.describes = false
  · exact .inl (hsame (act_of_not_describes State.regions hdescribes))
  cases a with
  | registerNode | registerProcessor | registerAccelerator | registerMemoryDomain
  | registerCoherenceDomain | setTopologyLink | setCapability | setCostModel =>
    exact .inl (hsame (hcommit rfl))
  | registerRegion r now =>
    rw [act] at h
    change (commit s (checkRegion s r) _).2.regions[region]? = _ at h
    rcases commit_cases s (checkRegion s r) _ with ⟨e, _, heq⟩ | ⟨hcheck, heq⟩
    · rw [heq] at h
      exact .inl ⟨record, h, rfl⟩
    · rw [heq] at h
      rcases getElem?_insert_cases h with ⟨hid, hrecord⟩ | hold
      · exact .inr ⟨r, now, rfl, hid, by rw [← hrecord], checkRegion_generation hcheck⟩
      · exact .inl ⟨record, hold, rfl⟩
  | retireRegion retired generation reason now =>
    left
    rw [act, retireRegion] at h
    split at h
    · exact ⟨record, h, rfl⟩
    next old hretire =>
      rcases getElem?_insert_cases h with ⟨rfl, rfl⟩ | hold
      · exact ⟨old, checkRetire_eq_ok hretire, rfl⟩
      · exact ⟨record, hold, rfl⟩
  | bumpTopologyGeneration reason now =>
    refine .inl (hsame ?_)
    simp only [act, Prod.map, id, bumpTopologyGeneration]
    split <;> rfl
  | load path file options clock => cases ha
  | _ => simp [Action.describes] at hdescribes

/-! ## Exact answers -/

/-- Evidence of `region` at `generation` does not make the first exact claim about another
generation. -/
def agreesWithRegion (s : State) (region : Option MemoryRegionId)
    (generation : Option MemoryRegionGeneration) (granularity : EvidenceGranularity) : Bool :=
  s.options.attributionPolicy.requireCurrentRegionGeneration ||
    decide (granularity.rank < EvidenceGranularity.Region.rank) ||
    region.all fun k => hasRegionGranularity s k ||
      s.regions[k]?.all fun record => generation == some record.generation

/-- A region takes a new generation only while no evidence that resolves regions is held for
it, or some of that generation is. Where the policy lets other generations count,
evidence names the registered one. -/
def keepsBacking (s : State) : Action → Bool
  | .registerRegion r _ =>
    !hasRegionGranularity s r.id ||
      s.regions[r.id]?.any (fun record => record.generation == r.generation) ||
      (s.samples r.id).any fun sample => sample.resolves && sample.regionGeneration == r.generation
  | .ingest o _ => agreesWithRegion s o.region o.regionGeneration o.granularity
  | .ingestCounter c _ => agreesWithRegion s c.region c.regionGeneration c.granularity
  | .load .. => false
  | _ => true

/-- A step counts evidence of a region at a generation. -/
def countsRegion (k : MemoryRegionId × MemoryRegionGeneration) (s : State) (a : Action) : Prop :=
  ∃ o, counted s a = some o ∧ a.Yields o ∧ o.region = some k.1 ∧ o.regionGeneration = some k.2

/-- What has been counted backs the samples that resolve regions, and the generations of the
regions they are held for. -/
structure Backed (W : MemoryRegionId × MemoryRegionGeneration → Prop) (s : State) : Prop where
  generation_ne : ∀ {k : MemoryRegionId} {record : RegionRecord}, s.regions[k]? = some record →
    record.generation ≠ 0
  sampled : ∀ {k : MemoryRegionId} {sample : OwnershipSample}, sample ∈ s.samples k →
    sample.resolves = true → sample.regionGeneration ≠ 0 → W (k, sample.regionGeneration)
  registered : ∀ {k : MemoryRegionId} {record : RegionRecord}, s.regions[k]? = some record →
    hasRegionGranularity s k = true → W (k, record.generation)

theorem loads_of_keepsBacking (h : keepsBacking s a = true) : a.loads = false := by
  cases a with
  | load path file options clock => exact nomatch h
  | _ => rfl

theorem agreesWithRegion_of_yields (h : keepsBacking s a = true) (hyields : a.Yields o) :
    agreesWithRegion s o.region o.regionGeneration o.granularity = true := by
  cases a with
  | ingest o' now =>
    obtain ⟨_, _, rfl⟩ := hyields
    exact h
  | ingestCounter c now =>
    obtain ⟨_, _, rfl⟩ := hyields
    exact h
  | _ => exact hyields.elim

/-- New evidence that resolves a registered region is of its generation, or is not the first
to resolve it. -/
theorem generation_of_agrees {k : MemoryRegionId}
    (h : agreesWithRegion s o.region o.regionGeneration o.granularity = true)
    (hregion : o.region = some k) (hresolves : (sampleOf o).resolves = true)
    (hpolicy : s.options.attributionPolicy.requireCurrentRegionGeneration = true →
      ∀ record, s.regions[k]? = some record → o.regionGeneration = some record.generation)
    (hrecord : s.regions[k]? = some record) :
    hasRegionGranularity s k = true ∨ o.regionGeneration = some record.generation := by
  rw [agreesWithRegion, Bool.or_eq_true_iff, Bool.or_eq_true_iff] at h
  rcases h with (h | h) | h
  · exact .inr (hpolicy h record hrecord)
  · have hrank : EvidenceGranularity.Region.rank ≤ o.granularity.rank := of_decide_eq_true hresolves
    exact absurd hrank (Nat.not_le.2 (of_decide_eq_true h))
  · simpa [hregion, hrecord] using h

/-- The step lemma. -/
theorem Backed.step {W : MemoryRegionId × MemoryRegionGeneration → Prop} (hs : Backed W s)
    (h : keepsBacking s a = true) : Backed (fun k => W k ∨ countsRegion k s a) (act s a).2 where
  generation_ne hk := by
    rcases getElem?_regions_act (loads_of_keepsBacking h) hk with ⟨old, hold, hg⟩ | ⟨r, _, _, _, hg, hne⟩
    · rw [← hg]
      exact hs.generation_ne hold
    · rw [← hg]
      exact hne
  sampled {k sample} hsample hresolves hne := by
    rcases mem_samples_act (loads_of_keepsBacking h) hsample with hold | ⟨o, ho, hyields, hregion, rfl, _⟩
    · exact .inl (hs.sampled hold hresolves hne)
    · refine .inr ⟨o, ho, hyields, hregion, ?_⟩
      change o.regionGeneration.getD 0 ≠ 0 at hne
      change o.regionGeneration = some (o.regionGeneration.getD 0)
      cases hg : o.regionGeneration with
      | none => rw [hg] at hne; exact absurd rfl hne
      | some g => rfl
  registered {k record} hk hexact := by
    obtain ⟨sample, hsample, hresolves⟩ := (hasRegionGranularity_iff _ _).1 hexact
    have hloads := loads_of_keepsBacking h
    rcases getElem?_regions_act hloads hk with ⟨old, hold, hg⟩ | ⟨r, now, rfl, rfl, hg, hne⟩
    · rw [← hg]
      rcases mem_samples_act hloads hsample with
        hheld | ⟨o, ho, hyields, hregion, rfl, hpolicy⟩
      · exact .inl (hs.registered hold ((hasRegionGranularity_iff _ _).2 ⟨sample, hheld, hresolves⟩))
      · rcases generation_of_agrees (agreesWithRegion_of_yields h hyields) hregion hresolves hpolicy
          hold with hheld | hnames
        · exact .inl (hs.registered hold hheld)
        · exact .inr ⟨o, ho, hyields, hregion, hnames⟩
    · -- registering takes no evidence
      rw [← hg]
      rcases mem_samples_act hloads hsample with hheld | ⟨o, _, hyields, _⟩
      · left
        have hresolved := (hasRegionGranularity_iff _ _).2 ⟨sample, hheld, hresolves⟩
        rw [keepsBacking, hresolved] at h
        simp only [Bool.not_true, Bool.false_or, Bool.or_eq_true, Option.any_eq_true,
          List.any_eq_true, Bool.and_eq_true, beq_iff_eq] at h
        -- the new generation is the registered one or one that was sampled
        rcases h with ⟨old, hold, heq⟩ | ⟨sample, hsample, hresolves, heq⟩
        · rw [← heq]
          exact hs.registered hold hresolved
        · rw [← heq] at hne ⊢
          exact hs.sampled hsample hresolves hne
      · exact hyields.elim

theorem addTarget_bindings (r : AttributionResult) (kind : AttributionTargetKind) (value : Text)
    (generation : UInt64) : (r.addTarget kind value generation).bindings = r.bindings := by
  unfold AttributionResult.addTarget
  split_ifs <;> rfl

theorem addReason_bindings (r : AttributionResult) (reason : String) :
    (r.addReason reason).bindings = r.bindings := by
  unfold AttributionResult.addReason
  split_ifs <;> rfl

/-- An exact answer is about a registered region that some sample resolves. -/
theorem attributeRegionState_exact {region : MemoryRegionId}
    (h : (attributeRegionState s region).outcome = .attributedExact) :
    ∃ record, s.regions[region]? = some record ∧ hasRegionGranularity s region = true ∧
      (attributeRegionState s region).bindings.regionGeneration = record.generation := by
  unfold attributeRegionState at h ⊢
  dsimp only at h ⊢
  split at h
  next => exact nomatch h
  next record hrecord =>
  split at h
  next => exact nomatch h
  next hretired =>
  split at h
  next => exact nomatch h
  next bucket hbucket =>
  split at h
  next => exact nomatch h
  next hobservations =>
    refine ⟨record, hrecord, ?_, ?_⟩
    · by_contra hexact
      rw [Bool.not_eq_true] at hexact
      rw [hexact] at h
      exact nomatch h
    · simp only [hrecord, hretired, hobservations, if_false, Bool.false_eq_true]
      simp only [AttributionResult.sortReasons, addReason_bindings, regionAttributionStart,
        addTarget_bindings]

theorem backed_initial (options : ObservatoryOptions) (now : Nanos) :
    Backed (fun _ => False) (State.initial options now) where
  generation_ne h := nomatch h
  sampled h := nomatch h
  registered h := nomatch h

/-- In a run that keeps its evidence apart by generation, an exact answer bound to a
    generation rests on evidence of that generation, counted in the run. -/
theorem exactRegion_backed (options : ObservatoryOptions) (now : Nanos) (l : List Action)
    (hrun : Run.Along act (fun s a => keepsBacking s a = true) (State.initial options now) l)
    (region : MemoryRegionId) (r : RegionAttribution)
    (hanswer : attributeRegionQuery (Run.final act (State.initial options now) l) region = .ok r)
    (hexact : r.outcome = .attributedExact) :
    Run.Occurs act
      (fun s a => ∃ o, counted s a = some o ∧ a.Yields o ∧ o.region = some region ∧
        o.regionGeneration = some r.bindings.regionGeneration)
      (State.initial options now) l := by
  obtain ⟨_, _, hr⟩ := bind_eq_ok.1 hanswer
  obtain rfl := Except.ok.inj hr
  obtain ⟨record, hrecord, hresolved, hbound⟩ := attributeRegionState_exact hexact
  have hbacked := Run.occurs_invariant (P := countsRegion) (I := Backed)
    (fun _ _ _ hs h => hs.step h) (backed_initial options now) hrun
  rw [hbound]
  exact hbacked.registered hrecord hresolved

/-- A publisher, and a region at its first generation. -/
def backingSetup : List Action :=
  [.registerPublisher { id := ascii "p", boot := 1 } fun _ => 0,
    .registerRegion { id := ascii "r", generation := 1 } 0]

/-- A read of the region at its first generation. -/
def firstRead : Action :=
  .ingest
    { eventId := 1, type := .RemoteRead, sourcePublisher := ascii "p", publisherBoot := 1,
      coordinatorEpoch := 1, topologyGeneration := 1, sequence := 1, timestampNs := 1,
      region := some (ascii "r"), regionGeneration := some 1, granularity := .Region } 0

/-- The read of the first generation backs the exact answer about it. -/
theorem exactRegion_backed_firstRead :
    ∃ r, attributeRegionQuery (Run.final act (State.initial {} 0) (backingSetup ++ [firstRead]))
        (ascii "r") = .ok r ∧ r.outcome = .attributedExact ∧
      Run.Occurs act
        (fun s a => ∃ o, counted s a = some o ∧ a.Yields o ∧ o.region = some (ascii "r") ∧
          o.regionGeneration = some r.bindings.regionGeneration)
        (State.initial {} 0) (backingSetup ++ [firstRead]) := by
  refine ⟨_, rfl, by decide +kernel, ?_⟩
  exact exactRegion_backed {} 0 _ (by decide +kernel) (ascii "r") _ rfl (by decide +kernel)

/-- With the region registered anew, the same read makes an exact answer about the second
    generation, of which there is no evidence. -/
theorem secondGeneration_unbacked :
    ∃ r, attributeRegionQuery
        (Run.final act (State.initial {} 0) (backingSetup ++
          [firstRead, .registerRegion { id := ascii "r", generation := 2 } 0]))
        (ascii "r") = .ok r ∧ r.outcome = .attributedExact ∧ r.bindings.regionGeneration = 2 ∧
      ¬Run.Occurs act
        (fun s a => ∃ o, counted s a = some o ∧ a.Yields o ∧ o.region = some (ascii "r") ∧
          o.regionGeneration = some r.bindings.regionGeneration)
        (State.initial {} 0)
        (backingSetup ++ [firstRead, .registerRegion { id := ascii "r", generation := 2 } 0]) := by
  refine ⟨_, rfl, by decide +kernel, by decide +kernel, ?_⟩
  rintro (⟨_, _, hyields, _⟩ | ⟨_, _, hyields, _⟩ | ⟨o, _, ⟨_, _, rfl⟩, _, hg⟩ | ⟨_, _, hyields, _⟩ | h)
  · exact hyields.elim
  · exact hyields.elim
  · exact nomatch hg
  · exact hyields.elim
  · exact h.elim

end CoherenceObservatory
