import CoherenceObservatory.Admission
import CoherenceObservatory.Attribution.Sections
import CoherenceObservatory.Conservation
import CoherenceObservatory.Locality

/-!
# Conflicting localities

An observation may declare a locality that differs from the one its topology link gives.
Attribution then records both as candidates and establishes neither. Two later places do not
know of the conflict: the search for candidate regions replaces the candidates, and the
aggregates read the locality from the observation itself.
-/

namespace CoherenceObservatory

open Std Limits ExtTreeMap

/-! ## Conflicts -/

/-- The locality the topology gives for an observation. -/
def topologyLocality (s : State) (o : Observation) : Locality :=
  match o.source, o.target with
  | some a, some b => s.topology.localityBetween a b
  | _, _ => .Unknown

/-- The declared locality and the one the topology gives are both known, and differ. -/
def Conflict (s : State) (o : Observation) : Prop :=
  o.localityDeclared = true ∧ o.locality ≠ .Unknown ∧ topologyLocality s o ≠ .Unknown ∧
    o.locality ≠ topologyLocality s o

/-- The two candidates of a conflict. -/
def conflictCandidates (s : State) (o : Observation) : List Text :=
  [ascii "declared:" ++ o.locality.toText, ascii "topology:" ++ (topologyLocality s o).toText]

/-- A step to `s'` entered the contribution of an observation in a bucket. -/
def Takes (s s' : State) (o : Observation) (key : AggregateKey) : Prop :=
  s'.aggregates.buckets[key]? =
    some ((s.aggregates.buckets[key]?.getD {}).add (contributionOf o)).1

/-- A conflict that the step to `s'` left undecided: both candidates are listed, no locality is
established, and the observation does not count under the declared class. -/
structure Undecided (s s' : State) (o : Observation) : Prop where
  candidates : ∀ text ∈ conflictCandidates s o, text ∈ (attributeObservation s o).candidates
  locality : (attributeObservation s o).locality = .Unknown
  established : (attributeObservation s o).localityEstablished = false
  targets : ∀ t ∈ (attributeObservation s o).targets, t.kind ≠ .localityClass
  uncounted : ¬Takes s s' o ⟨.locality, o.locality.toText⟩

/-- The regions an observation could mean, if they are several. -/
def rivalRegions (s : State) (o : Observation) : List Text :=
  if regionNamed s o ∨ ¬o.granularity.rank ≥ EvidenceGranularity.Region.rank then []
  else
    match o.workload with
    | none => []
    | some workload =>
      if (regionsForWorkload s workload).length > 1 then regionsForWorkload s workload else []

/-- The dimensions that are gone through before the locality. -/
def beforeLocality : List AggregateDimension := [.eventType, .device, .domain, .region, .workload]

/-- No bucket for the declared class is there, and none can be added any more when its turn
comes. -/
def NoRoom (s : State) (o : Observation) : Prop :=
  bucketKey s o .locality ∉ s.aggregates.buckets ∧
    maxAggregateKeys ≤
      s.aggregates.buckets.size + (missingIn s o beforeLocality).length

/-! ## The locality section and what follows -/

section

variable {s : State} {o : Observation} {r : AttributionResult}

/-- The result `a` keeps what `r` says of the locality, with its own candidates. -/
structure Keeps (r a : AttributionResult) : Prop where
  locality : a.locality = r.locality
  established : a.localityEstablished = r.localityEstablished
  targets : ∀ t, t.kind = .localityClass → (t ∈ a.targets ↔ t ∈ r.targets)

theorem Keeps.trans {a a' : AttributionResult} (h : Keeps r a) (h' : Keeps a a') : Keeps r a' :=
  ⟨h'.locality.trans h.locality, h'.established.trans h.established,
    fun t ht => (h'.targets t ht).trans (h.targets t ht)⟩

theorem Keeps.addReason (r : AttributionResult) (reason : String) : Keeps r (r.addReason reason) := by
  unfold AttributionResult.addReason
  split <;> exact ⟨rfl, rfl, fun _ _ => .rfl⟩

theorem Keeps.addEvidence (r : AttributionResult) : Keeps r (r.addEvidence o) := by
  unfold AttributionResult.addEvidence
  split <;> exact ⟨rfl, rfl, fun _ _ => .rfl⟩

@[simp] theorem AttributionResult.addReason_candidates (r : AttributionResult) (reason : String) :
    (r.addReason reason).candidates = r.candidates := by
  unfold addReason
  split <;> rfl

@[simp] theorem AttributionResult.addEvidence_candidates (r : AttributionResult) :
    (r.addEvidence o).candidates = r.candidates := by
  unfold addEvidence
  split <;> rfl

/-- Where several regions could be meant they replace the candidates. -/
theorem attributeAmbiguity_located :
    Ends (attributeAmbiguity s o (regionNamed s o) r) (fun r' => r' = r ∧ rivalRegions s o = [])
      fun r' => Keeps r r' ∧ rivalRegions s o ≠ [] ∧ r'.candidates = rivalRegions s o := by
  cases hworkload : o.workload with
  | none =>
    simp only [attributeAmbiguity, rivalRegions, hworkload]
    exact ⟨rfl, ite_self _⟩
  | some workload =>
    simp only [attributeAmbiguity, rivalRegions, hworkload]
    split
    next h =>
      rw [if_neg (by tauto), if_pos h.2.2]
      refine ⟨?_, List.ne_nil_of_length_pos (Nat.lt_of_succ_lt h.2.2), ?_⟩
      · refine (Keeps.addReason r "ambiguous.multiple_regions").trans (.trans ?_ (.addEvidence _))
        exact ⟨rfl, rfl, fun _ _ => .rfl⟩
      · rw [AttributionResult.addEvidence_candidates]
        rfl
    next h =>
      refine ⟨rfl, ?_⟩
      split_ifs <;> tauto

theorem attributeOutcome_keeps (regionBound : Bool) :
    Keeps r (attributeOutcome o regionBound r) ∧
      (attributeOutcome o regionBound r).candidates = r.candidates := by
  have hreason (reason : String) := Keeps.addReason r reason
  unfold attributeOutcome
  split
  · split
    · exact ⟨(hreason _).trans ⟨rfl, rfl, fun _ _ => .rfl⟩, r.addReason_candidates _⟩
    · refine ⟨⟨(hreason _).locality, (hreason _).established, fun t ht => ?_⟩,
        r.addReason_candidates _⟩
      simp [ht]
  split
  · split
    · exact ⟨(hreason _).trans ⟨rfl, rfl, fun _ _ => .rfl⟩, r.addReason_candidates _⟩
    · exact ⟨⟨rfl, rfl, fun _ _ => .rfl⟩, rfl⟩
  · exact ⟨(hreason _).trans ⟨rfl, rfl, fun _ _ => .rfl⟩, r.addReason_candidates _⟩

theorem attributePrecision_keeps :
    Keeps r (attributePrecision o r) ∧ (attributePrecision o r).candidates = r.candidates := by
  unfold attributePrecision
  split_ifs
  · exact ⟨(Keeps.addReason r _).trans ⟨rfl, rfl, fun _ _ => .rfl⟩, by simp⟩
  · exact ⟨⟨rfl, rfl, fun _ _ => .rfl⟩, rfl⟩

/-- What is concluded of the locality is what the locality section found, and the candidates are
those found there if no regions replace them. -/
theorem concludeAttribution_located (s : State) (o : Observation) (r : AttributionResult) :
    Keeps (attributeLocality s o r) (concludeAttribution s o r) ∧
      (concludeAttribution s o r).candidates =
        if rivalRegions s o = [] then (attributeLocality s o r).candidates
        else rivalRegions s o := by
  have h := attributeAmbiguity_located (s := s) (o := o) (r := attributeLocality s o r)
  unfold concludeAttribution
  cases hambiguity : attributeAmbiguity s o (regionNamed s o) (attributeLocality s o r) with
  | ok r' =>
    rw [hambiguity] at h
    obtain ⟨rfl, hrivals⟩ := h
    have houtcome := attributeOutcome_keeps (r := attributeLocality s o r) (o := o)
      (regionNamed s o)
    have hprecision := attributePrecision_keeps
      (r := attributeOutcome o (regionNamed s o) (attributeLocality s o r)) (o := o)
    constructor
    · refine (houtcome.1.trans hprecision.1).trans (.trans ?_ (.addEvidence _))
      exact ⟨rfl, rfl, fun _ _ => .rfl⟩
    · rw [if_pos hrivals, AttributionResult.addEvidence_candidates]
      exact hprecision.2.trans houtcome.2
  | error r' =>
    rw [hambiguity] at h
    obtain ⟨hkeeps, hrivals, hcandidates⟩ := h
    exact ⟨hkeeps, by rw [if_neg hrivals, hcandidates]⟩

/-- A conflict the policy lets the section see is recorded, and nothing is established. -/
theorem attributeLocality_of_conflict (h : Conflict s o) (hr : r.Unlocated)
    (hpolicy : s.options.attributionPolicy.deriveLocalityFromTopology = true) :
    (attributeLocality s o r).candidates = conflictCandidates s o ∧
      (attributeLocality s o r).locality = .Unknown ∧
      (attributeLocality s o r).localityEstablished = false ∧
      ∀ t ∈ (attributeLocality s o r).targets, t.kind ≠ .localityClass := by
  obtain ⟨hdeclared, hknown, hlink, hne⟩ := h
  unfold topologyLocality at hlink hne
  unfold attributeLocality conflictCandidates topologyLocality
  split at hlink
  next a b hsource htarget =>
    simp only [hsource, htarget, hdeclared, hpolicy, if_true] at hne ⊢
    rw [if_pos hlink, if_pos ⟨hknown, hlink, hne⟩]
    have hedge := (hr.addTarget (k := .topologyEdge) (by decide)
      (((some a).map ResourceRef.id).getD [] ++ ascii "->" ++
        ((some b).map ResourceRef.id).getD []) 0).addReason "bound.topology_edge"
    have hmismatch := hedge.addReason "ambiguous.locality_mismatch"
    refine ⟨?_, hmismatch.locality, hmismatch.established, hmismatch.targets⟩
    rw [hedge.candidates]
    rfl
  next => exact absurd rfl hlink

/-- Without the policy the declared locality is taken for established. -/
theorem attributeLocality_of_ignored (h : Conflict s o)
    (hpolicy : s.options.attributionPolicy.deriveLocalityFromTopology = false) :
    (attributeLocality s o r).localityEstablished = true := by
  obtain ⟨hdeclared, hknown, hlink, hne⟩ := h
  unfold topologyLocality at hlink
  unfold attributeLocality
  split at hlink
  next a b hsource htarget =>
    simp only [hsource, htarget, hdeclared, hpolicy, if_true, Bool.false_eq_true, if_false, ne_eq,
      hknown, not_true, not_false_iff, false_and, and_false]
    rw [(Keeps.addReason _ _).established, AttributionResult.addTarget]
    split <;> rfl
  next => exact absurd rfl hlink

end

/-! ## The aggregates -/

variable {dimensions before after : List AggregateDimension} {d : AggregateDimension}

/-- Buckets of dimensions that are not gone through are left alone. -/
theorem foldl_accumulateIn_getElem? (o : Observation) {key : AggregateKey}
    (h : key.dimension ∉ dimensions) (s : State) :
    (dimensions.foldl (accumulateIn o) s).aggregates.buckets[key]? =
      s.aggregates.buckets[key]? := by
  induction dimensions generalizing s with
  | nil => rfl
  | cons d dimensions ih =>
    obtain ⟨hne, h⟩ := not_or.1 (mt List.mem_cons.2 h)
    rw [List.foldl_cons, ih h, accumulateIn]
    dsimp only
    by_cases hroom : bucketKey s o d ∉ s.aggregates.buckets ∧
        s.aggregates.buckets.size ≥ maxAggregateKeys
    · rw [AggregateStore.accumulate, if_pos hroom]
    · rw [(accumulate_of_room hroom (contributionOf o)).2, getElem?_insert, if_neg]
      rw [LawfulEqOrd.compare_eq_iff_eq]
      exact fun heq => hne (congrArg AggregateKey.dimension heq.symm)

/-- The store is full once as many dimensions are gone through as it has places left. -/
theorem foldl_accumulateIn_full (o : Observation) (hnodup : dimensions.Nodup) (s : State) :
    maxAggregateKeys ≤ (dimensions.foldl (accumulateIn o) s).aggregates.buckets.size ↔
      maxAggregateKeys ≤
        s.aggregates.buckets.size + (missingIn s o dimensions).length := by
  induction dimensions generalizing s with
  | nil => rfl
  | cons d dimensions ih =>
    obtain ⟨hd, hnodup⟩ := List.nodup_cons.1 hnodup
    have hmissing : missingIn (accumulateIn o s d) o dimensions = missingIn s o dimensions := by
      refine List.filter_congr fun d' hd' => ?_
      have hne : d' ∉ [d] := fun h => hd (List.mem_singleton.1 h ▸ hd')
      have hsame := (foldl_accumulateIn_of_not_mem o hne s).1
      exact decide_eq_decide.2 (not_congr hsame)
    rw [List.foldl_cons, ih hnodup, hmissing]
    have hcons : (missingIn s o (d :: dimensions)).length =
        (missingIn s o dimensions).length +
          if bucketKey s o d ∉ s.aggregates.buckets then 1 else 0 := by
      rw [missingIn, List.filter_cons]
      split_ifs <;> simp_all [missingIn]
    rw [hcons, accumulateIn]
    dsimp only
    by_cases hroom : bucketKey s o d ∉ s.aggregates.buckets ∧
        s.aggregates.buckets.size ≥ maxAggregateKeys
    · rw [AggregateStore.accumulate, if_pos hroom]
      have := hroom.2
      dsimp only
      omega
    · rw [(accumulate_of_room hroom (contributionOf o)).2, size_insert]
      by_cases hkey : bucketKey s o d ∈ s.aggregates.buckets
      · rw [if_pos (contains_iff_mem.2 hkey), if_neg (not_not.2 hkey), Nat.add_zero]
      · rw [if_neg (mt contains_iff_mem.1 hkey), if_pos hkey]
        omega

/-- The bucket of a dimension takes the observation if it is there, or if there is room for it
after the dimensions before it. -/
theorem accumulateAll_takes_iff (s : State) (o : Observation)
    (hall : AggregateDimension.all = before ++ d :: after) :
    Takes s (accumulateAll s o) o (bucketKey s o d) ↔
      ¬(bucketKey s o d ∉ s.aggregates.buckets ∧ maxAggregateKeys ≤
        s.aggregates.buckets.size + (missingIn s o before).length) := by
  have hnodup := AggregateDimension.nodup_all
  rw [hall, List.nodup_append] at hnodup
  obtain ⟨hbefore, hafter, hdisjoint⟩ := hnodup
  have hd : d ∉ before := fun h => hdisjoint d h d (List.mem_cons_self) rfl
  have hkey (s' : State) (h : s'.options = s.options) : bucketKey s' o d = bucketKey s o d := by
    rw [bucketKey, h]
    rfl
  set t := before.foldl (accumulateIn o) s with ht
  have hsame : t.aggregates.buckets[bucketKey s o d]? = s.aggregates.buckets[bucketKey s o d]? :=
    foldl_accumulateIn_getElem? o hd s
  have hmem : bucketKey s o d ∈ t.aggregates.buckets ↔ bucketKey s o d ∈ s.aggregates.buckets := by
    rw [mem_iff_isSome_getElem?, hsame, ← mem_iff_isSome_getElem?]
  rw [Takes, accumulateAll_eq, hall, List.foldl_append, List.foldl_cons, ← ht,
    foldl_accumulateIn_getElem? o (List.nodup_cons.1 hafter).1, accumulateIn,
    hkey t (foldl_accumulateIn_options o before s), ← hsame, ← foldl_accumulateIn_full o hbefore s,
    ← ht, ← hmem]
  dsimp only
  by_cases hroom : bucketKey s o d ∉ t.aggregates.buckets ∧
      t.aggregates.buckets.size ≥ maxAggregateKeys
  · rw [AggregateStore.accumulate, if_pos hroom]
    refine iff_of_false ?_ (not_not.2 hroom)
    rw [getElem?_eq_none hroom.1]
    rintro ⟨⟩
  · rw [(accumulate_of_room hroom (contributionOf o)).2, getElem?_insert_self]
    exact iff_of_true rfl hroom

/-! ## Ingestion -/

/-- When the bucket of a dimension takes an observation that was accepted and counted. -/
theorem ingest_takes_iff {s : State} {o : Observation} {now : Nanos}
    (haccepted : (ingestLocked s o now).1.disposition.isAccepted = true)
    (hcounted : (ingestLocked s o now).1.counted = true)
    (hall : AggregateDimension.all = before ++ d :: after) :
    Takes s (ingestLocked s o now).2 o (bucketKey s o d) ↔
      ¬(bucketKey s o d ∉ s.aggregates.buckets ∧ maxAggregateKeys ≤
        s.aggregates.buckets.size + (missingIn s o before).length) := by
  obtain ⟨p, hadmitted⟩ := admitted_of_accepted haccepted
  rw [ingestLocked_admitted hadmitted] at hcounted ⊢
  unfold Takes ingestAccepted
  dsimp only
  rw [(applyEvidence_aggregates_of_counts _ _ _ _ hcounted).1]
  exact accumulateAll_takes_iff _ _ hall

/-- An observation that is accepted and counted despite a conflict leaves it undecided exactly
    if the policy lets attribution look at the topology, no candidate regions take the place of
    the two candidates, and the store has no room for the declared class. -/
theorem conflict_undecided_iff (s : State) (o : Observation) (now : Nanos)
    (haccepted : (ingestLocked s o now).1.disposition.isAccepted = true)
    (hcounted : (ingestLocked s o now).1.counted = true) (hconflict : Conflict s o) :
    Undecided s (ingestLocked s o now).2 o ↔
      s.options.attributionPolicy.deriveLocalityFromTopology = true ∧
        (∀ text ∈ conflictCandidates s o, rivalRegions s o = [] ∨ text ∈ rivalRegions s o) ∧
        NoRoom s o := by
  obtain ⟨p, hadmitted⟩ := admitted_of_accepted haccepted
  have hregistered : o.sourcePublisher ∈ s.publishers :=
    ExtTreeMap.mem_iff_isSome_getElem?.2 (Option.isSome_of_eq_some hadmitted.publisher)
  have hcounts : countsAsCurrentEvidence (attributeObservation s o).outcome = true := by
    rw [← (ingestLocked_answer hadmitted now).2.2.2]
    exact hcounted
  have hcurrent := (counts_iff hregistered).1 hcounts
  obtain ⟨r, hhanded, heq⟩ :=
    ((attributeObservation_cases s o).resolve_right fun h => h.1 hcurrent).2
  have hr := hhanded.unlocated (attributionStart_unlocated s o)
  obtain ⟨hkeeps, hcandidates⟩ := concludeAttribution_located s o r
  rw [← heq] at hkeeps hcandidates
  -- a declared locality that is contradicted is still the one that is counted
  have hkey : bucketKey s o .locality = ⟨.locality, o.locality.toText⟩ := by
    rw [bucketKey, aggregateValueText, if_neg (by simp [hconflict.1, hconflict.2.1])]
  have htakes := ingest_takes_iff haccepted hcounted
    (show AggregateDimension.all = beforeLocality ++ .locality :: _ from rfl)
  rw [hkey] at htakes
  constructor
  · intro h
    -- without the policy the conflict is not noticed
    have hpolicy : s.options.attributionPolicy.deriveLocalityFromTopology = true := by
      by_contra hpolicy
      have hignored := attributeLocality_of_ignored (r := r) hconflict (by simpa using hpolicy)
      rw [← hkeeps.established, h.established] at hignored
      cases hignored
    refine ⟨hpolicy, fun text htext => ?_, ?_⟩
    · have hlisted := h.candidates text htext
      rw [hcandidates] at hlisted
      split_ifs at hlisted with hrivals
      · exact .inl hrivals
      · exact .inr hlisted
    · rw [NoRoom, hkey]
      exact not_not.1 fun hroom => h.uncounted (htakes.2 hroom)
  · rintro ⟨hpolicy, hrivals, hroom⟩
    obtain ⟨hfound, hlocality, hestablished, htargets⟩ :=
      attributeLocality_of_conflict hconflict hr hpolicy
    rw [NoRoom, hkey] at hroom
    refine ⟨fun text htext => ?_, hkeeps.locality.trans hlocality,
      hkeeps.established.trans hestablished, fun t ht hkind => ?_, fun h => htakes.1 h hroom⟩
    · rw [hcandidates]
      split_ifs with hnone
      · rw [hfound]
        exact htext
      · exact (hrivals text htext).resolve_left hnone
    · exact htargets t ((hkeeps.targets t hkind).1 ht) hkind

/-- Two processors with a link between them, and a publisher. -/
def linkedPair : State :=
  Run.final act (State.initial {} 0) (processorPair ++ [.setTopologyLink (pairLink .RemoteNuma)])

/-- A read between the two that declares them to be of the same processor. -/
def contradictingRead : Observation where
  eventId := 1
  type := .RemoteRead
  sourcePublisher := ascii "p"
  publisherBoot := 1
  coordinatorEpoch := 1
  topologyGeneration := 1
  sequence := 1
  source := some ⟨.Processor, ascii "a", 1⟩
  target := some ⟨.Processor, ascii "b", 1⟩
  locality := .LocalProcessor
  localityDeclared := true

theorem contradictingRead_accepted :
    (ingestLocked linkedPair contradictingRead 0).1.disposition.isAccepted = true ∧
      (ingestLocked linkedPair contradictingRead 0).1.counted = true := by
  decide +kernel

theorem contradictingRead_conflict : Conflict linkedPair contradictingRead := by
  have hlocality : topologyLocality linkedPair contradictingRead = .RemoteNuma := by decide +kernel
  rw [Conflict, hlocality]
  decide

/-- A read that contradicts the link of its two ends. -/
theorem conflict_undecided_iff_read :
    Conflict linkedPair contradictingRead ∧
      (Undecided linkedPair (ingestLocked linkedPair contradictingRead 0).2 contradictingRead →
        NoRoom linkedPair contradictingRead) :=
  ⟨contradictingRead_conflict, fun h =>
    ((conflict_undecided_iff linkedPair contradictingRead 0 contradictingRead_accepted.1
      contradictingRead_accepted.2 contradictingRead_conflict).1 h).2.2⟩

/-- The read is counted under the class that it declares. -/
theorem contradictingRead_counted :
    (ingestLocked linkedPair contradictingRead 0).1.counted = true ∧
      Conflict linkedPair contradictingRead ∧
      Takes linkedPair (ingestLocked linkedPair contradictingRead 0).2 contradictingRead
        ⟨.locality, ascii "LOCAL_PROCESSOR"⟩ ∧
      ¬Undecided linkedPair (ingestLocked linkedPair contradictingRead 0).2 contradictingRead := by
  obtain ⟨haccepted, hcounted⟩ := contradictingRead_accepted
  have hsize : linkedPair.aggregates.buckets.size = 0 := by decide +kernel
  have hmissing : (missingIn linkedPair contradictingRead beforeLocality).length ≤ 5 :=
    List.length_filter_le _ _
  have htakes := (ingest_takes_iff haccepted hcounted
    (show AggregateDimension.all = beforeLocality ++ .locality :: _ from rfl)).2 fun h => by
      have hfull := h.2
      rw [hsize, maxAggregateKeys] at hfull
      omega
  exact ⟨hcounted, contradictingRead_conflict, htakes, fun h => h.uncounted htakes⟩

end CoherenceObservatory
