import CoherenceObservatory.Persistence.Loadable

/-!
# What a load brings back

A file that parses was written record by record, so whatever its records fit into their
fields comes back as it was. That needs no more of the state than that texts are within the
bounds of the savers: everything else the readers check.
-/

namespace CoherenceObservatory

open Std Codec Limits ExtTreeMap

/-! ## Sizes -/

variable {α : Type} {s : State} {saving options : PersistenceOptions} {staged : StagedState}

theorem length_le_length_flatMap (write : α → List UInt8) {l : List α}
    (h : ∀ x ∈ l, 0 < (write x).length) : l.length ≤ (l.flatMap write).length := by
  induction l with
  | nil => exact Nat.le_refl 0
  | cons x l ih =>
    obtain ⟨hx, hl⟩ := List.forall_mem_cons.1 h
    rw [List.flatMap_cons, List.length_append, List.length_cons]
    have := ih hl
    omega

theorem length_le_length_writeCounted (write : α → List UInt8) (l : List α)
    (h : ∀ x, 0 < (write x).length) : l.length ≤ (writeCounted write l).length := by
  rw [writeCounted, List.length_append]
  exact (length_le_length_flatMap write fun x _ => h x).trans (Nat.le_add_left _ _)

theorem size_le_length_writeMap (write : α → List UInt8) (m : ExtTreeMap Text α)
    (h : ∀ x, 0 < (write x).length) : m.size ≤ (writeMap (fun e => write e.2) m).length := by
  rw [← length_toList]
  exact length_le_length_writeCounted _ _ fun e => h e.2

/-- Every record is filed under its own key and has the property `F`. -/
def Fitting {α : Type} (keyOf : α → Text) (F : α → Prop) (m : ExtTreeMap Text α) : Prop :=
  ∀ k r, m[k]? = some r → keyOf r = k ∧ F r

/-- A table whose section is not too long. -/
theorem Fitting.filed {m : ExtTreeMap Text α} {keyOf : α → Text} {F : α → Prop}
    (h : Fitting keyOf F m) (write : α → List UInt8) (hpos : ∀ x, 0 < (write x).length)
    (hlength : (writeMap (fun e => write e.2) m).length + 4 < 2 ^ 64) :
    Filed keyOf F (2 ^ 64 - 1) m where
  key_eq hr := (h _ _ hr).1
  valid hr := (h _ _ hr).2
  size_le := by
    have := size_le_length_writeMap write m hpos
    omega

theorem length_writeRegion_pos (r : RegionRecord) : 0 < (writeRegion r).length := by
  unfold writeRegion
  rw [List.length_append, PayloadWriter.length_i64]
  omega

/-- A domain has no more members than its record has bytes. -/
theorem length_members_lt (r : CoherenceDomainRecord) :
    r.members.length < (writeCoherenceDomain r).length := by
  have := length_le_length_flatMap writeMember (l := r.members) fun member _ => by
    simp [writeMember]
  simp only [writeCoherenceDomain, List.length_append, PayloadWriter.length_u64]
  omega

theorem length_le_length_flatMap_of_mem (write : α → List UInt8) {l : List α} {x : α} (h : x ∈ l) :
    (write x).length ≤ (l.flatMap write).length := by
  obtain ⟨before, after, rfl⟩ := List.append_of_mem h
  simp only [List.flatMap_append, List.flatMap_cons, List.length_append]
  omega

/-- In a section that is not too long, no domain has too many members. -/
theorem Fitting.members {m : ExtTreeMap Text CoherenceDomainRecord}
    (h : Fitting CoherenceDomainRecord.id CoherenceDomainRecord.Fits m)
    (hlength : (writeMap (fun e => writeCoherenceDomain e.2) m).length + 4 < 2 ^ 64) :
    Fitting CoherenceDomainRecord.id (fun r => r.Fits ∧ r.members.length < 2 ^ 64) m := by
  intro k r hr
  obtain ⟨hk, hfits⟩ := h k r hr
  refine ⟨hk, hfits, ?_⟩
  have hmembers := length_members_lt r
  have hrecord := length_le_length_flatMap_of_mem
    (fun e : Text × CoherenceDomainRecord => writeCoherenceDomain e.2)
    (mem_toList_iff_getElem?_eq_some.2 hr)
  dsimp only at hrecord
  rw [writeMap, writeCounted, List.length_append] at hlength
  omega

/-! ## Sections -/

/-- What is known of a file that was saved from `s` and parsed. -/
structure Parsed (s : State) (options : PersistenceOptions) (staged : StagedState) : Prop where
  hasMeta : s.options.Fits → staged.observerId = s.options.observerId ∧
    staged.sourceCoordinatorEpoch = s.coordinatorEpoch ∧
    staged.sourceObservationEpoch = s.observationEpoch
  nodes : Fitting NodeRecord.id NodeRecord.Fits s.nodes → staged.nodes = s.nodes
  processors : Fitting ProcessorRecord.id ProcessorRecord.Fits s.processors →
    staged.processors = s.processors
  accelerators : Fitting AcceleratorRecord.id AcceleratorRecord.Fits s.accelerators →
    staged.accelerators = s.accelerators
  memoryDomains : Fitting MemoryDomainRecord.id MemoryDomainRecord.Fits s.memoryDomains →
    staged.memoryDomains = s.memoryDomains
  coherenceDomains : Fitting CoherenceDomainRecord.id CoherenceDomainRecord.Fits s.coherenceDomains →
    staged.coherenceDomains = s.coherenceDomains
  regions : Fitting RegionRecord.id RegionRecord.Fits s.regions →
    staged.regions = s.regions.map fun _ => RegionRecord.loaded
  links : (∀ link ∈ s.topology.links, link.Fits) →
    staged.links = s.topology.links ∧ staged.topologyGeneration = s.topologyGeneration
  watermarks : Fitting (fun w => bootKey w.publisher w.boot)
      (fun w => w.publisher.length ≤ maxNameLength) (storedWatermarks s) →
    staged.watermarks = storedWatermarks s
  capabilities : Fitting Capability.key Capability.Fits s.capabilities →
    staged.capabilities = s.capabilities
  costModel : s.options.Fits → staged.costModel = some s.options.costModel.loaded
  aggregates : options.includeHistory = true → (∀ e ∈ storedAggregates s options,
    e.1.value.length ≤ maxRegionAnnotationLength) →
      staged.historicalAggregates = (storedAggregates s options).foldl
        (fun t e => t.insert e.1 e.2.loaded) ∅

/-- The sections of a save that parses are those it stages. -/
theorem stageAll_of_parseState (h : parseState (saveState s saving) options = .ok staged) :
    stageAll options { sourceCoordinatorEpoch := s.coordinatorEpoch
                       sourceObservationEpoch := s.observationEpoch }
        (savedSections s saving) = .ok staged ∧
      ∀ e ∈ savedSections s saving, e.2.length + 4 < 2 ^ 64 := by
  obtain ⟨x, hopen, h⟩ := bind_eq_ok.1 h
  obtain ⟨rfl, hsize⟩ := openState_sealState_eq_ok hopen
  have hbodies : ∀ e ∈ savedSections s saving, e.2.length + 4 < 2 ^ 64 := by
    intro e he
    have := length_le_length_flatMap_of_mem (fun e => buildSection e.1 e.2) he
    rw [length_buildSection] at this
    omega
  obtain ⟨staged', hsections, h⟩ := bind_eq_ok.1 h
  rw [parseSections_buildSection _ _ _ hbodies] at hsections
  iterate 3 obtain ⟨_, _, h⟩ := bind_eq_ok.1 h
  obtain rfl : staged' = staged := Except.ok.inj h
  exact ⟨hsections, hbodies⟩

/-- The sections of the history, if they are there, touch nothing else. -/
theorem stageAll_history {st : StagedState} (hagg : staged.historicalAggregates = ∅)
    (hhist : staged.history = []) (hbodies : ∀ e ∈ savedSections s saving, e.2.length + 4 < 2 ^ 64)
    (h : stageAll options staged (historySections s saving) = .ok st) :
    ∃ aggregates history count seen, st = { staged with
        historicalAggregates := aggregates
        history
        recordCount := count
        seenSections := seen } ∧
      (saving.includeHistory = true → (∀ e ∈ storedAggregates s saving,
        e.1.value.length ≤ maxRegionAnnotationLength) →
          aggregates = (storedAggregates s saving).foldl
            (fun t e => t.insert e.1 e.2.loaded) ∅) := by
  unfold historySections at h
  split at h
  next hhistory =>
    obtain ⟨_, staged₁, hrun, h⟩ := stageAll_cons.1 h
    obtain ⟨aggregates, count, _, _, rfl⟩ := (ensures_stageHistoricalAggregates (by exact hagg)).run hrun
    obtain ⟨_, staged₂, hrun', h⟩ := stageAll_cons.1 h
    obtain ⟨history, count', _, rfl⟩ := (ensures_stageHistory (by exact hhist)).run hrun'
    obtain rfl := Except.ok.inj h
    refine ⟨aggregates, history, _, _, rfl, fun _ htexts => ?_⟩
    have hlength : (storedAggregates s saving).length < 2 ^ 64 := by
      have hbody := hbodies (.historicalAggregates,
        writeCounted (fun e => writeAggregate e.1 e.2) (storedAggregates s saving)) (by
          simp [savedSections, historySections, hhistory])
      dsimp only at hbody
      have := length_le_length_writeCounted
        (fun e : AggregateKey × AggregateValue => writeAggregate e.1 e.2)
        (storedAggregates s saving) fun e => by simp [writeAggregate]
      omega
    have hkeys : (storedAggregates s saving).Pairwise fun a b => ¬compare a.1 b.1 = .eq :=
      distinct_keys_toList.sublist (List.take_sublist _ _)
    have heq := ((stageHistoricalAggregates_run (by exact hagg) hkeys hlength htexts).1 hrun).2
    exact (congrArg StagedState.historicalAggregates heq).symm
  next hhistory =>
    obtain rfl := Except.ok.inj h
    exact ⟨_, _, _, _, rfl, fun hincludes => absurd hincludes hhistory⟩

/-- What a file saved from any state parses to. -/
theorem parsed_of_parseState (h : parseState (saveState s saving) options = .ok staged) :
    Parsed s saving staged := by
  obtain ⟨h, hbodies⟩ := stageAll_of_parseState h
  have hsizes := hbodies
  rw [savedSections, List.forall_mem_append] at hsizes
  simp only [List.forall_mem_cons] at hsizes
  obtain ⟨⟨_, hnodesSize, hprocessorsSize, hacceleratorsSize, hmemorySize, hcoherenceSize,
    hregionsSize, htopologySize, hwatermarksSize, hcapabilitiesSize, _⟩, _⟩ := hsizes
  rw [savedSections] at h
  simp only [List.cons_append, List.nil_append] at h
  -- one section after the other: what it stages is all that changes
  obtain ⟨_, _, hmeta, h⟩ := stageAll_cons.1 h
  obtain ⟨observer, node, display, topology, evidence, bucket, coordinator, observation, _, _, _, _,
    rfl⟩ := ensures_stageMeta.run hmeta
  obtain ⟨_, _, hnodes, h⟩ := stageAll_cons.1 h
  obtain ⟨nodes, _, rfl⟩ := (ensures_stageTable rfl ensures_readNode).run hnodes
  obtain ⟨_, _, hprocessors, h⟩ := stageAll_cons.1 h
  obtain ⟨processors, _, rfl⟩ := (ensures_stageTable rfl ensures_readProcessor).run hprocessors
  obtain ⟨_, _, haccelerators, h⟩ := stageAll_cons.1 h
  obtain ⟨accelerators, _, rfl⟩ := (ensures_stageTable rfl
    ensures_readAccelerator).run haccelerators
  obtain ⟨_, _, hmemory, h⟩ := stageAll_cons.1 h
  obtain ⟨memoryDomains, _, rfl⟩ := (ensures_stageTable rfl ensures_readMemoryDomain).run hmemory
  obtain ⟨_, _, hcoherence, h⟩ := stageAll_cons.1 h
  obtain ⟨coherenceDomains, _, rfl⟩ := (ensures_stageTable rfl
    ensures_readCoherenceDomain).run hcoherence
  obtain ⟨_, _, hregions, h⟩ := stageAll_cons.1 h
  obtain ⟨regions, _, rfl⟩ := (ensures_stageTable rfl ensures_readRegion).run hregions
  obtain ⟨_, _, htopology, h⟩ := stageAll_cons.1 h
  obtain ⟨generation, links, _, _, rfl⟩ := (ensures_stageTopology rfl).run htopology
  obtain ⟨_, _, hwatermarks, h⟩ := stageAll_cons.1 h
  obtain ⟨watermarks, _, rfl⟩ := (ensures_stageTable rfl ensures_readWatermark).run hwatermarks
  obtain ⟨_, _, hcapabilities, h⟩ := stageAll_cons.1 h
  obtain ⟨capabilities, _, rfl⟩ := (ensures_stageTable rfl ensures_readCapability).run hcapabilities
  obtain ⟨_, _, hcost, h⟩ := stageAll_cons.1 h
  obtain ⟨model, _, rfl⟩ := ensures_stageCostModel.run hcost
  obtain ⟨aggregates, history, count, seen, rfl, haggregates⟩ :=
    stageAll_history rfl rfl hbodies h
  -- what each section holds is what was saved
  exact {
    hasMeta := fun hf => by
      have heq := ((stageMeta_run hf).1 hmeta).2
      exact ⟨(congrArg StagedState.observerId heq).symm,
        (congrArg StagedState.sourceCoordinatorEpoch heq).symm,
        (congrArg StagedState.sourceObservationEpoch heq).symm⟩
    nodes := fun hf => by
      have hm := hf.filed writeNode (fun r => by simp [writeNode]) hnodesSize
      exact (congrArg StagedState.nodes
        ((stageTable_run rfl hm fun _ => reads_node).1 hnodes).2).symm
    processors := fun hf => by
      have hm := hf.filed writeProcessor (fun r => by simp [writeProcessor]) hprocessorsSize
      exact (congrArg StagedState.processors
        ((stageTable_run rfl hm fun _ => reads_processor).1 hprocessors).2).symm
    accelerators := fun hf => by
      have hm := hf.filed writeAccelerator (fun r => by simp [writeAccelerator]) hacceleratorsSize
      exact (congrArg StagedState.accelerators
        ((stageTable_run rfl hm fun _ => reads_accelerator).1 haccelerators).2).symm
    memoryDomains := fun hf => by
      have hm := hf.filed writeMemoryDomain (fun r => by simp [writeMemoryDomain]) hmemorySize
      exact (congrArg StagedState.memoryDomains
        ((stageTable_run rfl hm fun _ => reads_memoryDomain).1 hmemory).2).symm
    coherenceDomains := fun hf => by
      have hm := (hf.members hcoherenceSize).filed writeCoherenceDomain
        (fun r => by simp [writeCoherenceDomain]) hcoherenceSize
      exact (congrArg StagedState.coherenceDomains
        ((stageTable_run rfl hm fun _ hr => reads_coherenceDomain hr.1 hr.2).1 hcoherence).2).symm
    regions := fun hf => by
      have hm := hf.filed writeRegion length_writeRegion_pos hregionsSize
      exact (congrArg StagedState.regions ((stageRegions_run rfl hm).1 hregions).2).symm
    links := fun hf => by
      have hcount := length_le_length_writeCounted writeLink s.topology.links
        fun link => by simp [writeLink]
      rw [List.length_append] at htopologySize
      have heq := ((stageTopology_run _ rfl (by omega) hf).1 htopology).2
      exact ⟨(congrArg StagedState.links heq).symm,
        (congrArg StagedState.topologyGeneration heq).symm⟩
    watermarks := fun hf => by
      have hm := hf.filed writeWatermark (fun r => by simp [writeWatermark]) hwatermarksSize
      exact (congrArg StagedState.watermarks
        ((stageTable_run rfl hm fun _ => reads_watermark).1 hwatermarks).2).symm
    capabilities := fun hf => by
      have hm := hf.filed writeCapability (fun r => by simp [writeCapability]) hcapabilitiesSize
      exact (congrArg StagedState.capabilities
        ((stageTable_run rfl hm fun _ => reads_capability).1 hcapabilities).2).symm
    costModel := fun hf =>
      (congrArg StagedState.costModel ((stageCostModel_run hf.costModel).1 hcost).2).symm
    aggregates := haggregates }

/-! ## Filing -/

/-- Records are filed under their own identities, the history fits its file, and there is a
cost model. -/
structure State.Kept (s : State) : Prop where
  nodes : KeyedBy NodeRecord.id s.nodes
  processors : KeyedBy ProcessorRecord.id s.processors
  accelerators : KeyedBy AcceleratorRecord.id s.accelerators
  memoryDomains : KeyedBy MemoryDomainRecord.id s.memoryDomains
  coherenceDomains : KeyedBy CoherenceDomainRecord.id s.coherenceDomains
  regions : KeyedBy RegionRecord.id s.regions
  capabilities : KeyedBy Capability.key s.capabilities
  costModel : s.options.costModel.defined = true
  aggregates_size : s.historicalAggregates.buckets.size ≤ maxHistoryAggregates
  aggregates : ∀ k v, s.historicalAggregates.buckets[k]? = some v → StorableBucket k v

theorem State.Kept.of_skeleton {s' : State} (h : s.Kept) (heq : s'.skeleton = s.skeleton) :
    s'.Kept := by
  have h' : s.skeleton.Kept := { h with }
  rw [← heq] at h'
  exact { h' with }

theorem kept_initial (options : ObservatoryOptions) (now : Nanos) :
    (State.initial options now).Kept where
  nodes := KeyedBy.insert (fun _ _ h => by simp at h) rfl
  processors _ _ h := nomatch h
  accelerators _ _ h := nomatch h
  memoryDomains _ _ h := nomatch h
  coherenceDomains _ _ h := nomatch h
  regions _ _ h := nomatch h
  capabilities := defaultCapabilities_filed.keyedBy
  costModel := by
    change (if options.costModel.defined then options.costModel else defaultCostModel).defined = true
    split
    · assumption
    · rfl
  aggregates_size := Nat.zero_le _
  aggregates _ _ h := nomatch h

theorem recover_kept (clock : Nat → Nanos) (hs : s.Kept) (h : staged.Storable) :
    (recover s staged clock).Kept where
  nodes := h.nodes.keyedBy
  processors := h.processors.keyedBy
  accelerators := h.accelerators.keyedBy
  memoryDomains := h.memoryDomains.keyedBy
  coherenceDomains := h.coherenceDomains.keyedBy
  regions := (h.regions.map (Q := fun _ => True) (f := RegionRecord.loaded) (fun _ => rfl)
    fun _ _ => trivial).keyedBy
  capabilities k c hc := by
    rcases getElem?_foldl_insert hc with hold | hnew
    · exact hs.capabilities k c hold
    · exact h.capabilities.key_eq (mem_toList_iff_getElem?_eq_some.1 hnew)
  costModel := by
    change (staged.costModel.getD s.options.costModel).defined = true
    cases hmodel : staged.costModel with
    | none => exact hs.costModel
    | some model => exact (h.costModel model hmodel).2
  aggregates_size := h.aggregates_size.trans (staged.room_le ..)
  aggregates := h.aggregates

/-- The step lemma. -/
theorem act_kept (hs : s.Kept) (a : Action) : (act s a).2.Kept := by
  by_cases hdescribes : a.describes = false
  · exact hs.of_skeleton (act_skeleton s hdescribes)
  cases a with
  | registerNode r now =>
    exact commit_induction hs fun _ => { hs with nodes := hs.nodes.insert rfl }
  | registerProcessor r now =>
    exact commit_induction hs fun _ => { hs with processors := hs.processors.insert rfl }
  | registerAccelerator r now =>
    exact commit_induction hs fun _ => { hs with accelerators := hs.accelerators.insert rfl }
  | registerMemoryDomain r now =>
    exact commit_induction hs fun _ => { hs with memoryDomains := hs.memoryDomains.insert rfl }
  | registerCoherenceDomain r now =>
    exact commit_induction hs fun _ =>
      { hs with coherenceDomains := hs.coherenceDomains.insert rfl }
  | registerRegion r now =>
    exact commit_induction hs fun _ => { hs with regions := hs.regions.insert rfl }
  | retireRegion region generation reason now =>
    rw [act, retireRegion]
    split
    · exact hs
    next record hretire =>
      have hkey := hs.regions region record (checkRetire_eq_ok hretire)
      exact { hs with regions := hs.regions.insert hkey }
  | setTopologyLink link => exact commit_induction hs fun _ => { hs with }
  | bumpTopologyGeneration reason now =>
    rw [act, bumpTopologyGeneration]
    split
    · exact hs
    · exact { hs with }
  | setCapability c =>
    exact commit_induction hs fun _ => { hs with capabilities := hs.capabilities.insert rfl }
  | setCostModel model => exact commit_induction hs fun _ => { hs with costModel := rfl }
  | load path file options clock =>
    rw [act, loadState]
    split
    · exact hs
    split
    · exact hs
    next staged hparse => exact recover_kept clock hs (parseState_storable hparse).1
  | _ => simp [Action.describes] at hdescribes

theorem final_kept (options : ObservatoryOptions) (now : Nanos) (l : List Action) :
    (Run.final act (State.initial options now) l).Kept :=
  Run.final_stable (I := State.Kept) (fun _ a hs => act_kept hs a) (kept_initial options now) l

/-! ## Structure -/

/-- Texts and identities are within the bounds the savers have for them. -/
structure State.Fits (s : State) : Prop where
  options : s.options.Fits
  nodes : ∀ (k : Text) (r : NodeRecord), s.nodes[k]? = some r → r.Fits
  processors : ∀ (k : Text) (r : ProcessorRecord), s.processors[k]? = some r → r.Fits
  accelerators : ∀ (k : Text) (r : AcceleratorRecord), s.accelerators[k]? = some r → r.Fits
  memoryDomains : ∀ (k : Text) (r : MemoryDomainRecord), s.memoryDomains[k]? = some r → r.Fits
  coherenceDomains : ∀ (k : Text) (r : CoherenceDomainRecord), s.coherenceDomains[k]? = some r → r.Fits
  regions : ∀ (k : Text) (r : RegionRecord), s.regions[k]? = some r → r.Fits
  links : ∀ link ∈ s.topology.links, link.Fits
  capabilities : ∀ (k : Text) (c : Capability), s.capabilities[k]? = some c → c.Fits

/-- The state `t` has the structure of `s`, the next epochs, and nothing current. -/
structure Restores (s t : State) : Prop where
  nodes : t.nodes = s.nodes
  processors : t.processors = s.processors
  accelerators : t.accelerators = s.accelerators
  memoryDomains : t.memoryDomains = s.memoryDomains
  coherenceDomains : t.coherenceDomains = s.coherenceDomains
  regions : t.regions = s.regions.map fun _ r => { r with loadedFromState := true }
  links : t.topology.links = s.topology.links
  topologyGeneration :
    t.topologyGeneration = s.topologyGeneration ∧ t.topology.generation = s.topologyGeneration
  costModel : t.options.costModel = s.options.costModel
  capabilities : ∀ (k : Text) (c : Capability), s.capabilities[k]? = some c →
    t.capabilities[k]? = some c
  coordinatorEpoch : t.coordinatorEpoch = s.coordinatorEpoch + 1
  observationEpoch : t.observationEpoch = s.observationEpoch + 1
  publishers : t.publishers = ∅
  aggregates : t.aggregates.buckets = ∅
  journal : t.journal = []
  regionEvidence : t.regionEvidence = ∅
  counters : t.counters = ∅

/-- What is parsed from a save of `s`, applied to any state. -/
theorem recover_restores (hkept : s.Kept) (hfits : s.Fits) (h : Parsed s saving staged) (t : State)
    (clock : Nat → Nanos) : Restores s (recover t staged clock) where
  nodes := h.nodes fun k r hr => ⟨hkept.nodes k r hr, hfits.nodes k r hr⟩
  processors := h.processors fun k r hr => ⟨hkept.processors k r hr, hfits.processors k r hr⟩
  accelerators := h.accelerators fun k r hr =>
    ⟨hkept.accelerators k r hr, hfits.accelerators k r hr⟩
  memoryDomains := h.memoryDomains fun k r hr =>
    ⟨hkept.memoryDomains k r hr, hfits.memoryDomains k r hr⟩
  coherenceDomains := h.coherenceDomains fun k r hr =>
    ⟨hkept.coherenceDomains k r hr, hfits.coherenceDomains k r hr⟩
  regions := by
    have hregions := h.regions fun k r hr => ⟨hkept.regions k r hr, hfits.regions k r hr⟩
    change staged.regions.map _ = _
    rw [hregions, map_map]
    rfl
  links := (h.links hfits.links).1
  topologyGeneration := ⟨(h.links hfits.links).2, (h.links hfits.links).2⟩
  costModel := by
    change staged.costModel.getD t.options.costModel = _
    rw [h.costModel hfits.options, Option.getD_some, CostModel.loaded, ← hkept.costModel]
  capabilities k c hc := by
    have hcapabilities := h.capabilities fun k c hc =>
      ⟨hkept.capabilities k c hc, hfits.capabilities k c hc⟩
    change (staged.capabilities.toList.foldl (fun m e => m.insert e.1 e.2) t.capabilities)[k]? = _
    rw [hcapabilities]
    exact getElem?_foldl_insert_of_mem distinct_keys_toList
      (mem_toList_iff_getElem?_eq_some.2 hc)
  coordinatorEpoch := congrArg (· + 1) (h.hasMeta hfits.options).2.1
  observationEpoch := congrArg (· + 1) (h.hasMeta hfits.options).2.2
  publishers := rfl
  aggregates := rfl
  journal := rfl
  regionEvidence := rfl
  counters := rfl

/-- A file that can be read and parsed is applied. -/
theorem loadState_of_parseState (s : State) {path : Text} {file : Option (List UInt8)}
    {data : List UInt8} (hfile : readFileBounded path file options.maxBytes = .ok data)
    (hparse : parseState data options = .ok staged) (clock : Nat → Nanos) :
    loadState s path file options clock =
      (.ok (loadReport staged data.length), recover s staged clock) := by
  rw [loadState, hfile]
  dsimp only
  rw [hparse]

/-- Loading a save of a state whose texts fit, wherever it parses, restores the structure. -/
theorem restored_structure (options : ObservatoryOptions) (now : Nanos) (l : List Action)
    (hfits : (Run.final act (State.initial options now) l).Fits)
    (saving loading : PersistenceOptions) (staged : StagedState)
    (hparse : parseState (saveState (Run.final act (State.initial options now) l) saving) loading =
      .ok staged)
    (path : Text) (file : Option (List UInt8))
    (hfile : readFileBounded path file loading.maxBytes =
      .ok (saveState (Run.final act (State.initial options now) l) saving))
    (t : State) (clock : Nat → Nanos) :
    ∃ report t', loadState t path file loading clock = (.ok report, t') ∧
      Restores (Run.final act (State.initial options now) l) t' := by
  exact ⟨_, _, loadState_of_parseState t hfile hparse clock,
    recover_restores (final_kept options now l) hfits (parsed_of_parseState hparse) t clock⟩

/-- What is within the bounds of the format fits. -/
theorem Structured.fits (h : Structured s) : s.Fits where
  options :=
    { observerId := length_le_of_checkOptionalToken h.observerId
      nodeId := length_le_of_checkOptionalToken h.nodeId
      displayName := h.displayName
      costModel := length_id_le_of_validate h.costModel }
  nodes _ _ hr := (h.nodes.valid hr).fits
  processors _ _ hr := (h.processors.valid hr).fits
  accelerators _ _ hr := (h.accelerators.valid hr).fits
  memoryDomains _ _ hr := (h.memoryDomains.valid hr).fits
  coherenceDomains _ _ hr := (h.coherenceDomains.valid hr).fits
  regions _ _ hr := (h.regions.valid hr).fits
  links link hl := (h.links link hl).fits
  capabilities _ _ hc := (h.capabilities.valid hc).fits

/-- The default bound leaves room for every file. -/
theorem Encodable.readFileBounded_saveState (h : Encodable s) (path : Text) :
    readFileBounded path (some (saveState s)) ({} : PersistenceOptions).maxBytes =
      .ok (saveState s) := by
  have hlength := h.length_payload_le
  have hmax : ({} : PersistenceOptions).maxBytes.toNat = 268435456 := rfl
  rw [readFileBounded, if_neg]
  rw [hmax, saveState, length_sealState]
  omega

theorem State.Savable.loadState_saveState (h : s.Savable) (t : State) (path : Text)
    (clock : Nat → Nanos) : loadState t path (some (saveState s)) {} clock =
      (.ok (loadReport (stagedOf s) (saveState s).length), recover t (stagedOf s) clock) := by
  refine loadState_of_parseState t (h.encodable.readFileBounded_saveState path) ?_ clock
  rw [parseState_saveState h.encodable, checkReferences_stagedOf.2 h.linked]
  rfl

/-- A node, a processor of it and a publisher are saved and loaded into a fresh observatory. -/
theorem restored_structure_registered :
    let l : List Action := [.registerNode { id := ascii "n" } 0,
      .registerProcessor { id := ascii "cpu", node := ascii "n", generation := 1 } 0,
      .registerPublisher { id := ascii "p", boot := 1 } fun _ => 0]
    ∃ report t', loadState (State.initial {} 1) [] (some (saveState (Run.final act (State.initial {} 0) l)))
        {} (fun _ => 1) = (.ok report, t') ∧ Restores (Run.final act (State.initial {} 0) l) t' := by
  intro l
  have hsafe : Run.Along act SaveSafe (State.initial {} 0) l :=
    ⟨⟨trivial, trivial⟩, ⟨show _ ≤ _ by decide, .inr (by decide +kernel)⟩,
      ⟨trivial, .inr (by decide +kernel)⟩, trivial⟩
  have hsavable : (Run.final act (State.initial {} 0) l).Savable :=
    Run.final_invariant (I := State.Savable) (fun _ _ hs ha => act_savable hs ha)
      (savable_initial 0) hsafe
  have hparse : parseState (saveState (Run.final act (State.initial {} 0) l)) =
      .ok (stagedOf (Run.final act (State.initial {} 0) l)) := by
    rw [parseState_saveState hsavable.encodable, checkReferences_stagedOf.2 hsavable.linked]
    rfl
  exact restored_structure {} 0 l hsavable.structured.fits {} {} _ hparse [] _
    (hsavable.encodable.readFileBounded_saveState []) _ _

end CoherenceObservatory
