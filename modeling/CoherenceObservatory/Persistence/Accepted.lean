import CoherenceObservatory.Persistence.Encodable

/-!
# What an accepted file holds

Whatever its bytes, a file that parses stages only records within the bounds of the
format, each filed under its own key, and each section touches nothing but its own part
of what is staged.
-/

namespace CoherenceObservatory

open Std Codec Limits ExtTreeMap

/-! ## Fields and records -/

theorem ensures_text (maxLength : Nat) :
    Ensures (PayloadReader.text maxLength) fun value => value.length ≤ maxLength := by
  refine .skip fun length => .guard fun hlength => Ensures.take.mono fun value hvalue => ?_
  rw [hvalue]
  exact Nat.le_of_not_lt hlength

variable {β : Type} {bound : Nat} {tooMany : String} {options : PersistenceOptions}
  {staged staged' : StagedState} {rest : List UInt8}

theorem ensures_identity {id : Text} {e : Error} {f : Unit → PayloadReader β} {Q : β → Prop}
    (h : IsToken id → Ensures (f ()) Q) : Ensures (checkIdentity id e >>= f) Q :=
  .guard fun hid => h (validateIdentityToken_eq_ok.1 (not_not.1 hid))

theorem ensures_readNode : Ensures readNode NodeRecord.Storable := by
  refine .skip fun id => .bind (ensures_text _) fun displayName hdisplay => .skip fun _ => ?_
  exact ensures_identity fun hid => .pure ⟨hid, hdisplay⟩

theorem ensures_readProcessor : Ensures readProcessor ProcessorRecord.Storable := by
  refine .skip fun id => .bind (ensures_text _) fun node hnode => ?_
  refine .bind (ensures_text _) fun localMemoryDomain hlocal => .skip fun generation => ?_
  refine .skip fun _ => .skip fun _ => .skip fun _ => .skip fun _ => .skip fun _ => .skip fun _ => ?_
  exact ensures_identity fun hid => .guard fun hgeneration => .pure ⟨hid, hnode, hlocal, hgeneration⟩

theorem ensures_readAccelerator : Ensures readAccelerator AcceleratorRecord.Storable := by
  refine .skip fun id => .bind (ensures_text _) fun node hnode => ?_
  refine .bind (ensures_text _) fun vendor hvendor => ?_
  refine .bind (ensures_text _) fun vendorUuid huuid => ?_
  refine .bind (ensures_text _) fun localMemoryDomain hlocal => .skip fun generation => ?_
  refine .skip fun _ => .skip fun _ => .skip fun _ => .skip fun _ => ?_
  exact ensures_identity fun hid => .guard fun hgeneration =>
    .pure ⟨hid, hnode, hvendor, huuid, hlocal, hgeneration⟩

theorem ensures_readMemoryDomain : Ensures readMemoryDomain MemoryDomainRecord.Storable := by
  refine .skip fun id => .bind (ensures_text _) fun node hnode => ?_
  refine .bind (ensures_text _) fun coherenceDomain hcoherence => .skip fun generation => ?_
  refine .skip fun kind => .skip fun _ => .skip fun _ => .skip fun _ => .skip fun _ => ?_
  refine .skip fun _ => .skip fun _ => .guard fun hkind => ?_
  exact ensures_identity fun hid => .guard fun hgeneration =>
    .pure ⟨hid, hnode, hcoherence, hgeneration, hkind⟩

theorem ensures_readMember (domain : Text) : Ensures (readMember domain) ResourceRef.Storable := by
  refine .skip fun kind => .bind (ensures_text _) fun id hid => .skip fun _ => ?_
  exact .guard fun hkind => .pure ⟨hkind, hid⟩

theorem ensures_readCoherenceDomain :
    Ensures readCoherenceDomain CoherenceDomainRecord.Storable := by
  refine .skip fun id => .bind (ensures_text _) fun family hfamily => .skip fun generation => ?_
  refine .skip fun _ => .skip fun count => .guard fun hcount => ?_
  refine .bind (.many (ensures_readMember id) _) fun members hmembers => .skip fun _ => ?_
  exact ensures_identity fun hid => .guard fun hgeneration =>
    .pure ⟨hid, hfamily, hgeneration, by rw [hmembers.1]; exact Nat.le_of_not_lt hcount, hmembers.2⟩

theorem ensures_readRegion : Ensures readRegion RegionRecord.Storable := by
  refine .skip fun id => .bind (ensures_text _) fun owner howner => ?_
  refine .bind (ensures_text _) fun annotationText hannotation => ?_
  refine .bind (ensures_text _) fun memoryDomain hmemory => ?_
  refine .bind (ensures_text _) fun coherenceDomain hcoherence => ?_
  refine .bind (ensures_text _) fun workload hworkload => .skip fun generation => ?_
  refine .skip fun _ => .skip fun _ => .skip fun _ => .skip fun _ => .skip fun _ => .skip fun _ => ?_
  refine .skip fun scope => .skip fun _ => .skip fun _ => .skip fun _ => .skip fun _ => ?_
  refine .skip fun _ => .guard fun hscope => ?_
  exact ensures_identity fun hid => .guard fun hgeneration =>
    .pure ⟨hid, howner, hannotation, hmemory, hcoherence, hworkload, hgeneration, hscope⟩

theorem ensures_readLink : Ensures readLink TopologyLink.Storable := by
  refine .skip fun fromKind => .bind (ensures_text _) fun fromId hfrom => .skip fun _ => ?_
  refine .skip fun toKind => .bind (ensures_text _) fun toId hto => .skip fun _ => ?_
  refine .skip fun locality => .skip fun provenance => .skip fun _ => .skip fun _ => ?_
  refine .guard fun hkinds => .guard fun hlocality => .guard fun hprovenance => .pure ?_
  rw [not_or] at hkinds
  exact ⟨⟨hkinds.1, hfrom⟩, ⟨hkinds.2, hto⟩, hlocality, hprovenance⟩

theorem ensures_readWatermark : Ensures readWatermark PublisherWatermark.Storable := by
  refine .skip fun publisher => .skip fun boot => .skip fun _ => .skip fun _ => .skip fun _ => ?_
  refine .skip fun _ => .skip fun _ => .skip fun _ => .skip fun _ => ?_
  exact ensures_identity fun hid => .guard fun hboot => .pure ⟨hid, hboot⟩

theorem ensures_readCapability : Ensures readCapability Capability.Storable := by
  refine .bind (ensures_text _) fun key hkey => .skip fun status => ?_
  refine .bind (ensures_text _) fun detail hdetail => ?_
  refine .bind (ensures_text _) fun mechanism hmechanism => ?_
  exact .guard fun hstatus => .guard fun hne => .pure ⟨hne, hkey, hstatus, hdetail, hmechanism⟩

theorem ensures_readCostModel :
    Ensures readCostModel fun m => m.validate = .ok () ∧ m.defined = true := by
  refine .skip fun _ => .skip fun _ => .skip fun _ => .skip fun _ => .skip fun _ => ?_
  refine .skip fun _ => .skip fun _ => .skip fun _ => .skip fun _ => .skip fun _ => ?_
  refine .skip fun _ => .skip fun _ => Ensures.lift.mono fun m hm => ?_
  obtain ⟨hvalid, rfl⟩ := checkStoredCostModel_eq_ok.1 hm
  exact ⟨hvalid, rfl⟩

theorem ensures_readAggregate : Ensures readAggregate fun e => StorableBucket e.1 e.2 := by
  refine .skip fun _ => .skip fun dimension => .bind (ensures_text _) fun value hvalue => ?_
  refine .skip fun _ => .skip fun _ => .skip fun _ => .skip fun _ => .skip fun precision => ?_
  exact .guard fun hprecision => .skip fun _ => .pure ⟨hvalue, hprecision⟩

theorem ensures_readHistory : Ensures readHistory HistoricalEvidence.Storable := by
  refine .bind (ensures_text _) fun region hregion => .skip fun type => .skip fun precision => ?_
  refine .skip fun provenance => .skip fun _ => .skip fun _ => .skip fun _ => .skip fun _ => ?_
  refine .guard fun htype => .guard fun hclass => .pure ?_
  rw [not_or] at hclass
  exact ⟨hregion, htype, hclass.1, hclass.2⟩

/-! ## Sections -/

theorem ensures_stageMap {κ : Type} [Ord κ] [TransOrd κ] [LawfulEqOrd κ] {Q : κ → β → Prop}
    {read : PayloadReader (κ × β)} {duplicate : κ → Error} (h : Ensures read fun e => Q e.1 e.2) :
    Ensures (stageMap ∅ bound tooMany read duplicate) fun r =>
      (∀ k v, r.2[k]? = some v → Q k v) ∧ r.2.size ≤ bound := by
  refine .skip fun count => .guard fun hcount => ?_
  -- after `n` records the map has at most `n` entries, each of which was read
  refine .bind (.iterate (P := fun n (m : ExtTreeMap κ β) =>
    (∀ k v, m[k]? = some v → Q k v) ∧ m.size ≤ n) ?_ _ 0 ∅ ?_) fun m hm => .pure ?_
  · rintro n m ⟨hm, hsize⟩
    refine h.bind fun ⟨k, v⟩ hkv => .guard fun _ => .pure ⟨fun k' v' hk' => ?_, ?_⟩
    · rw [getElem?_insert] at hk'
      split at hk'
      next heq => rw [← LawfulEqOrd.eq_of_compare heq, ← Option.some.inj hk']; exact hkv
      next => exact hm k' v' hk'
    · exact size_insert_le.trans (Nat.succ_le_succ hsize)
  · exact ⟨fun k v hk => by simp at hk, by simp⟩
  · rw [Nat.zero_add] at hm
    exact ⟨hm.1, hm.2.trans (Nat.le_of_not_lt hcount)⟩

theorem ensures_filed {keyOf : β → Text} {P : β → Prop} {read : PayloadReader β}
    {duplicate : Text → Error} (h : Ensures read P) :
    Ensures (stageMap ∅ bound tooMany (keyed keyOf read) duplicate) fun r =>
      Filed keyOf P bound r.2 := by
  have hkeyed : Ensures (keyed keyOf read) fun e => keyOf e.2 = e.1 ∧ P e.2 :=
    h.bind fun r hr => .pure ⟨rfl, hr⟩
  refine (ensures_stageMap (Q := fun k r => keyOf r = k ∧ P r) hkeyed).mono fun r hr => ?_
  exact ⟨fun hk => (hr.1 _ _ hk).1, fun hk => (hr.1 _ _ hk).2, hr.2⟩

/-- A section of one table writes one field, and what it writes is storable. -/
theorem ensures_stageTable {keyOf : β → Text} {P : β → Prop} {read : PayloadReader β}
    {table : ExtTreeMap Text β} {duplicate : String} {put : ExtTreeMap Text β → StagedState}
    (hs : table = ∅) (h : Ensures read P) :
    Ensures (stageTable table bound tooMany keyOf read duplicate put) fun st =>
      ∃ m, Filed keyOf P bound m ∧ st = put m := by
  rw [stageTable, hs]
  refine .bind (ensures_filed h) ?_
  rintro ⟨_, m⟩ hm
  exact .skip fun _ => .pure ⟨m, hm, rfl⟩

theorem ensures_stageList {P : β → Prop} {read : PayloadReader β} (h : Ensures read P) :
    Ensures (stageList bound tooMany read) fun r => r.2.length ≤ bound ∧ ∀ x ∈ r.2, P x := by
  refine .skip fun count => .guard fun hcount => (h.many _).bind fun l hl => .pure ⟨?_, hl.2⟩
  rw [hl.1]
  exact Nat.le_of_not_lt hcount

section

variable {options : PersistenceOptions} {staged : StagedState}

theorem ensures_stageMeta : Ensures (stageSection options staged .metaInfo) fun st =>
    ∃ observer node display topology evidence bucket coordinator observation,
      checkOptionalToken observer = .ok () ∧ checkOptionalToken node = .ok () ∧
      display.length ≤ maxRegionAnnotationLength ∧ ¬bucket > maxTimestampNs ∧
      st = { staged with
        hasMeta := true, observerId := observer, nodeId := node, displayName := display
        topologyGeneration := topology, evidenceGeneration := evidence
        timeBucketNs := bucket.toInt64, sourceCoordinatorEpoch := coordinator
        sourceObservationEpoch := observation } := by
  refine .skip fun _ => .skip fun _ => .skip fun observer => .skip fun node => ?_
  refine .bind (ensures_text _) fun display hdisplay => .skip fun topology => ?_
  refine .skip fun evidence => .skip fun bucket => .skip fun coordinator => ?_
  refine .skip fun observation => .bind .lift fun _ hobserver => .bind .lift fun _ hnode => ?_
  refine .guard fun hbucket => .skip fun _ => .pure ?_
  exact ⟨observer, node, display, topology, evidence, bucket, coordinator, observation, hobserver,
    hnode, hdisplay, hbucket, rfl⟩

theorem ensures_stageTopology (hs : staged.links = []) :
    Ensures (stageSection options staged .topology) fun st =>
      ∃ generation links, links.length ≤ maxTopologyLinkCount ∧
        (∀ link ∈ links, link.Storable) ∧
        st = { staged with topologyGeneration := generation, links } := by
  rw [stageSection, stageTopology, hs]
  refine .skip fun generation => .bind (ensures_stageList ensures_readLink) ?_
  rintro ⟨_, links⟩ hl
  exact .skip fun _ => .pure ⟨generation, links, hl.1, hl.2, rfl⟩

theorem ensures_stageCostModel :
    Ensures (stageSection options staged .costModel) fun st =>
      ∃ model, (model.validate = .ok () ∧ model.defined = true) ∧
        st = { staged with costModel := some model } :=
  .bind ensures_readCostModel fun model hmodel => .skip fun _ => .pure ⟨model, hmodel, rfl⟩

theorem ensures_stageHistoricalAggregates (hs : staged.historicalAggregates = ∅) :
    Ensures (stageSection options staged .historicalAggregates) fun st =>
      ∃ (m : ExtTreeMap AggregateKey AggregateValue) (count : UInt64),
        (∀ k v, m[k]? = some v → StorableBucket k v) ∧ m.size ≤ maxHistoryAggregates ∧
        st = { staged with
          historicalAggregates := m, recordCount := staged.recordCount + count } := by
  rw [stageSection, stageHistoricalAggregates, hs]
  refine .bind (ensures_stageMap ensures_readAggregate) ?_
  rintro ⟨count, m⟩ hm
  exact .skip fun _ => .pure ⟨m, count, hm.1, hm.2, rfl⟩

theorem ensures_stageHistory (hs : staged.history = []) :
    Ensures (stageSection options staged .history) fun st =>
      ∃ (history : List HistoricalEvidence) (count : UInt64), (∀ r ∈ history, r.Storable) ∧
        st = { staged with history, recordCount := staged.recordCount + count } := by
  rw [stageSection, stageHistory, hs]
  refine .bind (ensures_stageList ensures_readHistory) ?_
  rintro ⟨count, l⟩ hl
  exact .skip fun _ => .pure ⟨l, count, hl.2, rfl⟩

end

/-! ## Files -/

/-- The room of a table whose section may not have been read yet. -/
def StagedState.room (staged : StagedState) (type : SectionType) (bound : Nat) : Nat :=
  if type.raw ∈ staged.seenSections then bound else 0

/-- Everything staged is storable, and nothing is staged before its section is seen. -/
structure StagedState.Storable (staged : StagedState) : Prop where
  observerId : checkOptionalToken staged.observerId = .ok ()
  nodeId : checkOptionalToken staged.nodeId = .ok ()
  displayName : staged.displayName.length ≤ maxRegionAnnotationLength
  timeBucketNs : ¬staged.timeBucketNs.toUInt64 > maxTimestampNs
  nodes : Filed NodeRecord.id NodeRecord.Storable (staged.room .nodes maxNodeCount)
    staged.nodes
  processors : Filed ProcessorRecord.id ProcessorRecord.Storable
    (staged.room .processors maxProcessorCount) staged.processors
  accelerators : Filed AcceleratorRecord.id AcceleratorRecord.Storable
    (staged.room .accelerators maxAcceleratorCount) staged.accelerators
  memoryDomains : Filed MemoryDomainRecord.id MemoryDomainRecord.Storable
    (staged.room .memoryDomains maxMemoryDomainCount) staged.memoryDomains
  coherenceDomains : Filed CoherenceDomainRecord.id CoherenceDomainRecord.Storable
    (staged.room .coherenceDomains maxCoherenceDomainCount) staged.coherenceDomains
  regions : Filed RegionRecord.id RegionRecord.Storable
    (staged.room .regions maxRegionCount) staged.regions
  links_length : staged.links.length ≤ staged.room .topology maxTopologyLinkCount
  links : ∀ link ∈ staged.links, link.Storable
  watermarks : Filed (fun w => bootKey w.publisher w.boot) PublisherWatermark.Storable
    (staged.room .publisherWatermarks maxPublisherWatermarks) staged.watermarks
  capabilities : Filed Capability.key Capability.Storable
    (staged.room .capabilities maxStoredCapabilities) staged.capabilities
  costModel : ∀ model ∈ staged.costModel, model.validate = .ok () ∧ model.defined = true
  aggregates_size : staged.historicalAggregates.size ≤
    staged.room .historicalAggregates maxHistoryAggregates
  aggregates : ∀ k v, staged.historicalAggregates[k]? = some v → StorableBucket k v
  history_length : SectionType.history.raw ∉ staged.seenSections → staged.history = []
  history : ∀ r ∈ staged.history, r.Storable

namespace StagedState

variable {staged : StagedState}

theorem room_le (staged : StagedState) (type : SectionType) (bound : Nat) :
    staged.room type bound ≤ bound := by
  unfold room
  split <;> omega

variable {type : SectionType}

theorem room_of_not_mem (h : type.raw ∉ staged.seenSections) (bound : Nat) :
    staged.room type bound = 0 := if_neg h

/-- The room once the section has been seen. -/
theorem room_self (type : SectionType) (bound : Nat) :
    ({ staged with seenSections := type.raw :: staged.seenSections }).room type bound = bound :=
  if_pos List.mem_cons_self

theorem room_mono (raw : UInt32) (type : SectionType) (bound : Nat) :
    staged.room type bound ≤ { staged with seenSections := raw :: staged.seenSections }.room type bound := by
  unfold room
  split
  next h => rw [if_pos (List.mem_cons_of_mem _ h)]
  next => exact Nat.zero_le _

theorem storable_empty (coordinatorEpoch : CoordinatorEpoch) (observationEpoch : ObservationEpoch) :
    ({ sourceCoordinatorEpoch := coordinatorEpoch
       sourceObservationEpoch := observationEpoch } : StagedState).Storable where
  observerId := rfl
  nodeId := rfl
  displayName := Nat.zero_le _
  timeBucketNs := show ¬(1000000000 : Int64).toUInt64 > maxTimestampNs by decide
  nodes := .empty
  processors := .empty
  accelerators := .empty
  memoryDomains := .empty
  coherenceDomains := .empty
  regions := .empty
  links_length := Nat.zero_le _
  links := by simp
  watermarks := .empty
  capabilities := .empty
  costModel := by simp
  aggregates_size := Nat.zero_le _
  aggregates := by simp
  history_length := fun _ => rfl
  history := by simp

/-- Seeing a section makes room for it. -/
theorem Storable.see (h : staged.Storable) (type : SectionType) :
    ({ staged with seenSections := type.raw :: staged.seenSections }).Storable :=
  { h with
    nodes := h.nodes.mono (fun _ => id) (room_mono ..)
    processors := h.processors.mono (fun _ => id) (room_mono ..)
    accelerators := h.accelerators.mono (fun _ => id) (room_mono ..)
    memoryDomains := h.memoryDomains.mono (fun _ => id) (room_mono ..)
    coherenceDomains := h.coherenceDomains.mono (fun _ => id) (room_mono ..)
    regions := h.regions.mono (fun _ => id) (room_mono ..)
    links_length := h.links_length.trans (room_mono ..)
    watermarks := h.watermarks.mono (fun _ => id) (room_mono ..)
    capabilities := h.capabilities.mono (fun _ => id) (room_mono ..)
    aggregates_size := h.aggregates_size.trans (room_mono ..)
    history_length := fun hn => h.history_length fun hm => hn (List.mem_cons_of_mem _ hm) }

/-- A section read for the first time stages storable records. -/
theorem Storable.stage (h : staged.Storable) (hseen : type.raw ∉ staged.seenSections) :
    Ensures (stageSection options
      { staged with seenSections := type.raw :: staged.seenSections } type) StagedState.Storable := by
  have hsee := h.see type
  -- nothing has been staged of a section not seen before
  have hroom (bound : Nat) := room_of_not_mem hseen bound
  have hself (bound : Nat) : bound ≤
      { staged with seenSections := type.raw :: staged.seenSections }.room type bound :=
    (room_self type bound).ge
  cases type with
  | metaInfo =>
    refine ensures_stageMeta.mono ?_
    rintro _ ⟨observer, node, display, topology, evidence, bucket, coordinator, observation,
      hobserver, hnode, hdisplay, hbucket, rfl⟩
    exact { hsee with
      observerId := hobserver, nodeId := hnode, displayName := hdisplay, timeBucketNs := hbucket }
  | nodes =>
    refine (ensures_stageTable (Filed.eq_empty (hroom _ ▸ h.nodes))
      ensures_readNode).mono ?_
    rintro _ ⟨m, hm, rfl⟩
    exact { hsee with nodes := hm.mono (fun _ => id) (hself _) }
  | processors =>
    refine (ensures_stageTable (Filed.eq_empty (hroom _ ▸ h.processors))
      ensures_readProcessor).mono ?_
    rintro _ ⟨m, hm, rfl⟩
    exact { hsee with processors := hm.mono (fun _ => id) (hself _) }
  | accelerators =>
    refine (ensures_stageTable (Filed.eq_empty (hroom _ ▸ h.accelerators))
      ensures_readAccelerator).mono ?_
    rintro _ ⟨m, hm, rfl⟩
    exact { hsee with accelerators := hm.mono (fun _ => id) (hself _) }
  | memoryDomains =>
    refine (ensures_stageTable (Filed.eq_empty (hroom _ ▸ h.memoryDomains))
      ensures_readMemoryDomain).mono ?_
    rintro _ ⟨m, hm, rfl⟩
    exact { hsee with memoryDomains := hm.mono (fun _ => id) (hself _) }
  | coherenceDomains =>
    refine (ensures_stageTable (Filed.eq_empty (hroom _ ▸ h.coherenceDomains))
      ensures_readCoherenceDomain).mono ?_
    rintro _ ⟨m, hm, rfl⟩
    exact { hsee with coherenceDomains := hm.mono (fun _ => id) (hself _) }
  | regions =>
    refine (ensures_stageTable (Filed.eq_empty (hroom _ ▸ h.regions))
      ensures_readRegion).mono ?_
    rintro _ ⟨m, hm, rfl⟩
    exact { hsee with regions := hm.mono (fun _ => id) (hself _) }
  | topology =>
    have hlinks : staged.links = [] :=
      List.length_eq_zero_iff.1 (Nat.le_zero.1 (hroom _ ▸ h.links_length))
    refine Ensures.mono (ensures_stageTopology (by exact hlinks)) ?_
    rintro _ ⟨generation, links, hlength, hlinks, rfl⟩
    exact { hsee with links_length := hlength.trans (hself _), links := hlinks }
  | publisherWatermarks =>
    refine (ensures_stageTable (Filed.eq_empty (hroom _ ▸ h.watermarks))
      ensures_readWatermark).mono ?_
    rintro _ ⟨m, hm, rfl⟩
    exact { hsee with watermarks := hm.mono (fun _ => id) (hself _) }
  | capabilities =>
    refine (ensures_stageTable (Filed.eq_empty (hroom _ ▸ h.capabilities))
      ensures_readCapability).mono ?_
    rintro _ ⟨m, hm, rfl⟩
    exact { hsee with capabilities := hm.mono (fun _ => id) (hself _) }
  | costModel =>
    refine ensures_stageCostModel.mono ?_
    rintro _ ⟨model, hmodel, rfl⟩
    exact { hsee with costModel := fun _ hm => Option.some.inj hm ▸ hmodel }
  | historicalAggregates =>
    have haggregates : staged.historicalAggregates = ∅ :=
      eq_empty_iff_size_eq_zero.2 (Nat.le_zero.1 (hroom _ ▸ h.aggregates_size))
    refine Ensures.mono (ensures_stageHistoricalAggregates (by exact haggregates)) ?_
    rintro _ ⟨m, count, hm, hsize, rfl⟩
    exact { hsee with aggregates_size := hsize.trans (hself _), aggregates := hm }
  | history =>
    refine Ensures.mono (ensures_stageHistory (by exact h.history_length hseen)) ?_
    rintro _ ⟨history, count, hhistory, rfl⟩
    exact { hsee with
      history_length := fun hn => absurd List.mem_cons_self hn
      history := hhistory }

end StagedState

/-- A section that parses was not seen before and its reader accepted it. -/
theorem parseSection_eq_ok {n : Nat} (h : parseSection options staged rest = .ok (staged', n)) :
    ∃ type : SectionType, ∃ body, type.raw ∉ staged.seenSections ∧
      (stageSection options
        { staged with seenSections := type.raw :: staged.seenSections } type).run body =
          .ok staged' := by
  iterate 5 obtain ⟨_, _, h⟩ := bind_eq_ok.1 h
  obtain ⟨_, hseen, h⟩ := bind_eq_ok.1 h
  split at h
  next => simp at h
  next type htype =>
    obtain ⟨staged'', hrun, h⟩ := bind_eq_ok.1 h
    have hraw : type.raw = getU32 rest 0 := by simpa using List.find?_some htype
    obtain rfl : staged'' = staged' := congrArg Prod.fst (Except.ok.inj h)
    rw [← hraw] at hseen hrun
    exact ⟨type, _, failIf_eq_ok.1 hseen, hrun⟩

theorem parseSections_storable (hs : staged.Storable)
    (h : parseSections options staged rest = .ok staged') : staged'.Storable := by
  induction hn : rest.length using Nat.strong_induction_on generalizing rest staged with
  | _ n ih =>
  rw [parseSections] at h
  split at h
  next => exact Except.ok.inj h ▸ hs
  next hne =>
    split at h
    next => simp at h
    next staged'' m hsection =>
      obtain ⟨type, body, hseen, hrun⟩ := parseSection_eq_ok hsection
      have hpos : 0 < rest.length := List.length_pos_iff.2 (by simpa using hne)
      refine ih _ ?_ ((hs.stage hseen).run hrun) h rfl
      simp only [List.length_drop, stateSectionHeaderSize]
      omega

/-- Everything in an accepted file is storable, and its references resolve. -/
theorem parseState_storable {data : List UInt8} (h : parseState data options = .ok staged) :
    staged.Storable ∧ checkReferences staged = .ok () := by
  obtain ⟨⟨payload, coordinatorEpoch, observationEpoch, records⟩, _, h⟩ := bind_eq_ok.1 h
  obtain ⟨staged', hsections, h⟩ := bind_eq_ok.1 h
  iterate 2 obtain ⟨_, _, h⟩ := bind_eq_ok.1 h
  obtain ⟨_, hreferences, h⟩ := bind_eq_ok.1 h
  obtain rfl : staged' = staged := Except.ok.inj h
  exact ⟨parseSections_storable (StagedState.storable_empty _ _) hsections, hreferences⟩

end CoherenceObservatory
