import CoherenceObservatory.Persistence.RoundTrip

/-!
# Saved states

`Encodable` is what a state must satisfy for its save to be read back section by section:
its records are within the bounds of the format and filed under their own keys, and its
tables are within theirs. A save of such a state parses to exactly what was stored
(`stagedOf`), up to the references between sections, which the parser checks last.
-/

namespace CoherenceObservatory

open Std Codec Limits ExtTreeMap List

/-! ## Sizes -/

/-- A byte string has at most `n` bytes, by its parts. -/
class AtMost (bytes : List UInt8) (n : outParam Nat) : Prop where
  length_le : bytes.length ≤ n

namespace AtMost

open PayloadWriter

instance {value : UInt8} : AtMost (u8 value) 1 := ⟨(length_u8 value).le⟩
instance {value : Bool} : AtMost (bool value) 1 := ⟨(length_bool value).le⟩
instance {value : UInt32} : AtMost (u32 value) 4 := ⟨(length_u32 value).le⟩
instance {value : UInt64} : AtMost (u64 value) 8 := ⟨(length_u64 value).le⟩
instance {value : Int64} : AtMost (i64 value) 8 := ⟨(length_i64 value).le⟩

instance {value : Text} {maxLength : Nat} : AtMost (text value maxLength) (4 + maxLength) :=
  ⟨length_text_le value maxLength⟩

instance {a b : List UInt8} {m n : Nat} [ha : AtMost a m] [hb : AtMost b n] :
    AtMost (a ++ b) (m + n) :=
  ⟨length_append.trans_le (Nat.add_le_add ha.length_le hb.length_le)⟩

theorem le {a : List UInt8} {m n : Nat} [h : AtMost a m] (hn : m ≤ n) : a.length ≤ n :=
  h.length_le.trans hn

end AtMost

theorem length_writeNode (r : NodeRecord) : (writeNode r).length ≤ 176 := by
  unfold writeNode
  exact AtMost.le (by decide)

theorem length_writeProcessor (r : ProcessorRecord) : (writeProcessor r).length ≤ 234 := by
  unfold writeProcessor
  exact AtMost.le (by decide)

theorem length_writeAccelerator (r : AcceleratorRecord) : (writeAccelerator r).length ≤ 391 := by
  unfold writeAccelerator
  exact AtMost.le (by decide)

theorem length_writeMemoryDomain (r : MemoryDomainRecord) : (writeMemoryDomain r).length ≤ 233 := by
  unfold writeMemoryDomain
  exact AtMost.le (by decide)

theorem length_writeMember (r : ResourceRef) : (writeMember r).length ≤ 77 := by
  unfold writeMember
  exact AtMost.le (by decide)

variable {α : Type} {bound count : Nat} {s : State} {options : PersistenceOptions}
  {staged : StagedState}

theorem length_flatMap_le {write : α → List UInt8} (l : List α)
    (h : ∀ r ∈ l, (write r).length ≤ bound) : (l.flatMap write).length ≤ l.length * bound := by
  induction l with
  | nil => simp
  | cons r l ih =>
    rw [forall_mem_cons] at h
    rw [flatMap_cons, length_append, length_cons, Nat.succ_mul]
    have := ih h.2
    omega

theorem length_writeCoherenceDomain {r : CoherenceDomainRecord}
    (h : r.members.length ≤ maxTopologyLinkCount) : (writeCoherenceDomain r).length ≤ 315585 := by
  have hmembers : AtMost (r.members.flatMap writeMember) (4096 * 77) :=
    ⟨(length_flatMap_le r.members fun member _ => length_writeMember member).trans
      (Nat.mul_le_mul_right 77 h)⟩
  unfold writeCoherenceDomain
  exact AtMost.le (by decide)

theorem length_writeRegion (r : RegionRecord) : (writeRegion r).length ≤ 548 := by
  unfold writeRegion
  exact AtMost.le (by decide)

theorem length_writeLink (link : TopologyLink) : (writeLink link).length ≤ 172 := by
  unfold writeLink
  exact AtMost.le (by decide)

theorem length_writeWatermark (w : PublisherWatermark) : (writeWatermark w).length ≤ 103 := by
  unfold writeWatermark
  exact AtMost.le (by decide)

theorem length_writeCapability (c : Capability) : (writeCapability c).length ≤ 717 := by
  unfold writeCapability
  exact AtMost.le (by decide)

theorem length_writeCostModel (m : CostModel) : (writeCostModel m).length ≤ 184 := by
  unfold writeCostModel
  exact AtMost.le (by decide)

theorem length_writeAggregate (key : AggregateKey) (value : AggregateValue) :
    (writeAggregate key value).length ≤ 135 := by
  unfold writeAggregate
  exact AtMost.le (by decide)

theorem length_writeHistory (r : HistoricalEvidence) : (writeHistory r).length ≤ 103 := by
  unfold writeHistory
  exact AtMost.le (by decide)

theorem length_writeMeta (s : State) : (writeMeta s).length ≤ 280 := by
  unfold writeMeta
  exact AtMost.le (by decide)

theorem length_writeCounted_le (write : α → List UInt8) {l : List α}
    (h : ∀ r ∈ l, (write r).length ≤ bound) (hcount : l.length ≤ count) :
    (writeCounted write l).length ≤ 8 + count * bound := by
  have := length_flatMap_le l h
  have := Nat.mul_le_mul_right bound hcount
  rw [writeCounted, length_append, PayloadWriter.length_u64]
  omega

theorem length_writeMap_le {κ : Type} [Ord κ] [TransOrd κ] (write : κ × α → List UInt8)
    {m : ExtTreeMap κ α} (h : ∀ e ∈ m.toList, (write e).length ≤ bound) (hcount : m.size ≤ count) :
    (writeMap write m).length ≤ 8 + count * bound :=
  length_writeCounted_le write h (by rwa [length_toList])

theorem length_table_le {m : ExtTreeMap Text α} {keyOf : α → Text} {P : α → Prop}
    {write : α → List UInt8} (hm : Filed keyOf P count m) (h : ∀ r, P r → (write r).length ≤ bound) :
    (writeMap (fun e => write e.2) m).length ≤ 8 + count * bound :=
  length_writeMap_le _ (fun e he =>
    h e.2 (hm.valid (mem_toList_iff_getElem?_eq_some.1 he))) hm.size_le

/-! ## States within the bounds of the format -/

/-- The records and options of a state are within the bounds of the format. -/
structure Structured (s : State) : Prop where
  observerId : checkOptionalToken s.options.observerId = .ok ()
  nodeId : checkOptionalToken s.options.nodeId = .ok ()
  displayName : s.options.displayName.length ≤ maxRegionAnnotationLength
  timeBucketNs : ¬s.options.timeBucketNs.toUInt64 > maxTimestampNs
  nodes : Filed NodeRecord.id NodeRecord.Storable maxNodeCount s.nodes
  processors :
    Filed ProcessorRecord.id ProcessorRecord.Storable maxProcessorCount s.processors
  accelerators :
    Filed AcceleratorRecord.id AcceleratorRecord.Storable maxAcceleratorCount s.accelerators
  memoryDomains : Filed MemoryDomainRecord.id MemoryDomainRecord.Storable
    maxMemoryDomainCount s.memoryDomains
  coherenceDomains : Filed CoherenceDomainRecord.id CoherenceDomainRecord.Storable
    maxCoherenceDomainCount s.coherenceDomains
  regions : Filed RegionRecord.id RegionRecord.Storable maxRegionCount s.regions
  links_length : s.topology.links.length ≤ maxTopologyLinkCount
  links : ∀ link ∈ s.topology.links, link.Storable
  capabilities : Filed Capability.key Capability.Storable maxStoredCapabilities s.capabilities
  costModel : s.options.costModel.validate = .ok ()
  aggregates_size : s.historicalAggregates.buckets.size ≤ maxHistoryAggregates
  aggregates : ∀ k v, s.historicalAggregates.buckets[k]? = some v → StorableBucket k v
  history : ∀ r ∈ s.history, r.Storable

/-- So is the table of watermarks a save stores. -/
structure Encodable (s : State) : Prop extends Structured s where
  watermarks : Filed (fun w => bootKey w.publisher w.boot) PublisherWatermark.Storable
    maxPublisherWatermarks (storedWatermarks s)

/-- What the save of an encodable state parses to. -/
def stagedOf (s : State) : StagedState where
  hasMeta := true
  observerId := s.options.observerId
  nodeId := s.options.nodeId
  displayName := s.options.displayName
  topologyGeneration := s.topologyGeneration
  evidenceGeneration := s.evidenceGeneration
  timeBucketNs := s.options.timeBucketNs
  sourceCoordinatorEpoch := s.coordinatorEpoch
  sourceObservationEpoch := s.observationEpoch
  nodes := s.nodes
  processors := s.processors
  accelerators := s.accelerators
  memoryDomains := s.memoryDomains
  coherenceDomains := s.coherenceDomains
  regions := s.regions.map fun _ => RegionRecord.loaded
  links := s.topology.links
  watermarks := storedWatermarks s
  capabilities := s.capabilities
  costModel := some s.options.costModel.loaded
  historicalAggregates := s.historicalAggregates.buckets.map fun _ => AggregateValue.loaded
  history := storedHistory s {}
  seenSections := SectionType.all.reverse.map SectionType.raw
  recordCount := 0 + UInt64.ofNat s.historicalAggregates.buckets.size +
    UInt64.ofNat (storedHistory s {}).length

/-- The default bound leaves room for all the history a state can have. -/
theorem storedAggregates_eq (h : s.historicalAggregates.buckets.size ≤ maxHistoryAggregates) :
    storedAggregates s {} = s.historicalAggregates.buckets.toList := by
  have : s.historicalAggregates.buckets.toList.length ≤ 8192 := by
    rw [length_toList]
    exact h.trans (by decide)
  exact take_of_length_le this

namespace Encodable

variable {s : State}

/-- The largest bodies of the thirteen sections together. -/
theorem sum_bodies_le {a b c d e f g i j k l m n : Nat} (ha : a ≤ 280) (hb : b ≤ 8 + 64 * 176)
    (hc : c ≤ 8 + 1024 * 234) (hd : d ≤ 8 + 256 * 391) (he : e ≤ 8 + 256 * 233)
    (hf : f ≤ 8 + 256 * 315585) (hg : g ≤ 8 + 100000 * 548) (hi : i ≤ 8 + 4096 * 172)
    (hj : j ≤ 8 + 256 * 103) (hk : k ≤ 8 + 256 * 717) (hl : l ≤ 184) (hm : m ≤ 8 + 4096 * 135)
    (hn : n ≤ 8 + 8192 * 103) : [a, b, c, d, e, f, g, 8 + i, j, k, l, m, n].sum ≤ 140000000 := by
  simp only [sum_cons, sum_nil]
  linarith

theorem length_bodies (h : Encodable s) :
    ((savedSections s {}).map fun e => e.2.length).sum ≤ 140000000 := by
  rw [savedSections, historySections, storedAggregates_eq h.aggregates_size]
  simp only [if_true, cons_append, nil_append, map_cons, map_nil,
    length_append, PayloadWriter.length_u64]
  exact sum_bodies_le (length_writeMeta s) (length_table_le h.nodes fun r _ => length_writeNode r)
    (length_table_le h.processors fun r _ => length_writeProcessor r)
    (length_table_le h.accelerators fun r _ => length_writeAccelerator r)
    (length_table_le h.memoryDomains fun r _ => length_writeMemoryDomain r)
    (length_table_le h.coherenceDomains fun _ hr => length_writeCoherenceDomain hr.members_length)
    (length_table_le h.regions fun r _ => length_writeRegion r)
    (length_writeCounted_le writeLink (fun link _ => length_writeLink link) h.links_length)
    (length_table_le h.watermarks fun w _ => length_writeWatermark w)
    (length_table_le h.capabilities fun c _ => length_writeCapability c)
    (length_writeCostModel s.options.costModel)
    (length_writeMap_le _ (fun e _ => length_writeAggregate e.1 e.2) h.aggregates_size)
    (length_writeCounted_le writeHistory (fun r _ => length_writeHistory r)
      (length_take_le _ _))

/-- The payload of such a save stays below the file size bound. -/
theorem length_payload_le (h : Encodable s) :
    ((savedSections s {}).flatMap fun e => buildSection e.1 e.2).length ≤ 140000260 := by
  have hsum (l : List (SectionType × List UInt8)) :
      (l.flatMap fun e => buildSection e.1 e.2).length =
        (l.map fun e => e.2.length).sum + l.length * 20 := by
    induction l with
    | nil => rfl
    | cons e l ih =>
      rw [flatMap_cons, length_append, ih, length_buildSection, map_cons,
        sum_cons, length_cons]
      omega
  have hcount : (savedSections s {}).length = 13 := rfl
  have hbodies := h.length_bodies
  rw [hsum, hcount]
  omega

end Encodable

theorem stageAll_cons {st : StagedState} {type : SectionType} {body : List UInt8}
    {sections : List (SectionType × List UInt8)} :
    stageAll options staged ((type, body) :: sections) = .ok st ↔
      type.raw ∉ staged.seenSections ∧ ∃ staged', (stageSection options
          { staged with seenSections := type.raw :: staged.seenSections } type).run body =
            .ok staged' ∧ stageAll options staged' sections = .ok st := by
  rw [stageAll]
  constructor
  · intro h
    obtain ⟨_, hseen, h⟩ := bind_eq_ok.1 h
    exact ⟨failIf_eq_ok.1 hseen, bind_eq_ok.1 h⟩
  · rintro ⟨hseen, h⟩
    exact bind_eq_ok.2 ⟨(), failIf_eq_ok.2 hseen, bind_eq_ok.2 h⟩

/-- One more section, of a type that was not seen. -/
theorem stage_next {st staged' : StagedState} {type : SectionType} {body : List UInt8}
    {sections : List (SectionType × List UInt8)}
    (hrun : (stageSection options { staged with seenSections := type.raw :: staged.seenSections }
      type).run body = .ok staged') (hrest : stageAll options staged' sections = .ok st)
    (hseen : type.raw ∉ staged.seenSections := by simp [SectionType.raw]) :
    stageAll options staged ((type, body) :: sections) = .ok st :=
  stageAll_cons.2 ⟨hseen, staged', hrun, hrest⟩

/-- The historical aggregates are stored as a whole. -/
theorem Encodable.stageAggregates_run (h : Encodable s) (hs : staged.historicalAggregates = ∅) :
    (stageSection options staged .historicalAggregates).run
        (writeCounted (fun e => writeAggregate e.1 e.2) s.historicalAggregates.buckets.toList) =
      .ok { staged with
        historicalAggregates := s.historicalAggregates.buckets.map fun _ => AggregateValue.loaded
        recordCount :=
          staged.recordCount + UInt64.ofNat s.historicalAggregates.buckets.size } := by
  have hcount : s.historicalAggregates.buckets.toList.length =
      s.historicalAggregates.buckets.size := length_toList
  have hsize := hcount.trans_le h.aggregates_size
  have hbuckets : ∀ e ∈ s.historicalAggregates.buckets.toList, StorableBucket e.1 e.2 := fun e he =>
    h.aggregates e.1 e.2 (mem_toList_iff_getElem?_eq_some.1 he)
  rw [stageHistoricalAggregates_run hs distinct_keys_toList
    (Nat.lt_of_le_of_lt hsize (by decide)) fun e he => (hbuckets e he).text]
  refine ⟨⟨hsize, hbuckets⟩, ?_⟩
  rw [hcount, foldl_insert_toList _ fun _ => AggregateValue.loaded]

/-- The sections of a save stage exactly what was stored. -/
theorem Encodable.stageAll_savedSections (h : Encodable s) :
    stageAll {} { sourceCoordinatorEpoch := s.coordinatorEpoch
                  sourceObservationEpoch := s.observationEpoch } (savedSections s {}) =
      .ok (stagedOf s) := by
  have hoptions : s.options.Fits :=
    { observerId := length_le_of_checkOptionalToken h.observerId
      nodeId := length_le_of_checkOptionalToken h.nodeId
      displayName := h.displayName
      costModel := length_id_le_of_validate h.costModel }
  have haggregates := storedAggregates_eq h.aggregates_size
  have hlength : (storedHistory s {}).length ≤ maxHistoryRecords := length_take_le _ _
  have hdomains : Filed CoherenceDomainRecord.id (fun r => r.Fits ∧ r.members.length < 2 ^ 64)
      (2 ^ 64 - 1) s.coherenceDomains :=
    h.coherenceDomains.mono
      (fun _ hr => ⟨hr.fits, Nat.lt_of_le_of_lt hr.members_length (by decide)⟩) (by decide)
  rw [savedSections, historySections, haggregates]
  simp only [if_true, cons_append, nil_append]
  refine stage_next ((stageMeta_run hoptions).2 ⟨⟨h.observerId, h.nodeId, h.timeBucketNs⟩, rfl⟩) ?_
  refine stage_next ((stageTable_run rfl (h.nodes.mono (fun _ hr => hr.fits) (by decide))
    fun _ => reads_node).2 ⟨h.nodes, rfl⟩) ?_
  refine stage_next ((stageTable_run rfl
    (h.processors.mono (fun _ hr => hr.fits) (by decide)) fun _ => reads_processor).2
    ⟨h.processors, rfl⟩) ?_
  refine stage_next ((stageTable_run rfl
    (h.accelerators.mono (fun _ hr => hr.fits) (by decide)) fun _ => reads_accelerator).2
    ⟨h.accelerators, rfl⟩) ?_
  refine stage_next ((stageTable_run rfl
    (h.memoryDomains.mono (fun _ hr => hr.fits) (by decide)) fun _ => reads_memoryDomain).2
    ⟨h.memoryDomains, rfl⟩) ?_
  refine stage_next ((stageTable_run rfl hdomains fun _ hr => reads_coherenceDomain hr.1 hr.2).2
    ⟨h.coherenceDomains, rfl⟩) ?_
  refine stage_next ((stageRegions_run rfl (h.regions.mono (fun _ hr => hr.fits) (by decide))).2
    ⟨h.regions, rfl⟩) ?_
  refine stage_next ((stageTopology_run _ rfl (Nat.lt_of_le_of_lt h.links_length (by decide))
    fun link hl => (h.links link hl).fits).2 ⟨⟨h.links_length, h.links⟩, rfl⟩) ?_
  refine stage_next ((stageTable_run rfl
    (h.watermarks.mono (fun _ hw => hw.publisher.length_le) (by decide)) fun _ => reads_watermark).2
    ⟨h.watermarks, rfl⟩) ?_
  refine stage_next ((stageTable_run rfl
    (h.capabilities.mono (fun _ hc => hc.fits) (by decide)) fun _ => reads_capability).2
    ⟨h.capabilities, rfl⟩) ?_
  refine stage_next ((stageCostModel_run hoptions.costModel).2 ⟨h.costModel, rfl⟩) ?_
  refine stage_next (h.stageAggregates_run rfl) ?_
  refine stage_next ((stageHistory_run rfl (Nat.lt_of_le_of_lt hlength (by decide))
    fun r hr => (h.history r (mem_of_mem_take hr)).region).2
    ⟨⟨hlength, fun r hr => h.history r (mem_of_mem_take hr)⟩, rfl⟩) ?_
  rfl

/-- Parsing the save of an encodable state is a matter of references only. -/
theorem parseState_saveState (h : Encodable s) :
    parseState (saveState s) = (do checkReferences (stagedOf s); return stagedOf s) := by
  have hrecords : ¬UInt64.ofNat (storedRecords s {}) ≠ (stagedOf s).recordCount := by
    have : storedRecords s {} = (storedHistory s {}).length +
        s.historicalAggregates.buckets.size := by
      rw [storedRecords, storedAggregates_eq h.aggregates_size, length_toList, if_pos rfl]
    rw [not_not, this, UInt64.ofNat_add, UInt64.add_comm, stagedOf, UInt64.zero_add]
  have hbodies : ∀ e ∈ savedSections s {}, e.2.length + 4 < 2 ^ 64 := by
    intro e he
    have := single_le_sum (fun _ _ => Nat.zero_le _) _
      (mem_map_of_mem (f := fun e : SectionType × List UInt8 => e.2.length) he)
    have := h.length_bodies
    omega
  have hlength := h.length_payload_le
  rw [parseState, saveState, openState_sealState _ _ _ (hlength.trans (by decide)) (by omega)]
  dsimp only [ok_bind]
  rw [parseSections_buildSection _ _ _ hbodies, h.stageAll_savedSections, ok_bind]
  refine (failIf_bind (p := ¬(stagedOf s).hasMeta) (by simp [stagedOf])).trans ?_
  exact failIf_bind hrecords

end CoherenceObservatory
