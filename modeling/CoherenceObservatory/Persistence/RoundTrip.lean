import CoherenceObservatory.Lib.Table
import CoherenceObservatory.Persistence.Envelope

/-!
# What a save stores, a parse reads back

For each kind of record, `Fits` says that its texts are within the bounds its writer has for
them, and `Storable` that its reader accepts it. A reading lemma connects the two: of a
record that fits, the reader takes exactly the bytes its writer produced and gives the
record back if it is storable, and fails otherwise. Not everything survives: a region comes
back marked as loaded, an aggregate with only the counts the format has.

* `reads_stageMap`, `reads_stageList`: a section is read back record by record.
-/

namespace CoherenceObservatory

open Std Codec Limits PayloadReader ExtTreeMap List

/-! ## Fields -/

theorem decodes_flag (b : Bool) : Decodes flag (PayloadWriter.bool b) b :=
  (decodes_u8 _).ret (by cases b <;> rfl)

instance : Fixed flag PayloadWriter.bool := ⟨decodes_flag⟩

theorem reads_identity {β : Type} {id : Text} {e : Error} {f : Unit → PayloadReader β}
    {bytes : List UInt8} {y : β} {q : Prop} (h : Reads (f ()) bytes y q) :
    Reads (checkIdentity id e >>= f) bytes y (IsToken id ∧ q) :=
  (Reads.check h).iff (and_congr_left' (not_not.trans validateIdentityToken_eq_ok))

variable {value : Text} {r : CoherenceDomainRecord} {link : TopologyLink} {c : Capability}
  {m : CostModel} {bound : Nat} {tooMany : String} {duplicate : Text → Error} {α : Type}

theorem decodes_name (h : value.length ≤ maxNameLength) :
    Decodes (text maxNameLength)
      (PayloadWriter.text value maxNameLength) value :=
  decodes_text h (by decide)

theorem decodes_note (h : value.length ≤ maxRegionAnnotationLength) :
    Decodes (text maxRegionAnnotationLength)
      (PayloadWriter.text value maxRegionAnnotationLength) value :=
  decodes_text h (by decide)

/-! ## Records -/

/-- The texts of a node fit. -/
structure NodeRecord.Fits (r : NodeRecord) : Prop where
  id : r.id.length ≤ maxNameLength
  displayName : r.displayName.length ≤ maxRegionAnnotationLength

/-- A node that is read back. -/
structure NodeRecord.Storable (r : NodeRecord) : Prop where
  id : IsToken r.id
  displayName : r.displayName.length ≤ maxRegionAnnotationLength

theorem NodeRecord.Storable.fits {r : NodeRecord} (h : r.Storable) : r.Fits :=
  { h with id := h.id.length_le }

theorem reads_node {r : NodeRecord} (h : r.Fits) : Reads readNode (writeNode r) r r.Storable := by
  refine Reads.iff (p := IsToken r.id ∧ True) ?_
    ⟨fun ⟨hid, _⟩ => { h with id := hid }, fun hr => ⟨hr.id, trivial⟩⟩
  unfold readNode writeNode
  rw [append_assoc]
  refine .field (decodes_name h.id) (.field (decodes_note h.displayName) ?_)
  exact .last (decodes_i64 _) (reads_identity (.pure _))

/-- The texts of a processor fit. -/
structure ProcessorRecord.Fits (r : ProcessorRecord) : Prop where
  id : r.id.length ≤ maxNameLength
  node : r.node.length ≤ maxNameLength
  localMemoryDomain : r.localMemoryDomain.length ≤ maxNameLength

/-- A processor that is read back. -/
structure ProcessorRecord.Storable (r : ProcessorRecord) : Prop where
  id : IsToken r.id
  node : r.node.length ≤ maxNameLength
  localMemoryDomain : r.localMemoryDomain.length ≤ maxNameLength
  generation : r.generation ≠ 0

theorem ProcessorRecord.Storable.fits {r : ProcessorRecord} (h : r.Storable) : r.Fits :=
  { h with id := h.id.length_le }

theorem reads_processor {r : ProcessorRecord} (h : r.Fits) :
    Reads readProcessor (writeProcessor r) r r.Storable := by
  refine Reads.iff (p := IsToken r.id ∧ ¬r.generation = 0 ∧ True) ?_
    ⟨fun ⟨hid, hg, _⟩ => { h with id := hid, generation := hg },
      fun hr => ⟨hr.id, hr.generation, trivial⟩⟩
  unfold readProcessor writeProcessor
  simp only [append_assoc]
  refine .field (decodes_name h.id) ?_
  refine .field (decodes_name h.node) ?_
  refine .field (decodes_name h.localMemoryDomain) ?_
  iterate 6 refine .next ?_
  exact .last (decodes_i64 _) (reads_identity (.check (.pure _)))

/-- The texts of an accelerator fit. -/
structure AcceleratorRecord.Fits (r : AcceleratorRecord) : Prop where
  id : r.id.length ≤ maxNameLength
  node : r.node.length ≤ maxNameLength
  vendor : r.vendor.length ≤ maxNameLength
  vendorUuid : r.vendorUuid.length ≤ maxRegionAnnotationLength
  localMemoryDomain : r.localMemoryDomain.length ≤ maxNameLength

/-- An accelerator that is read back. -/
structure AcceleratorRecord.Storable (r : AcceleratorRecord) : Prop where
  id : IsToken r.id
  node : r.node.length ≤ maxNameLength
  vendor : r.vendor.length ≤ maxNameLength
  vendorUuid : r.vendorUuid.length ≤ maxRegionAnnotationLength
  localMemoryDomain : r.localMemoryDomain.length ≤ maxNameLength
  generation : r.generation ≠ 0

theorem AcceleratorRecord.Storable.fits {r : AcceleratorRecord} (h : r.Storable) : r.Fits :=
  { h with id := h.id.length_le }

theorem reads_accelerator {r : AcceleratorRecord} (h : r.Fits) :
    Reads readAccelerator (writeAccelerator r) r r.Storable := by
  refine Reads.iff (p := IsToken r.id ∧ ¬r.generation = 0 ∧ True) ?_
    ⟨fun ⟨hid, hg, _⟩ => { h with id := hid, generation := hg },
      fun hr => ⟨hr.id, hr.generation, trivial⟩⟩
  unfold readAccelerator writeAccelerator
  simp only [append_assoc]
  refine .field (decodes_name h.id) ?_
  refine .field (decodes_name h.node) ?_
  refine .field (decodes_name h.vendor) ?_
  refine .field (decodes_note h.vendorUuid) ?_
  refine .field (decodes_name h.localMemoryDomain) ?_
  iterate 4 refine .next ?_
  exact .last (decodes_i64 _) (reads_identity (.check (.pure _)))

/-- The texts of a memory domain fit. -/
structure MemoryDomainRecord.Fits (r : MemoryDomainRecord) : Prop where
  id : r.id.length ≤ maxNameLength
  node : r.node.length ≤ maxNameLength
  coherenceDomain : r.coherenceDomain.length ≤ maxNameLength

/-- A memory domain that is read back. -/
structure MemoryDomainRecord.Storable (r : MemoryDomainRecord) : Prop where
  id : IsToken r.id
  node : r.node.length ≤ maxNameLength
  coherenceDomain : r.coherenceDomain.length ≤ maxNameLength
  generation : r.generation ≠ 0
  kind : ¬r.kind.raw > 6

theorem MemoryDomainRecord.Storable.fits {r : MemoryDomainRecord} (h : r.Storable) : r.Fits :=
  { h with id := h.id.length_le }

theorem reads_memoryDomain {r : MemoryDomainRecord} (h : r.Fits) :
    Reads readMemoryDomain (writeMemoryDomain r) r r.Storable := by
  refine Reads.iff (p := ¬r.kind.raw > 6 ∧ IsToken r.id ∧ ¬r.generation = 0 ∧ True) ?_
    ⟨fun ⟨hkind, hid, hg, _⟩ => { h with id := hid, generation := hg, kind := hkind },
      fun hr => ⟨hr.kind, hr.id, hr.generation, trivial⟩⟩
  unfold readMemoryDomain writeMemoryDomain
  simp only [append_assoc]
  refine .field (decodes_name h.id) ?_
  refine .field (decodes_name h.node) ?_
  refine .field (decodes_name h.coherenceDomain) ?_
  iterate 7 refine .next ?_
  exact .last (decodes_i64 _) (.check (reads_identity (.check (.pure _))))

/-- A reference as a coherence domain member or a link end. -/
structure ResourceRef.Storable (r : ResourceRef) : Prop where
  kind : ¬r.kind.raw > 5
  id : r.id.length ≤ maxNameLength

theorem reads_member {r : ResourceRef} (domain : Text) (h : r.id.length ≤ maxNameLength) :
    Reads (readMember domain) (writeMember r) r r.Storable := by
  refine Reads.iff (p := ¬r.kind.raw > 5 ∧ True) ?_
    ⟨fun ⟨hkind, _⟩ => ⟨hkind, h⟩, fun hr => ⟨hr.kind, trivial⟩⟩
  unfold readMember writeMember
  rw [append_assoc]
  refine .field (decodes_u8 _) (.field (decodes_name h) ?_)
  exact .last (decodes_u64 _) (.check (.pure _))

/-- The texts of a coherence domain fit. -/
structure CoherenceDomainRecord.Fits (r : CoherenceDomainRecord) : Prop where
  id : r.id.length ≤ maxNameLength
  protocolFamily : r.protocolFamily.length ≤ maxRegionAnnotationLength
  members : ∀ member ∈ r.members, member.id.length ≤ maxNameLength

/-- A coherence domain that is read back. -/
structure CoherenceDomainRecord.Storable (r : CoherenceDomainRecord) : Prop where
  id : IsToken r.id
  protocolFamily : r.protocolFamily.length ≤ maxRegionAnnotationLength
  generation : r.generation ≠ 0
  members_length : r.members.length ≤ maxTopologyLinkCount
  members : ∀ member ∈ r.members, member.Storable

theorem CoherenceDomainRecord.Storable.fits (h : r.Storable) : r.Fits :=
  { h with id := h.id.length_le, members := fun member hm => (h.members member hm).id }

theorem reads_coherenceDomain (h : r.Fits) (hlength : r.members.length < 2 ^ 64) :
    Reads readCoherenceDomain (writeCoherenceDomain r) r r.Storable := by
  have hcount : (UInt64.ofNat r.members.length).toNat = r.members.length :=
    UInt64.toNat_ofNat_of_lt' hlength
  refine Reads.iff (p := ¬r.members.length > maxTopologyLinkCount ∧
      (∀ member ∈ r.members, member.Storable) ∧ IsToken r.id ∧ ¬r.generation = 0 ∧ True) ?_
    ⟨fun ⟨hlength, hmembers, hid, hg, _⟩ =>
        { h with
          id := hid, generation := hg, members_length := Nat.not_lt.1 hlength, members := hmembers },
      fun hr => ⟨Nat.not_lt.2 hr.members_length, hr.members, hr.id, hr.generation, trivial⟩⟩
  unfold readCoherenceDomain writeCoherenceDomain
  simp only [append_assoc]
  refine .field (decodes_name h.id) ?_
  refine .field (decodes_note h.protocolFamily) ?_
  iterate 3 refine .next ?_
  rw [hcount]
  refine .check (.bind (.many fun member hm => reads_member r.id (h.members member hm)) ?_)
  rw [map_id']
  exact .last (decodes_i64 _) (reads_identity (.check (.pure _)))

/-- The texts of a region fit. -/
structure RegionRecord.Fits (r : RegionRecord) : Prop where
  id : r.id.length ≤ maxNameLength
  owner : r.owner.length ≤ maxRegionAnnotationLength
  annotationText : r.annotationText.length ≤ maxRegionAnnotationLength
  memoryDomain : r.memoryDomain.length ≤ maxNameLength
  coherenceDomain : r.coherenceDomain.length ≤ maxNameLength
  workload : r.workload.length ≤ maxNameLength

/-- A region that is read back. -/
structure RegionRecord.Storable (r : RegionRecord) : Prop where
  id : IsToken r.id
  owner : r.owner.length ≤ maxRegionAnnotationLength
  annotationText : r.annotationText.length ≤ maxRegionAnnotationLength
  memoryDomain : r.memoryDomain.length ≤ maxNameLength
  coherenceDomain : r.coherenceDomain.length ≤ maxNameLength
  workload : r.workload.length ≤ maxNameLength
  generation : r.generation ≠ 0
  sharingScope : ¬r.sharingScope.raw > 5

theorem RegionRecord.Storable.fits {r : RegionRecord} (h : r.Storable) : r.Fits :=
  { h with id := h.id.length_le }

/-- A region as it comes out of a file. -/
def RegionRecord.loaded (r : RegionRecord) : RegionRecord := { r with loadedFromState := true }

theorem reads_region {r : RegionRecord} (h : r.Fits) :
    Reads readRegion (writeRegion r) r.loaded r.Storable := by
  refine Reads.iff (p := ¬r.sharingScope.raw > 5 ∧ IsToken r.id ∧ ¬r.generation = 0 ∧ True) ?_
    ⟨fun ⟨hscope, hid, hg, _⟩ => { h with id := hid, generation := hg, sharingScope := hscope },
      fun hr => ⟨hr.sharingScope, hr.id, hr.generation, trivial⟩⟩
  unfold readRegion writeRegion
  simp only [append_assoc]
  refine .field (decodes_name h.id) ?_
  refine .field (decodes_note h.owner) ?_
  refine .field (decodes_note h.annotationText) ?_
  refine .field (decodes_name h.memoryDomain) ?_
  refine .field (decodes_name h.coherenceDomain) ?_
  refine .field (decodes_name h.workload) ?_
  iterate 12 refine .next ?_
  exact .last (decodes_i64 _) (.check (reads_identity (.check (.pure _))))

/-- The texts of a link fit. -/
structure TopologyLink.Fits (link : TopologyLink) : Prop where
  source : link.source.id.length ≤ maxNameLength
  target : link.target.id.length ≤ maxNameLength

/-- A link that is read back. -/
structure TopologyLink.Storable (link : TopologyLink) : Prop where
  source : link.source.Storable
  target : link.target.Storable
  locality : ¬link.locality.raw ≥ Locality.count
  provenance : ¬link.provenance.raw > 9

theorem TopologyLink.Storable.fits (h : link.Storable) : link.Fits :=
  ⟨h.source.id, h.target.id⟩

theorem reads_link (h : link.Fits) : Reads readLink (writeLink link) link link.Storable := by
  refine Reads.iff (p := ¬(link.source.kind.raw > 5 ∨ link.target.kind.raw > 5) ∧
      ¬link.locality.raw ≥ Locality.count ∧ ¬link.provenance.raw > 9 ∧ True) ?_
    ⟨fun ⟨hkinds, hl, hp, _⟩ =>
        have hkinds := not_or.1 hkinds
        ⟨⟨hkinds.1, h.source⟩, ⟨hkinds.2, h.target⟩, hl, hp⟩,
      fun hr => ⟨not_or.2 ⟨hr.source.kind, hr.target.kind⟩, hr.locality, hr.provenance, trivial⟩⟩
  unfold readLink writeLink
  simp only [append_assoc]
  refine .next ?_
  refine .field (decodes_name h.source) ?_
  iterate 2 refine .next ?_
  refine .field (decodes_name h.target) ?_
  iterate 4 refine .next ?_
  exact .last (decodes_u64 _) (.check (.check (.check (.pure _))))

/-- A watermark that is read back. -/
structure PublisherWatermark.Storable (w : PublisherWatermark) : Prop where
  publisher : IsToken w.publisher
  boot : w.boot ≠ 0

theorem reads_watermark {w : PublisherWatermark}
    (h : w.publisher.length ≤ maxNameLength) :
    Reads readWatermark (writeWatermark w) w w.Storable := by
  refine Reads.iff (p := IsToken w.publisher ∧ ¬w.boot = 0 ∧ True) ?_
    ⟨fun ⟨hid, hboot, _⟩ => ⟨hid, hboot⟩, fun hw => ⟨hw.publisher, hw.boot, trivial⟩⟩
  unfold readWatermark writeWatermark
  simp only [append_assoc]
  refine .field (decodes_name h) ?_
  iterate 6 refine .next ?_
  refine .last (decodes_i64 _) ?_
  refine .seq (.lift (y := w.fenceReason) (by rw [fenceReasonOf, FenceReason.ofRaw_raw])) ?_
  exact reads_identity (.check (.pure _))

/-- The texts of a capability fit. -/
structure Capability.Fits (c : Capability) : Prop where
  key : c.key.length ≤ maxNameLength
  detail : c.detail.length ≤ 512
  mechanism : c.mechanism.length ≤ 128

/-- A capability that is read back. -/
structure Capability.Storable (c : Capability) : Prop where
  key_ne : c.key ≠ []
  key : c.key.length ≤ maxNameLength
  status : ¬c.status.raw > 2
  detail : c.detail.length ≤ 512
  mechanism : c.mechanism.length ≤ 128

theorem Capability.Storable.fits (h : c.Storable) : c.Fits := { h with }

theorem reads_capability (h : c.Fits) : Reads readCapability (writeCapability c) c c.Storable := by
  refine Reads.iff (p := ¬c.status.raw > 2 ∧ ¬c.key = [] ∧ True) ?_
    ⟨fun ⟨hstatus, hne, _⟩ => { h with key_ne := hne, status := hstatus },
      fun hc => ⟨hc.status, hc.key_ne, trivial⟩⟩
  unfold readCapability writeCapability
  simp only [append_assoc]
  refine .field (decodes_name h.key) ?_
  refine .next ?_
  refine .field (decodes_text h.detail (by decide)) ?_
  exact .last (decodes_text h.mechanism (by decide)) (.check (.check (.pure _)))

/-- A cost model as it comes out of a file. -/
def CostModel.loaded (m : CostModel) : CostModel := { m with defined := true }

theorem length_id_le_of_validate (h : m.validate = .ok ()) : m.id.length ≤ 96 := by
  obtain ⟨_, _, h⟩ := bind_eq_ok.1 h
  obtain ⟨_, h, _⟩ := bind_eq_ok.1 h
  exact Nat.le_of_not_lt (failIf_eq_ok.1 h)

theorem checkStoredCostModel_eq_ok {m' : CostModel} :
    checkStoredCostModel m = .ok m' ↔ m.validate = .ok () ∧ m = m' := by
  unfold checkStoredCostModel
  split
  next h => simp [h]
  next e h => simp [h]

theorem reads_costModel (h : m.id.length ≤ 96) :
    Reads readCostModel (writeCostModel m) m.loaded (m.validate = .ok ()) := by
  refine Reads.iff (p := checkStoredCostModel m.loaded = .ok m.loaded) ?_
    (checkStoredCostModel_eq_ok.trans (and_iff_left rfl))
  unfold readCostModel writeCostModel
  simp only [append_assoc]
  refine .field (decodes_text h (by decide)) ?_
  iterate 10 refine .next ?_
  exact .last (decodes_u64 _) (.lift fun m' hm => (checkStoredCostModel_eq_ok.1 hm).2)

/-- A bucket as it comes out of a file. -/
def AggregateValue.loaded (value : AggregateValue) : AggregateValue where
  observations := value.observations
  bytes := value.bytes
  invalidations := value.invalidations
  ownershipTransfers := value.ownershipTransfers
  weakestPrecision := value.weakestPrecision
  hasObservations := value.observations != 0
  syntheticContribution := value.syntheticContribution

/-- A bucket that is read back. -/
structure StorableBucket (key : AggregateKey) (value : AggregateValue) : Prop where
  text : key.value.length ≤ maxRegionAnnotationLength
  precision : ¬value.weakestPrecision.raw > 6

theorem reads_aggregate {key : AggregateKey} {value : AggregateValue}
    (h : key.value.length ≤ maxRegionAnnotationLength) :
    Reads readAggregate (writeAggregate key value) (key, value.loaded)
      (StorableBucket key value) := by
  refine Reads.iff (p := ¬value.weakestPrecision.raw > 6 ∧ True) ?_
    ⟨fun ⟨hprecision, _⟩ => ⟨h, hprecision⟩, fun hv => ⟨hv.precision, trivial⟩⟩
  unfold readAggregate writeAggregate
  simp only [append_assoc]
  refine .next ?_
  refine .seq (.lift (y := key.dimension) (by rw [dimensionOf, AggregateDimension.ofRaw_raw])) ?_
  refine .field (decodes_note h) ?_
  iterate 5 refine .next ?_
  exact .check (.ret (decodes_flag _).reads rfl)

/-- Historical evidence that is read back. -/
structure HistoricalEvidence.Storable (r : HistoricalEvidence) : Prop where
  region : r.region.length ≤ maxNameLength
  eventType : ¬r.eventType.raw ≥ EventType.count
  precision : ¬r.precision.raw > 6
  provenance : ¬r.provenance.raw > 9

theorem reads_history {r : HistoricalEvidence} (h : r.region.length ≤ maxNameLength) :
    Reads readHistory (writeHistory r) r r.Storable := by
  refine Reads.iff (p := ¬r.eventType.raw ≥ EventType.count ∧
      ¬(r.precision.raw > 6 ∨ r.provenance.raw > 9) ∧ True) ?_
    ⟨fun ⟨htype, hclass, _⟩ =>
        have hclass := not_or.1 hclass
        ⟨h, htype, hclass.1, hclass.2⟩,
      fun hr => ⟨hr.eventType, not_or.2 ⟨hr.precision, hr.provenance⟩, trivial⟩⟩
  unfold readHistory writeHistory
  simp only [append_assoc]
  refine .field (decodes_name h) ?_
  iterate 6 refine .next ?_
  exact .last (decodes_u64 _) (.check (.check (.pure _)))

/-! ## Sections -/

section

variable {κ α β : Type} [Ord κ] [TransOrd κ]

variable {write : κ × α → List UInt8} {read : PayloadReader (κ × β)} {f : κ → α → β}
  {P : κ → α → Prop}

/-- Entries with distinct keys are read back one by one, each as `f` of what was stored. -/
theorem reads_stageEntries {l : List (κ × α)} {duplicate : κ → Error}
    (hkeys : l.Pairwise fun a b => ¬compare a.1 b.1 = .eq) (hlength : l.length < 2 ^ 64)
    (h : ∀ e ∈ l, Reads read (write e) (e.1, f e.1 e.2) (P e.1 e.2)) :
    Reads (stageMap ∅ bound tooMany read duplicate) (writeCounted write l)
      (UInt64.ofNat l.length, l.foldl (fun t e => t.insert e.1 (f e.1 e.2)) ∅)
      (l.length ≤ bound ∧ ∀ e ∈ l, P e.1 e.2) := by
  have hcount : (UInt64.ofNat l.length).toNat = l.length := UInt64.toNat_ofNat_of_lt' hlength
  refine Reads.iff (p := ¬l.length > bound ∧ ∀ e ∈ l, P e.1 e.2) ?_ (and_congr_left' Nat.not_lt)
  unfold stageMap writeCounted
  refine .next ?_
  rw [hcount]
  -- the keys still to come are distinct and not yet in the map that is being built
  refine .check (.ret (.iterate (g := fun t e => t.insert e.1 (f e.1 e.2))
    (fun t l' => l'.Pairwise (fun a b => ¬compare a.1 b.1 = .eq) ∧
      ∀ e ∈ l', e ∈ l ∧ e.1 ∉ t) ?_ l ∅ ?_) rfl)
  · rintro t ⟨k, r⟩ l' ⟨hkeys, hl⟩
    rw [pairwise_cons] at hkeys
    obtain ⟨hk, hnew⟩ := hl (k, r) mem_cons_self
    have hentry := h (k, r) hk
    refine ⟨?_, hkeys.2, fun e he => ?_⟩
    · refine Reads.iff (p := P k r ∧ k ∉ t ∧ True) ?_
        ⟨fun hp => hp.1, fun hp => ⟨hp, hnew, trivial⟩⟩
      rw [← append_nil (write (k, r))]
      refine .bind hentry ?_
      exact .check (.pure _)
    · obtain ⟨hel, hnew'⟩ := hl e (mem_cons_of_mem _ he)
      exact ⟨hel, fun hmem => (mem_insert.1 hmem).elim (hkeys.1 e he) hnew'⟩
  · exact ⟨hkeys, fun e he => ⟨he, not_mem_empty⟩⟩

variable [LawfulEqOrd κ]

/-- A map is read back entry by entry. -/
theorem reads_stageMap {m : ExtTreeMap κ α} {duplicate : κ → Error} (hsize : m.size < 2 ^ 64)
    (h : ∀ k r, m[k]? = some r → Reads read (write (k, r)) (k, f k r) (P k r)) :
    Reads (stageMap ∅ bound tooMany read duplicate) (writeMap write m)
      (UInt64.ofNat m.size, m.map f) (m.size ≤ bound ∧ ∀ k r, m[k]? = some r → P k r) := by
  have hlength : m.toList.length = m.size := length_toList
  rw [← foldl_insert_toList m f, ← hlength]
  refine (reads_stageEntries distinct_keys_toList (by rwa [hlength]) fun e he =>
    h e.1 e.2 (mem_toList_iff_getElem?_eq_some.1 he)).iff (and_congr_right' ?_)
  exact ⟨fun hl k r hr => hl (k, r) (mem_toList_iff_getElem?_eq_some.2 hr),
    fun hm e he => hm e.1 e.2 (mem_toList_iff_getElem?_eq_some.1 he)⟩

end

variable {keyOf : α → Text} {F P : α → Prop} {read : PayloadReader α} {write : α → List UInt8}

/-- A table of records is read back, each record as `f` of what was stored. -/
theorem reads_filed {m : ExtTreeMap Text α} {f : α → α} (hm : Filed keyOf F (2 ^ 64 - 1) m)
    (hread : ∀ r, F r → Reads read (write r) (f r) (P r)) (hkey : ∀ r, keyOf (f r) = keyOf r) :
    Reads (stageMap ∅ bound tooMany (keyed keyOf read) duplicate)
      (writeMap (fun e => write e.2) m) (UInt64.ofNat m.size, m.map fun _ r => f r)
      (Filed keyOf P bound m) := by
  refine (reads_stageMap (P := fun _ => P) (Nat.lt_of_le_of_lt hm.size_le (by decide))
    fun k r hr => (hread r (hm.valid hr)).ret (by rw [hkey, hm.key_eq hr])).iff ?_
  exact ⟨fun h => ⟨hm.key_eq, fun hr => h.2 _ _ hr, h.1⟩, fun h => ⟨h.size_le, fun _ _ => h.valid⟩⟩

/-- The same for records that come back unchanged. -/
theorem reads_filed_self {m : ExtTreeMap Text α} (hm : Filed keyOf F (2 ^ 64 - 1) m)
    (hread : ∀ r, F r → Reads read (write r) r (P r)) :
    Reads (stageMap ∅ bound tooMany (keyed keyOf read) duplicate)
      (writeMap (fun e => write e.2) m) (UInt64.ofNat m.size, m) (Filed keyOf P bound m) := by
  have h : Reads (stageMap ∅ bound tooMany (keyed keyOf read) duplicate)
      (writeMap (fun e => write e.2) m) (UInt64.ofNat m.size, m.map fun _ r => id r)
      (Filed keyOf P bound m) := reads_filed hm hread fun _ => rfl
  rwa [show (m.map fun _ r => id r) = m from map_id] at h

theorem reads_stageList {l : List α} (hlength : l.length < 2 ^ 64)
    (h : ∀ r ∈ l, Reads read (write r) r (P r)) :
    Reads (stageList bound tooMany read) (writeCounted write l) (UInt64.ofNat l.length, l)
      (l.length ≤ bound ∧ ∀ r ∈ l, P r) := by
  have hcount : (UInt64.ofNat l.length).toNat = l.length := UInt64.toNat_ofNat_of_lt' hlength
  refine Reads.iff (p := ¬l.length > bound ∧ ∀ r ∈ l, P r) ?_ (and_congr_left' Nat.not_lt)
  unfold stageList writeCounted
  refine .next ?_
  rw [hcount]
  refine .check (.ret (.many h) ?_)
  rw [map_id']

section

variable {options : PersistenceOptions} {staged st : StagedState}

/-- Reading the body of a section of one table, as a save writes it. -/
theorem stageTable_run {α : Type} {keyOf : α → Text} {F P : α → Prop} {read : PayloadReader α}
    {write : α → List UInt8} {table m : ExtTreeMap Text α} {bound : Nat}
    {tooMany duplicate : String} {put : ExtTreeMap Text α → StagedState} (hs : table = ∅)
    (h : Filed keyOf F (2 ^ 64 - 1) m) (hread : ∀ r, F r → Reads read (write r) r (P r)) :
    (stageTable table bound tooMany keyOf read duplicate put).run
          (writeMap (fun e => write e.2) m) = .ok st ↔
      Filed keyOf P bound m ∧ put m = st := by
  rw [stageTable, hs]
  exact (Settles.last (reads_filed_self h hread) .exhausted).run

theorem stageRegions_run {m : ExtTreeMap Text RegionRecord} (hs : staged.regions = ∅)
    (h : Filed RegionRecord.id RegionRecord.Fits (2 ^ 64 - 1) m) :
    (stageSection options staged .regions).run (writeMap (fun e => writeRegion e.2) m) =
        .ok st ↔
      Filed RegionRecord.id RegionRecord.Storable maxRegionCount m ∧
        { staged with regions := m.map fun _ => RegionRecord.loaded } = st := by
  rw [stageSection, stageRegions, stageTable, hs]
  exact (Settles.last (reads_filed h (fun _ => reads_region) fun _ => rfl) .exhausted).run

theorem stageTopology_run {links : List TopologyLink} (generation : TopologyGeneration)
    (hs : staged.links = []) (hlength : links.length < 2 ^ 64)
    (h : ∀ link ∈ links, link.Fits) :
    (stageSection options staged .topology).run
          (PayloadWriter.u64 generation ++ writeCounted writeLink links) = .ok st ↔
      (links.length ≤ maxTopologyLinkCount ∧ ∀ link ∈ links, link.Storable) ∧
        { staged with topologyGeneration := generation, links } = st := by
  rw [stageSection, stageTopology, hs]
  exact (Settles.field (decodes_u64 _)
    (.last (reads_stageList hlength fun link hl => reads_link (h link hl)) .exhausted)).run

theorem stageCostModel_run {model : CostModel} (h : model.id.length ≤ 96) :
    (stageSection options staged .costModel).run (writeCostModel model) = .ok st ↔
      model.validate = .ok () ∧ { staged with costModel := some model.loaded } = st :=
  (Settles.last (reads_costModel h) .exhausted).run

theorem stageHistory_run {l : List HistoricalEvidence} (hs : staged.history = [])
    (hlength : l.length < 2 ^ 64) (h : ∀ r ∈ l, r.region.length ≤ maxNameLength) :
    (stageSection options staged .history).run (writeCounted writeHistory l) = .ok st ↔
      (l.length ≤ options.maxHistoryRecords ∧ ∀ r ∈ l, r.Storable) ∧
        { staged with
          history := l
          recordCount := staged.recordCount + UInt64.ofNat l.length } = st := by
  rw [stageSection, stageHistory, hs]
  exact (Settles.last (reads_stageList hlength fun r hr => reads_history (h r hr)) .exhausted).run

theorem stageHistoricalAggregates_run {l : List (AggregateKey × AggregateValue)}
    (hs : staged.historicalAggregates = ∅)
    (hkeys : l.Pairwise fun a b => ¬compare a.1 b.1 = .eq) (hlength : l.length < 2 ^ 64)
    (h : ∀ e ∈ l, e.1.value.length ≤ maxRegionAnnotationLength) :
    (stageSection options staged .historicalAggregates).run
          (writeCounted (fun e => writeAggregate e.1 e.2) l) = .ok st ↔
      (l.length ≤ maxHistoryAggregates ∧ ∀ e ∈ l, StorableBucket e.1 e.2) ∧
        { staged with
          historicalAggregates := l.foldl (fun t e => t.insert e.1 e.2.loaded) ∅
          recordCount := staged.recordCount + UInt64.ofNat l.length } = st := by
  rw [stageSection, stageHistoricalAggregates, hs]
  exact (Settles.last (reads_stageEntries (f := fun _ => AggregateValue.loaded) hkeys hlength
    fun e he => reads_aggregate (h e he)) .exhausted).run

/-- The texts of the options a save writes. -/
structure ObservatoryOptions.Fits (o : ObservatoryOptions) : Prop where
  observerId : o.observerId.length ≤ maxNameLength
  nodeId : o.nodeId.length ≤ maxNameLength
  displayName : o.displayName.length ≤ maxRegionAnnotationLength
  costModel : o.costModel.id.length ≤ 96

theorem length_le_of_checkOptionalToken {token : Text} (h : checkOptionalToken token = .ok ()) :
    token.length ≤ maxNameLength := by
  unfold checkOptionalToken at h
  split at h
  next hnil => simp [hnil]
  next => exact (validateIdentityToken_eq_ok.1 h).length_le

theorem stageMeta_run {s : State} (h : s.options.Fits) :
    (stageSection options staged .metaInfo).run (writeMeta s) = .ok st ↔
      (checkOptionalToken s.options.observerId = .ok () ∧
        checkOptionalToken s.options.nodeId = .ok () ∧
        ¬s.options.timeBucketNs.toUInt64 > maxTimestampNs) ∧
        { staged with
          hasMeta := true
          observerId := s.options.observerId
          nodeId := s.options.nodeId
          displayName := s.options.displayName
          topologyGeneration := s.topologyGeneration
          evidenceGeneration := s.evidenceGeneration
          timeBucketNs := s.options.timeBucketNs
          sourceCoordinatorEpoch := s.coordinatorEpoch
          sourceObservationEpoch := s.observationEpoch } = st := by
  have hlift {token : Text} : Reads (Reader.lift (checkOptionalToken token)) [] ()
      (checkOptionalToken token = .ok ()) := .lift fun _ _ => rfl
  rw [stageSection, stageMeta, writeMeta]
  simp only [append_assoc]
  refine Settles.run (.iff (p := ¬(1 : UInt32) ≠ 1 ∧ checkOptionalToken s.options.observerId = .ok () ∧
    checkOptionalToken s.options.nodeId = .ok () ∧
    ¬s.options.timeBucketNs.toUInt64 > maxTimestampNs ∧ True) ?_ (by simp))
  refine .field (decodes_u32 _) (.check ?_)
  refine .field (decodes_name h.observerId) ?_
  refine .field (decodes_name h.nodeId) ?_
  refine .field (decodes_note h.displayName) ?_
  iterate 4 refine .next ?_
  refine .lastField (decodes_u64 _) ?_
  exact .bind hlift (.bind hlift (.check .exhausted))

end

end CoherenceObservatory
