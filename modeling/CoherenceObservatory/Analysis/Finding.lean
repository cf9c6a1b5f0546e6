import CoherenceObservatory.Analysis.Region

/-!
# Findings

What an analysis reports of a subject: the reasons, the metrics behind them, the evidence and
what the evidence could not supply. The analyses do not set the identifier of a finding, its
ambiguities and its mark of history; these fields are left out.
-/

namespace CoherenceObservatory

open Std List

/-- `FindingKind`. -/
inductive FindingKind
  | hotspot | pingPong | falseSharingLike | invalidationBurst | remoteAccessConcentration
  | counterDiscontinuity | sequenceGap | evidenceLoss | staleEvidence | capacityPressure
  | publisherLoss | unsupportedObservability
  deriving DecidableEq

/-- `to_string`. -/
def FindingKind.toText : FindingKind → Text
  | .hotspot => ascii "HOTSPOT"
  | .pingPong => ascii "PING_PONG"
  | .falseSharingLike => ascii "FALSE_SHARING_LIKE"
  | .invalidationBurst => ascii "INVALIDATION_BURST"
  | .remoteAccessConcentration => ascii "REMOTE_ACCESS_CONCENTRATION"
  | .counterDiscontinuity => ascii "COUNTER_DISCONTINUITY"
  | .sequenceGap => ascii "SEQUENCE_GAP"
  | .evidenceLoss => ascii "EVIDENCE_LOSS"
  | .staleEvidence => ascii "STALE_EVIDENCE"
  | .capacityPressure => ascii "CAPACITY_PRESSURE"
  | .publisherLoss => ascii "PUBLISHER_LOSS"
  | .unsupportedObservability => ascii "UNSUPPORTED_OBSERVABILITY"

/-- How strongly behaviour like false sharing is supported. -/
inductive ContentionClass
  | none | cacheLineFalseSharingSupported | regionContentionLikely | pageLevelContention
  | insufficientGranularity
  deriving DecidableEq

/-- A measured value, with the threshold it was compared with. -/
structure FindingMetric where
  name : Text
  value : F64
  unit : Text
  threshold : F64 := .zero
  hasThreshold : Bool := false
  exceeded : Bool := false

/-- `Finding`, without its identifier, its ambiguities and its mark of history. -/
structure Finding where
  kind : FindingKind := .hotspot
  subjectKind : Text := []
  subject : Text := []
  reasons : List Text := []
  metrics : List FindingMetric := []
  evidence : List EvidenceRef := []
  missingEvidence : List Text := []
  precision : Precision := .Unknown
  provenance : Provenance := .Unknown
  reality : Reality := .real
  bindings : GenerationBindings := {}
  cost : CostEstimate := {}
  participants : List Text := []
  alternations : Nat := 0
  directionSequence : Text := []
  contention : ContentionClass := .none
  granularity : EvidenceGranularity := .Unknown
  locality : Locality := .Unknown
  localityEstablished : Bool := false

namespace Limits

def maxEvidenceRefs : Nat := 32
def maxAttributionCandidates : Nat := 16
def maxExplanationLines : Nat := 512
def maxQueryResults : Nat := 4096

end Limits

/-- `evidence_ref` of a sample. -/
def OwnershipSample.evidenceRef (sample : OwnershipSample) : EvidenceRef where
  eventId := sample.eventId
  publisher := sample.publisher
  publisherBoot := sample.publisherBoot
  sequence := sample.sequence
  eventType := sample.type
  precision := sample.precision
  provenance := sample.provenance

/-- The order of `std::string`. -/
def Text.le (a b : Text) : Prop := (compare a b).isLE = true

instance : DecidableRel Text.le := fun a b =>
  inferInstanceAs (Decidable ((compare a b).isLE = true))

theorem Text.le_total (a b : Text) : Text.le a b ∨ Text.le b a := by
  rw [Text.le, Text.le, (Std.OrientedCmp.eq_swap : compare a b = _)]
  cases compare b a <;> decide

theorem Text.le_trans {a b c : Text} : Text.le a b → Text.le b c → Text.le a c :=
  Std.TransOrd.isLE_trans

namespace Finding

/-- `Finding::ordering_key`. -/
def orderingKey (f : Finding) : Text :=
  f.kind.toText ++ [124] ++ f.subjectKind ++ [124] ++ f.subject

/-- `add_reason`. -/
def addReason (f : Finding) (reason : String) : Finding :=
  { f with
    reasons := if ascii reason ∈ f.reasons then f.reasons else f.reasons ++ [ascii reason] }

/-- `add_metric`; a metric without a threshold is for information. -/
def addMetric (f : Finding) (name : String) (value : F64) (unit : Text)
    (threshold : Option F64 := none) : Finding :=
  { f with
    metrics := f.metrics ++
      [{ name := ascii name
         value
         unit
         threshold := threshold.getD .zero
         hasThreshold := threshold.isSome
         exceeded := threshold.any value.ge }] }

/-- `add_missing`. -/
def addMissing (f : Finding) (text : Text) : Finding :=
  { f with
    missingEvidence :=
      if f.missingEvidence.length ≥ Limits.maxExplanationLines ∨ text ∈ f.missingEvidence
      then f.missingEvidence else f.missingEvidence ++ [text] }

/-- `add_participant`. -/
def addParticipant (f : Finding) (text : Text) : Finding :=
  { f with
    participants :=
      if f.participants.length ≥ Limits.maxAttributionCandidates ∨ text ∈ f.participants
      then f.participants else f.participants ++ [text] }

/-- `push_evidence`. -/
def pushEvidence (f : Finding) (ref : EvidenceRef) : Finding :=
  { f with
    evidence :=
      if f.evidence.length ≥ Limits.maxEvidenceRefs then f.evidence else f.evidence ++ [ref] }

/-- `sort_finding`. -/
def sort (f : Finding) : Finding :=
  { f with
    reasons := (f.reasons.insertionSort Text.le).dedup
    metrics := f.metrics.insertionSort fun a b => Text.le a.name b.name
    participants := (f.participants.insertionSort Text.le).dedup }

end Finding

/-- `current_bindings`. -/
def currentBindings (s : State) : GenerationBindings where
  coordinatorEpoch := s.coordinatorEpoch
  observationEpoch := s.observationEpoch
  topologyGeneration := s.topologyGeneration
  evidenceGeneration := s.evidenceGeneration

/-- The bindings of a finding about a region, with the generation it is registered at. -/
def regionBindings (s : State) (region : MemoryRegionId) : GenerationBindings :=
  match s.regions[region]? with
  | none => currentBindings s
  | some record =>
    { currentBindings s with
      regionGeneration := record.generation
      regionGenerationBound := true }

/-- The note that older samples were evicted, where they were. -/
def Finding.addEvicted (f : Finding) (evicted : UInt64) : Finding :=
  let noted := f.addMissing
    (ascii "region sample window evicted " ++ formatU64 evicted ++ ascii " older samples")
  { f with
    missingEvidence := if evicted = 0 then f.missingEvidence else noted.missingEvidence }

/-- Pushing evidence changes nothing else. -/
theorem foldl_pushEvidence (refs : List EvidenceRef) (f : Finding) :
    ∃ evidence, refs.foldl Finding.pushEvidence f = { f with evidence } := by
  induction refs generalizing f with
  | nil => exact ⟨f.evidence, rfl⟩
  | cons ref refs ih =>
    obtain ⟨evidence, heq⟩ := ih (f.pushEvidence ref)
    exact ⟨evidence, heq⟩

/-- `finalize_findings`: a stable sort by ordering key, then the first `maxFindings`. -/
def finalizeFindings (findings : List Finding) (maxFindings : UInt64) : List Finding :=
  (findings.insertionSort fun a b => Text.le a.orderingKey b.orderingKey).take maxFindings.toNat

variable {findings : List Finding} {maxFindings : UInt64}

variable {f : Finding}

/-- A finding that is returned was found. -/
theorem mem_of_mem_finalizeFindings (h : f ∈ finalizeFindings findings maxFindings) :
    f ∈ findings :=
  (perm_insertionSort _ _).mem_iff.1 (mem_of_mem_take h)

/-- Nothing is lost where the findings are few. -/
theorem mem_finalizeFindings (hlength : findings.length ≤ maxFindings.toNat) :
    f ∈ finalizeFindings findings maxFindings ↔ f ∈ findings := by
  rw [finalizeFindings, take_of_length_le]
  · exact (perm_insertionSort _ _).mem_iff
  · rw [length_insertionSort]
    exact hlength

/-! ## Summaries of evidence -/

namespace Reality

/-- The reality of several pieces of evidence together. -/
def ofAll (rs : List Reality) : Reality :=
  if ∀ r ∈ rs, r = .real then .real
  else if ∀ r ∈ rs, r = .synthetic then .synthetic
  else .mixed

theorem ofAll_concat {rs : List Reality} (h : rs ≠ []) (r : Reality) :
    ofAll (rs ++ [r]) = (ofAll rs).combine r := by
  obtain ⟨a, ha⟩ := exists_mem_of_ne_nil rs h
  have hall (r' : Reality) : (∀ x ∈ rs ++ [r], x = r') ↔ (∀ x ∈ rs, x = r') ∧ r = r' := by
    simp only [forall_mem_append, forall_mem_singleton]
  unfold ofAll
  simp only [hall]
  by_cases hreal : ∀ x ∈ rs, x = real
  · -- all real: then not all of them are synthetic
    have hsynthetic : ¬∀ x ∈ rs, x = synthetic := fun h' => by
      have := (hreal a ha).symm.trans (h' a ha)
      contradiction
    simp only [eq_true hreal, eq_false hsynthetic, true_and, false_and, if_true, if_false]
    cases r <;> rfl
  · by_cases hsynthetic : ∀ x ∈ rs, x = synthetic
    · simp only [eq_false hreal, eq_true hsynthetic, true_and, false_and, if_true, if_false]
      cases r <;> rfl
    · simp only [eq_false hreal, eq_false hsynthetic, false_and, if_false]
      cases r <;> rfl

theorem combine_self (r : Reality) : r.combine r = r := if_pos rfl

/-- The fold of the analyses: what it starts with counts as one more piece of evidence. -/
theorem foldl_combine (seed : Reality) (rs : List Reality) :
    rs.foldl combine seed = ofAll (seed :: rs) := by
  induction rs using List.reverseRecOn with
  | nil => cases seed <;> rfl
  | append_singleton rs r ih =>
    rw [foldl_concat, ih, ← cons_append, ofAll_concat (cons_ne_nil _ _)]

end Reality

/-- `p` is the weakest precision of the evidence. -/
structure Precision.IsWeakest (ps : List Precision) (p : Precision) : Prop where
  mem : p ∈ ps
  rank_le : ∀ q ∈ ps, p.rank ≤ q.rank

namespace Precision

theorem weakest_exactEvent (p : Precision) : ExactEvent.weakest p = p := by
  have hexact : ExactEvent.rank = 6 := rfl
  unfold weakest
  split
  case isTrue hle =>
    -- only the strongest precision ranks with it
    rw [hexact, rank] at hle
    split at hle
    case isTrue hlt =>
      obtain ⟨raw⟩ := p
      have : raw = 6 := by
        rw [← UInt8.toNat_inj]
        rw [UInt8.le_iff_toNat_le] at hle
        rw [UInt8.lt_iff_toNat_lt] at hlt
        change raw.toNat < 7 at hlt
        change 6 ≤ raw.toNat at hle
        change raw.toNat = 6
        omega
      rw [this]
      rfl
    case isFalse => exact absurd hle (by decide)
  case isFalse => rfl

theorem isWeakest_foldl (p : Precision) (ps : List Precision) :
    IsWeakest (p :: ps) (ps.foldl weakest p) := by
  induction ps using List.reverseRecOn with
  | nil =>
    exact ⟨mem_singleton_self p, fun q hq => (mem_singleton.1 hq) ▸ UInt8.le_refl _⟩
  | append_singleton ps q ih =>
    rw [foldl_concat, ← cons_append]
    generalize ps.foldl weakest p = w at ih
    unfold weakest
    split
    case isTrue hle =>
      refine ⟨mem_append_left _ ih.mem, fun r hr => ?_⟩
      rcases mem_append.1 hr with hr | hr
      · exact ih.rank_le r hr
      · rwa [mem_singleton.1 hr]
    case isFalse hnot =>
      refine ⟨mem_append_right _ (mem_singleton_self q), fun r hr => ?_⟩
      rcases mem_append.1 hr with hr | hr
      · exact UInt8.le_trans (UInt8.le_of_lt (UInt8.not_le.1 hnot)) (ih.rank_le r hr)
      · exact (mem_singleton.1 hr) ▸ UInt8.le_refl _

/-- The fold of the analyses starts with the strongest precision. -/
theorem isWeakest_foldl_exactEvent {ps : List Precision} (h : ps ≠ []) :
    IsWeakest ps (ps.foldl weakest ExactEvent) := by
  cases ps with
  | nil => exact absurd rfl h
  | cons p ps =>
    rw [foldl_cons, weakest_exactEvent]
    exact isWeakest_foldl p ps

end Precision

/-! ## Policies -/

/-- The thresholds of the analysis of hotspots. -/
structure HotspotPolicy where
  minRemoteReadRatePerSecond : F64 := ⟨0x408f400000000000⟩
  minRemoteWriteRatePerSecond : F64 := ⟨0x407f400000000000⟩
  minRemoteAccesses : UInt64 := 64
  minOwnershipTransfers : UInt64 := 16
  minInvalidations : UInt64 := 32
  minRegionEvents : UInt64 := 64
  minCrossNumaBytes : UInt64 := 1048576
  minCrossDeviceBytes : UInt64 := 1048576
  minCrossDomainBytes : UInt64 := 1048576
  minCxlClassBytes : UInt64 := 1048576
  minCoherenceByteShare : F64 := ⟨0x3fd0000000000000⟩
  minSourceTargetConcentration : F64 := ⟨0x3fe999999999999a⟩
  maxHotspots : UInt64 := 64

/-- What counts as ownership going back and forth. -/
structure PingPongPolicy where
  minAlternations : UInt32 := 4
  windowNs : Int64 := 1000000000
  maxGapNs : Int64 := 100000000
  minPrecision : Precision := .ExactEvent
  minParticipants : UInt32 := 2
  maxFindings : UInt64 := 64

/-- What counts as false sharing. -/
structure FalseSharingPolicy where
  minDistinctWriters : UInt32 := 2
  minInvalidations : UInt64 := 4
  minSharedReads : UInt64 := 2
  minPrecision : Precision := .ExactEvent
  maxFindings : UInt64 := 64

/-- What counts as a burst of invalidations. -/
structure InvalidationPolicy where
  burstThreshold : UInt64 := 8
  burstWindowNs : Int64 := 1000000
  maxFindings : UInt64 := 64

/-- What the analysis of remote accesses reports. -/
structure RemoteAccessPolicy where
  maxRows : UInt64 := 256
  concentrationThreshold : F64 := ⟨0x3fe0000000000000⟩
  maxFindings : UInt64 := 32

end CoherenceObservatory
