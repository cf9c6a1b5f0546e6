import CoherenceObservatory.Attribution.Sections

/-!
# Exact attribution

An exact attribution stands for more than current evidence: the region is named and registered,
and the evidence reaches down to it.
-/

namespace CoherenceObservatory

open Std ExtTreeMap

/-! ## What is to be met -/

/-- The publisher is registered with the boot of the observation, current and not fenced. -/
def PublisherCurrent (s : State) (o : Observation) : Prop :=
  ∃ p, s.publishers[o.sourcePublisher]? = some p ∧ p.view.boot = o.publisherBoot ∧
    p.view.current = true ∧ p.view.fenced = false

/-- The region is named and registered, not retired, and at the generation named. -/
def RegionCurrent (s : State) (o : Observation) : Prop :=
  ∃ region record, o.region = some region ∧ s.regions[region]? = some record ∧
    record.retired = false ∧ o.regionGeneration = some record.generation

/-- What an exact attribution stands for. -/
structure ExactlyBound (s : State) (o : Observation) : Prop where
  epoch : o.coordinatorEpoch = s.coordinatorEpoch
  publisher : PublisherCurrent s o
  topology : o.topologyGeneration = s.topologyGeneration
  region : RegionCurrent s o
  granularity : EvidenceGranularity.Region.rank ≤ o.granularity.rank
  capability : ¬Gated s o
  source : ∀ ref, o.source = some ref → ref.Current s
  target : ∀ ref, o.target = some ref → ref.Current s
  domain : DomainCurrent s o

/-- Under the default policy, that is current evidence for a region it names and reaches. -/
theorem exactlyBound_iff {s : State} (hpolicy : s.options.attributionPolicy = {})
    (o : Observation) :
    ExactlyBound s o ↔ EvidenceCurrent s o ∧ regionNamed s o = true ∧
      EvidenceGranularity.Region.rank ≤ o.granularity.rank := by
  constructor
  · intro h
    obtain ⟨region, record, hregion, hrecord, hretired, hgeneration⟩ := h.region
    obtain ⟨p, hp, hboot, hcurrent⟩ := h.publisher
    refine ⟨⟨fun _ => h.epoch, ⟨p, hp, hboot, fun _ => hcurrent⟩, fun _ => h.topology, ?_,
      h.capability, h.source, h.target, h.domain⟩, ?_, h.granularity⟩
    · intro region' record' hregion' hrecord'
      obtain rfl := Option.some.inj (hregion.symm.trans hregion')
      obtain rfl := Option.some.inj (hrecord.symm.trans hrecord')
      exact ⟨hretired, fun _ => hgeneration⟩
    · rw [regionNamed, hregion, Option.any_some, contains_eq_isSome_getElem?, hrecord]
      rfl
  · rintro ⟨h, hnamed, hgranularity⟩
    obtain ⟨p, hp, hboot, hcurrent⟩ := h.publisher
    obtain ⟨region, hregion, hmem⟩ := (Option.any_eq_true _ _).1 hnamed
    rw [contains_eq_isSome_getElem?] at hmem
    obtain ⟨record, hrecord⟩ := Option.isSome_iff_exists.1 hmem
    obtain ⟨hretired, hgeneration⟩ := h.region region record hregion hrecord
    refine ⟨h.epoch ?_, ⟨p, hp, hboot, hcurrent ?_⟩, h.topology ?_,
      ⟨region, record, hregion, hrecord, hretired, hgeneration ?_⟩, hgranularity, h.capability,
      h.source, h.target, h.domain⟩ <;> rw [hpolicy]

/-! ## Precision -/

section

variable (s : State) (o : Observation) (r : AttributionResult)

theorem attributeLocality_precision : (attributeLocality s o r).precision = r.precision := by
  unfold attributeLocality
  dsimp only
  repeat' split
  all_goals simp

theorem Precision.rank_weakest_le (a b : Precision) : (a.weakest b).rank ≤ a.rank := by
  unfold weakest
  split
  · exact UInt8.le_refl _
  next h => exact (UInt8.le_total _ _).resolve_left h

theorem attributeOutcome_precision (regionBound : Bool) :
    (attributeOutcome o regionBound r).precision.rank ≤ r.precision.rank := by
  unfold attributeOutcome
  split
  · split
    · simp
    · exact r.precision.rank_weakest_le _
  · split
    · split <;> simp
    · simp

theorem attributePrecision_precision :
    (attributePrecision o r).precision.rank ≤ r.precision.rank := by
  unfold attributePrecision
  split
  · exact r.precision.rank_weakest_le _
  · exact UInt8.le_refl _

theorem concludeAttribution_precision :
    (concludeAttribution s o r).precision.rank ≤ r.precision.rank := by
  have h := attributeAmbiguity_ends s o (attributeLocality s o r) (regionNamed s o)
  rw [← attributeLocality_precision s o r]
  unfold concludeAttribution
  cases hambiguity : attributeAmbiguity s o (regionNamed s o) (attributeLocality s o r) with
  | ok r' =>
    rw [hambiguity] at h
    obtain rfl : r' = _ := h
    dsimp only
    rw [AttributionResult.addEvidence_precision, AttributionResult.sortReasons_precision]
    exact UInt8.le_trans (attributePrecision_precision _ _) (attributeOutcome_precision _ _ _)
  | error r' =>
    rw [hambiguity] at h
    dsimp only
    rw [h.2.1]
    exact UInt8.le_refl _

end

/-! ## Attribution -/

/-- Under the default policy an attribution is exact exactly if the observation names what is
    current in every respect; and it is never more precise than the observation. -/
theorem attributedExact_iff (s : State) (hpolicy : s.options.attributionPolicy = {})
    (o : Observation) :
    ((attributeObservation s o).outcome = .attributedExact ↔ ExactlyBound s o) ∧
      (attributeObservation s o).precision.rank ≤ o.precision.rank := by
  have hstart : (attributionStart s o).precision = o.precision := by simp [attributionStart]
  rw [exactlyBound_iff hpolicy]
  rcases attributeObservation_cases s o with ⟨hcurrent, r, hr, heq⟩ | ⟨hcurrent, hrefused⟩
  · rw [heq, concludeAttribution_exact, ← hstart, ← hr.precision]
    exact ⟨by simp [hcurrent], concludeAttribution_precision s o r⟩
  · rw [hrefused.precision, hstart]
    exact ⟨iff_of_false hrefused.outcome fun h => hcurrent h.1, UInt8.le_refl _⟩

/-- A publisher `p` and a region `r` at its third generation. -/
def boundState : State where
  publishers := (∅ : ExtTreeMap Text PublisherState).insert (ascii "p")
    { view := { boot := 1, current := true } }
  regions := (∅ : ExtTreeMap Text RegionRecord).insert (ascii "r") { generation := 3 }

/-- An exact observation that names the current region, domain and topology. -/
def boundObservation : Observation where
  sourcePublisher := ascii "p"
  publisherBoot := 1
  coordinatorEpoch := 1
  topologyGeneration := 1
  region := some (ascii "r")
  regionGeneration := some 3
  granularity := .Region

/-- An observation whose bindings are all current. -/
theorem boundObservation_attributedExact :
    boundState.options.attributionPolicy = {} ∧
      (attributeObservation boundState boundObservation).outcome = .attributedExact :=
  ⟨rfl, (attributedExact_iff boundState rfl boundObservation).1.2
    { epoch := rfl
      publisher := ⟨_, ExtTreeMap.getElem?_insert_self, rfl, rfl, rfl⟩
      topology := rfl
      region := ⟨ascii "r", _, rfl, ExtTreeMap.getElem?_insert_self, rfl, rfl⟩
      granularity := by decide
      capability := fun h => absurd h.1 (by decide)
      source := by simp [boundObservation]
      target := by simp [boundObservation]
      domain := by simp [DomainCurrent, boundObservation] }⟩

end CoherenceObservatory
