import CoherenceObservatory.Analysis.FalseSharing
import CoherenceObservatory.Analysis.Hotspots
import CoherenceObservatory.Analysis.Region
import CoherenceObservatory.Retention

/-!
# What findings rest on

Evidence that is not attributed to something current is kept in the journal and counts for
nothing: the findings that rest on aggregates and samples are as if it had not come. Those that
rest on the journal are not, since it may drive current entries out.
-/

namespace CoherenceObservatory

/-- `s'` differs from `s` at most in what ingestion writes, and not in aggregates and samples. -/
structure Unmoved (s s' : State) : Prop where
  only : IngestOnly s s'
  aggregates_eq : s'.aggregates = s.aggregates
  regionEvidence_eq : s'.regionEvidence = s.regionEvidence

/-- The findings that rest on aggregates and samples are the same. -/
def SameFindings (s s' : State) : Prop :=
  (∀ policy, analyzeHotspots s' policy = analyzeHotspots s policy) ∧
    (∀ policy, analyzePingPong s' policy = analyzePingPong s policy) ∧
    (∀ policy, analyzeFalseSharing s' policy = analyzeFalseSharing s policy) ∧
    ∀ region, attributeRegionQuery s' region = attributeRegionQuery s region

variable {s s' : State} {a : Action}

/-- What ingesting such evidence leaves as it is. -/
theorem act_unmoved (h : s.WellRetained) (hoffers : a.offers ≠ none)
    (hcounted : counted s a = none) : Unmoved s (act s a).2 := by
  have honly : IngestOnly s (act s a).2 ∧ a.loads = false := by
    cases a with
    | ingest o now => exact ⟨(ingestLocked_binding s o now).1, rfl⟩
    | ingestCounter c now => exact ⟨(ingestCounter_binding s c now).1, rfl⟩
    | _ => exact absurd rfl hoffers
  refine ⟨honly.1, ?_, ?_⟩
  · rcases act_aggregates s honly.2 with ⟨_, heq, _⟩ | ⟨o, _, ho, _⟩
    · exact heq
    · cases hcounted.symm.trans ho
  · cases act_retention h honly.2 with
    | quiet _ heq => exact congrArg Retention.regions heq
    | apply entry happlied _ hstep =>
      cases hstep with
      | unsampled _ heq => exact congrArg Retention.regions heq
      | sampled key hkey _ =>
        -- what is sampled has been counted
        have hsampled : regionSampled s a = some key := by
          rw [regionSampled_eq, happlied]
          exact hkey
        rw [regionSampled, hcounted] at hsampled
        cases hsampled

theorem Unmoved.sameFindings (h : Unmoved s s') : SameFindings s s' := by
  obtain ⟨⟨publishers, counters, aggregates, journal, evidence, order, stale, loss, rfl⟩,
    rfl, rfl⟩ := h
  exact ⟨fun _ => rfl, fun _ => rfl, fun _ => rfl, fun _ => rfl⟩

/-- In every state that is reached, ingestion that counts nothing leaves the hotspots, the ping-pong
    and false-sharing findings and the attributions of regions as they are. -/
theorem uncounted_uninfluential (options : ObservatoryOptions) (now : Nanos) (past l : List Action)
    (h : Run.Along act (fun s a => a.offers ≠ none ∧ counted s a = none)
      (Run.final act (State.initial options now) past) l) :
    let s := Run.final act (State.initial options now) past
    SameFindings s (Run.final act s l) := by
  intro s
  have hrun := Run.final_invariant (I := fun t => t.WellRetained ∧ Unmoved s t) (fun t a ht ha => by
    obtain ⟨honly, haggregates, hsamples⟩ := act_unmoved ht.1 ha.1 ha.2
    exact ⟨act_wellRetained ht.1 a, ht.2.only.trans honly, haggregates.trans ht.2.aggregates_eq,
      hsamples.trans ht.2.regionEvidence_eq⟩)
    ⟨final_wellRetained options now past, .refl s, rfl, rfl⟩ h
  exact hrun.2.sameFindings

/-- An observation of a topology that is past is accepted and not counted. -/
theorem uncounted_uninfluential_past :
    let s := Run.final act (State.initial {} 0)
      [.registerPublisher sampleRegistration fun _ => 0, .bumpTopologyGeneration [] 0]
    let a : Action := .ingest { sampleObservation 1 with topologyGeneration := 1 } 0
    (applied s a).isSome = true ∧ SameFindings s (act s a).2 := by
  intro s a
  have hcounted : counted s a = none := by decide +kernel
  exact ⟨by decide +kernel, uncounted_uninfluential {} 0
    [.registerPublisher sampleRegistration fun _ => 0, .bumpTopologyGeneration [] 0] [a]
    ⟨⟨nofun, hcounted⟩, trivial⟩⟩

end CoherenceObservatory
