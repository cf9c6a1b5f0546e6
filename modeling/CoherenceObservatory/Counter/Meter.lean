import CoherenceObservatory.Admission
import CoherenceObservatory.Evidence

/-!
# Counters as meters

Samples reach a counter through the accounting of sequences, between whatever else happens. What
they do to it depends on nothing but the counter and the sample: `meter` is that part alone, a
machine that takes samples and answers with their outcomes.
-/

namespace CoherenceObservatory

open Std

/-! ## The meter -/

/-- What a sample does to its counter, and what is answered. -/
def meter (k : CounterState) (c : CounterPublication) : CounterOutcome × CounterState :=
  let counter := k.describe c
  let d := counterDelta counter c
  ({ accepted := true
     delta := d.1
     producedDelta := d.1 ≠ 0
     discontinuity := identityChanged k c || d.2 != .advance
     discontinuityReason := match d.2 with
       | .wrap => ascii "counter wrapped"
       | .reset => ascii "counter reset"
       | .advance =>
         if identityChanged k c then ascii "counter generation or descriptor changed" else [] },
   counter.sample c d.1 d.2)

theorem applyEvidence_counters (s : State) (o : Observation) (a : AttributionResult)
    (record : StaleEvidenceRecord) : (applyEvidence s o a record).counters = s.counters := by
  unfold applyEvidence
  dsimp only
  split
  all_goals
    obtain ⟨_, _, _, _, _, h⟩ := applyObservation_evidenceOnly _ o a.outcome a.locality
      a.localityEstablished
    rw [h]
  rfl

variable {s s' : State} {c : CounterPublication} {a : Action} {k : CounterKey} {l : List Action}

theorem sampleCounter_of_fits (p : PublisherState) (h : FitsWidth c) :
    (sampleCounter s p c).1 = .ok (meter (previousCounter s c) c).1 ∧
      (sampleCounter s p c).2.counters =
        s.counters.insert c.key (meter (previousCounter s c) c).2 := by
  have hwidth :
      ¬(c.kind ≠ .Delta ∧ c.kind ≠ .Sampled ∧ c.rawValue > widthMax c.widthBits) := by
    rw [FitsWidth] at h
    simpa [imp_iff_not_or] using h
  unfold sampleCounter
  dsimp only
  rw [if_neg hwidth]
  split
  · exact ⟨rfl, rfl⟩
  · exact ⟨rfl, applyEvidence_counters _ _ _ _⟩

theorem sampleCounter_of_not_fits (p : PublisherState) (h : ¬FitsWidth c) :
    (∃ e, (sampleCounter s p c).1 = .error e) ∧
      (sampleCounter s p c).2.counters =
        s.counters.insert c.key ((previousCounter s c).describe c) := by
  have hwidth : c.kind ≠ .Delta ∧ c.kind ≠ .Sampled ∧ c.rawValue > widthMax c.widthBits := by
    simpa [FitsWidth] using h
  unfold sampleCounter
  dsimp only
  rw [if_pos hwidth]
  exact ⟨⟨_, rfl⟩, rfl⟩

/-- An accepted sample with its outcome. -/
abbrev Sample := CounterPublication × CounterOutcome

/-- The sample a step took. -/
def sampled : Action → Answer → Option Sample
  | .ingestCounter c _, .counter (.ok outcome) =>
    if outcome.accepted then some (c, outcome) else none
  | _, _ => none

/-- What a publication does to the counters and what is answered. -/
inductive Metered (s : State) (c : CounterPublication) (r : Except Error CounterOutcome)
    (s' : State) : Prop
  /-- It is refused before it reaches its counter, or repeats an earlier one. -/
  | refused (counters_eq : s'.counters = s.counters)
      (not_sampled : ∀ o, r = .ok o → o.accepted = false)
  /-- It describes its counter anew, and then does not fit it. -/
  | wide (not_fits : ¬FitsWidth c)
      (counters_eq : s'.counters = s.counters.insert c.key ((previousCounter s c).describe c))
      (not_sampled : ∀ o, r = .ok o → o.accepted = false)
  | sampled (fits : FitsWidth c) (result_eq : r = .ok (meter (previousCounter s c) c).1)
      (counters_eq : s'.counters = s.counters.insert c.key (meter (previousCounter s c) c).2)

theorem metered_counterAccounted (s : State) (p : PublisherState) (c : CounterPublication)
    (now : Nanos) : Metered s c (counterAccounted s p c now).1 (counterAccounted s p c now).2 := by
  unfold counterAccounted
  dsimp only
  split
  · refine .refused rfl fun o ho => ?_
    rw [← Except.ok.inj ho]
  · exact .refused rfl nofun
  · split
    · exact .refused rfl nofun
    · by_cases hfits : FitsWidth c
      · obtain ⟨hresult, hcounters⟩ :=
          sampleCounter_of_fits (s := s.setPublisher c.publisher _ _) _ hfits
        exact .sampled hfits hresult hcounters
      · obtain ⟨⟨e, he⟩, hcounters⟩ :=
          sampleCounter_of_not_fits (s := s.setPublisher c.publisher _ _) _ hfits
        exact .wide hfits hcounters fun o ho => by rw [he] at ho; exact nomatch ho

/-- What a sample does to the counters, if it comes that far. -/
theorem metered_ingestCounter (s : State) (c : CounterPublication) (now : Nanos) :
    Metered s c (ingestCounter s c now).1 (ingestCounter s c now).2 := by
  unfold ingestCounter
  iterate 6
    split
    · exact .refused rfl nofun
  · exact metered_counterAccounted s _ c now

/-! ## Steps -/

theorem ingestLocked_counters (s : State) (o : Observation) (now : Nanos) :
    (ingestLocked s o now).2.counters = s.counters := by
  unfold ingestLocked
  iterate 5
    split
    · rfl
  unfold ingestAccounted
  dsimp only
  split
  · rfl
  split
  · rfl
  · split <;> rfl
  · exact applyEvidence_counters _ _ _ _
  · exact applyEvidence_counters _ _ _ _

/-- The publication a step offers to a counter. -/
def Action.publication : Action → Option CounterPublication
  | .ingestCounter c _ => some c
  | _ => none

theorem Action.eq_ingestCounter (h : a.publication = some c) : ∃ now, a = .ingestCounter c now := by
  unfold publication at h
  split at h
  · exact ⟨_, by rw [Option.some.inj h]⟩
  · exact nomatch h

variable {x : Sample}

/-- A sample is what its step published. -/
theorem publication_of_sampled {answer : Answer} (h : sampled a answer = some x) :
    a.publication = some x.1 := by
  unfold sampled at h
  split at h
  · split at h
    · rw [← Option.some.inj h]
      rfl
    · exact nomatch h
  · exact nomatch h

theorem sampled_of_publication_eq_none (h : a.publication = none) (answer : Answer) :
    sampled a answer = none := by
  unfold sampled
  split
  · exact nomatch h
  · rfl

/-- Only publications and files reach the counters. -/
theorem act_counters (s : State) (hpublication : a.publication = none) (hloads : a.loads = false) :
    (act s a).2.counters = s.counters := by
  cases a with
  | registerNode | registerProcessor | registerAccelerator | registerMemoryDomain
  | registerCoherenceDomain | registerRegion | setTopologyLink | setCapability | setCostModel
  | retireRegion | bumpTopologyGeneration =>
    exact act_of_describes State.counters rfl rfl
  | registerPublisher | fencePublisherBoot | reconcile =>
    exact act_of_binds State.counters rfl
  | finishBatch | snapshot | save => rfl
  | admitBatch count =>
    simp only [act, Prod.map, id, admitBatch]
    split_ifs <;> rfl
  | ingest o now => exact ingestLocked_counters s o now
  | ingestCounter c now => cases hpublication
  | load path file options clock => cases hloads

/-! ## Runs -/

/-- The sample of a counter that a step took. -/
def sampledOf (k : CounterKey) (i : Action × Answer) : Option Sample :=
  (sampled i.1 i.2).filter fun x => x.1.key = k

/-- The samples of a counter that were accepted, in the order they were. -/
def samplesOf (k : CounterKey) (past : List (Action × Answer)) : List Sample :=
  past.filterMap (sampledOf k)

/-- A step that does not load a file and does not offer the counter a value it cannot hold. -/
structure Action.Keeps (k : CounterKey) (a : Action) : Prop where
  loads : a.loads = false
  fits : ∀ c, a.publication = some c → c.key = k → FitsWidth c

/-- The counter under a key, before its first sample the initial one. -/
def State.counter (s : State) (k : CounterKey) : CounterState := s.counters[k]?.getD {}

theorem counter_of_not_mem (h : k ∉ s.counters) : s.counter k = {} := by
  rw [State.counter, ExtTreeMap.getElem?_eq_none h]
  rfl

theorem counter_insert (s : State) {k' : CounterKey} {counter : CounterState}
    (h : s'.counters = s.counters.insert k' counter) :
    s'.counter k = if k' = k then counter else s.counter k := by
  rw [State.counter, h, ExtTreeMap.getElem?_insert]
  simp only [LawfulEqOrd.compare_eq_iff_eq]
  split
  · rfl
  · rfl

/-- A step that keeps a counter leaves it alone or takes one sample. -/
theorem act_meter (h : a.Keeps k) :
    (sampledOf k (a, (act s a).1) = none ∧ (act s a).2.counter k = s.counter k) ∨
      ∃ c, sampledOf k (a, (act s a).1) = some (c, (meter (s.counter k) c).1) ∧
        (act s a).2.counter k = (meter (s.counter k) c).2 := by
  unfold sampledOf
  cases ha : a.publication with
  | none =>
    refine .inl ⟨by rw [sampled_of_publication_eq_none ha]; rfl, ?_⟩
    rw [State.counter, act_counters s ha h.loads, State.counter]
  | some c =>
    obtain ⟨now, rfl⟩ := Action.eq_ingestCounter ha
    have hrefused (hnot : ∀ o, (ingestCounter s c now).1 = .ok o → o.accepted = false) :
        sampled (.ingestCounter c now) (act s (.ingestCounter c now)).1 = none := by
      change sampled _ (.counter (ingestCounter s c now).1) = none
      cases hresult : (ingestCounter s c now).1 with
      | error e => rfl
      | ok o => exact if_neg (by simp [hnot o hresult])
    cases metered_ingestCounter s c now with
    | refused hcounters hnot =>
      refine .inl ⟨by rw [hrefused hnot]; rfl, ?_⟩
      change (ingestCounter s c now).2.counters[k]?.getD {} = _
      rw [hcounters, State.counter]
    | wide hwide hcounters hnot =>
      have hkey : c.key ≠ k := fun hkey => hwide (h.fits c rfl hkey)
      refine .inl ⟨by rw [hrefused hnot]; rfl, ?_⟩
      exact (counter_insert s hcounters).trans (if_neg hkey)
    | sampled hfits hresult hcounters =>
      have hsampled : CoherenceObservatory.sampled (.ingestCounter c now)
          (act s (.ingestCounter c now)).1 = some (c, (meter (previousCounter s c) c).1) := by
        change CoherenceObservatory.sampled _ (.counter (ingestCounter s c now).1) = _
        rw [hresult]
        rfl
      have hcounter := counter_insert s (k := k) hcounters
      rw [hsampled]
      by_cases hkey : c.key = k
      · subst hkey
        rw [if_pos rfl] at hcounter
        exact .inr ⟨c, by simp [State.counter, previousCounter], hcounter⟩
      · rw [if_neg hkey] at hcounter
        exact .inl ⟨by simp [hkey], hcounter⟩

/-- In a run that keeps a counter, its samples are a run of the meter. -/
theorem samplesOf_history (h : ∀ a ∈ l, a.Keeps k) (s : State) :
    let samples := samplesOf k (Run.history act s l)
    samples = Run.history meter (s.counter k) (samples.map Prod.fst) ∧
      (Run.final act s l).counter k = Run.final meter (s.counter k) (samples.map Prod.fst) := by
  induction l generalizing s with
  | nil => exact ⟨rfl, rfl⟩
  | cons a l ih =>
    obtain ⟨ha, hl⟩ := List.forall_mem_cons.1 h
    obtain ⟨hsamples, hfinal⟩ := ih hl (act s a).2
    rcases act_meter (s := s) ha with ⟨hnone, hcounter⟩ | ⟨c, hsome, hcounter⟩
    · rw [hcounter] at hsamples hfinal
      rw [Run.history, samplesOf, List.filterMap_cons_none hnone]
      exact ⟨hsamples, hfinal⟩
    · rw [hcounter] at hsamples hfinal
      rw [Run.history, samplesOf, List.filterMap_cons_some hsome]
      exact ⟨congrArg _ hsamples, hfinal⟩

theorem key_of_mem_samplesOf {past : List (Action × Answer)} (h : x ∈ samplesOf k past) :
    x.1.key = k := by
  obtain ⟨i, -, hi⟩ := List.mem_filterMap.1 h
  exact of_decide_eq_true (Option.filter_eq_some_iff.1 hi).2

/-- Samples are publications of the run. -/
theorem exists_of_mem_samplesOf (h : x ∈ samplesOf k (Run.history act s l)) :
    ∃ a ∈ l, a.publication = some x.1 := by
  obtain ⟨i, hmem, hi⟩ := List.mem_filterMap.1 h
  exact ⟨i.1, Run.mem_of_mem_history hmem,
    publication_of_sampled (Option.filter_eq_some_iff.1 hi).1⟩

end CoherenceObservatory
