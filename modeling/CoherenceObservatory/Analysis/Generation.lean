import CoherenceObservatory.Analysis.FalseSharing
import CoherenceObservatory.Backing

/-!
# The generation of a pattern

Findings about patterns in the samples of a region are bound to the generation the region is
registered at, while the samples of all its generations share one window.
-/

namespace CoherenceObservatory

/-- The finding is bound to no generation, or to that of all the samples. -/
def Finding.OfGeneration (f : Finding) (samples : List OwnershipSample) : Prop :=
  f.bindings.regionGenerationBound = true →
    ∀ sample ∈ samples, sample.regionGeneration = f.bindings.regionGeneration

/-- Findings about patterns are about samples of the generation they are bound to. -/
structure State.FindingsOfGeneration (s : State) : Prop where
  pingPong : ∀ policy, ∀ f ∈ analyzePingPong s policy, ∃ evidence window,
    s.regionEvidence[f.subject]? = some evidence ∧ pingPongWindow policy evidence = some window ∧
      f.OfGeneration window
  falseSharing : ∀ policy, ∀ f ∈ analyzeFalseSharing s policy, ∃ evidence,
    s.regionEvidence[f.subject]? = some evidence ∧ f.OfGeneration (policy.qualifying evidence)

/-- Evidence names the generation its region is registered at, where the policy does not ask
for it. -/
def namesRegistered (s : State) (region : Option MemoryRegionId)
    (generation : Option MemoryRegionGeneration) : Bool :=
  s.options.attributionPolicy.requireCurrentRegionGeneration ||
    region.all fun k => s.regions[k]?.all fun record => generation == some record.generation

/-- A region is registered only at the generation of the samples held for it. -/
def keepsGeneration (s : State) : Action → Bool
  | .registerRegion r _ =>
    (s.samples r.id).all fun sample => sample.regionGeneration == r.generation
  | .ingest o _ => namesRegistered s o.region o.regionGeneration
  | .ingestCounter c _ => namesRegistered s c.region c.regionGeneration
  | _ => true

/-- The samples of a registered region are of its generation. -/
def State.Uniform (s : State) : Prop :=
  ∀ (k : MemoryRegionId) (record : RegionRecord), s.regions[k]? = some record →
    ∀ sample ∈ s.samples k, sample.regionGeneration = record.generation

variable {s : State} {a : Action}

theorem namesRegistered_of_yields {o : Observation} (h : keepsGeneration s a = true)
    (hyields : a.Yields o) : namesRegistered s o.region o.regionGeneration = true := by
  cases a with
  | ingest o' now =>
    obtain ⟨_, _, rfl⟩ := hyields
    exact h
  | ingestCounter c now =>
    obtain ⟨_, _, rfl⟩ := hyields
    exact h
  | _ => exact hyields.elim

/-- The step lemma, for steps that load no file. -/
theorem State.Uniform.act (hs : s.Uniform) (h : keepsGeneration s a = true)
    (hloads : a.loads = false) : (act s a).2.Uniform := by
  intro k record hrecord sample hsample
  rcases getElem?_regions_act hloads hrecord with ⟨old, hold, hg⟩ | ⟨r, now, rfl, rfl, hg, -⟩
  · rw [← hg]
    rcases mem_samples_act hloads hsample with hheld | ⟨o, -, hyields, hregion, rfl, hpolicy⟩
    · exact hs k old hold sample hheld
    · -- the observation names the registered generation, by the policy or by the condition
      have hnames : o.regionGeneration = some old.generation := by
        rcases Bool.or_eq_true_iff.1 (namesRegistered_of_yields h hyields) with hrequired | hnames
        · exact hpolicy hrequired old hold
        · simpa [hregion, hold] using hnames
      change o.regionGeneration.getD 0 = old.generation
      rw [hnames]
      rfl
  · rw [← hg]
    rcases mem_samples_act hloads hsample with hheld | ⟨o, -, hyields, -⟩
    · exact beq_iff_eq.1 (List.all_eq_true.1 h sample hheld)
    · exact hyields.elim

theorem uniform_of_empty (h : s.regionEvidence = ∅) : s.Uniform := by
  intro k record _ sample hsample
  rw [State.samples, h] at hsample
  simp at hsample

theorem act_uniform (hs : s.Uniform) (h : keepsGeneration s a = true) : (act s a).2.Uniform := by
  cases a with
  | load path file options clock =>
    -- a file brings no samples
    rw [act, loadState]
    split
    · exact hs
    · split
      · exact hs
      · exact uniform_of_empty rfl
  | _ => exact hs.act h rfl

theorem final_uniform (hs : s.Uniform) {l : List Action}
    (hrun : Run.Along act (fun s a => keepsGeneration s a = true) s l) :
    (Run.final act s l).Uniform :=
  Run.final_invariant (I := State.Uniform) (fun _ _ h ha => act_uniform h ha) hs hrun

theorem regionBindings_bound {region : MemoryRegionId}
    (h : (regionBindings s region).regionGenerationBound = true) :
    ∃ record, s.regions[region]? = some record ∧
      (regionBindings s region).regionGeneration = record.generation := by
  unfold regionBindings at h ⊢
  split at h
  case h_1 => exact nomatch h
  case h_2 record hrecord => exact ⟨record, hrecord, rfl⟩

theorem State.Uniform.ofGeneration (hs : s.Uniform) {f : Finding} {evidence : RegionEvidence}
    {samples : List OwnershipSample} (hbindings : f.bindings = regionBindings s f.subject)
    (hevidence : s.regionEvidence[f.subject]? = some evidence)
    (hsamples : samples ⊆ evidence.samples) : f.OfGeneration samples := by
  intro hbound sample hsample
  rw [hbindings] at hbound ⊢
  obtain ⟨record, hrecord, hg⟩ := regionBindings_bound hbound
  rw [hg]
  refine hs f.subject record hrecord sample ?_
  rw [State.samples, hevidence]
  exact hsamples hsample

theorem State.Uniform.findingsOfGeneration (hs : s.Uniform) : s.FindingsOfGeneration where
  pingPong policy f hf := by
    obtain ⟨evidence, first, rest, hevidence, hwindow, hreport⟩ :=
      exists_window (mem_of_mem_finalizeFindings hf)
    refine ⟨evidence, first :: rest, hevidence, hwindow, hs.ofGeneration ?_ hevidence ?_⟩
    · have hbindings : (pingPongReport s policy f.subject evidence first
        (first :: rest)).bindings = regionBindings s f.subject :=
        (pingPongReport_start f.subject first).2.1
      rwa [hreport] at hbindings
    · intro sample hsample
      exact (PingPongPolicy.mem_ordered.1 ((window_within hwindow).subset hsample)).1
  falseSharing policy f hf := by
    obtain ⟨region, evidence, hevidence, -, -, rfl⟩ :=
      mem_falseSharingFindings.1 (mem_of_mem_finalizeFindings hf)
    obtain ⟨hsubject, hbindings, -⟩ := falseSharingReport_fields s policy evidence region
      (policy.scan evidence)
    rw [hsubject]
    refine ⟨evidence, hevidence, hs.ofGeneration ?_ (hsubject.symm ▸ hevidence) ?_⟩
    · rw [hbindings, hsubject]
    · exact List.filter_subset_self _

/-- In a run that keeps the samples of a region to its generation, findings are about samples
    of the generation they are bound to. -/
theorem findings_ofGeneration (options : ObservatoryOptions) (now : Nanos) (l : List Action)
    (hrun : Run.Along act (fun s a => keepsGeneration s a = true) (State.initial options now) l) :
    (Run.final act (State.initial options now) l).FindingsOfGeneration :=
  (final_uniform (uniform_of_empty rfl) hrun).findingsOfGeneration

/-- A read of a page of the region at its first generation. -/
def pageRead : Action :=
  .ingest
    { eventId := 1, type := .RemoteRead, sourcePublisher := ascii "p", publisherBoot := 1,
      coordinatorEpoch := 1, topologyGeneration := 1, sequence := 1, timestampNs := 1,
      region := some (ascii "r"), regionGeneration := some 1, granularity := .Page,
      precision := .ExactEvent, provenance := .RuntimeInstrumentation } 0

/-- A region with one read. -/
theorem findings_ofGeneration_pageRead :
    (Run.final act (State.initial {} 0) (backingSetup ++ [pageRead])).FindingsOfGeneration :=
  findings_ofGeneration {} 0 _ (by decide +kernel)

/-- The state after the region was read and registered anew. -/
def reregistered : State :=
  Run.final act (State.initial {} 0)
    (backingSetup ++ [pageRead, .registerRegion { id := ascii "r", generation := 2 } 0])

/-- The finding about the read of the first generation is bound to the second. -/
theorem reregistered_not_ofGeneration : ¬reregistered.FindingsOfGeneration := by
  intro h
  obtain ⟨evidence, hevidence, hsamples, hcontention⟩ :
      ∃ evidence ∈ reregistered.regionEvidence[ascii "r"]?,
        (FalseSharingPolicy.qualifying {} evidence).map (·.regionGeneration) = [1] ∧
          FalseSharingPolicy.contention {} (FalseSharingPolicy.scan {} evidence) ≠ .none := by
    decide +kernel
  obtain ⟨hbound, hgeneration⟩ :
      (regionBindings reregistered (ascii "r")).regionGenerationBound = true ∧
        (regionBindings reregistered (ascii "r")).regionGeneration = 2 := by
    decide +kernel
  obtain ⟨sample, hsample, hone⟩ : ∃ sample ∈ FalseSharingPolicy.qualifying {} evidence,
      sample.regionGeneration = 1 := by
    rw [← List.mem_map, hsamples]
    exact List.mem_singleton_self 1
  have hlength : (falseSharingFindings reregistered {}).length ≤ 64 := by
    refine (List.length_filterMap_le _ _).trans ?_
    rw [Std.ExtTreeMap.length_toList]
    decide +kernel
  obtain ⟨hsubject, hbindings, -⟩ := falseSharingReport_fields reregistered {} evidence (ascii "r")
    (FalseSharingPolicy.scan {} evidence)
  obtain ⟨evidence', hevidence', hof⟩ := h.falseSharing {} _ ((mem_finalizeFindings hlength).2
    (mem_falseSharingFindings.2
      ⟨ascii "r", evidence, hevidence, List.ne_nil_of_mem hsample, hcontention, rfl⟩))
  rw [hsubject] at hevidence'
  obtain rfl := Option.some.inj (Eq.trans (Eq.symm hevidence) hevidence')
  have htwo := hof (by rw [hbindings]; exact hbound) sample hsample
  rw [hbindings, hgeneration, hone] at htwo
  exact absurd htwo (by decide)

end CoherenceObservatory
