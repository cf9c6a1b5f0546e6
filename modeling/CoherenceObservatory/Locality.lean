import CoherenceObservatory.Evidence

/-!
# Links and topology generations

Evidence names the topology generation it was taken under, and attribution may take its
locality from a link. What ties the two together is left to the callers: setting a link does
not advance the generation, and advancing the generation keeps the links.
-/

namespace CoherenceObservatory

open Std

/-! ## Links -/

/-- The link `locality_between` finds for two ends. -/
def TopologyRecord.linkBetween (t : TopologyRecord) (a b : ResourceRef) : Option TopologyLink :=
  if a.id = [] ∨ b.id = [] ∨ a.kind = b.kind ∧ a.id = b.id then none
  else t.links.find? fun link => link.source.kind = a.kind ∧ link.source.id = a.id ∧
    link.target.kind = b.kind ∧ link.target.id = b.id

variable {link : TopologyLink} {s : State} {o : Observation} {a : Action}

/-- The link attribution takes a locality from for an observation. -/
def derivesFrom (s : State) (o : Observation) : Option TopologyLink :=
  match o.source, o.target with
  | some a, some b =>
    if s.options.attributionPolicy.deriveLocalityFromTopology then
      (s.topology.linkBetween a b).filter (·.locality ≠ .Unknown)
    else none
  | _, _ => none

theorem mem_of_derivesFrom (h : derivesFrom s o = some link) : link ∈ s.topology.links := by
  unfold derivesFrom at h
  split at h
  · split at h
    · obtain ⟨hlink, _⟩ := Option.filter_eq_some_iff.1 h
      unfold TopologyRecord.linkBetween at hlink
      split at hlink
      · exact nomatch hlink
      · exact List.mem_of_find?_eq_some hlink
    · exact nomatch h
  · exact nomatch h

/-! ## Setting a link -/

/-- A call that sets a link fails, or touches nothing but the list of links. -/
theorem setTopologyLink_cases (s : State) (link : TopologyLink) :
    (∃ e, checkLink s link = .error e ∧ setTopologyLink s link = (.error e, s)) ∨
      ∃ links, links = (replaceLink link s.topology.links).getD (s.topology.links ++ [link]) ∧
        checkLink s link = .ok () ∧
        setTopologyLink s link = (.ok (), { s with topology := { s.topology with links } }) := by
  rcases commit_cases s (checkLink s link) _ with ⟨e, hcheck, heq⟩ | ⟨hcheck, heq⟩
  · exact .inl ⟨e, hcheck, heq⟩
  · exact .inr ⟨_, rfl, hcheck, heq⟩

/-- A call that adds or changes a link advances the generation. -/
def AdvancesOnChange (s : State) : Action → Prop
  | .setTopologyLink link =>
    (setTopologyLink s link).1 = .ok () →
      (setTopologyLink s link).2.topology.links ≠ s.topology.links →
        s.topologyGeneration < (setTopologyLink s link).2.topologyGeneration
  | _ => True

/-- A call that sets a link is refused, or the link is there as given. -/
def LeavesLinks (s : State) : Action → Prop
  | .setTopologyLink link =>
    checkLink s link = .ok () → replaceLink link s.topology.links = some s.topology.links
  | _ => True

/-- A call that sets a link advances the generation only where it changes nothing. -/
theorem advancesOnChange_iff (s : State) (a : Action) : AdvancesOnChange s a ↔ LeavesLinks s a := by
  cases a with
  | setTopologyLink link =>
    rw [AdvancesOnChange, LeavesLinks]
    rcases setTopologyLink_cases s link with ⟨e, hcheck, heq⟩ | ⟨links, hlinks, hcheck, heq⟩ <;>
      rw [heq, hcheck]
    · simp
    · cases hreplace : replaceLink link s.topology.links with
      | none | some => simp [hlinks, hreplace]
  | _ => exact Iff.rfl

/-! ## The generation a link was set under -/

/-- A step sets a link while a generation is in force. -/
def SetsUnder (k : TopologyLink × TopologyGeneration) (s : State) (a : Action) : Prop :=
  a = .setTopologyLink k.1 ∧ (act s a).1 = .status (.ok ()) ∧ (act s a).2.topologyGeneration = k.2

/-- Every link was set under the generation in force. -/
def Bound (W : TopologyLink × TopologyGeneration → Prop) (s : State) : Prop :=
  ∀ link ∈ s.topology.links, W (link, s.topologyGeneration)

/-- Evidence names the generation in force, or is held to it. -/
def namesTopology (s : State) (generation : TopologyGeneration) : Bool :=
  s.options.attributionPolicy.requireCurrentTopology || generation == s.topologyGeneration

/-- The generation advances only while there are no links. Where the policy lets other
generations count, evidence names the one in force. -/
def keepsBound (s : State) : Action → Bool
  | .bumpTopologyGeneration .. => s.topology.links.isEmpty
  | .ingest o _ => namesTopology s o.topologyGeneration
  | .ingestCounter c _ => namesTopology s c.topologyGeneration
  | .load .. => false
  | _ => true

theorem mem_replaceLink {link' : TopologyLink} {links links' : List TopologyLink}
    (h : replaceLink link links = some links') (hmem : link' ∈ links') :
    link' = link ∨ link' ∈ links := by
  induction links generalizing links' with
  | nil => exact nomatch h
  | cons existing links ih =>
    rw [replaceLink] at h
    split at h
    · obtain rfl := Option.some.inj h
      exact (List.mem_cons.1 hmem).imp_right (List.mem_cons_of_mem _)
    · obtain ⟨rest, hrest, rfl⟩ := Option.map_eq_some_iff.1 h
      rcases List.mem_cons.1 hmem with rfl | hmem
      · exact .inr List.mem_cons_self
      · exact (ih hrest hmem).imp_right (List.mem_cons_of_mem _)

/-- The step lemma. -/
theorem Bound.step {W : TopologyLink × TopologyGeneration → Prop} (hs : Bound W s)
    (h : keepsBound s a = true) : Bound (fun k => W k ∨ SetsUnder k s a) (act s a).2 := by
  have hsame {s' : State} (hlinks : s'.topology.links = s.topology.links)
      (hgeneration : s'.topologyGeneration = s.topologyGeneration) :
      Bound (fun k => W k ∨ SetsUnder k s a) s' := by
    intro link hlink
    rw [hlinks] at hlink
    rw [hgeneration]
    exact .inl (hs link hlink)
  have hcommit {next : State} {check : Status} (hlinks : next.topology.links = s.topology.links)
      (hgeneration : next.topologyGeneration = s.topologyGeneration) :
      Bound (fun k => W k ∨ SetsUnder k s a) (commit s check next).2 :=
    commit_induction (hsame rfl rfl) fun _ => hsame hlinks hgeneration
  by_cases hdescribes : a.describes = false
  · exact hsame (act_of_not_describes (fun s => s.topology.links) hdescribes)
      (act_of_not_describes State.topologyGeneration hdescribes)
  cases a with
  | registerNode | registerProcessor | registerAccelerator | registerMemoryDomain
  | registerCoherenceDomain | registerRegion | setCapability | setCostModel => exact hcommit rfl rfl
  | retireRegion region generation reason now =>
    rw [act, retireRegion]
    split <;> exact hsame rfl rfl
  | bumpTopologyGeneration reason now =>
    -- there are no links to outlive the generation
    have hempty : s.topology.links = [] := List.isEmpty_iff.1 h
    rw [act, bumpTopologyGeneration]
    split
    · exact hsame rfl rfl
    · intro link hlink
      change link ∈ s.topology.links at hlink
      rw [hempty] at hlink
      cases hlink
  | setTopologyLink link =>
    rw [act]
    rcases setTopologyLink_cases s link with ⟨e, _, heq⟩ | ⟨links, hlinks, _, heq⟩ <;> rw [heq]
    · exact hsame rfl rfl
    · have hset : SetsUnder (link, s.topologyGeneration) s (.setTopologyLink link) := by
        rw [SetsUnder, act, heq]
        exact ⟨rfl, rfl, rfl⟩
      intro link' hlink'
      change link' ∈ links at hlink'
      cases hreplace : replaceLink link s.topology.links with
      | none =>
        rw [hlinks, hreplace, Option.getD_none, List.mem_append, List.mem_singleton] at hlink'
        rcases hlink' with hold | rfl
        · exact .inl (hs link' hold)
        · exact .inr hset
      | some links' =>
        rw [hlinks, hreplace, Option.getD_some] at hlink'
        rcases mem_replaceLink hreplace hlink' with rfl | hold
        · exact .inr hset
        · exact .inl (hs link' hold)
  | load path file options clock => cases h
  | _ => simp [Action.describes] at hdescribes

/-- Evidence that counts names the generation in force. -/
theorem topologyGeneration_of_counted (h : keepsBound s a = true) (ho : counted s a = some o) :
    o.topologyGeneration = s.topologyGeneration := by
  cases act_evidence s a with
  | quiet _ happlied =>
    rw [counted, happlied] at ho
    cases ho
  | apply s₁ o' record honly _ hregistered hyields _ happlied =>
    rw [counted, happlied, Option.bind_some] at ho
    split at ho
    next hcounts =>
      obtain rfl := Option.some.inj ho
      have hnames : namesTopology s o'.topologyGeneration = true := by
        cases a with
        | ingest o now =>
          obtain ⟨_, _, rfl⟩ := hyields
          exact h
        | ingestCounter c now =>
          obtain ⟨_, _, rfl⟩ := hyields
          exact h
        | _ => exact hyields.elim
      rw [namesTopology, Bool.or_eq_true_iff, beq_iff_eq] at hnames
      rcases hnames with hpolicy | hnames
      · have hgeneration : s₁.skeleton.topologyGeneration = s.skeleton.topologyGeneration := by
          rw [honly.skeleton_eq]
        rw [← honly.options_eq] at hpolicy
        exact (((counts_iff hregistered).1 hcounts).topology hpolicy).trans hgeneration
      · exact hnames
    · cases ho
  | load _ _ _ _ _ ha =>
    rw [ha] at h
    cases h

/-! ## Runs -/

theorem bound_initial (options : ObservatoryOptions) (now : Nanos) :
    Bound (fun _ => False) (State.initial options now) := by
  intro link hlink
  change link ∈ [] at hlink
  exact nomatch hlink

/-- In every run, the calls that set a link advance the generation exactly if none of them
    changes a link. If the generation advances only without links and evidence is of the
    generation in force, then a link from which evidence that counts takes its locality was set
    under the generation that the evidence names. -/
theorem locality_bound (options : ObservatoryOptions) (now : Nanos) (l : List Action) :
    (Run.Along act AdvancesOnChange (State.initial options now) l ↔
        Run.Along act LeavesLinks (State.initial options now) l) ∧
      (Run.Along act (fun s a => keepsBound s a = true) (State.initial options now) l →
        ∀ l₁ a l₂, l = l₁ ++ a :: l₂ → ∀ o link,
          counted (Run.final act (State.initial options now) l₁) a = some o →
          derivesFrom (Run.final act (State.initial options now) l₁) o = some link →
            Run.Occurs act (SetsUnder (link, o.topologyGeneration)) (State.initial options now) l₁) := by
  refine ⟨Run.along_congr advancesOnChange_iff _ _, ?_⟩
  rintro h l₁ a l₂ rfl o link ho hlink
  obtain ⟨hbefore, hstep, -⟩ := (Run.along_append _ _ _).1 h
  have hbound := Run.occurs_invariant (P := SetsUnder) (I := Bound)
    (fun _ _ _ hs h => hs.step h) (bound_initial options now) hbefore
  rw [topologyGeneration_of_counted hstep ho]
  exact hbound link (mem_of_derivesFrom hlink)

/-- Two processors and a publisher. -/
def processorPair : List Action :=
  [.registerProcessor { id := ascii "a", generation := 1 } 0,
   .registerProcessor { id := ascii "b", generation := 1 } 0,
   .registerPublisher { id := ascii "p", boot := 1 } fun _ => 0]

/-- A link between the two. -/
def pairLink (locality : Locality) : TopologyLink :=
  { source := ⟨.Processor, ascii "a", 1⟩, target := ⟨.Processor, ascii "b", 1⟩, locality }

/-- A read by one processor from the other, under the first generation. -/
def pairRead (sequence : EventSequence) : Action :=
  .ingest
    { eventId := sequence, type := .RemoteRead, sourcePublisher := ascii "p", publisherBoot := 1,
      coordinatorEpoch := 1, topologyGeneration := 1, sequence, timestampNs := 1,
      source := some ⟨.Processor, ascii "a", 1⟩, target := some ⟨.Processor, ascii "b", 1⟩ } 0

/-- The read takes its locality from the link that was set under the generation it names. -/
theorem locality_bound_read :
    let l := processorPair ++ [.setTopologyLink (pairLink .RemoteNuma)]
    ∃ o link, counted (Run.final act (State.initial {} 0) l) (pairRead 1) = some o ∧
      derivesFrom (Run.final act (State.initial {} 0) l) o = some link ∧
      Run.Occurs act (SetsUnder (link, o.topologyGeneration)) (State.initial {} 0) l := by
  intro l
  have hsome : ((counted (Run.final act (State.initial {} 0) l) (pairRead 1)).bind
      (derivesFrom (Run.final act (State.initial {} 0) l))).isSome = true := by decide +kernel
  obtain ⟨link, hlink⟩ := Option.isSome_iff_exists.1 hsome
  obtain ⟨o, ho, hlink⟩ := Option.bind_eq_some_iff.1 hlink
  refine ⟨o, link, ho, hlink, ?_⟩
  exact (locality_bound {} 0 (l ++ [pairRead 1])).2 (by decide +kernel) l _ [] rfl o link ho hlink

/-- A link changes between two reads. Both name the first generation and both count, each with
    the locality the link had at the time. -/
theorem changedLink_keeps_generation :
    let l := processorPair ++ [.setTopologyLink (pairLink .RemoteNuma), pairRead 1,
      .setTopologyLink (pairLink .RemoteNode), pairRead 2]
    ¬Run.Along act AdvancesOnChange (State.initial {} 0) l ∧
      (Run.final act (State.initial {} 0) l).journal.map (fun e =>
          (e.observation.topologyGeneration, countsAsCurrentEvidence e.outcome, e.locality)) =
        [(1, true, .RemoteNuma), (1, true, .RemoteNode)] := by
  intro l
  refine ⟨fun h => ?_, by decide +kernel⟩
  obtain ⟨-, hfirst, -⟩ := (Run.along_append _ _ _).1 h
  have hstored : (setTopologyLink (Run.final act (State.initial {} 0) processorPair)
      (pairLink .RemoteNuma)).1 = .ok () := by decide +kernel
  refine absurd (hfirst hstored fun hsame => ?_) (by decide +kernel)
  have hlength := congrArg List.length hsame
  exact absurd hlength (by decide +kernel)

end CoherenceObservatory
