import CoherenceObservatory.Analysis.PingPong

/-!
# Alternating ownership

What a ping-pong finding tells of the samples of its region, and when there is one. The
analysis links neighbours that go between the same two resources whatever their direction, and
looks at one stretch of them only.
-/

namespace CoherenceObservatory

variable {policy : PingPongPolicy} {evidence : RegionEvidence} {window : List OwnershipSample}

/-! ## Runs that reverse -/

/-- Ownership goes back and forth along the run, without a long gap and in short time. -/
structure PingPongPolicy.Reversing (policy : PingPongPolicy) (run : List OwnershipSample) :
    Prop where
  reverses : run.IsChain fun a b => b.source.id = a.target.id ∧ b.target.id = a.source.id
  gaps : run.IsChain fun a b =>
    b.timestampNs.toInt - a.timestampNs.toInt ≤ policy.maxGapNs.toInt
  span : ∀ a ∈ run, ∀ b ∈ run,
    b.timestampNs.toInt - a.timestampNs.toInt ≤ policy.windowNs.toInt

/-- The finding is about such a run of its region. -/
def Finding.Witnessed (f : Finding) (s : State) (policy : PingPongPolicy) : Prop :=
  ∃ evidence run, s.regionEvidence[f.subject]? = some evidence ∧
    run <:+: policy.ordered evidence ∧ policy.Reversing run ∧
    f.alternations + 1 = run.length ∧ policy.minAlternations.toNat ≤ f.alternations

/-- No two neighbours in time go the same way, unless far apart or from a resource to itself. -/
def PingPongPolicy.TakesTurns (policy : PingPongPolicy) (evidence : RegionEvidence) : Prop :=
  ∀ a b, [a, b] <:+: policy.ordered evidence →
    b.timestampNs.toInt - a.timestampNs.toInt ≤ policy.maxGapNs.toInt →
    a.source.id = b.source.id → a.target.id = b.target.id → a.source.id = a.target.id

theorem dated_of_mem_ordered (h : evidence.Dated) {a : OwnershipSample}
    (ha : a ∈ policy.ordered evidence) : 0 ≤ a.timestampNs.toInt :=
  h a (PingPongPolicy.mem_ordered.1 ha).1

variable (policy) in
/-- The window of a finding is what its stretch holds within the time allowed. -/
theorem trim_best (hdated : evidence.Dated) :
    policy.trim (Stretch.best policy.linked (policy.ordered evidence)) =
      policy.recent (Stretch.best policy.linked (policy.ordered evidence)) := by
  obtain ⟨pre, post, heq, -⟩ := Stretch.exists_around_best policy.linked (policy.ordered evidence)
  have hwithin : Stretch.best policy.linked (policy.ordered evidence) <:+: policy.ordered evidence :=
    ⟨pre, post, heq.symm⟩
  exact PingPongPolicy.trim_eq_recent
    (fun a ha => dated_of_mem_ordered hdated (hwithin.subset ha))
    (PingPongPolicy.pairwise_ordered.sublist hwithin.sublist)

theorem reversing_window (h : pingPongWindow policy evidence = some window)
    (hdated : evidence.Dated) (hturns : policy.TakesTurns evidence) : policy.Reversing window := by
  have hwithin := window_within h
  -- what linked neighbours are, with their distance as a number
  have hlinked (a b : OwnershipSample) (hab : [a, b] <:+: window) : a.alternates b = true ∧
      b.timestampNs.toInt - a.timestampNs.toInt ≤ policy.maxGapNs.toInt := by
    have hmem (x : OwnershipSample) (hx : x ∈ [a, b]) : x ∈ policy.ordered evidence :=
      (hab.trans hwithin).subset hx
    exact (PingPongPolicy.linked_iff (dated_of_mem_ordered hdated (hmem a (by simp)))
      (dated_of_mem_ordered hdated (hmem b (by simp)))).1
        (Stretch.isChain_iff_neighbours.1 (isChain_window h) a b hab)
  refine ⟨Stretch.isChain_iff_neighbours.2 fun a b hab => ?_,
    Stretch.isChain_iff_neighbours.2 fun a b hab => (hlinked a b hab).2, ?_⟩
  · obtain ⟨halternates, hgap⟩ := hlinked a b hab
    rcases alternates_iff.1 halternates with ⟨hsource, htarget⟩ | ⟨hsource, htarget⟩
    · exact ⟨htarget.symm, hsource.symm⟩
    · have hself := hturns a b (hab.trans hwithin) hgap hsource htarget
      exact ⟨hsource.symm.trans hself, htarget.symm.trans hself.symm⟩
  · obtain ⟨heq, -⟩ := pingPongWindow_eq_some.1 h
    rw [trim_best policy hdated] at heq
    subst heq
    intro a ha b hb
    have hall := (List.mem_filter.1 ha).2
    exact of_decide_eq_true hall b (List.mem_filter.1 hb).1

variable {s : State} {f : Finding} {run : List OwnershipSample}

/-- The length of the window of a finding. -/
theorem exists_window_length (h : f ∈ analyzePingPong s policy) :
    ∃ evidence window, s.regionEvidence[f.subject]? = some evidence ∧
      pingPongWindow policy evidence = some window ∧ f.alternations + 1 = window.length ∧
      policy.minAlternations.toNat ≤ f.alternations := by
  obtain ⟨evidence, first, rest, hevidence, hwindow, hreport⟩ :=
    exists_window (mem_of_mem_finalizeFindings h)
  have halternations : f.alternations = (first :: rest).length - 1 := by
    rw [← hreport]
    exact (pingPongReport_start f.subject first).2.2
  have hlength := (pingPongWindow_eq_some.1 hwindow).2.2.1
  refine ⟨evidence, first :: rest, hevidence, hwindow, ?_, ?_⟩
  · rw [halternations, List.length_cons]
    rfl
  · omega

/-- A finding is witnessed where the neighbours of its region take turns. -/
theorem witnessed_of_takesTurns (hf : f ∈ analyzePingPong s policy)
    (hevidence : s.regionEvidence[f.subject]? = some evidence) (hdated : evidence.Dated)
    (hturns : policy.TakesTurns evidence) : f.Witnessed s policy := by
  obtain ⟨evidence', window, hevidence', hwindow, hlength, hmin⟩ := exists_window_length hf
  obtain rfl := Option.some.inj (hevidence.symm.trans hevidence')
  exact ⟨evidence, window, hevidence, window_within hwindow,
    reversing_window hwindow hdated hturns, hlength, hmin⟩

/-- A finding about all the samples of its region is witnessed only there. -/
theorem Finding.Witnessed.takesTurns (h : f.Witnessed s policy) (hf : f ∈ analyzePingPong s policy)
    (hevidence : s.regionEvidence[f.subject]? = some evidence)
    (hall : pingPongWindow policy evidence = some (policy.ordered evidence)) :
    policy.TakesTurns evidence := by
  obtain ⟨evidence₁, run, hevidence₁, hwithin, hreversing, hrun, -⟩ := h
  obtain ⟨evidence₂, window, hevidence₂, hwindow, hlength, -⟩ := exists_window_length hf
  obtain rfl := Option.some.inj (hevidence.symm.trans hevidence₁)
  obtain rfl := Option.some.inj (hevidence.symm.trans hevidence₂)
  obtain rfl := Option.some.inj (hall.symm.trans hwindow)
  obtain rfl := hwithin.eq_of_length (hrun.symm.trans hlength)
  intro a b hab _ hsource _
  exact hsource.trans (Stretch.isChain_iff_neighbours.1 hreversing.reverses a b hab).1

/-- Where neighbours take turns, every finding is witnessed; a finding about all the samples of
    its region is witnessed only there. -/
theorem pingPong_witnessed (s : State) (policy : PingPongPolicy)
    (hdated : ∀ (region : MemoryRegionId) (evidence : RegionEvidence),
      s.regionEvidence[region]? = some evidence → evidence.Dated) :
    ((∀ (region : MemoryRegionId) (evidence : RegionEvidence),
        s.regionEvidence[region]? = some evidence → policy.TakesTurns evidence) →
      ∀ f ∈ analyzePingPong s policy, f.Witnessed s policy) ∧
    ∀ f ∈ analyzePingPong s policy, ∀ evidence, s.regionEvidence[f.subject]? = some evidence →
      pingPongWindow policy evidence = some (policy.ordered evidence) →
      (f.Witnessed s policy ↔ policy.TakesTurns evidence) := by
  constructor
  · intro hturns f hf
    obtain ⟨evidence, -, hevidence, -⟩ := exists_window_length hf
    exact witnessed_of_takesTurns hf hevidence (hdated _ _ hevidence) (hturns _ _ hevidence)
  · intro f hf evidence hevidence hall
    exact ⟨fun h => h.takesTurns hf hevidence hall,
      witnessed_of_takesTurns hf hevidence (hdated _ _ hevidence)⟩

/-- Ownership goes from `a` to `b` five times over. -/
def oneWay : List OwnershipSample :=
  [handover "a" "b" 1, handover "a" "b" 2, handover "a" "b" 3, handover "a" "b" 4,
    handover "a" "b" 5]

/-- Ownership that always goes the same way is reported as going back and forth. -/
theorem oneWay_unwitnessed :
    ∃ f ∈ analyzePingPong (sampledState oneWay) {}, ¬f.Witnessed (sampledState oneWay) {} := by
  have hwindow : pingPongWindow {} { samples := oneWay } =
      some (PingPongPolicy.trim {} (Stretch.best (PingPongPolicy.linked {})
        (PingPongPolicy.ordered {} { samples := oneWay }))) :=
    pingPongWindow_eq_some.2 ⟨rfl, by decide +kernel, by decide +kernel, by decide +kernel⟩
  obtain ⟨f, hf, hsubject, halternations⟩ := exists_analyzePingPong {} (by decide) hwindow
  refine ⟨f, hf, ?_⟩
  rintro ⟨evidence, run, hevidence, hwithin, hreversing, hlength, -⟩
  rw [hsubject, getElem?_sampledState, if_pos rfl] at hevidence
  obtain rfl := Option.some.inj hevidence
  -- four alternations: the run would be all the samples
  have hall : run = PingPongPolicy.ordered {} { samples := oneWay } := by
    refine hwithin.eq_of_length ?_
    rw [← hlength, halternations]
    decide +kernel
  have hreverses := hreversing.reverses
  rw [hall] at hreverses
  exact absurd hreverses (by decide +kernel)

/-- Two owners that take turns. -/
theorem pingPong_witnessed_turns :
    ∃ f ∈ analyzePingPong (sampledState turns) {}, f.Witnessed (sampledState turns) {} := by
  obtain ⟨f, hf, -⟩ := exists_analyzePingPong {} (by decide) pingPongWindow_turns
  have hdated : RegionEvidence.Dated { samples := turns } :=
    (by decide +kernel : ∀ a ∈ turns, 0 ≤ a.timestampNs.toInt)
  have hturns : PingPongPolicy.TakesTurns {} { samples := turns } :=
    Stretch.isChain_iff_neighbours.1 (by decide +kernel)
  exact ⟨f, hf, (pingPong_witnessed (sampledState turns) {} (forall_sampledState hdated)).1
    (forall_sampledState hturns) f hf⟩

/-! ## Completeness -/

/-- A run the policy asks to report. -/
structure PingPongPolicy.Reportable (policy : PingPongPolicy) (evidence : RegionEvidence)
    (run : List OwnershipSample) : Prop where
  contiguous : run <:+: policy.ordered evidence
  reversing : policy.Reversing run
  long : policy.minAlternations.toNat + 1 ≤ run.length
  participants : policy.minParticipants.toNat ≤ (participantsOf run).length

/-- The first of the longest stretches of a region holds enough samples near its end, and,
where two participants are asked for, does not stay with one resource. -/
structure PingPongPolicy.Dense (policy : PingPongPolicy) (evidence : RegionEvidence) : Prop where
  two : 2 ≤ (policy.ordered evidence).length
  recent : ∀ run, Stretch.FirstLongest policy.linked (policy.ordered evidence) run →
    policy.minAlternations.toNat + 1 ≤ (policy.recent run).length
  apart : ∀ run, Stretch.FirstLongest policy.linked (policy.ordered evidence) run →
    2 ≤ policy.minParticipants.toNat → ∀ a ∈ run, a.source.id ≠ a.target.id

/-- A run that reverses has at most two participants. -/
theorem PingPongPolicy.Reversing.length_participantsOf_le (h : policy.Reversing run) :
    (participantsOf run).length ≤ 2 := by
  have hchain : run.IsChain fun a b => a.alternates b = true :=
    h.reverses.imp fun a b hab => alternates_iff.2 (.inl ⟨hab.2.symm, hab.1.symm⟩)
  cases run with
  | nil => decide
  | cons a rest =>
    rw [length_participantsOf hchain List.mem_cons_self]
    split <;> omega

theorem exists_window_iff_dense (hdated : evidence.Dated) (hrun : policy.Reportable evidence run) :
    (∃ window, pingPongWindow policy evidence = some window) ↔ policy.Dense evidence := by
  have hbest := Stretch.firstLongest_best policy.linked (policy.ordered evidence)
  have htrim := trim_best policy hdated
  simp only [pingPongWindow_eq_some]
  generalize Stretch.best policy.linked (policy.ordered evidence) = stretch at hbest htrim ⊢
  have hchain : stretch.IsChain fun a b => a.alternates b = true :=
    hbest.chain.imp fun _ _ => alternates_of_linked
  have hsuffix : policy.recent stretch <:+ stretch := by
    rw [← htrim]
    exact List.dropWhile_suffix _
  rw [htrim]
  constructor
  · rintro ⟨window, rfl, htwo, hlong, hparticipants⟩
    refine ⟨htwo, fun run h => ?_, fun run h hmin a ha => ?_⟩
    · rwa [h.eq hbest]
    · -- a sample of the window has two participants, and goes between the same as this one
      rw [h.eq hbest] at ha
      obtain ⟨b, hb⟩ := List.exists_mem_of_length_pos (Nat.zero_lt_of_lt hlong)
      have hab := alternates_iff.1 (alternates_of_mem hchain ha (hsuffix.subset hb))
      rw [length_participantsOf (hchain.suffix hsuffix) hb] at hparticipants
      split at hparticipants
      · omega
      · grind
  · intro h
    have hlong := h.recent stretch hbest
    obtain ⟨b, hb⟩ := List.exists_mem_of_length_pos (Nat.zero_lt_of_lt hlong)
    refine ⟨_, rfl, h.two, hlong, ?_⟩
    have hle := hrun.participants.trans hrun.reversing.length_participantsOf_le
    rw [length_participantsOf (hchain.suffix hsuffix) hb]
    split
    case isTrue heq =>
      by_contra hmin
      exact h.apart stretch hbest (by omega) b (hsuffix.subset hb) heq
    case isFalse => exact hle

/-- Every run the policy asks for is reported, before the findings are cut to a number, exactly
    where the longest stretch of its region is dense. -/
theorem pingPong_reported_iff (s : State) (policy : PingPongPolicy)
    (hdated : ∀ (region : MemoryRegionId) (evidence : RegionEvidence),
      s.regionEvidence[region]? = some evidence → evidence.Dated) :
    (∀ (region : MemoryRegionId) (evidence : RegionEvidence),
      s.regionEvidence[region]? = some evidence →
        ∀ run, policy.Reportable evidence run →
          ∃ f ∈ pingPongFindings s policy, f.subject = region) ↔
      ∀ (region : MemoryRegionId) (evidence : RegionEvidence),
        s.regionEvidence[region]? = some evidence →
          ∀ run, policy.Reportable evidence run → policy.Dense evidence := by
  refine forall_congr' fun region => forall_congr' fun evidence => forall_congr' fun hevidence =>
    forall_congr' fun run => forall_congr' fun hrun => ?_
  rw [exists_finding_iff hevidence]
  exact exists_window_iff_dense (hdated region evidence hevidence) hrun

/-- The same two owners. -/
theorem pingPong_reported_turns :
    (∀ (region : MemoryRegionId) (evidence : RegionEvidence),
      (sampledState turns).regionEvidence[region]? = some evidence →
        ∀ run, PingPongPolicy.Reportable {} evidence run →
          ∃ f ∈ pingPongFindings (sampledState turns) {}, f.subject = region) ↔
      ∀ (region : MemoryRegionId) (evidence : RegionEvidence),
        (sampledState turns).regionEvidence[region]? = some evidence →
          ∀ run, PingPongPolicy.Reportable {} evidence run → PingPongPolicy.Dense {} evidence :=
  pingPong_reported_iff (sampledState turns) {} (forall_sampledState
    (by decide +kernel : ∀ a ∈ turns, 0 ≤ a.timestampNs.toInt))

/-- One reversal within the window, and a third sample long after it. -/
def late : List OwnershipSample :=
  [handover "a" "b" 1, handover "b" "a" 2, handover "a" "b" 101]

/-- The third sample is out of the window, but not beyond the gap. -/
def latePolicy : PingPongPolicy := { minAlternations := 1, windowNs := 1, maxGapNs := 99 }

/-- The first two samples are a run of their own, but the scan goes on to the third. -/
theorem late_unreported :
    ¬∀ (region : MemoryRegionId) (evidence : RegionEvidence),
      (sampledState late).regionEvidence[region]? = some evidence →
        ∀ run, latePolicy.Reportable evidence run →
          ∃ f ∈ pingPongFindings (sampledState late) latePolicy, f.subject = region := by
  intro h
  have hr : (sampledState late).regionEvidence[ascii "r"]? = some { samples := late } := by
    rw [getElem?_sampledState, if_pos rfl]
  have hrun : latePolicy.Reportable { samples := late }
      [handover "a" "b" 1, handover "b" "a" 2] :=
    { contiguous := ⟨[], [handover "a" "b" 101], rfl⟩
      reversing := ⟨by decide +kernel, by decide +kernel, by decide +kernel⟩
      long := by decide +kernel
      participants := by decide +kernel }
  -- the longest stretch has three samples, only one of them within the window
  obtain ⟨window, hwindow⟩ := (exists_finding_iff hr).1 (h _ _ hr _ hrun)
  have hnone : (pingPongWindow latePolicy { samples := late }).isSome = false := by
    decide +kernel
  rw [hwindow] at hnone
  cases hnone

end CoherenceObservatory
