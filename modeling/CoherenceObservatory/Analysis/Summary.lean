import CoherenceObservatory.Analysis.PingPong

/-!
# The summary of a window

What a ping-pong finding says of the samples it is about is gathered in the loop that renders
their directions, and the loop ends where the text becomes too long.
-/

namespace CoherenceObservatory

open List

variable {policy : PingPongPolicy} {evidence : RegionEvidence} {window : List OwnershipSample}
  {s : State}

/-- The finding summarises the samples of the window, all of them. -/
structure Finding.Summarises (f : Finding) (window : List OwnershipSample) : Prop where
  precision : Precision.IsWeakest (window.map (·.precision)) f.precision
  reality : f.reality = Reality.ofAll (window.map (·.provenance.realityOf))
  participants : ∀ id, id ∈ f.participants ↔ id ∈ participantsOf window
  transfers : f.cost.ownershipTransfers.toNat = f.alternations + 1

/-- The directions of samples, behind others or not. -/
def rendered : Bool → List OwnershipSample → Text
  | _, [] => []
  | first, sample :: rest =>
    (if first then [] else [32]) ++ sample.directionText ++ rendered false rest

/-- Every direction has a mark of its own. -/
theorem length_le_rendered (first : Bool) (l : List OwnershipSample) :
    l.length ≤ (rendered first l).length := by
  induction l generalizing first with
  | nil => exact Nat.zero_le _
  | cons sample rest ih =>
    have := ih false
    simp only [rendered, OwnershipSample.directionText, length_append, length_cons,
      length_nil]
    omega

theorem rendered_true (l : List OwnershipSample) :
    rendered true l = [32].intercalate (l.map (·.directionText)) := by
  cases l with
  | nil => rfl
  | cons a l =>
    induction l generalizing a with
    | nil => simp [rendered]
    | cons b l ih =>
      have htail : rendered true (b :: l) = b.directionText ++ rendered false l := rfl
      have hhead : rendered true (a :: b :: l) =
          a.directionText ++ ([32] ++ b.directionText ++ rendered false l) := rfl
      rw [map_cons, map_cons, intercalate_cons_cons, ← map_cons, ← ih, hhead,
        htail, append_assoc, append_assoc]

namespace PingPongSummary

variable (sum : PingPongSummary) (first : Bool)

theorem note_directionSequence (sample : OwnershipSample) :
    (sum.note first sample).finding.directionSequence =
      sum.finding.directionSequence ++ (if first then [] else [32]) ++ sample.directionText := rfl

/-- The directions so far and those to come, before and after a sample is noted. -/
theorem directionSequence_append_rendered (sample : OwnershipSample) (rest : List OwnershipSample) :
    sum.finding.directionSequence ++ rendered first (sample :: rest) =
      (sum.note first sample).count.finding.directionSequence ++ rendered false rest := by
  change _ = (sum.note first sample).finding.directionSequence ++ rendered false rest
  rw [note_directionSequence, rendered, append_assoc, append_assoc, append_assoc]

theorem transfers_note_count (sample : OwnershipSample) (n : Nat) :
    (sum.note first sample).count.transfers + .ofNat n = sum.transfers + .ofNat (n + 1) := by
  have hone : UInt64.ofNat 1 = 1 := rfl
  simp only [count, note]
  rw [Nat.add_comm n, UInt64.ofNat_add, hone, UInt64.add_assoc]

/-- The loop visits all samples where their directions fit. -/
theorem summarize_of_fits (l : List OwnershipSample)
    (h : (sum.finding.directionSequence ++ rendered first l).length ≤ 160) :
    (sum.summarize first l).weakest = (l.map (·.precision)).foldl Precision.weakest sum.weakest ∧
      (sum.summarize first l).reality =
        (l.map (·.provenance.realityOf)).foldl Reality.combine sum.reality ∧
      (sum.summarize first l).transfers = sum.transfers + .ofNat l.length := by
  induction l generalizing sum first with
  | nil => exact ⟨rfl, rfl, (UInt64.add_zero _).symm⟩
  | cons sample rest ih =>
    rw [directionSequence_append_rendered] at h
    have hfits : ¬(sum.note first sample).finding.directionSequence.length > 160 := by
      have hle := (length_append ▸ h : _ + _ ≤ 160)
      exact Nat.not_lt.2 ((Nat.le_add_right _ _).trans hle)
    rw [summarize]
    dsimp only
    rw [if_neg hfits]
    obtain ⟨hweakest, hreality, htransfers⟩ := ih _ _ h
    rw [hweakest, hreality, htransfers, map_cons, map_cons, foldl_cons,
      foldl_cons, length_cons, ← transfers_note_count sum first sample]
    simp only [count, note, and_self]

/-- Otherwise it stops before it has counted all of them. -/
theorem summarize_of_not_fits (l : List OwnershipSample)
    (hsum : sum.finding.directionSequence.length ≤ 160)
    (h : 160 < (sum.finding.directionSequence ++ rendered first l).length) :
    ∃ n, n < l.length ∧ sum.finding.directionSequence.length + n ≤ 160 ∧
      (sum.summarize first l).transfers = sum.transfers + .ofNat n := by
  induction l generalizing sum first with
  | nil =>
    rw [rendered, append_nil] at h
    omega
  | cons sample rest ih =>
    rw [directionSequence_append_rendered] at h
    rw [summarize]
    dsimp only
    split
    case isTrue =>
      have hzero : UInt64.ofNat 0 = 0 := rfl
      refine ⟨0, by simp, by omega, ?_⟩
      simp only [note, hzero, UInt64.add_zero]
    case isFalse hfits =>
      obtain ⟨n, hn, hle, htransfers⟩ := ih (sum.note first sample).count false
        (Nat.not_lt.1 hfits) h
      have hlonger : sum.finding.directionSequence.length + 1 ≤
          (sum.note first sample).finding.directionSequence.length := by
        rw [note_directionSequence, OwnershipSample.directionText]
        simp only [length_append, length_singleton]
        omega
      change (sum.note first sample).finding.directionSequence.length + n ≤ 160 at hle
      refine ⟨n + 1, by simpa using hn, by omega, ?_⟩
      rw [htransfers, transfers_note_count]

/-- A sample whose endpoints are noted adds no participant. -/
theorem summarize_participants (l : List OwnershipSample)
    (h : ∀ a ∈ l, a.source.id ∈ sum.finding.participants ∧
      a.target.id ∈ sum.finding.participants) :
    (sum.summarize first l).finding.participants = sum.finding.participants := by
  induction l generalizing sum first with
  | nil => rfl
  | cons sample rest ih =>
    obtain ⟨⟨hsource, htarget⟩, hrest⟩ := forall_mem_cons.1 h
    have hnote : (sum.note first sample).finding.participants = sum.finding.participants := by
      simp only [note, Finding.pushEvidence, Finding.addParticipant, hsource, htarget, or_true,
        if_true]
    rw [summarize]
    dsimp only
    split
    · exact hnote
    · rw [ih]
      · exact hnote
      · change ∀ a ∈ rest, a.source.id ∈ (sum.note first sample).finding.participants ∧
          a.target.id ∈ (sum.note first sample).finding.participants
        rwa [hnote]

end PingPongSummary

variable {sum : PingPongSummary} {a : OwnershipSample} {rest : List OwnershipSample}
  {region : MemoryRegionId}

/-- The loop gathers the endpoints of the first sample, and so those of the window. -/
theorem mem_participants_summarize (hsum : sum.finding.participants = [])
    (h : (a :: rest).IsChain fun a b => a.alternates b = true) {id : Text} :
    id ∈ (sum.summarize true (a :: rest)).finding.participants ↔
      id ∈ participantsOf (a :: rest) := by
  rw [mem_participantsOf_iff h mem_cons_self]
  have hnote : ∀ {id}, id ∈ (sum.note true a).finding.participants ↔
      id = a.source.id ∨ id = a.target.id := by
    intro id
    simp only [PingPongSummary.note, Finding.pushEvidence, Finding.addParticipant, hsum]
    by_cases hself : a.target.id = a.source.id
    · simp [hself, Limits.maxAttributionCandidates]
    · simp [hself, Limits.maxAttributionCandidates]
  rw [PingPongSummary.summarize]
  dsimp only
  split
  · exact hnote
  · rw [PingPongSummary.summarize_participants]
    · exact hnote
    · intro b hb
      change b.source.id ∈ (sum.note true a).finding.participants ∧
        b.target.id ∈ (sum.note true a).finding.participants
      rw [hnote, hnote]
      have := alternates_iff.1 (alternates_of_mem h mem_cons_self (mem_cons_of_mem a hb))
      grind

theorem estimateCost_ownershipTransfers (model : CostModel) (inputs : CostInputs) :
    (estimateCost model inputs).ownershipTransfers = inputs.ownershipTransfers := by
  simp only [estimateCost, addLatency]
  split_ifs <;> rfl

variable (s policy evidence) in
/-- What a report takes from the loop over its window. -/
theorem pingPongReport_summary
    (hsum : sum = PingPongSummary.summarize
      { finding := pingPongStart s region a window, reality := a.provenance.realityOf }
      true window) :
    (pingPongReport s policy region evidence a window).precision = sum.weakest ∧
      (pingPongReport s policy region evidence a window).reality = sum.reality ∧
      (∀ id, id ∈ (pingPongReport s policy region evidence a window).participants ↔
        id ∈ sum.finding.participants) ∧
      (pingPongReport s policy region evidence a window).cost.ownershipTransfers =
        sum.transfers := by
  simp only [pingPongReport, Finding.sort, Finding.addEvicted, Finding.addMetric,
    Finding.addReason, ← hsum, estimateCost_ownershipTransfers, mem_dedup,
    mem_insertionSort, implies_true, and_self]

theorem exists_transfersMetric (region : MemoryRegionId) (a : OwnershipSample) :
    ∃ m ∈ (pingPongReport s policy region evidence a window).metrics,
      m.name = ascii "ownership_transfers" ∧
      m.value =
        .ofUInt64 (pingPongReport s policy region evidence a window).cost.ownershipTransfers := by
  obtain ⟨sum, hsum⟩ : ∃ sum, sum = PingPongSummary.summarize
      { finding := pingPongStart s region a window, reality := a.provenance.realityOf }
      true window := ⟨_, rfl⟩
  rw [(pingPongReport_summary policy evidence s hsum).2.2.2, hsum]
  simp only [pingPongReport, Finding.sort, Finding.addEvicted, Finding.addMetric,
    Finding.addReason, mem_insertionSort, mem_append, mem_singleton]
  exact ⟨_, .inl (.inr rfl), rfl, rfl⟩

/-- A report summarises its window where the directions of the window fit into the text. -/
theorem pingPongReport_summarises_iff (h : (a :: rest).IsChain fun a b => a.alternates b = true) :
    (pingPongReport s policy region evidence a (a :: rest)).Summarises (a :: rest) ↔
      ([32].intercalate ((a :: rest).map (·.directionText))).length ≤ 160 := by
  rw [← rendered_true]
  obtain ⟨start, hstart⟩ : ∃ start : PingPongSummary, start =
    { finding := pingPongStart s region a (a :: rest), reality := a.provenance.realityOf } :=
    ⟨_, rfl⟩
  obtain ⟨hempty, hnone, hzero, hexact, hseed⟩ : start.finding.directionSequence = [] ∧
      start.finding.participants = [] ∧ start.transfers = 0 ∧ start.weakest = .ExactEvent ∧
      start.reality = a.provenance.realityOf := by
    simp only [hstart, pingPongStart, and_self]
  obtain ⟨hprecision, hreality, hparticipants, htransfers⟩ :=
    pingPongReport_summary policy evidence s
      (congrArg (PingPongSummary.summarize · true (a :: rest)) hstart)
  have halternations : (pingPongReport s policy region evidence a (a :: rest)).alternations =
      (a :: rest).length - 1 := (pingPongReport_start region a).2.2
  constructor
  · intro hsummary
    by_contra hlong
    -- the loop stops before the last sample
    obtain ⟨n, hn, hle, hcount⟩ := PingPongSummary.summarize_of_not_fits start true (a :: rest)
      (by rw [hempty]; exact Nat.zero_le _) (by rw [hempty]; exact Nat.lt_of_not_le hlong)
    have heq := hsummary.transfers
    rw [htransfers, hcount, halternations, hzero, UInt64.zero_add, UInt64.toNat_ofNat'] at heq
    rw [length_cons] at hn heq
    omega
  -- nothing is left out, so the folds run over the whole list
  · intro hfits
    obtain ⟨hweakest, hcombined, hcount⟩ := PingPongSummary.summarize_of_fits start true (a :: rest)
      (by rw [hempty]; exact hfits)
    refine ⟨?_, ?_, fun id => ?_, ?_⟩
    · rw [hprecision, hweakest, hexact]
      exact Precision.isWeakest_foldl_exactEvent
        (map_eq_nil_iff.not.2 (cons_ne_nil a rest))
    · rw [hreality, hcombined, hseed, map_cons, foldl_cons, Reality.combine_self,
        Reality.foldl_combine]
    · rw [hparticipants]
      exact mem_participants_summarize hnone h
    · have hle := length_le_rendered true (a :: rest)
      rw [htransfers, hcount, halternations, hzero, UInt64.zero_add, UInt64.toNat_ofNat']
      rw [length_cons] at hle ⊢
      omega

theorem isChain_alternates_window (h : pingPongWindow policy evidence = some window) :
    window.IsChain fun a b => a.alternates b = true :=
  (isChain_window h).imp fun _ _ => alternates_of_linked

/-- A finding is about a window, shows as its transfers what it costs, and summarises the window
    exactly where the directions of the window's samples fit into the text. -/
theorem pingPong_summarises_iff (s : State) (policy : PingPongPolicy) :
    ∀ f ∈ analyzePingPong s policy, ∃ evidence window,
      s.regionEvidence[f.subject]? = some evidence ∧
      pingPongWindow policy evidence = some window ∧ f.alternations + 1 = window.length ∧
      (∃ m ∈ f.metrics, m.name = ascii "ownership_transfers" ∧
        m.value = .ofUInt64 f.cost.ownershipTransfers) ∧
      (f.Summarises window ↔
        ([32].intercalate (window.map (·.directionText))).length ≤ 160) := by
  intro f hf
  obtain ⟨evidence, first, rest, hevidence, hwindow, hreport⟩ :=
    exists_window (mem_of_mem_finalizeFindings hf)
  refine ⟨evidence, first :: rest, hevidence, hwindow, ?_, ?_, ?_⟩
  · rw [← hreport, (pingPongReport_start f.subject first).2.2]
    rfl
  · rw [← hreport]
    exact exists_transfersMetric f.subject first
  · rw [← hreport]
    exact pingPongReport_summarises_iff (isChain_alternates_window hwindow)

/-- Two owners that take turns. -/
theorem pingPong_summarises_turns : ∃ f ∈ analyzePingPong (sampledState turns) {},
    ∃ evidence window, (sampledState turns).regionEvidence[f.subject]? = some evidence ∧
      pingPongWindow {} evidence = some window ∧ f.alternations + 1 = window.length ∧
      (∃ m ∈ f.metrics, m.name = ascii "ownership_transfers" ∧
        m.value = .ofUInt64 f.cost.ownershipTransfers) ∧
      (f.Summarises window ↔
        ([32].intercalate (window.map (·.directionText))).length ≤ 160) := by
  obtain ⟨f, hf, -⟩ := exists_analyzePingPong {} (by decide) pingPongWindow_turns
  exact ⟨f, hf, pingPong_summarises_iff (sampledState turns) {} f hf⟩

/-- Resources with long names. -/
def longNames : List OwnershipSample :=
  let a := "rack-0000000001-socket-0000000000-core-01"
  let b := "rack-0000000001-socket-0000000000-core-02"
  [handover a b 1, handover b a 2, handover a b 3, handover b a 4, handover a b 5]

/-- The finding about five transfers counts one of them. -/
theorem longNames_unsummarised : ∃ f ∈ analyzePingPong (sampledState longNames) {},
    ∃ window, pingPongWindow {} { samples := longNames } = some window ∧ f.alternations = 4 ∧
      ¬f.Summarises window := by
  have hwindow : pingPongWindow {} { samples := longNames } =
      some (PingPongPolicy.trim {} (Stretch.best (PingPongPolicy.linked {})
        (PingPongPolicy.ordered {} { samples := longNames }))) :=
    pingPongWindow_eq_some.2 ⟨rfl, by decide +kernel, by decide +kernel, by decide +kernel⟩
  obtain ⟨f, hf, hsubject, halternations⟩ := exists_analyzePingPong {} (by decide) hwindow
  refine ⟨f, hf, _, hwindow, halternations.trans (by decide +kernel), fun hsummary => ?_⟩
  obtain ⟨evidence, first, rest, hevidence, hfirst, hreport⟩ :=
    exists_window (mem_of_mem_finalizeFindings hf)
  rw [hsubject, getElem?_sampledState, if_pos rfl] at hevidence
  obtain rfl := Option.some.inj hevidence
  have heq := Option.some.inj (hwindow.symm.trans hfirst)
  have hfits := (pingPongReport_summarises_iff (isChain_alternates_window hfirst)).1
    (hreport.symm ▸ heq ▸ hsummary)
  rw [← heq] at hfits
  exact absurd hfits (by decide +kernel)

end CoherenceObservatory
