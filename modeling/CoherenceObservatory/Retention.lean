import CoherenceObservatory.Backing
import CoherenceObservatory.Counter.Duplicates
import CoherenceObservatory.Generations
import CoherenceObservatory.Ledger

/-!
# What is retained

The journal keeps the latest entries, and the samples are kept per region, so many for each of
so many regions. A queue next to the table of regions says which became tracked first, and that
one makes room when the table is full.
-/

namespace CoherenceObservatory

open Std Limits ExtTreeMap Option

/-! ## Stores -/

/-- What is retained of the observations that were applied, with the tallies of what was
dropped. -/
structure Retention where
  journal : List JournalEntry
  regions : ExtTreeMap Text RegionEvidence
  order : List Text
  droppedEntries : UInt64
  droppedSamples : UInt64

/-- What is retained of evidence. -/
def Evidence.retention (e : Evidence) : Retention where
  journal := e.journal
  regions := e.regionEvidence
  order := e.regionEvidenceOrder
  droppedEntries := e.droppedJournalEntries
  droppedSamples := e.droppedRegionSamples

/-- What a state retains. -/
def State.retention (s : State) : Retention := s.evidence.retention

/-- The evidence of a region with one more sample. -/
def RegionEvidence.grow (e : RegionEvidence) (o : Observation) : RegionEvidence :=
  let full := e.samples.length ≥ maxRegionSamples
  { samples := (if full then e.samples.drop 1 else e.samples) ++ [sampleOf o]
    relevantTotal := e.relevantTotal + 1
    evicted := if full then e.evicted + 1 else e.evicted
    lastUpdateNs := o.timestampNs }

/-- What was sampled of a region is held or was evicted. -/
structure RegionEvidence.Balanced (e : RegionEvidence) : Prop where
  length_le : e.samples.length ≤ maxRegionSamples
  relevantTotal_eq : e.relevantTotal = e.evicted + UInt64.ofNat e.samples.length

variable {t : Retention} {s : State} {o : Observation} {a : Action} {key : MemoryRegionId}
  {n i : Nat} {k q : UInt64}

namespace Retention

/-- The journal with one more entry. -/
def append (t : Retention) (entry : JournalEntry) : Retention :=
  { t with
    journal := (if t.journal.length ≥ maxObservationJournal then t.journal.drop 1
      else t.journal) ++ [entry]
    droppedEntries := if t.journal.length ≥ maxObservationJournal
      then t.droppedEntries + 1 else t.droppedEntries }

/-- The tables are well formed: a tracked region holds samples, and stands in the queue. -/
structure WellFormed (t : Retention) : Prop where
  journal_le : t.journal.length ≤ maxObservationJournal
  queue : t.order.Perm t.regions.keys
  queue_le : t.order.length ≤ maxTrackedRegions
  balanced : ∀ (k : Text) (e : RegionEvidence), t.regions[k]? = some e → e.Balanced
  sampled : ∀ (k : Text) (e : RegionEvidence), t.regions[k]? = some e → e.samples ≠ []

theorem length_append (t : Retention) (entry : JournalEntry) :
    (t.append entry).journal.length =
      if t.journal.length ≥ maxObservationJournal then t.journal.length
      else t.journal.length + 1 := by
  rw [append, List.length_append, List.length_singleton]
  split
  next hfull =>
    have hpos : 0 < maxObservationJournal := by decide
    rw [List.length_drop]
    omega
  next => rfl

theorem WellFormed.append (h : t.WellFormed) (entry : JournalEntry) :
    (t.append entry).WellFormed where
  journal_le := by
    have := h.journal_le
    rw [length_append]
    split <;> omega
  queue := h.queue
  queue_le := h.queue_le
  balanced := h.balanced
  sampled := h.sampled

end Retention

/-- What a sample of the region `key` does to the tables. -/
inductive SampleStep (t : Retention) (key : Text) (o : Observation) (t' : Retention) : Prop
  /-- The region is tracked. -/
  | tracked (e : RegionEvidence) (known : t.regions[key]? = some e)
      (eq : t' = { t with
        regions := t.regions.insert key (e.grow o)
        droppedSamples := if e.samples.length ≥ maxRegionSamples
          then t.droppedSamples + 1 else t.droppedSamples })
  /-- There is room for one more region. -/
  | added (unknown : key ∉ t.regions) (room : t.regions.size < maxTrackedRegions)
      (eq : t' = { t with
        regions := t.regions.insert key (RegionEvidence.grow {} o)
        order := t.order ++ [key] })
  /-- The region that was tracked first makes room. -/
  | replaced (victim : Text) (rest : List Text) (e : RegionEvidence) (unknown : key ∉ t.regions)
      (full : maxTrackedRegions ≤ t.regions.size) (order_eq : t.order = victim :: rest)
      (known : t.regions[victim]? = some e)
      (eq : t' = { t with
        regions := (t.regions.erase victim).insert key (RegionEvidence.grow {} o)
        order := rest ++ [key]
        droppedSamples := t.droppedSamples + 1 })

/-! ## Applying an observation -/

theorem insert_insert {m : ExtTreeMap Text RegionEvidence} {k : Text} {e e' : RegionEvidence} :
    (m.insert k e).insert k e' = m.insert k e' := by
  refine ext_getElem? fun k' => ?_
  rw [getElem?_insert, getElem?_insert, getElem?_insert]
  split <;> rfl

theorem accumulateAll_retention (s : State) (o : Observation) :
    (accumulateAll s o).retention = s.retention := by
  unfold accumulateAll
  -- only the aggregates and their own tally of losses change
  induction AggregateDimension.all generalizing s with
  | nil => rfl
  | cons d ds ih =>
    rw [List.foldl_cons, ih]
    dsimp only [State.retention, State.evidence, Evidence.retention]
    split <;> rfl

theorem appendJournal_retention (s : State) (entry : JournalEntry) :
    (appendJournal s entry).retention = s.retention.append entry := by
  have hlength : s.retention.journal.length = s.journal.length := rfl
  by_cases hfull : s.journal.length ≥ maxObservationJournal
  · rw [appendJournal, if_pos hfull, Retention.append, hlength, if_pos hfull, if_pos hfull]
    rfl
  · rw [appendJournal, if_neg hfull, Retention.append, hlength, if_neg hfull, if_neg hfull]
    rfl

/-- A region that is sampled is tracked, becomes tracked, or takes the place of the first. -/
theorem sampleRegion_retention (h : s.retention.WellFormed) (key : Text) (o : Observation) :
    SampleStep s.retention key o (sampleRegion s key o).retention := by
  have hmem : key ∈ s.regionEvidence ↔ ∃ e, s.regionEvidence[key]? = some e := by
    rw [mem_iff_isSome_getElem?, isSome_iff_exists]
  by_cases hkey : key ∈ s.regionEvidence
  · obtain ⟨e, he⟩ := hmem.1 hkey
    refine .tracked e he ?_
    unfold sampleRegion trackRegion
    rw [if_pos hkey]
    dsimp only
    rw [he, getD_some]
    simp only [State.retention, State.evidence, Evidence.retention, RegionEvidence.grow]
    congr 1
    · split <;> rfl
    · exact apply_ite LossReport.droppedRegionSamples (_ ≥ _) _ _
  -- a region that was not tracked starts without samples
  have hempty : ¬([] : List OwnershipSample).length ≥ maxRegionSamples := by decide
  by_cases hfull : s.regionEvidence.size ≥ maxTrackedRegions
  · have hlength : s.regionEvidenceOrder.length = s.regionEvidence.size :=
      length_of_perm_keys h.queue
    cases horder : s.regionEvidenceOrder with
    | nil =>
      rw [horder, List.length_nil] at hlength
      rw [← hlength] at hfull
      exact absurd hfull (by decide)
    -- the oldest region is evicted
    | cons victim rest =>
      have hvictim : victim ∈ s.regionEvidence := by
        refine ((perm_keys_iff.1 h.queue).2 victim).1 ?_
        change victim ∈ s.regionEvidenceOrder
        rw [horder]
        exact List.mem_cons_self
      obtain ⟨e, he⟩ := isSome_iff_exists.1 (mem_iff_isSome_getElem?.1 hvictim)
      refine .replaced victim rest e hkey hfull horder he ?_
      unfold sampleRegion trackRegion
      rw [if_neg hkey, if_pos hfull, horder, evictRegion, if_pos hvictim]
      simp only [getElem?_insert_self, getD_some, if_neg hempty, if_true,
        insert_insert, State.retention, State.evidence, Evidence.retention, RegionEvidence.grow]
  -- there is room for one more
  · refine .added hkey (Nat.not_le.1 hfull) ?_
    unfold sampleRegion trackRegion
    rw [if_neg hkey, if_neg hfull]
    simp only [getElem?_insert_self, getD_some, if_neg hempty,
      Bool.false_eq_true, if_false, insert_insert, State.retention, State.evidence,
      Evidence.retention, RegionEvidence.grow]

/-- The region an applied observation becomes a sample of. -/
def JournalEntry.sampledRegion (entry : JournalEntry) : Option MemoryRegionId :=
  if countsAsCurrentEvidence entry.outcome && isRegionRelevant entry.observation.type
  then entry.observation.region else none

/-- What applying an observation does to what is retained. -/
inductive ApplyStep (t : Retention) (entry : JournalEntry) (t' : Retention) : Prop
  | unsampled (region_eq : entry.sampledRegion = none) (eq : t' = t.append entry)
  | sampled (key : MemoryRegionId) (region_eq : entry.sampledRegion = some key)
      (step : SampleStep (t.append entry) key entry.observation t')

theorem applyEvidence_retention (h : s.retention.WellFormed) (o : Observation)
    (r : AttributionResult) (record : StaleEvidenceRecord) :
    ApplyStep s.retention ⟨o, r.outcome, r.locality, r.localityEstablished⟩
      (applyEvidence s o r record).retention := by
  have hstale : (if countsAsCurrentEvidence r.outcome then s else recordStale s record).retention =
      s.retention := by
    split <;> rfl
  have hcounted (s : State) : (if countsAsCurrentEvidence r.outcome then accumulateAll s o
      else s).retention = s.retention := by
    split
    · exact accumulateAll_retention s o
    · rfl
  have hjournal (entry : JournalEntry) : (appendJournal (if countsAsCurrentEvidence r.outcome
      then accumulateAll (if countsAsCurrentEvidence r.outcome then s else recordStale s record) o
      else if countsAsCurrentEvidence r.outcome then s else recordStale s record)
        entry).retention = s.retention.append entry := by
    rw [appendJournal_retention, hcounted, hstale]
  unfold applyEvidence applyObservation
  dsimp only
  split
  next hregion => exact .unsampled (by simp [JournalEntry.sampledRegion, hregion]) (hjournal _)
  next key hregion =>
    split
    next hsampled =>
      refine .sampled key (by rw [JournalEntry.sampledRegion, if_pos hsampled, hregion]) ?_
      rw [← hjournal]
      refine sampleRegion_retention ?_ key o
      rw [hjournal]
      exact h.append _
    next hsampled =>
      exact .unsampled (by rw [JournalEntry.sampledRegion, if_neg hsampled]) (hjournal _)

/-! ## Steps -/

theorem RegionEvidence.Balanced.empty : ({} : RegionEvidence).Balanced where
  length_le := Nat.zero_le _
  relevantTotal_eq := rfl

namespace RegionEvidence

variable (e : RegionEvidence) (o : Observation)

theorem length_grow : (e.grow o).samples.length =
    if e.samples.length ≥ maxRegionSamples then e.samples.length
    else e.samples.length + 1 := by
  rw [grow, List.length_append, List.length_singleton]
  split
  next hfull =>
    have hpos : 0 < maxRegionSamples := by decide
    rw [List.length_drop]
    omega
  next => rfl

theorem grow_samples_ne_nil : (e.grow o).samples ≠ [] := by
  simp [grow]

variable {e}

theorem Balanced.grow (h : e.Balanced) : (e.grow o).Balanced where
  length_le := by
    have := h.length_le
    rw [length_grow]
    split <;> omega
  relevantTotal_eq := by
    rw [length_grow]
    change e.relevantTotal + 1 = (if _ then e.evicted + 1 else e.evicted) + _
    rw [h.relevantTotal_eq]
    split
    · rw [UInt64.add_assoc, UInt64.add_assoc, UInt64.add_comm 1]
    · rw [UInt64.ofNat_add, UInt64.add_assoc]
      rfl

end RegionEvidence

namespace Retention

variable {t t' : Retention}

theorem SampleStep.wellFormed {key : Text} (h : t.WellFormed) (hstep : SampleStep t key o t') :
    t'.WellFormed := by
  -- what holds of the old evidence and of the grown one holds of all
  have hinsert {m : ExtTreeMap Text RegionEvidence} {e : RegionEvidence}
      {P : RegionEvidence → Prop} (hm : ∀ (k : Text) (e : RegionEvidence), m[k]? = some e → P e)
      (he : P (e.grow o)) (k : Text) (e' : RegionEvidence)
      (hk : (m.insert key (e.grow o))[k]? = some e') : P e' := by
    rcases getElem?_insert_cases hk with ⟨-, rfl⟩ | hk
    · exact he
    · exact hm k e' hk
  have herase {victim : Text} {P : RegionEvidence → Prop}
      (hm : ∀ (k : Text) (e : RegionEvidence), t.regions[k]? = some e → P e) (k : Text)
      (e : RegionEvidence) (hk : (t.regions.erase victim)[k]? = some e) : P e := by
    rw [getElem?_erase] at hk
    split at hk
    · exact nomatch hk
    · exact hm k e hk
  -- every tracked region is queued once
  have hsize := length_of_perm_keys h.queue
  cases hstep with
  | tracked e hknown heq =>
    have hmem : key ∈ t.regions :=
      mem_iff_isSome_getElem?.2 (isSome_of_eq_some hknown)
    rw [heq]
    exact ⟨h.journal_le, perm_keys_insert_of_mem h.queue hmem _, h.queue_le,
      hinsert h.balanced ((h.balanced key e hknown).grow o),
      hinsert h.sampled (e.grow_samples_ne_nil o)⟩
  | added hunknown hroom heq =>
    rw [heq]
    refine ⟨h.journal_le, perm_keys_insert h.queue hunknown _, ?_,
      hinsert h.balanced (RegionEvidence.Balanced.empty.grow o),
      hinsert h.sampled (RegionEvidence.grow_samples_ne_nil {} o)⟩
    rw [List.length_append, List.length_singleton]
    omega
  | replaced victim rest e hunknown hfull horder hknown heq =>
    have hqueue := h.queue
    have hle := h.queue_le
    rw [horder] at hqueue hle
    have hnew : key ∉ t.regions.erase victim := fun hmem =>
      hunknown (mem_erase.1 hmem).2
    rw [heq]
    refine ⟨h.journal_le, perm_keys_insert (perm_keys_erase hqueue) hnew _, ?_,
      hinsert (herase h.balanced) (RegionEvidence.Balanced.empty.grow o),
      hinsert (herase h.sampled) (RegionEvidence.grow_samples_ne_nil {} o)⟩
    rw [List.length_append, List.length_singleton]
    exact hle

theorem ApplyStep.wellFormed {entry : JournalEntry} (h : t.WellFormed)
    (hstep : ApplyStep t entry t') : t'.WellFormed := by
  cases hstep with
  | unsampled _ heq =>
    rw [heq]
    exact h.append entry
  | sampled key _ hsample => exact SampleStep.wellFormed (h.append entry) hsample

end Retention

/-- What a step that is not a load does to what is retained. -/
inductive RetentionStep (s : State) (a : Action) (t : Retention) : Prop
  /-- Nothing is applied. -/
  | quiet (applied_eq : applied s a = none) (eq : t = s.retention)
  /-- An observation is applied. -/
  | apply (entry : JournalEntry) (applied_eq : applied s a = some entry)
      (yields : a.Yields entry.observation) (step : ApplyStep s.retention entry t)

/-- What a step can do to what is retained. -/
theorem act_retention (h : s.retention.WellFormed) (ha : a.loads = false) :
    RetentionStep s a (act s a).2.retention := by
  cases act_evidence s a with
  | quiet hevidence happlied => exact .quiet happlied (congrArg Evidence.retention hevidence)
  | apply s₁ o record _ hevidence _ hyields hstate happlied =>
    have hretention : s₁.retention = s.retention := congrArg Evidence.retention hevidence
    refine .apply _ happlied hyields ?_
    rw [hstate, ← hretention]
    exact applyEvidence_retention (hretention ▸ h) _ _ _
  | load _ _ _ _ _ heq => rw [heq] at ha; exact nomatch ha

/-- What a state retains is within its bounds. -/
def State.WellRetained (s : State) : Prop := s.retention.WellFormed

theorem wellRetained_of_empty (hjournal : s.journal = []) (hregions : s.regionEvidence = ∅)
    (horder : s.regionEvidenceOrder = []) : s.WellRetained where
  journal_le := by
    change s.journal.length ≤ _
    rw [hjournal]
    exact Nat.zero_le _
  queue := by
    change s.regionEvidenceOrder.Perm s.regionEvidence.keys
    rw [hregions, horder]
    exact .refl _
  queue_le := by
    change s.regionEvidenceOrder.length ≤ _
    rw [horder]
    exact Nat.zero_le _
  balanced k e hk := by
    change s.regionEvidence[k]? = some e at hk
    simp [hregions] at hk
  sampled k e hk := by
    change s.regionEvidence[k]? = some e at hk
    simp [hregions] at hk

theorem act_wellRetained (h : s.WellRetained) (a : Action) : (act s a).2.WellRetained := by
  have hsame {s' : State} (hevidence : s'.evidence = s.evidence) : s'.WellRetained := by
    have hretention : s'.retention = s.retention := congrArg Evidence.retention hevidence
    rw [State.WellRetained, hretention]
    exact h
  cases act_evidence s a with
  | quiet hevidence _ => exact hsame hevidence
  | apply s₁ o record _ hevidence _ _ hstate _ =>
    have h₁ : s₁.WellRetained := hsame hevidence
    rw [hstate]
    exact Retention.ApplyStep.wellFormed h₁ (applyEvidence_retention h₁ o _ record)
  | load _ _ _ clock staged _ hstate =>
    rw [hstate]
    exact wellRetained_of_empty rfl rfl rfl

theorem final_wellRetained (options : ObservatoryOptions) (now : Nanos) (l : List Action) :
    (Run.final act (State.initial options now) l).WellRetained :=
  Run.final_stable (I := State.WellRetained) (fun _ a h => act_wellRetained h a)
    (wellRetained_of_empty rfl rfl rfl) l

/-- Whatever has happened, the tables are well formed: each queue holds the keys of its table,
    each once, no table outgrows its bound, no number is ahead of the watermark, and what was
    sampled of a region is held or was evicted. -/
theorem tables_wellFormed (options : ObservatoryOptions) (now : Nanos) (l : List Action) :
    let s := Run.final act (State.initial options now) l
    (∀ (id : PublisherId) (p : PublisherState), s.publishers[id]? = some p →
      (p.window.order.Nodup ∧ (∀ q, q ∈ p.window.order ↔ q ∈ p.window.entries) ∧
        p.window.order.length ≤ 4096 ∧ ∀ q ∈ p.window.entries, q ≤ p.highWatermark) ∧
      p.recentEventIds.order.Nodup ∧
        (∀ i, i ∈ p.recentEventIds.order ↔ i ∈ p.recentEventIds.entries) ∧
        p.recentEventIds.order.length ≤ 4096) ∧
    s.regionEvidenceOrder.Perm s.regionEvidence.keys ∧ s.regionEvidenceOrder.length ≤ 8192 ∧
    (∀ (region : MemoryRegionId) (e : RegionEvidence), s.regionEvidence[region]? = some e →
      e.samples.length ≤ 256 ∧ e.relevantTotal = e.evicted + UInt64.ofNat e.samples.length) ∧
    s.journal.length ≤ 16384 := by
  intro s
  have hretained : s.WellRetained := final_wellRetained options now l
  have hdated : s.Dated := final_dated (dated_initial options now) l
  refine ⟨fun id p hp => ⟨⟨p.window.nodup, p.window.mem_iff, p.window.length_le, fun q hq => ?_⟩,
    p.recentEventIds.nodup, p.recentEventIds.mem_iff, p.recentEventIds.length_le⟩,
    hretained.queue, hretained.queue_le, fun region e he => ?_, hretained.journal_le⟩
  · exact (hdated id p.binding (by rw [State.binding, hp]; rfl) q hq).2
  · exact ⟨(hretained.balanced region e he).length_le,
      (hretained.balanced region e he).relevantTotal_eq⟩

/-- A read of the region named by the number `i`. -/
def regionRead (sequence : UInt64) (i : Nat) : Observation :=
  { sampleObservation sequence with
    topologyGeneration := 1
    region := some (formatNat i)
    regionGeneration := some 1 }

/-- After a read, its publisher and its region have well-formed tables. -/
theorem tables_wellFormed_regionRead :
    let s := Run.final act (State.initial {} 0)
      [.registerPublisher sampleRegistration fun _ => 0, .ingest (regionRead 1 0) 0]
    (∃ p ∈ s.publishers[ascii "p"]?, p.window.order.Nodup ∧
        ∀ q ∈ p.window.entries, q ≤ p.highWatermark) ∧
      ∃ e ∈ s.regionEvidence[formatNat 0]?, e.samples.length ≤ 256 := by
  intro s
  have hpublisher : s.publishers[ascii "p"]?.isSome = true := by decide +kernel
  have hregion : s.regionEvidence[formatNat 0]?.isSome = true := by decide +kernel
  obtain ⟨p, hp⟩ := Option.isSome_iff_exists.1 hpublisher
  obtain ⟨e, he⟩ := Option.isSome_iff_exists.1 hregion
  obtain ⟨hpublishers, -, -, hregions, -⟩ := tables_wellFormed {} 0
    [.registerPublisher sampleRegistration fun _ => 0, .ingest (regionRead 1 0) 0]
  obtain ⟨⟨hnodup, -, -, hdated⟩, -⟩ := hpublishers _ p hp
  exact ⟨⟨p, hp, hnodup, hdated⟩, e, he, (hregions _ e he).1⟩

/-! ## What is counted -/

/-- The region of which the observation a step counts becomes a sample. -/
def regionSampled (s : State) (a : Action) : Option MemoryRegionId :=
  (counted s a).bind fun o => if isRegionRelevant o.type then o.region else none

namespace Retention

/-- The samples held for all regions. -/
def heldSamples (t : Retention) : Nat := tableTotal (fun _ e => e.samples.length) t.regions

/-- The region a full table gives up for the region `key`. -/
def displaced (t : Retention) (key : MemoryRegionId) : Option MemoryRegionId :=
  if key ∈ t.regions ∨ t.regions.size < maxTrackedRegions then none
  else t.order.find? (· ∈ t.regions)

/-- The samples that go uncounted when the region makes room: all but one. -/
def uncounted (t : Retention) (victim : MemoryRegionId) : Nat :=
  (t.regions[victim]?.getD {}).samples.length - 1

end Retention

theorem toNat_sub_of_counts (n : UInt64) (counts : Prop) [Decidable counts] :
    ((if counts then n + 1 else n) - n).toNat = if counts then 1 else 0 := by
  split
  · rw [UInt64.add_comm, UInt64.add_sub_cancel]
    rfl
  · rw [UInt64.sub_self]
    rfl

section

variable {t t' : Retention} {entry : JournalEntry} {key : MemoryRegionId} {o : Observation}

theorem SampleStep.journal_eq (h : SampleStep t key o t') :
    t'.journal = t.journal ∧ t'.droppedEntries = t.droppedEntries := by
  cases h with
  | tracked _ _ heq => rw [heq]; exact ⟨rfl, rfl⟩
  | added _ _ heq => rw [heq]; exact ⟨rfl, rfl⟩
  | replaced _ _ _ _ _ _ _ heq => rw [heq]; exact ⟨rfl, rfl⟩

theorem ApplyStep.journal_eq (h : ApplyStep t entry t') :
    t'.journal = (t.append entry).journal ∧
      t'.droppedEntries = (t.append entry).droppedEntries := by
  cases h with
  | unsampled _ heq => rw [heq]; exact ⟨rfl, rfl⟩
  | sampled _ _ hstep => exact hstep.journal_eq

/-- An applied observation is held in the journal, or the one it displaced is counted. -/
theorem ApplyStep.journal_balance (h : ApplyStep t entry t') :
    t'.journal.length + (t'.droppedEntries - t.droppedEntries).toNat = t.journal.length + 1 := by
  obtain ⟨hjournal, hdropped⟩ := h.journal_eq
  rw [hjournal, hdropped, Retention.length_append, Retention.append, toNat_sub_of_counts]
  split <;> omega

/-- A sample is held, and of what is dropped for it one sample is counted. -/
theorem SampleStep.balance (ht : t.WellFormed) (h : SampleStep t key o t') :
    t'.heldSamples + ((t'.droppedSamples - t.droppedSamples).toNat +
      ((t.displaced key).map t.uncounted).getD 0) = t.heldSamples + 1 := by
  have hempty : (RegionEvidence.grow {} o).samples.length = 1 := rfl
  cases h with
  -- a full region drops its oldest sample
  | tracked e hknown heq =>
    have hmem : key ∈ t.regions :=
      mem_iff_isSome_getElem?.2 (isSome_of_eq_some hknown)
    have hheld := tableTotal_insert (m := t.regions) (k := key) (r := e.grow o)
      (fun _ e => e.samples.length)
    rw [hknown, map_some, getD_some, RegionEvidence.length_grow] at hheld
    have hdisplaced : t.displaced key = none := if_pos (.inl hmem)
    rw [heq, toNat_sub_of_counts, hdisplaced, map_none, getD_none]
    dsimp only [Retention.heldSamples]
    split
    next hfull =>
      rw [if_pos hfull] at hheld
      omega
    next hroom =>
      rw [if_neg hroom] at hheld
      omega
  | added hunknown hroom heq =>
    have hnone : t.regions[key]? = none := by
      rwa [mem_iff_isSome_getElem?, not_isSome_iff_eq_none] at hunknown
    have hheld := tableTotal_insert (m := t.regions) (k := key) (r := RegionEvidence.grow {} o)
      (fun _ e => e.samples.length)
    rw [hnone, map_none, getD_none, hempty] at hheld
    rw [heq, Retention.displaced, if_pos (.inr hroom), map_none, getD_none,
      UInt64.sub_self]
    exact hheld
  -- the victim goes with all its samples, and one is counted
  | replaced victim rest e hunknown hfull horder hknown heq =>
    have hmem : victim ∈ t.regions :=
      mem_iff_isSome_getElem?.2 (isSome_of_eq_some hknown)
    have hnone : (t.regions.erase victim)[key]? = none := by
      rw [← not_isSome_iff_eq_none, ← mem_iff_isSome_getElem?]
      exact fun h => hunknown (mem_erase.1 h).2
    have hdisplaced : t.displaced key = some victim := by
      rw [Retention.displaced, if_neg (by rw [not_or]; exact ⟨hunknown, Nat.not_lt.2 hfull⟩),
        horder, List.find?_cons_of_pos (by simpa using hmem)]
    have huncounted : t.uncounted victim = e.samples.length - 1 := by
      rw [Retention.uncounted, hknown, getD_some]
    have hpos := List.length_pos_iff.2 (ht.sampled victim e hknown)
    have hheld := tableTotal_insert (m := t.regions.erase victim) (k := key)
      (r := RegionEvidence.grow {} o) (fun _ e => e.samples.length)
    have hgone := tableTotal_of_getElem? (fun _ e => e.samples.length) hknown
    rw [hnone, map_none, getD_none, hempty] at hheld
    have hone : (t.droppedSamples + 1 - t.droppedSamples).toNat = 1 := by
      rw [UInt64.add_comm, UInt64.add_sub_cancel]
      rfl
    rw [heq, hdisplaced, map_some, getD_some, huncounted]
    dsimp only [Retention.heldSamples]
    rw [hone]
    omega

/-- The same for an observation that is applied. -/
theorem ApplyStep.balance (ht : t.WellFormed) (h : ApplyStep t entry t') :
    t'.heldSamples + ((t'.droppedSamples - t.droppedSamples).toNat +
      ((entry.sampledRegion.bind t.displaced).map t.uncounted).getD 0) =
        t.heldSamples + if entry.sampledRegion.isSome then 1 else 0 := by
  cases h with
  | unsampled hregion heq =>
    rw [heq, hregion]
    change t.heldSamples + ((t.droppedSamples - t.droppedSamples).toNat + 0) = t.heldSamples + 0
    rw [UInt64.sub_self]
    rfl
  | sampled key hregion hstep =>
    have hbalance := SampleStep.balance (ht.append entry) hstep
    rw [hregion]
    exact hbalance

end

/-! ## Counting over a run -/

/-- The dropped entries of the journal a step counts. -/
def countedEntries (s : State) (a : Action) : Nat :=
  ((act s a).2.loss.droppedJournalEntries - s.loss.droppedJournalEntries).toNat

/-- The dropped samples a step counts. -/
def countedSamples (s : State) (a : Action) : Nat :=
  ((act s a).2.loss.droppedRegionSamples - s.loss.droppedRegionSamples).toNat

/-- The dropped samples a step does not count. -/
def uncountedSamples (s : State) (a : Action) : Nat :=
  (((regionSampled s a).bind s.retention.displaced).map s.retention.uncounted).getD 0

theorem regionSampled_eq (s : State) (a : Action) :
    regionSampled s a = (applied s a).bind JournalEntry.sampledRegion := by
  rw [regionSampled, counted]
  cases applied s a with
  | none => rfl
  | some entry =>
    rw [bind_some, bind_some, JournalEntry.sampledRegion]
    cases countsAsCurrentEvidence entry.outcome <;> rfl

theorem act_journal_balance (h : s.WellRetained) (ha : a.loads = false) :
    (act s a).2.journal.length + countedEntries s a =
      s.journal.length + if (applied s a).isSome then 1 else 0 := by
  cases act_retention h ha with
  | quiet happlied heq =>
    have hjournal : (act s a).2.journal = s.journal := congrArg Retention.journal heq
    have hdropped : (act s a).2.loss.droppedJournalEntries = s.loss.droppedJournalEntries :=
      congrArg Retention.droppedEntries heq
    rw [countedEntries, hdropped, hjournal, happlied, UInt64.sub_self]
    rfl
  | apply entry happlied _ hstep =>
    have hbalance := hstep.journal_balance
    rw [happlied]
    exact hbalance

theorem act_samples_balance (h : s.WellRetained) (ha : a.loads = false) :
    (act s a).2.retention.heldSamples + (countedSamples s a + uncountedSamples s a) =
      s.retention.heldSamples + if (regionSampled s a).isSome then 1 else 0 := by
  rw [uncountedSamples, regionSampled_eq]
  cases act_retention h ha with
  | quiet happlied heq =>
    have hdropped : (act s a).2.loss.droppedRegionSamples = s.loss.droppedRegionSamples :=
      congrArg Retention.droppedSamples heq
    rw [countedSamples, hdropped, heq, happlied, UInt64.sub_self]
    rfl
  | apply entry happlied _ hstep =>
    have hbalance := hstep.balance h
    rw [happlied]
    exact hbalance

/-- The region of which an observation the step carries would become a sample. -/
def Action.region : Action → Option MemoryRegionId
  | .ingest o _ => if isRegionRelevant o.type then o.region else none
  | .ingestCounter c _ => if isRegionRelevant c.mappedType then c.region else none
  | _ => none

theorem Action.Yields.region_eq (h : a.Yields o) :
    a.region = if isRegionRelevant o.type then o.region else none := by
  cases a with
  | ingest | ingestCounter => obtain ⟨_, _, rfl⟩ := h; rfl
  | _ => exact nomatch h

theorem Retention.displaced_mem {victim : MemoryRegionId} (h : t.displaced key = some victim) :
    victim ∈ t.regions := by
  rw [displaced] at h
  split at h
  · exact nomatch h
  · simpa using List.find?_some h

/-- A step gives up no region that holds more than one sample. -/
def GivesUpOne (s : State) (a : Action) : Prop :=
  Eligible s a → ∀ key victim, a.region = some key → s.retention.displaced key = some victim →
    (s.samples victim).length = 1

theorem yields_of_counted (h : counted s a = some o) : a.Yields o := by
  have heligible : Eligible s a := (counted_isSome_iff a).1 (isSome_of_eq_some h)
  cases act_evidence s a with
  | quiet _ happlied =>
    rw [counted, happlied] at h
    cases h
  | apply s₁ o' _ _ _ _ hyields _ happlied =>
    rw [counted, happlied, bind_some] at h
    split at h
    · exact Option.some.inj h ▸ hyields
    · cases h
  | load _ _ _ _ _ ha =>
    rw [ha] at heligible
    exact heligible.elim

/-- The sample of a step is that of the observation it carries, if it is counted. -/
theorem regionSampled_iff : regionSampled s a = some key ↔ Eligible s a ∧ a.region = some key := by
  rw [← counted_isSome_iff, regionSampled]
  cases hcounted : counted s a with
  | none => simp
  | some o =>
    rw [(yields_of_counted hcounted).region_eq]
    simp

theorem uncountedSamples_eq_zero_iff (h : s.WellRetained) (a : Action) :
    uncountedSamples s a = 0 ↔ GivesUpOne s a := by
  rw [uncountedSamples]
  constructor
  · intro hzero heligible key victim hkey hvictim
    rw [regionSampled_iff.2 ⟨heligible, hkey⟩, bind_some, hvictim] at hzero
    change (s.samples victim).length - 1 = 0 at hzero
    -- a tracked region holds samples
    have hpos : 0 < (s.samples victim).length := by
      obtain ⟨e, he⟩ := isSome_iff_exists.1
        (mem_iff_isSome_getElem?.1 (Retention.displaced_mem hvictim))
      have hsamples : s.samples victim = e.samples := by
        rw [State.samples, show s.regionEvidence[victim]? = some e from he, getD_some]
      rw [hsamples]
      exact List.length_pos_iff.2 (h.sampled victim e he)
    omega
  · intro hone
    cases hkey : regionSampled s a with
    | none => rfl
    | some key =>
      obtain ⟨heligible, hregion⟩ := regionSampled_iff.1 hkey
      rw [bind_some]
      cases hvictim : s.retention.displaced key with
      | none => rfl
      | some victim =>
        change (s.samples victim).length - 1 = 0
        rw [hone heligible key victim hregion hvictim]

/-- What a tally of 64 bits has counted on by, as long as it does not run over. -/
theorem toNat_add_toNat_sub {n n' : UInt64} (h : n.toNat + (n' - n).toNat < 2 ^ 64) :
    n'.toNat = n.toNat + (n' - n).toNat := by
  have hadd : n' = n + (n' - n) := by rw [UInt64.add_comm, UInt64.sub_add_cancel]
  calc n'.toNat = (n + (n' - n)).toNat := by rw [← hadd]
    _ = (n.toNat + (n' - n).toNat) % 2 ^ 64 := UInt64.toNat_add n (n' - n)
    _ = n.toNat + (n' - n).toNat := Nat.mod_eq_of_lt h

section

variable (options : ObservatoryOptions) (now : Nanos) {l : List Action}

/-- The steps of a run without loads start from well-formed tables. -/
theorem along_wellRetained (hloads : ∀ a ∈ l, a.loads = false) :
    Run.Along act (fun s a => s.WellRetained ∧ a.loads = false) (State.initial options now) l :=
  Run.along_of_invariant (I := State.WellRetained)
    (fun _ a hs ha => ⟨act_wellRetained hs a, hs, ha⟩) (wellRetained_of_empty rfl rfl rfl)
    (Run.along_of_forall_mem hloads _)

theorem total_unit_lt (p : State → Action → Bool) (hlength : l.length < 2 ^ 64) (s : State) :
    Run.total act (fun s a => if p s a then 1 else 0) s l < 2 ^ 64 :=
  (Run.total_le_length (fun s a => by split <;> simp) s l).trans_lt hlength

theorem total_applied (hloads : ∀ a ∈ l, a.loads = false) (hlength : l.length < 2 ^ 64) :
    Run.total act (fun s a => if (applied s a).isSome then 1 else 0) (State.initial options now) l =
      (Run.final act (State.initial options now) l).journal.length +
        (Run.final act (State.initial options now) l).loss.droppedJournalEntries.toNat := by
  have halong := along_wellRetained options now hloads
  have hentries := Run.total_balance (μ := fun s => s.journal.length) (f := countedEntries)
    (fun s a h => act_journal_balance h.1 h.2) halong
  have hdropped := Run.measure_final (μ := fun s => s.loss.droppedJournalEntries.toNat)
    (f := countedEntries) (fun s a _ h => toNat_add_toNat_sub h) halong
  have hbound := total_unit_lt (fun s a => (applied s a).isSome) hlength (State.initial options now)
  change _ + _ = 0 + _ at hentries
  change 0 + _ < _ → _ = 0 + _ at hdropped
  omega

/-- What was sampled is held, counted as dropped, or went uncounted with a region. -/
theorem total_regionSampled (hloads : ∀ a ∈ l, a.loads = false) (hlength : l.length < 2 ^ 64) :
    Run.total act (fun s a => if (regionSampled s a).isSome then 1 else 0)
        (State.initial options now) l =
      (Run.final act (State.initial options now) l).retention.heldSamples +
        (Run.final act (State.initial options now) l).loss.droppedRegionSamples.toNat +
        Run.total act uncountedSamples (State.initial options now) l := by
  have halong := along_wellRetained options now hloads
  have hsamples : (Run.final act (State.initial options now) l).retention.heldSamples +
      Run.total act (fun s a => countedSamples s a + uncountedSamples s a)
        (State.initial options now) l = 0 + Run.total act
          (fun s a => if (regionSampled s a).isSome then 1 else 0) (State.initial options now) l :=
    Run.total_balance (μ := fun s => s.retention.heldSamples)
      (fun s a h => act_samples_balance h.1 h.2) halong
  have hdropped := Run.measure_final (μ := fun s => s.loss.droppedRegionSamples.toNat)
    (f := countedSamples) (fun s a _ h => toNat_add_toNat_sub h) halong
  have hbound := total_unit_lt (fun s a => (regionSampled s a).isSome) hlength
    (State.initial options now)
  rw [Run.total_add] at hsamples
  change 0 + _ < _ → _ = 0 + _ at hdropped
  omega

/-- In every run without loads, what was applied is in the journal or counted as dropped from it.
    What was sampled is held or counted as dropped exactly if no step has given up a region that
    holds more than one sample. -/
theorem retention_counted_iff (hloads : ∀ a ∈ l, a.loads = false) (hlength : l.length < 2 ^ 64) :
    let s₀ := State.initial options now
    let s := Run.final act s₀ l
    Run.total act (fun s a => if (applied s a).isSome then 1 else 0) s₀ l =
        s.journal.length + s.loss.droppedJournalEntries.toNat ∧
      (Run.total act (fun s a => if (regionSampled s a).isSome then 1 else 0) s₀ l =
          s.retention.heldSamples + s.loss.droppedRegionSamples.toNat ↔
        Run.Along act GivesUpOne s₀ l) := by
  intro s₀ s
  refine ⟨total_applied options now hloads hlength, ?_⟩
  have hwell : s₀.WellRetained := wellRetained_of_empty rfl rfl rfl
  have hall : Run.total act uncountedSamples s₀ l = 0 ↔ Run.Along act GivesUpOne s₀ l := by
    rw [Run.total_eq_zero_iff]
    constructor
    · exact Run.along_of_invariant (I := State.WellRetained) (fun s a hs hzero =>
        ⟨act_wellRetained hs a, (uncountedSamples_eq_zero_iff hs a).1 hzero⟩) hwell
    · exact Run.along_of_invariant (I := State.WellRetained) (fun s a hs hone =>
        ⟨act_wellRetained hs a, (uncountedSamples_eq_zero_iff hs a).2 hone⟩) hwell
  rw [← hall, total_regionSampled options now hloads hlength]
  exact Nat.add_eq_left

end

/-- Two reads of a region are both held, and no step gives up a region. -/
theorem retention_counted_twoReads :
    let l : List Action := [.registerPublisher sampleRegistration fun _ => 0,
      .ingest (regionRead 1 0) 0, .ingest (regionRead 2 0) 0]
    (Run.final act (State.initial {} 0) l).journal.length = 2 ∧
      (Run.total act (fun s a => if (regionSampled s a).isSome then 1 else 0)
          (State.initial {} 0) l =
        (Run.final act (State.initial {} 0) l).retention.heldSamples +
          (Run.final act (State.initial {} 0) l).loss.droppedRegionSamples.toNat ↔
        Run.Along act GivesUpOne (State.initial {} 0) l) :=
  ⟨by decide +kernel, (retention_counted_iff {} 0 (by decide) (by decide)).2⟩

/-! ## A crowd of regions -/

theorem isToken_formatNat (h : n < 10 ^ 5) : IsToken (formatNat n) where
  ne_nil := by
    unfold formatNat
    split
    · exact List.cons_ne_nil _ _
    next hn => simpa [Nat.digits_eq_nil_iff_eq_zero] using hn
  length_le := (length_formatNat_le (by decide) h).trans (by decide)
  admitted c hc := by
    obtain ⟨hge, hlt⟩ := formatNat_digit hc
    have hdigit : 48 ≤ c ∧ c ≤ 57 := by
      rw [UInt8.le_iff_toNat_le, UInt8.le_iff_toNat_le]
      exact ⟨hge, Nat.lt_succ_iff.1 hlt⟩
    simp [isTokenByte, hdigit]

theorem validate_regionRead (hk : k ≠ 0) (hi : i < 10 ^ 5) :
    validateObservationStructure (regionRead k i) = .ok () := by
  have hidentity : validateIdentity (regionRead k i) = .ok () := by
    simp only [validateIdentity, regionRead, sampleObservation, failIf, hk, if_false]
    rfl
  have hsubject : validateSubject (regionRead k i) = .ok () := by
    have htoken := validateIdentityToken_eq_ok.2 (isToken_formatNat hi)
    simp only [validateSubject, regionRead, sampleObservation, validateNamed, htoken]
    rfl
  rw [validateObservationStructure, hidentity, hsubject]
  rfl

/-- Boot 1 of `p` has sent the numbers up to `k`, in a fresh observatory. -/
structure Crowding (k : UInt64) (s : State) : Prop where
  well : s.WellRetained
  only : IngestOnly (bindBoot (State.initial {} 0) sampleRegistration 0) s
  entry : ∃ p ∈ s.publishers[ascii "p"]?, p.view.boot = 1 ∧ p.view.current = true ∧
    p.view.fenced = false ∧ (p.hasWatermark = true → p.highWatermark = k) ∧
    ∀ i ∈ p.recentEventIds.order, i ≤ k

theorem Crowding.eligible (h : Crowding k s) (hq : k < q) (hi : i < 10 ^ 5) (now : Nanos) :
    Eligible s (.ingest (regionRead q i) now) := by
  obtain ⟨p, hp, hboot, hcurrent, hfenced, hhigh, hids⟩ := h.entry
  have hne : q ≠ 0 := by
    rintro rfl
    exact absurd (UInt64.lt_iff_toNat_lt.1 hq) (Nat.not_lt_zero _)
  have hfresh : p.binding.Fresh q := by
    cases hwatermark : p.hasWatermark with
    | false => exact .inl hwatermark
    | true =>
      refine .inr (.inl ?_)
      change p.highWatermark < q
      rw [hhigh hwatermark]
      exact hq
  have hnew : p.recentEventIds.entries[q]? = none := by
    rw [← not_isSome_iff_eq_none, ← mem_iff_isSome_getElem?,
      ← p.recentEventIds.mem_iff]
    exact fun hmem => UInt64.not_le.2 hq (hids q hmem)
  obtain ⟨publishers, counters, aggregates, journal, evidence, order, stale, loss, hs⟩ := h.only
  refine ⟨⟨p, validate_regionRead hne hi, hp, hboot, by rw [hs]; rfl, .inl ⟨hcurrent, ?_⟩, ?_, ?_⟩,
    ⟨fun _ => ?_, ⟨p, hp, hboot, fun _ => ⟨hcurrent, hfenced⟩⟩, fun _ => ?_, ?_, ?_, nofun, nofun,
      nofun⟩⟩
  · rw [hfenced]
    exact Bool.false_ne_true
  · exact (isAccepted_accountSequence p q _).2 hfresh
  · change (p.recentEventIds.entries[q]?.any _) = false
    rw [hnew]
    rfl
  · rw [hs]
    rfl
  · rw [hs]
    rfl
  · -- no region is registered
    intro region record _ hrecord
    rw [hs] at hrecord
    change (∅ : ExtTreeMap Text RegionRecord)[region]? = some record at hrecord
    simp at hrecord
  · -- the read does not claim to be real
    exact fun hgated => absurd (show Provenance.Unknown.isReal = true from hgated.1) (by decide)

/-- A read with a higher number is accepted. -/
theorem Crowding.read (h : Crowding k s) (hq : k < q) (hi : i < 10 ^ 5) :
    Crowding q (act s (.ingest (regionRead q i) 0)).2 := by
  obtain ⟨⟨p, hadmitted⟩, -⟩ := h.eligible hq hi 0
  obtain ⟨p', hp', hboot, hcurrent, hfenced, hhigh, hids⟩ := h.entry
  obtain rfl : p' = p := Option.some.inj (hp'.symm.trans hadmitted.publisher)
  have hstate : (act s (.ingest (regionRead q i) 0)).2 = (ingestAccepted s p' (regionRead q i)
      (regionRead q i).contentHash (accountSequence p' q (regionRead q i).contentHash) 0).2 :=
    congrArg Prod.snd (ingestLocked_admitted hadmitted 0)
  refine ⟨act_wellRetained h.well _, h.only.trans (ingestLocked_binding s _ 0).1,
    acceptObservation p' (regionRead q i) (regionRead q i).contentHash
      (accountSequence p' q (regionRead q i).contentHash) 0, ?_, hboot, hcurrent, hfenced,
    fun _ => ?_, fun j hj => ?_⟩
  · rw [hstate, ingestAccepted_publishers]
    exact getElem?_insert_self
  · refine if_pos ?_
    by_cases hwatermark : p'.hasWatermark = true
    · rw [hhigh hwatermark]
      exact .inr hq
    · exact .inl hwatermark
  · rcases BoundedFifo.eq_or_mem_of_mem_push ((BoundedFifo.mem_iff _ j).1 hj) with rfl | hold
    · exact UInt64.le_refl _
    · exact UInt64.le_trans (hids j ((p'.recentEventIds.mem_iff j).2 hold)) (UInt64.le_of_lt hq)

/-- The read is sampled. -/
theorem Crowding.sampleStep (h : Crowding k s) (hq : k < q) (hi : i < 10 ^ 5) :
    ∃ t o, t.regions = s.regionEvidence ∧ t.order = s.regionEvidenceOrder ∧
      SampleStep t (formatNat i) o (act s (.ingest (regionRead q i) 0)).2.retention := by
  have hsampled : regionSampled s (.ingest (regionRead q i) 0) = some (formatNat i) :=
    regionSampled_iff.2 ⟨h.eligible hq hi 0, rfl⟩
  rw [regionSampled_eq] at hsampled
  cases act_retention h.well (a := .ingest (regionRead q i) 0) rfl with
  | quiet happlied =>
    rw [happlied] at hsampled
    exact nomatch hsampled
  | apply entry happlied _ hstep =>
    rw [happlied, bind_some] at hsampled
    cases hstep with
    | unsampled hregion => rw [hregion] at hsampled; exact nomatch hsampled
    | sampled key hregion hstep =>
      obtain rfl : key = formatNat i := Option.some.inj (hregion.symm.trans hsampled)
      exact ⟨_, _, rfl, rfl, hstep⟩

/-- The first region was read twice, and each of the first `n` regions is tracked. -/
structure Crowded (n : Nat) (s : State) : Prop where
  crowding : Crowding (UInt64.ofNat (n + 1)) s
  order_eq : s.regionEvidenceOrder = (List.range n).map formatNat
  twice : (s.samples (formatNat 0)).length = 2

/-- The read of the region `i`, once the first region was read. -/
def crowdRead (i : Nat) : Action := .ingest (regionRead (UInt64.ofNat (i + 2)) i) 0

theorem ofNat_lt_ofNat {m : Nat} (hlt : m < n) (hn : n < 2 ^ 64) :
    UInt64.ofNat m < UInt64.ofNat n := by
  rw [UInt64.lt_iff_toNat_lt, UInt64.toNat_ofNat', UInt64.toNat_ofNat']
  omega

theorem Crowded.unknown (h : Crowded n s) : formatNat n ∉ s.regionEvidence := by
  intro hmem
  have horder := ((perm_keys_iff.1 h.crowding.well.queue).2 (formatNat n)).2 hmem
  change formatNat n ∈ s.regionEvidenceOrder at horder
  rw [h.order_eq, List.mem_map] at horder
  obtain ⟨i, hi, heq⟩ := horder
  rw [formatNat_injective heq, List.mem_range] at hi
  exact Nat.lt_irrefl n hi

theorem Crowded.size_eq (h : Crowded n s) : s.regionEvidence.size = n := by
  have hlength := length_of_perm_keys h.crowding.well.queue
  change s.regionEvidenceOrder.length = s.regionEvidence.size at hlength
  rw [← hlength, h.order_eq, List.length_map, List.length_range]

theorem Crowded.succ (h : Crowded n s) (hn : n < 8192) :
    Crowded (n + 1) (act s (crowdRead n)).2 := by
  have hq : UInt64.ofNat (n + 1) < UInt64.ofNat (n + 2) := ofNat_lt_ofNat (by omega) (by omega)
  obtain ⟨t, o, hregions, horder, hstep⟩ := h.crowding.sampleStep hq (i := n) (by omega)
  have hunknown := h.unknown
  have hsize := h.size_eq
  rw [← hregions] at hunknown hsize
  cases hstep with
  | tracked e hknown =>
    exact absurd (mem_iff_isSome_getElem?.2 (isSome_of_eq_some hknown)) hunknown
  | replaced _ _ _ _ hfull =>
    rw [hsize] at hfull
    exact absurd hfull (Nat.not_le.2 hn)
  | added _ _ heq =>
    have hkeys : (act s (crowdRead n)).2.regionEvidence =
        t.regions.insert (formatNat n) (RegionEvidence.grow {} o) := congrArg Retention.regions heq
    refine ⟨h.crowding.read hq (by omega), ?_, ?_⟩
    · have hqueue : (act s (crowdRead n)).2.regionEvidenceOrder = t.order ++ [formatNat n] :=
        congrArg Retention.order heq
      rw [hqueue, horder, h.order_eq, List.range_succ, List.map_append]
      rfl
    · have hne : formatNat n ≠ formatNat 0 := by
        intro heq
        have htwice := h.twice
        rw [State.samples, ← hregions, ← heq] at htwice
        rw [getElem?_eq_none hunknown] at htwice
        exact absurd htwice (by decide)
      have htwice := h.twice
      rw [State.samples, ← hregions] at htwice
      rw [State.samples, hkeys, getElem?_insert, if_neg (by simpa using hne)]
      exact htwice

theorem crowded_run (h : Crowded 1 s) (hn : n < 8192) :
    Crowded (n + 1) (Run.final act s ((List.range n).map fun i => crowdRead (i + 1))) := by
  induction n with
  | zero => exact h
  | succ n ih =>
    rw [List.range_succ, List.map_append, List.map_singleton, Run.final_concat]
    exact (ih (by omega)).succ (by omega)

/-- The first region is read twice, then `n` others, then one more. -/
def crowdRun (n : Nat) : List Action :=
  [.registerPublisher sampleRegistration fun _ => 0, .ingest (regionRead 1 0) 0, crowdRead 0] ++
    (List.range n).map (fun i => crowdRead (i + 1)) ++ [crowdRead (n + 1)]

theorem crowding_register : Crowding 0
    (act (State.initial {} 0) (.registerPublisher sampleRegistration fun _ => 0)).2 := by
  refine ⟨final_wellRetained {} 0 [.registerPublisher sampleRegistration fun _ => 0], ?_, ?_⟩
  · rw [act_sampleRegistration]
    exact .refl _
  · rw [act_sampleRegistration]
    refine ⟨_, getElem?_insert_self, rfl, rfl, rfl, ?_, ?_⟩
    · exact fun h => absurd (show false = true from h) Bool.false_ne_true
    · exact fun i hi => absurd (show i ∈ [] from hi) List.not_mem_nil

theorem crowded_one : Crowded 1 (Run.final act (State.initial {} 0)
    [.registerPublisher sampleRegistration fun _ => 0, .ingest (regionRead 1 0) 0,
      crowdRead 0]) where
  crowding := (crowding_register.read (by decide) (by decide)).read (by decide) (by decide)
  order_eq := by decide +kernel
  twice := by decide +kernel

/-- With all places taken, a read of one more region makes one sample go uncounted. -/
theorem Crowded.uncounted (h : Crowded (n + 1) s) (hn : n + 1 = 8192) :
    uncountedSamples s (crowdRead (n + 1)) = 1 := by
  have hq : UInt64.ofNat (n + 1 + 1) < UInt64.ofNat (n + 1 + 2) :=
    ofNat_lt_ofNat (by omega) (by omega)
  have hsampled : regionSampled s (crowdRead (n + 1)) = some (formatNat (n + 1)) :=
    regionSampled_iff.2 ⟨h.crowding.eligible hq (by omega) 0, rfl⟩
  have horder : s.regionEvidenceOrder =
      formatNat 0 :: ((List.range n).map Nat.succ).map formatNat := by
    rw [h.order_eq, List.range_succ_eq_map, List.map_cons]
  have hfirst : formatNat 0 ∈ s.regionEvidence := by
    refine ((perm_keys_iff.1 h.crowding.well.queue).2 _).1 ?_
    change formatNat 0 ∈ s.regionEvidenceOrder
    rw [horder]
    exact List.mem_cons_self
  have hdisplaced : s.retention.displaced (formatNat (n + 1)) = some (formatNat 0) := by
    rw [Retention.displaced, if_neg]
    · change s.regionEvidenceOrder.find? (· ∈ s.regionEvidence) = _
      rw [horder, List.find?_cons_of_pos (by simpa using hfirst)]
    · rintro (hknown | hroom)
      · exact h.unknown hknown
      · change s.regionEvidence.size < 8192 at hroom
        rw [h.size_eq, hn] at hroom
        exact Nat.lt_irrefl _ hroom
  rw [uncountedSamples, hsampled, bind_some, hdisplaced]
  change (s.samples (formatNat 0)).length - 1 = 1
  rw [h.twice]

theorem loads_of_mem_crowdRun (h : a ∈ crowdRun n) : a.loads = false := by
  simp only [crowdRun, List.mem_append, List.mem_cons, List.mem_map, List.not_mem_nil,
    or_false] at h
  rcases h with ((rfl | rfl | rfl) | ⟨i, _, rfl⟩) | rfl <;> rfl

theorem length_crowdRun (n : Nat) : (crowdRun n).length = n + 4 := by
  rw [crowdRun, List.length_append, List.length_append, List.length_map, List.length_range]
  simp only [List.length_cons, List.length_nil]
  omega

/-- Of the two samples of the region that is given up, one goes uncounted. -/
theorem total_crowdRun (hn : n + 1 = 8192) :
    Run.total act (fun s a => if (regionSampled s a).isSome then 1 else 0)
        (State.initial {} 0) (crowdRun n) ≠
      (Run.final act (State.initial {} 0) (crowdRun n)).retention.heldSamples +
        (Run.final act (State.initial {} 0) (crowdRun n)).loss.droppedRegionSamples.toNat := by
  have hlast : 1 ≤ Run.total act uncountedSamples (State.initial {} 0) (crowdRun n) := by
    have huncounted := (crowded_run crowded_one (n := n) (by omega)).uncounted hn
    rw [crowdRun, Run.total_append, Run.final_append, Run.total, huncounted]
    omega
  rw [total_regionSampled {} 0 (fun a => loads_of_mem_crowdRun)
    (by rw [length_crowdRun]; omega)]
  omega

/-- A run without loads that counts too few dropped samples. -/
theorem crowdRun_uncounted :
    (∀ a ∈ crowdRun 8191, a.loads = false) ∧
      Run.total act (fun s a => if (regionSampled s a).isSome then 1 else 0)
          (State.initial {} 0) (crowdRun 8191) ≠
        (Run.final act (State.initial {} 0) (crowdRun 8191)).retention.heldSamples +
          (Run.final act (State.initial {} 0) (crowdRun 8191)).loss.droppedRegionSamples.toNat :=
  ⟨fun _ => loads_of_mem_crowdRun, total_crowdRun rfl⟩

end CoherenceObservatory
