import CoherenceObservatory.Persistence.Restored

/-!
# What becomes of the aggregates of a run

A save stores the historical aggregates, which came with the last load, and not the current
ones. So the next load brings back the history of the run before, and of the run that was
saved only what happens to stand in that history already.
-/

namespace CoherenceObservatory

open Std

/-- The totals of a bucket that a file keeps. -/
def SameTotals (v w : AggregateValue) : Prop :=
  w.observations = v.observations ∧ w.bytes = v.bytes ∧ w.invalidations = v.invalidations ∧
    w.ownershipTransfers = v.ownershipTransfers ∧ w.weakestPrecision = v.weakestPrecision

/-- A load that succeeds applied what it parsed. -/
theorem loadState_eq_ok {s t : State} {path : Text} {file : Option (List UInt8)}
    {options : PersistenceOptions} {data : List UInt8} {clock : Nat → Nanos}
    {report : PersistenceReport} (hfile : readFileBounded path file options.maxBytes = .ok data)
    (h : loadState s path file options clock = (.ok report, t)) :
    ∃ staged, parseState data options = .ok staged ∧ t = recover s staged clock := by
  rw [loadState, hfile] at h
  dsimp only at h
  split at h
  next => cases congrArg Prod.fst h
  next staged hparse => exact ⟨staged, hparse, (congrArg Prod.snd h).symm⟩

/-- The history of the next run is that of the saved one, with the totals a file keeps. -/
theorem recovered_aggregates {s : State} (hs : s.Kept) {staged : StagedState}
    (hparse : parseState (saveState s) = .ok staged) :
    staged.historicalAggregates =
      s.historicalAggregates.buckets.map fun _ => AggregateValue.loaded := by
  have hstored := storedAggregates_eq hs.aggregates_size
  have htexts : ∀ e ∈ storedAggregates s {},
      e.1.value.length ≤ Limits.maxRegionAnnotationLength := by
    intro e he
    rw [hstored] at he
    exact (hs.aggregates e.1 e.2 (ExtTreeMap.mem_toList_iff_getElem?_eq_some.1 he)).text
  rw [(parsed_of_parseState hparse).aggregates rfl htexts, hstored]
  exact foldl_insert_toList _ fun _ => AggregateValue.loaded

/-- Of the buckets that are current at a save, those within the bound of the history are
    found in the history after the next load exactly if they were in the history before. -/
theorem history_keeps_current_iff (options : ObservatoryOptions) (now : Nanos) (l : List Action)
    (path : Text) (file : Option (List UInt8))
    (hfile : readFileBounded path file ({} : PersistenceOptions).maxBytes =
      .ok (saveState (Run.final act (State.initial options now) l)))
    (fresh : ObservatoryOptions) (started : Nanos) (clock : Nat → Nanos)
    (report : PersistenceReport) (t : State)
    (hload : loadState (State.initial fresh started) path file {} clock = (.ok report, t)) :
    let s := Run.final act (State.initial options now) l
    ((∀ e ∈ s.aggregates.buckets.toList.take ({} : PersistenceOptions).maxHistoryRecords,
        ∃ w, t.historicalAggregates.buckets[e.1]? = some w ∧ SameTotals e.2 w) ∧
      t.aggregates.buckets = ∅) ↔
    ∀ e ∈ s.aggregates.buckets.toList.take ({} : PersistenceOptions).maxHistoryRecords,
      ∃ w, s.historicalAggregates.buckets[e.1]? = some w ∧ SameTotals e.2 w := by
  intro s
  obtain ⟨staged, hparse, rfl⟩ := loadState_eq_ok hfile hload
  have hhistory : (recover (State.initial fresh started) staged clock).historicalAggregates.buckets =
      s.historicalAggregates.buckets.map fun _ => AggregateValue.loaded :=
    recovered_aggregates (final_kept options now l) hparse
  have hempty : (recover (State.initial fresh started) staged clock).aggregates.buckets = ∅ := rfl
  rw [and_iff_left hempty, hhistory]
  refine forall₂_congr fun e _ => ?_
  rw [ExtTreeMap.getElem?_map]
  -- the file keeps just the totals in question
  constructor
  · rintro ⟨w, hw, htotals⟩
    obtain ⟨v, hv, rfl⟩ := Option.map_eq_some_iff.1 hw
    exact ⟨v, hv, htotals⟩
  · rintro ⟨v, hv, htotals⟩
    exact ⟨v.loaded, by rw [hv]; rfl, htotals⟩

/-- A registered publisher. -/
def historySetup : List Action := [.registerPublisher { id := ascii "p", boot := 1 } fun _ => 0]

/-- A registered publisher whose read was counted. -/
def historyRun : List Action := historySetup ++
  [.ingest
    { eventId := 1, type := .RemoteRead, sourcePublisher := ascii "p", publisherBoot := 1,
      coordinatorEpoch := 1, topologyGeneration := 1, sequence := 1, timestampNs := 1 } 0]

theorem savable_historyRun : (Run.final act (State.initial {} 0) historyRun).Savable := by
  have hsetup : (Run.final act (State.initial {} 0) historySetup).Savable :=
    Run.final_invariant (I := State.Savable) (fun _ _ hs ha => act_savable hs ha)
      (savable_initial 0) ⟨⟨trivial, .inr (by decide +kernel)⟩, trivial⟩
  rw [show Run.final act _ historyRun = Run.final act _ [_] from
    Run.final_append _ historySetup _]
  exact act_savable hsetup ⟨trivial, trivial⟩

/-- The read is counted in a bucket, and no history was loaded before. -/
theorem exists_current_historyRun :
    ∃ e ∈ (Run.final act (State.initial {} 0) historyRun).aggregates.buckets.toList.take
        ({} : PersistenceOptions).maxHistoryRecords,
      (Run.final act (State.initial {} 0) historyRun).historicalAggregates.buckets[e.1]? = none := by
  have hsome : (Run.final act (State.initial {} 0) historyRun).aggregates.buckets.toList.take
      ({} : PersistenceOptions).maxHistoryRecords ≠ [] := by decide +kernel
  obtain ⟨e, he⟩ := List.exists_mem_of_ne_nil _ hsome
  exact ⟨e, he, rfl⟩

/-- The load of what the run saved does not find the counted read in the history. -/
theorem history_keeps_current_read :
    let s := Run.final act (State.initial {} 0) historyRun
    ∃ report t, loadState (State.initial {} 1) [] (some (saveState s)) {} (fun _ => 1) =
        (.ok report, t) ∧
      ¬((∀ e ∈ s.aggregates.buckets.toList.take ({} : PersistenceOptions).maxHistoryRecords,
          ∃ w, t.historicalAggregates.buckets[e.1]? = some w ∧ SameTotals e.2 w) ∧
        t.aggregates.buckets = ∅) := by
  intro s
  have hload := savable_historyRun.loadState_saveState (State.initial {} 1) [] fun _ => 1
  refine ⟨_, _, hload, fun hkept => ?_⟩
  obtain ⟨e, he, hnone⟩ := exists_current_historyRun
  obtain ⟨w, hw, -⟩ := (history_keeps_current_iff {} 0 historyRun [] _
    (savable_historyRun.encodable.readFileBounded_saveState []) {} 1 _ _ _ hload).1 hkept e he
  exact absurd (hnone.symm.trans hw) nofun

/-- A counted read is in the current aggregates, and in no history after the next load. -/
theorem history_loses_current :
    let s := Run.final act (State.initial {} 0) historyRun
    ∃ e ∈ s.aggregates.buckets.toList.take ({} : PersistenceOptions).maxHistoryRecords,
      ∃ report t, loadState (State.initial {} 1) [] (some (saveState s)) {} (fun _ => 1) =
          (.ok report, t) ∧ t.historicalAggregates.buckets[e.1]? = none := by
  intro s
  have hload := savable_historyRun.loadState_saveState (State.initial {} 1) [] fun _ => 1
  obtain ⟨e, he, hnone⟩ := exists_current_historyRun
  refine ⟨e, he, _, _, hload, ?_⟩
  change (s.historicalAggregates.buckets.map fun _ => AggregateValue.loaded)[e.1]? = none
  rw [Std.ExtTreeMap.getElem?_map, hnone]
  rfl

end CoherenceObservatory
