import CoherenceObservatory.Admission
import CoherenceObservatory.Conservation
import CoherenceObservatory.Replay

/-!
# Batches

A batch takes the lock once to be admitted, once for each of its elements and once to finish. In
between, other callers may act, with batches of their own. What they share besides the observatory
is the number of observations that were admitted and not yet accounted for.
-/

namespace CoherenceObservatory

open Std

/-! ## Ingestion and the pending number -/

/-- The state with another number of pending observations. -/
def State.pend (s : State) (n : Nat) : State := { s with pendingIngestion := n }

section

variable (s : State) (n : Nat)

theorem State.pend_self : s.pend s.pendingIngestion = s := rfl

theorem State.pend_publishers : (s.pend n).publishers = s.publishers := rfl

theorem State.pend_coordinatorEpoch : (s.pend n).coordinatorEpoch = s.coordinatorEpoch := rfl

theorem State.pend_options : (s.pend n).options = s.options := rfl

theorem accumulateAll_pend (o : Observation) :
    accumulateAll (s.pend n) o = (accumulateAll s o).pend n := by
  rw [accumulateAll_eq, accumulateAll_eq]
  exact List.foldl_hom (fun s => State.pend s n) fun _ _ => rfl

theorem appendJournal_pend (entry : JournalEntry) :
    appendJournal (s.pend n) entry = (appendJournal s entry).pend n := by
  unfold appendJournal State.pend
  dsimp only
  split <;> rfl

theorem sampleRegion_pend (key : Text) (o : Observation) :
    sampleRegion (s.pend n) key o = (sampleRegion s key o).pend n := by
  have htrack : trackRegion (s.pend n) key = (trackRegion s key).pend n := by
    unfold trackRegion State.pend
    dsimp only
    split <;> rfl
  unfold sampleRegion
  rw [htrack]
  rfl

theorem applyObservation_pend (o : Observation) (outcome : AttributionOutcome) (locality : Locality)
    (established : Bool) :
    applyObservation (s.pend n) o outcome locality established =
      (applyObservation s o outcome locality established).pend n := by
  have hcount : (if countsAsCurrentEvidence outcome then accumulateAll (s.pend n) o else s.pend n) =
      (if countsAsCurrentEvidence outcome then accumulateAll s o else s).pend n := by
    split
    · exact accumulateAll_pend s n o
    · rfl
  unfold applyObservation
  dsimp only
  rw [hcount, appendJournal_pend]
  split
  · rfl
  · split
    · exact sampleRegion_pend _ n _ _
    · rfl

theorem applyEvidence_pend (o : Observation) (a : AttributionResult)
    (record : StaleEvidenceRecord) :
    applyEvidence (s.pend n) o a record = (applyEvidence s o a record).pend n := by
  unfold applyEvidence
  dsimp only
  split
  · exact applyObservation_pend s n o _ _ _
  · exact applyObservation_pend (recordStale s record) n o _ _ _

theorem ingestAccounted_pend (p : PublisherState) (o : Observation) (now : Nanos) :
    ingestAccounted (s.pend n) p o now =
      (ingestAccounted s p o now).map id fun s => s.pend n := by
  have haccepted (hash : UInt64) (d : SequenceDecision) :
      ingestAccepted (s.pend n) p o hash d now =
        (ingestAccepted s p o hash d now).map id fun s => s.pend n := by
    unfold ingestAccepted
    refine Prod.ext rfl ?_
    dsimp only [Prod.map]
    exact applyEvidence_pend (s.setPublisher o.sourcePublisher (acceptObservation p o hash d now)
      { s.loss with missingSequences := s.loss.missingSequences + d.missing }) n _ _ _
  unfold ingestAccounted
  dsimp only
  split
  · rfl
  split
  · rfl
  · split <;> rfl
  · exact haccepted _ _
  · exact haccepted _ _

/-- Ingestion neither looks at the number of pending observations nor changes it. -/
theorem ingestLocked_pend (o : Observation) (now : Nanos) :
    ingestLocked (s.pend n) o now = (ingestLocked s o now).map id fun s => s.pend n := by
  unfold ingestLocked
  cases validateObservationStructure o with
  | error e => rfl
  | ok u =>
    dsimp only [State.pend_publishers, State.pend_coordinatorEpoch, State.pend_options]
    cases s.publishers[o.sourcePublisher]? with
    | none => rfl
    | some p =>
      dsimp only
      rw [ingestAccounted_pend]
      simp only [apply_ite (Prod.map id fun s => State.pend s n)]
      rfl

end

theorem ingestLocked_pending (s : State) (o : Observation) (now : Nanos) :
    (ingestLocked s o now).2.pendingIngestion = s.pendingIngestion := by
  obtain ⟨_, _, _, _, _, _, _, _, h⟩ := (ingestLocked_binding s o now).1
  rw [h]

theorem ingestEach_pend (clock : Nat → Nanos) (os : List Observation) (s : State) (n : Nat) :
    ingestEach clock (s.pend n) os = (ingestEach clock s os).map id fun s => s.pend n := by
  induction os generalizing s with
  | nil => rfl
  | cons o os ih =>
    rw [ingestEach, ingestEach, ingestLocked_pend]
    dsimp only [Prod.map, id]
    rw [ih]
    rfl

theorem ingestEach_pending (clock : Nat → Nanos) (os : List Observation) (s : State) :
    (ingestEach clock s os).2.pendingIngestion = s.pendingIngestion := by
  induction os generalizing s with
  | nil => rfl
  | cons o os ih => exact (ih _).trans (ingestLocked_pending s o _)

/-! ## A batch alone -/

/-- Every outcome is of one of four kinds. -/
theorem countP_dispositions (outcomes : List IngestionOutcome) :
    outcomes.countP (fun o => o.disposition = .accepted) +
      outcomes.countP (fun o => o.disposition = .acceptedLate) +
      outcomes.countP (fun o => o.disposition = .duplicate) +
      outcomes.countP (fun o => o.disposition = .rejected) = outcomes.length := by
  induction outcomes with
  | nil => rfl
  | cons o outcomes ih =>
    rw [List.length_cons, ← ih]
    cases h : o.disposition <;> simp [h] <;> omega

/-- The four tallies of a batch. -/
def BatchOutcome.total (b : BatchOutcome) : Nat :=
  b.accepted.toNat + b.acceptedLate.toNat + b.duplicates.toNat + b.rejected.toNat

theorem total_ofEach {outcomes : List IngestionOutcome} (h : outcomes.length < 2 ^ 64) :
    (BatchOutcome.ofEach outcomes).total = outcomes.length := by
  have htally (d : IngestionDisposition) :
      (tally outcomes d).toNat = outcomes.countP fun o => o.disposition = d :=
    UInt64.toNat_ofNat_of_lt' (List.countP_le_length.trans_lt h)
  rw [BatchOutcome.total, BatchOutcome.ofEach]
  simp only [htally]
  exact countP_dispositions outcomes

theorem admitBatch_cases (s : State) (count : Nat) :
    (∃ e s', admitBatch s count = (.error e, s') ∧ s'.pendingIngestion = s.pendingIngestion ∧
        s'.options = s.options) ∨
      (count ≤ Limits.maxBatchEvents ∧ s.pendingIngestion + count ≤ s.options.maxPendingIngestion ∧
        admitBatch s count = (.ok (), s.pend (s.pendingIngestion + count))) := by
  unfold admitBatch
  iterate 3
    split
    · exact .inl ⟨_, _, rfl, rfl, rfl⟩
  next hlarge hfull => exact .inr ⟨Nat.not_lt.1 hlarge, Nat.not_lt.1 hfull, rfl⟩

variable {s s' : State} {os : List Observation}

theorem ingestBatch_admitted (clock : Nat → Nanos)
    (h : admitBatch s os.length = (.ok (), s.pend (s.pendingIngestion + os.length))) :
    ingestBatch s os clock =
      (.ok (.ofEach (ingestEach clock s os).1), (ingestEach clock s os).2) := by
  rw [ingestBatch, h]
  dsimp only
  rw [ingestEach_pend]
  refine Prod.ext rfl ?_
  -- The number the batch was admitted with is given back at its end.
  have hback : s.pendingIngestion + os.length - os.length =
      (ingestEach clock s os).2.pendingIngestion := by
    rw [ingestEach_pending, Nat.add_sub_cancel]
  exact (congrArg (ingestEach clock s os).2.pend hback).trans (State.pend_self _)

/-- A batch alone is its elements, one by one. -/
theorem ingestBatch_alone {clock : Nat → Nanos} {outcome : BatchOutcome}
    (h : (ingestBatch s os clock).1 = .ok outcome) :
    outcome.perEvent = (ingestEach clock s os).1 ∧
      (ingestBatch s os clock).2 = (ingestEach clock s os).2 ∧ outcome.total = os.length := by
  rcases admitBatch_cases s os.length with ⟨e, s', hrefused, -⟩ | ⟨hsize, -, hadmitted⟩
  · rw [ingestBatch, hrefused] at h
    exact absurd h nofun
  · rw [ingestBatch_admitted clock hadmitted] at h ⊢
    obtain rfl := Except.ok.inj h
    refine ⟨rfl, rfl, ?_⟩
    have hlength := length_ingestEach clock os s
    rw [total_ofEach (by rw [hlength]; exact hsize.trans_lt (by decide)), hlength]

/-! ## Batches among other callers -/

/-- What a batch reads of the state to be admitted. -/
def State.intake (s : State) : Nat × Nat := (s.pendingIngestion, s.options.maxPendingIngestion)

theorem IngestOnly.intake_eq (h : IngestOnly s s') : s'.intake = s.intake := by
  obtain ⟨_, _, _, _, _, _, _, _, rfl⟩ := h
  rfl

/-- The two steps a batch takes besides its elements. -/
def Action.ofBatch : Action → Bool
  | .admitBatch _ | .finishBatch _ => true
  | _ => false

/-- No other step touches what the batches share. -/
theorem act_intake (s : State) {a : Action} (h : a.ofBatch = false) :
    (act s a).2.intake = s.intake := by
  cases a with
  | admitBatch | finishBatch => exact absurd h nofun
  | registerNode | registerProcessor | registerAccelerator | registerMemoryDomain
  | registerCoherenceDomain | registerRegion | setTopologyLink | setCapability | setCostModel
  | retireRegion | bumpTopologyGeneration =>
    exact act_of_describes State.intake rfl rfl
  | registerPublisher | fencePublisherBoot | reconcile =>
    exact act_of_binds State.intake rfl
  | snapshot | save => rfl
  | ingest o now => exact (ingestLocked_binding s o now).1.intake_eq
  | ingestCounter c now => exact (ingestCounter_binding s c now).1.intake_eq
  | load path file options clock =>
    rw [act, loadState]
    split
    · rfl
    split <;> rfl

/-- A batch that was admitted and has not finished. -/
structure RunningBatch where
  size : Nat
  rest : List Observation

/-- An observatory and the batches its callers are in the middle of. -/
structure Callers where
  observatory : State
  batches : List RunningBatch := []

/-- One stretch of a caller's work under the lock. -/
inductive Move
  | submit (os : List Observation)
  /-- The next element of a batch. -/
  | element (i : Nat) (now : Nanos)
  /-- A batch without elements left gives back what it was admitted with. -/
  | finish (i : Nat)
  | other (a : Action) (single : a.ofBatch = false)

/-- What a move does to the callers, and whether it took place. -/
def Callers.move (c : Callers) : Move → Bool × Callers
  | .submit os =>
    match admitBatch c.observatory os.length with
    | (.error _, s) => (false, { c with observatory := s })
    | (.ok (), s) => (true, ⟨s, c.batches ++ [⟨os.length, os⟩]⟩)
  | .element i now =>
    match c.batches[i]? with
    | some ⟨size, o :: rest⟩ =>
      (true, ⟨(ingestLocked c.observatory o now).2, c.batches.set i ⟨size, rest⟩⟩)
    | _ => (false, c)
  | .finish i =>
    match c.batches[i]? with
    | some ⟨size, []⟩ => (true, ⟨finishBatch c.observatory size, c.batches.eraseIdx i⟩)
    | _ => (false, c)
  | .other a _ => (true, { c with observatory := (act c.observatory a).2 })

/-- The number of pending observations is what the running batches amount to. -/
structure Balanced (limit : Nat) (c : Callers) : Prop where
  limit_eq : c.observatory.options.maxPendingIngestion = limit
  pending : c.observatory.pendingIngestion = (c.batches.map RunningBatch.size).sum
  bounded : c.observatory.pendingIngestion ≤ limit

variable {b : RunningBatch}

section

variable {limit : Nat} {c : Callers}

theorem Balanced.of_intake (h : Balanced limit c) {batches : List RunningBatch}
    (hintake : s.intake = c.observatory.intake)
    (hsizes : batches.map RunningBatch.size = c.batches.map RunningBatch.size) :
    Balanced limit ⟨s, batches⟩ := by
  obtain ⟨hpending, hlimit⟩ := Prod.mk.inj hintake
  exact ⟨hlimit.trans h.limit_eq, hpending.trans (h.pending.trans (congrArg _ hsizes.symm)),
    hpending.trans_le h.bounded⟩

/-- A running batch is one of those the number is made of. -/
theorem sum_eraseIdx {i : Nat} (h : c.batches[i]? = some b) :
    (c.batches.map RunningBatch.size).sum =
      b.size + ((c.batches.eraseIdx i).map RunningBatch.size).sum := by
  obtain ⟨hi, rfl⟩ := List.getElem?_eq_some_iff.1 h
  exact (((List.getElem_cons_eraseIdx_perm hi).map RunningBatch.size).sum_eq).symm

theorem Balanced.submit (h : Balanced limit c) (os : List Observation) :
    Balanced limit (c.move (.submit os)).2 := by
  rcases admitBatch_cases c.observatory os.length with
    ⟨e, s, hrefused, hpending, hoptions⟩ | ⟨-, hfits, hadmitted⟩
  · rw [Callers.move, hrefused]
    exact h.of_intake
      (Prod.ext hpending (congrArg ObservatoryOptions.maxPendingIngestion hoptions)) rfl
  · rw [Callers.move, hadmitted]
    refine ⟨h.limit_eq, ?_, hfits.trans_eq h.limit_eq⟩
    rw [List.map_append, List.sum_append, ← h.pending]
    rfl

theorem Balanced.element (h : Balanced limit c) (i : Nat) (now : Nanos) :
    Balanced limit (c.move (.element i now)).2 := by
  rw [Callers.move]
  split
  next size o rest hi =>
    refine h.of_intake (ingestLocked_binding c.observatory o now).1.intake_eq ?_
    have hsize : (c.batches.map RunningBatch.size)[i]? = some size := by
      rw [List.getElem?_map, hi]
      rfl
    obtain ⟨hlt, hsize⟩ := List.getElem?_eq_some_iff.1 hsize
    rw [List.map_set, ← hsize]
    exact List.set_getElem_self hlt
  · exact h

/-- What is given back was taken, so the number does not pass below zero. -/
theorem Balanced.finish (h : Balanced limit c) (i : Nat) :
    Balanced limit (c.move (.finish i)).2 := by
  rw [Callers.move]
  split
  next size hi =>
    have hsum := sum_eraseIdx hi
    refine ⟨h.limit_eq, ?_, (Nat.sub_le _ _).trans h.bounded⟩
    have hpending : c.observatory.pendingIngestion - size =
        ((c.batches.eraseIdx i).map RunningBatch.size).sum := by
      rw [h.pending, hsum, Nat.add_sub_cancel_left]
    exact hpending
  · exact h

theorem Balanced.move (h : Balanced limit c) (m : Move) : Balanced limit (c.move m).2 := by
  cases m with
  | submit os => exact h.submit os
  | element i now => exact h.element i now
  | finish i => exact h.finish i
  | other a single => exact h.of_intake (act_intake c.observatory single) rfl

end

theorem Balanced.size_le {limit : Nat} {c : Callers} (h : Balanced limit c) (hb : b ∈ c.batches) :
    b.size ≤ c.observatory.pendingIngestion := by
  obtain ⟨i, hi⟩ := List.getElem?_of_mem hb
  rw [h.pending, sum_eraseIdx hi]
  exact Nat.le_add_right _ _

theorem balanced_initial (options : ObservatoryOptions) (now : Nanos) :
    Balanced options.maxPendingIngestion ⟨State.initial options now, []⟩ :=
  ⟨rfl, rfl, Nat.zero_le _⟩

/-- A batch with no call in between is its elements one by one; and whatever the callers do, the
    number of pending observations is that of the running batches. -/
theorem batches_sequential :
    (∀ (s : State) (os : List Observation) (clock : Nat → Nanos) (outcome : BatchOutcome),
      (ingestBatch s os clock).1 = .ok outcome →
        (ingestBatch s os clock).2 = Run.final act s (ingestActions clock os) ∧
        outcome.perEvent.map Answer.ingested =
          (Run.history act s (ingestActions clock os)).map Prod.snd ∧
        outcome.accepted.toNat + outcome.acceptedLate.toNat + outcome.duplicates.toNat +
          outcome.rejected.toNat = os.length) ∧
      ∀ (options : ObservatoryOptions) (now : Nanos) (moves : List Move),
        let c := Run.final Callers.move ⟨State.initial options now, []⟩ moves
        c.observatory.pendingIngestion = (c.batches.map RunningBatch.size).sum ∧
          c.observatory.pendingIngestion ≤ options.maxPendingIngestion ∧
          (∀ b ∈ c.batches, b.size ≤ c.observatory.pendingIngestion) ∧
          (c.batches = [] → c.observatory.pendingIngestion = 0) := by
  refine ⟨fun s os clock outcome h => ?_, fun options now moves => ?_⟩
  · obtain ⟨heach, hstate, htotal⟩ := ingestBatch_alone h
    obtain ⟨hanswers, hfinal⟩ := ingestEach_run clock os s
    exact ⟨hstate.trans hfinal.symm, (congrArg _ heach).trans hanswers.symm, htotal⟩
  · have h := Run.final_invariant (I := Balanced options.maxPendingIngestion)
      (fun _ m h _ => h.move m) (balanced_initial options now)
      (Run.along_of_forall_mem (l := moves) (fun _ _ => trivial) _)
    refine ⟨h.pending, h.bounded, fun b hb => h.size_le hb, fun hnone => ?_⟩
    rw [h.pending, hnone]
    rfl

/-- A batch of an observation and its repetition, and two batches of which one is turned away. -/
theorem batches_sequential_repeated :
    (∃ outcome, (ingestBatch (act (State.initial {} 0)
          (.registerPublisher sampleRegistration fun _ => 0)).2
          [sampleObservation 1, sampleObservation 1] fun _ => 0).1 = .ok outcome ∧
        outcome.accepted = 1 ∧ outcome.duplicates = 1 ∧
        outcome.accepted.toNat + outcome.acceptedLate.toNat + outcome.duplicates.toNat +
          outcome.rejected.toNat = 2) ∧
      let c := Run.final Callers.move ⟨State.initial { maxPendingIngestion := 3 } 0, []⟩
        [.submit [sampleObservation 1, sampleObservation 2], .element 0 0,
          .submit [sampleObservation 1, sampleObservation 2]]
      c.observatory.pendingIngestion = 2 ∧ c.batches.length = 1 ∧
        ∀ b ∈ c.batches, b.size ≤ c.observatory.pendingIngestion := by
  refine ⟨?_, ?_⟩
  · let outcome := BatchOutcome.ofEach (ingestEach (fun _ => 0) (act (State.initial {} 0)
      (.registerPublisher sampleRegistration fun _ => 0)).2
      [sampleObservation 1, sampleObservation 1]).1
    have h : (ingestBatch (act (State.initial {} 0)
        (.registerPublisher sampleRegistration fun _ => 0)).2
        [sampleObservation 1, sampleObservation 1] fun _ => 0).1 = .ok outcome :=
      congrArg Prod.fst (ingestBatch_admitted _ rfl)
    exact ⟨outcome, h, by decide +kernel, by decide +kernel, (batches_sequential.1 _ _ _ _ h).2.2⟩
  · have h := batches_sequential.2 { maxPendingIngestion := 3 } 0
      [.submit [sampleObservation 1, sampleObservation 2], .element 0 0,
        .submit [sampleObservation 1, sampleObservation 2]]
    exact ⟨by decide +kernel, by decide +kernel, h.2.2.1⟩

end CoherenceObservatory
