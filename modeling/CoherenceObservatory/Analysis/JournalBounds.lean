import CoherenceObservatory.Analysis.PingPong
import CoherenceObservatory.Journal
import CoherenceObservatory.Retention

/-!
# Bounds of the journal

What is journaled has passed the checks of its size and its time, and the journal holds only so
much of it. The analyses of the journal can rely on that in every state the observatory reaches,
and those of the samples of regions on their times.
-/

namespace CoherenceObservatory

open Limits

/-- Sizes and times in the journal are within their limits, and so is its length. -/
structure State.JournalBounded (s : State) : Prop where
  length_le : s.journal.length ≤ maxObservationJournal
  timestamp : ∀ e ∈ s.journal, ¬timestampOutOfRange e.observation.timestampNs
  bytes_le : ∀ e ∈ s.journal, e.observation.bytes ≤ maxByteCount

variable {s : State}

/-- The sizes and times of the entries alone. -/
def State.EntriesBounded (s : State) : Prop :=
  ∀ e ∈ s.journal, ¬timestampOutOfRange e.observation.timestampNs ∧
    e.observation.bytes ≤ maxByteCount

/-- What a step adds to the journal is within the limits. -/
theorem act_entriesBounded (h : s.EntriesBounded) (a : Action) : (act s a).2.EntriesBounded := by
  intro e he
  rcases act_journal he with hold | ⟨o, now, p, late, acceptedEpoch, -, hp, heq⟩ |
    ⟨c, now, p, s₁, delta, -, hp, -, heq⟩
  · exact h e hold
  · rw [heq]
    have hvalid := validateObservationStructure_eq_ok.1 hp.valid
    exact ⟨hvalid.timestamp, hvalid.bytes⟩
  · rw [heq]
    exact ⟨(validateCounterPublication_eq_ok.1 hp.valid).timestamp, scaledBytes_le _ _⟩

theorem entriesBounded_initial (options : ObservatoryOptions) (now : Nanos) :
    (State.initial options now).EntriesBounded :=
  fun _ he => absurd he List.not_mem_nil

/-- The bounds, in every run. -/
theorem final_journalBounded (options : ObservatoryOptions) (now : Nanos) (l : List Action) :
    (Run.final act (State.initial options now) l).JournalBounded := by
  have hentries := Run.final_stable (I := State.EntriesBounded)
    (fun _ a h => act_entriesBounded h a) (entriesBounded_initial options now) l
  exact ⟨(final_wellRetained options now l).journal_le, fun e he => (hentries e he).1,
    fun e he => (hentries e he).2⟩

/-! ## Samples -/

/-- A time within its limits is not before the epoch. -/
theorem toInt_nonneg {t : Nanos} (h : ¬timestampOutOfRange t) : 0 ≤ t.toInt :=
  Int64.le_iff_toInt_le.1 (Int64.not_lt.1 fun hneg => h (.inl hneg))

/-- No sample held for a region is dated before the epoch. -/
def State.SamplesDated (s : State) : Prop :=
  ∀ (region : MemoryRegionId) (evidence : RegionEvidence),
    s.regionEvidence[region]? = some evidence → evidence.Dated

theorem samplesDated_iff : s.SamplesDated ↔
    ∀ (region : MemoryRegionId), ∀ sample ∈ s.samples region, 0 ≤ sample.timestampNs.toInt := by
  refine forall_congr' fun region => ?_
  rw [State.samples]
  cases s.regionEvidence[region]? <;> simp [RegionEvidence.Dated]

/-- What is sampled has been journaled in the same step. -/
theorem act_samplesDated (h : s.SamplesDated) (hjournal : s.EntriesBounded) (a : Action) :
    (act s a).2.SamplesDated := by
  rw [samplesDated_iff] at h ⊢
  have hbounded := act_entriesBounded hjournal a
  intro region sample hsample
  cases act_evidence s a with
  | quiet hevidence _ =>
    rw [samples_congr hevidence] at hsample
    exact h region sample hsample
  | apply s₁ o record _ hevidence _ _ hstate _ =>
    rw [hstate] at hsample hbounded
    rcases mem_samples_applyEvidence hsample with hold | ⟨_, _, rfl⟩
    · rw [samples_congr hevidence] at hold
      exact h region sample hold
    · have hentry := List.mem_of_getLast? (getLast?_applyEvidence s₁ o
        (attributeObservation s₁ o) record)
      exact toInt_nonneg (hbounded _ hentry).1
  | load path data options clock staged _ hstate =>
    -- nothing is held once a file is loaded
    rw [hstate] at hsample
    have hnone : (recover s staged clock).regionEvidence[region]? = none := by
      simp [recover, recordStale]
    rw [State.samples, hnone] at hsample
    exact absurd hsample List.not_mem_nil

/-- The ping-pong analysis can subtract the times of samples, in every run. -/
theorem final_samplesDated (options : ObservatoryOptions) (now : Nanos) (l : List Action) :
    (Run.final act (State.initial options now) l).SamplesDated := by
  have hboth := Run.final_stable (I := fun s : State => s.EntriesBounded ∧ s.SamplesDated)
    (fun _ a h => ⟨act_entriesBounded h.1 a, act_samplesDated h.2 h.1 a⟩)
    ⟨entriesBounded_initial options now, fun _ _ h => by simp [State.initial] at h⟩ l
  exact hboth.2

end CoherenceObservatory
