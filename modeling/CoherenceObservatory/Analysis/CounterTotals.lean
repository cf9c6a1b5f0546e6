import CoherenceObservatory.Analysis.Invalidations
import CoherenceObservatory.Counter.Arithmetic

/-!
# Totals of invalidation counters

What counters report of invalidations is added up in one number of the machine, without
saturation, and a total of zero is taken to mean that there is nothing to report.
-/

namespace CoherenceObservatory

/-- The invalidations of the journal that counters report. -/
def counterInvalidations (s : State) : List Observation :=
  (s.journal.map (·.observation)).filter fun o => o.isInvalidation && o.counterDelta.isSome

/-- What they report together. -/
def counterTotal (s : State) : Nat :=
  ((counterInvalidations s).map fun o => (o.counterDelta.getD 0).toNat).sum

variable {s : State} {policy : InvalidationPolicy}

/-- The total, from the true sum. -/
theorem toNat_aggregateCounterInvalidations :
    (aggregateCounterInvalidations s).toNat = counterTotal s % 2 ^ 64 := by
  rw [aggregateCounterInvalidations,
    Grouping.toNat_foldl_add (fun entry : JournalEntry => entry.observation.counterDelta.getD 0),
    UInt64.toNat_zero, Nat.zero_add, counterTotal, counterInvalidations]
  congr 1
  -- events of their own report nothing to the counters
  induction s.journal with
  | nil => rfl
  | cons entry journal ih =>
    rw [List.map_cons, List.filter_cons, List.filter_cons]
    by_cases hinvalidation : entry.observation.isInvalidation = true
    · rw [if_pos hinvalidation, hinvalidation, Bool.true_and, List.map_cons, List.sum_cons, ih]
      cases hdelta : entry.observation.counterDelta with
      | none =>
        rw [Option.isSome_none, if_neg Bool.false_ne_true]
        exact Nat.zero_add _
      | some delta => rw [if_pos Option.isSome_some, List.map_cons, List.sum_cons, hdelta]
    · rw [if_neg hinvalidation, Bool.eq_false_of_not_eq_true hinvalidation, Bool.false_and,
        if_neg Bool.false_ne_true, ih]

theorem counterTotal_eq_zero (h : counterInvalidations s = []) : counterTotal s = 0 := by
  rw [counterTotal, h]
  rfl

/-! ## The finding -/

/-- The kind of subject of a finding about the whole machine. -/
def systemKind : Text := ascii "system"

variable {f : Finding}

theorem subjectKind_burstFinding {accum : InvalidationAccum}
    (h : burstFinding s policy accum = some f) : f.subjectKind = ascii "region" := by
  rw [burstFinding] at h
  dsimp only at h
  split at h
  · cases h
  · obtain rfl := Option.some.inj h
    simp only [Finding.sort, Finding.addParticipant, Finding.addMetric, Finding.addReason]

/-- The finding about counters, where there is one. -/
theorem counterFinding_eq_some (h : counterFinding s = some f) :
    aggregateCounterInvalidations s ≠ 0 ∧ f.subjectKind = systemKind ∧
      f.metrics.map (·.value) = [.ofUInt64 (aggregateCounterInvalidations s)] := by
  rw [counterFinding] at h
  dsimp only at h
  split at h
  · cases h
  case isFalse hne =>
    obtain rfl := Option.some.inj h
    refine ⟨hne, ?_, ?_⟩
    · simp only [Finding.sort, Finding.addMetric, Finding.addMissing, Finding.addReason, systemKind]
    · simp only [Finding.sort, Finding.addMetric, Finding.addMissing, Finding.addReason]
      rfl

/-- A finding about the system is the one about counters. -/
theorem mem_invalidationFindings_system :
    f ∈ invalidationFindings s policy ∧ f.subjectKind = systemKind ↔ counterFinding s = some f := by
  rw [invalidationFindings, List.mem_append, Option.mem_toList]
  constructor
  · rintro ⟨hf | hf, hkind⟩
    · obtain ⟨entry, -, hf⟩ := List.mem_filterMap.1 hf
      rw [subjectKind_burstFinding hf] at hkind
      exact absurd hkind (by decide)
    · exact hf
  · intro hf
    exact ⟨.inr hf, (counterFinding_eq_some hf).2.1⟩

theorem exists_counterFinding_iff :
    (∃ f, counterFinding s = some f) ↔ aggregateCounterInvalidations s ≠ 0 := by
  rw [counterFinding]
  dsimp only
  split
  case isTrue h => simp [h]
  case isFalse h => simp [h]

/-- There is a finding about the system exactly where a counter reports an invalidation. The
total it shows, as a double, is the true one, up to the largest number of the machine. -/
def TotalsCounters (s : State) (policy : InvalidationPolicy) : Prop :=
  ((∃ f ∈ invalidationFindings s policy, f.subjectKind = systemKind) ↔
      counterInvalidations s ≠ []) ∧
    ∀ f ∈ invalidationFindings s policy, f.subjectKind = systemKind →
      f.metrics.map (·.value) = [.ofUInt64 (aggregateCounterInvalidations s)] ∧
        (aggregateCounterInvalidations s).toNat = min (2 ^ 64 - 1) (counterTotal s)

/-- The finding is there and right exactly where no counter reports invalidations, or they report
    some and the sum is one of the machine's numbers (or happens to be congruent to the largest
    of them). -/
theorem counterTotals_iff (s : State) (policy : InvalidationPolicy) :
    TotalsCounters s policy ↔ counterInvalidations s = [] ∨
      1 ≤ counterTotal s ∧
        (counterTotal s < 2 ^ 64 ∨ counterTotal s % 2 ^ 64 = 2 ^ 64 - 1) := by
  have hexists : (∃ f ∈ invalidationFindings s policy, f.subjectKind = systemKind) ↔
      counterTotal s % 2 ^ 64 ≠ 0 := by
    rw [← toNat_aggregateCounterInvalidations, ← UInt64.toNat_zero, ne_eq, UInt64.toNat_inj,
      ← ne_eq, ← exists_counterFinding_iff]
    exact exists_congr fun f => mem_invalidationFindings_system
  have hforall : (∀ f ∈ invalidationFindings s policy, f.subjectKind = systemKind →
      f.metrics.map (·.value) = [.ofUInt64 (aggregateCounterInvalidations s)] ∧
        (aggregateCounterInvalidations s).toNat = min (2 ^ 64 - 1) (counterTotal s)) ↔
      (counterTotal s % 2 ^ 64 ≠ 0 →
        counterTotal s % 2 ^ 64 = min (2 ^ 64 - 1) (counterTotal s)) := by
    rw [← hexists, toNat_aggregateCounterInvalidations]
    constructor
    · rintro h ⟨f, hf, hkind⟩
      exact (h f hf hkind).2
    · intro h f hf hkind
      have hfinding := mem_invalidationFindings_system.1 ⟨hf, hkind⟩
      exact ⟨(counterFinding_eq_some hfinding).2.2, h ⟨f, hf, hkind⟩⟩
  rw [TotalsCounters, hexists, hforall]
  by_cases hnone : counterInvalidations s = []
  · simp [hnone, counterTotal_eq_zero hnone]
  · simp only [hnone, ne_eq, not_false_eq_true, iff_true, false_or]
    omega

/-- A counter of invalidations, which publishes differences. -/
def invalidationReading (sequence rawValue : UInt64) : CounterPublication :=
  { reading .Delta 64 sequence rawValue with mappedType := .Invalidation }

/-- Small differences are added up. -/
theorem counterTotals_iff_small :
    TotalsCounters (Run.final act (State.initial {} 0)
      (readingRun [invalidationReading 1 3, invalidationReading 2 4])) {} ∧
    counterTotal (Run.final act (State.initial {} 0)
      (readingRun [invalidationReading 1 3, invalidationReading 2 4])) = 7 :=
  ⟨(counterTotals_iff _ _).2 (.inr (by decide +kernel)), by decide +kernel⟩

/-- Two differences of `2 ^ 63` add up to nothing. -/
theorem halves_vanish :
    counterInvalidations (Run.final act (State.initial {} 0)
        (readingRun [invalidationReading 1 (2 ^ 63), invalidationReading 2 (2 ^ 63)])) ≠ [] ∧
      counterTotal (Run.final act (State.initial {} 0)
        (readingRun [invalidationReading 1 (2 ^ 63), invalidationReading 2 (2 ^ 63)])) = 2 ^ 64 ∧
      ∀ f ∈ invalidationFindings (Run.final act (State.initial {} 0)
        (readingRun [invalidationReading 1 (2 ^ 63), invalidationReading 2 (2 ^ 63)])) {},
        f.subjectKind ≠ systemKind := by
  refine ⟨?_, ?_, ?_⟩ <;> decide +kernel

end CoherenceObservatory
