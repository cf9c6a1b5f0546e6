import CoherenceObservatory.Conservation
import CoherenceObservatory.Counter.Meter
import CoherenceObservatory.Lib.Variation

/-!
# Counter arithmetic

What the samples of a counter add up to. A sample counts from the one before it, whichever that
is: the meter remembers the last value it was given, not the largest.
-/

namespace CoherenceObservatory

open Std Variation

/-! ## Descriptors -/

/-- What the code compares before it lets a sample count from the last one. -/
structure Descriptor where
  generation : CounterGeneration
  kind : CounterKind
  scope : CounterScope
  widthBits : UInt32
  mappedType : EventType
  deriving DecidableEq

/-- The descriptor of a sample. -/
def CounterPublication.descriptor (c : CounterPublication) : Descriptor :=
  ⟨c.generation, c.kind, c.scope, c.widthBits, c.mappedType⟩

/-- The descriptor of the last sample. -/
def CounterState.descriptor (k : CounterState) : Descriptor :=
  ⟨k.generation, k.kind, k.scope, k.widthBits, k.mappedType⟩

theorem identityChanged_iff (k : CounterState) (c : CounterPublication) :
    identityChanged k c = true ↔ k.samples ≠ 0 ∧ k.descriptor ≠ c.descriptor := by
  simp only [identityChanged, Bool.and_eq_true, Bool.or_eq_true, bne_iff_ne,
    CounterState.descriptor, CounterPublication.descriptor, ne_eq, Descriptor.mk.injEq]
  tauto

/-! ## One sample -/

/-- The delta of a sample that follows a value. -/
def follow (last : UInt64) (c : CounterPublication) : UInt64 × CounterStep :=
  counterDelta { hasLast := true, lastRaw := last } c

variable {k : CounterState} {sum : UInt64 × Bool} {c : CounterPublication} {d : Descriptor}
  {cs : List CounterPublication}

theorem counterDelta_of_hasLast (h : k.hasLast = true) (c : CounterPublication) :
    counterDelta k c = follow k.lastRaw c := by
  simp [counterDelta, follow, h]

/-- The sum is given as a variable: what `checkedAdd` computes is of no concern here. -/
theorem CounterState.sample_sum {delta : UInt64} (h : checkedAdd k.accumulated delta = sum)
    (c : CounterPublication) (step : CounterStep) :
    (k.sample c delta step).accumulated = sum.1 ∧
      (k.sample c delta step).saturated = (k.saturated || sum.2) := by
  unfold CounterState.sample
  rw [h]
  exact ⟨rfl, rfl⟩

/-- A sample with the delta it is found to have. -/
theorem meter_eq {d : UInt64 × CounterStep} (hdelta : counterDelta (k.describe c) c = d)
    (hsum : checkedAdd (k.describe c).accumulated d.1 = sum) :
    (meter k c).1.delta = d.1 ∧
      (meter k c).1.discontinuity = (identityChanged k c || d.2 != .advance) ∧
      (meter k c).2.accumulated = sum.1 ∧
      (meter k c).2.saturated = ((k.describe c).saturated || sum.2) := by
  obtain ⟨haccumulated, hsaturated⟩ := CounterState.sample_sum hsum c d.2
  unfold meter
  dsimp only
  rw [hdelta]
  exact ⟨rfl, rfl, haccumulated, hsaturated⟩

/-- A counter that has a last value, under the descriptor of its samples. -/
structure Running (d : Descriptor) (last : UInt64) (k : CounterState) : Prop where
  hasLast : k.hasLast = true
  lastRaw : k.lastRaw = last
  descriptor : k.descriptor = d

/-- What a sample leaves behind. -/
theorem running_meter (k : CounterState) (c : CounterPublication) :
    Running c.descriptor c.rawValue (meter k c).2 := ⟨rfl, rfl, rfl⟩

namespace Running

variable {d : Descriptor} {last : UInt64} {k : CounterState} {c : CounterPublication}

theorem identity_same (h : Running d last k) (hc : c.descriptor = d) :
    identityChanged k c = false := by
  rw [← Bool.not_eq_true, identityChanged_iff, h.descriptor, hc]
  exact fun hchanged => hchanged.2 rfl

/-- A sample that continues its counter counts from the last value. -/
theorem meter (h : Running d last k) (hc : c.descriptor = d)
    (hsum : checkedAdd k.accumulated (follow last c).1 = sum) :
    (meter k c).1.delta = (follow last c).1 ∧
      (meter k c).1.discontinuity = ((follow last c).2 != .advance) ∧
      (meter k c).2.accumulated = sum.1 ∧
      (meter k c).2.saturated = (k.saturated || sum.2) := by
  have hsame := h.identity_same hc
  have hlast : (k.describe c).hasLast = true := by simp [CounterState.describe, h.hasLast, hsame]
  have hdelta : counterDelta (k.describe c) c = follow last c := by
    rw [counterDelta_of_hasLast hlast, ← h.lastRaw, CounterState.describe]
  have haccumulated : (k.describe c).accumulated = k.accumulated := by
    simp [CounterState.describe, hsame]
  have hsaturated : (k.describe c).saturated = k.saturated := by
    simp [CounterState.describe, hsame]
  rw [← haccumulated] at hsum
  have := meter_eq hdelta hsum
  rwa [hsame, Bool.false_or, hsaturated] at this

end Running

/-- The first sample of a counter counts nothing. -/
theorem meter_initial (hkind : c.kind ≠ .Delta) :
    (meter {} c).1.delta = 0 ∧ (meter {} c).2.accumulated = 0 ∧
      (meter {} c).2.saturated = false := by
  have hlast : (CounterState.describe {} c).hasLast = false := rfl
  have hdelta : counterDelta (CounterState.describe {} c) c = (0, .advance) := by
    unfold counterDelta
    simp [hkind, hlast]
  have hadd : checkedAdd 0 0 = (0, false) := checkedAdd_of_lt (by decide)
  obtain ⟨hzero, -, haccumulated, hsaturated⟩ := meter_eq hdelta hadd
  exact ⟨hzero, haccumulated, hsaturated⟩

/-- Absolute and resettable counters count every increase, and nothing else. -/
theorem toNat_follow_of_plain (last : UInt64) (h : c.kind = .Absolute ∨ c.kind = .Resettable) :
    (follow last c).1.toNat = c.rawValue.toNat - last.toNat := by
  have hdelta : c.kind ≠ .Delta := by rcases h with h | h <;> rw [h] <;> decide
  have hsampled : c.kind ≠ .Sampled := by rcases h with h | h <;> rw [h] <;> decide
  have hwrapping : c.kind ≠ .Wrapping := by rcases h with h | h <;> rw [h] <;> decide
  simp only [follow, counterDelta, hdelta, hsampled, hwrapping, if_false, not_true_eq_false,
    false_and]
  split
  next hle => exact UInt64.toNat_sub_of_le _ _ hle
  next hlt =>
    rw [ge_iff_le, UInt64.le_iff_toNat_le] at hlt
    change 0 = _
    omega

/-! ## Samples out of order -/

/-- A counter that only ever counts up, under one descriptor. -/
structure CounterPublication.Plain (d : Descriptor) (c : CounterPublication) : Prop where
  kind : c.kind = .Absolute ∨ c.kind = .Resettable
  descriptor : c.descriptor = d

theorem CounterPublication.Plain.kind_ne_delta (h : c.Plain d) : c.kind ≠ .Delta := by
  rcases h.kind with h | h <;> rw [h] <;> decide

/-- The deltas of samples, added up. -/
def deltaSum (samples : List Sample) : Nat := (samples.map fun x => x.2.delta.toNat).sum

/-- The values of publications. -/
def rawValues (cs : List CounterPublication) : List Nat := cs.map fun c => c.rawValue.toNat

theorem deltaSum_of_running {last : UInt64} (h : Running d last k) (hcs : ∀ c ∈ cs, c.Plain d) :
    deltaSum (Run.history meter k cs) = rise (last.toNat :: rawValues cs) := by
  induction cs generalizing k last with
  | nil => rfl
  | cons c cs ih =>
    obtain ⟨hc, hcs⟩ := List.forall_mem_cons.1 hcs
    have hnext : Running d c.rawValue (meter k c).2 := hc.descriptor ▸ running_meter k c
    obtain ⟨hdelta, -⟩ := h.meter hc.descriptor rfl
    rw [Run.history, deltaSum, List.map_cons, List.sum_cons, hdelta,
      toNat_follow_of_plain _ hc.kind]
    exact congrArg _ (ih hnext hcs)

theorem deltaSum_of_plain (hcs : ∀ c ∈ cs, c.Plain d) :
    deltaSum (Run.history meter {} cs) = rise (rawValues cs) := by
  cases cs with
  | nil => rfl
  | cons c cs =>
    obtain ⟨hc, hcs⟩ := List.forall_mem_cons.1 hcs
    have hnext : Running d c.rawValue (meter {} c).2 := hc.descriptor ▸ running_meter {} c
    rw [Run.history, deltaSum, List.map_cons, List.sum_cons, (meter_initial hc.kind_ne_delta).1]
    exact (Nat.zero_add _).trans (deltaSum_of_running hnext hcs)

/-- Whatever a step publishes for a counter is a sample of one absolute counter of 64 bits. -/
structure Action.Absolute (k : CounterKey) (d : Descriptor) (a : Action) : Prop where
  loads : a.loads = false
  kind : ∀ c, a.publication = some c → c.key = k → c.kind = .Absolute
  widthBits : ∀ c, a.publication = some c → c.key = k → c.widthBits = 64
  descriptor : ∀ c, a.publication = some c → c.key = k → c.descriptor = d

theorem le_widthMax_of_wide {bits : UInt32} (h : bits = 64) (raw : UInt64) :
    raw ≤ widthMax bits := by
  have hraw := raw.toNat_lt
  rw [widthMax, if_pos (by rw [h]; decide), UInt64.le_iff_toNat_le, toNat_maxU64]
  omega

theorem Action.Absolute.keeps {k : CounterKey} {a : Action} (h : a.Absolute k d) : a.Keeps k :=
  ⟨h.loads, fun c hc hk => .inr (.inr (le_widthMax_of_wide (h.widthBits c hc hk) _))⟩

/-- The deltas of an absolute counter stay within what it was seen to move exactly if what its
    samples fall back, one after the other, is made up for: by the fall from the largest sample to
    the last, and by that from the first sample to the smallest. -/
theorem deltas_within_range_iff (s : State) (l : List Action) (k : CounterKey) (d : Descriptor)
    (hfresh : k ∉ s.counters) (habsolute : ∀ a ∈ l, a.Absolute k d) :
    let samples := samplesOf k (Run.history act s l)
    let values := rawValues (samples.map Prod.fst)
    deltaSum samples ≤ top values - bottom values ↔
      fall values ≤ (top values - values.getLastD 0) + (values.headD 0 - bottom values) := by
  intro samples values
  obtain ⟨hsamples, -⟩ := samplesOf_history (fun a ha => (habsolute a ha).keeps) s
  have hplain : ∀ c ∈ samples.map Prod.fst, c.Plain d := by
    intro c hc
    obtain ⟨x, hx, rfl⟩ := List.mem_map.1 hc
    obtain ⟨a, ha, hpublication⟩ := exists_of_mem_samplesOf hx
    have hkey := key_of_mem_samplesOf hx
    exact ⟨.inl ((habsolute a ha).kind _ hpublication hkey),
      (habsolute a ha).descriptor _ hpublication hkey⟩
  have hsum : deltaSum samples = rise values := by
    rw [counter_of_not_mem hfresh] at hsamples
    exact (congrArg deltaSum hsamples).trans (deltaSum_of_plain hplain)
  rw [hsum]
  cases values with
  | nil => exact Iff.rfl
  | cons a values =>
    rw [List.getLastD_cons]
    exact rise_le_iff a values

/-- A reading of one counter of publisher `p`. -/
def reading (kind : CounterKind) (widthBits : UInt32) (sequence rawValue : UInt64) :
    CounterPublication where
  publisher := ascii "p"
  publisherBoot := 1
  coordinatorEpoch := 1
  counter := ascii "c"
  mappedType := .RemoteRead
  kind := kind
  scope := .Global
  widthBits := widthBits
  generation := 1
  rawValue := rawValue
  sequence := sequence
  timestampNs := 1
  granularity := .Aggregate

/-- The key of these readings. -/
def readingKey : CounterKey := ⟨ascii "p", 1, ascii "c"⟩

/-- Publisher `p` registers and publishes readings. -/
def readingRun (cs : List CounterPublication) : List Action :=
  .registerPublisher { id := ascii "p", boot := 1 } (fun _ => 0) :: cs.map (.ingestCounter · 0)

theorem absolute_readingRun (values : List (UInt64 × UInt64)) :
    ∀ a ∈ readingRun (values.map fun v => reading .Absolute 64 v.1 v.2),
      a.Absolute readingKey (reading .Absolute 64 0 0).descriptor := by
  intro a ha
  rcases List.mem_cons.1 ha with rfl | ha
  · exact ⟨rfl, nofun, nofun, nofun⟩
  · obtain ⟨c, hc, rfl⟩ := List.mem_map.1 ha
    obtain ⟨v, -, rfl⟩ := List.mem_map.1 hc
    refine ⟨rfl, ?_, ?_, ?_⟩
    all_goals
      rintro _ ⟨⟩ _
      rfl

/-- Two samples in order. -/
theorem deltas_within_range_two :
    let values : List (UInt64 × UInt64) := [(1, 10), (2, 25)]
    let samples := samplesOf readingKey (Run.history act (State.initial {} 0)
      (readingRun (values.map fun v => reading .Absolute 64 v.1 v.2)))
    deltaSum samples ≤ top (rawValues (samples.map Prod.fst)) -
      bottom (rawValues (samples.map Prod.fst)) := by
  intro values
  refine (deltas_within_range_iff (State.initial {} 0) _ readingKey _ ?_
    (absolute_readingRun values)).2 ?_
  · decide +kernel
  · decide +kernel

/-- A counter that moves from 10 to 40. The sample taken at 20 arrives after the one taken at 30, so
    the way from 20 to 30 is counted twice. -/
theorem lateSample_counted_twice :
    let values : List (UInt64 × UInt64) := [(1, 10), (3, 30), (2, 20), (4, 40)]
    let samples := samplesOf readingKey (Run.history act (State.initial {} 0)
      (readingRun (values.map fun v => reading .Absolute 64 v.1 v.2)))
    (samples.map fun x => (x.1.sequence, x.1.rawValue, x.2.delta)) =
        [(1, 10, 0), (3, 30, 20), (2, 20, 0), (4, 40, 20)] ∧
      deltaSum samples = 40 ∧ top (rawValues (samples.map Prod.fst)) = 40 ∧
      bottom (rawValues (samples.map Prod.fst)) = 10 := by
  decide +kernel

end CoherenceObservatory
