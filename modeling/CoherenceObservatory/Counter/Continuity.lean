import CoherenceObservatory.Counter.Arithmetic

/-!
# Continuity

A sample counts from the one before it if the two are of the same counter. What gives a raw value
its meaning is the descriptor, and with it the sampling epoch and what was measured
(`CounterIdentity`); what the code compares is the descriptor alone.
-/

namespace CoherenceObservatory

open Std

/-- Everything that gives the raw value of a counter its meaning. -/
structure CounterIdentity where
  descriptor : Descriptor
  samplingEpoch : SamplingEpoch
  source : Option ResourceRef
  target : Option ResourceRef
  region : Option MemoryRegionId
  regionGeneration : Option MemoryRegionGeneration
  deriving DecidableEq

/-- The identity of the counter a sample is of. -/
def CounterPublication.identity (c : CounterPublication) : CounterIdentity :=
  ⟨c.descriptor, c.samplingEpoch, c.source, c.target, c.region, c.regionGeneration⟩

/-- The kinds whose samples are compared with the one before. -/
def CounterKind.compares (kind : CounterKind) : Prop :=
  kind = .Absolute ∨ kind = .Resettable ∨ kind = .Wrapping

/-- A value below the last one, by less than what passes for a wrap. -/
def FallsBack (last : UInt64) (c : CounterPublication) : Prop :=
  c.rawValue < last ∧
    ¬(c.kind = .Wrapping ∧ c.widthBits < 64 ∧ last - c.rawValue > widthMax c.widthBits / 2)

variable {k : CounterState} {cs : List CounterPublication} {last : UInt64} {c : CounterPublication}

/-- Successive samples: the meter ran with the first when it was given the second. -/
theorem exists_meter_of_adjacent (hroom : k.samples.toNat + cs.length < 2 ^ 64) {x y : Sample}
    (h : (x, y) ∈ (Run.history meter k cs).zip (Run.history meter k cs).tail) :
    ∃ k', k'.samples ≠ 0 ∧ Running x.1.descriptor x.1.rawValue k' ∧ y.2 = (meter k' y.1).1 := by
  induction cs generalizing k with
  | nil => exact nomatch h
  | cons c cs ih =>
    have hsamples : (meter k c).2.samples.toNat = k.samples.toNat + 1 := by
      change (k.samples + 1).toNat = _
      rw [UInt64.toNat_add, UInt64.toNat_one, Nat.mod_eq_of_lt]
      rw [List.length_cons] at hroom
      omega
    rw [List.length_cons] at hroom
    rw [Run.history, List.tail_cons] at h
    cases cs with
    | nil => simp [Run.history] at h
    | cons c' cs =>
      rw [Run.history, List.zip_cons_cons] at h
      rcases List.mem_cons.1 h with h | h
      · -- the two samples at the front
        obtain ⟨rfl, rfl⟩ := Prod.ext_iff.1 h
        refine ⟨(meter k c).2, fun hzero => ?_, running_meter k c, rfl⟩
        rw [hzero] at hsamples
        exact absurd hsamples (by simp)
      · exact ih (by rw [hsamples]; omega) h

/-- The way around is never empty. -/
theorem wrapDelta_ne_zero {raw width : UInt64} (hlast : last ≤ width) (hraw : raw < last) :
    (width - last) + raw + 1 ≠ 0 := by
  rw [UInt64.le_iff_toNat_le] at hlast
  rw [UInt64.lt_iff_toNat_lt] at hraw
  have hwidth := width.toNat_lt
  have hsub : (width - last).toNat = width.toNat - last.toNat :=
    UInt64.toNat_sub_of_le _ _ (UInt64.le_iff_toNat_le.2 hlast)
  intro hzero
  have hsum := congrArg UInt64.toNat hzero
  rw [UInt64.toNat_add, UInt64.toNat_add, hsub, UInt64.toNat_one, UInt64.toNat_zero] at hsum
  omega

/-- A sample that continues its counter reports a break without traffic exactly if it falls back. -/
theorem follow_falls_iff (hkind : c.kind.compares) (hlast : last ≤ widthMax c.widthBits) :
    (follow last c).1 = 0 ∧ (follow last c).2 ≠ .advance ↔ FallsBack last c := by
  have hdelta : c.kind ≠ .Delta := by rcases hkind with h | h | h <;> rw [h] <;> decide
  have hsampled : c.kind ≠ .Sampled := by rcases hkind with h | h | h <;> rw [h] <;> decide
  simp only [follow, counterDelta, hdelta, hsampled, if_false, not_true_eq_false, FallsBack]
  split
  next hle => simp [UInt64.not_lt.2 hle]
  next hlt =>
    have hraw : c.rawValue < last := UInt64.not_le.1 hlt
    split
    next hwrap => simp [hwrap, wrapDelta_ne_zero hlast hraw]
    next hwrap => exact iff_of_true ⟨rfl, by rintro ⟨⟩⟩ ⟨hraw, hwrap⟩

/-- A sample under another descriptor starts anew, and says so. -/
theorem meter_of_changed (hkind : c.kind.compares) (hchanged : identityChanged k c = true) :
    (meter k c).1.delta = 0 ∧ (meter k c).1.discontinuity = true := by
  have hdelta : c.kind ≠ .Delta := by rcases hkind with h | h | h <;> rw [h] <;> decide
  have hlast : (k.describe c).hasLast = false := by simp [CounterState.describe, hchanged]
  have hcount : counterDelta (k.describe c) c = (0, .advance) := by
    unfold counterDelta
    simp [hdelta, hlast]
  obtain ⟨hzero, hbreak, -⟩ := meter_eq hcount rfl
  exact ⟨hzero, by rw [hbreak, hchanged]; rfl⟩

/-- Of two successive samples, the later one counts nothing and reports a break exactly if it is
described differently or falls back. -/
theorem meter_breaks_iff {x : CounterPublication} (hsamples : k.samples ≠ 0)
    (hrunning : Running x.descriptor x.rawValue k) (hkind : c.kind.compares) (hfits : FitsWidth x) :
    (meter k c).1.delta = 0 ∧ (meter k c).1.discontinuity = true ↔
      c.descriptor ≠ x.descriptor ∨ FallsBack x.rawValue c := by
  by_cases hsame : c.descriptor = x.descriptor
  · obtain ⟨hdelta, hbreak, -⟩ := hrunning.meter hsame rfl
    have hlast : x.rawValue ≤ widthMax c.widthBits := by
      have hkinds : c.kind = x.kind := congrArg Descriptor.kind hsame
      have hwidths : c.widthBits = x.widthBits := congrArg Descriptor.widthBits hsame
      rw [hkinds] at hkind
      rw [hwidths]
      rcases hfits with h | h | h
      · rw [h] at hkind
        exact absurd hkind (by unfold CounterKind.compares; decide)
      · rw [h] at hkind
        exact absurd hkind (by unfold CounterKind.compares; decide)
      · exact h
    rw [hdelta, hbreak, ← follow_falls_iff hkind hlast, bne_iff_ne]
    simp [hsame]
  · have hchanged : identityChanged k c = true := by
      rw [identityChanged_iff, hrunning.descriptor]
      exact ⟨hsamples, Ne.symm hsame⟩
    exact iff_of_true (meter_of_changed hkind hchanged) (.inl hsame)

/-- In a run that keeps a counter, of two successive samples that differ in identity the later one
    yields no delta and reports a break exactly if the two are also described differently, or the
    later one falls back. -/
theorem breaks_reported_iff (s : State) (l : List Action) (k : CounterKey) (hfresh : k ∉ s.counters)
    (hkeeps : ∀ a ∈ l, a.Keeps k) (hlength : l.length < 2 ^ 64) (x y : Sample)
    (hadjacent : (x, y) ∈ (samplesOf k (Run.history act s l)).zip
      (samplesOf k (Run.history act s l)).tail)
    (hkind : y.1.kind.compares) :
    (y.1.identity ≠ x.1.identity → y.2.delta = 0 ∧ y.2.discontinuity = true) ↔
      (y.1.identity ≠ x.1.identity →
        y.1.descriptor ≠ x.1.descriptor ∨ FallsBack x.1.rawValue y.1) := by
  obtain ⟨hsamples, -⟩ := samplesOf_history hkeeps s
  have hfits : FitsWidth x.1 := by
    have hx := (List.of_mem_zip hadjacent).1
    obtain ⟨a, ha, hpublication⟩ := exists_of_mem_samplesOf hx
    exact (hkeeps a ha).fits _ hpublication (key_of_mem_samplesOf hx)
  have hcount : (samplesOf k (Run.history act s l)).length ≤ l.length :=
    (List.length_filterMap_le _ _).trans (Run.length_history s l).le
  generalize samplesOf k (Run.history act s l) = samples at *
  rw [counter_of_not_mem hfresh] at hsamples
  rw [hsamples] at hadjacent
  obtain ⟨k', hnonzero, hrunning, hy⟩ := exists_meter_of_adjacent
    (by rw [List.length_map]; exact (Nat.zero_add _).trans_lt (hcount.trans_lt hlength)) hadjacent
  rw [hy, meter_breaks_iff hnonzero hrunning hkind hfits]

theorem keeps_readingRun (h : ∀ c ∈ cs, FitsWidth c) (k : CounterKey) :
    ∀ a ∈ readingRun cs, a.Keeps k := by
  intro a ha
  rcases List.mem_cons.1 ha with rfl | ha
  · exact ⟨rfl, nofun⟩
  · obtain ⟨c, hc, rfl⟩ := List.mem_map.1 ha
    refine ⟨rfl, ?_⟩
    rintro _ ⟨⟩ _
    exact h c hc

/-- The second sample is of another generation. -/
theorem breaks_reported_generation :
    let samples := samplesOf readingKey (Run.history act (State.initial {} 0) (readingRun
      [reading .Absolute 64 1 100, { reading .Absolute 64 2 5000 with generation := 2 }]))
    ∃ x y, samples = [x, y] ∧ y.1.identity ≠ x.1.identity ∧ y.2.delta = 0 ∧
      y.2.discontinuity = true := by
  intro samples
  have hfits : ∀ c ∈ [reading .Absolute 64 1 100,
      { reading .Absolute 64 2 5000 with generation := 2 }], FitsWidth c := by
    intro c hc
    refine .inr (.inr (le_widthMax_of_wide ?_ _))
    rcases List.mem_pair.1 hc with rfl | rfl <;> rfl
  have hdescriptors : samples.map (fun x => x.1.descriptor) =
      [⟨1, .Absolute, .Global, 64, .RemoteRead⟩, ⟨2, .Absolute, .Global, 64, .RemoteRead⟩] := by
    decide +kernel
  obtain ⟨x, y, hsamples⟩ : ∃ x y, samples = [x, y] :=
    List.length_eq_two.1 (by simpa using congrArg List.length hdescriptors)
  rw [hsamples] at hdescriptors
  obtain ⟨hx, hy⟩ : x.1.descriptor = _ ∧ y.1.descriptor = _ := by simpa using hdescriptors
  have hdiffers : y.1.descriptor ≠ x.1.descriptor := by rw [hx, hy]; decide
  have hidentity : y.1.identity ≠ x.1.identity :=
    fun h => hdiffers (congrArg CounterIdentity.descriptor h)
  refine ⟨x, y, hsamples, hidentity, ?_⟩
  refine (breaks_reported_iff (State.initial {} 0) _ readingKey (by decide +kernel)
    (keeps_readingRun hfits readingKey) (by decide) x y ?_ (.inl ?_)).2
    (fun _ => .inl hdiffers) hidentity
  · change (x, y) ∈ samples.zip samples.tail
    simp [hsamples]
  · exact congrArg Descriptor.kind hy

/-- Two samples of one counter, measured at two devices. The values have nothing to do with each
    other, yet their difference is counted. -/
theorem otherDevice_counted :
    let measured := fun (device : String) (sequence rawValue : UInt64) =>
      { reading .Absolute 64 sequence rawValue with
        source := some ⟨.Accelerator, ascii device, 1⟩ }
    let samples := samplesOf readingKey (Run.history act (State.initial {} 0)
      (readingRun [measured "a" 1 100, measured "b" 2 5000]))
    (samples.map fun x => x.1.source) =
        [some ⟨.Accelerator, ascii "a", 1⟩, some ⟨.Accelerator, ascii "b", 1⟩] ∧
      (samples.map fun x => (x.1.kind, x.2.delta, x.2.discontinuity)) =
        [(.Absolute, 0, false), (.Absolute, 4900, false)] := by
  decide +kernel

end CoherenceObservatory
