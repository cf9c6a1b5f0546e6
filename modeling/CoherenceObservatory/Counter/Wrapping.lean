import CoherenceObservatory.Counter.Arithmetic

/-!
# Samples in order

What the accumulated value of a counter is when its samples arrive in order. A wrapping counter
shows its true value modulo a power of two; as long as it moves by at most half its range between
two samples, every delta is what it truly moved by.
-/

namespace CoherenceObservatory

open Std Variation List

/-! ## Delivery -/

/-- What a run publishes for a counter. -/
def publicationsOf (k : CounterKey) (l : List Action) : List CounterPublication :=
  l.filterMap fun a => a.publication.filter fun c => c.key = k

/-- What a publication needs to be taken from its publisher. -/
def Authorized (s : State) (c : CounterPublication) (p : PublisherState) : Prop :=
  validateCounterPublication c = .ok () ∧ c.granularity ≠ .Unknown ∧
    p.view.boot = c.publisherBoot ∧ c.coordinatorEpoch = s.coordinatorEpoch ∧
    p.view.current = true ∧ p.view.fenced = false

/-- A step that delivers at most one sample of a counter: in order, with authority, and to a counter
that can hold it. -/
def Delivers (k : CounterKey) (s : State) (a : Action) : Prop :=
  a.loads = false ∧ ∀ c ∈ a.publication, c.key = k → FitsWidth c ∧ HasRoom s c ∧
    ∃ p ∈ s.publishers[c.publisher]?, Authorized s c p ∧ InOrder p c.sequence

instance (s : State) (c : CounterPublication) (p : PublisherState) : Decidable (Authorized s c p) :=
  inferInstanceAs (Decidable (_ ∧ _))

instance (c : CounterPublication) : Decidable (FitsWidth c) := inferInstanceAs (Decidable (_ ∨ _))

instance (s : State) (c : CounterPublication) : Decidable (HasRoom s c) :=
  inferInstanceAs (Decidable (_ ∨ _))

instance (p : PublisherState) (sequence : UInt64) : Decidable (InOrder p sequence) :=
  inferInstanceAs (Decidable (_ ∨ _))

instance (k : CounterKey) (s : State) (a : Action) : Decidable (Delivers k s a) :=
  inferInstanceAs (Decidable (_ ∧ _))

variable {s : State} {a : Action} {v w total : Nat} {last : UInt64} {c : CounterPublication}
  {k : CounterState} {d : Descriptor} {cs : List CounterPublication}

theorem Delivers.keeps {k : CounterKey} (h : Delivers k s a) : a.Keeps k :=
  ⟨h.1, fun c hc hkey => (h.2 c hc hkey).1⟩

/-- A delivered sample is accepted. -/
theorem Delivers.sampledOf_eq {k : CounterKey} (h : Delivers k s a) :
    (sampledOf k (a, (act s a).1)).map Prod.fst = a.publication.filter fun c => c.key = k := by
  cases ha : a.publication with
  | none =>
    rw [sampledOf, sampled_of_publication_eq_none ha]
    rfl
  | some c =>
    by_cases hkey : c.key = k
    · obtain ⟨hfits, hroom, p, hp, ⟨hvalid, hgranularity, hauthority⟩, hinOrder⟩ := h.2 c ha hkey
      obtain ⟨hboot, hepoch, hcurrent, hfenced⟩ := hauthority
      have hadmitted : AdmittedCounter s c p :=
        ⟨hvalid, hgranularity, hp, hboot, hepoch, hcurrent, hfenced⟩
      obtain ⟨now, rfl⟩ := Action.eq_ingestCounter ha
      have haccepted := (accountSequence_accepted_iff p c.sequence (counterHash c)).2 hinOrder
      obtain ⟨-, -, -, hanswer⟩ := counterAccounted_answer s p c now
      obtain ⟨outcome, hresult, houtcome, -⟩ :=
        hanswer (by rw [haccepted]; rfl) hroom hfits
      rw [← ingestCounter_admitted hadmitted] at hresult
      simp [sampledOf, act, hresult, sampled, houtcome, hkey, Option.filter]
    · have hnone : sampledOf k (a, (act s a).1) = none := by
        rw [sampledOf, Option.filter_eq_none_iff]
        intro x hx
        rw [publication_of_sampled hx] at ha
        rw [Option.some.inj ha]
        simpa using hkey
      rw [hnone]
      simp [Option.filter, hkey]

/-- What is delivered in order and with authority is accepted. -/
theorem publications_sampled {k : CounterKey} {l : List Action} (h : Run.Along act (Delivers k) s l) :
    (samplesOf k (Run.history act s l)).map Prod.fst = publicationsOf k l := by
  rw [samplesOf, map_filterMap]
  induction l generalizing s with
  | nil => rfl
  | cons a l ih =>
    obtain ⟨ha, hl⟩ := h
    rw [Run.history, publicationsOf, filterMap_cons, filterMap_cons, ha.sampledOf_eq]
    split
    · exact ih hl
    · exact congrArg _ (ih hl)

/-! ## One sample -/

theorem toNat_widthMax {bits : UInt32} (h : bits.toNat < 64) :
    (widthMax bits).toNat = 2 ^ bits.toNat - 1 := by
  have hpow : 2 ^ bits.toNat < 2 ^ 64 := Nat.pow_lt_pow_right (by decide) h
  have hpos : 0 < 2 ^ bits.toNat := Nat.two_pow_pos _
  have hshift : ((1 : UInt64) <<< bits.toUInt64).toNat = 2 ^ bits.toNat := by
    rw [UInt64.toNat_shiftLeft, UInt32.toNat_toUInt64, Nat.mod_eq_of_lt h, UInt64.toNat_one,
      Nat.one_shiftLeft, Nat.mod_eq_of_lt hpow]
  have hge : ¬bits ≥ 64 := by
    rw [ge_iff_le, UInt32.le_iff_toNat_le]
    exact Nat.not_le.2 h
  rw [widthMax, if_neg hge, UInt64.toNat_sub_of_le, hshift, UInt64.toNat_one]
  rw [UInt64.le_iff_toNat_le, hshift, UInt64.toNat_one]
  exact hpos

/-- Half a range further, a residue has moved on or gone around once. -/
theorem mod_add_cases {m d : Nat} (h : d < m) :
    (v + d) % m = v % m + d ∨ (v + d) % m + m = v % m + d := by
  have hlt := Nat.mod_lt v (Nat.zero_lt_of_lt h)
  rw [Nat.add_mod, Nat.mod_eq_of_lt h]
  rcases Nat.lt_or_ge (v % m + d) m with hfits | hover
  · exact .inl (Nat.mod_eq_of_lt hfits)
  · refine .inr ?_
    rw [Nat.mod_eq_sub_mod hover, Nat.mod_eq_of_lt (by omega)]
    omega

/-- A wrapping counter that moved by at most half its range counts what it moved by. -/
theorem toNat_follow_of_wrapping {d : Nat} (hw : 1 ≤ w) (hw' : w ≤ 63) (hd : d ≤ 2 ^ (w - 1))
    (hlast : last.toNat = v % 2 ^ w) (hkind : c.kind = .Wrapping) (hwidth : c.widthBits.toNat = w)
    (hraw : c.rawValue.toNat = (v + d) % 2 ^ w) : (follow last c).1.toNat = d := by
  have hhalf : 2 ^ w = 2 * 2 ^ (w - 1) := by
    rw [← Nat.pow_succ', Nat.sub_one, Nat.succ_pred_eq_of_pos hw]
  have hpos : 0 < 2 ^ (w - 1) := Nat.two_pow_pos _
  have hmod := mod_add_cases (v := v) (show d < 2 ^ w by omega)
  have hlt := Nat.mod_lt v (show 0 < 2 ^ w by omega)
  rw [← hlast, ← hraw] at hmod
  rw [← hlast] at hlt
  have hmax : (widthMax c.widthBits).toNat = 2 ^ w - 1 := by
    rw [toNat_widthMax (by omega), hwidth]
  have hdelta : c.kind ≠ .Delta := by rw [hkind]; decide
  have hsampled : c.kind ≠ .Sampled := by rw [hkind]; decide
  simp only [follow, counterDelta, hdelta, hsampled, if_false, not_true_eq_false]
  split
  next hle =>
    rw [ge_iff_le, UInt64.le_iff_toNat_le] at hle
    rw [UInt64.toNat_sub_of_le _ _ (UInt64.le_iff_toNat_le.2 hle)]
    omega
  next hlt' =>
    rw [ge_iff_le, UInt64.le_iff_toNat_le, Nat.not_le] at hlt'
    -- the value went around once, and by more than half the range backwards
    have haround : c.rawValue.toNat + 2 ^ w = last.toNat + d := by omega
    have hback : (last - c.rawValue).toNat = last.toNat - c.rawValue.toNat :=
      UInt64.toNat_sub_of_le _ _ (UInt64.le_iff_toNat_le.2 hlt'.le)
    have hwrap : c.kind = .Wrapping ∧ c.widthBits < 64 ∧
        last - c.rawValue > widthMax c.widthBits / 2 := by
      refine ⟨hkind, ?_, ?_⟩
      · rw [UInt32.lt_iff_toNat_lt, hwidth]
        exact Nat.lt_succ_of_le hw'
      · rw [gt_iff_lt, UInt64.lt_iff_toNat_lt, UInt64.toNat_div, hback, hmax]
        change (2 ^ w - 1) / 2 < _
        omega
    have hmaxlt := (widthMax c.widthBits).toNat_lt
    rw [if_pos hwrap, UInt64.toNat_add, UInt64.toNat_add, UInt64.toNat_sub_of_le, hmax,
      UInt64.toNat_one]
    · rw [hmax] at hmaxlt
      omega
    · rw [UInt64.le_iff_toNat_le, hmax]
      omega

/-! ## Accumulation -/

/-- The accumulated value of a counter, and whether it stopped at the largest one. -/
structure Totals (total : Nat) (k : CounterState) : Prop where
  accumulated : k.accumulated.toNat = min total (2 ^ 64 - 1)
  saturated : k.saturated = true ↔ 2 ^ 64 - 1 < total

/-- A sample that continues its counter adds its delta. -/
theorem Totals.meter (h : Totals total k) (hrunning : Running d last k) (hc : c.descriptor = d) :
    Totals (total + (follow last c).1.toNat) (meter k c).2 := by
  obtain ⟨hsum, hover⟩ := toNat_checkedAdd k.accumulated (follow last c).1
  obtain ⟨-, -, haccumulated, hsaturated⟩ := hrunning.meter hc rfl
  have hmin := h.accumulated
  constructor
  · rw [haccumulated, hsum]
    omega
  · rw [hsaturated, Bool.or_eq_true, h.saturated, hover]
    omega

theorem totals_initial (hkind : c.kind ≠ .Delta) : Totals 0 (meter {} c).2 := by
  obtain ⟨-, haccumulated, hsaturated⟩ := meter_initial hkind
  refine ⟨?_, iff_of_false ?_ (Nat.not_lt_zero _)⟩
  · rw [haccumulated]
    rfl
  · rw [hsaturated]
    exact nofun

theorem totals_of_plain (h : Totals total k) (hrunning : Running d last k)
    (hcs : ∀ c ∈ cs, c.Plain d) :
    Totals (total + rise (last.toNat :: rawValues cs)) (Run.final meter k cs) := by
  induction cs generalizing k last total with
  | nil => exact h
  | cons c cs ih =>
    obtain ⟨hc, hcs⟩ := forall_mem_cons.1 hcs
    have hnext := ih (h.meter hrunning hc.descriptor) (hc.descriptor ▸ running_meter k c) hcs
    rw [toNat_follow_of_plain _ hc.kind, Nat.add_assoc] at hnext
    exact hnext

theorem totals_of_plain_run (hcs : ∀ c ∈ cs, c.Plain d) :
    Totals (rise (rawValues cs)) (Run.final meter {} cs) := by
  cases cs with
  | nil => exact ⟨rfl, iff_of_false nofun (Nat.not_lt_zero _)⟩
  | cons c cs =>
    obtain ⟨hc, hcs⟩ := forall_mem_cons.1 hcs
    have hnext := totals_of_plain (totals_initial hc.kind_ne_delta)
      (hc.descriptor ▸ running_meter {} c) hcs
    rwa [Nat.zero_add] at hnext

/-! ## Wrapping counters -/

/-- The values a counter runs through after `v`. -/
def walk (v : Nat) : List Nat → List Nat
  | [] => []
  | d :: ds => (v + d) :: walk (v + d) ds

/-- What a wrapping counter of `w` bits shows of its values. -/
def shown (w : Nat) (values : List Nat) : List Nat := values.map (· % 2 ^ w)

/-- A sample of a wrapping counter of `w` bits. -/
structure CounterPublication.Wraps (w : Nat) (d : Descriptor) (c : CounterPublication) : Prop where
  kind : c.kind = .Wrapping
  widthBits : c.widthBits.toNat = w
  descriptor : c.descriptor = d

section

variable {w : Nat} (hw : 1 ≤ w) (hw' : w ≤ 63) {d : Descriptor}
include hw hw'

variable {increments : List Nat}

/-- From one value on, a wrapping counter is followed step by step. -/
theorem history_wrapping (hincrements : ∀ i ∈ increments, i ≤ 2 ^ (w - 1))
    (hlast : last.toNat = v % 2 ^ w) (hrunning : Running d last k) (htotals : Totals total k)
    (hcs : ∀ c ∈ cs, c.Wraps w d) (hraw : rawValues cs = shown w (walk v increments)) :
    ((Run.history meter k cs).map fun x => x.2.delta.toNat) = increments ∧
      Totals (total + increments.sum) (Run.final meter k cs) := by
  induction increments generalizing v last k total cs with
  | nil =>
    obtain rfl : cs = [] := map_eq_nil_iff.1 hraw
    exact ⟨rfl, htotals⟩
  | cons i increments ih =>
    obtain ⟨hi, hincrements⟩ := forall_mem_cons.1 hincrements
    obtain ⟨c, cs, rfl⟩ : ∃ c cs', cs = c :: cs' := by
      cases cs with
      | nil => exact nomatch hraw
      | cons c cs => exact ⟨c, cs, rfl⟩
    obtain ⟨hc, hcs⟩ := forall_mem_cons.1 hcs
    obtain ⟨hvalue, hraw⟩ := List.cons.inj hraw
    have hdelta := toNat_follow_of_wrapping hw hw' hi hlast hc.kind hc.widthBits hvalue
    have htotals := htotals.meter hrunning hc.descriptor
    obtain ⟨hcounted, -⟩ := hrunning.meter hc.descriptor rfl
    rw [hdelta] at htotals
    obtain ⟨hdeltas, hfinal⟩ := ih hincrements hvalue (hc.descriptor ▸ running_meter k c) htotals
      hcs hraw
    refine ⟨?_, ?_⟩
    · rw [Run.history, map_cons, hcounted, hdelta, hdeltas]
    · rw [sum_cons, ← Nat.add_assoc]
      exact hfinal

/-- The first sample of a wrapping counter sets out, the others are followed. -/
theorem history_wrapping_initial (hincrements : ∀ i ∈ increments, i ≤ 2 ^ (w - 1))
    (hcs : ∀ c ∈ cs, c.Wraps w d) (hraw : rawValues cs = shown w (v :: walk v increments)) :
    ((Run.history meter {} cs).map fun x => x.2.delta.toNat) = 0 :: increments ∧
      Totals increments.sum (Run.final meter {} cs) := by
  cases cs with
  | nil => exact nomatch hraw
  | cons c cs =>
    obtain ⟨hc, hcs⟩ := forall_mem_cons.1 hcs
    obtain ⟨hvalue, hraw⟩ := List.cons.inj hraw
    have hkind : c.kind ≠ .Delta := by rw [hc.kind]; decide
    obtain ⟨hdeltas, hfinal⟩ := history_wrapping hw hw' hincrements hvalue
      (hc.descriptor ▸ running_meter {} c) (totals_initial hkind) hcs hraw
    rw [Nat.zero_add] at hfinal
    refine ⟨?_, hfinal⟩
    rw [Run.history, map_cons, (meter_initial hkind).1, hdeltas]
    rfl

end

/-- The numbers a delta of a wrapping counter is computed by, each as it is before it is cut to
64 bits. -/
def deltaTerms (w : Nat) (last raw : Int) : List Int :=
  [2 ^ w, 2 ^ w - 1] ++
    if raw ≥ last then [raw - last]
    else
      [last - raw, (2 ^ w - 1) / 2, 2 ^ w - 1 - last, 2 ^ w - 1 - last + raw,
        2 ^ w - 1 - last + raw + 1]

theorem deltaTerms_fit (hw' : w ≤ 63) {last raw : Nat} (hlast : last < 2 ^ w) (hraw : raw < 2 ^ w) :
    ∀ x ∈ deltaTerms w last raw, 0 ≤ x ∧ x < 2 ^ 64 := by
  have hpow : 2 ^ w ≤ 2 ^ 63 := Nat.pow_le_pow_right (by decide) hw'
  have hcast : (2 : Int) ^ w = ((2 ^ w : Nat) : Int) := by push_cast; rfl
  unfold deltaTerms
  rw [hcast]
  generalize 2 ^ w = m at *
  intro x hx
  split at hx
  · simp only [cons_append, nil_append, mem_cons, not_mem_nil, or_false] at hx
    omega
  · simp only [cons_append, nil_append, mem_cons, not_mem_nil, or_false] at hx
    omega

/-- Delivered in order, a wrapping counter is followed exactly, and the other two kinds that compare
    samples count every increase. -/
theorem inOrder_exact (s : State) (l : List Action) (k : CounterKey) (d : Descriptor)
    (hfresh : k ∉ s.counters) (hdelivers : Run.Along act (Delivers k) s l)
    (hfixed : ∀ c ∈ publicationsOf k l, c.descriptor = d) :
    let samples := samplesOf k (Run.history act s l)
    let values := rawValues (publicationsOf k l)
    let counter := (Run.final act s l).counter k
    samples.map Prod.fst = publicationsOf k l ∧
      (∀ (w v : Nat) (increments : List Nat), 1 ≤ w → w ≤ 63 → d.kind = .Wrapping →
        d.widthBits.toNat = w → (∀ i ∈ increments, i ≤ 2 ^ (w - 1)) →
        values = shown w (v :: walk v increments) →
        (samples.map fun x => x.2.delta.toNat) = 0 :: increments ∧
          (∀ x ∈ values.zip values.tail, ∀ y ∈ deltaTerms w x.1 x.2, 0 ≤ y ∧ y < 2 ^ 64) ∧
          Totals increments.sum counter) ∧
      (d.kind = .Absolute ∨ d.kind = .Resettable → Totals (rise values) counter) := by
  intro samples values counter
  have hpublications : samples.map Prod.fst = publicationsOf k l := publications_sampled hdelivers
  obtain ⟨hsamples, hfinal⟩ :=
    samplesOf_history (Run.forall_mem_of_along (fun _ _ h => h.keeps) hdelivers) s
  -- what the observatory stores is a run of the meter
  change samples = Run.history meter _ (samples.map Prod.fst) at hsamples
  change counter = Run.final meter _ (samples.map Prod.fst) at hfinal
  rw [counter_of_not_mem hfresh, hpublications] at hsamples hfinal
  refine ⟨hpublications, ?_, ?_⟩
  · intro w v increments hw hw' hkind hwidth hincrements hvalues
    -- the descriptor is fixed, so every sample wraps alike
    have hwraps : ∀ c ∈ publicationsOf k l, c.Wraps w d := by
      intro c hc
      have hd := hfixed c hc
      exact ⟨(congrArg Descriptor.kind hd).trans hkind,
        (congrArg (·.widthBits.toNat) hd).trans hwidth, hd⟩
    obtain ⟨hdeltas, htotals⟩ := history_wrapping_initial hw hw' hincrements hwraps hvalues
    refine ⟨?_, fun x hx => ?_, ?_⟩
    · rw [hsamples]
      exact hdeltas
    · have hbound : ∀ y ∈ values, y < 2 ^ w := by
        intro y hy
        rw [hvalues] at hy
        obtain ⟨z, -, rfl⟩ := List.mem_map.1 hy
        exact Nat.mod_lt z (Nat.two_pow_pos w)
      obtain ⟨hlast, hraw⟩ := List.of_mem_zip hx
      exact deltaTerms_fit hw' (hbound _ hlast) (hbound _ (List.mem_of_mem_tail hraw))
    · rw [hfinal]
      exact htotals
  · intro hkind
    have hplain : ∀ c ∈ publicationsOf k l, c.Plain d := by
      intro c hc
      have hd := hfixed c hc
      have hc' : c.kind = d.kind := congrArg Descriptor.kind hd
      exact ⟨by rwa [hc'], hd⟩
    rw [hfinal]
    exact totals_of_plain_run hplain

/-- A counter of 8 bits goes from 200 to 44 around the end of its range. -/
theorem inOrder_exact_around :
    let l := readingRun [reading .Wrapping 8 1 200, reading .Wrapping 8 2 44]
    let samples := samplesOf readingKey (Run.history act (State.initial {} 0) l)
    (samples.map fun x => x.2.delta.toNat) = [0, 100] ∧
      Totals 100 ((Run.final act (State.initial {} 0) l).counter readingKey) := by
  intro l samples
  have hdelivers : Run.Along act (Delivers readingKey) (State.initial {} 0) l := by decide +kernel
  have hfixed : ∀ c ∈ publicationsOf readingKey l,
      c.descriptor = (reading .Wrapping 8 0 0).descriptor := by decide +kernel
  obtain ⟨-, hwrapping, -⟩ := inOrder_exact (State.initial {} 0) l readingKey _ (by decide +kernel)
    hdelivers hfixed
  obtain ⟨hdeltas, -, htotals⟩ := hwrapping 8 200 [100] (by decide) (by decide) rfl rfl (by decide)
    (by decide +kernel)
  exact ⟨hdeltas, htotals⟩

end CoherenceObservatory
