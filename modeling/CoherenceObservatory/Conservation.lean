import CoherenceObservatory.Evidence
import CoherenceObservatory.Lib.Table

/-!
# Conservation of counted evidence

A counted observation enters one bucket in each of the ten dimensions, or is dropped there
because the store is full. So what the dimensions hold and what was dropped together make
up ten times what was counted, as long as no tally outgrows its 64 bits.
-/

namespace CoherenceObservatory

open Std AggregateDimension List

/-! ## The tally of a dimension -/

/-- How many observations the buckets of a dimension hold. -/
def AggregateStore.tally (store : AggregateStore) (d : AggregateDimension) : Nat :=
  tableTotal (fun key bucket => if key.dimension = d then bucket.observations.toNat else 0)
    store.buckets

theorem toNat_maxU64 : (UInt64.ofNat (2 ^ 64 - 1)).toNat = 2 ^ 64 - 1 := by decide

/-- The sum is exact if it fits. -/
theorem checkedAdd_of_lt {a b : UInt64} (h : a.toNat + b.toNat < 2 ^ 64) :
    checkedAdd a b = (a + b, false) := by
  have hb := b.toNat_lt
  have hle : b ≤ UInt64.ofNat (2 ^ 64 - 1) := by
    rw [UInt64.le_iff_toNat_le, toNat_maxU64]
    omega
  rw [checkedAdd, if_neg]
  rw [gt_iff_lt, UInt64.lt_iff_toNat_lt, UInt64.toNat_sub_of_le _ _ hle, toNat_maxU64]
  omega

/-- The sum saturates, and the flag says so. -/
theorem toNat_checkedAdd (a b : UInt64) :
    (checkedAdd a b).1.toNat = min (a.toNat + b.toNat) (2 ^ 64 - 1) ∧
      ((checkedAdd a b).2 = true ↔ 2 ^ 64 - 1 < a.toNat + b.toNat) := by
  rcases Nat.lt_or_ge (a.toNat + b.toNat) (2 ^ 64) with hlt | hge
  · rw [checkedAdd_of_lt hlt, UInt64.toNat_add, Nat.mod_eq_of_lt hlt]
    refine ⟨?_, iff_of_false nofun ?_⟩ <;> omega
  · have hb := b.toNat_lt
    have hover : a > UInt64.ofNat (2 ^ 64 - 1) - b := by
      have hle : b ≤ UInt64.ofNat (2 ^ 64 - 1) := by
        rw [UInt64.le_iff_toNat_le, toNat_maxU64]
        omega
      rw [gt_iff_lt, UInt64.lt_iff_toNat_lt, UInt64.toNat_sub_of_le _ _ hle, toNat_maxU64]
      omega
    rw [checkedAdd, if_pos hover]
    refine ⟨?_, iff_of_true rfl ?_⟩
    · rw [toNat_maxU64]
      omega
    · omega

variable {field : AggregateValue → UInt64} {d : AggregateDimension} {key : AggregateKey}
  {bucket : AggregateValue} {store : AggregateStore} {dimensions : List AggregateDimension}
  {s : State} {a : Action}

theorem sumIn_cons_of_ne (bucket : AggregateValue) (h : key.dimension ≠ d) (total : UInt64)
    (buckets : List (AggregateKey × AggregateValue)) :
    sumIn field d total ((key, bucket) :: buckets) = sumIn field d total buckets := by
  rw [sumIn, if_pos h]

theorem sumIn_cons_of_eq (h : key.dimension = d) {total : UInt64}
    (hlt : total.toNat + (field bucket).toNat < 2 ^ 64)
    (buckets : List (AggregateKey × AggregateValue)) :
    sumIn field d total ((key, bucket) :: buckets) =
      sumIn field d (total + field bucket) buckets := by
  rw [sumIn, if_neg (not_not.2 h), checkedAdd_of_lt hlt]
  exact if_neg Bool.false_ne_true

theorem toNat_sumIn (field : AggregateValue → UInt64) (d : AggregateDimension)
    (buckets : List (AggregateKey × AggregateValue)) (total : UInt64)
    (h : total.toNat + (buckets.map fun e =>
      if e.1.dimension = d then (field e.2).toNat else 0).sum < 2 ^ 64) :
    (sumIn field d total buckets).toNat = total.toNat + (buckets.map fun e =>
      if e.1.dimension = d then (field e.2).toNat else 0).sum := by
  induction buckets generalizing total with
  | nil => rfl
  | cons e buckets ih =>
    obtain ⟨key, bucket⟩ := e
    rw [map_cons, sum_cons] at h ⊢
    by_cases hd : key.dimension = d
    · rw [if_pos hd] at h ⊢
      dsimp only at h ⊢
      have hadd : (total + field bucket).toNat = total.toNat + (field bucket).toNat := by
        rw [UInt64.toNat_add, Nat.mod_eq_of_lt (by omega)]
      rw [sumIn_cons_of_eq hd (by omega), ih _ (by rw [hadd]; omega), hadd]
      omega
    · rw [if_neg hd, Nat.zero_add] at h ⊢
      rw [sumIn_cons_of_ne bucket hd]
      exact ih total h

/-- `observations_in` is exact for a tally of 64 bits. -/
theorem toNat_observationsIn (h : store.tally d < 2 ^ 64) :
    (store.observationsIn d).toNat = store.tally d := by
  have hsum := toNat_sumIn AggregateValue.observations d store.buckets.toList 0
    (by rw [UInt64.toNat_zero, Nat.zero_add]; exact h)
  rw [UInt64.toNat_zero, Nat.zero_add] at hsum
  exact hsum

/-! ## One observation -/

theorem observations_add (bucket : AggregateValue) (c : ObservationContribution)
    (h : bucket.observations.toNat + 1 < 2 ^ 64) :
    (bucket.add c).1.observations.toNat = bucket.observations.toNat + 1 := by
  have hone : (1 : UInt64).toNat = 1 := rfl
  have hadd : (bucket.add c).1.observations = (checkedAdd bucket.observations 1).1 := rfl
  rw [hadd, checkedAdd_of_lt (by rw [hone]; exact h), UInt64.toNat_add, hone]
  exact Nat.mod_eq_of_lt h

/-- A bucket holds no more than the tally of its dimension. -/
theorem observations_le_tally (store : AggregateStore) (key : AggregateKey) :
    (store.buckets[key]?.getD {}).observations.toNat ≤ store.tally key.dimension := by
  cases h : store.buckets[key]? with
  | none => exact Nat.zero_le _
  | some bucket =>
    rw [AggregateStore.tally, tableTotal_of_getElem? _ h, if_pos rfl, Option.getD_some]
    exact Nat.le_add_right _ _

theorem accumulate_of_room
    (h : ¬(key ∉ store.buckets ∧ store.buckets.size ≥ Limits.maxAggregateKeys))
    (c : ObservationContribution) :
    (store.accumulate key c).1 = true ∧ (store.accumulate key c).2.buckets =
      store.buckets.insert key ((store.buckets[key]?.getD {}).add c).1 := by
  rw [AggregateStore.accumulate, if_neg h]
  exact ⟨rfl, rfl⟩

/-- A bucket does not show in the tally of another dimension. -/
theorem tally_insert_of_ne (hd : key.dimension ≠ d) (bucket : AggregateValue) :
    tableTotal (fun key bucket => if key.dimension = d then bucket.observations.toNat else 0)
      (store.buckets.insert key bucket) = store.tally d := by
  have htotal := tableTotal_insert (m := store.buckets) (k := key) (r := bucket)
    fun key bucket => if key.dimension = d then bucket.observations.toNat else 0
  simp only [hd, if_false] at htotal
  cases hold : store.buckets[key]? <;> rw [hold] at htotal <;> exact htotal

/-- One more observation in a bucket is one more in the tally of its dimension. -/
theorem tally_insert_of_eq (hd : key.dimension = d)
    (h : bucket.observations.toNat = (store.buckets[key]?.getD {}).observations.toNat + 1) :
    tableTotal (fun key bucket => if key.dimension = d then bucket.observations.toNat else 0)
      (store.buckets.insert key bucket) = store.tally d + 1 := by
  have htotal := tableTotal_insert (m := store.buckets) (k := key) (r := bucket)
    fun key bucket => if key.dimension = d then bucket.observations.toNat else 0
  simp only [hd, if_true] at htotal
  rw [AggregateStore.tally]
  cases hold : store.buckets[key]? with
  | none =>
    rw [hold] at h htotal
    rw [Option.map_none, Option.getD_none, h] at htotal
    exact htotal
  | some old =>
    rw [hold] at h htotal
    rw [Option.map_some, Option.getD_some, h, Option.getD_some] at htotal
    omega

/-- What happens to the tallies when one bucket is updated. -/
theorem accumulate_spec (store : AggregateStore) (key : AggregateKey)
    (c : ObservationContribution) :
    (key ∈ (store.accumulate key c).2.buckets ↔ (store.accumulate key c).1 = true) ∧
      (∀ key', key' ≠ key →
        (key' ∈ (store.accumulate key c).2.buckets ↔ key' ∈ store.buckets)) ∧
      (∀ d, key.dimension ≠ d → (store.accumulate key c).2.tally d = store.tally d) ∧
      (store.tally key.dimension + (if (store.accumulate key c).1 = true then 1 else 0) < 2 ^ 64 →
        (store.accumulate key c).2.tally key.dimension =
          store.tally key.dimension + if (store.accumulate key c).1 = true then 1 else 0) := by
  by_cases hroom : key ∉ store.buckets ∧ store.buckets.size ≥ Limits.maxAggregateKeys
  · rw [AggregateStore.accumulate, if_pos hroom]
    exact ⟨⟨fun h => absurd h hroom.1, fun h => absurd h Bool.false_ne_true⟩, fun _ _ => .rfl,
      fun _ _ => rfl, fun _ => rfl⟩
  · obtain ⟨happlied, hbuckets⟩ := accumulate_of_room hroom c
    rw [happlied, hbuckets, if_pos rfl]
    refine ⟨by simp, fun key' hne => ?_, fun d hd => ?_, fun hlt => ?_⟩
    · rw [ExtTreeMap.mem_insert, LawfulEqOrd.compare_eq_iff_eq]
      simp [Ne.symm hne]
    · rw [AggregateStore.tally, hbuckets]
      exact tally_insert_of_ne hd _
    · rw [AggregateStore.tally, hbuckets]
      refine tally_insert_of_eq rfl (observations_add _ c ?_)
      have hle := observations_le_tally store key
      omega

/-- The bucket an observation belongs to. -/
def bucketKey (s : State) (o : Observation) (d : AggregateDimension) : AggregateKey :=
  ⟨d, aggregateValueText o s.options.timeBucketNs d⟩

/-- One dimension of `accumulateAll`. -/
def accumulateIn (o : Observation) (s : State) (d : AggregateDimension) : State :=
  { s with
    aggregates := (s.aggregates.accumulate (bucketKey s o d) (contributionOf o)).2
    loss := if (s.aggregates.accumulate (bucketKey s o d) (contributionOf o)).1 then s.loss
      else { s.loss with droppedAggregateUpdates := s.loss.droppedAggregateUpdates + 1 } }

theorem accumulateAll_eq (s : State) (o : Observation) :
    accumulateAll s o = all.foldl (accumulateIn o) s := rfl

/-- Dimensions that are not gone through are left alone. -/
theorem foldl_accumulateIn_of_not_mem (o : Observation) (h : d ∉ dimensions) (s : State) :
    (bucketKey s o d ∈ (dimensions.foldl (accumulateIn o) s).aggregates.buckets ↔
        bucketKey s o d ∈ s.aggregates.buckets) ∧
      (dimensions.foldl (accumulateIn o) s).aggregates.tally d = s.aggregates.tally d := by
  induction dimensions generalizing s with
  | nil => exact ⟨.rfl, rfl⟩
  | cons d' dimensions ih =>
    obtain ⟨hne, h⟩ := not_or.1 (mt mem_cons.2 h)
    obtain ⟨hmem, htally⟩ := ih h (accumulateIn o s d')
    obtain ⟨_, hother, hquiet, _⟩ := accumulate_spec s.aggregates (bucketKey s o d')
      (contributionOf o)
    exact ⟨hmem.trans (hother _ fun heq => hne (congrArg AggregateKey.dimension heq)),
      htally.trans (hquiet d (Ne.symm hne))⟩

/-- A dimension that is gone through once ends with a bucket for the observation and one
more in its tally, or without a bucket. -/
theorem foldl_accumulateIn_of_mem (o : Observation) (hnodup : dimensions.Nodup) (h : d ∈ dimensions)
    (s : State)
    (hlt : s.aggregates.tally d +
      (if bucketKey s o d ∈ (dimensions.foldl (accumulateIn o) s).aggregates.buckets
        then 1 else 0) < 2 ^ 64) :
    (dimensions.foldl (accumulateIn o) s).aggregates.tally d = s.aggregates.tally d +
      if bucketKey s o d ∈ (dimensions.foldl (accumulateIn o) s).aggregates.buckets
      then 1 else 0 := by
  induction dimensions generalizing s with
  | nil => exact nomatch h
  | cons d' dimensions ih =>
    obtain ⟨hd', hnodup⟩ := nodup_cons.1 hnodup
    obtain ⟨hself, _, hquiet, hstep⟩ := accumulate_spec s.aggregates (bucketKey s o d')
      (contributionOf o)
    rcases mem_cons.1 h with rfl | h
    · -- the rest leaves this dimension alone
      obtain ⟨hmem, htally⟩ := foldl_accumulateIn_of_not_mem o hd' (accumulateIn o s d)
      have hiff : (if bucketKey s o d ∈
          (dimensions.foldl (accumulateIn o) (accumulateIn o s d)).aggregates.buckets
          then 1 else 0) = if (s.aggregates.accumulate (bucketKey s o d) (contributionOf o)).1 = true
          then 1 else 0 := if_congr (hmem.trans hself) rfl rfl
      rw [foldl_cons, hiff] at hlt ⊢
      exact htally.trans (hstep hlt)
    · have hne : d' ≠ d := fun heq => hd' (heq ▸ h)
      have hsame : (accumulateIn o s d').aggregates.tally d = s.aggregates.tally d := hquiet d hne
      have hrest := ih hnodup h (accumulateIn o s d') (by rw [hsame]; exact hlt)
      rw [hsame] at hrest
      exact hrest

/-- The dimensions in which the store has no bucket for an observation. -/
def missingIn (s : State) (o : Observation) (dimensions : List AggregateDimension) :
    List AggregateDimension :=
  dimensions.filter fun d => bucketKey s o d ∉ s.aggregates.buckets

theorem foldl_accumulateIn_options (o : Observation) (dimensions : List AggregateDimension)
    (s : State) : (dimensions.foldl (accumulateIn o) s).options = s.options := by
  induction dimensions generalizing s with
  | nil => rfl
  | cons d dimensions ih => exact ih _

/-- What is dropped are the dimensions that end without a bucket. -/
theorem foldl_accumulateIn_dropped (o : Observation) (hnodup : dimensions.Nodup) (s : State) :
    (dimensions.foldl (accumulateIn o) s).loss.droppedAggregateUpdates =
      s.loss.droppedAggregateUpdates +
        UInt64.ofNat (missingIn (dimensions.foldl (accumulateIn o) s) o dimensions).length := by
  induction dimensions generalizing s with
  | nil => simp [missingIn]
  | cons d dimensions ih =>
    obtain ⟨hd, hnodup⟩ := nodup_cons.1 hnodup
    obtain ⟨hself, _⟩ := accumulate_spec s.aggregates (bucketKey s o d) (contributionOf o)
    obtain ⟨hmem, _⟩ := foldl_accumulateIn_of_not_mem o hd (accumulateIn o s d)
    have hkey : bucketKey (dimensions.foldl (accumulateIn o) (accumulateIn o s d)) o d =
        bucketKey s o d := by
      rw [bucketKey, foldl_accumulateIn_options]
      rfl
    have hiff : bucketKey s o d ∈
        (dimensions.foldl (accumulateIn o) (accumulateIn o s d)).aggregates.buckets ↔
          (s.aggregates.accumulate (bucketKey s o d) (contributionOf o)).1 = true :=
      hmem.trans hself
    rw [foldl_cons, ih hnodup, missingIn, missingIn, filter_cons, hkey]
    cases happlied : (s.aggregates.accumulate (bucketKey s o d) (contributionOf o)).1 with
    | true =>
      rw [if_neg (by simpa using hiff.2 happlied), accumulateIn, happlied]
      rfl
    | false =>
      have hmissing := mt hiff.1 (by rw [happlied]; exact Bool.false_ne_true)
      rw [if_pos (by simpa using hmissing), length_cons, UInt64.ofNat_add, accumulateIn,
        happlied]
      change s.loss.droppedAggregateUpdates + 1 + _ = _
      rw [UInt64.add_assoc, UInt64.add_comm 1]
      rfl

/-! ## Steps and runs -/

/-- Whether a step enters an observation in a dimension. -/
def enters (d : AggregateDimension) (s : State) (a : Action) : Nat :=
  match counted s a with
  | some o => if bucketKey (act s a).2 o d ∈ (act s a).2.aggregates.buckets then 1 else 0
  | none => 0

/-- In how many dimensions a step drops an observation. -/
def drops (s : State) (a : Action) : Nat :=
  match counted s a with
  | some o => (missingIn (act s a).2 o all).length
  | none => 0

/-- Whether a step counts an observation. -/
def counts (s : State) (a : Action) : Nat := if (counted s a).isSome then 1 else 0

/-- A counted observation is entered or dropped in each of the ten dimensions. -/
theorem enters_add_drops (s : State) (a : Action) :
    (all.map fun d => enters d s a).sum + drops s a = 10 * counts s a := by
  unfold enters drops counts
  cases counted s a with
  | none => rfl
  | some o =>
    have hsum (dimensions : List AggregateDimension) :
        (dimensions.map fun d =>
            if bucketKey (act s a).2 o d ∈ (act s a).2.aggregates.buckets then 1 else 0).sum +
          (missingIn (act s a).2 o dimensions).length = dimensions.length := by
      induction dimensions with
      | nil => rfl
      | cons d dimensions ih =>
        rw [map_cons, sum_cons, length_cons, missingIn, filter_cons]
        split <;> simp_all [missingIn] <;> omega
    exact hsum all

theorem bucketKey_congr {s' : State} (h : IngestOnly s s') (o : Observation) :
    bucketKey s' o = bucketKey s o := by
  funext d
  rw [bucketKey, h.options_eq]
  rfl

theorem act_tally (d : AggregateDimension) (h : a.loads = false)
    (hlt : s.aggregates.tally d + enters d s a < 2 ^ 64) :
    (act s a).2.aggregates.tally d = s.aggregates.tally d + enters d s a := by
  rcases act_aggregates s h with
    ⟨hnone, haggregates, _⟩ | ⟨o, s₁, hsome, _, honly, haggregates, _, hnext, _⟩
  · rw [haggregates, enters, hnone]
    rfl
  · rw [enters, hsome] at hlt ⊢
    dsimp only at hlt ⊢
    rw [bucketKey_congr honly, ← haggregates, hnext, accumulateAll_eq] at hlt ⊢
    exact foldl_accumulateIn_of_mem o nodup_all (mem_all d)
      s₁ hlt

theorem act_dropped (h : a.loads = false)
    (hlt : s.loss.droppedAggregateUpdates.toNat + drops s a < 2 ^ 64) :
    (act s a).2.loss.droppedAggregateUpdates.toNat =
      s.loss.droppedAggregateUpdates.toNat + drops s a := by
  rcases act_aggregates s h with
    ⟨hnone, _, hdropped⟩ | ⟨o, s₁, hsome, _, honly, _, hdropped, haggregates, hnext⟩
  · rw [hdropped, drops, hnone]
    rfl
  · have hmissing : missingIn (act s a).2 o all =
        missingIn (accumulateAll s₁ o) o all := by
      rw [missingIn, missingIn, bucketKey_congr honly, haggregates,
        bucketKey_congr (accumulateAll_evidenceOnly s₁ o).ingestOnly]
    rw [drops, hsome] at hlt ⊢
    dsimp only at hlt ⊢
    rw [hmissing] at hlt ⊢
    rw [hnext, accumulateAll_eq, foldl_accumulateIn_dropped o nodup_all,
      ← accumulateAll_eq, hdropped, UInt64.toNat_add, UInt64.toNat_ofNat']
    omega

/-- With nothing dropped, a counted observation is entered in every dimension. -/
theorem counts_le_enters_add_drops (d : AggregateDimension) (s : State) (a : Action) :
    enters d s a ≤ counts s a ∧ counts s a ≤ enters d s a + drops s a := by
  unfold enters drops counts
  cases counted s a with
  | none => exact ⟨Nat.le_refl 0, Nat.le_refl 0⟩
  | some o =>
    dsimp only [Option.isSome_some]
    split
    next => exact ⟨Nat.le_refl 1, Nat.le_add_right _ _⟩
    next hmissing =>
      have hmem : d ∈ missingIn (act s a).2 o all :=
        mem_filter.2 ⟨mem_all d, by simpa using hmissing⟩
      have hpos := length_pos_of_mem hmem
      exact ⟨Nat.zero_le _, by rw [if_pos rfl]; omega⟩

/-- Conservation of counted evidence, from a fresh observatory and as long as no tally
    outgrows 64 bits. -/
theorem tallies_conserved (options : ObservatoryOptions) (now : Nanos) (l : List Action)
    (hloads : ∀ a ∈ l, a.loads = false)
    (htallies : ∀ d, Run.total act (enters d) (State.initial options now) l < 2 ^ 64)
    (hdropped : Run.total act drops (State.initial options now) l < 2 ^ 64) :
    let s := Run.final act (State.initial options now) l
    (AggregateDimension.all.map fun d => (s.aggregates.observationsIn d).toNat).sum +
        s.loss.droppedAggregateUpdates.toNat =
      10 * Run.total act counts (State.initial options now) l ∧
    (s.loss.droppedAggregateUpdates = 0 →
      ∀ d d', s.aggregates.observationsIn d = s.aggregates.observationsIn d') := by
  intro s
  have hrun : Run.Along act (fun _ a => a.loads = false) (State.initial options now) l :=
    Run.along_of_forall_mem hloads (State.initial options now)
  -- the tallies of a fresh observatory are zero
  have hfresh (d : AggregateDimension) : (State.initial options now).aggregates.tally d = 0 := rfl
  have htally (d : AggregateDimension) : (s.aggregates.observationsIn d).toNat =
      Run.total act (enters d) (State.initial options now) l := by
    have hfinal := Run.measure_final (μ := fun s => s.aggregates.tally d)
      (fun _ _ h => act_tally d h) hrun (by rw [hfresh, Nat.zero_add]; exact htallies d)
    rw [hfresh, Nat.zero_add] at hfinal
    rw [toNat_observationsIn (by rw [hfinal]; exact htallies d), hfinal]
  have hloss : s.loss.droppedAggregateUpdates.toNat =
      Run.total act drops (State.initial options now) l := by
    have hzero : (State.initial options now).loss.droppedAggregateUpdates.toNat = 0 := rfl
    have hfinal := Run.measure_final (μ := fun s => s.loss.droppedAggregateUpdates.toNat)
      (fun _ _ h => act_dropped h) hrun (by rw [hzero, Nat.zero_add]; exact hdropped)
    rw [hzero, Nat.zero_add] at hfinal
    exact hfinal
  constructor
  -- what counts enters ten dimensions or is dropped, step by step
  · rw [hloss, List.map_congr_left fun d _ => htally d, ← Run.total_sum, ← Run.total_add,
      ← Run.total_mul]
    congr
    funext s a
    exact enters_add_drops s a
  · intro hzero d d'
    -- without a drop every dimension takes all that counts
    have hall (d : AggregateDimension) : Run.total act (enters d) (State.initial options now) l =
        Run.total act counts (State.initial options now) l := by
      refine Nat.le_antisymm (Run.total_mono (fun s a => (counts_le_enters_add_drops d s a).1) _ _) ?_
      refine (Run.total_mono (fun s a => (counts_le_enters_add_drops d s a).2) _ _).trans ?_
      rw [Run.total_add, ← hloss, hzero]
      exact Nat.le_refl _
    rw [← UInt64.toNat_inj, htally, htally, hall, hall]

/-- One accepted observation is counted once in each dimension. -/
theorem tallies_conserved_one :
    let l : List Action := [.registerPublisher { id := ascii "p", boot := 1 } fun _ => 0,
      .ingest
        { eventId := 1, type := .RemoteRead, sourcePublisher := ascii "p", publisherBoot := 1,
          coordinatorEpoch := 1, topologyGeneration := 1, sequence := 1, timestampNs := 1 } 0]
    Run.total act counts (State.initial {} 0) l = 1 ∧
      (AggregateDimension.all.map fun d =>
          ((Run.final act (State.initial {} 0) l).aggregates.observationsIn d).toNat).sum +
        (Run.final act (State.initial {} 0) l).loss.droppedAggregateUpdates.toNat = 10 * 1 := by
  intro l
  have hcounts : Run.total act counts (State.initial {} 0) l = 1 := by decide +kernel
  have hlaw := tallies_conserved {} 0 l (by decide +kernel)
    (fun d => by cases d <;> decide +kernel) (by decide +kernel)
  rw [hcounts] at hlaw
  exact ⟨hcounts, hlaw.1⟩

end CoherenceObservatory
