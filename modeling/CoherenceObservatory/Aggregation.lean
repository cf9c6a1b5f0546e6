import CoherenceObservatory.Analysis.Region
import CoherenceObservatory.Conservation
import CoherenceObservatory.Lib.Run
import CoherenceObservatory.Validity

/-!
# Aggregation against its specification

A bucket is updated one contribution at a time: its sums stop at the largest value, its
reality is kept in two flags. What it holds is nevertheless a function of the contributions
alone, without their order.
-/

namespace CoherenceObservatory

open Std ExtTreeMap

/-! ## Tallies -/

/-- A sum of a bucket, and what a contribution adds to it. -/
structure Tally where
  read : AggregateValue → UInt64
  amount : ObservationContribution → Nat

variable {cs' : List ObservationContribution} {x y : Option Text}

namespace Tally

/-- The true sum over some contributions. -/
def sum (t : Tally) (cs : List ObservationContribution) : Nat := (cs.map t.amount).sum

/-- The named sums of a bucket, in the order in which they are updated. -/
def named : List Tally :=
  [⟨(·.observations), fun _ => 1⟩,
   ⟨(·.bytes), (·.bytes.toNat)⟩,
   ⟨(·.lines), (·.lines.toNat)⟩,
   ⟨(·.pages), (·.pages.toNat)⟩,
   ⟨(·.regionsTouched), (·.regionsTouched.toNat)⟩,
   ⟨(·.counterDeltaTotal), (·.counterDelta.toNat)⟩,
   ⟨(·.remoteAccesses), (·.remoteAccess.toNat)⟩,
   ⟨(·.remoteReads), (·.remoteRead.toNat)⟩,
   ⟨(·.remoteWrites), (·.remoteWrite.toNat)⟩,
   ⟨(·.ownershipTransfers), (·.ownershipTransfer.toNat)⟩,
   ⟨(·.invalidations), (·.invalidation.toNat)⟩,
   ⟨(·.retries), (·.retry.toNat)⟩,
   ⟨(·.conflicts), (·.conflict.toNat)⟩,
   ⟨(·.writebacks), (·.writeback.toNat)⟩]

/-- The count of the contributions whose kind has a given index. -/
def counting (counts : AggregateValue → List UInt64) (kind : ObservationContribution → Nat)
    (i : Nat) : Tally :=
  ⟨fun bucket => (counts bucket).getD i 0, fun c => if kind c = i then 1 else 0⟩

/-- The count of a precision rank. -/
def ofPrecision : Nat → Tally :=
  counting AggregateValue.precisionCounts fun c => c.precision.rank.toNat

/-- The count of a provenance. -/
def ofProvenance : Nat → Tally :=
  counting AggregateValue.provenanceCounts fun c => c.provenance.raw.toNat

/-- All sums of a bucket. -/
def all : List Tally :=
  named ++ (List.range 7).map ofPrecision ++ (List.range 10).map ofProvenance

theorem sum_concat (t : Tally) (cs : List ObservationContribution) (c : ObservationContribution) :
    t.sum (cs ++ [c]) = t.sum cs + t.amount c := by
  simp [sum]

theorem sum_perm (t : Tally) {cs : List ObservationContribution} (h : cs.Perm cs') :
    t.sum cs = t.sum cs' :=
  (h.map t.amount).sum_eq

end Tally

/-- A sum with its flag is what adding an amount to a tally gives. -/
def Adds (n : UInt64) (amount : Nat) (sum : UInt64 × Bool) : Prop :=
  sum.1.toNat = min (n.toNat + amount) (2 ^ 64 - 1) ∧
    (sum.2 = true ↔ 2 ^ 64 - 1 < n.toNat + amount)

theorem adds_checkedAdd (a b : UInt64) : Adds a b.toNat (checkedAdd a b) := toNat_checkedAdd a b

theorem adds_zero (n : UInt64) : Adds n 0 (n, false) := by
  have hn := n.toNat_lt
  exact ⟨by dsimp only; omega, iff_of_false nofun (by omega)⟩

theorem adds_one (n : UInt64) : Adds n 1 (checkedAdd n 1) := by
  have h := adds_checkedAdd n 1
  rwa [UInt64.toNat_one] at h

theorem adds_flag (b : Bool) (n : UInt64) :
    Adds n b.toNat (if b then checkedAdd n 1 else (n, false)) := by
  cases b with
  | false =>
    rw [if_neg Bool.false_ne_true]
    exact adds_zero n
  | true =>
    rw [if_pos rfl]
    exact adds_one n

/-! ## One contribution -/

section

variable (bucket : AggregateValue) (c : ObservationContribution)

/-- The named sums after a contribution, each with its flag, for a given addition. -/
def namedSums (plus : UInt64 → UInt64 → UInt64 × Bool) : List (UInt64 × Bool) :=
  let one (b : Bool) (n : UInt64) : UInt64 × Bool := if b then plus n 1 else (n, false)
  [plus bucket.observations 1, plus bucket.bytes c.bytes, plus bucket.lines c.lines,
   plus bucket.pages c.pages, plus bucket.regionsTouched c.regionsTouched,
   plus bucket.counterDeltaTotal c.counterDelta,
   one c.remoteAccess bucket.remoteAccesses, one c.remoteRead bucket.remoteReads,
   one c.remoteWrite bucket.remoteWrites, one c.ownershipTransfer bucket.ownershipTransfers,
   one c.invalidation bucket.invalidations, one c.retry bucket.retries,
   one c.conflict bucket.conflicts, one c.writeback bucket.writebacks]

variable {plus : UInt64 → UInt64 → UInt64 × Bool}

/-- The addition is given as a variable: what it computes is of no concern here. -/
theorem read_add (h : plus = checkedAdd) :
    Tally.named.map (fun t => t.read (bucket.add c).1) =
      (namedSums bucket c plus).map Prod.fst := by
  rewrite [AggregateValue.add, ← h]
  rfl

theorem counts_add (h : plus = checkedAdd) :
    (bucket.add c).1.precisionCounts = bucket.precisionCounts.set c.precision.rank.toNat
        (plus (bucket.precisionCounts.getD c.precision.rank.toNat 0) 1).1 ∧
      (bucket.add c).1.provenanceCounts = bucket.provenanceCounts.set c.provenance.raw.toNat
        (plus (bucket.provenanceCounts.getD c.provenance.raw.toNat 0) 1).1 := by
  rewrite [AggregateValue.add, ← h]
  exact ⟨rfl, rfl⟩

theorem saturated_add (h : plus = checkedAdd) :
    (bucket.add c).1.saturated = (bucket.saturated || ((namedSums bucket c plus).any Prod.snd ||
      (c.precision.rank.toNat < bucket.precisionCounts.length &&
        (plus (bucket.precisionCounts.getD c.precision.rank.toNat 0) 1).2) ||
      (c.provenance.raw.toNat < bucket.provenanceCounts.length &&
        (plus (bucket.provenanceCounts.getD c.provenance.raw.toNat 0) 1).2))) := by
  rewrite [AggregateValue.add, ← h]
  rfl

theorem marks_add (h : plus = checkedAdd) :
    ((bucket.add c).1.syntheticContribution, (bucket.add c).1.mixedContribution) =
      mixReality bucket (plus bucket.observations 1).1 c.provenance.realityOf := by
  rewrite [AggregateValue.add, ← h]
  rfl

theorem namedSums_adds : List.Forall₂ (fun (t : Tally) sum =>
    Adds (t.read bucket) (t.amount c) sum) Tally.named (namedSums bucket c checkedAdd) := by
  refine .cons (adds_one _) ?_
  iterate 5 refine .cons (adds_checkedAdd _ _) ?_
  iterate 8 refine .cons (adds_flag _ _) ?_
  exact .nil

/-- What the sums say of their tallies, taken together. -/
theorem forall_of_sums {next : AggregateValue} {ts : List Tally} {sums : List (UInt64 × Bool)}
    (hread : ts.map (fun t => t.read next) = sums.map Prod.fst)
    (h : List.Forall₂ (fun (t : Tally) sum => Adds (t.read bucket) (t.amount c) sum) ts sums) :
    (∀ t ∈ ts, (t.read next).toNat =
        min ((t.read bucket).toNat + t.amount c) (2 ^ 64 - 1)) ∧
      (sums.any Prod.snd = true ↔
        ∃ t ∈ ts, 2 ^ 64 - 1 < (t.read bucket).toNat + t.amount c) := by
  induction h with
  | nil => exact ⟨nofun, iff_of_false nofun nofun⟩
  | cons hsum _ ih =>
    obtain ⟨hhead, htail⟩ := List.cons_eq_cons.1 hread
    obtain ⟨hforall, hany⟩ := ih htail
    refine ⟨List.forall_mem_cons.2 ⟨?_, hforall⟩, ?_⟩
    · exact (congrArg UInt64.toNat hhead).trans hsum.1
    · rw [List.any_cons, Bool.or_eq_true, hsum.2, hany, List.exists_mem_cons_iff]

end

/-- Counting one of a kind: the others keep their count. -/
theorem toNat_getD_set (counts : List UInt64) (k : Nat) {i : Nat} (hi : i < counts.length) :
    ((counts.set k (checkedAdd (counts.getD k 0) 1).1).getD i 0).toNat =
      min ((counts.getD i 0).toNat + if k = i then 1 else 0) (2 ^ 64 - 1) := by
  rw [List.getD_eq_getElem?_getD, List.getElem?_set]
  by_cases hki : k = i
  · subst hki
    rw [if_pos rfl, if_pos hi, if_pos rfl, Option.getD_some]
    exact (adds_one _).1
  · rw [if_neg hki, if_neg hki, ← List.getD_eq_getElem?_getD]
    exact (adds_zero _).1

/-- A count overflows if the one of the kind at hand does. -/
theorem count_overflows_iff (counts : List UInt64) (k : Nat) :
    (k < counts.length && (checkedAdd (counts.getD k 0) 1).2) = true ↔
      ∃ i < counts.length, 2 ^ 64 - 1 < (counts.getD i 0).toNat + if k = i then 1 else 0 := by
  rw [Bool.and_eq_true, decide_eq_true_eq, (adds_one _).2]
  constructor
  · rintro ⟨hk, hover⟩
    exact ⟨k, hk, by rwa [if_pos rfl]⟩
  · rintro ⟨i, hi, hover⟩
    by_cases hki : k = i
    · subst hki
      rw [if_pos rfl] at hover
      exact ⟨hi, hover⟩
    · have hlt := (counts.getD i 0).toNat_lt
      rw [if_neg hki] at hover
      omega

/-! ## What a bucket holds -/

namespace AggregateValue

/-- The sums of a bucket are the true ones as far as 64 bits go, and it says when they
went further. -/
structure Sums (bucket : AggregateValue) (cs : List ObservationContribution) : Prop where
  precisions : bucket.precisionCounts.length = 7
  provenances : bucket.provenanceCounts.length = 10
  tallies : ∀ t ∈ Tally.all, (t.read bucket).toNat = min (t.sum cs) (2 ^ 64 - 1)
  saturated : bucket.saturated = true ↔ ∃ t ∈ Tally.all, 2 ^ 64 - 1 < t.sum cs

/-- The marks of a bucket: whether it took anything, and of which reality. -/
structure Marks (bucket : AggregateValue) (cs : List ObservationContribution) : Prop where
  observed : bucket.hasObservations = true ↔ cs ≠ []
  stamped : bucket.hasTimestamps = true ↔ cs ≠ []
  synthetic : bucket.syntheticContribution = true ↔ ∃ c ∈ cs, c.provenance.realityOf ≠ .real
  mixed : bucket.mixedContribution = true ↔
    (∃ c ∈ cs, c.provenance.realityOf ≠ .real) ∧ ∃ c ∈ cs, c.provenance.realityOf ≠ .synthetic

/-- The least and the greatest of what a bucket took. -/
structure Extremes (bucket : AggregateValue) (cs : List ObservationContribution) : Prop where
  precision : ∃ c ∈ cs, c.precision = bucket.weakestPrecision
  weakest : IsLeast {n | ∃ c ∈ cs, c.precision.rank.toNat = n} bucket.weakestPrecision.rank.toNat
  first : IsLeast {n | ∃ c ∈ cs, c.timestampNs.toInt = n} bucket.firstTimestampNs.toInt
  last : IsGreatest {n | ∃ c ∈ cs, c.timestampNs.toInt = n} bucket.lastTimestampNs.toInt

/-- What a bucket has to hold for the contributions it took. -/
structure Summarises (bucket : AggregateValue) (cs : List ObservationContribution) : Prop extends
  Sums bucket cs, Marks bucket cs, Extremes bucket cs

variable {bucket : AggregateValue} {cs : List ObservationContribution}

theorem Sums.read_eq (h : bucket.Sums cs) (c : ObservationContribution) :
    (∀ t ∈ Tally.all, (t.read (bucket.add c).1).toNat =
        min ((t.read bucket).toNat + t.amount c) (2 ^ 64 - 1)) ∧
      ((bucket.add c).1.saturated = true ↔ bucket.saturated = true ∨
        ∃ t ∈ Tally.all, 2 ^ 64 - 1 < (t.read bucket).toNat + t.amount c) := by
  obtain ⟨hnamed, hany⟩ := forall_of_sums bucket c (read_add bucket c rfl) (namedSums_adds bucket c)
  obtain ⟨hprecision, hprovenance⟩ := counts_add bucket c rfl
  constructor
  · intro t ht
    simp only [Tally.all, List.mem_append, List.mem_map, List.mem_range] at ht
    obtain (ht | ⟨i, hi, rfl⟩) | ⟨i, hi, rfl⟩ := ht
    · exact hnamed t ht
    · exact (congrArg (fun l => (l.getD i 0).toNat) hprecision).trans
        (toNat_getD_set _ _ (h.precisions ▸ hi))
    · exact (congrArg (fun l => (l.getD i 0).toNat) hprovenance).trans
        (toNat_getD_set _ _ (h.provenances ▸ hi))
  · rw [saturated_add bucket c rfl, Bool.or_eq_true, Bool.or_eq_true, Bool.or_eq_true, hany,
      count_overflows_iff, count_overflows_iff, h.precisions, h.provenances]
    simp only [Tally.all, List.mem_append, List.mem_map, List.mem_range, or_and_right, exists_or,
      exists_exists_and_eq_and]
    rfl

theorem sums_nil : Sums {} [] := by
  refine ⟨rfl, rfl, ?_, ?_⟩
  · decide
  · refine iff_of_false nofun ?_
    rintro ⟨t, -, ht⟩
    exact absurd ht (by simp [Tally.sum])

/-- What a further contribution keeps of the sums. -/
theorem Sums.add (h : bucket.Sums cs) (c : ObservationContribution) :
    (bucket.add c).1.Sums (cs ++ [c]) := by
  obtain ⟨hread, hsaturated⟩ := h.read_eq c
  obtain ⟨hprecision, hprovenance⟩ := counts_add bucket c rfl
  refine ⟨?_, ?_, fun t ht => ?_, ?_⟩
  · rw [hprecision, List.length_set, h.precisions]
  · rw [hprovenance, List.length_set, h.provenances]
  · rw [hread t ht, h.tallies t ht, t.sum_concat]
    omega
  · rw [hsaturated, h.saturated]
    constructor
    · rintro (⟨t, ht, hover⟩ | ⟨t, ht, hover⟩)
      · exact ⟨t, ht, by rw [t.sum_concat]; omega⟩
      · rw [h.tallies t ht] at hover
        exact ⟨t, ht, by rw [t.sum_concat]; omega⟩
    · -- The sum that is too large was so before, or was exact and overflows now.
      rintro ⟨t, ht, hover⟩
      rw [t.sum_concat] at hover
      rcases Nat.lt_or_ge (2 ^ 64 - 1) (t.sum cs) with hbefore | hexact
      · exact .inl ⟨t, ht, hbefore⟩
      · exact .inr ⟨t, ht, by rw [h.tallies t ht]; omega⟩

theorem marks_nil : Marks {} [] := by
  have hnone (r : Reality) :
      ¬∃ c ∈ ([] : List ObservationContribution), c.provenance.realityOf ≠ r :=
    fun ⟨_, hc, _⟩ => List.not_mem_nil hc
  exact ⟨iff_of_false nofun (· rfl), iff_of_false nofun (· rfl), iff_of_false nofun (hnone _),
    iff_of_false nofun fun h => hnone _ h.1⟩

/-- More than one observation is counted, now that there is one more, if there was one. -/
theorem Sums.one_lt_iff (h : bucket.Sums cs) :
    (checkedAdd bucket.observations 1).1 > 1 ↔ cs ≠ [] := by
  have hcount := h.tallies ⟨(·.observations), fun _ => 1⟩ (.head _)
  have hlength : Tally.sum ⟨(·.observations), fun _ => 1⟩ cs = cs.length := by simp [Tally.sum]
  have hpos := List.length_pos_iff (l := cs)
  rw [hlength] at hcount
  rw [gt_iff_lt, UInt64.lt_iff_toNat_lt, (adds_one _).1, hcount, UInt64.toNat_one, ← hpos]
  omega

/-- What is all real is not all synthetic, unless there is nothing. -/
theorem exists_ne_synthetic (hcs : cs ≠ []) (h : ¬∃ c ∈ cs, c.provenance.realityOf ≠ .real) :
    ∃ c ∈ cs, c.provenance.realityOf ≠ .synthetic := by
  obtain ⟨c, hc⟩ := List.exists_mem_of_ne_nil cs hcs
  have hreal : c.provenance.realityOf = .real := by_contra fun hne => h ⟨c, hc, hne⟩
  exact ⟨c, hc, by rw [hreal]; nofun⟩

/-- The same for the marks. -/
theorem Marks.add (h : bucket.Marks cs) (hsums : bucket.Sums cs) (c : ObservationContribution) :
    (bucket.add c).1.Marks (cs ++ [c]) := by
  have hsynthetic : (bucket.add c).1.syntheticContribution = _ :=
    congrArg Prod.fst (marks_add bucket c rfl)
  have hmixed : (bucket.add c).1.mixedContribution = _ :=
    congrArg Prod.snd (marks_add bucket c rfl)
  have hconcat (r : Reality) : (∃ c' ∈ cs ++ [c], c'.provenance.realityOf ≠ r) ↔
      (∃ c' ∈ cs, c'.provenance.realityOf ≠ r) ∨ c.provenance.realityOf ≠ r := by
    simp only [List.mem_append, List.mem_singleton, or_and_right, exists_or, exists_eq_left]
  refine ⟨iff_of_true rfl (by simp), iff_of_true rfl (by simp), ?_, ?_⟩
  · rw [hsynthetic, hconcat]
    cases c.provenance.realityOf <;> simp [mixReality, h.synthetic]
  · rw [hmixed, hconcat, hconcat]
    cases c.provenance.realityOf with
    | real =>
      simp only [mixReality, Bool.or_eq_true, h.synthetic, h.mixed]
      grind
    | synthetic =>
      -- A first observation mixes nothing; a later one mixes unless all were synthetic, and
      -- those that were not all synthetic were all real or mixed already.
      have hsome := @exists_ne_synthetic cs
      have hne : (∃ c' ∈ cs, c'.provenance.realityOf ≠ .synthetic) → cs ≠ [] := by
        rintro ⟨c', hc', -⟩
        exact List.ne_nil_of_mem hc'
      have hnot : (bucket.syntheticContribution = false) ↔
          ¬∃ c' ∈ cs, c'.provenance.realityOf ≠ .real := by
        rw [← h.synthetic, Bool.not_eq_true]
      simp only [mixReality, Bool.or_eq_true, Bool.and_eq_true, Bool.not_eq_true',
        Bool.and_eq_false_iff, decide_eq_true_eq, decide_eq_false_iff_not, hsums.one_lt_iff,
        h.observed, h.mixed, hnot]
      grind
    | mixed => simp [mixReality]

theorem rank_weakest (a b : Precision) :
    (a.weakest b).rank.toNat = min b.rank.toNat a.rank.toNat := by
  rw [Precision.weakest]
  split
  next hle => exact (Nat.min_eq_right (UInt8.le_iff_toNat_le.1 hle)).symm
  next hlt =>
    rw [UInt8.le_iff_toNat_le] at hlt
    omega

variable {α : Type} {a b : AggregateValue}

theorem setOf_concat (f : ObservationContribution → α) (c : ObservationContribution) :
    {x | ∃ c' ∈ cs ++ [c], f c' = x} = insert (f c) {x | ∃ c' ∈ cs, f c' = x} := by
  ext x
  simp only [List.mem_append, List.mem_singleton, or_and_right, exists_or, exists_eq_left,
    Set.mem_ofPred_eq, Set.mem_insert_iff]
  rw [or_comm, eq_comm]

theorem setOf_singleton (f : ObservationContribution → α) (c : ObservationContribution) :
    {x | ∃ c' ∈ [c], f c' = x} = {f c} := by
  ext x
  simp [eq_comm]

/-- The first contribution is the least and the greatest. -/
theorem extremes_first (c : ObservationContribution) :
    (({} : AggregateValue).add c).1.Extremes [c] := by
  refine ⟨⟨c, .head _, rfl⟩, ?_, ?_, ?_⟩ <;> rw [setOf_singleton]
  · exact isLeast_singleton
  · exact isLeast_singleton
  · exact isGreatest_singleton

/-- The same for the extremes. -/
theorem Extremes.add (h : bucket.Extremes cs) (hmarks : bucket.Marks cs) (hcs : cs ≠ [])
    (c : ObservationContribution) : (bucket.add c).1.Extremes (cs ++ [c]) := by
  have hweakest : (bucket.add c).1.weakestPrecision = bucket.weakestPrecision.weakest c.precision :=
    if_pos (hmarks.observed.2 hcs)
  have hstamped := hmarks.stamped.2 hcs
  have hfirst : (bucket.add c).1.firstTimestampNs.toInt =
      min c.timestampNs.toInt bucket.firstTimestampNs.toInt := by
    change (if bucket.hasTimestamps ∧ ¬c.timestampNs < bucket.firstTimestampNs
      then bucket.firstTimestampNs else c.timestampNs).toInt = _
    simp only [hstamped, true_and, Int64.lt_iff_toInt_lt]
    split <;> omega
  have hlast : (bucket.add c).1.lastTimestampNs.toInt =
      max c.timestampNs.toInt bucket.lastTimestampNs.toInt := by
    change (if bucket.hasTimestamps ∧ ¬c.timestampNs > bucket.lastTimestampNs
      then bucket.lastTimestampNs else c.timestampNs).toInt = _
    simp only [hstamped, true_and, gt_iff_lt, Int64.lt_iff_toInt_lt]
    split <;> omega
  refine ⟨?_, ?_, ?_, ?_⟩
  · obtain ⟨c', hc', hprecision⟩ := h.precision
    rw [hweakest, Precision.weakest]
    split
    · exact ⟨c', List.mem_append_left _ hc', hprecision⟩
    · exact ⟨c, List.mem_append_right _ (.head _), rfl⟩
  · rw [hweakest, rank_weakest, setOf_concat]
    exact h.weakest.insert _
  · rw [hfirst, setOf_concat]
    exact h.first.insert _
  · rw [hlast, setOf_concat]
    exact h.last.insert _

/-- The bucket of some contributions, in order. -/
def collect (cs : List ObservationContribution) : AggregateValue :=
  cs.foldl (fun bucket c => (bucket.add c).1) {}

theorem collect_concat (cs : List ObservationContribution) (c : ObservationContribution) :
    collect (cs ++ [c]) = ((collect cs).add c).1 :=
  List.foldl_concat ..

theorem collect_summarises (hcs : cs ≠ []) : (collect cs).Summarises cs := by
  -- The sums and the marks hold from the start, the extremes from the first contribution on.
  suffices h : (collect cs).Sums cs ∧ (collect cs).Marks cs ∧
      (cs ≠ [] → (collect cs).Extremes cs) from ⟨h.1, h.2.1, h.2.2 hcs⟩
  clear hcs
  induction cs using List.reverseRecOn with
  | nil => exact ⟨sums_nil, marks_nil, fun h => absurd rfl h⟩
  | append_singleton cs c ih =>
    obtain ⟨hsums, hmarks, hextremes⟩ := ih
    rw [collect_concat]
    refine ⟨hsums.add c, hmarks.add hsums c, fun _ => ?_⟩
    by_cases hcs : cs = []
    · subst hcs
      exact extremes_first c
    · exact (hextremes hcs).add hmarks hcs c

/-- The reality of some contributions together. -/
def realityOfAll (cs : List ObservationContribution) : Reality :=
  if ∀ c ∈ cs, c.provenance.realityOf = .real then .real
  else if ∀ c ∈ cs, c.provenance.realityOf = .synthetic then .synthetic
  else .mixed

theorem Marks.reality_eq (h : bucket.Marks cs) : bucket.reality = realityOfAll cs := by
  have hall (r : Reality) : (∀ c ∈ cs, c.provenance.realityOf = r) ↔
      ¬∃ c ∈ cs, c.provenance.realityOf ≠ r := by
    simp only [not_exists, not_and, not_not]
  simp only [AggregateValue.reality, realityOfAll, h.synthetic, h.mixed, hall]
  by_cases hreal : ∃ c ∈ cs, c.provenance.realityOf ≠ .real
  · by_cases hsynthetic : ∃ c ∈ cs, c.provenance.realityOf ≠ .synthetic
    · rw [if_pos ⟨hreal, hsynthetic⟩, if_neg (not_not.2 hreal), if_neg (not_not.2 hsynthetic)]
    · rw [if_neg (hsynthetic ·.2), if_pos hreal, if_neg (not_not.2 hreal), if_pos hsynthetic]
  · rw [if_neg (hreal ·.1), if_neg hreal, if_pos hreal]

/-- Two buckets hold the same, where precisions of one rank are not told apart. -/
def Agrees (a b : AggregateValue) : Prop :=
  { a with weakestPrecision := b.weakestPrecision } = b ∧
    a.weakestPrecision.rank = b.weakestPrecision.rank

/-- Lists of counts are the same if they are so at every index. -/
theorem counts_eq {counts counts' : List UInt64} {n : Nat} (hn : counts.length = n)
    (hn' : counts'.length = n) (h : ∀ i < n, counts.getD i 0 = counts'.getD i 0) :
    counts = counts' := by
  refine List.ext_getElem (hn.trans hn'.symm) fun i hi hi' => ?_
  have hget := h i (hn ▸ hi)
  rwa [List.getD_eq_getElem _ _ hi, List.getD_eq_getElem _ _ hi'] at hget

attribute [ext] AggregateValue

/-- What a bucket holds does not depend on the order of what it took. -/
theorem Summarises.agrees (ha : a.Summarises cs) (hb : b.Summarises cs') (hperm : cs.Perm cs') :
    a.Agrees b := by
  -- sums, extremes and marks do not depend on the order
  have hmem (P : ObservationContribution → Prop) : (∃ c ∈ cs, P c) ↔ ∃ c ∈ cs', P c := by
    simp only [hperm.mem_iff]
  have hnil : cs ≠ [] ↔ cs' ≠ [] := not_congr ⟨fun h => (h ▸ hperm).nil_eq.symm,
    fun h => (h ▸ hperm).eq_nil⟩
  have hread : ∀ t ∈ Tally.all, t.read a = t.read b := fun t ht => by
    rw [← UInt64.toNat_inj, ha.tallies t ht, hb.tallies t ht, t.sum_perm hperm]
  have hnamed : ∀ t ∈ Tally.named, t.read a = t.read b := fun t ht => hread t (by
    simp [Tally.all, ht])
  have hprecisions : a.precisionCounts = b.precisionCounts :=
    counts_eq ha.precisions hb.precisions fun i hi => hread (.ofPrecision i) (by
      simp only [Tally.all, List.mem_append, List.mem_map, List.mem_range]
      exact .inl (.inr ⟨i, hi, rfl⟩))
  have hprovenances : a.provenanceCounts = b.provenanceCounts :=
    counts_eq ha.provenances hb.provenances fun i hi => hread (.ofProvenance i) (by
      simp only [Tally.all, List.mem_append, List.mem_map, List.mem_range]
      exact .inr ⟨i, hi, rfl⟩)
  have hfirst := ha.first
  have hlast := ha.last
  have hweakest := ha.weakest
  simp only [hmem] at hfirst hlast hweakest
  simp only [Tally.named, List.forall_mem_cons] at hnamed
  obtain ⟨h1, h2, h3, h4, h5, h6, h7, h8, h9, h10, h11, h12, h13, h14, -⟩ := hnamed
  refine ⟨AggregateValue.ext h1 h2 h3 h4 h5 h7 h8 h9 h10 h11 h12 h13 h14 h6
    (Int64.toInt_inj.1 (hfirst.unique hb.first)) (Int64.toInt_inj.1 (hlast.unique hb.last))
    ?_ hprecisions hprovenances ?_ ?_ ?_ rfl ?_,
    UInt8.toNat_inj.1 (hweakest.unique hb.weakest)⟩
  · exact Bool.eq_iff_iff.2 ((ha.stamped.trans hnil).trans hb.stamped.symm)
  · refine Bool.eq_iff_iff.2 (ha.saturated.trans (Iff.trans ?_ hb.saturated.symm))
    simp only [Tally.sum_perm _ hperm]
  · exact Bool.eq_iff_iff.2 ((ha.synthetic.trans (hmem _)).trans hb.synthetic.symm)
  · exact Bool.eq_iff_iff.2
      ((ha.mixed.trans (and_congr (hmem _) (hmem _))).trans hb.mixed.symm)
  · exact Bool.eq_iff_iff.2 ((ha.observed.trans hnil).trans hb.observed.symm)

/-- The precisions of the taxonomy have ranks of their own. -/
theorem rank_injective {a b : Precision} (ha : a.raw < 7) (hb : b.raw < 7)
    (h : a.rank = b.rank) : a = b := by
  rw [Precision.rank, Precision.rank, if_pos ha, if_pos hb] at h
  cases a
  cases b
  exact congrArg _ h

theorem Summarises.eq_of_declared (ha : a.Summarises cs) (hb : b.Summarises cs')
    (hperm : cs.Perm cs') (h : ∀ c ∈ cs', c.precision.raw < 7) : a = b := by
  obtain ⟨hrest, hrank⟩ := ha.agrees hb hperm
  obtain ⟨c, hc, hca⟩ := ha.precision
  obtain ⟨c', hc', hcb⟩ := hb.precision
  have hweakest : a.weakestPrecision = b.weakestPrecision :=
    rank_injective (hca ▸ h c (hperm.mem_iff.1 hc)) (hcb ▸ h c' hc') hrank
  rw [← hrest, ← hweakest]

end AggregateValue

/-! ## Sequences of contributions -/

/-- A contribution, and the bucket it is for. -/
abbrev Keyed := AggregateKey × ObservationContribution

/-- A contribution is offered under its key. -/
def AggregateStore.offer (store : AggregateStore) (pair : Keyed) : Bool × AggregateStore :=
  store.accumulate pair.1 pair.2

/-- The empty store takes every pair of a sequence. -/
def Accepted (pairs : List Keyed) : Prop :=
  Run.Along AggregateStore.offer (fun store pair => (store.offer pair).1 = true) {} pairs

instance (pairs : List Keyed) : Decidable (Accepted pairs) := Run.decidableAlong ..

/-- The buckets after a sequence. -/
def bucketsOf (pairs : List Keyed) : ExtTreeMap AggregateKey AggregateValue :=
  (Run.final AggregateStore.offer {} pairs).buckets

/-- The contributions to a bucket, in order. -/
def contributionsTo (key : AggregateKey) (pairs : List Keyed) : List ObservationContribution :=
  (pairs.filter (·.1 = key)).map Prod.snd

theorem accepted_concat (pairs : List Keyed) (pair : Keyed) :
    Accepted (pairs ++ [pair]) ↔ Accepted pairs ∧
      ¬(pair.1 ∉ bucketsOf pairs ∧ (bucketsOf pairs).size ≥ Limits.maxAggregateKeys) := by
  rw [Accepted, Run.along_append]
  refine and_congr Iff.rfl ?_
  rw [Run.Along, Run.Along, and_true, AggregateStore.offer, AggregateStore.accumulate]
  split
  next hfull => exact iff_of_false (by rintro ⟨⟩) (not_not.2 hfull)
  next hroom => exact iff_of_true rfl hroom

variable {pairs pairs' : List Keyed}

theorem bucketsOf_concat {pair : Keyed} (h : Accepted (pairs ++ [pair])) :
    bucketsOf (pairs ++ [pair]) = (bucketsOf pairs).insert pair.1
      (((bucketsOf pairs)[pair.1]?.getD {}).add pair.2).1 := by
  rw [bucketsOf, Run.final_append]
  exact (accumulate_of_room ((accepted_concat _ _).1 h).2 pair.2).2

theorem contributionsTo_concat (key key' : AggregateKey) (pairs : List Keyed)
    (c : ObservationContribution) : contributionsTo key (pairs ++ [(key', c)]) =
      contributionsTo key pairs ++ if key' = key then [c] else [] := by
  rw [contributionsTo, List.filter_append, List.map_append, ← contributionsTo]
  by_cases hkey : key' = key <;> simp [hkey]

/-- A sequence leaves one bucket for each of its keys, with all contributions to it. -/
theorem buckets_of_accepted (h : Accepted pairs) (key : AggregateKey) :
    (bucketsOf pairs)[key]? = if contributionsTo key pairs = [] then none
      else some (.collect (contributionsTo key pairs)) := by
  induction pairs using List.reverseRecOn with
  | nil => rfl
  | append_singleton pairs pair ih =>
    obtain ⟨key', c⟩ := pair
    have hbefore := ih ((accepted_concat _ _).1 h).1
    rw [bucketsOf_concat h, getElem?_insert, contributionsTo_concat]
    by_cases hkey : key' = key
    · subst hkey
      have hcollect : (bucketsOf pairs)[key']?.getD {} = .collect (contributionsTo key' pairs) := by
        rw [hbefore]
        split
        next hnil => rw [hnil]; rfl
        next => rfl
      rw [if_pos ReflOrd.compare_self, if_pos rfl,
        if_neg (List.append_ne_nil_of_right_ne_nil _ (List.cons_ne_nil c [])), hcollect,
        AggregateValue.collect_concat]
    · rw [if_neg (mt LawfulEqOrd.eq_of_compare hkey), if_neg hkey, List.append_nil, hbefore]

/-- The keys of a sequence. -/
def keysOf (pairs : List Keyed) : Finset AggregateKey := (pairs.map Prod.fst).toFinset

theorem keysOf_concat (pairs : List Keyed) (pair : Keyed) :
    keysOf (pairs ++ [pair]) = insert pair.1 (keysOf pairs) := by
  ext key
  simp [keysOf]

theorem mem_bucketsOf (h : Accepted pairs) (key : AggregateKey) :
    key ∈ bucketsOf pairs ↔ key ∈ keysOf pairs := by
  rw [← isSome_getElem?_iff_mem, buckets_of_accepted h, contributionsTo, keysOf]
  simp

theorem size_bucketsOf (h : Accepted pairs) : (bucketsOf pairs).size = (keysOf pairs).card := by
  induction pairs using List.reverseRecOn with
  | nil => rfl
  | append_singleton pairs pair ih =>
    have hbefore := ((accepted_concat _ _).1 h).1
    rw [bucketsOf_concat h, size_insert, ih hbefore, keysOf_concat,
      Finset.card_insert_eq_ite]
    exact if_congr (mem_bucketsOf hbefore _) rfl rfl

/-- A sequence is taken if it has no more keys than the store has places. -/
theorem accepted_iff (pairs : List Keyed) :
    Accepted pairs ↔ (keysOf pairs).card ≤ Limits.maxAggregateKeys := by
  induction pairs using List.reverseRecOn with
  | nil => exact iff_of_true trivial (Nat.zero_le _)
  | append_singleton pairs pair ih =>
    rw [accepted_concat, keysOf_concat, Finset.card_insert_eq_ite]
    by_cases hbefore : Accepted pairs
    · rw [mem_bucketsOf hbefore, size_bucketsOf hbefore]
      split <;> grind
    · have hfull := mt ih.2 hbefore
      refine iff_of_false (hbefore ·.1) ?_
      split <;> omega

theorem contributionsTo_perm (h : pairs'.Perm pairs) (key : AggregateKey) :
    (contributionsTo key pairs').Perm (contributionsTo key pairs) :=
  (h.filter _).map _

/-- A key has a bucket in both orders or in none, and its buckets are related if buckets with
the same contributions are. -/
theorem rel_of_perm {R : AggregateValue → AggregateValue → Prop} (h : pairs'.Perm pairs)
    (hpairs : Accepted pairs) (hpairs' : Accepted pairs') (key : AggregateKey)
    (hR : ∀ a b, a.Summarises (contributionsTo key pairs') → b.Summarises (contributionsTo key pairs) → R a b) :
    Option.Rel R (bucketsOf pairs')[key]? (bucketsOf pairs)[key]? := by
  have hperm := contributionsTo_perm h key
  rw [buckets_of_accepted hpairs, buckets_of_accepted hpairs']
  by_cases hnil : contributionsTo key pairs = []
  · rw [if_pos hnil, if_pos (hnil ▸ hperm).eq_nil]
    exact .none
  · have hnil' : contributionsTo key pairs' ≠ [] := fun h => hnil (h ▸ hperm).nil_eq.symm
    rw [if_neg hnil, if_neg hnil']
    exact .some (hR _ _ (AggregateValue.collect_summarises hnil')
      (AggregateValue.collect_summarises hnil))

theorem accepted_perm (h : pairs'.Perm pairs) : Accepted pairs' ↔ Accepted pairs := by
  rw [accepted_iff, accepted_iff, keysOf, keysOf, List.toFinset_eq_of_perm _ _ (h.map Prod.fst)]

/-- What an empty store holds after a sequence that it accepts is what its specification asks
    for. As long as there are no more keys than places, the order of the sequence does not
    matter, but for which of several precisions of the least rank is kept: there is only one
    if they are all among the seven of the taxonomy. -/
theorem aggregation_summarises (pairs : List Keyed) :
    (Accepted pairs → ∀ key,
      match (bucketsOf pairs)[key]? with
      | none => contributionsTo key pairs = []
      | some bucket => contributionsTo key pairs ≠ [] ∧
        bucket.Summarises (contributionsTo key pairs) ∧
        bucket.reality = AggregateValue.realityOfAll (contributionsTo key pairs)) ∧
    ((keysOf pairs).card ≤ Limits.maxAggregateKeys → ∀ pairs' : List Keyed, pairs'.Perm pairs →
      Accepted pairs' ∧
      (∀ key : AggregateKey, Option.Rel AggregateValue.Agrees
        (bucketsOf pairs')[key]? (bucketsOf pairs)[key]?) ∧
      ((∀ pair ∈ pairs, pair.2.precision.raw < 7) → bucketsOf pairs' = bucketsOf pairs)) := by
  constructor
  · intro haccepted key
    rw [buckets_of_accepted haccepted]
    by_cases hnil : contributionsTo key pairs = []
    · rw [if_pos hnil]
      exact hnil
    · rw [if_neg hnil]
      have hbucket := AggregateValue.collect_summarises hnil
      exact ⟨hnil, hbucket, hbucket.toMarks.reality_eq⟩
  · intro hroom pairs' hperm
    have haccepted := (accepted_iff pairs).2 hroom
    have haccepted' := (accepted_perm hperm).2 haccepted
    refine ⟨haccepted', fun key => ?_, fun hdeclared => ?_⟩
    · exact rel_of_perm hperm haccepted haccepted' key fun a b ha hb =>
        ha.agrees hb (contributionsTo_perm hperm key)
    · refine ExtTreeMap.ext_getElem? fun key => ?_
      have hcs : ∀ c ∈ contributionsTo key pairs, c.precision.raw < 7 := by
        intro c hc
        obtain ⟨pair, hpair, rfl⟩ := List.mem_map.1 hc
        exact hdeclared pair (List.mem_of_mem_filter hpair)
      have hrel := rel_of_perm hperm haccepted haccepted' key fun a b ha hb =>
        ha.eq_of_declared hb (contributionsTo_perm hperm key) hcs
      generalize (bucketsOf pairs')[key]? = bucket' at hrel ⊢
      generalize (bucketsOf pairs)[key]? = bucket at hrel ⊢
      cases hrel with
      | none => rfl
      | some heq => exact congrArg some heq

/-- One real and one synthetic contribution to the same bucket, of bytes that do not fit. -/
def realAndSynthetic : List Keyed :=
  let contribution (provenance : Provenance) : ObservationContribution :=
    { bytes := 2 ^ 63, lines := 1, pages := 0, regionsTouched := 0, remoteAccess := false
      remoteRead := false, remoteWrite := false, ownershipTransfer := false
      invalidation := false, retry := false, conflict := false, writeback := false
      counterDelta := 0, timestampNs := 5, precision := .ExactEvent, provenance := provenance }
  [(⟨.device, ascii "d"⟩, contribution .OsTelemetry),
   (⟨.device, ascii "d"⟩, contribution .SyntheticBackend)]

/-- A bucket that saturates, of real and synthetic evidence. -/
theorem aggregation_summarises_realAndSynthetic :
    Accepted realAndSynthetic ∧
      (∃ bucket ∈ (bucketsOf realAndSynthetic)[(⟨.device, ascii "d"⟩ : AggregateKey)]?,
        bucket.bytes.toNat = 2 ^ 64 - 1 ∧ bucket.saturated = true ∧ bucket.reality = .mixed) ∧
      bucketsOf realAndSynthetic.reverse = bucketsOf realAndSynthetic := by
  obtain ⟨hspec, horder⟩ := aggregation_summarises realAndSynthetic
  have haccepted : Accepted realAndSynthetic := by decide +kernel
  have hbucket := hspec haccepted ⟨.device, ascii "d"⟩
  refine ⟨haccepted, ?_, (horder (by decide) _ (List.reverse_perm _)).2.2 (by decide)⟩
  have hsum : Tally.sum ⟨(·.bytes), (·.bytes.toNat)⟩
      (contributionsTo ⟨.device, ascii "d"⟩ realAndSynthetic) = 2 ^ 64 := by decide +kernel
  cases hentry : (bucketsOf realAndSynthetic)[(⟨.device, ascii "d"⟩ : AggregateKey)]? with
  | none =>
    rw [hentry] at hbucket
    exact absurd hbucket (by decide)
  | some bucket =>
    rw [hentry] at hbucket
    obtain ⟨-, hsummarises, hreality⟩ := hbucket
    have hbytes := hsummarises.tallies ⟨(·.bytes), (·.bytes.toNat)⟩ (.tail _ (.head _))
    rw [hsum] at hbytes
    refine ⟨bucket, rfl, hbytes, ?_, hreality.trans (by decide)⟩
    exact hsummarises.saturated.2 ⟨_, .tail _ (.head _), by rw [hsum]; decide⟩

/-! ## Subjects and buckets -/

namespace AggregateDimension

/-- The dimensions in which a bucket stands for identities. -/
def identifying : List AggregateDimension :=
  [.region, .workload, .coherenceDomain, .publisher, .sourceTargetPair]

/-- The identities by which a dimension tells observations apart. -/
def identities (o : Observation) : AggregateDimension → List (Option Text)
  | .region => [o.region]
  | .workload => [o.workload]
  | .coherenceDomain => [o.coherenceDomain]
  | .publisher => [some o.sourcePublisher]
  | .sourceTargetPair => [o.source.map ResourceRef.id, o.target.map ResourceRef.id]
  | _ => []

end AggregateDimension

/-- One identity is missing, and the other is spelled like the bucket of missing ones. -/
def Confusable (x y : Option Text) : Prop :=
  x = none ∧ y = some unknownBucket ∨ x = some unknownBucket ∧ y = none

/-- Identities differ, but only where they can be confused. -/
def Confused (l l' : List (Option Text)) : Prop :=
  l ≠ l' ∧ List.Forall₂ (fun x y => x = y ∨ Confusable x y) l l'

theorem getD_unknownBucket_iff :
    x.getD unknownBucket = y.getD unknownBucket ↔ x = y ∨ Confusable x y := by
  cases x <;> cases y <;> simp [Confusable, eq_comm]

theorem elim_unknownBucket (r : Option ResourceRef) :
    r.elim unknownBucket ResourceRef.id = (r.map ResourceRef.id).getD unknownBucket := by
  cases r <;> rfl

/-- No identity contains the mark that closes the arrow of a pair. -/
theorem arrow_not_mem {r : Option ResourceRef} (h : ∀ ref ∈ r, ref.Valid) :
    (62 : UInt8) ∉ (r.map ResourceRef.id).getD unknownBucket := by
  cases r with
  | none => decide
  | some ref => exact fun hmem => absurd ((h ref rfl).token.admitted 62 hmem) (by decide)

theorem forall₂_singleton_iff :
    List.Forall₂ (fun x y => x = y ∨ Confusable x y) [x] [y] ↔ x = y ∨ Confusable x y := by
  simp

section

variable {o o' : Observation} (ho : validateObservationStructure o = .ok ())
  (ho' : validateObservationStructure o' = .ok ()) (timeBucketNs : Int64)

include ho ho'

theorem pairText_iff :
    aggregateValueText o timeBucketNs .sourceTargetPair =
        aggregateValueText o' timeBucketNs .sourceTargetPair ↔
      List.Forall₂ (fun x y => x = y ∨ Confusable x y)
        (AggregateDimension.sourceTargetPair.identities o)
        (AggregateDimension.sourceTargetPair.identities o') := by
  have hvalid := validateObservationStructure_eq_ok.1 ho
  have hvalid' := validateObservationStructure_eq_ok.1 ho'
  -- the arrow ends with a mark that stands nowhere else
  have hdash {x : Text} (h : (62 : UInt8) ∉ x) : (62 : UInt8) ∉ x ++ [45] := by
    simpa using h
  have hsplit (x y : Text) : x ++ ascii "->" ++ y = (x ++ [45]) ++ 62 :: y := by
    rw [show ascii "->" = [45, 62] by decide]
    simp
  simp only [AggregateDimension.identities, List.forall₂_cons, List.forall₂_nil_right_iff,
    and_true, ← getD_unknownBucket_iff, aggregateValueText, elim_unknownBucket, hsplit]
  constructor
  · intro h
    obtain ⟨hsource, htarget⟩ := append_cons_inj_of_not_mem (hdash (arrow_not_mem hvalid.source))
      (hdash (arrow_not_mem hvalid'.source)) h
    exact ⟨List.append_cancel_right hsource, htarget⟩
  · rintro ⟨hsource, htarget⟩
    rw [hsource, htarget]

/-- Two observations go into the same bucket if their identities are the same or can be
confused. -/
theorem bucketText_eq_iff {d : AggregateDimension} (hd : d ∈ AggregateDimension.identifying) :
    aggregateValueText o timeBucketNs d = aggregateValueText o' timeBucketNs d ↔
      List.Forall₂ (fun x y => x = y ∨ Confusable x y) (d.identities o) (d.identities o') := by
  have hpublisher {o : Observation} (h : validateObservationStructure o = .ok ()) :
      aggregateValueText o timeBucketNs .publisher = (some o.sourcePublisher).getD unknownBucket :=
    if_neg (validateObservationStructure_eq_ok.1 h).publisher.ne_nil
  simp only [AggregateDimension.identifying, List.mem_cons, List.not_mem_nil, or_false] at hd
  rcases hd with rfl | rfl | rfl | rfl | rfl
  · exact getD_unknownBucket_iff.trans forall₂_singleton_iff.symm
  · exact getD_unknownBucket_iff.trans forall₂_singleton_iff.symm
  · exact getD_unknownBucket_iff.trans forall₂_singleton_iff.symm
  · rw [hpublisher ho, hpublisher ho']
    exact getD_unknownBucket_iff.trans forall₂_singleton_iff.symm
  · exact pairText_iff ho ho' timeBucketNs

/-- The buckets of two valid observations are the same exactly if their identities are, unless
    the identities differ only in that one is missing where the other is spelled like the bucket
    of missing ones. -/
theorem bucketText_iff {d : AggregateDimension} (hd : d ∈ AggregateDimension.identifying) :
    (aggregateValueText o timeBucketNs d = aggregateValueText o' timeBucketNs d ↔
        d.identities o = d.identities o') ↔
      ¬Confused (d.identities o) (d.identities o') := by
  have hsame : d.identities o = d.identities o' →
      List.Forall₂ (fun x y => x = y ∨ Confusable x y) (d.identities o) (d.identities o') := by
    intro h
    rw [h]
    exact List.forall₂_same.2 fun _ _ => .inl rfl
  rw [bucketText_eq_iff ho ho' timeBucketNs hd, Confused]
  tauto

end

/-- An observation without a region, and one of a region that is spelled like none. -/
def regionless : Observation :=
  { eventId := 1, type := .RemoteRead, sourcePublisher := ascii "p", publisherBoot := 1,
    sequence := 1 }

/-- The same read, of a region named like the bucket of unnamed ones. -/
def spelledUnknown : Observation :=
  { regionless with region := some (ascii "unknown"), regionGeneration := some 1 }

/-- Both observations are by the same publisher. -/
theorem bucketText_regionless :
    validateObservationStructure regionless = .ok () ∧
      (aggregateValueText regionless 1 .publisher = aggregateValueText spelledUnknown 1 .publisher ↔
        AggregateDimension.publisher.identities regionless =
          AggregateDimension.publisher.identities spelledUnknown) :=
  ⟨by decide, (bucketText_iff (by decide) (by decide) 1 (by decide)).2 fun h => h.1 rfl⟩

/-- Both are valid and have the same bucket, though only one has a region. -/
theorem spelledUnknown_collides :
    validateObservationStructure regionless = .ok () ∧
      validateObservationStructure spelledUnknown = .ok () ∧
      aggregateValueText regionless 1 .region = aggregateValueText spelledUnknown 1 .region ∧
      AggregateDimension.region.identities regionless ≠
        AggregateDimension.region.identities spelledUnknown := by
  refine ⟨by decide, by decide, rfl, ?_⟩
  exact fun h => nomatch h

end CoherenceObservatory
