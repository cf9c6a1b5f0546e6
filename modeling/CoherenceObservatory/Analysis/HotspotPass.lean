import CoherenceObservatory.Analysis.Hotspots
import Mathlib.Data.List.MinMax

/-!
# The hotspot pass and its candidates

The pass over the buckets is meant to return what a simpler analysis would: a candidate for
every bucket, without those that have no reason, in order. The two differ in which buckets they
gather. The pass stops at its cap, in the order of the buckets; it keeps a locality whose name
it cannot parse, for which it has no reason to give; and it looks at one pair only.
-/

namespace CoherenceObservatory

open Std ExtTreeMap HotspotScan List

/-! ## The simpler analysis -/

variable (tests : HotspotTests) (s : State) (policy : HotspotPolicy)

/-- The traffic between pairs concentrates on this one. -/
def concentrated (e : Bucket) : Bool :=
  totalPairObservations s > 0 ∧ tests.pairShare e.1.value e.2.observations = true

/-- The candidate of a bucket. -/
def hotspotCandidate (e : Bucket) : Finding :=
  match e.1.dimension with
  | .region => regionHotspot tests s policy e
  | .device => deviceHotspot s policy e
  | .locality => localityHotspot s policy e (localityExceeded policy e)
  | _ => pairHotspot s policy e.1.value e.2.observations e.2.reality (concentrated tests s e)

/-- The buckets with a candidate; what is filed under no name is about no subject. -/
def hasCandidate (e : Bucket) : Bool :=
  match e.1.dimension with
  | .region | .device | .locality => e.1.value ≠ unknownBucket
  | .sourceTargetPair => true
  | _ => false

/-- A candidate for every bucket, without those that have no reason, in order. -/
def naiveHotspotsWith : List Finding :=
  finalizeFindings
    (((s.aggregates.buckets.toList.filter hasCandidate).map
      (hotspotCandidate tests s policy)).filter fun f => f.reasons ≠ [])
    policy.maxHotspots

/-! ## What each of the two gathers -/

/-- The pass finds the bucket worth a finding. -/
def flagged (e : Bucket) : Bool :=
  e.1.value ≠ unknownBucket &&
    match e.1.dimension with
    | .region => (regionReasons tests s policy e).any Prod.fst
    | .device => (deviceReasons policy e).any Prod.fst
    | .locality => localityExceeded policy e
    | _ => false

/-- The candidate of the bucket has a reason. -/
def reasoned (e : Bucket) : Bool :=
  match e.1.dimension with
  | .sourceTargetPair => concentrated tests s e
  | .locality => flagged tests s policy e && (parseLocality e.1.value).isSome
  | _ => flagged tests s policy e

/-- The first of the pairs with the most observations. -/
def busiestPair : Option Bucket :=
  (s.aggregates.buckets.toList.filter fun e =>
    e.1.dimension = .sourceTargetPair ∧ e.2.observations > 0).argmax fun e => e.2.observations.toNat

/-- The buckets the pass has a finding for. -/
def keptBuckets : List Bucket :=
  (s.aggregates.buckets.toList.filter (flagged tests s policy)).take policy.perSubjectCap.toNat ++
    ((busiestPair s).filter fun e => e.1.value ≠ [] ∧ concentrated tests s e = true).toList

/-- The buckets whose candidate has a reason. -/
def reasonedBuckets : List Bucket :=
  s.aggregates.buckets.toList.filter (reasoned tests s policy)

/-- The subject kind of a dimension, up to the value. -/
def hotspotSubject : AggregateDimension → Text
  | .region => ascii "region|"
  | .device => ascii "device|"
  | .locality => ascii "locality|"
  | _ => ascii "source_target_pair|"

/-- The place of a bucket among the findings. -/
def hotspotKey (e : Bucket) : Text :=
  ascii "HOTSPOT|" ++ (hotspotSubject e.1.dimension ++ e.1.value)

/-- The order of the findings, on their buckets. -/
def hotspotLe (a b : Bucket) : Prop := Text.le (hotspotKey a) (hotspotKey b)

instance : DecidableRel hotspotLe := fun a b =>
  inferInstanceAs (Decidable (Text.le (hotspotKey a) (hotspotKey b)))

instance : Std.Total hotspotLe where
  total _ _ := Text.le_total _ _

instance : IsTrans Bucket hotspotLe where
  trans _ _ _ := Text.le_trans

/-! ## The pass -/

/-- The scan that has found `findings`, and `pair` the busiest. -/
def HotspotScan.of (findings : List Finding) (pair : Option Bucket) : HotspotScan where
  findings
  maxPair := pair.elim 0 fun e => e.2.observations
  maxPairName := pair.elim [] fun e => e.1.value
  maxPairReality := pair.elim .real fun e => e.2.reality

variable {tests} {s} {policy}

/-- The next pair counts where it has more observations than those before. -/
def busier (pair : Option Bucket) (e : Bucket) : Option Bucket :=
  if e.1.dimension = .sourceTargetPair ∧ e.2.observations > pair.elim 0 fun e => e.2.observations
  then some e else pair

theorem foldl_busier (l : List Bucket) : l.foldl busier none =
    (l.filter fun e => e.1.dimension = .sourceTargetPair ∧ e.2.observations > 0).argmax
      fun e => e.2.observations.toNat := by
  induction l using List.reverseRecOn with
  | nil => rfl
  | append_singleton l e ih =>
    rw [foldl_concat, ih, filter_append]
    by_cases hpair : e.1.dimension = .sourceTargetPair ∧ e.2.observations > 0
    · rw [filter_cons_of_pos (by simpa using hpair), filter_nil, argmax_concat]
      generalize List.argmax (fun e : Bucket => e.2.observations.toNat) _ = pair
      cases pair with
      | none => exact if_pos hpair
      | some c =>
        simp only [busier, hpair.1, true_and, Option.elim, gt_iff_lt, UInt64.lt_iff_toNat_lt]
    · rw [filter_cons_of_neg (by simpa using hpair), filter_nil, append_nil,
        busier, if_neg]
      rintro ⟨hdimension, hmore⟩
      exact hpair ⟨hdimension, UInt64.lt_of_le_of_lt (UInt64.zero_le) hmore⟩

/-- What a bucket adds to the findings. -/
def found (tests : HotspotTests) (s : State) (policy : HotspotPolicy) (e : Bucket) :
    Option Finding :=
  if flagged tests s policy e then some (hotspotCandidate tests s policy e) else none

/-- A subject is entered where there is a reason and room for it. -/
theorem push_of (findings : List Finding) (pair : Option Bucket) (flag : Bool) (f : Finding) :
    (of findings pair).push policy flag f =
      .of (if findings.length ≥ policy.perSubjectCap.toNat then findings
        else findings ++ (if flag then some f else none).toList) pair := by
  cases flag with
  | false => simp [push]
  | true =>
    by_cases hfull : findings.length ≥ policy.perSubjectCap.toNat
    · simp [push, of, hfull]
    · simp [push, of, hfull]

/-- Where no subject is entered, only the busiest pair may change. -/
theorem of_busier (findings : List Finding) (pair : Option Bucket) (e : Bucket) :
    of findings (busier pair e) =
      if e.1.dimension = .sourceTargetPair ∧
          e.2.observations > (of findings pair).maxPair then
        { of findings pair with
          maxPair := e.2.observations
          maxPairName := e.1.value
          maxPairReality := e.2.reality }
      else .of findings pair := by
  rw [busier, of, of]
  split <;> rfl

/-- One step adds what the bucket gives, where there is room, and keeps the busier pair. -/
theorem step_of (findings : List Finding) (pair : Option Bucket) (e : Bucket) :
    (of findings pair).step tests s policy e =
      .of (if findings.length ≥ policy.perSubjectCap.toNat then findings
        else findings ++ (found tests s policy e).toList) (busier pair e) := by
  obtain ⟨⟨dimension, value⟩, bucket⟩ := e
  by_cases hunknown : value = unknownBucket
  · -- without a name, only a pair counts
    have hnone : found tests s policy (⟨dimension, value⟩, bucket) = none := by
      simp [found, flagged, hunknown]
    rw [hnone, Option.toList_none, append_nil, ite_self, of_busier]
    simp only [step, hunknown, ne_eq, not_true, and_false, if_false]
  have hnamed : decide (value ≠ unknownBucket) = true := decide_eq_true hunknown
  cases dimension with
  | region =>
    simp only [found, flagged, hotspotCandidate, hnamed, Bool.true_and]
    simp [step, push_of, busier, hunknown]
  | device =>
    simp only [found, flagged, hotspotCandidate, hnamed, Bool.true_and]
    simp [step, push_of, busier, hunknown]
  | locality =>
    -- the finding of the pass is the candidate, since the threshold is exceeded
    have hfound : found tests s policy (⟨.locality, value⟩, bucket) =
        if localityExceeded policy (⟨.locality, value⟩, bucket) then
          some (localityHotspot s policy (⟨.locality, value⟩, bucket) true) else none := by
      simp only [found, flagged, hotspotCandidate, hnamed, Bool.true_and]
      split
      · rename_i hexceeded
        rw [hexceeded]
      · rfl
    rw [hfound]
    simp [step, push_of, busier, hunknown]
  | sourceTargetPair =>
    have hnone : found tests s policy (⟨.sourceTargetPair, value⟩, bucket) = none := by
      simp [found, flagged]
    rw [hnone, Option.toList_none, append_nil, ite_self, of_busier]
    simp [step]
  | _ => simp [step, found, flagged, busier]

/-- A whole pass: both parts of the scan go their own way. -/
theorem foldl_step_of (l : List Bucket) (findings : List Finding) (pair : Option Bucket) :
    l.foldl (step tests s policy) (.of findings pair) =
      .of (l.foldl (fun findings e =>
        if findings.length ≥ policy.perSubjectCap.toNat then findings
        else findings ++ (found tests s policy e).toList) findings) (l.foldl busier pair) := by
  induction l generalizing findings pair with
  | nil => rfl
  | cons e l ih => rw [foldl_cons, step_of, ih, foldl_cons, foldl_cons]

theorem filterMap_found (l : List Bucket) : l.filterMap (found tests s policy) =
    (l.filter (flagged tests s policy)).map (hotspotCandidate tests s policy) := by
  induction l with
  | nil => rfl
  | cons e l ih =>
    by_cases hflagged : flagged tests s policy e = true
    · rw [filterMap_cons_some (by rw [found, if_pos hflagged]),
        filter_cons_of_pos hflagged, map_cons, ih]
    · rw [filterMap_cons_none (by rw [found, if_neg hflagged]),
        filter_cons_of_neg hflagged, ih]

/-- The pass has the first flagged buckets, as many as there is room for, and the busiest pair. -/
theorem hotspotScan_eq : hotspotScan tests s policy =
    .of (((s.aggregates.buckets.toList.filter (flagged tests s policy)).take
      policy.perSubjectCap.toNat).map (hotspotCandidate tests s policy)) (busiestPair s) := by
  have hinit : ({} : HotspotScan) = .of [] none := rfl
  rw [hotspotScan, hinit, foldl_step_of, Ranking.foldl_push, filterMap_found, foldl_busier,
    map_take, busiestPair]

variable {e : Bucket}

theorem dimension_busiestPair (h : busiestPair s = some e) :
    e ∈ s.aggregates.buckets.toList ∧ e.1.dimension = .sourceTargetPair := by
  obtain ⟨hmem, hpair⟩ := mem_filter.1 (argmax_mem h)
  exact ⟨hmem, (of_decide_eq_true hpair).1⟩

/-- The last finding is the candidate of the busiest pair. -/
theorem concentrationHotspot_of (findings : List Finding) :
    concentrationHotspot tests s policy (.of findings (busiestPair s)) =
      ((busiestPair s).filter fun e => e.1.value ≠ [] ∧ concentrated tests s e = true).toList.map
        (hotspotCandidate tests s policy) := by
  cases hpair : busiestPair s with
  | none => simp [concentrationHotspot, of]
  | some e =>
    obtain ⟨-, hdimension⟩ := dimension_busiestPair hpair
    rw [Option.filter_some]
    by_cases hkept : e.1.value ≠ [] ∧ concentrated tests s e = true
    · have hconcentrated := of_decide_eq_true hkept.2
      rw [if_pos (decide_eq_true hkept), concentrationHotspot,
        if_pos ⟨hconcentrated.1, hkept.1, hconcentrated.2⟩]
      simp only [Option.toList_some, map_cons, map_nil, hotspotCandidate, hdimension,
        hkept.2]
      rfl
    · rw [if_neg (by simpa using hkept), concentrationHotspot, if_neg]
      · rfl
      · rintro ⟨htotal, hname, htest⟩
        exact hkept ⟨hname, decide_eq_true ⟨htotal, htest⟩⟩

theorem analyzeHotspotsWith_eq : analyzeHotspotsWith tests s policy =
    finalizeFindings ((keptBuckets tests s policy).map (hotspotCandidate tests s policy))
      policy.maxHotspots := by
  rw [analyzeHotspotsWith, hotspotScan_eq, concentrationHotspot_of, keptBuckets, map_append]
  rfl

/-! ## The candidates -/

section

variable {f : Finding}

variable {name : String} {value : F64} {unit : Text} {threshold : Option F64}

@[simp]
theorem orderingKey_addMetric :
    (f.addMetric name value unit threshold).orderingKey = f.orderingKey := by
  simp only [Finding.addMetric, Finding.orderingKey]

@[simp]
theorem reasons_addMetric : (f.addMetric name value unit threshold).reasons = f.reasons := by
  simp only [Finding.addMetric]

@[simp]
theorem orderingKey_addReasons (reasons : List (Bool × String)) :
    (f.addReasons reasons).orderingKey = f.orderingKey := by
  induction reasons generalizing f with
  | nil => rfl
  | cons reason reasons ih =>
    refine ih.trans ?_
    dsimp only
    split
    · simp only [Finding.addReason, Finding.orderingKey]
    · rfl

/-- There is a reason where there was one, or one of those added holds. -/
theorem reasons_addReasons_ne_nil (reasons : List (Bool × String)) :
    (f.addReasons reasons).reasons ≠ [] ↔ f.reasons ≠ [] ∨ reasons.any Prod.fst = true := by
  induction reasons generalizing f with
  | nil => simp [Finding.addReasons]
  | cons reason reasons ih =>
    refine ih.trans ?_
    obtain ⟨holds, text⟩ := reason
    cases holds with
    | false => simp
    | true =>
      have hadded : (f.addReason text).reasons ≠ [] := by
        simp only [Finding.addReason]
        split
        · rename_i hmem
          exact ne_nil_of_mem hmem
        · simp
      simp [hadded]

@[simp]
theorem orderingKey_sort : f.sort.orderingKey = f.orderingKey := by
  simp only [Finding.sort, Finding.orderingKey]

theorem reasons_sort_ne_nil : f.sort.reasons ≠ [] ↔ f.reasons ≠ [] := by
  have hperm := perm_insertionSort Text.le f.reasons
  simp only [Finding.sort, ne_eq, dedup_eq_nil]
  exact not_congr ⟨fun h => (h ▸ hperm).nil_eq.symm, fun h => by rw [h, insertionSort_nil]⟩

theorem addRegionEvidence_keeps (region : MemoryRegionId) :
    (addRegionEvidence s f region).orderingKey = f.orderingKey ∧
      (addRegionEvidence s f region).reasons = f.reasons := by
  rw [addRegionEvidence]
  cases s.regionEvidence[region]? with
  | none => exact ⟨rfl, rfl⟩
  | some evidence =>
    obtain ⟨refs, heq⟩ := foldl_pushEvidence (evidence.samples.map OwnershipSample.evidenceRef)
      (f.addEvicted evidence.evicted)
    rw [foldl_map] at heq
    simp only [heq]
    exact ⟨rfl, rfl⟩

theorem addRegionMetrics_keeps (e : Bucket) :
    (addRegionMetrics tests s policy f e).orderingKey = f.orderingKey ∧
      (addRegionMetrics tests s policy f e).reasons = f.reasons := by
  rw [addRegionMetrics]
  cases s.regions[e.1.value]? <;> split <;> simp

theorem orderingKey_regionHotspot (e : Bucket) : (regionHotspot tests s policy e).orderingKey =
    ascii "HOTSPOT|" ++ (ascii "region|" ++ e.1.value) := by
  rw [regionHotspot, orderingKey_sort, (addRegionEvidence_keeps _).1]
  refine (orderingKey_addReasons _).trans ((addRegionMetrics_keeps e).1.trans ?_)
  rfl

theorem reasons_regionHotspot (e : Bucket) : (regionHotspot tests s policy e).reasons ≠ [] ↔
    (regionReasons tests s policy e).any Prod.fst = true := by
  rw [regionHotspot, reasons_sort_ne_nil, (addRegionEvidence_keeps _).2]
  refine (reasons_addReasons_ne_nil _).trans ?_
  rw [(addRegionMetrics_keeps e).2]
  exact or_iff_right fun h => h rfl

theorem orderingKey_deviceHotspot (e : Bucket) : (deviceHotspot s policy e).orderingKey =
    ascii "HOTSPOT|" ++ (ascii "device|" ++ e.1.value) := by
  rw [deviceHotspot, orderingKey_sort]
  refine (orderingKey_addReasons _).trans ?_
  simp only [orderingKey_addMetric]
  rfl

theorem reasons_deviceHotspot (e : Bucket) : (deviceHotspot s policy e).reasons ≠ [] ↔
    (deviceReasons policy e).any Prod.fst = true := by
  rw [deviceHotspot, reasons_sort_ne_nil]
  refine (reasons_addReasons_ne_nil _).trans ?_
  simp only [reasons_addMetric]
  exact or_iff_right fun h => h rfl

theorem orderingKey_localityHotspot (e : Bucket) (exceeded : Bool) :
    (localityHotspot s policy e exceeded).orderingKey =
      ascii "HOTSPOT|" ++ (ascii "locality|" ++ e.1.value) := by
  rw [localityHotspot, orderingKey_sort]
  cases parseLocality e.1.value with
  | none => rfl
  | some locality =>
    refine (orderingKey_addReasons _).trans ?_
    simp only [orderingKey_addMetric]
    rfl

/-- A locality has a reason only where its name is one of the table. -/
theorem reasons_localityHotspot (e : Bucket) (exceeded : Bool) :
    (localityHotspot s policy e exceeded).reasons ≠ [] ↔
      exceeded = true ∧ (parseLocality e.1.value).isSome = true := by
  rw [localityHotspot, reasons_sort_ne_nil]
  cases parseLocality e.1.value with
  | none =>
    simp only [reasons_addMetric]
    exact ⟨fun h => absurd rfl h, fun h => absurd h.2 (by decide)⟩
  | some locality =>
    refine (reasons_addReasons_ne_nil _).trans ?_
    simp only [reasons_addMetric]
    refine (or_iff_right fun h => h rfl).trans ?_
    simp

theorem orderingKey_pairHotspot (name : Text) (observations : UInt64) (reality : Reality)
    (concentrated : Bool) :
    (pairHotspot s policy name observations reality concentrated).orderingKey =
      ascii "HOTSPOT|" ++ (ascii "source_target_pair|" ++ name) := by
  rw [pairHotspot, orderingKey_sort]
  simp only [orderingKey_addMetric, orderingKey_addReasons]
  rfl

theorem reasons_pairHotspot (name : Text) (observations : UInt64) (reality : Reality)
    (concentrated : Bool) :
    (pairHotspot s policy name observations reality concentrated).reasons ≠ [] ↔
      concentrated = true := by
  rw [pairHotspot, reasons_sort_ne_nil]
  simp only [reasons_addMetric]
  refine (reasons_addReasons_ne_nil _).trans ((or_iff_right fun h => h rfl).trans ?_)
  simp

theorem orderingKey_hotspotCandidate (e : Bucket) :
    (hotspotCandidate tests s policy e).orderingKey = hotspotKey e := by
  obtain ⟨⟨dimension, value⟩, bucket⟩ := e
  cases dimension with
  | region => exact orderingKey_regionHotspot _
  | device => exact orderingKey_deviceHotspot _
  | locality => exact orderingKey_localityHotspot _ _
  | _ => exact orderingKey_pairHotspot _ _ _ _

/-- The buckets whose candidate has a reason. -/
theorem hasCandidate_and_reasons (e : Bucket) :
    (decide ((hotspotCandidate tests s policy e).reasons ≠ []) && hasCandidate e) =
      reasoned tests s policy e := by
  obtain ⟨⟨dimension, value⟩, bucket⟩ := e
  rw [Bool.eq_iff_iff, Bool.and_eq_true, decide_eq_true_iff]
  cases dimension with
  | region =>
    simp only [hotspotCandidate, reasons_regionHotspot, hasCandidate, reasoned, flagged,
      Bool.and_eq_true, and_comm]
  | device =>
    simp only [hotspotCandidate, reasons_deviceHotspot, hasCandidate, reasoned, flagged,
      Bool.and_eq_true, and_comm]
  | locality =>
    simp only [hotspotCandidate, reasons_localityHotspot, hasCandidate, reasoned, flagged,
      Bool.and_eq_true, and_comm, and_left_comm]
  | sourceTargetPair =>
    simp only [hotspotCandidate, reasons_pairHotspot, hasCandidate, reasoned, and_true]
  | _ => simp [hasCandidate, reasoned, flagged]

theorem naiveHotspotsWith_eq : naiveHotspotsWith tests s policy =
    finalizeFindings ((reasonedBuckets tests s policy).map (hotspotCandidate tests s policy))
      policy.maxHotspots := by
  rw [naiveHotspotsWith, filter_map, filter_filter, reasonedBuckets]
  congr 3
  exact funext hasCandidate_and_reasons

end

/-! ## Comparison -/

/-- The dimensions of subjects. -/
def isSubject (dimension : AggregateDimension) : Bool :=
  dimension ∈ [.region, .device, .locality, .sourceTargetPair]

theorem isSubject_of_hasCandidate (h : hasCandidate e = true) : isSubject e.1.dimension = true := by
  obtain ⟨⟨dimension, value⟩, bucket⟩ := e
  cases dimension <;> first | rfl | cases h

/-- The kinds of subjects start with different letters. -/
theorem head?_hotspotSubject_inj {d d' : AggregateDimension} (hd : isSubject d = true)
    (hd' : isSubject d' = true) (h : (hotspotSubject d).head? = (hotspotSubject d').head?) :
    d = d' := by
  simp only [isSubject, decide_eq_true_eq, mem_cons, not_mem_nil, or_false] at hd hd'
  rcases hd with rfl | rfl | rfl | rfl <;> rcases hd' with rfl | rfl | rfl | rfl <;>
    first | rfl | exact absurd h (by decide)

theorem hotspotSubject_ne_nil (d : AggregateDimension) : hotspotSubject d ≠ [] := by
  cases d <;> decide

/-- The places of two candidates differ. -/
theorem hotspotKey_inj {a b : Bucket} (ha : hasCandidate a = true) (hb : hasCandidate b = true)
    (h : hotspotKey a = hotspotKey b) : a.1 = b.1 := by
  obtain ⟨⟨dimension, value⟩, bucket⟩ := a
  obtain ⟨⟨dimension', value'⟩, bucket'⟩ := b
  have htail : hotspotSubject dimension ++ value = hotspotSubject dimension' ++ value' :=
    append_cancel_left h
  have hletter := congrArg head? htail
  rw [head?_append_of_ne_nil _ (hotspotSubject_ne_nil _),
    head?_append_of_ne_nil _ (hotspotSubject_ne_nil _)] at hletter
  obtain rfl : dimension = dimension' :=
    head?_hotspotSubject_inj (isSubject_of_hasCandidate ha) (isSubject_of_hasCandidate hb) hletter
  obtain rfl := append_cancel_left htail
  rfl

theorem hasCandidate_of_flagged (h : flagged tests s policy e = true) : hasCandidate e = true := by
  obtain ⟨⟨dimension, value⟩, bucket⟩ := e
  obtain ⟨hnamed, hflagged⟩ := Bool.and_eq_true_iff.1 h
  cases dimension <;> first | exact hnamed | cases hflagged

theorem hasCandidate_of_reasoned (h : reasoned tests s policy e = true) :
    hasCandidate e = true := by
  rw [← hasCandidate_and_reasons, Bool.and_eq_true] at h
  exact h.2

theorem Text.le_antisymm {a b : Text} (hab : Text.le a b) (hba : Text.le b a) : a = b :=
  Std.LawfulEqOrd.eq_of_compare (Std.OrientedCmp.isLE_antisymm hab hba)

/-- The first of some buckets with candidates are told apart by their findings. -/
theorem apart_buckets :
    Ranking.Apart hotspotLe (s.aggregates.buckets.toList.filter hasCandidate) := by
  intro a ha b hb hab hba
  obtain ⟨ha, hcandidate⟩ := mem_filter.1 ha
  obtain ⟨hb, hcandidate'⟩ := mem_filter.1 hb
  have hkey := hotspotKey_inj hcandidate hcandidate' (Text.le_antisymm hab hba)
  rw [mem_toList_iff_getElem?_eq_some] at ha hb
  rw [hkey, hb] at ha
  exact Prod.ext hkey (Option.some.inj ha).symm

theorem nodup_buckets : s.aggregates.buckets.toList.Nodup := by
  refine List.Nodup.of_map Prod.fst ?_
  rw [map_fst_toList_eq_keys]
  exact nodup_keys

theorem reasonedBuckets_subset :
    reasonedBuckets tests s policy ⊆ s.aggregates.buckets.toList.filter hasCandidate := by
  intro e he
  obtain ⟨he, hreasoned⟩ := mem_filter.1 he
  exact mem_filter.2 ⟨he, hasCandidate_of_reasoned hreasoned⟩

theorem mem_busiest
    (he : e ∈ ((busiestPair s).filter fun e => e.1.value ≠ [] ∧ concentrated tests s e = true).toList) :
    e ∈ s.aggregates.buckets.toList ∧ e.1.dimension = .sourceTargetPair := by
  rw [Option.mem_toList, Option.filter_eq_some_iff] at he
  exact dimension_busiestPair he.1

theorem keptBuckets_subset :
    keptBuckets tests s policy ⊆ s.aggregates.buckets.toList.filter hasCandidate := by
  intro e he
  rcases mem_append.1 he with he | he
  · obtain ⟨he, hflagged⟩ := mem_filter.1 (mem_of_mem_take he)
    exact mem_filter.2 ⟨he, hasCandidate_of_flagged hflagged⟩
  · obtain ⟨he, hdimension⟩ := mem_busiest he
    exact mem_filter.2 ⟨he, by simp only [hasCandidate, hdimension]⟩

theorem nodup_keptBuckets : (keptBuckets tests s policy).Nodup := by
  refine nodup_append'.2 ⟨?_, ?_, fun e he he' => ?_⟩
  · exact (nodup_buckets.filter _).sublist (take_sublist _ _)
  · cases (busiestPair s).filter _ <;> simp
  · -- a pair is never flagged
    obtain ⟨-, hflagged⟩ := mem_filter.1 (mem_of_mem_take he)
    simp [flagged, (mem_busiest he').2] at hflagged

/-- The findings of some buckets, in order, are those of the first of them. -/
theorem finalizeFindings_map (l : List Bucket) (maxFindings : UInt64) :
    finalizeFindings (l.map (hotspotCandidate tests s policy)) maxFindings =
      (Ranking.first hotspotLe maxFindings.toNat l).map (hotspotCandidate tests s policy) := by
  rw [finalizeFindings, Ranking.first, map_take,
    map_insertionSort hotspotLe fun a b : Finding => Text.le a.orderingKey b.orderingKey]
  intro a _ b _
  rw [orderingKey_hotspotCandidate, orderingKey_hotspotCandidate]
  rfl

/-- Two ways to gather candidates return the same exactly where the first of them are the same. -/
theorem finalizeFindings_eq_iff {l l' : List Bucket}
    (hl : l ⊆ s.aggregates.buckets.toList.filter hasCandidate)
    (hl' : l' ⊆ s.aggregates.buckets.toList.filter hasCandidate) (maxFindings : UInt64) :
    finalizeFindings (l.map (hotspotCandidate tests s policy)) maxFindings =
        finalizeFindings (l'.map (hotspotCandidate tests s policy)) maxFindings ↔
      Ranking.first hotspotLe maxFindings.toNat l =
        Ranking.first hotspotLe maxFindings.toNat l' := by
  rw [finalizeFindings_map, finalizeFindings_map]
  refine ⟨fun h => ?_, fun h => by rw [h]⟩
  have hmem {l : List Bucket} (hl : l ⊆ s.aggregates.buckets.toList.filter hasCandidate)
      {e : Bucket} (he : e ∈ Ranking.first hotspotLe maxFindings.toNat l) :
      e ∈ s.aggregates.buckets.toList.filter hasCandidate :=
    hl ((perm_insertionSort _ _).mem_iff.1 (mem_of_mem_take he))
  -- a finding tells its bucket by its place
  have hinj (a b : Bucket) (ha : a ∈ Ranking.first hotspotLe maxFindings.toNat l)
      (hb : b ∈ Ranking.first hotspotLe maxFindings.toNat l')
      (hab : hotspotCandidate tests s policy a = hotspotCandidate tests s policy b) : a = b := by
    have hkey := congrArg Finding.orderingKey hab
    rw [orderingKey_hotspotCandidate, orderingKey_hotspotCandidate] at hkey
    have hrefl : hotspotLe b b := (Std.Total.total (r := hotspotLe) b b).elim id id
    refine apart_buckets a (hmem hl ha) b (hmem hl' hb) ?_ ?_
    · rw [hotspotLe, hkey]; exact hrefl
    · rw [hotspotLe, hkey]; exact hrefl
  exact Ranking.map_inj_on hinj h

/-- The pass returns what the simpler analysis does exactly where each bucket that only one of
    them has a finding for stands too late there to be among the first. -/
theorem analyzeHotspotsWith_eq_naive_iff (tests : HotspotTests) (s : State)
    (policy : HotspotPolicy) :
    analyzeHotspotsWith tests s policy = naiveHotspotsWith tests s policy ↔
      (∀ e ∈ keptBuckets tests s policy, e ∉ reasonedBuckets tests s policy →
        policy.maxHotspots.toNat ≤ Ranking.before hotspotLe e (keptBuckets tests s policy)) ∧
      ∀ e ∈ reasonedBuckets tests s policy, e ∉ keptBuckets tests s policy →
        policy.maxHotspots.toNat ≤ Ranking.before hotspotLe e (reasonedBuckets tests s policy) := by
  rw [analyzeHotspotsWith_eq, naiveHotspotsWith_eq,
    finalizeFindings_eq_iff keptBuckets_subset reasonedBuckets_subset]
  exact Ranking.first_eq_iff nodup_keptBuckets (nodup_buckets.filter _)
    (apart_buckets.subset keptBuckets_subset) (apart_buckets.subset reasonedBuckets_subset)

deriving instance DecidableEq for AggregateValue

/-- A state with the given buckets. -/
def bucketedState (buckets : List Bucket) : State :=
  { State.initial {} 0 with aggregates := { buckets := ofList buckets } }

/-- A region that changed owner often. -/
def contendedRegion (name : String) : Bucket :=
  (⟨.region, ascii name⟩, { observations := 16, ownershipTransfers := 16 })

/-- Much traffic with another node. -/
def remoteTraffic : Bucket :=
  (⟨.locality, ascii "REMOTE_NUMA"⟩, { observations := 1, bytes := 1048576 })

/-- Within the cap, both return the locality. -/
theorem analyzeHotspotsWith_eq_naive_remoteTraffic :
    (analyzeHotspots (bucketedState [contendedRegion "a", remoteTraffic]) {}).map
        Finding.subject = [ascii "REMOTE_NUMA", ascii "a"] ∧
      analyzeHotspots (bucketedState [contendedRegion "a", remoteTraffic]) {} =
        naiveHotspotsWith
          (HotspotPolicy.tests {} (bucketedState [contendedRegion "a", remoteTraffic]))
          (bucketedState [contendedRegion "a", remoteTraffic]) {} :=
  ⟨by decide +kernel,
    (analyzeHotspotsWith_eq_naive_iff _ _ _).2 ⟨by decide +kernel, by decide +kernel⟩⟩

/-- Four regions fill the cap, and the locality that comes before them in order is left out. -/
theorem cappedLocality_missed :
    (analyzeHotspots (bucketedState (remoteTraffic :: ["a", "b", "c", "d"].map contendedRegion))
        { maxHotspots := 1 }).map Finding.subject = [ascii "a"] ∧
      (naiveHotspotsWith
        (HotspotPolicy.tests { maxHotspots := 1 }
          (bucketedState (remoteTraffic :: ["a", "b", "c", "d"].map contendedRegion)))
        (bucketedState (remoteTraffic :: ["a", "b", "c", "d"].map contendedRegion))
        { maxHotspots := 1 }).map Finding.subject = [ascii "REMOTE_NUMA"] := by
  constructor <;> decide +kernel

end CoherenceObservatory
