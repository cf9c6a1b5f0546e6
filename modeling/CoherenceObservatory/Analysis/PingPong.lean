import CoherenceObservatory.Analysis.Finding
import CoherenceObservatory.Lib.Stretch

/-!
# Ping-pong

Ownership of a region that goes back and forth between two resources. The analysis takes the
ownership samples of a region in the order of time, keeps the longest stretch of them whose
neighbours go between the same two resources without a long gap, and cuts the stretch to the
time before its end that the policy allows.
-/

namespace CoherenceObservatory

open Std (ExtTreeMap)
open Std.ExtTreeMap

/-- The order of the samples in time: the comparison the code sorts with. -/
def OwnershipSample.earlier (a b : OwnershipSample) : Bool :=
  if a.timestampNs ≠ b.timestampNs then a.timestampNs < b.timestampNs else a.sequence < b.sequence

/-- Two samples go between the same resources, in opposite directions or in the same. -/
def OwnershipSample.alternates (previous current : OwnershipSample) : Bool :=
  let forward := previous.source.id = current.target.id ∧ previous.target.id = current.source.id
  let reverse := previous.source.id = current.source.id ∧ previous.target.id = current.target.id
  forward ∨ reverse

/-- One hop of the rendered sequence. -/
def OwnershipSample.directionText (sample : OwnershipSample) : Text :=
  sample.source.id ++ [62] ++ sample.target.id

namespace PingPongPolicy

variable (policy : PingPongPolicy)

/-- The samples the analysis looks at. -/
def qualifies (sample : OwnershipSample) : Bool :=
  sample.type.isOwnershipEvent && !(sample.precision.rank < policy.minPrecision.rank) &&
    !(sample.source.id.isEmpty || sample.target.id.isEmpty)

/-- The qualifying samples of a region in the order of time, by a stable sort. -/
def ordered (evidence : RegionEvidence) : List OwnershipSample :=
  (evidence.samples.filter policy.qualifies).insertionSort fun a b => b.earlier a = false

/-- Two neighbours belong to one stretch. -/
def linked (previous current : OwnershipSample) : Bool :=
  previous.alternates current &&
    !(current.timestampNs - previous.timestampNs > policy.maxGapNs : Bool)

/-- The stretch without what lies too long before its end. -/
def trim (run : List OwnershipSample) : List OwnershipSample :=
  let windowEnd := (run.getLast?.map (·.timestampNs)).getD 0
  run.dropWhile fun sample => windowEnd - sample.timestampNs > policy.windowNs

end PingPongPolicy

/-- The endpoints of a stretch, each once. -/
def participantsOf (window : List OwnershipSample) : List Text :=
  (window.flatMap fun sample => [sample.source.id, sample.target.id]).dedup

/-- The samples the finding for a region is about, where there is a finding. -/
def pingPongWindow (policy : PingPongPolicy) (evidence : RegionEvidence) :
    Option (List OwnershipSample) :=
  let samples := policy.ordered evidence
  let run := Stretch.best policy.linked samples
  let window := policy.trim run
  if samples.length < 2 then none
  else if run.length < policy.minAlternations.toNat + 1 then none
  else if window.length < policy.minAlternations.toNat + 1 then none
  else if (participantsOf window).length < policy.minParticipants.toNat then none
  else some window

/-- What the loop over the window has gathered. -/
structure PingPongSummary where
  finding : Finding
  weakest : Precision := .ExactEvent
  reality : Reality
  transfers : UInt64 := 0
  bytesEstimate : UInt64 := 0

/-- What is missing once the sequence became too long. -/
def truncatedSequenceNote : Text :=
  ascii "direction sequence truncated at 160 characters; the alternation count and " ++
    ascii "evidence references carry the complete pattern"

namespace PingPongSummary

/-- A sample is noted; its direction stands behind those before it. -/
def note (sum : PingPongSummary) (first : Bool) (sample : OwnershipSample) : PingPongSummary :=
  let f := ((sum.finding.addParticipant sample.source.id).addParticipant sample.target.id)
    |>.pushEvidence sample.evidenceRef
  { sum with
    weakest := sum.weakest.weakest sample.precision
    reality := sum.reality.combine sample.provenance.realityOf
    finding :=
      { f with
        directionSequence :=
          f.directionSequence ++ (if first then [] else [32]) ++ sample.directionText } }

/-- A noted sample is counted. -/
def count (sum : PingPongSummary) : PingPongSummary :=
  { sum with transfers := sum.transfers + 1, bytesEstimate := sum.bytesEstimate + 64 }

/-- The loop over the window; it ends where the rendered sequence becomes too long. -/
def summarize (sum : PingPongSummary) (first : Bool) : List OwnershipSample → PingPongSummary
  | [] => sum
  | sample :: rest =>
    let sum := sum.note first sample
    if sum.finding.directionSequence.length > 160 then
      { sum with
        finding :=
          { sum.finding with
            directionSequence := truncate sum.finding.directionSequence 160
            missingEvidence := sum.finding.missingEvidence ++ [truncatedSequenceNote] } }
    else summarize sum.count false rest

end PingPongSummary

/-- What a finding says before its window is looked at. -/
def pingPongStart (s : State) (region : MemoryRegionId) (first : OwnershipSample)
    (window : List OwnershipSample) : Finding :=
  { kind := .pingPong
    subjectKind := ascii "region"
    subject := region
    bindings := regionBindings s region
    missingEvidence := if region ∈ s.regions then [] else [ascii "region.registration"]
    alternations := window.length - 1
    granularity := first.granularity }

/-- The finding about a window that starts with `first`. -/
def pingPongReport (s : State) (policy : PingPongPolicy) (region : MemoryRegionId)
    (evidence : RegionEvidence) (first : OwnershipSample) (window : List OwnershipSample) :
    Finding :=
  let sum := PingPongSummary.summarize
    { finding := pingPongStart s region first window, reality := first.provenance.realityOf }
    true window
  let f :=
    { sum.finding with
      precision := sum.weakest
      provenance := first.provenance
      reality := sum.reality }
  let f := f.addReason "alternating_ownership"
    |>.addMetric "alternations" (.ofUInt64 (.ofNat f.alternations)) (ascii "alternations")
      (some (.ofUInt64 policy.minAlternations.toUInt64))
    |>.addMetric "ownership_transfers" (.ofUInt64 sum.transfers) (ascii "transfers")
    |>.addMetric "participants" (.ofUInt64 (.ofNat (participantsOf window).length))
      (ascii "resources") (some (.ofUInt64 policy.minParticipants.toUInt64))
  let f :=
    { f with
      cost := estimateCost s.options.costModel
        { ownershipTransfers := sum.transfers
          bytes := sum.bytesEstimate
          precision := sum.weakest } }
  (f.addEvicted evidence.evicted).sort

/-- The finding for a region. -/
def pingPongFinding (s : State) (policy : PingPongPolicy) (region : MemoryRegionId)
    (evidence : RegionEvidence) : Option Finding :=
  match pingPongWindow policy evidence with
  | none => none
  | some [] => none
  | some (first :: rest) => some (pingPongReport s policy region evidence first (first :: rest))

/-- The findings before the final order. -/
def pingPongFindings (s : State) (policy : PingPongPolicy) : List Finding :=
  s.regionEvidence.toList.filterMap fun entry => pingPongFinding s policy entry.1 entry.2

/-- `analyze_ping_pong`. -/
def analyzePingPong (s : State) (policy : PingPongPolicy) : List Finding :=
  finalizeFindings (pingPongFindings s policy) policy.maxFindings

/-! ## The order of time -/

/-- No sample is dated before the epoch, so that the distance of two samples in time is one
the code can compute. -/
def RegionEvidence.Dated (evidence : RegionEvidence) : Prop :=
  ∀ sample ∈ evidence.samples, 0 ≤ sample.timestampNs.toInt

theorem toInt_sub_of_nonneg {a b : Int64} (ha : 0 ≤ a.toInt) (hb : 0 ≤ b.toInt) :
    (a - b).toInt = a.toInt - b.toInt := by
  have := a.toInt_lt
  have := b.toInt_lt
  rw [Int64.toInt_sub]
  exact Int.bmod_eq_of_le (by omega) (by omega)

variable {a b : OwnershipSample} {run samples : List OwnershipSample} {id : Text}
  {region : MemoryRegionId} {f : Finding}

theorem earlier_eq_false_iff : b.earlier a = false ↔
    a.timestampNs.toInt < b.timestampNs.toInt ∨
      a.timestampNs.toInt = b.timestampNs.toInt ∧ a.sequence.toNat ≤ b.sequence.toNat := by
  unfold OwnershipSample.earlier
  by_cases h : b.timestampNs = a.timestampNs
  · simp only [h, ne_eq, not_true_eq_false, if_false, decide_eq_false_iff_not,
      UInt64.lt_iff_toNat_lt, Int.lt_irrefl, false_or, true_and, Nat.not_lt]
  · have hne : b.timestampNs.toInt ≠ a.timestampNs.toInt := fun h' => h (Int64.toInt_inj.1 h')
    simp only [h, ne_eq, not_false_eq_true, if_true, decide_eq_false_iff_not,
      Int64.lt_iff_toInt_lt]
    omega

instance : Std.Total fun a b : OwnershipSample => b.earlier a = false where
  total a b := by
    rw [earlier_eq_false_iff, earlier_eq_false_iff]
    omega

instance : IsTrans OwnershipSample fun a b => b.earlier a = false where
  trans a b c := by
    rw [earlier_eq_false_iff, earlier_eq_false_iff, earlier_eq_false_iff]
    omega

namespace PingPongPolicy

variable {policy : PingPongPolicy} {evidence : RegionEvidence}

theorem mem_ordered {sample : OwnershipSample} :
    sample ∈ policy.ordered evidence ↔ sample ∈ evidence.samples ∧ policy.qualifies sample := by
  rw [ordered, List.mem_insertionSort, List.mem_filter]

theorem pairwise_ordered : (policy.ordered evidence).Pairwise fun a b =>
    a.timestampNs.toInt ≤ b.timestampNs.toInt := by
  refine (List.pairwise_insertionSort _ _).imp fun {a b} h => ?_
  have := earlier_eq_false_iff.1 h
  omega

/-- Two neighbours are linked, with their distance in time as a number. -/
theorem linked_iff (ha : 0 ≤ a.timestampNs.toInt) (hb : 0 ≤ b.timestampNs.toInt) :
    policy.linked a b = true ↔
      a.alternates b = true ∧
        b.timestampNs.toInt - a.timestampNs.toInt ≤ policy.maxGapNs.toInt := by
  rw [linked, Bool.and_eq_true, Bool.not_eq_true', decide_eq_false_iff_not, gt_iff_lt,
    Int64.lt_iff_toInt_lt, toInt_sub_of_nonneg hb ha, not_lt]

variable (policy) in
/-- The samples of a stretch from which every other one is near enough. -/
def recent (run : List OwnershipSample) : List OwnershipSample :=
  run.filter fun a => ∀ b ∈ run, b.timestampNs.toInt - a.timestampNs.toInt ≤ policy.windowNs.toInt

theorem trim_eq_recent (hdated : ∀ a ∈ run, 0 ≤ a.timestampNs.toInt)
    (hsorted : run.Pairwise fun a b => a.timestampNs.toInt ≤ b.timestampNs.toInt) :
    policy.trim run = policy.recent run := by
  rcases List.eq_nil_or_concat run with rfl | ⟨l, last, rfl⟩
  · rfl
  · rw [List.concat_eq_append] at *
    have hlast : last ∈ l ++ [last] := List.mem_concat_self
    -- the last sample is the latest one
    have hle (a : OwnershipSample) (ha : a ∈ l ++ [last]) :
        a.timestampNs.toInt ≤ last.timestampNs.toInt := by
      rcases List.mem_append.1 ha with ha | ha
      · exact (List.pairwise_append.1 hsorted).2.2 a ha last (List.mem_singleton_self last)
      · rw [List.mem_singleton.1 ha]
    have hfar (a : OwnershipSample) (ha : a ∈ l ++ [last]) :
        decide (last.timestampNs - a.timestampNs > policy.windowNs) =
          decide (policy.windowNs.toInt < last.timestampNs.toInt - a.timestampNs.toInt) := by
      rw [decide_eq_decide, gt_iff_lt, Int64.lt_iff_toInt_lt,
        toInt_sub_of_nonneg (hdated last hlast) (hdated a ha)]
    rw [trim, List.getLast?_concat, Option.map_some, Option.getD_some, Stretch.dropWhile_eq_filter]
    · refine List.filter_congr fun a ha => ?_
      rw [hfar a ha, Bool.eq_iff_iff, Bool.not_eq_true', decide_eq_false_iff_not, not_lt,
        decide_eq_true_iff]
      constructor
      · intro h b hb
        have := hle b hb
        omega
      · exact fun h => h last hlast
    · refine hsorted.imp_of_mem fun {a b} ha hb hab => ?_
      rw [hfar a ha, hfar b hb, decide_eq_true_iff, decide_eq_true_iff]
      omega

end PingPongPolicy

/-! ## The window of a finding -/

variable {policy : PingPongPolicy} {evidence : RegionEvidence} {window : List OwnershipSample}

theorem pingPongWindow_eq_some : pingPongWindow policy evidence = some window ↔
    policy.trim (Stretch.best policy.linked (policy.ordered evidence)) = window ∧
      2 ≤ (policy.ordered evidence).length ∧
      policy.minAlternations.toNat + 1 ≤ window.length ∧
      policy.minParticipants.toNat ≤ (participantsOf window).length := by
  -- the cut stretch is no longer than the stretch
  have hle := (List.dropWhile_suffix (l := Stretch.best policy.linked (policy.ordered evidence))
    fun sample => ((Stretch.best policy.linked (policy.ordered evidence)).getLast?.map
      (·.timestampNs)).getD 0 - sample.timestampNs > policy.windowNs).length_le
  change (policy.trim _).length ≤ _ at hle
  simp only [pingPongWindow]
  constructor
  · intro h
    split_ifs at h with h₁ h₂ h₃ h₄
    obtain rfl := Option.some.inj h
    exact ⟨rfl, by omega, by omega, by omega⟩
  · rintro ⟨rfl, htwo, hlength, hparticipants⟩
    rw [if_neg (by omega), if_neg (by omega), if_neg (by omega), if_neg (by omega)]

theorem window_within (h : pingPongWindow policy evidence = some window) :
    window <:+: policy.ordered evidence := by
  obtain ⟨rfl, -⟩ := pingPongWindow_eq_some.1 h
  obtain ⟨pre, post, heq, -⟩ := Stretch.exists_around_best policy.linked (policy.ordered evidence)
  exact (List.dropWhile_suffix _).isInfix.trans ⟨pre, post, heq.symm⟩

theorem isChain_window (h : pingPongWindow policy evidence = some window) :
    window.IsChain fun a b => policy.linked a b = true := by
  obtain ⟨rfl, -⟩ := pingPongWindow_eq_some.1 h
  exact (Stretch.firstLongest_best policy.linked _).chain.suffix (List.dropWhile_suffix _)

theorem alternates_iff : a.alternates b = true ↔
    (a.source.id = b.target.id ∧ a.target.id = b.source.id) ∨
      (a.source.id = b.source.id ∧ a.target.id = b.target.id) := by
  rw [OwnershipSample.alternates, decide_eq_true_iff]

theorem alternates_of_linked (h : policy.linked a b = true) : a.alternates b = true :=
  (Bool.and_eq_true_iff.1 h).1

instance : Trans (fun a b : OwnershipSample => a.alternates b = true)
    (fun a b => a.alternates b = true) (fun a b => a.alternates b = true) where
  trans {a b c} := by
    simp only [alternates_iff]
    grind

instance : Std.Symm fun a b : OwnershipSample => a.alternates b = true where
  symm a b := by
    simp only [alternates_iff]
    grind

/-- The samples of a linked stretch all go between the same resources. -/
theorem alternates_of_mem (h : run.IsChain fun a b => a.alternates b = true) (ha : a ∈ run)
    (hb : b ∈ run) : a.alternates b = true :=
  h.pairwise.forall_of_forall (fun _ _ => alternates_iff.2 (.inr ⟨rfl, rfl⟩)) ha hb

theorem mem_participantsOf :
    id ∈ participantsOf run ↔ ∃ a ∈ run, id = a.source.id ∨ id = a.target.id := by
  simp only [participantsOf, List.mem_dedup, List.mem_flatMap, List.mem_cons, List.not_mem_nil,
    or_false]

/-- A linked stretch has the participants of any of its samples. -/
theorem mem_participantsOf_iff (h : run.IsChain fun a b => a.alternates b = true) (ha : a ∈ run) :
    id ∈ participantsOf run ↔ id = a.source.id ∨ id = a.target.id := by
  rw [mem_participantsOf]
  constructor
  · rintro ⟨b, hb, hid⟩
    have := alternates_iff.1 (alternates_of_mem h ha hb)
    grind
  · exact fun hid => ⟨a, ha, hid⟩

theorem length_participantsOf (h : run.IsChain fun a b => a.alternates b = true) (ha : a ∈ run) :
    (participantsOf run).length = if a.source.id = a.target.id then 1 else 2 := by
  have hnodup : (participantsOf run).Nodup := List.nodup_dedup _
  have hperm : (participantsOf run).Perm [a.source.id, a.target.id].dedup := by
    refine (List.perm_ext_iff_of_nodup hnodup (List.nodup_dedup _)).2 fun id => ?_
    rw [mem_participantsOf_iff h ha, List.mem_dedup, List.mem_pair]
  rw [hperm.length_eq]
  split
  case isTrue heq => rw [heq, List.dedup_cons_of_mem (List.mem_singleton_self _)]; rfl
  case isFalse hne =>
    rw [List.dedup_cons_of_notMem (fun h => hne (List.mem_singleton.1 h))]
    rfl

/-! ## The findings -/

variable {s : State}

/-- The loop over the window leaves the subject of the finding as it was. -/
theorem summarize_keeps (sum : PingPongSummary) (first : Bool) (l : List OwnershipSample) :
    (sum.summarize first l).finding.subject = sum.finding.subject ∧
      (sum.summarize first l).finding.bindings = sum.finding.bindings ∧
      (sum.summarize first l).finding.alternations = sum.finding.alternations := by
  induction l generalizing sum first with
  | nil => exact ⟨rfl, rfl, rfl⟩
  | cons sample rest ih =>
    rw [PingPongSummary.summarize]
    dsimp only
    split
    · simp only [PingPongSummary.note, Finding.pushEvidence, Finding.addParticipant, and_self]
    · obtain ⟨hsubject, hbindings, halternations⟩ := ih (sum.note first sample).count false
      rw [hsubject, hbindings, halternations]
      simp only [PingPongSummary.count, PingPongSummary.note, Finding.pushEvidence,
        Finding.addParticipant, and_self]

theorem pingPongReport_start (region : MemoryRegionId) (first : OwnershipSample) :
    (pingPongReport s policy region evidence first window).subject = region ∧
      (pingPongReport s policy region evidence first window).bindings = regionBindings s region ∧
      (pingPongReport s policy region evidence first window).alternations = window.length - 1 := by
  obtain ⟨hsubject, hbindings, halternations⟩ := summarize_keeps
    { finding := pingPongStart s region first window, reality := first.provenance.realityOf }
    true window
  simp only [pingPongReport, Finding.sort, Finding.addEvicted, Finding.addMetric,
    Finding.addReason, hsubject, hbindings, halternations]
  simp only [pingPongStart, and_self]

theorem pingPongFinding_eq_some :
    pingPongFinding s policy region evidence = some f ↔
      ∃ first rest, pingPongWindow policy evidence = some (first :: rest) ∧
        pingPongReport s policy region evidence first (first :: rest) = f := by
  unfold pingPongFinding
  split
  case h_1 h => simp [h]
  case h_2 h => simp [h]
  case h_3 first rest h =>
    rw [Option.some.injEq]
    constructor
    · exact fun hf => ⟨first, rest, h, hf⟩
    · rintro ⟨first', rest', h', hf⟩
      obtain ⟨rfl, rfl⟩ := List.cons.inj (Option.some.inj (h.symm.trans h'))
      exact hf

/-- A region has a finding when it has a window. -/
theorem isSome_pingPongFinding (region : MemoryRegionId) :
    (pingPongFinding s policy region evidence).isSome ↔
      ∃ window, pingPongWindow policy evidence = some window := by
  rw [Option.isSome_iff_exists]
  constructor
  · rintro ⟨f, hf⟩
    obtain ⟨first, rest, hwindow, -⟩ := pingPongFinding_eq_some.1 hf
    exact ⟨_, hwindow⟩
  · rintro ⟨window, hwindow⟩
    cases window with
    | nil => exact absurd (pingPongWindow_eq_some.1 hwindow).2.2.1 (by simp)
    | cons first rest => exact ⟨_, pingPongFinding_eq_some.2 ⟨first, rest, hwindow, rfl⟩⟩

theorem mem_pingPongFindings : f ∈ pingPongFindings s policy ↔
    ∃ region evidence, s.regionEvidence[region]? = some evidence ∧
      pingPongFinding s policy region evidence = some f := by
  simp only [pingPongFindings, List.mem_filterMap, Prod.exists,
    mem_toList_iff_getElem?_eq_some]

/-- A finding, with the window it is about. -/
theorem exists_window (h : f ∈ pingPongFindings s policy) :
    ∃ evidence first rest, s.regionEvidence[f.subject]? = some evidence ∧
      pingPongWindow policy evidence = some (first :: rest) ∧
      pingPongReport s policy f.subject evidence first (first :: rest) = f := by
  obtain ⟨region, evidence, hevidence, hf⟩ := mem_pingPongFindings.1 h
  obtain ⟨first, rest, hwindow, rfl⟩ := pingPongFinding_eq_some.1 hf
  rw [(pingPongReport_start region first).1]
  exact ⟨evidence, first, rest, hevidence, hwindow, rfl⟩

theorem exists_finding_iff (h : s.regionEvidence[region]? = some evidence) :
    (∃ f ∈ pingPongFindings s policy, f.subject = region) ↔
      ∃ window, pingPongWindow policy evidence = some window := by
  constructor
  · rintro ⟨f, hf, rfl⟩
    obtain ⟨evidence', first, rest, hevidence, hwindow, -⟩ := exists_window hf
    obtain rfl := Option.some.inj (h.symm.trans hevidence)
    exact ⟨_, hwindow⟩
  · intro hwindow
    obtain ⟨f, hf⟩ := Option.isSome_iff_exists.1
      ((isSome_pingPongFinding (s := s) region).2 hwindow)
    refine ⟨f, mem_pingPongFindings.2 ⟨region, evidence, h, hf⟩, ?_⟩
    obtain ⟨first, rest, -, rfl⟩ := pingPongFinding_eq_some.1 hf
    exact (pingPongReport_start region first).1

/-! ## A state with one region -/

/-- A transfer of ownership, at a time. -/
def handover (source target : String) (time : UInt64) : OwnershipSample where
  eventId := time
  sequence := time
  timestampNs := time.toInt64
  source := { kind := .Processor, id := ascii source, generation := 1 }
  target := { kind := .Processor, id := ascii target, generation := 1 }
  type := .OwnershipTransfer
  before := .Unknown
  after := .Unknown
  direction := .None
  precision := .ExactEvent
  provenance := .RuntimeInstrumentation
  granularity := .Region
  publisher := ascii "p"
  publisherBoot := 1
  regionGeneration := 1
  lineIndex := []

/-- A state that has sampled one region. -/
def sampledState (samples : List OwnershipSample) : State :=
  { State.initial {} 0 with
    regionEvidence := (∅ : ExtTreeMap Text RegionEvidence).insert (ascii "r") { samples } }

theorem getElem?_sampledState :
    (sampledState samples).regionEvidence[region]? =
      if region = ascii "r" then some { samples } else none := by
  by_cases h : region = ascii "r"
  · rw [if_pos h, h]
    exact getElem?_insert_self
  · rw [if_neg h, sampledState, getElem?_insert, if_neg (by simpa using Ne.symm h)]
    exact getElem?_empty

theorem forall_sampledState {P : RegionEvidence → Prop} (h : P { samples })
    (region : MemoryRegionId) (evidence : RegionEvidence)
    (hregion : (sampledState samples).regionEvidence[region]? = some evidence) : P evidence := by
  rw [getElem?_sampledState] at hregion
  split at hregion
  · rwa [← Option.some.inj hregion]
  · cases hregion

/-- A state with one region returns its finding. -/
theorem exists_analyzePingPong (policy : PingPongPolicy) (hmax : 1 ≤ policy.maxFindings.toNat)
    (h : pingPongWindow policy { samples } = some window) :
    ∃ f ∈ analyzePingPong (sampledState samples) policy, f.subject = ascii "r" ∧
      f.alternations = window.length - 1 := by
  have hr : (sampledState samples).regionEvidence[ascii "r"]? = some { samples } := by
    rw [getElem?_sampledState, if_pos rfl]
  obtain ⟨f, hf, hsubject⟩ := (exists_finding_iff hr).2 ⟨window, h⟩
  have hlength : (pingPongFindings (sampledState samples) policy).length ≤ 1 := by
    refine (List.length_filterMap_le _ _).trans ?_
    rw [length_toList]
    exact size_insert_le
  refine ⟨f, (mem_finalizeFindings (hlength.trans hmax)).2 hf, hsubject, ?_⟩
  obtain ⟨evidence, first, rest, hevidence, hwindow, hreport⟩ := exists_window hf
  rw [hsubject, hr] at hevidence
  obtain rfl := Option.some.inj hevidence
  rw [h] at hwindow
  obtain rfl := Option.some.inj hwindow
  rw [← hreport]
  exact (pingPongReport_start f.subject first).2.2

/-- Ownership goes back and forth between `a` and `b`. -/
def turns : List OwnershipSample :=
  [handover "a" "b" 1, handover "b" "a" 2, handover "a" "b" 3, handover "b" "a" 4,
    handover "a" "b" 5]

theorem pingPongWindow_turns : pingPongWindow {} { samples := turns } =
    some (PingPongPolicy.trim {} (Stretch.best (PingPongPolicy.linked {})
      (PingPongPolicy.ordered {} { samples := turns }))) :=
  pingPongWindow_eq_some.2 ⟨rfl, by decide +kernel, by decide +kernel, by decide +kernel⟩

end CoherenceObservatory
