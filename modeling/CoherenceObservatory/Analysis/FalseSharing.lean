import CoherenceObservatory.Analysis.PingPong
import CoherenceObservatory.Lib.Grouping

/-!
# False sharing

Contention of several writers for one cache line, or for a region where the evidence is not
that fine. The samples of a region are grouped by the line they name; those that name none
form a group of their own, under a placeholder.
-/

namespace CoherenceObservatory

open Std (ExtTreeMap)
open Std.ExtTreeMap OwnershipSample List

/-- What was seen of a line. -/
structure LineState where
  writers : Finset Text := ∅
  invalidations : UInt64 := 0
  sharedReads : UInt64 := 0
  writes : UInt64 := 0

namespace OwnershipSample

/-- The sample shows an invalidation. -/
def isInvalidation (sample : OwnershipSample) : Bool :=
  sample.type = .Invalidation ∨ sample.type = .RegionInvalidation

/-- The sample shows a write, by its direction or its type. -/
def isWrite (sample : OwnershipSample) : Bool :=
  sample.direction = .Write ∨ sample.direction = .ReadModifyWrite ∨
    sample.type = .RemoteWrite ∨ sample.type = .WriteExclusiveTransition

/-- The sample names the cache line it is about. -/
def hasLine (sample : OwnershipSample) : Bool :=
  sample.granularity = .CacheLine ∧ sample.lineIndex ≠ []

/-- The group of the sample; the placeholder may also be the name of a line. -/
def lineKey (sample : OwnershipSample) : Text :=
  if sample.hasLine then sample.lineIndex else ascii "unknown"

/-- The writer the sample shows, if any. -/
def writers (sample : OwnershipSample) : Finset Text :=
  if sample.isWrite ∧ sample.source.id ≠ [] then {sample.source.id} else ∅

end OwnershipSample

/-- A sample enters the group of its line. -/
def LineState.add (line : LineState) (sample : OwnershipSample) : LineState where
  writers := line.writers ∪ sample.writers
  invalidations := if sample.isInvalidation then line.invalidations + 1 else line.invalidations
  sharedReads := if sample.type = .SharedRead then line.sharedReads + 1 else line.sharedReads
  writes := if sample.isWrite then line.writes + 1 else line.writes

/-- What the loop over the samples of a region gathers. -/
structure FalseSharingScan where
  lines : ExtTreeMap Text LineState := ∅
  anyLineIdentity : Bool := false
  totalInvalidations : UInt64 := 0
  totalSharedReads : UInt64 := 0
  regionWriters : Finset Text := ∅
  finest : EvidenceGranularity := .Unknown
  weakest : Precision := .ExactEvent
  provenance : Provenance := .Unknown
  reality : Reality := .real

namespace FalseSharingScan

/-- One round of the loop. -/
def step (scan : FalseSharingScan) (sample : OwnershipSample) : FalseSharingScan where
  lines := Grouping.enter lineKey {} LineState.add scan.lines sample
  anyLineIdentity := scan.anyLineIdentity || sample.hasLine
  totalInvalidations :=
    if sample.isInvalidation then scan.totalInvalidations + 1 else scan.totalInvalidations
  totalSharedReads :=
    if sample.type = .SharedRead then scan.totalSharedReads + 1 else scan.totalSharedReads
  regionWriters := scan.regionWriters ∪ sample.writers
  finest := if sample.granularity.rank > scan.finest.rank then sample.granularity else scan.finest
  weakest := scan.weakest.weakest sample.precision
  provenance := sample.provenance
  reality := scan.reality.combine sample.provenance.realityOf

/-- The most writers of a group, and the first group that has them. -/
def hottest (scan : FalseSharingScan) : Nat × Text :=
  scan.lines.toList.foldl (fun best line =>
    if line.2.writers.card > best.1 then (line.2.writers.card, line.1) else best) (0, [])

end FalseSharingScan

namespace FalseSharingPolicy

variable (policy : FalseSharingPolicy)

/-- The samples the analysis looks at. -/
def qualifying (evidence : RegionEvidence) : List OwnershipSample :=
  evidence.samples.filter fun sample => !(sample.precision.rank < policy.minPrecision.rank)

/-- The loop over the qualifying samples. -/
def scan (evidence : RegionEvidence) : FalseSharingScan :=
  (policy.qualifying evidence).foldl FalseSharingScan.step {}

/-- The class of a region, by the finest evidence there is. -/
def contention (scan : FalseSharingScan) : ContentionClass :=
  let minWriters := policy.minDistinctWriters.toNat
  let enoughWriters := scan.hottest.1 ≥ minWriters ∨ scan.regionWriters.card ≥ minWriters
  let enoughInvalidations := scan.totalInvalidations ≥ policy.minInvalidations
  let enoughReads := scan.totalSharedReads ≥ policy.minSharedReads
  if scan.finest = .CacheLine then
    if scan.anyLineIdentity ∧ scan.hottest.1 ≥ minWriters ∧ enoughInvalidations then
      .cacheLineFalseSharingSupported
    else if scan.anyLineIdentity = false then .insufficientGranularity
    else .regionContentionLikely
  else if scan.finest = .Page then .pageLevelContention
  else if scan.finest = .Region then
    if enoughWriters ∧ (enoughInvalidations ∨ enoughReads) then .regionContentionLikely else .none
  else .insufficientGranularity

/-- The reasons, the further metrics and what is missing, by class. -/
def explain (scan : FalseSharingScan) (f : Finding) : Finding :=
  match policy.contention scan with
  | .none => f
  | .cacheLineFalseSharingSupported =>
    ((f.addReason "distinct_writers_per_line").addReason "shared_read_with_invalidations").addMetric
      "line.index" .zero (ascii "line:" ++ scan.hottest.2)
  | .regionContentionLikely => f.addReason "region_contention"
  | .pageLevelContention =>
    (f.addReason "region_contention").addMetric "page.level" .one (ascii "page")
  | .insufficientGranularity =>
    if scan.finest = .CacheLine then
      { (f.addReason "insufficient_granularity").addMissing
          (ascii "cache-line identity (observation metadata key \"line.index\") is absent, " ++
            ascii "so line-level false sharing cannot be established") with
        precision := f.precision.weakest .AggregatedCounter }
    else
      (f.addReason "insufficient_granularity").addMissing
        (ascii "evidence resolves only at " ++ scan.finest.toText ++
          ascii " granularity; region or line contention cannot be established")

end FalseSharingPolicy

/-- The finding about a region whose samples were gathered. -/
def falseSharingReport (s : State) (policy : FalseSharingPolicy) (region : MemoryRegionId)
    (evidence : RegionEvidence) (scan : FalseSharingScan) : Finding :=
  let minWriters : F64 := .ofUInt64 policy.minDistinctWriters.toUInt64
  let f : Finding :=
    { kind := .falseSharingLike
      subjectKind := ascii "region"
      subject := region
      granularity := scan.finest
      precision := scan.weakest
      provenance := scan.provenance
      reality := scan.reality
      bindings := regionBindings s region
      contention := policy.contention scan }
  let f := f.addMetric "distinct_writers.region" (.ofUInt64 (.ofNat scan.regionWriters.card))
      (ascii "resources") (some minWriters)
    |>.addMetric "distinct_writers.line" (.ofUInt64 (.ofNat scan.hottest.1)) (ascii "resources")
      (some minWriters)
    |>.addMetric "invalidations" (.ofUInt64 scan.totalInvalidations) (ascii "invalidations")
      (some (.ofUInt64 policy.minInvalidations))
    |>.addMetric "shared_reads" (.ofUInt64 scan.totalSharedReads) (ascii "reads")
      (some (.ofUInt64 policy.minSharedReads))
  let f := policy.explain scan f
  -- every sample of the region is cited, whatever its precision
  let f := evidence.samples.foldl (fun f sample => f.pushEvidence sample.evidenceRef) f
  { (f.addEvicted evidence.evicted) with
    cost := estimateCost s.options.costModel
      { invalidations := scan.totalInvalidations, precision := scan.weakest } }.sort

/-- The finding for a region. -/
def falseSharingFinding (s : State) (policy : FalseSharingPolicy) (region : MemoryRegionId)
    (evidence : RegionEvidence) : Option Finding :=
  let scan := policy.scan evidence
  if policy.qualifying evidence = [] then none
  else if policy.contention scan = .none then none
  else some (falseSharingReport s policy region evidence scan)

/-- The findings before the final order. -/
def falseSharingFindings (s : State) (policy : FalseSharingPolicy) : List Finding :=
  s.regionEvidence.toList.filterMap fun entry => falseSharingFinding s policy entry.1 entry.2

/-- `analyze_false_sharing`. -/
def analyzeFalseSharing (s : State) (policy : FalseSharingPolicy) : List Finding :=
  finalizeFindings (falseSharingFindings s policy) policy.maxFindings

/-! ## What is gathered -/

/-- The writers the samples show. -/
def writersOf (l : List OwnershipSample) : Finset Text :=
  ((l.filter fun sample => sample.isWrite && sample.source.id ≠ []).map (·.source.id)).toFinset

theorem writersOf_concat (l : List OwnershipSample) (sample : OwnershipSample) :
    writersOf (l ++ [sample]) = writersOf l ∪ sample.writers := by
  rw [writersOf, filter_append, map_append, toFinset_append, ← writersOf,
    writers]
  by_cases h : sample.isWrite = true ∧ sample.source.id ≠ []
  · rw [if_pos h, filter_cons_of_pos (by simpa using h)]
    rfl
  · rw [if_neg h, filter_cons_of_neg (by simpa using h)]
    rfl

theorem foldl_add_writers (l : List OwnershipSample) :
    (l.foldl LineState.add {}).writers = writersOf l := by
  induction l using List.reverseRecOn with
  | nil => rfl
  | append_singleton l sample ih => rw [foldl_concat, writersOf_concat, ← ih]; rfl

variable {n : Nat} {f : Finding}

namespace FalseSharingScan

variable (l : List OwnershipSample)

theorem lines_foldl : (l.foldl step {}).lines =
    Grouping.groups lineKey {} LineState.add l :=
  (foldl_hom lines fun _ _ => rfl).symm

theorem reality_foldl : (l.foldl step {}).reality =
    Reality.ofAll (.real :: l.map (·.provenance.realityOf)) := by
  rw [← Reality.foldl_combine, foldl_map]
  exact (foldl_hom reality fun _ _ => rfl).symm

theorem anyLineIdentity_foldl : (l.foldl step {}).anyLineIdentity = l.any hasLine := by
  induction l using List.reverseRecOn with
  | nil => rfl
  | append_singleton l sample ih =>
    rw [foldl_concat, any_append, ← ih, any_cons, any_nil, Bool.or_false]
    rfl

theorem totalInvalidations_foldl :
    (l.foldl step {}).totalInvalidations = .ofNat (l.countP isInvalidation) := by
  have hone : UInt64.ofNat 1 = 1 := rfl
  induction l using List.reverseRecOn with
  | nil => rfl
  | append_singleton l sample ih =>
    rw [foldl_concat, countP_append, UInt64.ofNat_add, ← ih, countP_singleton, step]
    split
    case isTrue => rw [hone]
    case isFalse => exact (UInt64.add_zero _).symm

/-- The finest granularity there is, where some sample is of the finest. -/
theorem finest_foldl (h : ∃ sample ∈ l, sample.granularity = .CacheLine) :
    (l.foldl step {}).finest = .CacheLine := by
  have hmax (g : EvidenceGranularity) : ¬g.rank > EvidenceGranularity.CacheLine.rank := by
    have hline : EvidenceGranularity.CacheLine.rank = 6 := rfl
    rw [hline, EvidenceGranularity.rank]
    split_ifs <;> decide
  have hrank (g : EvidenceGranularity) (hg : g ≠ .CacheLine) :
      EvidenceGranularity.CacheLine.rank > g.rank := by
    have hline : EvidenceGranularity.CacheLine.rank = 6 := rfl
    rw [hline, EvidenceGranularity.rank, if_neg hg]
    split_ifs <;> decide
  induction l using List.reverseRecOn with
  | nil => simp at h
  | append_singleton l sample ih =>
    rw [foldl_concat, step]
    dsimp only
    obtain ⟨x, hx, hline⟩ := h
    rcases mem_append.1 hx with hx | hx
    · rw [ih ⟨x, hx, hline⟩, if_neg (hmax _)]
    · obtain rfl := mem_singleton.1 hx
      rw [hline]
      by_cases hbefore : (l.foldl step {}).finest = .CacheLine
      · rw [hbefore, if_neg (hmax _)]
      · rw [if_pos (hrank _ hbefore)]

/-- The most writers of a group reach a number when those of some group do. -/
theorem le_hottest_iff (scan : FalseSharingScan) (hn : 0 < n) :
    n ≤ scan.hottest.1 ↔
      ∃ (k : Text) (line : LineState), scan.lines[k]? = some line ∧ n ≤ line.writers.card := by
  have hfold (entries : List (Text × LineState)) :
      n ≤ (entries.foldl (fun best line => if line.2.writers.card > best.1
        then (line.2.writers.card, line.1) else best) (0, [])).1 ↔
        ∃ entry ∈ entries, n ≤ entry.2.writers.card := by
    induction entries using List.reverseRecOn with
    | nil =>
      simp only [foldl_nil, not_mem_nil, false_and, exists_false, iff_false]
      omega
    | append_singleton entries entry ih =>
      rw [foldl_concat]
      simp only [mem_append, mem_singleton, or_and_right, exists_or, exists_eq_left, ← ih]
      split <;> omega
  rw [hottest, hfold]
  simp only [Prod.exists, mem_toList_iff_getElem?_eq_some]

end FalseSharingScan

/-! ## The findings -/

variable {s : State} {policy : FalseSharingPolicy} {evidence : RegionEvidence}

variable (policy) in
/-- The explanation leaves the subject and the class of the finding as they were. -/
theorem explain_keeps (scan : FalseSharingScan) (f : Finding) :
    (policy.explain scan f).subject = f.subject ∧ (policy.explain scan f).bindings = f.bindings ∧
      (policy.explain scan f).contention = f.contention ∧
      (policy.explain scan f).reality = f.reality := by
  unfold FalseSharingPolicy.explain
  split
  case h_1 => exact ⟨rfl, rfl, rfl, rfl⟩
  case h_5 =>
    split <;> simp only [Finding.addReason, Finding.addMissing, and_self]
  all_goals simp only [Finding.addReason, Finding.addMetric, and_self]

variable (s policy evidence) in
theorem falseSharingReport_fields (region : MemoryRegionId) (scan : FalseSharingScan) :
    (falseSharingReport s policy region evidence scan).subject = region ∧
      (falseSharingReport s policy region evidence scan).bindings = regionBindings s region ∧
      (falseSharingReport s policy region evidence scan).contention = policy.contention scan ∧
      (falseSharingReport s policy region evidence scan).reality = scan.reality := by
  simp only [falseSharingReport, ← foldl_map]
  generalize hf : Finding.addMetric _ "shared_reads" _ _ _ = f
  obtain ⟨hsubject, hbindings, hcontention, hreality⟩ := explain_keeps policy scan f
  obtain ⟨refs, heq⟩ := foldl_pushEvidence (evidence.samples.map (·.evidenceRef))
    (policy.explain scan f)
  simp only [heq, Finding.sort, Finding.addEvicted, hsubject, hbindings, hcontention, hreality]
  simp only [← hf, Finding.addMetric, and_self]

/-- A finding, with the samples it is about. -/
theorem mem_falseSharingFindings : f ∈ falseSharingFindings s policy ↔
    ∃ region evidence, s.regionEvidence[region]? = some evidence ∧
      policy.qualifying evidence ≠ [] ∧ policy.contention (policy.scan evidence) ≠ .none ∧
      falseSharingReport s policy region evidence (policy.scan evidence) = f := by
  have hfinding (region : MemoryRegionId) (evidence : RegionEvidence) :
      falseSharingFinding s policy region evidence = some f ↔
        policy.qualifying evidence ≠ [] ∧ policy.contention (policy.scan evidence) ≠ .none ∧
          falseSharingReport s policy region evidence (policy.scan evidence) = f := by
    rw [falseSharingFinding]
    split_ifs with hnil hnone
    · simp [hnil]
    · simp [hnone]
    · simp [hnil, hnone]
  simp only [falseSharingFindings, mem_filterMap, Prod.exists,
    mem_toList_iff_getElem?_eq_some, hfinding]

/-! ## Evidence of lines -/

/-- The writers the samples of one line show. -/
def lineWriters (l : List OwnershipSample) (line : Text) : Finset Text :=
  writersOf (l.filter fun sample => sample.hasLine && sample.lineIndex = line)

/-- The writers of the samples that share the placeholder. -/
def placeholderWriters (l : List OwnershipSample) : Finset Text :=
  writersOf (l.filter fun sample => !sample.hasLine || sample.lineIndex = ascii "unknown")

/-- The class claims a line that no line supports: some sample names a line, the region was
invalidated often enough, and enough writers share the placeholder but no line. -/
structure FalseSharingPolicy.Misled (policy : FalseSharingPolicy) (evidence : RegionEvidence) :
    Prop where
  line : ∃ sample ∈ policy.qualifying evidence, sample.hasLine = true
  invalidations : policy.minInvalidations ≤
    .ofNat ((policy.qualifying evidence).countP isInvalidation)
  placeholder : policy.minDistinctWriters.toNat ≤
    (placeholderWriters (policy.qualifying evidence)).card
  lines : ∀ line, line ≠ [] →
    (lineWriters (policy.qualifying evidence) line).card < policy.minDistinctWriters.toNat

theorem hasLine_iff {sample : OwnershipSample} : sample.hasLine = true ↔
    sample.granularity = .CacheLine ∧ sample.lineIndex ≠ [] := by
  rw [hasLine, decide_eq_true_iff]

/-- A group is a line, or the placeholder's. -/
theorem members_lineKey (l : List OwnershipSample) (k : Text) :
    Grouping.members lineKey k l =
      l.filter fun sample => if k = ascii "unknown"
        then !sample.hasLine || sample.lineIndex = ascii "unknown"
        else sample.hasLine && sample.lineIndex = k := by
  refine filter_congr fun sample _ => ?_
  rw [lineKey]
  cases hline : sample.hasLine with
  | true => by_cases hk : k = ascii "unknown" <;> simp [hk]
  | false => by_cases hk : k = ascii "unknown" <;> simp [hk, eq_comm]

theorem writersOf_members (l : List OwnershipSample) (k : Text) :
    writersOf (Grouping.members lineKey k l) =
      if k = ascii "unknown" then placeholderWriters l else lineWriters l k := by
  rw [members_lineKey]
  split <;> rfl

/-- The most writers of a group, by lines. -/
theorem le_hottest_scan (hn : 0 < n) : n ≤ (policy.scan evidence).hottest.1 ↔
    n ≤ (placeholderWriters (policy.qualifying evidence)).card ∨
      ∃ line, line ≠ ascii "unknown" ∧
        n ≤ (lineWriters (policy.qualifying evidence) line).card := by
  have hgroup (k : Text) (line : LineState) : (policy.scan evidence).lines[k]? = some line ↔
      Grouping.members lineKey k (policy.qualifying evidence) ≠ [] ∧
        (Grouping.members lineKey k
          (policy.qualifying evidence)).foldl LineState.add {} = line := by
    rw [FalseSharingPolicy.scan, FalseSharingScan.lines_foldl]
    exact Grouping.getElem?_groups_eq_some
  simp only [FalseSharingScan.le_hottest_iff _ hn, hgroup]
  constructor
  · rintro ⟨k, _, ⟨-, rfl⟩, hle⟩
    rw [foldl_add_writers, writersOf_members] at hle
    split at hle
    case isTrue => exact .inl hle
    case isFalse hk => exact .inr ⟨k, hk, hle⟩
  · intro h
    obtain ⟨k, hle⟩ : ∃ k, n ≤ (writersOf (Grouping.members lineKey k
        (policy.qualifying evidence))).card := by
      rcases h with h | ⟨line, hline, h⟩
      · exact ⟨ascii "unknown", by rwa [writersOf_members, if_pos rfl]⟩
      · exact ⟨line, by rwa [writersOf_members, if_neg hline]⟩
    refine ⟨k, _, ⟨fun hnil => ?_, rfl⟩, by rwa [foldl_add_writers]⟩
    rw [hnil] at hle
    exact absurd hle (Nat.not_le.2 hn)

/-- The class that claims a line. -/
theorem contention_eq_supported_iff : policy.contention (policy.scan evidence) =
      .cacheLineFalseSharingSupported ↔
    (∃ sample ∈ policy.qualifying evidence, sample.hasLine = true) ∧
      policy.minDistinctWriters.toNat ≤ (policy.scan evidence).hottest.1 ∧
      policy.minInvalidations ≤
        .ofNat ((policy.qualifying evidence).countP isInvalidation) := by
  have hany : (policy.scan evidence).anyLineIdentity = true ↔
      ∃ sample ∈ policy.qualifying evidence, sample.hasLine = true := by
    rw [FalseSharingPolicy.scan, FalseSharingScan.anyLineIdentity_foldl, any_eq_true]
  have hfinest (h : ∃ sample ∈ policy.qualifying evidence, sample.hasLine = true) :
      (policy.scan evidence).finest = .CacheLine := by
    obtain ⟨sample, hsample, hline⟩ := h
    exact FalseSharingScan.finest_foldl _ ⟨sample, hsample, (hasLine_iff.1 hline).1⟩
  have hinvalidations : (policy.scan evidence).totalInvalidations =
      .ofNat ((policy.qualifying evidence).countP isInvalidation) :=
    FalseSharingScan.totalInvalidations_foldl _
  rw [← hany, ← hinvalidations] at *
  rw [FalseSharingPolicy.contention]
  constructor
  · intro h
    split_ifs at h with h₁ h₂
    exact h₂
  · intro h
    rw [if_pos (hfinest h.1), if_pos h]

/-- Where the class claims a line, a line supports it, unless the placeholder misled. -/
theorem supported_iff : (policy.contention (policy.scan evidence) =
      .cacheLineFalseSharingSupported → ∃ line, line ≠ [] ∧
        policy.minDistinctWriters.toNat ≤
          (lineWriters (policy.qualifying evidence) line).card) ↔ ¬policy.Misled evidence := by
  rw [contention_eq_supported_iff]
  constructor
  · rintro h ⟨hline, hinvalidations, hplaceholder, hlines⟩
    have hpos : 0 < policy.minDistinctWriters.toNat :=
      Nat.zero_lt_of_lt (hlines (ascii "unknown") (by decide))
    obtain ⟨line, hne, hle⟩ := h ⟨hline, (le_hottest_scan hpos).2 (.inl hplaceholder),
      hinvalidations⟩
    exact absurd (hlines line hne) (by omega)
  · rintro h ⟨hline, hhottest, hinvalidations⟩
    by_contra hnone
    have hlines (line : Text) (hne : line ≠ []) :
        (lineWriters (policy.qualifying evidence) line).card <
          policy.minDistinctWriters.toNat := by
      by_contra hle
      exact hnone ⟨line, hne, by omega⟩
    have hpos : 0 < policy.minDistinctWriters.toNat :=
      Nat.zero_lt_of_lt (hlines (ascii "unknown") (by decide))
    rcases (le_hottest_scan hpos).1 hhottest with hplaceholder | ⟨line, -, hle⟩
    · exact h ⟨hline, hinvalidations, hplaceholder, hlines⟩
    · -- a line with writers has a name
      refine absurd (hlines line fun hnil => ?_) (by omega)
      have hempty : lineWriters (policy.qualifying evidence) line = ∅ := by
        rw [lineWriters, filter_eq_nil_iff.2]
        · rfl
        · intro sample _ hsample
          rw [Bool.and_eq_true, decide_eq_true_iff, hasLine_iff] at hsample
          exact hsample.1.2 (hsample.2.trans hnil)
      rw [hempty, Finset.card_empty] at hle
      omega

/-- A line supports the finding, where it claims one. -/
def Finding.LineSupported (f : Finding) (s : State) (policy : FalseSharingPolicy) : Prop :=
  f.contention = .cacheLineFalseSharingSupported →
    ∃ evidence line, s.regionEvidence[f.subject]? = some evidence ∧ line ≠ [] ∧
      policy.minDistinctWriters.toNat ≤
        (lineWriters (policy.qualifying evidence) line).card

/-- The findings, before they are cut to a number, claim lines with the evidence of a line
    exactly where no region misleads by its placeholder; those returned are among them. -/
theorem falseSharing_lineSupported_iff (s : State) (policy : FalseSharingPolicy) :
    ((∀ f ∈ falseSharingFindings s policy, f.LineSupported s policy) ↔
      ∀ (region : MemoryRegionId) (evidence : RegionEvidence),
        s.regionEvidence[region]? = some evidence → ¬policy.Misled evidence) ∧
    ∀ f ∈ analyzeFalseSharing s policy, f ∈ falseSharingFindings s policy := by
  refine ⟨⟨?_, ?_⟩, fun f hf => mem_of_mem_finalizeFindings hf⟩
  · intro h region evidence hevidence
    refine supported_iff.1 fun hsupported => ?_
    obtain ⟨hsubject, -, hcontention, -⟩ := falseSharingReport_fields s policy evidence region
      (policy.scan evidence)
    have hqualifying : policy.qualifying evidence ≠ [] := by
      obtain ⟨sample, hsample, -⟩ := (contention_eq_supported_iff.1 hsupported).1
      exact List.ne_nil_of_mem hsample
    obtain ⟨evidence', line, hevidence', hline⟩ := h _ (mem_falseSharingFindings.2
      ⟨region, evidence, hevidence, hqualifying, by rw [hsupported]; nofun, rfl⟩)
      (hcontention.trans hsupported)
    rw [hsubject] at hevidence'
    obtain rfl := Option.some.inj (hevidence.symm.trans hevidence')
    exact ⟨line, hline⟩
  · intro h f hf hclass
    obtain ⟨region, evidence, hevidence, -, -, rfl⟩ := mem_falseSharingFindings.1 hf
    obtain ⟨hsubject, -, hcontention, -⟩ := falseSharingReport_fields s policy evidence region
      (policy.scan evidence)
    obtain ⟨line, hline⟩ := supported_iff.2 (h region evidence hevidence)
      (hcontention.symm.trans hclass)
    exact ⟨evidence, line, by rwa [hsubject], hline⟩

/-- A sample of a line, or of none. -/
def lineSample (type : EventType) (source line : String) (time : UInt64) : OwnershipSample :=
  { handover source "memory" time with
    type, granularity := .CacheLine, lineIndex := ascii line }

theorem exists_analyzeFalseSharing (samples : List OwnershipSample) (policy : FalseSharingPolicy)
    (hmax : 1 ≤ policy.maxFindings.toNat) (hqualifying : policy.qualifying { samples } ≠ [])
    (hcontention : policy.contention (policy.scan { samples }) ≠ .none) :
    ∃ f ∈ analyzeFalseSharing (sampledState samples) policy, f.subject = ascii "r" ∧
      f.contention = policy.contention (policy.scan { samples }) ∧
      f.reality = (policy.scan { samples }).reality := by
  have hr : (sampledState samples).regionEvidence[ascii "r"]? = some { samples } := by
    rw [getElem?_sampledState, if_pos rfl]
  have hlength : (falseSharingFindings (sampledState samples) policy).length ≤ 1 := by
    refine (length_filterMap_le _ _).trans ?_
    rw [length_toList]
    exact size_insert_le
  obtain ⟨hsubject, -, hclass, hreality⟩ := falseSharingReport_fields (sampledState samples) policy
    { samples } (ascii "r") (policy.scan { samples })
  exact ⟨_, (mem_finalizeFindings (hlength.trans hmax)).2 (mem_falseSharingFindings.2
    ⟨_, _, hr, hqualifying, hcontention, rfl⟩), hsubject, hclass, hreality⟩

/-- Two writers of one line, which is invalidated four times. -/
def sharedLine : List OwnershipSample :=
  [lineSample .RemoteWrite "a" "7" 1, lineSample .RemoteWrite "b" "7" 2,
    lineSample .Invalidation "a" "7" 3, lineSample .Invalidation "b" "7" 4,
    lineSample .Invalidation "a" "7" 5, lineSample .Invalidation "b" "7" 6]

/-- Two writers of one line. -/
theorem falseSharing_lineSupported_sharedLine :
    ∃ f ∈ analyzeFalseSharing (sampledState sharedLine) {},
      f.contention = .cacheLineFalseSharingSupported ∧
        f.LineSupported (sampledState sharedLine) {} := by
  have hclass : FalseSharingPolicy.contention {} (FalseSharingPolicy.scan {}
      { samples := sharedLine }) = .cacheLineFalseSharingSupported := by decide +kernel
  obtain ⟨f, hf, -, hcontention, -⟩ := exists_analyzeFalseSharing sharedLine {}
    (by decide) (by decide) (by rw [hclass]; nofun)
  have hline : ¬FalseSharingPolicy.Misled {} { samples := sharedLine } := fun h =>
    absurd (h.lines (ascii "7") (by decide)) (by decide +kernel)
  obtain ⟨hiff, hmem⟩ := falseSharing_lineSupported_iff (sampledState sharedLine) {}
  exact ⟨f, hf, hcontention.trans hclass, hiff.2 (forall_sampledState hline) f (hmem f hf)⟩

/-- Two writers of no known line, in a region with a line that is only invalidated. -/
def unknownLines : List OwnershipSample :=
  [lineSample .RemoteWrite "a" "" 1, lineSample .RemoteWrite "b" "" 2,
    lineSample .Invalidation "a" "7" 3, lineSample .Invalidation "b" "7" 4,
    lineSample .Invalidation "a" "7" 5, lineSample .Invalidation "b" "7" 6]

/-- The writers are those of no known line. -/
theorem unknownLines_unsupported : ∃ f ∈ analyzeFalseSharing (sampledState unknownLines) {},
    ¬f.LineSupported (sampledState unknownLines) {} := by
  have hclass : FalseSharingPolicy.contention {} (FalseSharingPolicy.scan {}
      { samples := unknownLines }) = .cacheLineFalseSharingSupported := by decide +kernel
  obtain ⟨f, hf, hsubject, hcontention, -⟩ := exists_analyzeFalseSharing unknownLines {}
    (by decide) (by decide) (by rw [hclass]; nofun)
  refine ⟨f, hf, fun h => ?_⟩
  obtain ⟨evidence, line, hevidence, -, hle⟩ := h (hcontention.trans hclass)
  rw [hsubject, getElem?_sampledState, if_pos rfl] at hevidence
  obtain rfl := Option.some.inj hevidence
  -- no sample that names a line shows a writer
  have hempty : lineWriters (FalseSharingPolicy.qualifying {} { samples := unknownLines }) line =
      ∅ := by
    have hall : ∀ sample ∈ FalseSharingPolicy.qualifying {} { samples := unknownLines },
        sample.hasLine = true → sample.isWrite = false := by decide +kernel
    rw [lineWriters, writersOf, List.filter_filter, List.filter_eq_nil_iff.2]
    · rfl
    · intro sample hsample hboth
      simp only [Bool.and_eq_true] at hboth
      rw [hall sample hsample hboth.2.1] at hboth
      exact Bool.false_ne_true hboth.1.1
  rw [hempty, Finset.card_empty] at hle
  exact absurd hle (by decide)

/-! ## The reality of a finding -/

/-- The reality of a finding is that of its samples and of one more real piece of evidence. -/
theorem falseSharing_reality (h : f ∈ analyzeFalseSharing s policy) :
    ∃ evidence, s.regionEvidence[f.subject]? = some evidence ∧
      policy.qualifying evidence ≠ [] ∧ f.reality = Reality.ofAll
        (.real :: (policy.qualifying evidence).map (·.provenance.realityOf)) := by
  obtain ⟨region, evidence, hevidence, hqualifying, -, rfl⟩ :=
    mem_falseSharingFindings.1 (mem_of_mem_finalizeFindings h)
  obtain ⟨hsubject, -, -, hreality⟩ := falseSharingReport_fields s policy evidence region
    (policy.scan evidence)
  refine ⟨evidence, by rwa [hsubject], hqualifying, hreality.trans ?_⟩
  exact FalseSharingScan.reality_foldl _

end CoherenceObservatory
