import CoherenceObservatory.Analysis.Invalidations
import CoherenceObservatory.Analysis.JournalBounds
import CoherenceObservatory.Lib.Window
import CoherenceObservatory.Replay

/-!
# Bursts of invalidations

The scan for bursts goes once over the sorted timestamps of a group, with two positions that
only move forward. The larger of the windows it sees is the fullest there is, as long as the
distance of two timestamps is one the code can compute, which it is for timestamps that were let
into the journal.
-/

namespace CoherenceObservatory

open List

/-! ## Accesses -/

/-- The loop that moves the start of the window on, from the timestamps that are left. It fails
where none is. -/
def advanceStart (window : Int64) (current : Nanos) : List Nanos → Nat → Option Nat
  | [], _ => none
  | t :: rest, start =>
    if current - t > window then advanceStart window current rest (start + 1) else some start

/-- Whether a window that ends at `i` counts as a burst; a larger one than asked for counts if the
timestamp before differs. -/
def countsAsBurst (policy : InvalidationPolicy) (timestamps : List Nanos) (i size : Nat)
    (current : Nanos) : Option Bool :=
  if size ≥ policy.burstThreshold.toNat then
    if size = policy.burstThreshold.toNat then some true
    else if 0 < i then timestamps[i - 1]?.map fun previous => decide (current ≠ previous)
    else some false
  else some false

/-- A step of the scan that reads each timestamp where the code does. -/
def BurstScan.checkedStep (policy : InvalidationPolicy) (timestamps : List Nanos)
    (scan : BurstScan) (i : Nat) : Option BurstScan := do
  let current ← timestamps[i]?
  let start ← advanceStart policy.burstWindowNs current (timestamps.drop scan.start) scan.start
  let size := i + 1 - start
  let counts ← countsAsBurst policy timestamps i size current
  some
    { start
      burstCount := if counts then scan.burstCount + 1 else scan.burstCount
      maxBurst := max scan.maxBurst size }

/-- The scan, which fails where it would read past the end. -/
def checkedBurstScan (policy : InvalidationPolicy) (timestamps : List Nanos) : Option BurstScan :=
  let sorted := timestamps.insertionSort (· ≤ ·)
  (List.range sorted.length).foldlM (BurstScan.checkedStep policy sorted) {}

variable {scan : BurstScan} {i : Nat}

section

variable {policy : InvalidationPolicy} {timestamps : List Nanos}

/-- The loop stops at a timestamp that is near enough. -/
theorem advanceStart_eq {window : Int64} {current t : Nanos} {rest : List Nanos} (start : Nat)
    (ht : t ∈ rest) (hnear : ¬current - t > window) :
    advanceStart window current rest start =
      some (start + (rest.takeWhile fun t => current - t > window).length) := by
  induction rest generalizing start with
  | nil => exact absurd ht not_mem_nil
  | cons t' rest ih =>
    rw [advanceStart]
    by_cases hfar : current - t' > window
    · rw [if_pos hfar, takeWhile_cons_of_pos (by simpa using hfar), length_cons]
      rcases mem_cons.1 ht with rfl | ht
      · exact absurd hfar hnear
      · rw [ih (start + 1) ht, Nat.add_right_comm, Nat.add_assoc]
    · rw [if_neg hfar, takeWhile_cons_of_neg (by simpa using hfar)]
      rfl

/-- The window that ends at a timestamp starts no later. -/
theorem start_step_le (hwindow : 0 ≤ policy.burstWindowNs) (hi : i < timestamps.length)
    (hstart : scan.start ≤ i) : (scan.step policy timestamps i).start ≤ i := by
  -- the timestamp at `i` itself is near enough
  have hnear : ¬timestamps[i] - timestamps[i] > policy.burstWindowNs := by
    rw [Int64.sub_self]
    exact Int64.not_lt.2 hwindow
  have hlength := Window.le_of_not_pass (l := timestamps.drop scan.start)
    (p := fun t => timestamps[i] - t > policy.burstWindowNs) (i := i - scan.start)
    (by rw [length_drop]; omega)
    (by
      rw [getElem_drop]
      simpa [Nat.add_sub_cancel' hstart] using hnear)
  simp only [BurstScan.step, getD_eq_getElem _ _ hi]
  omega

theorem countsAsBurst_eq (hi : i < timestamps.length) (size : Nat) (current : Nanos) :
    countsAsBurst policy timestamps i size current =
      some (decide (size ≥ policy.burstThreshold.toNat ∧ (size = policy.burstThreshold.toNat ∨
        0 < i ∧ current ≠ timestamps.getD (i - 1) 0))) := by
  rw [countsAsBurst]
  by_cases hlarge : size ≥ policy.burstThreshold.toNat
  · rw [if_pos hlarge]
    by_cases heq : size = policy.burstThreshold.toNat
    · rw [if_pos heq, decide_eq_true ⟨hlarge, .inl heq⟩]
    · by_cases hpos : 0 < i
      · rw [if_neg heq, if_pos hpos, getElem?_eq_getElem (by omega),
          getD_eq_getElem _ _ (by omega), Option.map_some]
        simp only [hlarge, heq, hpos, true_and, false_or]
      · rw [if_neg heq, if_neg hpos, decide_eq_false]
        rintro ⟨-, heq' | ⟨hpos', -⟩⟩
        · exact heq heq'
        · exact hpos hpos'
  · rw [if_neg hlarge, decide_eq_false fun h => hlarge h.1]

/-- The code reads only timestamps that are there. -/
theorem checkedStep_eq (hwindow : 0 ≤ policy.burstWindowNs) (hi : i < timestamps.length)
    (hstart : scan.start ≤ i) :
    scan.checkedStep policy timestamps i = some (scan.step policy timestamps i) := by
  have hnear : ¬timestamps[i] - timestamps[i] > policy.burstWindowNs := by
    rw [Int64.sub_self]
    exact Int64.not_lt.2 hwindow
  have hmem : timestamps[i] ∈ timestamps.drop scan.start :=
    mem_drop_iff_getElem.2 ⟨i - scan.start, by omega, by simp [Nat.add_sub_cancel' hstart]⟩
  simp only [BurstScan.checkedStep, getElem?_eq_getElem hi, Option.bind_eq_bind,
    Option.bind_some, advanceStart_eq scan.start hmem hnear, countsAsBurst_eq hi, BurstScan.step,
    getD_eq_getElem _ _ hi, decide_eq_true_eq]

/-- The scan never reads past the end. -/
theorem checkedBurstScan_eq (hwindow : 0 ≤ policy.burstWindowNs) (timestamps : List Nanos) :
    checkedBurstScan policy timestamps = some (burstScan policy timestamps) :=
  Window.foldlM_range (P := fun i scan => scan.start ≤ i) (Nat.le_refl 0)
    (fun _ _ hi hstart => (start_step_le hwindow hi hstart).trans (Nat.le_succ _))
    fun _ _ hi hstart => checkedStep_eq hwindow hi hstart

end

/-! ## The fullest window -/

/-- The distance of any two of the timestamps is one the code can compute. -/
def Comparable (timestamps : List Nanos) : Prop :=
  ∀ a ∈ timestamps, ∀ b ∈ timestamps, a.toInt - b.toInt ≤ 9223372036854775807

instance : Std.Total fun a b : Nanos => a ≤ b := ⟨fun a b => Int64.le_total a b⟩

instance : IsTrans Nanos fun a b => a ≤ b := ⟨fun _ _ _ hab hbc => Int64.le_trans hab hbc⟩

section

variable {policy : InvalidationPolicy} {timestamps : List Nanos}

theorem far_iff (h : Comparable timestamps) {a b : Nanos} (ha : a ∈ timestamps)
    (hb : b ∈ timestamps) (window : Int64) : a - b > window ↔ a.toInt - b.toInt > window.toInt := by
  have hab := h a ha b hb
  have hba := h b hb a ha
  have hsub : (a - b).toInt = a.toInt - b.toInt := by
    rw [Int64.toInt_sub]
    exact Int.bmod_eq_of_le (by omega) (by omega)
  rw [gt_iff_lt, Int64.lt_iff_toInt_lt, hsub]

/-- The reach of the window that ends at `i`. -/
def windowReach (policy : InvalidationPolicy) (timestamps : List Nanos) (i : Nat) : Nat :=
  Window.reach policy.burstWindowNs.toInt (timestamps.map Int64.toInt) i

theorem windowReach_eq (h : Comparable timestamps) (hi : i < timestamps.length) :
    windowReach policy timestamps i = i + 1 -
      (timestamps.takeWhile fun t => timestamps[i] - t > policy.burstWindowNs).length := by
  rw [windowReach, Window.reach, getD_eq_getElem _ _ (by rwa [length_map]),
    getElem_map, Window.length_takeWhile_map]
  intro t ht
  exact decide_eq_decide.2 (far_iff h (getElem_mem hi) ht _).symm

/-- What the scan has seen of the first `i` timestamps. What it has left behind is out of reach
of the timestamps to come. -/
structure Scanned (policy : InvalidationPolicy) (timestamps : List Nanos) (i : Nat)
    (scan : BurstScan) : Prop where
  start_le : scan.start ≤ i
  left : ∀ t ∈ timestamps.take scan.start, ∀ c ∈ timestamps.drop i, c - t > policy.burstWindowNs
  reached : scan.maxBurst = 0 ∨ ∃ j < i, windowReach policy timestamps j = scan.maxBurst
  le : ∀ j < i, windowReach policy timestamps j ≤ scan.maxBurst
  last : i - scan.start ≤ scan.maxBurst
  counted : 0 < scan.burstCount ↔ policy.burstThreshold.toNat ≤ scan.maxBurst

/-- The start of the next window, found from where the last one started. -/
theorem Scanned.start_step (h : Scanned policy timestamps i scan) (hi : i < timestamps.length) :
    (scan.step policy timestamps i).start =
      (timestamps.takeWhile fun t => timestamps[i] - t > policy.burstWindowNs).length := by
  simp only [BurstScan.step, getD_eq_getElem _ _ hi]
  refine Window.length_takeWhile_resume (h.start_le.trans hi.le) fun t ht => decide_eq_true ?_
  exact h.left t ht _ (mem_drop_iff_getElem.2 ⟨0, by omega, by simp⟩)

/-- A step looks at the window that ends at the next timestamp. -/
theorem Scanned.step (hwindow : 0 ≤ policy.burstWindowNs) (hsorted : timestamps.Pairwise (· ≤ ·))
    (hcomparable : Comparable timestamps) (h : Scanned policy timestamps i scan)
    (hi : i < timestamps.length) :
    Scanned policy timestamps (i + 1) (scan.step policy timestamps i) := by
  have hstart := h.start_step hi
  have hle := start_step_le hwindow hi h.start_le
  -- the scan counts what the window ending here reaches
  have hreach : windowReach policy timestamps i =
      i + 1 - (scan.step policy timestamps i).start := by
    rw [hstart, windowReach_eq hcomparable hi]
  have hmax : (scan.step policy timestamps i).maxBurst =
      max scan.maxBurst (windowReach policy timestamps i) := by rw [hreach]; rfl
  have hforward : scan.start ≤ (scan.step policy timestamps i).start := Nat.le_add_right _ _
  refine ⟨by omega, fun t ht c hc => ?_, ?_, fun j hj => ?_, by omega, ?_⟩
  · -- what is out of reach of this timestamp is out of reach of the later ones
    rw [hstart] at ht
    have hprefix := takeWhile_prefix (l := timestamps)
      fun t => decide (timestamps[i] - t > policy.burstWindowNs)
    have hpass : timestamps[i] - t > policy.burstWindowNs :=
      of_decide_eq_true (all_eq_true.1 all_takeWhile t ((prefix_iff_eq_take.1 hprefix).symm ▸ ht))
    obtain ⟨k, hk, rfl⟩ := mem_drop_iff_getElem.1 hc
    have hk' : i + 1 + k < timestamps.length := by omega
    have hlater : timestamps[i] ≤ timestamps[i + 1 + k] :=
      pairwise_iff_getElem.1 hsorted i (i + 1 + k) hi hk' (by omega)
    have htmem := mem_of_mem_take ht
    rw [far_iff hcomparable (getElem_mem hi) htmem] at hpass
    rw [far_iff hcomparable (getElem_mem hk') htmem]
    rw [Int64.le_iff_toInt_le] at hlater
    omega
  -- the largest burst is reached
  · rw [hmax]
    rcases Nat.le_total (windowReach policy timestamps i) scan.maxBurst with hle' | hle'
    · rw [max_eq_left hle']
      rcases h.reached with hzero | ⟨j, hj, heq⟩
      · exact .inl hzero
      · exact .inr ⟨j, Nat.lt_succ_of_lt hj, heq⟩
    · rw [max_eq_right hle']
      exact .inr ⟨i, Nat.lt_succ_self i, rfl⟩
  -- and none is larger
  · rw [hmax]
    rcases Nat.lt_succ_iff_lt_or_eq.1 hj with hj | rfl
    · exact (h.le j hj).trans (le_max_left _ _)
    · exact le_max_right _ _
  · -- a window larger than asked for extends one that was large enough
    have hgrow : windowReach policy timestamps i ≤ scan.maxBurst + 1 := by
      have := h.last
      have := h.start_le
      omega
    have hcount : (scan.step policy timestamps i).burstCount =
        if windowReach policy timestamps i ≥ policy.burstThreshold.toNat ∧
            (windowReach policy timestamps i = policy.burstThreshold.toNat ∨
              0 < i ∧ timestamps.getD i 0 ≠ timestamps.getD (i - 1) 0)
        then scan.burstCount + 1 else scan.burstCount := by rw [hreach]; rfl
    have hcounted := h.counted
    rw [hcount, hmax]
    split
    case isTrue hburst => exact iff_of_true (Nat.succ_pos _) (hburst.1.trans (le_max_right _ _))
    case isFalse hnot =>
      rw [hcounted, le_max_iff, or_iff_left_of_imp]
      intro hlarge
      have hne : windowReach policy timestamps i ≠ policy.burstThreshold.toNat :=
        fun heq => hnot ⟨hlarge, .inl heq⟩
      omega

/-- What the scan has seen at the end. -/
theorem scanned_burstScan (hwindow : 0 ≤ policy.burstWindowNs)
    (hthreshold : 1 ≤ policy.burstThreshold.toNat) (hsorted : timestamps.Pairwise (· ≤ ·))
    (hcomparable : Comparable timestamps) :
    Scanned policy timestamps timestamps.length
      ((List.range timestamps.length).foldl (BurstScan.step policy timestamps) {}) := by
  refine Window.foldl_range (P := Scanned policy timestamps) ?_
    fun i scan hi h => h.step hwindow hsorted hcomparable hi
  refine ⟨Nat.le_refl 0, fun t ht => ?_, .inl rfl, fun j hj => ?_, Nat.le_refl 0, ?_⟩
  · exact absurd ht not_mem_nil
  · exact absurd hj (Nat.not_lt_zero j)
  · exact iff_of_false (Nat.lt_irrefl 0) (Nat.not_le.2 hthreshold)

/-- The scan finds the fullest window, and counts a burst exactly where it is full enough. -/
theorem burstScan_exact (hwindow : 0 ≤ policy.burstWindowNs)
    (hthreshold : 1 ≤ policy.burstThreshold.toNat) (hcomparable : Comparable timestamps) :
    IsGreatest (Set.range (Window.count policy.burstWindowNs.toInt (timestamps.map Int64.toInt)))
        (burstScan policy timestamps).maxBurst ∧
      (0 < (burstScan policy timestamps).burstCount ↔
        policy.burstThreshold.toNat ≤ (burstScan policy timestamps).maxBurst) := by
  have hperm := perm_insertionSort (· ≤ ·) timestamps
  have hsorted := pairwise_insertionSort (· ≤ ·) timestamps
  have hcomparable' : Comparable (timestamps.insertionSort (· ≤ ·)) := fun a ha b hb =>
    hcomparable a (hperm.mem_iff.1 ha) b (hperm.mem_iff.1 hb)
  have hscanned := scanned_burstScan hwindow hthreshold hsorted hcomparable'
  have hcount : Window.count policy.burstWindowNs.toInt (timestamps.map Int64.toInt) =
      Window.count policy.burstWindowNs.toInt
        ((timestamps.insertionSort (· ≤ ·)).map Int64.toInt) := by
    funext a
    exact ((hperm.map Int64.toInt).countP_eq _).symm
  refine ⟨?_, hscanned.counted⟩
  rw [hcount]
  refine Window.isGreatest_reach ?_ ?_ ?_ ?_
  · rw [Int64.le_iff_toInt_le] at hwindow
    exact hwindow
  · rw [pairwise_map]
    exact hsorted.imp fun hab => Int64.le_iff_toInt_le.1 hab
  · rw [length_map]
    exact hscanned.reached
  · rw [length_map]
    exact hscanned.le

end

/-! ## The bursts of a group -/

section

variable {s : State} {policy : InvalidationPolicy} {key : Text} {accum : InvalidationAccum}

theorem timestamps_foldl_add (l : List Observation) (accum : InvalidationAccum) :
    (l.foldl InvalidationAccum.add accum).timestamps =
      accum.timestamps ++ l.map (·.timestampNs) := by
  induction l generalizing accum with
  | nil => exact (append_nil _).symm
  | cons o l ih =>
    refine (ih (accum.add o)).trans ?_
    rw [InvalidationAccum.add, append_assoc]
    rfl

/-- The individual invalidations of one group. -/
def groupEvents (s : State) (key : Text) : List Observation :=
  Grouping.members Observation.invalidationKey key (individualInvalidations s)

theorem timestamps_of_group (haccum : (invalidationGroups s)[key]? = some accum) :
    accum.timestamps = (groupEvents s key).map (·.timestampNs) := by
  obtain ⟨-, rfl⟩ := Grouping.getElem?_groups_eq_some.1 haccum
  exact timestamps_foldl_add _ {}

theorem mem_journal_of_groupEvents {o : Observation} (h : o ∈ groupEvents s key) :
    ∃ e ∈ s.journal, e.observation = o :=
  mem_map.1 (mem_of_mem_filter (mem_of_mem_filter h))

/-- Two timestamps of a journal are no further apart than the code can compute: none is
negative. -/
theorem comparable_groupEvents (h : s.JournalBounded) :
    Comparable ((groupEvents s key).map (·.timestampNs)) := by
  have hpos : ∀ t ∈ (groupEvents s key).map (·.timestampNs), 0 ≤ t.toInt := by
    intro t ht
    obtain ⟨o, ho, rfl⟩ := mem_map.1 ht
    obtain ⟨e, he, rfl⟩ := mem_journal_of_groupEvents ho
    exact toInt_nonneg (h.timestamp e he)
  intro a _ b hb
  have ha := a.toInt_le
  have hb := hpos b hb
  change a.toInt ≤ 9223372036854775807 at ha
  omega

theorem length_groupEvents_le : (groupEvents s key).length ≤ s.journal.length := by
  refine (length_filter_le _ _).trans ((length_filter_le _ _).trans ?_)
  rw [length_map]

/-- The scan counts no more bursts than there are timestamps. -/
theorem burstCount_le (timestamps : List Nanos) :
    (burstScan policy timestamps).burstCount ≤ timestamps.length := by
  rw [burstScan, ← length_insertionSort (· ≤ ·) timestamps]
  refine Window.foldl_range (P := fun i (scan : BurstScan) => scan.burstCount ≤ i)
    (Nat.le_refl 0) ?_
  intro i scan _ h
  simp only [BurstScan.step]
  split <;> omega

/-- In every run and for every group of its journal, the row has the size of the fullest window
    of the group, the scan for it stays inside the group's timestamps, and the group has a
    finding exactly where the window is full enough. -/
theorem bursts_exact (options : ObservatoryOptions) (now : Nanos) (l : List Action)
    (policy : InvalidationPolicy) (hwindow : 0 ≤ policy.burstWindowNs)
    (hthreshold : 1 ≤ policy.burstThreshold) (key : Text) (accum : InvalidationAccum)
    (haccum : (invalidationGroups (Run.final act (State.initial options now) l))[key]? =
      some accum) :
    let s := Run.final act (State.initial options now) l
    checkedBurstScan policy accum.timestamps = some (burstScan policy accum.timestamps) ∧
      IsGreatest
        (Set.range fun a : ℤ => (groupEvents s key).countP fun o =>
          a ≤ o.timestampNs.toInt ∧ o.timestampNs.toInt ≤ a + policy.burstWindowNs.toInt)
        (accum.finish s policy).maxBurstSize.toNat ∧
      ((∃ f ∈ invalidationFindings s policy, burstFinding s policy accum = some f) ↔
        policy.burstThreshold ≤ (accum.finish s policy).maxBurstSize) := by
  intro s
  have hbounded : s.JournalBounded := final_journalBounded options now l
  have htimestamps := timestamps_of_group (s := s) haccum
  have hcomparable : Comparable accum.timestamps := htimestamps ▸ comparable_groupEvents hbounded
  have hsize : accum.timestamps.length < 2 ^ 64 := by
    rw [htimestamps, List.length_map]
    exact (length_groupEvents_le.trans hbounded.length_le).trans_lt (by decide)
  rw [UInt64.le_iff_toNat_le] at hthreshold
  obtain ⟨hgreatest, hcounted⟩ := burstScan_exact hwindow hthreshold hcomparable
  -- neither number outgrows the machine's
  have hmax : (accum.finish s policy).maxBurstSize.toNat =
      (burstScan policy accum.timestamps).maxBurst := by
    obtain ⟨a, ha⟩ := hgreatest.1
    have hle : (burstScan policy accum.timestamps).maxBurst ≤ accum.timestamps.length := by
      rw [← ha, ← List.length_map Int64.toInt]
      exact List.countP_le_length
    exact UInt64.toNat_ofNat_of_lt' (hle.trans_lt hsize)
  have hcount : (accum.finish s policy).burstCount = 0 ↔
      (burstScan policy accum.timestamps).burstCount = 0 := by
    rw [← UInt64.toNat_inj]
    refine Eq.congr_left (UInt64.toNat_ofNat_of_lt' ?_)
    exact (burstCount_le _).trans_lt hsize
  refine ⟨checkedBurstScan_eq hwindow _, ?_, ?_⟩
  · rw [hmax]
    convert hgreatest using 2
    funext a
    rw [Window.count, htimestamps, List.map_map, List.countP_map]
    rfl
  -- a finding is made of every group with a burst
  · have hsome : (∃ f, burstFinding s policy accum = some f) ↔
        (accum.finish s policy).burstCount ≠ 0 := by
      rw [burstFinding]
      split
      case isTrue h => simp [h]
      case isFalse h => simp [h]
    have hmem (f : Finding) (hf : burstFinding s policy accum = some f) :
        f ∈ invalidationFindings s policy :=
      List.mem_append_left _ (List.mem_filterMap.2
        ⟨(key, accum), Std.ExtTreeMap.mem_toList_iff_getElem?_eq_some.2 haccum, hf⟩)
    rw [UInt64.le_iff_toNat_le, hmax, ← hcounted, Nat.pos_iff_ne_zero, ne_eq, ← hcount, ← ne_eq,
      ← hsome]
    constructor
    · rintro ⟨f, -, hf⟩
      exact ⟨f, hf⟩
    · rintro ⟨f, hf⟩
      exact ⟨f, hmem f hf, hf⟩

/-- Three invalidations, none of which names anything. -/
def invalidationRun : List Action :=
  .registerPublisher sampleRegistration (fun _ => 0) ::
    [(1, 5), (2, 3), (3, 4)].map fun (sequence, timestampNs) =>
      .ingest { sampleObservation sequence with type := .Invalidation, timestampNs } 0

/-- The group of what names nothing. -/
def anonymousGroup (s : State) : InvalidationAccum :=
  (groupEvents s (Observation.invalidationKey {})).foldl InvalidationAccum.add {}

/-- Three invalidations in a row make a burst of three. -/
theorem bursts_exact_three :
    let s := Run.final act (State.initial {} 0) invalidationRun
    let policy : InvalidationPolicy := { burstThreshold := 3, burstWindowNs := 2 }
    ((anonymousGroup s).finish s policy).maxBurstSize = 3 ∧
      ∃ f ∈ invalidationFindings s policy, burstFinding s policy (anonymousGroup s) = some f := by
  intro s policy
  have hsome : groupEvents s (Observation.invalidationKey {}) ≠ [] := by decide +kernel
  have hgroup : (invalidationGroups s)[Observation.invalidationKey {}]? = some (anonymousGroup s) :=
    Grouping.getElem?_groups_eq_some.2 ⟨hsome, rfl⟩
  obtain ⟨-, -, hfinding⟩ := bursts_exact {} 0 invalidationRun policy (by decide) (by decide)
    (Observation.invalidationKey {}) (anonymousGroup s) hgroup
  exact ⟨by decide +kernel, hfinding.2 (by decide +kernel)⟩

end

end CoherenceObservatory
