import CoherenceObservatory.Observatory

/-!
# At-most-once acceptance

A publisher boot numbers what it sends, and the retention window is there to accept each
number once. The window forgets in order of arrival and not of sequence, so a number that
came early can be forgotten while it is still above the floor below which late arrivals are
turned away. Then it counts as new when it comes again.
-/

namespace CoherenceObservatory

open Std Limits List

/-! ## What a binding remembers -/

variable {b : Binding} {s s' : State} {p : PublisherId} {l : List EventSequence} {a : Action}
  {answer : Answer} {k : UInt64} {i n : Nat}

namespace Binding

/-- The number is below the watermark, and for a reason that lasts: the watermark is
durable, the number is in the window, or it is below the window's floor. -/
structure Covers (b : Binding) (sequence : UInt64) : Prop where
  hasWatermark : b.hasWatermark = true
  le_high : sequence ≤ b.highWatermark
  reason : b.durableWatermark = true ∨ sequence ∈ b.window ∨
    sequence.toNat + maxSequenceWindow ≤ b.highWatermark.toNat

/-- Taking `sequence` forgets nothing that is above the floor of the window: nothing is
forgotten, or the oldest arrival is below the floor by then. -/
def KeepsFloor (b : Binding) (sequence : UInt64) : Prop :=
  b.durableWatermark = true ∨ sequence ∈ b.window ∨
    b.window.order.length < maxSequenceWindow ∨
    ∀ front ∈ b.window.order.head?,
      front.toNat + maxSequenceWindow ≤ max b.highWatermark.toNat sequence.toNat

instance (b : Binding) (sequence : UInt64) : Decidable (b.KeepsFloor sequence) :=
  inferInstanceAs (Decidable (_ ∨ _))

theorem toNat_sequenceWindow : sequenceWindow.toNat = maxSequenceWindow := rfl

variable {sequence : UInt64}

theorem Covers.not_fresh (h : b.Covers sequence) : ¬b.Fresh sequence := by
  rintro (hw | hgt | ⟨hd, hseen, hfloor⟩)
  · simp [h.hasWatermark] at hw
  · exact absurd h.le_high (UInt64.not_le.2 hgt)
  · rcases h.reason with hdurable | hmem | hbelow
    · simp [hd] at hdurable
    · exact hseen hmem
    · have hge : sequenceWindow ≤ b.highWatermark := by
        rw [UInt64.le_iff_toNat_le, toNat_sequenceWindow]
        omega
      refine hfloor ⟨hge, ?_⟩
      rw [UInt64.le_iff_toNat_le, UInt64.toNat_sub_of_le _ _ hge, toNat_sequenceWindow]
      omega

theorem le_highAfter (b : Binding) (sequence : UInt64) : sequence ≤ b.highAfter sequence := by
  unfold highAfter
  split
  · exact UInt64.le_refl _
  next h => exact UInt64.not_lt.1 (not_or.1 h).2

theorem toNat_highAfter (h : b.hasWatermark = true) (sequence : UInt64) :
    (b.highAfter sequence).toNat = max b.highWatermark.toNat sequence.toNat := by
  unfold highAfter
  simp only [h, Bool.true_eq_false, false_or, gt_iff_lt]
  split
  next hlt => exact (Nat.max_eq_right (UInt64.lt_iff_toNat_lt.1 hlt).le).symm
  next hle => exact (Nat.max_eq_left (UInt64.le_iff_toNat_le.1 (UInt64.not_lt.1 hle))).symm

/-- A number just taken is covered. -/
theorem covers_commit (b : Binding) (sequence hash : UInt64) :
    (b.commit sequence hash).Covers sequence :=
  ⟨rfl, b.le_highAfter sequence, .inr (.inl (b.window.mem_push_self _ _ (by decide)))⟩

/-- What was covered stays so when the step keeps the floor. -/
theorem Covers.commit {covered : UInt64} (h : b.Covers covered) (hkeeps : b.KeepsFloor sequence)
    (hash : UInt64) : (b.commit sequence hash).Covers covered := by
  have hhigh := toNat_highAfter h.hasWatermark sequence
  have hle := UInt64.le_iff_toNat_le.1 h.le_high
  refine ⟨rfl, ?_, ?_⟩
  · rw [UInt64.le_iff_toNat_le]
    change covered.toNat ≤ (b.highAfter sequence).toNat
    omega
  change b.durableWatermark = true ∨ covered ∈ b.window.push sequence hash ∨
    covered.toNat + maxSequenceWindow ≤ (b.highAfter sequence).toNat
  rcases h.reason with hdurable | hmem | hbelow
  · exact .inl hdurable
  · rcases hkeeps with hdurable | hseen | hroom | hfront
    · exact .inl hdurable
    · rw [b.window.push_of_mem hash hseen]
      exact .inr (.inl hmem)
    · exact .inr (.inl (b.window.mem_push_of_mem hash hmem (.inl hroom)))
    -- the number forgotten, if it is this one, is below the floor from now on
    · by_cases hhead : b.window.order.head? = some covered
      · exact .inr (.inr (hhigh ▸ hfront covered hhead))
      · exact .inr (.inl (b.window.mem_push_of_mem hash hmem (.inr hhead)))
  · exact .inr (.inr (by omega))

/-- Binding the same boot again forgets nothing. -/
theorem Covers.register (h : b.Covers sequence) (id : PublisherId)
    (kept : Option PublisherWatermark) :
    (Binding.register (some b) id b.boot kept).Covers sequence ∧
      (Binding.register (some b) id b.boot kept).boot = b.boot := by
  have hw := h.hasWatermark
  unfold Binding.register
  cases kept with
  | none =>
    simp only [Option.getD_some, if_true]
    exact ⟨⟨hw, h.le_high, h.reason⟩, trivial⟩
  | some kept =>
    simp only [Option.getD_some, if_true, hw, not_true_eq_false, and_false, if_false]
    exact ⟨⟨rfl, h.le_high, h.reason⟩, trivial⟩

end Binding

/-! ## Runs -/

/-- The sequence numbers accepted for a publisher boot, in order. -/
def acceptedSequences (p : PublisherId) (b : PublisherBootId) (past : List (Action × Answer)) :
    List EventSequence :=
  past.filterMap fun e => match accepted e.1 e.2 with
    | none => none
    | some (p', b', sequence) => if p' = p ∧ b' = b then some sequence else none

/-- Nothing is loaded, and no other boot of the publisher registers. -/
def Action.SameBoot (p : PublisherId) (b : PublisherBootId) : Action → Prop
  | .registerPublisher r _ => r.id = p → r.boot = b
  | .load .. => False
  | _ => True

instance (p : PublisherId) (b : PublisherBootId) : DecidablePred (Action.SameBoot p b)
  | .registerPublisher r _ => inferInstanceAs (Decidable (r.id = p → r.boot = b))
  | .load .. => .isFalse id
  | .registerNode .. | .registerProcessor .. | .registerAccelerator .. | .registerMemoryDomain ..
  | .registerCoherenceDomain .. | .registerRegion .. | .retireRegion .. | .setTopologyLink ..
  | .bumpTopologyGeneration .. | .setCapability .. | .setCostModel .. | .fencePublisherBoot ..
  | .ingest .. | .admitBatch .. | .finishBatch .. | .ingestCounter .. | .snapshot
  | .reconcile .. | .save .. => .isTrue trivial

/-- If the step offers a number of the bound boot, its window keeps the floor. -/
def KeepsFloor (p : PublisherId) (b : PublisherBootId) (s : State) (a : Action) : Prop :=
  ∀ o ∈ a.offers, o.1 = p → o.2.1 = b → ∀ bound ∈ s.binding p, bound.boot = b →
    bound.KeepsFloor o.2.2

instance (p : PublisherId) (b : PublisherBootId) (s : State) (a : Action) :
    Decidable (KeepsFloor p b s a) := inferInstanceAs (Decidable (∀ o ∈ a.offers, _))

/-- All numbers are covered by the binding, which is that of the boot. -/
def State.CoversAll (s : State) (p : PublisherId) (b : PublisherBootId)
    (sequences : List EventSequence) : Prop :=
  ∀ q ∈ sequences, ∃ bound, s.binding p = some bound ∧ bound.boot = b ∧ bound.Covers q

theorem State.CoversAll.congr {b : PublisherBootId} (h : s.CoversAll p b l)
    (hb : s'.binding p = s.binding p) : s'.CoversAll p b l := by
  intro q hq
  rw [hb]
  exact h q hq

theorem acceptedSequences_append (p : PublisherId) (b : PublisherBootId)
    (past later : List (Action × Answer)) :
    acceptedSequences p b (past ++ later) =
      acceptedSequences p b past ++ acceptedSequences p b later :=
  filterMap_append

theorem acceptedSequences_of_none {b : PublisherBootId} (h : accepted a answer = none) :
    acceptedSequences p b [(a, answer)] = [] := by
  simp [acceptedSequences, h]

theorem acceptedSequences_of_accepts {b : PublisherBootId} {q : EventSequence}
    (h : answer.accepts = true) (hoffers : a.offers = some (p, b, q)) :
    acceptedSequences p b [(a, answer)] = [q] := by
  simp [acceptedSequences, accepted, h, hoffers]

/-- A step can only accept what it offers. -/
theorem acceptedSequences_singleton (p : PublisherId) (b : PublisherBootId) (a : Action)
    (answer : Answer) :
    acceptedSequences p b [(a, answer)] = [] ∨
      ∃ q, a.offers = some (p, b, q) ∧ acceptedSequences p b [(a, answer)] = [q] := by
  unfold acceptedSequences accepted
  by_cases hacc : answer.accepts
  · rcases hoffers : a.offers with _ | ⟨p', b', q⟩
    · simp [hacc, hoffers]
    · by_cases heq : p' = p ∧ b' = b
      · obtain ⟨rfl, rfl⟩ := heq
        exact .inr ⟨q, rfl, acceptedSequences_of_accepts hacc hoffers⟩
      · simp [hacc, hoffers, heq]
  · simp [hacc]

/-- What one step does to the numbers covered: none is lost, and one that it accepts was
not among them and is from then on. -/
theorem act_covers {b : PublisherBootId} (hboot : a.SameBoot p b) (hkeeps : KeepsFloor p b s a)
    (h : s.CoversAll p b l) :
    (act s a).2.CoversAll p b (l ++ acceptedSequences p b [(a, (act s a).1)]) ∧
      ∀ q ∈ acceptedSequences p b [(a, (act s a).1)], q ∉ l := by
  -- a step that accepts nothing only has to lose nothing
  have hnone (hacc : accepted a (act s a).1 = none) (hcovers : (act s a).2.CoversAll p b l) :
      (act s a).2.CoversAll p b (l ++ acceptedSequences p b [(a, (act s a).1)]) ∧
        ∀ q ∈ acceptedSequences p b [(a, (act s a).1)], q ∉ l := by
    rw [acceptedSequences_of_none hacc, append_nil]
    exact ⟨hcovers, by simp⟩
  cases act_authority s a with
  | quiet hbinding _ hacc _ => exact hnone hacc (h.congr (by rw [hbinding]))
  | load _ _ _ _ _ ha => rw [ha] at hboot; exact hboot.elim
  | refuse r clock ha hadmits hacc _ =>
    exact hnone hacc (h.congr (by rw [admitBoot_binding hadmits]))
  | fence id boot reason detail now q ha hbound hq hstate hacc _ =>
    refine hnone hacc fun x hx => ?_
    obtain ⟨bound, hp, hb, hcovers⟩ := h x hx
    rw [hstate, fenceBound_binding]
    by_cases hid : p = id
    · subst hid
      obtain rfl : q.binding = bound := by simpa [State.binding, hbound] using hp
      exact ⟨_, Function.update_self .., hb, hcovers.hasWatermark, hcovers.le_high, hcovers.reason⟩
    · exact ⟨bound, by rw [Function.update_of_ne hid, hp], hb, hcovers⟩
  -- a boot that registers again goes on with its window
  | bind r clock s₁ ha hchecks hadmits hfenced hstate hacc _ =>
    refine hnone hacc fun x hx => ?_
    obtain ⟨bound, hp, hb, hcovers⟩ := h x hx
    rw [hstate, bindBoot_binding, admitBoot_binding hadmits]
    by_cases hid : p = r.id
    · have hr : r.boot = bound.boot := by rw [ha] at hboot; rw [hb]; exact hboot hid.symm
      obtain ⟨hcovers, hsame⟩ := hcovers.register r.id (keptWatermark s₁ r)
      rw [← hr] at hcovers hsame
      rw [← hid, hp]
      exact ⟨_, Function.update_self .., by rw [hid, hsame, hr, hb], by rw [hid]; exact hcovers⟩
    · exact ⟨bound, by rw [Function.update_of_ne hid, hp], hb, hcovers⟩
  | commit id boot sequence hash bound hoffers hcommits _ _ =>
    obtain ⟨hbound, hb, _, hfresh, hbinding⟩ := hcommits
    by_cases hid : p = id ∧ boot = b
    · obtain ⟨rfl, rfl⟩ := hid
      have hcommitted : (act s a).2.binding p = some (bound.commit sequence hash) := by
        rw [hbinding, Function.update_self]
      -- the numbers accepted so far stay covered
      have hlost : (act s a).2.CoversAll p boot l := by
        intro x hx
        obtain ⟨bound', hp, _, hcovers⟩ := h x hx
        obtain rfl : bound = bound' := Option.some.inj (hbound.symm.trans hp)
        exact ⟨_, hcommitted, hb, hcovers.commit (hkeeps _ hoffers rfl rfl bound hbound hb) hash⟩
      rcases acceptedSequences_singleton _ _ a (act s a).1 with hnil | ⟨q, hq, hone⟩
      · rw [hnil, append_nil]
        exact ⟨hlost, by simp⟩
      obtain rfl : sequence = q := by simpa [hoffers] using hq
      rw [hone]
      refine ⟨fun x hx => ?_, ?_⟩
      · rcases mem_append.1 hx with hx | hx
        · exact hlost x hx
        · obtain rfl : x = sequence := by simpa using hx
          exact ⟨_, hcommitted, hb, bound.covers_commit x hash⟩
      -- a number that is covered would not have been fresh
      · intro x hx hmem
        obtain rfl : x = sequence := by simpa using hx
        obtain ⟨bound', hp, _, hcovers⟩ := h x hmem
        obtain rfl : bound = bound' := Option.some.inj (hbound.symm.trans hp)
        exact hcovers.not_fresh hfresh
    -- another boot's number
    · have hnil : acceptedSequences p b [(a, (act s a).1)] = [] := by
        rcases acceptedSequences_singleton _ _ a (act s a).1 with hnil | ⟨q, hq, _⟩
        · exact hnil
        · rw [hoffers] at hq
          simp only [Option.some.injEq, Prod.mk.injEq] at hq
          exact absurd ⟨hq.1.symm, hq.2.1⟩ hid
      rw [hnil, append_nil]
      refine ⟨fun x hx => ?_, by simp⟩
      obtain ⟨bound', hp, hb', hcovers⟩ := h x hx
      by_cases hpid : p = id
      · subst hpid
        obtain rfl : bound = bound' := Option.some.inj (hbound.symm.trans hp)
        exact absurd ⟨rfl, hb.symm.trans hb'⟩ hid
      · exact ⟨bound', by rw [hbinding, Function.update_of_ne hpid, hp], hb', hcovers⟩

/-- A registration of boot 1 of publisher `p`. -/
def sampleRegistration : PublisherRegistration := { id := ascii "p", boot := 1 }

/-- An observation of boot 1 of publisher `p` under the first coordinator epoch. -/
def sampleObservation (sequence : UInt64) : Observation where
  eventId := sequence
  type := .RemoteRead
  sourcePublisher := ascii "p"
  publisherBoot := 1
  coordinatorEpoch := 1
  sequence := sequence

/-- In a run without loads in which no other boot of `p` registers and whose steps all keep
    the floor, no sequence number of boot `b` is accepted twice. -/
theorem accepted_at_most_once (p : PublisherId) (b : PublisherBootId) (s : State)
    (l : List Action)
    (h : Run.Along act (fun s a => a.SameBoot p b ∧ KeepsFloor p b s a) s l) :
    (acceptedSequences p b (Run.history act s l)).Nodup := by
  refine (Run.history_invariant (I := fun past s => (acceptedSequences p b past).Nodup ∧
    s.CoversAll p b (acceptedSequences p b past)) ?_ ⟨List.nodup_nil, fun _ h => nomatch h⟩ h).1
  rintro past s a ⟨hnodup, hcovers⟩ ⟨hboot, hkeeps⟩
  obtain ⟨hcovers, hnew⟩ := act_covers hboot hkeeps hcovers
  rw [acceptedSequences_append]
  refine ⟨?_, hcovers⟩
  rcases acceptedSequences_singleton p b a (act s a).1 with hnil | ⟨q, _, hone⟩
  · rwa [hnil, List.append_nil]
  · rw [hone] at hnew ⊢
    exact hnodup.append (List.nodup_singleton q) (by simpa using hnew)

/-- Out-of-order arrivals and a repeated one: each number is taken once. -/
theorem accepted_at_most_once_reordered :
    let l : List Action := [.registerPublisher sampleRegistration fun _ => 0,
      .ingest (sampleObservation 1) 0, .ingest (sampleObservation 3) 0,
      .ingest (sampleObservation 2) 0, .ingest (sampleObservation 3) 0]
    acceptedSequences (ascii "p") 1 (Run.history act (State.initial {} 0) l) = [1, 3, 2] ∧
      (acceptedSequences (ascii "p") 1 (Run.history act (State.initial {} 0) l)).Nodup :=
  ⟨by decide +kernel, accepted_at_most_once _ _ _ _ (by decide +kernel)⟩

/-! ## A flood of late arrivals -/

theorem validateObservationStructure_sample (hk : k ≠ 0) :
    validateObservationStructure (sampleObservation k) = .ok () := by
  have hidentity : validateIdentity (sampleObservation k) = .ok () := by
    simp only [validateIdentity, sampleObservation, failIf, hk, if_false]
    rfl
  rw [validateObservationStructure, hidentity]
  rfl

/-- Boot 1 of `p` is bound with authority, and the event ids it sent are those of the
sample observations. -/
structure Sampling (s : State) (b : Binding) : Prop where
  epoch : s.coordinatorEpoch = 1
  boot : b.boot = 1
  current : b.current = true
  fenced : b.fenced = false
  entry : ∃ p, s.publishers[ascii "p"]? = some p ∧ p.binding = b ∧
    ∀ k h, p.recentEventIds.entries[k]? = some h → h = (sampleObservation k).contentHash

/-- A fresh sample is accepted, and sampling goes on. -/
theorem Sampling.ingest (h : Sampling s b) (hk : k ≠ 0) (hfresh : b.Fresh k) (now : Nanos) :
    acceptedSequences (ascii "p") 1 [(.ingest (sampleObservation k) now,
        (act s (.ingest (sampleObservation k) now)).1)] = [k] ∧
      Sampling (act s (.ingest (sampleObservation k) now)).2
        (b.commit k (sampleObservation k).contentHash) := by
  obtain ⟨p, hp, rfl, hids⟩ := h.entry
  have hhash (o : Observation) (heq : o.sequence = k ∧ o.eventId = k) (d : SequenceDecision) :
      (acceptObservation p o o.contentHash d now).binding = p.binding.commit k o.contentHash ∧
        (acceptObservation p o o.contentHash d now).recentEventIds =
          p.recentEventIds.push k o.contentHash := by
    obtain ⟨rfl, heq⟩ := heq
    refine ⟨?_, by rw [← heq]; rfl⟩
    simp [acceptObservation, commitEventId, commitSequence, PublisherState.binding, Binding.commit,
      Binding.highAfter]
  obtain ⟨hacc, hpublishers⟩ := ingestLocked_accepts now (validateObservationStructure_sample hk)
    hp h.boot h.epoch.symm h.current h.fenced hfresh (hids k)
  have honly := (ingestLocked_binding s (sampleObservation k) now).1
  refine ⟨?_, honly.coordinatorEpoch_eq.trans h.epoch, h.boot, h.current, h.fenced, ?_⟩
  · exact acceptedSequences_of_accepts (by exact hacc) rfl
  · obtain ⟨hbinding, hrecent⟩ := hhash (sampleObservation k) ⟨rfl, rfl⟩
      (accountSequence p k (sampleObservation k).contentHash)
    refine ⟨_, ?_, hbinding, fun a h ha => ?_⟩
    · change (ingestLocked s (sampleObservation k) now).2.publishers[ascii "p"]? = _
      rw [hpublishers]
      exact ExtTreeMap.getElem?_insert_self
    · rw [hrecent] at ha
      rcases BoundedFifo.getElem?_push ha with ha | ⟨rfl, rfl⟩
      · exact hids a h ha
      · rfl

/-- The numbers of the flood: all that are late but above the floor once 5000 came. -/
def lateNumber (i : Nat) : UInt64 := UInt64.ofNat (905 + i)

/-- 5000 first, then every number the floor still lets in, then one more that makes the
full window forget 5000, which comes again. -/
def floodRun : List Action :=
  [.registerPublisher sampleRegistration fun _ => 0, .ingest (sampleObservation 5000) 0] ++
    (List.range 4095).map (fun i => .ingest (sampleObservation (lateNumber i)) 0) ++
    [.ingest (sampleObservation 5001) 0, .ingest (sampleObservation 5000) 0]

theorem toNat_lateNumber (h : i < 4095) : (lateNumber i).toNat = 905 + i := by
  rw [lateNumber, UInt64.toNat_ofNat']
  omega

/-- The state after `n` numbers of the flood. -/
def Flooded (n : Nat) (s : State) : Prop :=
  ∃ b, Sampling s b ∧ b.hasWatermark = true ∧ b.durableWatermark = false ∧
    b.highWatermark = 5000 ∧ b.window.order = 5000 :: (List.range n).map lateNumber

/-- A late number not seen yet is fresh. -/
theorem fresh_of_late (hdurable : b.durableWatermark = false) (hseen : k ∉ b.window.order)
    (hfloor : b.highWatermark.toNat < k.toNat + 4096) : b.Fresh k := by
  refine .inr (.inr ⟨hdurable, fun h => hseen ((b.window.mem_iff k).2 h), ?_⟩)
  rintro ⟨hge, hle⟩
  rw [UInt64.le_iff_toNat_le, UInt64.toNat_sub_of_le _ _ hge] at hle
  rw [ge_iff_le, UInt64.le_iff_toNat_le] at hge
  change 4096 ≤ _ at hge
  change _ ≤ _ - 4096 at hle
  omega

/-- The next number of the flood is fresh, whatever it comes with. -/
theorem Flooded.take (h : Flooded n s) (hn : n < 4095) (hash : UInt64)
    (hs' : ∀ b, Sampling s b → b.Fresh (lateNumber n) → Sampling s' (b.commit (lateNumber n) hash)) :
    Flooded (n + 1) s' := by
  obtain ⟨b, hs, hw, hdurable, hhigh, horder⟩ := h
  have hlate := toNat_lateNumber hn
  have hseen : lateNumber n ∉ b.window.order := by
    rw [horder, mem_cons, mem_map, ← UInt64.toNat_inj, hlate]
    rintro (heq | ⟨i, hi, heq⟩)
    · change 905 + n = 5000 at heq
      omega
    · rw [mem_range] at hi
      rw [← UInt64.toNat_inj, toNat_lateNumber (by omega), hlate] at heq
      omega
  have hfresh : b.Fresh (lateNumber n) := by
    refine fresh_of_late hdurable hseen ?_
    rw [hlate, hhigh]
    change 5000 < _
    omega
  refine ⟨_, hs' b hs hfresh, rfl, hdurable, ?_, ?_⟩
  · change b.highAfter (lateNumber n) = 5000
    rw [← UInt64.toNat_inj, b.toNat_highAfter hw, hlate, hhigh]
    change max 5000 _ = 5000
    omega
  · have hpush := b.window.push_of_lt hash (fun h => hseen ((b.window.mem_iff _).2 h)) (by
        rw [horder, length_cons, length_map, length_range]
        change n + 1 < 4096
        omega)
    change (b.window.push _ _).order = _
    rw [hpush.1, horder, range_succ, map_append]
    rfl

theorem lateNumber_ne_zero (h : i < 4095) : lateNumber i ≠ 0 := by
  rw [Ne, ← UInt64.toNat_inj, toNat_lateNumber h]
  simp

theorem Flooded.succ (h : Flooded n s) (hn : n < 4095) :
    Flooded (n + 1) (act s (.ingest (sampleObservation (lateNumber n)) 0)).2 :=
  h.take hn _ fun _ hs hfresh => (hs.ingest (lateNumber_ne_zero hn) hfresh 0).2

theorem flooded_run (h : Flooded 0 s) (hn : n ≤ 4095) :
    Flooded n (Run.final act s
      ((List.range n).map fun i => .ingest (sampleObservation (lateNumber i)) 0)) := by
  induction n with
  | zero => exact h
  | succ n ih =>
    rw [range_succ, map_append, Run.final_append]
    exact (ih (by omega)).succ (by omega)

/-- A fresh observatory binds the sample boot. -/
theorem act_sampleRegistration :
    (act (State.initial {} 0) (.registerPublisher sampleRegistration fun _ => 0)).2 =
      bindBoot (State.initial {} 0) sampleRegistration 0 := by
  rw [act, registerPublisher_binds rfl (.inl rfl) rfl rfl]
  rfl

theorem sampling_register : ∃ b,
    Sampling (act (State.initial {} 0) (.registerPublisher sampleRegistration fun _ => 0)).2 b ∧
      b.hasWatermark = false ∧ b.durableWatermark = false ∧ b.window = .empty := by
  rw [act_sampleRegistration]
  refine ⟨_, ⟨rfl, rfl, rfl, rfl, _, ExtTreeMap.getElem?_insert_self, rfl, ?_⟩, rfl, rfl, rfl⟩
  intro k h hk
  change (∅ : ExtTreeMap UInt64 UInt64)[k]? = some h at hk
  simp at hk

/-- With 4096 numbers taken, a new one makes the window forget 5000, and 5000 is fresh. -/
theorem Flooded.forgets (h : Flooded 4095 s) :
    ∃ b, Sampling s b ∧ b.Fresh 5001 ∧ ∀ hash, (b.commit 5001 hash).Fresh 5000 := by
  obtain ⟨b, hs, hw, hdurable, hhigh, horder⟩ := h
  -- all numbers of the flood lie below 5000
  have hflood {k : UInt64} (hk : 5000 ≤ k.toNat) : k ∉ (List.range 4095).map lateNumber := by
    rintro hmem
    obtain ⟨i, hi, rfl⟩ := mem_map.1 hmem
    rw [mem_range] at hi
    rw [toNat_lateNumber hi] at hk
    omega
  have hseen : (5001 : UInt64) ∉ b.window := by
    rw [BoundedFifo.mem_def, ← b.window.mem_iff, horder, mem_cons, not_or]
    exact ⟨by decide, hflood (by decide)⟩
  refine ⟨b, hs, .inr (.inl (by rw [hhigh]; decide)), fun hash => fresh_of_late hdurable ?_ ?_⟩
  · have hpush := b.window.push_of_full hash hseen horder
      (by rw [horder, length_cons, length_map, length_range]; rfl)
    change 5000 ∉ (b.window.push 5001 _).order
    rw [hpush.1, mem_append, not_or]
    exact ⟨hflood (by decide), by decide⟩
  · change (b.highAfter 5001).toNat < _
    rw [b.toNat_highAfter hw, hhigh]
    decide

theorem Flooded.accepts_again (h : Flooded 4095 s) :
    acceptedSequences (ascii "p") 1 (Run.history act s
      [.ingest (sampleObservation 5001) 0, .ingest (sampleObservation 5000) 0]) = [5001, 5000] := by
  obtain ⟨b, hs, hfresh, hagain⟩ := h.forgets
  obtain ⟨hfirst, hs'⟩ := hs.ingest (by decide) hfresh 0
  obtain ⟨hsecond, _⟩ := hs'.ingest (by decide) (hagain _) 0
  have happend := acceptedSequences_append (ascii "p") 1
    [(.ingest (sampleObservation 5001) 0, (act s (.ingest (sampleObservation 5001) 0)).1)]
    [(.ingest (sampleObservation 5000) 0,
      (act (act s (.ingest (sampleObservation 5001) 0)).2 (.ingest (sampleObservation 5000) 0)).1)]
  rw [hfirst, hsecond] at happend
  exact happend

/-- Once 5000 came first, the flood can begin. -/
theorem flooded_zero : Flooded 0 (Run.final act (State.initial {} 0)
    [.registerPublisher sampleRegistration fun _ => 0, .ingest (sampleObservation 5000) 0]) := by
  obtain ⟨b, hs, hw, hdurable, hwindow⟩ := sampling_register
  refine ⟨_, (hs.ingest (by decide : (5000 : UInt64) ≠ 0) (.inl hw) 0).2, rfl, hdurable, ?_, ?_⟩
  · change b.highAfter 5000 = 5000
    rw [Binding.highAfter, if_pos (.inl hw)]
  · change (b.window.push _ _).order = _
    rw [hwindow, (BoundedFifo.empty.push_of_lt _ (BoundedFifo.not_mem_empty _) (by decide)).1]
    rfl

/-- Nothing is loaded and only one boot registers in the flood; yet 5000 is accepted
    twice. -/
theorem floodRun_accepts_twice :
    (∀ a ∈ floodRun, a.SameBoot (ascii "p") 1) ∧
      ¬(acceptedSequences (ascii "p") 1
        (Run.history act (State.initial {} 0) floodRun)).Nodup := by
  constructor
  · intro a ha
    simp only [floodRun, List.mem_append, List.mem_cons, List.mem_map, List.not_mem_nil,
      or_false] at ha
    rcases ha with ((rfl | rfl) | ⟨i, _, rfl⟩) | rfl | rfl
    · exact fun _ => rfl
    all_goals trivial
  obtain ⟨b, hs, hw, -⟩ := sampling_register
  obtain ⟨hfirst, -⟩ := hs.ingest (by decide : (5000 : UInt64) ≠ 0) (.inl hw) 0
  have hlast := (flooded_run flooded_zero (Nat.le_refl 4095)).accepts_again
  have hregister : acceptedSequences (ascii "p") 1 (Run.history act (State.initial {} 0)
      [.registerPublisher sampleRegistration fun _ => 0, .ingest (sampleObservation 5000) 0]) =
      [5000] := (acceptedSequences_append (ascii "p") 1 [_] [_]).trans
        (congrArg₂ _ (acceptedSequences_of_none rfl) hfirst)
  rw [floodRun, Run.history_append, Run.final_append, Run.history_append, acceptedSequences_append,
    acceptedSequences_append, hlast, hregister]
  intro hnodup
  exact List.disjoint_of_nodup_append hnodup (by simp) (by simp : (5000 : UInt64) ∈ [5001, 5000])

end CoherenceObservatory
