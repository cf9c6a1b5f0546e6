import CoherenceObservatory.Admission
import CoherenceObservatory.Observatory

/-!
# The ledger of a publisher

For every publisher there is written down which boot is bound and which numbers and event ids
it sent (its `Ledger`), and how often this and that has happened (its tallies). `EntryStep`
lists what a step can do to one publisher's entry, and `act_entry` says that every step does
one of these:

* an accepted observation takes its number and notes its event id;
* a counter sample with a fresh number takes it, whatever becomes of the sample afterwards;
* a registration, a fence and a load do what they do to the binding;
* anything else leaves the ledger alone.

Apart from registrations and loads no step lowers a tally, or raises one by more than one.
-/

namespace CoherenceObservatory

open Std ExtTreeMap

/-! ## Ledgers -/

/-- What is written down about the numbers a publisher sends. -/
structure Ledger extends Binding where
  eventIds : BoundedFifo UInt64 UInt64 Limits.maxRecentEventIds
  accepted : UInt64
  late : UInt64
  missing : UInt64
  gaps : UInt64

/-- The ledger of a publisher. -/
def PublisherState.ledger (p : PublisherState) : Ledger where
  toBinding := p.binding
  eventIds := p.recentEventIds
  accepted := p.view.sequences.accepted
  late := p.view.sequences.lateEvents
  missing := p.view.sequences.missingEvents
  gaps := p.view.sequences.sequenceGaps

namespace Binding

/-- The number is behind the watermark. -/
def Behind (b : Binding) (sequence : UInt64) : Prop :=
  b.hasWatermark = true ∧ sequence ≤ b.highWatermark

instance (b : Binding) (sequence : UInt64) : Decidable (b.Behind sequence) :=
  inferInstanceAs (Decidable (_ ∧ _))

/-- How many numbers lie between the watermark and one ahead of it. -/
def skipped (b : Binding) (sequence : UInt64) : UInt64 :=
  if b.hasWatermark = true ∧ b.highWatermark < sequence then sequence - b.highWatermark - 1 else 0

end Binding

namespace Ledger

/-- The ledger after a number was taken. -/
def take (l : Ledger) (sequence hash : UInt64) : Ledger :=
  { l with
    toBinding := l.toBinding.commit sequence hash
    accepted := l.accepted + 1
    late := if l.Behind sequence then l.late + 1 else l.late
    missing := l.missing + l.skipped sequence
    gaps := if l.skipped sequence ≠ 0 then l.gaps + 1 else l.gaps }

/-- The ledger after an event id was noted. -/
def note (l : Ledger) (eventId hash : UInt64) : Ledger :=
  { l with eventIds := l.eventIds.push eventId hash }

end Ledger

variable {p p' : PublisherState} {sequence hash : UInt64} {r : PublisherRegistration}
  {k : PublisherId} {m : ExtTreeMap PublisherId PublisherState} {s : State}

/-- What a fresh number is accounted as. -/
theorem accountSequence_fresh (h : (accountSequence p sequence hash).disposition.isAccepted = true) :
    ((accountSequence p sequence hash).disposition = .acceptedLate ↔
        p.binding.Behind sequence) ∧
      (accountSequence p sequence hash).missing = p.binding.skipped sequence := by
  revert h
  unfold accountSequence Binding.Behind Binding.skipped
  simp only [PublisherState.binding]
  split
  next hw => simp_all
  split
  · rintro ⟨⟩
  split
  next hgt => simp_all
  next hle =>
  split
  · split <;> rintro ⟨⟩
  split
  · rintro ⟨⟩
  · simp_all

theorem commit_ledger (hfresh : (accountSequence p sequence hash).disposition.isAccepted = true)
    (hbinding : p'.binding = p.binding.commit sequence hash)
    (htallies : p'.view.sequences = p.view.sequences.commit (accountSequence p sequence hash) p'.highWatermark) :
    p'.ledger = { p.ledger.take sequence hash with eventIds := p'.recentEventIds } := by
  obtain ⟨hlate, hmissing⟩ := accountSequence_fresh hfresh
  unfold PublisherState.ledger Ledger.take
  rw [hbinding, htallies]
  simp only [SequenceState.commit, hlate, hmissing]

/-! ## Tallies -/

/-- The tallies of a publisher that count occurrences. -/
def PublisherView.tallies (v : PublisherView) : List UInt64 :=
  [v.acceptedEvents, v.acceptedBatches, v.acceptedCounters, v.rejectedEvents,
    v.sequences.accepted, v.sequences.duplicates, v.sequences.conflictingDuplicates,
    v.sequences.lateEvents, v.sequences.rejectedStale, v.sequences.counterResets,
    v.sequences.counterWraps, v.sequences.sequenceGaps]

/-- Each tally has counted on by one, or not at all. -/
def PublisherView.CountsOn (v v' : PublisherView) : Prop :=
  List.Forall₂ (fun n n' => n' = n ∨ n' = n + 1) v.tallies v'.tallies

theorem PublisherView.countsOn_of_eq {v v' : PublisherView} (h : v'.tallies = v.tallies) :
    v.CountsOn v' := by
  rw [CountsOn, h]
  exact List.forall₂_same.2 fun _ _ => .inl rfl

/-- The entry has the same ledger, and other tallies may have counted on. -/
structure PublisherState.Recounts (p p' : PublisherState) : Prop where
  ledger_eq : p'.ledger = p.ledger
  counts : p.view.CountsOn p'.view

theorem PublisherState.Recounts.refl (p : PublisherState) : p.Recounts p :=
  ⟨rfl, PublisherView.countsOn_of_eq rfl⟩

theorem commit_countsOn (q : SequenceState) (d : SequenceDecision) (high : UInt64) :
    (q.commit d high).accepted = q.accepted + 1 ∧
      ((q.commit d high).lateEvents = q.lateEvents ∨
        (q.commit d high).lateEvents = q.lateEvents + 1) ∧
      ((q.commit d high).sequenceGaps = q.sequenceGaps ∨
        (q.commit d high).sequenceGaps = q.sequenceGaps + 1) := by
  refine ⟨rfl, ?_, ?_⟩
  · unfold SequenceState.commit
    dsimp only
    split
    · exact .inr rfl
    · exact .inl rfl
  · unfold SequenceState.commit
    dsimp only
    split
    · exact .inr rfl
    · exact .inl rfl

theorem acceptObservation_countsOn (p : PublisherState) (o : Observation) (hash : UInt64)
    (d : SequenceDecision) (now : Nanos) :
    p.view.CountsOn (acceptObservation p o hash d now).view := by
  obtain ⟨haccepted, hlate, hgaps⟩ := commit_countsOn p.view.sequences d
    (acceptObservation p o hash d now).highWatermark
  simp only [PublisherView.CountsOn, PublisherView.tallies, List.forall₂_cons]
  exact ⟨.inr rfl, .inl rfl, .inl rfl, .inl rfl, .inr haccepted, .inl rfl, .inl rfl, hlate,
    .inl rfl, .inl rfl, .inl rfl, hgaps, .nil⟩

/-- A committed sample, with what its counter then did to the tallies of breaks. -/
theorem acceptCounter_countsOn (p : PublisherState) (c : CounterPublication)
    (d : SequenceDecision) (now : Nanos) {resets wraps : UInt64}
    (hresets : resets = 0 ∨ resets = 1) (hwraps : wraps = 0 ∨ wraps = 1) :
    p.view.CountsOn ((acceptCounter p c d now).countDiscontinuity resets wraps).view := by
  obtain ⟨haccepted, hlate, hgaps⟩ := commit_countsOn p.view.sequences d
    (acceptCounter p c d now).highWatermark
  have hadd {n k : UInt64} (hk : k = 0 ∨ k = 1) : n + k = n ∨ n + k = n + 1 := by
    rcases hk with rfl | rfl
    · exact .inl (UInt64.add_zero n)
    · exact .inr rfl
  simp only [PublisherView.CountsOn, PublisherView.tallies, List.forall₂_cons]
  exact ⟨.inl rfl, .inl rfl, .inr rfl, .inl rfl, .inr haccepted, .inl rfl, .inl rfl, hlate,
    .inl rfl, hadd hresets, hadd hwraps, hgaps, .nil⟩

/-! ## Registrations -/

theorem restore_account (p : PublisherState) (kept : Option PublisherWatermark) :
    (p.restore kept).window = p.window ∧ (p.restore kept).recentEventIds = p.recentEventIds ∧
      (p.restore kept).view.tallies = p.view.tallies ∧
      (p.restore kept).view.sequences.missingEvents = p.view.sequences.missingEvents := by
  cases kept with
  | none => exact ⟨rfl, rfl, rfl, rfl⟩
  | some kept =>
    rw [PublisherState.restore]
    split <;> exact ⟨rfl, rfl, rfl, rfl⟩

section

variable {previous : PublisherState} {r : PublisherRegistration} (epoch : CoordinatorEpoch)
  (kept : Option PublisherWatermark) (now : Nanos)

/-- Registering the bound boot again keeps what it sent. -/
theorem boundPublisher_same (h : previous.view.boot = r.boot) :
    let p := boundPublisher previous r epoch kept now
    p.window = previous.window ∧ p.recentEventIds = previous.recentEventIds ∧
      p.view.tallies = previous.view.tallies ∧
      p.view.sequences.missingEvents = previous.view.sequences.missingEvents := by
  unfold boundPublisher
  dsimp only
  rw [if_neg (not_not.2 h)]
  exact restore_account _ kept

/-- Another boot starts with nothing sent. -/
theorem boundPublisher_fresh (h : previous.view.boot ≠ r.boot) :
    let p := boundPublisher previous r epoch kept now
    p.window = .empty ∧ p.recentEventIds = .empty ∧ p.view.tallies = List.replicate 12 0 ∧
      p.view.sequences.missingEvents = 0 := by
  unfold boundPublisher
  dsimp only
  rw [if_pos h]
  exact restore_account _ kept

end

/-- A boot that registers has a number. -/
theorem checkRegistration_boot (h : checkRegistration r = .ok ()) : r.boot ≠ 0 := by
  obtain ⟨_, _, h⟩ := bind_eq_ok.1 h
  obtain ⟨_, h, _⟩ := bind_eq_ok.1 h
  exact failIf_eq_ok.1 h

/-! ## Entries -/

/-- What a step can do to the entry of a publisher. -/
inductive EntryStep (s : State) (a : Action) (answer : Answer) (id : PublisherId) :
    Option PublisherState → Option PublisherState → Prop
  /-- Nothing is taken. -/
  | keep {e e' : Option PublisherState} (recounts : Option.Rel PublisherState.Recounts e e')
      (accepted_ne : ∀ boot sequence, accepted a answer ≠ some (id, boot, sequence)) :
      EntryStep s a answer id e e'
  /-- An observation is accepted. -/
  | observe (o : Observation) (now : Nanos) {p p' : PublisherState} (a_eq : a = .ingest o now)
      (id_eq : o.sourcePublisher = id) (admitted : Admitted s o p)
      (accepted_eq : accepted a answer = some (id, o.publisherBoot, o.sequence))
      (ledger_eq : p'.ledger =
        (p.ledger.take o.sequence o.contentHash).note o.eventId o.contentHash)
      (counts : p.view.CountsOn p'.view) : EntryStep s a answer id (some p) (some p')
  /-- A counter sample has a fresh number. It is accepted if there is room for its counter
      and its value fits. -/
  | sample (c : CounterPublication) (now : Nanos) {p p' : PublisherState}
      (a_eq : a = .ingestCounter c now) (id_eq : c.publisher = id)
      (admitted : AdmittedCounter s c p) (fresh : p.binding.Fresh c.sequence)
      (accepts_iff : answer.accepts = true ↔ HasRoom s c ∧ FitsWidth c)
      (ledger_eq : p'.ledger = p.ledger.take c.sequence (counterHash c))
      (counts : p.view.CountsOn p'.view) : EntryStep s a answer id (some p) (some p')
  /-- A boot is bound. -/
  | bind (r : PublisherRegistration) (clock : Nat → Nanos) (s₁ : State)
      {e : Option PublisherState} (a_eq : a = .registerPublisher r clock) (id_eq : r.id = id)
      (checks : checkRegistration r = .ok ()) (admits : admitBoot s r (clock 0) = .ok s₁)
      (registered_eq : registered a answer = some (id, r.boot)) :
      EntryStep s a answer id e
        (some (boundPublisher (e.getD {}) r s.coordinatorEpoch (keptWatermark s₁ r) (clock 1)))
  /-- The bound boot is fenced. -/
  | fence (boot : PublisherBootId) (reason : FenceReason) (detail : Text) (now : Nanos)
      {p : PublisherState} (a_eq : a = .fencePublisherBoot id boot reason detail now)
      (boot_eq : p.view.boot = boot) :
      EntryStep s a answer id (some p) (some { p with view := p.view.fence reason detail })
  /-- A file is loaded. -/
  | load (path : Text) (data : List UInt8) (options : PersistenceOptions) (clock : Nat → Nanos)
      {e : Option PublisherState} (a_eq : a = .load path (some data) options clock) :
      EntryStep s a answer id e none

namespace EntryStep

variable {s : State} {a : Action} {answer : Answer} {id : PublisherId}

/-- An entry that stays as it is. -/
theorem rest (e : Option PublisherState)
    (h : ∀ boot sequence, accepted a answer ≠ some (id, boot, sequence)) :
    EntryStep s a answer id e e := by
  refine .keep ?_ h
  cases e with
  | none => exact .none
  | some p => exact .some (.refl p)

/-- What a step of publisher `k` does to its own entry says what it does to all. -/
theorem of_insert (hm : m = s.publishers.insert k p')
    (haccepted : ∀ i boot sequence, accepted a answer = some (i, boot, sequence) → i = k)
    (h : EntryStep s a answer k s.publishers[k]? (some p')) :
    EntryStep s a answer id s.publishers[id]? m[id]? := by
  subst hm
  by_cases hid : id = k
  · subst hid
    rw [getElem?_insert_self]
    exact h
  · rw [getElem?_insert, if_neg (by simpa using Ne.symm hid)]
    exact rest _ fun boot sequence hacc => hid (haccepted id boot sequence hacc)

end EntryStep

/-- The boot is bound. -/
def State.Bound (s : State) (id : PublisherId) (boot : PublisherBootId) : Prop :=
  ∃ p, s.publishers[id]? = some p ∧ p.view.boot = boot

instance (s : State) (id : PublisherId) (boot : PublisherBootId) : Decidable (s.Bound id boot) :=
  decidable_of_iff (∃ p ∈ s.publishers[id]?, p.view.boot = boot) Iff.rfl

/-! ## What each step does -/

section

variable (s : State)

variable {a : Action} {answer : Answer} {c : CounterPublication}

/-- Rewriting an entry without touching its ledger. -/
theorem entryStep_recount {id : PublisherId} (hp : s.publishers[k]? = some p) (h : p.Recounts p')
    (hm : m = s.publishers.insert k p') (haccepted : accepted a answer = none) :
    EntryStep s a answer id s.publishers[id]? m[id]? := by
  refine .of_insert hm (fun _ _ _ h => by rw [haccepted] at h; exact nomatch h) ?_
  rw [hp]
  exact .keep (.some h) fun _ _ h => by rw [haccepted] at h; exact nomatch h

/-- A step that leaves the publishers alone and takes nothing. -/
theorem entryStep_quiet (id : PublisherId) (hm : m = s.publishers)
    (haccepted : accepted a answer = none) : EntryStep s a answer id s.publishers[id]? m[id]? := by
  rw [hm]
  exact .rest _ fun _ _ h => by rw [haccepted] at h; exact nomatch h

theorem accepted_ingest (o : Observation) (now : Nanos) :
    accepted (.ingest o now) (act s (.ingest o now)).1 =
      if (ingestLocked s o now).1.disposition.isAccepted = true then
        some (o.sourcePublisher, o.publisherBoot, o.sequence) else none := rfl

theorem ingestAccepted_publishers (p : PublisherState) (o : Observation) (hash : UInt64)
    (d : SequenceDecision) (now : Nanos) :
    (ingestAccepted s p o hash d now).2.publishers =
      s.publishers.insert o.sourcePublisher (acceptObservation p o hash d now) := by
  unfold ingestAccepted
  dsimp only
  rw [applyEvidence_publishers, State.setPublisher]

/-- An observation that is not taken changes its publisher's tallies at most. -/
theorem ingestLocked_publishers_refused {o : Observation} (now : Nanos)
    (h : ∀ p, ¬Admitted s o p) :
    (ingestLocked s o now).2.publishers = s.publishers ∨
      ∃ p p', s.publishers[o.sourcePublisher]? = some p ∧ p.Recounts p' ∧
        (ingestLocked s o now).2.publishers = s.publishers.insert o.sourcePublisher p' := by
  unfold ingestLocked
  split
  · exact .inl rfl
  next hvalid =>
  split
  · exact .inl rfl
  next p hp =>
  split
  · exact .inl rfl
  next hboot =>
  split
  · exact .inl rfl
  next hepoch =>
  split
  · exact .inl rfl
  next hauthority =>
  refine .inr ⟨p, ?_⟩
  have hadmitted (hfresh : (accountSequence p o.sequence o.contentHash).disposition.isAccepted)
      (hnew : ¬p.recentEventIds.entries[o.eventId]?.any (· ≠ o.contentHash) = true) : False :=
    h p ⟨hvalid, hp, not_not.1 hboot, not_not.1 hepoch, by tauto, hfresh, by simpa using hnew⟩
  have hmutate := accountSequence_mutate p o.sequence o.contentHash
  unfold ingestAccounted
  dsimp only
  split
  · refine ⟨_, hp, ?_, rfl⟩
    exact ⟨rfl, by simp [PublisherView.CountsOn, PublisherView.tallies]⟩
  next hconflict =>
  split
  · refine ⟨_, hp, ?_, rfl⟩
    exact ⟨rfl, by simp [PublisherView.CountsOn, PublisherView.tallies]⟩
  · split
    · refine ⟨_, hp, ?_, rfl⟩
      exact ⟨rfl, by simp [PublisherView.CountsOn, PublisherView.tallies]⟩
    · refine ⟨_, hp, ?_, rfl⟩
      exact ⟨rfl, by simp [PublisherView.CountsOn, PublisherView.tallies]⟩
  all_goals
    next hd =>
    have hfresh : (accountSequence p o.sequence o.contentHash).disposition.isAccepted = true := by
      rw [hd]
      rfl
    exact (hadmitted hfresh fun hany => hconflict ⟨hmutate.trans hfresh, hany⟩).elim

theorem ingest_entry (o : Observation) (now : Nanos) (id : PublisherId) :
    EntryStep s (.ingest o now) (act s (.ingest o now)).1 id s.publishers[id]?
      (act s (.ingest o now)).2.publishers[id]? := by
  have haccepted := accepted_ingest s o now
  by_cases h : ∃ p, Admitted s o p
  · obtain ⟨p, h⟩ := h
    have hlocked := ingestLocked_admitted h now
    have hyes : (ingestLocked s o now).1.disposition.isAccepted = true := by
      rw [hlocked]
      exact h.fresh
    rw [if_pos hyes] at haccepted
    have hpublishers : (act s (.ingest o now)).2.publishers = s.publishers.insert o.sourcePublisher
        (acceptObservation p o o.contentHash (accountSequence p o.sequence o.contentHash) now) :=
      (congrArg (·.2.publishers) hlocked).trans (ingestAccepted_publishers s p o _ _ now)
    refine .of_insert hpublishers (fun i _ _ hi => ?_) ?_
    · rw [haccepted] at hi
      exact (congrArg Prod.fst (Option.some.inj hi)).symm
    · rw [h.publisher]
      refine .observe o now rfl rfl h haccepted ?_ (acceptObservation_countsOn ..)
      refine (commit_ledger h.fresh ?_ rfl).trans rfl
      simp [acceptObservation, commitEventId, commitSequence, PublisherState.binding,
        Binding.commit, Binding.highAfter]
  · have hno : (ingestLocked s o now).1.disposition.isAccepted ≠ true :=
      fun hyes => h (admitted_of_accepted hyes)
    rw [if_neg hno] at haccepted
    rcases ingestLocked_publishers_refused s now (not_exists.1 h) with hm | ⟨p, p', hp, hr, hm⟩
    · exact entryStep_quiet s id hm haccepted
    · exact entryStep_recount s hp hr hm haccepted

/-- A counter under a new descriptor has no earlier value to break off from. -/
theorem counterDelta_of_changed {k : CounterState} (h : identityChanged k c = true) :
    (counterDelta (k.describe c) c).2 = .advance := by
  have hlast : (k.describe c).hasLast = false := by simp [CounterState.describe, h]
  unfold counterDelta
  split
  · rfl
  split
  · rfl
  rw [if_pos (by simp [hlast])]

/-- A sample counts at most one break of its counter. -/
theorem sampleCounter_publishers (p : PublisherState) (c : CounterPublication) :
    ∃ resets wraps : UInt64, (resets = 0 ∨ resets = 1) ∧ (wraps = 0 ∨ wraps = 1) ∧
      (sampleCounter s p c).2.publishers =
        s.publishers.insert c.publisher (p.countDiscontinuity resets wraps) := by
  have hcount (n : UInt64) (hn : n = 0 ∨ n = 1) : ∃ resets wraps : UInt64,
      (resets = 0 ∨ resets = 1) ∧ (wraps = 0 ∨ wraps = 1) ∧
        s.publishers.insert c.publisher (p.countDiscontinuity n 0) =
          s.publishers.insert c.publisher (p.countDiscontinuity resets wraps) :=
    ⟨n, 0, hn, .inl rfl, rfl⟩
  have hzero : p.countDiscontinuity 0 0 = p := by simp [PublisherState.countDiscontinuity]
  have htwice (n m k : UInt64) : (p.countDiscontinuity n 0).countDiscontinuity m k =
      p.countDiscontinuity (n + m) k := by
    simp [PublisherState.countDiscontinuity, UInt64.add_assoc]
  unfold sampleCounter
  dsimp only
  generalize hk : s.counters[(⟨c.publisher, c.publisherBoot, c.counter⟩ : CounterKey)]?.getD {} = k
  by_cases hchanged : identityChanged k c = true
  · have hstep := counterDelta_of_changed hchanged
    simp only [hchanged, if_true, hstep, reduceCtorEq, if_false]
    split
    · exact hcount 1 (.inr rfl)
    · split
      · rw [State.setPublisher, htwice]
        exact hcount _ (.inr rfl)
      · rw [applyEvidence_publishers, State.setPublisher, htwice]
        exact hcount _ (.inr rfl)
  · simp only [hchanged, Bool.false_eq_true, if_false]
    have hone (q : Prop) [Decidable q] : (if q then (1 : UInt64) else 0) = 0 ∨
        (if q then (1 : UInt64) else 0) = 1 := by
      split
      · exact .inr rfl
      · exact .inl rfl
    split
    · refine ⟨0, 0, .inl rfl, .inl rfl, ?_⟩
      rw [hzero]
      rfl
    · split
      · refine ⟨_, _, ?_, ?_, rfl⟩
        · exact hone _
        · exact hone _
      · refine ⟨_, _, ?_, ?_, (applyEvidence_publishers ..).trans rfl⟩
        · exact hone _
        · exact hone _

theorem accepts_counter_iff (now : Nanos) (h : AdmittedCounter s c p)
    (hfresh : (accountSequence p c.sequence (counterHash c)).disposition.isAccepted = true) :
    counterAccepted (ingestCounter s c now).1 = true ↔ HasRoom s c ∧ FitsWidth c := by
  obtain ⟨_, _, hrefused, haccepted⟩ := counterAccounted_answer s p c now
  rw [ingestCounter_admitted h]
  by_cases hfits : HasRoom s c ∧ FitsWidth c
  · obtain ⟨outcome, hanswer, hyes, _⟩ := haccepted hfresh hfits.1 hfits.2
    rw [hanswer]
    exact iff_of_true hyes hfits
  · obtain ⟨e, hanswer, _⟩ := hrefused hfresh hfits
    rw [hanswer]
    exact iff_of_false (by simp [counterAccepted]) hfits

/-- The publisher of a sample with a fresh number. -/
theorem counterAccounted_publishers (now : Nanos)
    (hfresh : (accountSequence p c.sequence (counterHash c)).disposition.isAccepted = true) :
    ∃ resets wraps : UInt64, (resets = 0 ∨ resets = 1) ∧ (wraps = 0 ∨ wraps = 1) ∧
      (counterAccounted s p c now).2.publishers = s.publishers.insert c.publisher
        ((acceptCounter p c (accountSequence p c.sequence (counterHash c)) now).countDiscontinuity
          resets wraps) := by
  have hinsert (m : ExtTreeMap PublisherId PublisherState) (q q' : PublisherState) :
      (m.insert c.publisher q).insert c.publisher q' = m.insert c.publisher q' := by
    refine ext_getElem? fun k => ?_
    simp only [getElem?_insert]
    split <;> rfl
  unfold counterAccounted
  dsimp only
  generalize accountSequence p c.sequence (counterHash c) = d at hfresh ⊢
  split
  next hd => simp [hd, IngestionDisposition.isAccepted] at hfresh
  next hd => simp [hd, IngestionDisposition.isAccepted] at hfresh
  split
  · refine ⟨0, 0, .inl rfl, .inl rfl, ?_⟩
    simp [PublisherState.countDiscontinuity, State.setPublisher]
  · obtain ⟨resets, wraps, hresets, hwraps, hm⟩ := sampleCounter_publishers
      (s.setPublisher c.publisher (acceptCounter p c d now)
        { s.loss with missingSequences := s.loss.missingSequences + d.missing })
      (acceptCounter p c d now) c
    refine ⟨resets, wraps, hresets, hwraps, hm.trans ?_⟩
    rw [State.setPublisher, hinsert]

/-- A sample without a fresh number changes its publisher's tallies at most. -/
theorem counterAccounted_publishers_refused (now : Nanos)
    (h : ¬(accountSequence p c.sequence (counterHash c)).disposition.isAccepted = true) :
    counterAccepted (counterAccounted s p c now).1 = false ∧
      ∃ p', p.Recounts p' ∧
        (counterAccounted s p c now).2.publishers = s.publishers.insert c.publisher p' := by
  unfold counterAccounted
  dsimp only
  generalize accountSequence p c.sequence (counterHash c) = d at h ⊢
  split
  · refine ⟨rfl, _, ?_, rfl⟩
    exact ⟨rfl, by simp [PublisherView.CountsOn, PublisherView.tallies]⟩
  · refine ⟨rfl, _, ?_, rfl⟩
    exact ⟨rfl, by simp [PublisherView.CountsOn, PublisherView.tallies]⟩
  next hduplicate hrejected =>
    refine absurd ?_ h
    cases hd : d.disposition with
    | accepted | acceptedLate => rfl
    | duplicate => exact absurd hd hduplicate
    | rejected => exact absurd hd hrejected

theorem ingestCounter_publishers_refused (now : Nanos) (h : ∀ p, ¬AdmittedCounter s c p) :
    (ingestCounter s c now).2.publishers = s.publishers := by
  unfold ingestCounter
  split
  · rfl
  next hvalid =>
  split
  · rfl
  next hgranularity =>
  split
  · rfl
  next p hp =>
  split
  · rfl
  next hboot =>
  split
  · rfl
  next hepoch =>
  split
  · rfl
  next hauthority =>
  obtain ⟨hcurrent, hfenced⟩ := not_or.1 hauthority
  exact absurd ⟨hvalid, hgranularity, hp, not_not.1 hboot, not_not.1 hepoch, not_not.1 hcurrent,
    by simpa using hfenced⟩ (h p)

theorem ingestCounter_entry (c : CounterPublication) (now : Nanos) (id : PublisherId) :
    EntryStep s (.ingestCounter c now) (act s (.ingestCounter c now)).1 id s.publishers[id]?
      (act s (.ingestCounter c now)).2.publishers[id]? := by
  have haccepted : accepted (.ingestCounter c now) (act s (.ingestCounter c now)).1 =
      if counterAccepted (ingestCounter s c now).1 = true then
        some (c.publisher, c.publisherBoot, c.sequence) else none := rfl
  by_cases h : ∃ p, AdmittedCounter s c p
  · obtain ⟨p, h⟩ := h
    by_cases hfresh : (accountSequence p c.sequence (counterHash c)).disposition.isAccepted = true
    · obtain ⟨resets, wraps, hresets, hwraps, hm⟩ := counterAccounted_publishers s now hfresh
      rw [← ingestCounter_admitted h] at hm
      refine .of_insert (m := (act s (.ingestCounter c now)).2.publishers) hm
        (fun i _ _ hi => ?_) ?_
      · rw [haccepted] at hi
        obtain ⟨_, hi⟩ := Option.ite_none_right_eq_some.1 hi
        exact (congrArg Prod.fst (Option.some.inj hi)).symm
      · have hbinding (d : SequenceDecision) : (acceptCounter p c d now).binding =
            p.binding.commit c.sequence (counterHash c) := by
          simp [acceptCounter, commitSequence, PublisherState.binding, Binding.commit,
            Binding.highAfter]
        rw [h.publisher]
        exact .sample c now rfl rfl h ((isAccepted_accountSequence ..).1 hfresh)
          (accepts_counter_iff s now h hfresh) ((commit_ledger hfresh (hbinding _) rfl).trans rfl)
          (acceptCounter_countsOn p c _ now hresets hwraps)
    · obtain ⟨hno, p', hr, hm⟩ := counterAccounted_publishers_refused s now hfresh
      rw [← ingestCounter_admitted h] at hno hm
      rw [if_neg (by simp [hno])] at haccepted
      exact entryStep_recount s h.publisher hr hm haccepted
  · obtain ⟨e, he, _⟩ := ingestCounter_refused (not_exists.1 h) now
    rw [if_neg (by simp [he, counterAccepted])] at haccepted
    exact entryStep_quiet s id (ingestCounter_publishers_refused s now (not_exists.1 h)) haccepted

/-- What reconciliation leaves of an entry: the ledger and all tallies. -/
def PublisherState.account (p : PublisherState) : Ledger × List UInt64 :=
  (p.ledger, p.view.tallies)

theorem retireEach_account (clock : Nat → Nanos) (l : List (PublisherId × PublisherState))
    (s : State)
    (h : ∀ e ∈ l, s.publishers[e.1]?.map PublisherState.account = some e.2.account)
    (id : PublisherId) :
    (retireEach clock s l).publishers[id]?.map PublisherState.account =
      s.publishers[id]?.map PublisherState.account := by
  induction l generalizing s with
  | nil => rfl
  | cons e l ih =>
    obtain ⟨k, p⟩ := e
    have hp := h (k, p) List.mem_cons_self
    have hstep (i : PublisherId) :
        (retireEvidence s k p (clock l.length)).publishers[i]?.map PublisherState.account =
          s.publishers[i]?.map PublisherState.account := by
      change (s.publishers.insert k _)[i]?.map _ = _
      rw [getElem?_insert]
      split
      next hi =>
        rw [← LawfulEqOrd.compare_eq_iff_eq.1 hi, hp]
        rfl
      · rfl
    refine (ih _ fun e he => ?_).trans (hstep id)
    rw [hstep]
    exact h e (List.mem_cons_of_mem _ he)

theorem reconcile_entry (clock : Nat → Nanos) (id : PublisherId) :
    EntryStep s (.reconcile clock) (act s (.reconcile clock)).1 id s.publishers[id]?
      (act s (.reconcile clock)).2.publishers[id]? := by
  have h : (act s (.reconcile clock)).2.publishers[id]?.map PublisherState.account =
      s.publishers[id]?.map PublisherState.account :=
    retireEach_account clock _ { s with observationEpoch := s.observationEpoch + 1 }
      (fun e he => by
        have := mem_toList_iff_getElem?_eq_some.1 he
        simp [this]) id
  refine .keep ?_ nofun
  generalize (act s (.reconcile clock)).2.publishers[id]? = e' at h
  generalize s.publishers[id]? = e at h
  cases e with
  | none =>
    rw [Option.map_none, Option.map_eq_none_iff] at h
    subst h
    exact .none
  | some p =>
    obtain ⟨p', rfl, haccount⟩ := Option.map_eq_some_iff.1 h
    obtain ⟨hledger, htallies⟩ := Prod.mk.inj haccount
    exact .some ⟨hledger, PublisherView.countsOn_of_eq htallies⟩

theorem admitBoot_publishers {s s' : State} {now : Nanos} (h : admitBoot s r now = .ok s') :
    s'.publishers = s.publishers ∧ s'.coordinatorEpoch = s.coordinatorEpoch := by
  rcases admitBoot_cases h with ⟨rfl, _⟩ | ⟨_, rfl, _⟩ | ⟨_, rfl, _⟩ <;> exact ⟨rfl, rfl⟩

theorem registerPublisher_entry (r : PublisherRegistration) (clock : Nat → Nanos)
    (id : PublisherId) :
    EntryStep s (.registerPublisher r clock) (act s (.registerPublisher r clock)).1 id
      s.publishers[id]? (act s (.registerPublisher r clock)).2.publishers[id]? := by
  rw [act]
  rcases registerPublisher_cases s r clock with ⟨e, h⟩ | ⟨s₁, hchecks, hadmits, _, hrest⟩
  · rw [h]
    exact entryStep_quiet s id rfl rfl
  obtain ⟨hpublishers, hepoch⟩ := admitBoot_publishers hadmits
  rcases hrest with ⟨e, _, h⟩ | ⟨_, h⟩ <;> rw [h]
  · exact entryStep_quiet s id hpublishers rfl
  · refine .of_insert (k := r.id) (by rw [← hpublishers]; rfl) (by rintro _ _ _ ⟨⟩) ?_
    rw [hpublishers, hepoch]
    exact .bind r clock s₁ rfl rfl hchecks hadmits rfl

theorem fencePublisherBoot_entry (k : PublisherId) (boot : PublisherBootId) (reason : FenceReason)
    (detail : Text) (now : Nanos) (id : PublisherId) :
    EntryStep s (.fencePublisherBoot k boot reason detail now)
      (act s (.fencePublisherBoot k boot reason detail now)).1 id s.publishers[id]?
      (act s (.fencePublisherBoot k boot reason detail now)).2.publishers[id]? := by
  rw [act]
  rcases fencePublisherBoot_cases s k boot reason detail now with ⟨e, h⟩ | ⟨p, hp, hboot, _, h⟩ <;>
    rw [h]
  · exact entryStep_quiet s id rfl rfl
  · refine .of_insert (k := k) rfl (by rintro _ _ _ ⟨⟩) ?_
    rw [hp]
    exact .fence boot reason detail now rfl hboot

theorem load_entry (path : Text) (file : Option (List UInt8)) (options : PersistenceOptions)
    (clock : Nat → Nanos) (id : PublisherId) :
    EntryStep s (.load path file options clock) (act s (.load path file options clock)).1 id
      s.publishers[id]? (act s (.load path file options clock)).2.publishers[id]? := by
  rw [act, loadState]
  split
  · exact entryStep_quiet s id rfl rfl
  next data hread =>
  split
  · exact entryStep_quiet s id rfl rfl
  next staged hparse =>
  obtain rfl := readFileBounded_eq_ok hread
  have hnone : (recover s staged clock).publishers[id]? = none := by
    rw [recover_publishers]
    exact getElem?_empty
  change EntryStep _ _ _ _ _ (recover s staged clock).publishers[id]?
  rw [hnone]
  exact .load path data options clock rfl

/-- Every step does to an entry what `EntryStep` lists. -/
theorem act_entry (a : Action) (p : PublisherId) :
    EntryStep s a (act s a).1 p s.publishers[p]? (act s a).2.publishers[p]? := by
  cases a with
  | registerNode | registerProcessor | registerAccelerator | registerMemoryDomain
  | registerCoherenceDomain | registerRegion | setTopologyLink | setCapability | setCostModel
  | retireRegion | bumpTopologyGeneration =>
    exact entryStep_quiet s p (act_of_describes State.publishers rfl rfl) rfl
  | finishBatch | snapshot | save => exact entryStep_quiet s p rfl rfl
  | admitBatch count =>
    refine entryStep_quiet s p ?_ rfl
    simp only [act, Prod.map, id, admitBatch]
    split_ifs <;> rfl
  | reconcile clock => exact reconcile_entry s clock p
  | registerPublisher r clock => exact registerPublisher_entry s r clock p
  | fencePublisherBoot k boot reason detail now =>
    exact fencePublisherBoot_entry s k boot reason detail now p
  | ingest o now => exact ingest_entry s o now p
  | ingestCounter c now => exact ingestCounter_entry s c now p
  | load path file options clock => exact load_entry s path file options clock p

end

/-! ## Authority -/

/-- No boot has authority while it is fenced. -/
def State.FencedOut (s : State) : Prop :=
  ∀ (id : PublisherId) (p : PublisherState), s.publishers[id]? = some p →
    p.view.current = true → p.view.fenced = false

theorem fencedOut_initial (options : ObservatoryOptions) (now : Nanos) :
    (State.initial options now).FencedOut := fun id p hp => by simp [State.initial] at hp

theorem act_fencedOut (h : s.FencedOut) (a : Action) : (act s a).2.FencedOut := by
  intro id p' hp'
  have hentry := act_entry s a id
  rw [hp'] at hentry
  generalize he : s.publishers[id]? = e at hentry
  -- a ledger with the flags of one in which they are right
  have hflags {p : PublisherState} (hp : s.publishers[id]? = some p)
      (hcurrent : p'.ledger.current = p.ledger.current)
      (hfenced : p'.ledger.fenced = p.ledger.fenced) :
      p'.view.current = true → p'.view.fenced = false :=
    fun hyes => hfenced.trans (h id p hp (hcurrent.symm.trans hyes))
  cases hentry with
  | keep hrecounts _ =>
    cases hrecounts with
    | some hrecounts =>
      exact hflags he (by rw [hrecounts.ledger_eq]) (by rw [hrecounts.ledger_eq])
  | observe o now _ _ _ _ hledger _ => exact hflags he (by rw [hledger]; rfl) (by rw [hledger]; rfl)
  | sample c now _ _ _ _ _ hledger _ => exact hflags he (by rw [hledger]; rfl) (by rw [hledger]; rfl)
  | bind r clock s₁ _ _ _ _ _ =>
    have hbinding := boundPublisher_binding e r s.coordinatorEpoch (keptWatermark s₁ r) (clock 1)
    exact fun _ => (congrArg Binding.fenced hbinding).trans (Binding.register_authority ..).2.2.2
  | fence boot reason detail now _ _ => exact nofun

theorem final_fencedOut (h : s.FencedOut) (l : List Action) : (Run.final act s l).FencedOut :=
  Run.final_stable (I := State.FencedOut) (fun _ a h => act_fencedOut h a) h l

end CoherenceObservatory
