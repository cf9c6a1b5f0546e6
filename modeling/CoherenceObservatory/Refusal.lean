import CoherenceObservatory.Lib.Table
import CoherenceObservatory.Observatory

/-!
# Refused requests

What is left behind by a registration, an observation or a counter publication that is
refused. An observation is checked before anything is written. The other two write before
their last check: a registration writes the bound boot off before it looks for a fence of
the boot it names, and a counter publication commits its sequence before it looks for a
free slot and at the width of the value.
-/

namespace CoherenceObservatory

open Std Limits ExtTreeMap

/-! ## Registrations -/

theorem exists_eq_error {α : Type} {r : Except Error α} (h : r.toBool = false) :
    ∃ e, r = .error e := by
  cases r with
  | error e => exact ⟨e, rfl⟩
  | ok a => exact nomatch h

/-- The record of a boot that was written off. -/
def supersededRecord (p : PublisherState) (now : Nanos) : StaleEvidenceRecord where
  kind := .staleBoot
  publisher := p.view.id
  publisherBoot := p.view.boot
  observedAtNs := now
  detail := ascii "publisher boot superseded by a replacement incarnation"

/-- The boot `p` was written off before, and the log of stale evidence holds nothing but
records of that. -/
structure WrittenOff (s : State) (p : PublisherState) (now : Nanos) : Prop where
  entry : s.watermarks[bootKey p.view.id p.view.boot]? =
    some (p.watermark p.view.id p.view.boot .supersededByNewBoot)
  full : maxFindings ≤ s.stale.length
  records : ∀ record ∈ s.stale, record = supersededRecord p now

/-- A registration that gets as far as writing the bound boot `p` off and then finds its
own boot fenced. -/
structure RefusedLate (s : State) (r : PublisherRegistration) (p : PublisherState) : Prop where
  wellFormed : checkRegistration r = .ok ()
  epoch : r.coordinatorEpoch = 0 ∨ r.coordinatorEpoch = s.coordinatorEpoch
  bound : s.publishers[r.id]? = some p
  replaced : p.view.boot ≠ r.boot
  room : s.watermarks.size < maxPublisherWatermarks ∨
    bootKey p.view.id p.view.boot ∈ s.watermarks
  fenced : s.watermarks[bootKey r.id r.boot]?.any PublisherWatermark.fenced = true

theorem supersede_eq (s : State) (p : PublisherState) (now : Nanos) :
    supersede s p now = { s with
      watermarks := s.watermarks.insert (bootKey p.view.id p.view.boot)
        (p.watermark p.view.id p.view.boot .supersededByNewBoot)
      stale := (if s.stale.length ≥ maxFindings then s.stale.drop 1 else s.stale) ++
        [supersededRecord p now] } := rfl

variable {s : State} {p p' : PublisherState} {now : Nanos} {id : PublisherId}
  {r : PublisherRegistration} {c : CounterPublication}

/-- Writing a boot off leaves a trace, unless the traces of it are all there is. -/
theorem supersede_eq_self_iff : supersede s p now = s ↔ WrittenOff s p now := by
  rw [supersede_eq]
  constructor
  · intro h
    have hentry := insert_eq_self_iff.1 (congrArg State.watermarks h)
    have hstale := congrArg State.stale h
    dsimp only at hentry hstale
    split at hstale
    next hfull =>
      have hne : s.stale ≠ [] := List.ne_nil_of_length_pos (Nat.lt_of_lt_of_le (by decide) hfull)
      exact ⟨hentry, hfull, (drop_one_append_eq_self_iff hne).1 hstale⟩
    next => simp at hstale
  · rintro ⟨hentry, hfull, hrecords⟩
    have hne : s.stale ≠ [] := List.ne_nil_of_length_pos (Nat.lt_of_lt_of_le (by decide) hfull)
    rw [if_pos hfull, (drop_one_append_eq_self_iff hne).2 hrecords, insert_eq_self_iff.2 hentry]

/-- A fence entry is not touched when another boot is written off. -/
theorem getElem?_supersede {boot : PublisherBootId} (h : p.view.boot ≠ boot) (now : Nanos) :
    (supersede s p now).watermarks[bootKey id boot]? = s.watermarks[bootKey id boot]? := by
  rw [supersede_eq, getElem?_insert, if_neg]
  rw [LawfulEqOrd.compare_eq_iff_eq]
  exact fun heq => h (bootKey_injective heq).2

/-- A registration refused late has written the bound boot off. -/
theorem RefusedLate.refuses (h : RefusedLate s r p) (clock : Nat → Nanos) :
    ∃ e, registerPublisher s r clock = (.error e, supersede s p (clock 0)) := by
  have hroom : ¬(s.watermarks.size ≥ maxPublisherWatermarks ∧
      bootKey p.view.id p.view.boot ∉ s.watermarks) := by
    rintro ⟨hsize, hkey⟩
    exact h.room.elim (fun hlt => absurd hlt (Nat.not_lt.2 hsize)) hkey
  have hadmits : admitBoot s r (clock 0) = .ok (supersede s p (clock 0)) := by
    simp only [admitBoot, h.bound, h.replaced, if_false, hroom]
  have hfenced : (supersede s p (clock 0)).watermarks[bootKey r.id r.boot]?.any
      PublisherWatermark.fenced = true := by
    rw [getElem?_supersede h.replaced]
    exact h.fenced
  refine ⟨failWith .staleBoot "publisher boot identity was fenced and can never be re-admitted"
    (bootKey r.id r.boot), ?_⟩
  rw [registerPublisher, h.wellFormed]
  dsimp only
  rw [if_neg (by have := h.epoch; tauto), hadmits]
  dsimp only
  rw [if_pos hfenced]

/-- Any other refused registration has no effect. -/
theorem registerPublisher_error {clock : Nat → Nanos}
    (h : ∃ e, (registerPublisher s r clock).1 = .error e) :
    (registerPublisher s r clock).2 = s ∨
      ∃ p, RefusedLate s r p ∧ (registerPublisher s r clock).2 = supersede s p (clock 0) := by
  rcases registerPublisher_cases s r clock with
    ⟨e, he⟩ | ⟨s', hcheck, hadmits, hepoch, ⟨e, hfenced, he⟩ | ⟨_, hok⟩⟩
  · exact .inl (by rw [he])
  · rw [he]
    rcases admitBoot_cases hadmits with ⟨rfl, _⟩ | ⟨_, rfl, _⟩ | ⟨p, rfl, hp, hboot, hroom⟩
    · exact .inl rfl
    · exact .inl rfl
    · rw [getElem?_supersede hboot] at hfenced
      exact .inr ⟨p, ⟨hcheck, hepoch, hp, hboot, hroom, hfenced⟩, rfl⟩
  · obtain ⟨e, he⟩ := h
    rw [hok] at he
    exact nomatch he

/-- A refused registration has no effect exactly if it is not one that is refused after the
    bound boot was written off, or that boot had been written off before. -/
theorem refusedRegistration_unchanged_iff (s : State) (r : PublisherRegistration)
    (clock : Nat → Nanos) :
    ((∃ e, (registerPublisher s r clock).1 = .error e) → (registerPublisher s r clock).2 = s) ↔
      ∀ p, RefusedLate s r p → WrittenOff s p (clock 0) := by
  constructor
  · intro h p hp
    obtain ⟨e, he⟩ := hp.refuses clock
    have hsame := h ⟨e, by rw [he]⟩
    rw [he] at hsame
    exact supersede_eq_self_iff.1 hsame
  · intro h herror
    rcases registerPublisher_error herror with hsame | ⟨p, hp, hstate⟩
    · exact hsame
    · rw [hstate]
      exact supersede_eq_self_iff.2 (h p hp)

/-- A fenced boot tries to take its place back from the boot that replaced it. It is refused,
    but the bound boot has lost its place in the table as well. -/
theorem refusedRegistration_writes_off :
    let s := Run.final act (State.initial {} 0)
      [.registerPublisher { id := ascii "p", boot := 1 } fun _ => 0,
       .fencePublisherBoot (ascii "p") 1 .administrative [] 0,
       .registerPublisher { id := ascii "p", boot := 2 } fun _ => 0]
    let result := registerPublisher s { id := ascii "p", boot := 1 } fun _ => 0
    (∃ e, result.1 = .error e) ∧ result.2 ≠ s := by
  intro s result
  have hlength : result.2.stale.length ≠ s.stale.length := by decide +kernel
  exact ⟨exists_eq_error (by decide +kernel), fun h => hlength (by rw [h])⟩

/-! ## Observations -/

/-- The tallies of a loss report. -/
inductive LossTally
  | rejectedObservations | rejectedDuplicates | rejectedConflictingDuplicates
  | rejectedStaleSequences | rejectedUnauthorized | rejectedMalformed | rejectedOverflow
  | droppedAggregateUpdates | droppedJournalEntries | droppedRegionSamples
  | evictedHistoryRecords | missingSequences | backpressureRejections
  deriving DecidableEq

/-- The tally under its name. -/
def LossReport.tally (l : LossReport) : LossTally → UInt64
  | .rejectedObservations => l.rejectedObservations
  | .rejectedDuplicates => l.rejectedDuplicates
  | .rejectedConflictingDuplicates => l.rejectedConflictingDuplicates
  | .rejectedStaleSequences => l.rejectedStaleSequences
  | .rejectedUnauthorized => l.rejectedUnauthorized
  | .rejectedMalformed => l.rejectedMalformed
  | .rejectedOverflow => l.rejectedOverflow
  | .droppedAggregateUpdates => l.droppedAggregateUpdates
  | .droppedJournalEntries => l.droppedJournalEntries
  | .droppedRegionSamples => l.droppedRegionSamples
  | .evictedHistoryRecords => l.evictedHistoryRecords
  | .missingSequences => l.missingSequences
  | .backpressureRejections => l.backpressureRejections

/-- One tally went up by one and the others stayed. -/
def CountsOne (l l' : LossReport) : Prop :=
  ∃ t, ∀ t', l'.tally t' = if t' = t then l.tally t' + 1 else l.tally t'

/-- The entry of a publisher without its tallies of duplicate, conflicting, stale and
rejected events. -/
def PublisherState.sansTallies (p : PublisherState) : PublisherState :=
  { p with view := { p.view with
    rejectedEvents := 0
    sequences := { p.view.sequences with
      duplicates := 0
      conflictingDuplicates := 0
      rejectedStale := 0 } } }

/-- `s'` is `s` with one more loss counted, and perhaps with other tallies of refused events
for the publisher `id`. -/
def CountedOnly (s s' : State) (id : PublisherId) : Prop :=
  ∃ publishers loss, s' = { s with publishers, loss } ∧
    (∀ other, other ≠ id → publishers[other]? = s.publishers[other]?) ∧
    publishers[id]?.map PublisherState.sansTallies =
      s.publishers[id]?.map PublisherState.sansTallies ∧
    CountsOne s.loss loss

theorem CountedOnly.unauthorized (s : State) (id : PublisherId) :
    CountedOnly s s.unauthorized id := by
  refine ⟨_, _, rfl, fun _ _ => rfl, rfl, .rejectedUnauthorized, fun t => ?_⟩
  cases t <;> rfl

theorem CountedOnly.malformed (s : State) (id : PublisherId) : CountedOnly s s.malformed id := by
  refine ⟨_, _, rfl, fun _ _ => rfl, rfl, .rejectedMalformed, fun t => ?_⟩
  cases t <;> rfl

theorem CountedOnly.setPublisher {loss : LossReport} (hp : s.publishers[id]? = some p)
    (h : p'.sansTallies = p.sansTallies) (hloss : CountsOne s.loss loss) :
    CountedOnly s (s.setPublisher id p' loss) id := by
  refine ⟨_, _, rfl, fun other hne => ?_, ?_, hloss⟩
  · rw [getElem?_insert, if_neg]
    rw [LawfulEqOrd.compare_eq_iff_eq]
    exact hne.symm
  · rw [getElem?_insert_self, hp, Option.map_some, Option.map_some, h]

/-- With authority a refused observation is a duplicate, a conflict or too old. -/
theorem ingestAccounted_counted {o : Observation} (hp : s.publishers[o.sourcePublisher]? = some p)
    (h : (ingestAccounted s p o now).1.disposition.isAccepted = false) :
    CountedOnly s (ingestAccounted s p o now).2 o.sourcePublisher := by
  have hconflict : CountsOne s.loss { s.loss with
      rejectedConflictingDuplicates := s.loss.rejectedConflictingDuplicates + 1 } :=
    ⟨.rejectedConflictingDuplicates, fun t => by cases t <;> rfl⟩
  unfold ingestAccounted at h ⊢
  dsimp only at h ⊢
  split
  next => exact .setPublisher hp rfl hconflict
  next hid =>
  rw [if_neg hid] at h
  split
  next =>
    refine .setPublisher hp rfl ⟨.rejectedDuplicates, fun t => ?_⟩
    cases t <;> rfl
  next =>
    split
    next =>
      refine .setPublisher hp rfl ⟨.rejectedStaleSequences, fun t => ?_⟩
      cases t <;> rfl
    next => exact .setPublisher hp rfl hconflict
  next hd =>
    rw [hd] at h
    simp [ingestAccepted, hd, IngestionDisposition.isAccepted] at h
  next hd =>
    rw [hd] at h
    simp [ingestAccepted, hd, IngestionDisposition.isAccepted] at h

/-- An observation that is reported as rejected or as a duplicate is counted as one loss,
    with its publisher if it was known, and has no other effect. -/
theorem refusedObservation_counted (s : State) (o : Observation) (now : Nanos)
    (h : (ingestLocked s o now).1.disposition = .rejected ∨
      (ingestLocked s o now).1.disposition = .duplicate) :
    CountedOnly s (ingestLocked s o now).2 o.sourcePublisher := by
  have hrefused : (ingestLocked s o now).1.disposition.isAccepted = false := by
    rcases h with h | h <;> rw [h] <;> rfl
  unfold ingestLocked at hrefused ⊢
  split
  next => exact .malformed s _
  next hvalid =>
  rw [hvalid] at hrefused
  dsimp only at hrefused
  split
  next => exact .unauthorized s _
  next p hp =>
  rw [hp] at hrefused
  dsimp only at hrefused
  split
  next => exact .unauthorized s _
  next hboot =>
  rw [if_neg hboot] at hrefused
  split
  next => exact .unauthorized s _
  next hepoch =>
  rw [if_neg hepoch] at hrefused
  split
  next => exact .unauthorized s _
  next hcurrent =>
  rw [if_neg hcurrent] at hrefused
  exact ingestAccounted_counted hp hrefused

/-- A publisher sends its first observation twice. -/
theorem refusedObservation_counted_repeat :
    let o : Observation :=
      { eventId := 1, type := .RemoteRead, sourcePublisher := ascii "p", publisherBoot := 1,
        coordinatorEpoch := 1, topologyGeneration := 1, sequence := 1, timestampNs := 1 }
    let s := Run.final act (State.initial {} 0)
      [.registerPublisher { id := ascii "p", boot := 1 } fun _ => 0, .ingest o 0]
    (ingestLocked s o 0).1.disposition = .duplicate ∧
      CountedOnly s (ingestLocked s o 0).2 (ascii "p") := by
  intro o s
  have hrepeat : (ingestLocked s o 0).1.disposition = .duplicate := by decide +kernel
  exact ⟨hrepeat, refusedObservation_counted s o 0 (.inr hrepeat)⟩

/-! ## Counters -/

/-- The entry of a publisher without its tally of rejected events. -/
def PublisherState.sansRejections (p : PublisherState) : PublisherState :=
  { p with view := { p.view with rejectedEvents := 0 } }

/-- `s'` differs from `s` at most in the loss report and in how many events of a publisher
were rejected. -/
def RejectionsOnly (s s' : State) : Prop :=
  ∃ publishers loss, s' = { s with publishers, loss } ∧
    ∀ id : PublisherId, publishers[id]?.map PublisherState.sansRejections =
      s.publishers[id]?.map PublisherState.sansRejections

theorem RejectionsOnly.of_loss (s : State) (loss : LossReport) :
    RejectionsOnly s { s with loss } := ⟨_, _, rfl, fun _ => rfl⟩

theorem RejectionsOnly.setPublisher (hp : s.publishers[id]? = some p)
    (h : p'.sansRejections = p.sansRejections) (loss : LossReport) :
    RejectionsOnly s (s.setPublisher id p' loss) := by
  refine ⟨_, _, rfl, fun id' => ?_⟩
  rw [getElem?_insert]
  split
  next heq => rw [← LawfulEqOrd.eq_of_compare heq, hp, Option.map_some, Option.map_some, h]
  next => rfl

theorem RejectionsOnly.acceptedCounters_eq {s' : State} (h : RejectionsOnly s s') (id : PublisherId) :
    s'.publishers[id]?.map (·.view.acceptedCounters) =
      s.publishers[id]?.map (·.view.acceptedCounters) := by
  obtain ⟨publishers, loss, rfl, hsame⟩ := h
  have hentry := congrArg (Option.map (·.view.acceptedCounters)) (hsame id)
  rw [Option.map_map, Option.map_map] at hentry
  exact hentry

/-- A counter publication of a current boot with a fresh sequence that cannot be sampled:
there is no slot for a new counter, or the value is wider than the counter. -/
structure RefusedCommitted (s : State) (c : CounterPublication) (p : PublisherState) : Prop where
  wellFormed : validateCounterPublication c = .ok ()
  granularity : c.granularity ≠ .Unknown
  bound : s.publishers[c.publisher]? = some p
  boot : p.view.boot = c.publisherBoot
  epoch : c.coordinatorEpoch = s.coordinatorEpoch
  current : p.view.current = true
  fenced : p.view.fenced = false
  fresh : p.binding.Fresh c.sequence
  obstacle : (⟨c.publisher, c.publisherBoot, c.counter⟩ ∉ s.counters ∧
      s.counters.size ≥ maxCounterRecords) ∨
    (c.kind ≠ .Delta ∧ c.kind ≠ .Sampled ∧ c.rawValue > widthMax c.widthBits)

/-- The state in which the sequence of a counter publication was committed. -/
def commitCounter (s : State) (p : PublisherState) (c : CounterPublication) (now : Nanos) : State :=
  s.setPublisher c.publisher
    (acceptCounter p c (accountSequence p c.sequence (counterHash c)) now)
    { s.loss with missingSequences := s.loss.missingSequences +
      (accountSequence p c.sequence (counterHash c)).missing }

theorem counterAccounted_of_fresh (h : p.binding.Fresh c.sequence) (now : Nanos) :
    counterAccounted s p c now =
      if ⟨c.publisher, c.publisherBoot, c.counter⟩ ∉ s.counters ∧
          s.counters.size ≥ maxCounterRecords then
        (.error (failWith .capacity "counter capacity reached"),
          { commitCounter s p c now with loss := { (commitCounter s p c now).loss with
            rejectedOverflow := (commitCounter s p c now).loss.rejectedOverflow + 1 } })
      else sampleCounter (commitCounter s p c now)
        (acceptCounter p c (accountSequence p c.sequence (counterHash c)) now) c := by
  have haccepted := (isAccepted_accountSequence p c.sequence (counterHash c)).2 h
  unfold counterAccounted
  dsimp only
  split
  next hd => rw [hd] at haccepted; exact nomatch haccepted
  next hd => rw [hd] at haccepted; exact nomatch haccepted
  next => rfl

/-- A value wider than its counter is refused with the publisher entry written. -/
theorem sampleCounter_of_wide
    (h : c.kind ≠ .Delta ∧ c.kind ≠ .Sampled ∧ c.rawValue > widthMax c.widthBits) :
    (∃ e, (sampleCounter s p c).1 = .error e) ∧
      (sampleCounter s p c).2.publishers[c.publisher]?.map (·.view.acceptedCounters) =
        some p.view.acceptedCounters := by
  unfold sampleCounter
  dsimp only
  rw [if_pos h]
  refine ⟨⟨_, rfl⟩, ?_⟩
  change (s.publishers.insert c.publisher _)[c.publisher]?.map _ = _
  rw [getElem?_insert_self, Option.map_some]
  split <;> rfl

/-- An error after the commit is one of the two obstacles. -/
theorem sampleCounter_error (h : ∃ e, (sampleCounter s p c).1 = .error e) :
    c.kind ≠ .Delta ∧ c.kind ≠ .Sampled ∧ c.rawValue > widthMax c.widthBits := by
  obtain ⟨e, he⟩ := h
  unfold sampleCounter at he
  dsimp only at he
  split at he
  next hwide => exact hwide
  next => split at he <;> exact nomatch he

/-- A publication refused after the commit shows in the publisher's tally of counters. -/
theorem RefusedCommitted.refuses (h : RefusedCommitted s c p) (now : Nanos) :
    (∃ e, (ingestCounter s c now).1 = .error e) ∧
      (ingestCounter s c now).2.publishers[c.publisher]?.map (·.view.acceptedCounters) =
        some (p.view.acceptedCounters + 1) := by
  have hlocked : ingestCounter s c now = counterAccounted s p c now := by
    simp only [ingestCounter, h.wellFormed, h.granularity, h.bound, h.boot, h.epoch, h.current,
      h.fenced, if_false, ne_eq, not_true_eq_false, Bool.false_eq_true, or_self]
  rw [hlocked, counterAccounted_of_fresh h.fresh]
  split
  next =>
    refine ⟨⟨_, rfl⟩, ?_⟩
    change (s.publishers.insert c.publisher _)[c.publisher]?.map _ = _
    rw [getElem?_insert_self]
    rfl
  next hslot => exact sampleCounter_of_wide (h.obstacle.resolve_left hslot)

/-- Any other refused publication changes tallies of rejections only. -/
theorem ingestCounter_error (h : ∃ e, (ingestCounter s c now).1 = .error e) :
    RejectionsOnly s (ingestCounter s c now).2 ∨ ∃ p, RefusedCommitted s c p := by
  obtain ⟨e, he⟩ := h
  unfold ingestCounter at he ⊢
  split
  next => exact .inl (.of_loss s _)
  next hvalid =>
  rw [hvalid] at he
  dsimp only at he
  split
  next => exact .inl (.of_loss s _)
  next hgranularity =>
  rw [if_neg hgranularity] at he
  split
  next => exact .inl (.of_loss s _)
  next p hp =>
  rw [hp] at he
  dsimp only at he
  split
  next => exact .inl (.of_loss s _)
  next hboot =>
  rw [if_neg hboot] at he
  split
  next => exact .inl (.of_loss s _)
  next hepoch =>
  rw [if_neg hepoch] at he
  split
  next => exact .inl (.of_loss s _)
  next hcurrent =>
  rw [if_neg hcurrent] at he
  rw [not_or, not_not, Bool.not_eq_true] at hcurrent
  by_cases hfresh : p.binding.Fresh c.sequence
  · right
    refine ⟨p, hvalid, hgranularity, hp, not_not.1 hboot, not_not.1 hepoch, hcurrent.1, hcurrent.2,
      hfresh, ?_⟩
    rw [counterAccounted_of_fresh hfresh] at he
    split at he
    next hslot => exact .inl hslot
    next => exact .inr (sampleCounter_error ⟨e, he⟩)
  · left
    -- the sequence is not fresh, so nothing was committed
    have hquiet := mt (isAccepted_accountSequence p c.sequence (counterHash c)).1 hfresh
    unfold counterAccounted at he ⊢
    dsimp only at he ⊢
    split
    next hd => rw [hd] at he; exact nomatch he
    next =>
      refine RejectionsOnly.setPublisher hp ?_ _
      rfl
    next hdup hrej =>
      refine absurd ?_ hquiet
      cases hd : (accountSequence p c.sequence (counterHash c)).disposition <;>
        simp_all [IngestionDisposition.isAccepted]

/-- A refused counter publication changes nothing but tallies of rejections exactly if it
    is not one that is refused after its sequence was committed. -/
theorem refusedCounter_unchanged_iff (s : State) (c : CounterPublication) (now : Nanos) :
    ((∃ e, (ingestCounter s c now).1 = .error e) → RejectionsOnly s (ingestCounter s c now).2) ↔
      ∀ p, ¬RefusedCommitted s c p := by
  constructor
  · intro h p hp
    obtain ⟨herror, hcount⟩ := hp.refuses now
    rw [(h herror).acceptedCounters_eq, hp.bound, Option.map_some, Option.some.injEq] at hcount
    simp at hcount
  · intro h herror
    exact (ingestCounter_error herror).resolve_right fun ⟨p, hp⟩ => h p hp

/-- A publication whose value does not fit its width is refused, with its sequence
    committed and a record made for the counter. -/
theorem refusedCounter_commits :
    let s := Run.final act (State.initial {} 0)
      [.registerPublisher { id := ascii "p", boot := 1 } fun _ => 0]
    let result := ingestCounter s
      { publisher := ascii "p", publisherBoot := 1, coordinatorEpoch := 1, counter := ascii "k",
        scope := .Global, granularity := .Aggregate, widthBits := 8, rawValue := 300,
        sequence := 1, timestampNs := 1 } 0
    (∃ e, result.1 = .error e) ∧ ¬RejectionsOnly s result.2 := by
  intro s result
  have hcount : result.2.publishers[ascii "p"]?.map (·.view.acceptedCounters) ≠
      s.publishers[ascii "p"]?.map (·.view.acceptedCounters) := by decide +kernel
  exact ⟨exists_eq_error (by decide +kernel), fun h => hcount (h.acceptedCounters_eq _)⟩

end CoherenceObservatory
