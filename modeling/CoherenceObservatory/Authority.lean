import CoherenceObservatory.Ingest

/-!
# Bindings

The part of a publisher entry that authority and sequence accounting depend on: which
boot is bound, whether it is current, and what has been accounted for it. Everything else
an entry holds is tallies and descriptions.

The operations are described once by what they do to bindings:
-/

namespace CoherenceObservatory

open Std Limits ExtTreeMap

/-- What a publisher is bound to and what has been accounted for it. -/
structure Binding where
  id : PublisherId
  boot : PublisherBootId
  current : Bool
  fenced : Bool
  hasWatermark : Bool
  highWatermark : UInt64
  durableWatermark : Bool
  window : BoundedFifo UInt64 UInt64 maxSequenceWindow

/-- The part of an entry that authority depends on. -/
def PublisherState.binding (p : PublisherState) : Binding where
  id := p.view.id
  boot := p.view.boot
  current := p.view.current
  fenced := p.view.fenced
  hasWatermark := p.hasWatermark
  highWatermark := p.highWatermark
  durableWatermark := p.durableWatermark
  window := p.window

/-- The binding of a publisher identity. -/
def State.binding (s : State) (id : PublisherId) : Option Binding :=
  s.publishers[id]?.map PublisherState.binding

namespace Binding

/-- A sequence that accounting takes for new: the first one, one above the watermark, or
    an unseen one inside the window of a watermark that is not durable. -/
def Fresh (b : Binding) (sequence : UInt64) : Prop :=
  b.hasWatermark = false ∨ sequence > b.highWatermark ∨
    (b.durableWatermark = false ∧ sequence ∉ b.window ∧
      ¬(b.highWatermark ≥ sequenceWindow ∧ sequence ≤ b.highWatermark - sequenceWindow))

/-- The watermark after a sequence was committed. -/
def highAfter (b : Binding) (sequence : UInt64) : UInt64 :=
  if b.hasWatermark = false ∨ sequence > b.highWatermark then sequence else b.highWatermark

/-- The binding after a sequence was committed. -/
def commit (b : Binding) (sequence contentHash : UInt64) : Binding :=
  { b with
    hasWatermark := true
    highWatermark := b.highAfter sequence
    window := b.window.push sequence contentHash }

/-- A binding without authority. -/
def fence (b : Binding) : Binding := { b with current := false, fenced := true }

/-- A boot bound for the first time, or again. -/
def register (b : Option Binding) (id : PublisherId) (boot : PublisherBootId)
    (kept : Option PublisherWatermark) : Binding :=
  let old := b.getD (PublisherState.binding {})
  let fresh : Binding :=
    if old.boot = boot then { old with id, current := true, fenced := false }
    else
      { old with
        id, boot, current := true, fenced := false
        hasWatermark := false
        highWatermark := 0
        window := .empty }
  match kept with
  | some kept =>
    if kept.hasWatermark ∧ ¬fresh.hasWatermark then
      { fresh with
        hasWatermark := true, highWatermark := kept.highWatermark, durableWatermark := true }
    else fresh
  | none => fresh

end Binding

/-! ## Ingestion -/

/-- `s'` differs from `s` at most in what ingestion writes. -/
def IngestOnly (s s' : State) : Prop :=
  ∃ publishers counters aggregates journal evidence order stale loss, s' = { s with
    publishers
    counters
    aggregates
    journal
    regionEvidence := evidence
    regionEvidenceOrder := order
    stale
    loss }

theorem IngestOnly.refl (s : State) : IngestOnly s s := ⟨_, _, _, _, _, _, _, _, rfl⟩

variable {s s' : State} {p : PublisherState} {o : Observation} {c : CounterPublication}

theorem EvidenceOnly.ingestOnly (h : EvidenceOnly s s') : IngestOnly s s' := by
  obtain ⟨_, _, _, _, _, rfl⟩ := h
  exact ⟨_, _, _, _, _, _, _, _, rfl⟩

theorem IngestOnly.trans {s'' : State} (h : IngestOnly s s') (h' : IngestOnly s' s'') :
    IngestOnly s s'' := by
  obtain ⟨_, _, _, _, _, _, _, _, rfl⟩ := h
  obtain ⟨p, c, a, j, e, o, t, l, rfl⟩ := h'
  exact ⟨p, c, a, j, e, o, t, l, rfl⟩

theorem IngestOnly.watermarks_eq (h : IngestOnly s s') : s'.watermarks = s.watermarks := by
  obtain ⟨_, _, _, _, _, _, _, _, rfl⟩ := h
  rfl

theorem IngestOnly.coordinatorEpoch_eq (h : IngestOnly s s') :
    s'.coordinatorEpoch = s.coordinatorEpoch := by
  obtain ⟨_, _, _, _, _, _, _, _, rfl⟩ := h
  rfl

theorem IngestOnly.regions_eq (h : IngestOnly s s') : s'.regions = s.regions := by
  obtain ⟨_, _, _, _, _, _, _, _, rfl⟩ := h
  rfl

theorem IngestOnly.options_eq (h : IngestOnly s s') : s'.options = s.options := by
  obtain ⟨_, _, _, _, _, _, _, _, rfl⟩ := h
  rfl

theorem binding_congr (h : s'.publishers = s.publishers) : s'.binding = s.binding := by
  funext k
  rw [State.binding, State.binding, h]

theorem binding_setPublisher (s : State) (id : PublisherId) (p : PublisherState)
    (loss : LossReport) :
    (s.setPublisher id p loss).binding = Function.update s.binding id (some p.binding) := by
  funext k
  by_cases hk : k = id
  · subst hk
    simp [State.binding, State.setPublisher]
  · simp [State.binding, State.setPublisher, getElem?_insert, hk, Ne.symm hk]

/-- Rewriting an entry without touching its binding keeps all bindings. -/
theorem binding_setPublisher_same {id : PublisherId} {p' : PublisherState} (loss : LossReport)
    (hp : s.publishers[id]? = some p) (h : p'.binding = p.binding) :
    (s.setPublisher id p' loss).binding = s.binding := by
  rw [binding_setPublisher, h]
  refine Function.update_eq_self_iff.2 ?_
  simp [State.binding, hp]

theorem applyEvidence_ingestOnly (s : State) (o : Observation) (a : AttributionResult)
    (record : StaleEvidenceRecord) : IngestOnly s (applyEvidence s o a record) := by
  unfold applyEvidence
  dsimp only
  split
  all_goals
    obtain ⟨_, _, _, _, _, h⟩ := applyObservation_evidenceOnly _ o a.outcome a.locality
      a.localityEstablished
    rw [h]
    exact ⟨_, _, _, _, _, _, _, _, rfl⟩

theorem applyEvidence_publishers (s : State) (o : Observation) (a : AttributionResult)
    (record : StaleEvidenceRecord) : (applyEvidence s o a record).publishers = s.publishers := by
  unfold applyEvidence
  dsimp only
  split
  all_goals
    obtain ⟨_, _, _, _, _, h⟩ := applyObservation_evidenceOnly _ o a.outcome a.locality
      a.localityEstablished
    rw [h]
  rfl

theorem applyEvidence_binding (s : State) (o : Observation) (a : AttributionResult)
    (record : StaleEvidenceRecord) : (applyEvidence s o a record).binding = s.binding :=
  binding_congr (applyEvidence_publishers s o a record)

/-- The dispositions that count as acceptance. -/
def IngestionDisposition.isAccepted : IngestionDisposition → Bool
  | .accepted => true
  | .acceptedLate => true
  | _ => false

/-- A sequence is accepted when it is fresh, and only then. -/
theorem isAccepted_accountSequence (p : PublisherState) (sequence hash : UInt64) :
    (accountSequence p sequence hash).disposition.isAccepted = true ↔
      p.binding.Fresh sequence := by
  have hseen : sequence ∈ p.window ↔ p.window.entries[sequence]?.isSome :=
    mem_iff_isSome_getElem?
  unfold accountSequence Binding.Fresh
  simp only [PublisherState.binding]
  split
  next hw => simp_all [IngestionDisposition.isAccepted]
  next hw =>
  split
  next hdurable => simp_all [IngestionDisposition.isAccepted, UInt64.not_lt.2 hdurable.2]
  next hdurable =>
  split
  next hgt => simp_all [IngestionDisposition.isAccepted]
  next hle =>
  have hd : p.durableWatermark = false := by
    by_contra hd
    exact hdurable ⟨by simpa using hd, UInt64.not_lt.1 hle⟩
  split
  next seen hentry => split <;> simp_all [IngestionDisposition.isAccepted]
  next hentry =>
  rw [hentry] at hseen
  split <;> simp_all [IngestionDisposition.isAccepted]

/-- What an accepted observation or counter sample does to the bindings. -/
structure Commits (s s' : State) (id : PublisherId) (boot : PublisherBootId)
    (sequence hash : UInt64) (b : Binding) : Prop where
  bound : s.binding id = some b
  boot_eq : b.boot = boot
  authority : s.options.enforceCurrentPublisher = true → b.current = true ∧ b.fenced = false
  fresh : b.Fresh sequence
  binding_eq : s'.binding = Function.update s.binding id (some (b.commit sequence hash))

theorem ingestAccepted_binding (s : State) (p : PublisherState) (o : Observation) (hash : UInt64)
    (d : SequenceDecision) (now : Nanos) :
    IngestOnly s (ingestAccepted s p o hash d now).2 ∧
      (ingestAccepted s p o hash d now).1.disposition = d.disposition ∧
      (ingestAccepted s p o hash d now).2.binding =
        Function.update s.binding o.sourcePublisher (some (p.binding.commit o.sequence hash)) := by
  refine ⟨IngestOnly.trans ⟨_, _, _, _, _, _, _, _, rfl⟩ (applyEvidence_ingestOnly _ _ _ _), rfl, ?_⟩
  unfold ingestAccepted
  dsimp only
  rw [applyEvidence_binding, binding_setPublisher]
  congr 2
  simp [acceptObservation, commitEventId, commitSequence, PublisherState.binding, Binding.commit,
    Binding.highAfter]

/-- An observation changes no binding, or commits a fresh sequence of the bound boot. -/
theorem ingestAccounted_binding (now : Nanos) (hp : s.publishers[o.sourcePublisher]? = some p) :
    IngestOnly s (ingestAccounted s p o now).2 ∧
      (((ingestAccounted s p o now).1.disposition.isAccepted = false ∧
          (ingestAccounted s p o now).2.binding = s.binding) ∨
        ((ingestAccounted s p o now).1.disposition.isAccepted = true ∧
          p.binding.Fresh o.sequence ∧
          (ingestAccounted s p o now).2.binding = Function.update s.binding o.sourcePublisher
            (some (p.binding.commit o.sequence o.contentHash)))) := by
  unfold ingestAccounted
  dsimp only
  split
  · exact ⟨⟨_, _, _, _, _, _, _, _, rfl⟩, .inl ⟨rfl, binding_setPublisher_same _ hp rfl⟩⟩
  split
  · exact ⟨⟨_, _, _, _, _, _, _, _, rfl⟩, .inl ⟨rfl, binding_setPublisher_same _ hp rfl⟩⟩
  · refine ⟨?_, .inl ⟨rfl, ?_⟩⟩
    · split <;> exact ⟨_, _, _, _, _, _, _, _, rfl⟩
    · split <;> exact binding_setPublisher_same _ hp rfl
  all_goals
    next hd =>
    obtain ⟨honly, hdisp, hbinding⟩ := ingestAccepted_binding s p o o.contentHash
      (accountSequence p o.sequence o.contentHash) now
    refine ⟨honly, .inr ⟨by rw [hdisp, hd]; rfl, ?_, hbinding⟩⟩
    refine (isAccepted_accountSequence p o.sequence o.contentHash).1 ?_
    rw [hd]
    rfl

/-- Nothing, or one fresh sequence of the bound boot is committed. -/
theorem ingestLocked_binding (s : State) (o : Observation) (now : Nanos) :
    IngestOnly s (ingestLocked s o now).2 ∧
      (((ingestLocked s o now).1.disposition.isAccepted = false ∧
          (ingestLocked s o now).2.binding = s.binding) ∨
        ((ingestLocked s o now).1.disposition.isAccepted = true ∧
          o.coordinatorEpoch = s.coordinatorEpoch ∧
          ∃ b, Commits s (ingestLocked s o now).2 o.sourcePublisher o.publisherBoot o.sequence
            o.contentHash b)) := by
  unfold ingestLocked
  split
  · exact ⟨⟨_, _, _, _, _, _, _, _, rfl⟩, .inl ⟨rfl, rfl⟩⟩
  split
  · exact ⟨⟨_, _, _, _, _, _, _, _, rfl⟩, .inl ⟨rfl, rfl⟩⟩
  next p hp =>
  split
  · exact ⟨⟨_, _, _, _, _, _, _, _, rfl⟩, .inl ⟨rfl, rfl⟩⟩
  next hboot =>
  split
  · exact ⟨⟨_, _, _, _, _, _, _, _, rfl⟩, .inl ⟨rfl, rfl⟩⟩
  next hepoch =>
  split
  · exact ⟨⟨_, _, _, _, _, _, _, _, rfl⟩, .inl ⟨rfl, rfl⟩⟩
  next hcurrent =>
  obtain ⟨honly, hquiet | ⟨hacc, hfresh, hbinding⟩⟩ := ingestAccounted_binding now hp
  · exact ⟨honly, .inl hquiet⟩
  · refine ⟨honly, .inr ⟨hacc, not_not.1 hepoch, p.binding, ?_, not_not.1 hboot, ?_, hfresh,
      hbinding⟩⟩
    · simp [State.binding, hp]
    · intro henforce
      have h : p.view.current ∧ ¬p.view.fenced := by
        by_contra h
        exact hcurrent ⟨h, henforce⟩
      exact ⟨h.1, by simpa [PublisherState.binding] using h.2⟩

/-- A well-formed observation of the current boot with a fresh sequence is accepted. Its
    event id must be new, or stand for the same content. -/
theorem ingestLocked_accepts (now : Nanos) (hvalid : validateObservationStructure o = .ok ())
    (hp : s.publishers[o.sourcePublisher]? = some p) (hboot : p.view.boot = o.publisherBoot)
    (hepoch : o.coordinatorEpoch = s.coordinatorEpoch) (hcurrent : p.view.current = true)
    (hfenced : p.view.fenced = false) (hfresh : p.binding.Fresh o.sequence)
    (hid : ∀ h, p.recentEventIds.entries[o.eventId]? = some h → h = o.contentHash) :
    (ingestLocked s o now).1.disposition.isAccepted = true ∧
      (ingestLocked s o now).2.publishers = s.publishers.insert o.sourcePublisher
        (acceptObservation p o o.contentHash (accountSequence p o.sequence o.contentHash) now) := by
  have haccepted := (isAccepted_accountSequence p o.sequence o.contentHash).2 hfresh
  -- stated for any hash, so that nothing computes the one at hand
  have hany {known : Option UInt64} {hash : UInt64} (h : ∀ k, known = some k → k = hash) :
      known.any (· ≠ hash) = false := by
    cases known with
    | none => rfl
    | some k => simp [h k rfl]
  have hknown := hany hid
  have hlocked : ingestLocked s o now = ingestAccepted s p o o.contentHash
      (accountSequence p o.sequence o.contentHash) now := by
    simp only [ingestLocked, hvalid, hp, hboot, hepoch, hcurrent, hfenced, ne_eq, not_true_eq_false,
      if_false, Bool.false_eq_true, not_false_eq_true, and_self, false_and, ingestAccounted, hknown,
      and_false]
    split <;> simp_all [IngestionDisposition.isAccepted]
  rw [hlocked]
  refine ⟨haccepted, ?_⟩
  unfold ingestAccepted
  dsimp only
  rw [applyEvidence_publishers, State.setPublisher]

/-- Whether a counter outcome says that the sample was accepted. -/
def counterAccepted (r : Except Error CounterOutcome) : Bool :=
  match r with
  | .ok outcome => outcome.accepted
  | .error _ => false

theorem binding_countDiscontinuity (p : PublisherState) (resets wraps : UInt64) :
    (p.countDiscontinuity resets wraps).binding = p.binding := rfl

/-- Sampling a counter changes tallies only. -/
theorem sampleCounter_binding (hp : s.publishers[c.publisher]? = some p) :
    IngestOnly s (sampleCounter s p c).2 ∧ (sampleCounter s p c).2.binding = s.binding := by
  have hchanged : (if identityChanged (s.counters[(⟨c.publisher, c.publisherBoot, c.counter⟩ :
      CounterKey)]?.getD {}) c then p.countDiscontinuity 1 0 else p).binding = p.binding := by
    split <;> rfl
  unfold sampleCounter
  dsimp only
  split
  · exact ⟨⟨_, _, _, _, _, _, _, _, rfl⟩, binding_setPublisher_same s.loss hp hchanged⟩
  · have hset (resets wraps : UInt64) := binding_setPublisher_same s.loss hp
      ((binding_countDiscontinuity _ resets wraps).trans hchanged)
    split
    · exact ⟨⟨_, _, _, _, _, _, _, _, rfl⟩, hset _ _⟩
    · exact ⟨IngestOnly.trans ⟨_, _, _, _, _, _, _, _, rfl⟩ (applyEvidence_ingestOnly _ _ _ _),
        (applyEvidence_binding _ _ _ _).trans (hset _ _)⟩

/-- A counter sample changes no binding and is not accepted, or commits a fresh sequence
    of the bound boot; after the commit it can still be refused. -/
theorem counterAccounted_binding (now : Nanos) (hp : s.publishers[c.publisher]? = some p) :
    IngestOnly s (counterAccounted s p c now).2 ∧
      ((counterAccepted (counterAccounted s p c now).1 = false ∧
          (counterAccounted s p c now).2.binding = s.binding) ∨
        (p.binding.Fresh c.sequence ∧
          (counterAccounted s p c now).2.binding = Function.update s.binding c.publisher
            (some (p.binding.commit c.sequence (counterHash c))))) := by
  have hcommit (d : SequenceDecision) (loss : LossReport) :
      (s.setPublisher c.publisher (acceptCounter p c d now) loss).binding =
        Function.update s.binding c.publisher (some (p.binding.commit c.sequence (counterHash c))) := by
    rw [binding_setPublisher]
    congr 2
    simp [acceptCounter, commitSequence, PublisherState.binding, Binding.commit, Binding.highAfter]
  unfold counterAccounted
  dsimp only
  split
  · exact ⟨⟨_, _, _, _, _, _, _, _, rfl⟩, .inl ⟨rfl, binding_setPublisher_same _ hp rfl⟩⟩
  · exact ⟨⟨_, _, _, _, _, _, _, _, rfl⟩, .inl ⟨rfl, binding_setPublisher_same _ hp rfl⟩⟩
  next hdup hrej =>
  have hfresh : p.binding.Fresh c.sequence := by
    refine (isAccepted_accountSequence p c.sequence (counterHash c)).1 ?_
    cases hd : (accountSequence p c.sequence (counterHash c)).disposition <;>
      simp_all [IngestionDisposition.isAccepted]
  split
  · exact ⟨⟨_, _, _, _, _, _, _, _, rfl⟩, .inr ⟨hfresh, hcommit _ _⟩⟩
  · obtain ⟨honly, hbinding⟩ := sampleCounter_binding
      (s := s.setPublisher c.publisher
        (acceptCounter p c (accountSequence p c.sequence (counterHash c)) now)
        { s.loss with missingSequences := s.loss.missingSequences +
          (accountSequence p c.sequence (counterHash c)).missing })
      (p := acceptCounter p c (accountSequence p c.sequence (counterHash c)) now) (c := c)
      (by simp [State.setPublisher])
    exact ⟨IngestOnly.trans ⟨_, _, _, _, _, _, _, _, rfl⟩ honly,
      .inr ⟨hfresh, hbinding.trans (hcommit _ _)⟩⟩

/-- The same for counter samples, which may be refused after that. -/
theorem ingestCounter_binding (s : State) (c : CounterPublication) (now : Nanos) :
    IngestOnly s (ingestCounter s c now).2 ∧
      ((counterAccepted (ingestCounter s c now).1 = false ∧
          (ingestCounter s c now).2.binding = s.binding) ∨
        (c.coordinatorEpoch = s.coordinatorEpoch ∧
          ∃ b, b.current = true ∧ b.fenced = false ∧
            Commits s (ingestCounter s c now).2 c.publisher c.publisherBoot c.sequence
              (counterHash c) b)) := by
  unfold ingestCounter
  iterate 3
    split
    · exact ⟨⟨_, _, _, _, _, _, _, _, rfl⟩, .inl ⟨rfl, rfl⟩⟩
  next p hp =>
  split
  · exact ⟨⟨_, _, _, _, _, _, _, _, rfl⟩, .inl ⟨rfl, rfl⟩⟩
  next hboot =>
  split
  · exact ⟨⟨_, _, _, _, _, _, _, _, rfl⟩, .inl ⟨rfl, rfl⟩⟩
  next hepoch =>
  split
  · exact ⟨⟨_, _, _, _, _, _, _, _, rfl⟩, .inl ⟨rfl, rfl⟩⟩
  next hcurrent =>
  obtain ⟨honly, hquiet | ⟨hfresh, hbinding⟩⟩ := counterAccounted_binding now hp
  · exact ⟨honly, .inl hquiet⟩
  · rw [not_or, not_not, Bool.not_eq_true] at hcurrent
    refine ⟨honly, .inr ⟨not_not.1 hepoch, p.binding, hcurrent.1, hcurrent.2, ?_, not_not.1 hboot,
      fun _ => hcurrent, hfresh, hbinding⟩⟩
    simp [State.binding, hp]

/-! ## Registration and fencing -/

/-- Whatever was bound and kept, a registration binds its own boot with authority. -/
theorem Binding.register_authority (b : Option Binding) (id : PublisherId) (boot : PublisherBootId)
    (kept : Option PublisherWatermark) :
    (Binding.register b id boot kept).id = id ∧ (Binding.register b id boot kept).boot = boot ∧
      (Binding.register b id boot kept).current = true ∧
      (Binding.register b id boot kept).fenced = false := by
  unfold Binding.register
  by_cases hboot : (b.getD (PublisherState.binding {})).boot = boot
  · cases kept with
    | none => simp [hboot]
    | some kept => simp only [hboot, if_true]; split <;> simp
  · cases kept with
    | none => simp [hboot]
    | some kept => simp only [hboot, if_false]; split <;> simp

theorem boundPublisher_binding (previous : Option PublisherState) (r : PublisherRegistration)
    (epoch : CoordinatorEpoch) (kept : Option PublisherWatermark) (now : Nanos) :
    (boundPublisher (previous.getD {}) r epoch kept now).binding =
      Binding.register (previous.map PublisherState.binding) r.id r.boot kept := by
  have hold : (previous.map PublisherState.binding).getD (PublisherState.binding {}) =
      (previous.getD {}).binding := by cases previous <;> rfl
  unfold boundPublisher Binding.register
  dsimp only
  rw [hold]
  by_cases hboot : (previous.getD {}).view.boot = r.boot
  · rw [if_neg (not_not.2 hboot), if_pos (by exact hboot)]
    cases kept with
    | none => simp [PublisherState.restore, PublisherState.binding, PublisherView.register, ← hboot]
    | some kept =>
      unfold PublisherState.restore
      split <;> split <;>
        simp_all [PublisherState.binding, PublisherView.register]
  · rw [if_pos hboot, if_neg (by exact hboot)]
    cases kept with
    | none => rfl
    | some kept =>
      unfold PublisherState.restore
      split <;> split <;>
        simp_all [PublisherState.binding, PublisherView.register, PublisherState.rebind]

/-- Binding a boot lifts the fence of the watermark kept for it, if there is one. -/
theorem bindBoot_watermarks (s : State) (r : PublisherRegistration) (now : Nanos) :
    (bindBoot s r now).watermarks = s.watermarks ∨
      ∃ kept, keptWatermark s r = some kept ∧ (bindBoot s r now).watermarks =
        s.watermarks.insert (bootKey r.id r.boot)
          { kept with fenced := false, fenceReason := .notFenced } := by
  rw [bindBoot]
  cases keptWatermark s r with
  | none => exact .inl rfl
  | some kept => exact .inr ⟨kept, rfl, rfl⟩

/-- A registration binds the boot, taking over its kept watermark. -/
theorem bindBoot_binding (s : State) (r : PublisherRegistration) (now : Nanos) :
    (bindBoot s r now).binding = Function.update s.binding r.id
      (some (Binding.register (s.binding r.id) r.id r.boot (keptWatermark s r))) := by
  have h := boundPublisher_binding s.publishers[r.id]? r s.coordinatorEpoch (keptWatermark s r) now
  rw [State.binding, ← h]
  exact binding_setPublisher s r.id _ s.loss

/-- Writing a boot off leaves it bound. -/
theorem supersede_binding (s : State) (p : PublisherState) (now : Nanos) :
    (supersede s p now).binding = s.binding := binding_congr rfl

/-- Registrations deal with the boot bound so far without touching its binding. -/
theorem admitBoot_binding {r : PublisherRegistration} {now : Nanos} (h : admitBoot s r now = .ok s') :
    s'.binding = s.binding := by
  rcases admitBoot_cases h with ⟨rfl, _⟩ | ⟨_, rfl, _⟩ | ⟨p, rfl, _⟩
  · rfl
  · rfl
  · exact supersede_binding s p now

/-- A fenced boot stays bound without authority. -/
theorem fenceBound_binding (s : State) (id : PublisherId) (p : PublisherState)
    (reason : FenceReason) (detail : Text) (now : Nanos) :
    (fenceBound s id p reason detail now).binding =
      Function.update s.binding id (some p.binding.fence) := by
  have h : (fenceBound s id p reason detail now).publishers =
      (s.setPublisher id { p with view := p.view.fence reason detail } s.loss).publishers := by
    simp only [fenceBound, recordStale, State.setPublisher]
  rw [binding_congr h, binding_setPublisher]
  rfl

/-- While the table has room, or already knows the boot, nothing is trimmed. -/
theorem trimWatermarks_of_fits {m : ExtTreeMap Text PublisherWatermark} {key : Text}
    (w : PublisherWatermark) (h : key ∈ m ∨ m.size < maxPublisherWatermarks)
    (hm : m.size ≤ maxPublisherWatermarks) : trimWatermarks (m.insert key w) = m.insert key w := by
  have hsize : (m.insert key w).size ≤ maxPublisherWatermarks := by
    rw [size_insert]
    split
    · exact hm
    · next hk => exact h.resolve_left hk
  rw [trimWatermarks, Nat.sub_eq_zero_of_le hsize]
  rfl

end CoherenceObservatory
