import CoherenceObservatory.Authority

/-!
# What is admitted

Ingestion decides on an observation before it writes anything. `Admitted s o p` collects what
it checks, in terms of the state before, the observation and the bound publisher `p`, and
`AdmittedCounter` does the same for counter samples:
-/

namespace CoherenceObservatory

open Std

/-! ## Reasons -/

/-- A failure states a reason. -/
def Genuine {α : Type} (x : Except Error α) : Prop := ∀ e, x = .error e → e.code ≠ .ok

namespace Genuine

variable {α β : Type}

theorem ok (x : α) : Genuine (.ok x : Except Error α) := nofun

variable {e : Error}

theorem error (h : e.code ≠ .ok) : Genuine (.error e : Except Error α) := by
  rintro _ ⟨⟩
  exact h

theorem failIf {p : Prop} [Decidable p] (h : e.code ≠ .ok) :
    Genuine (CoherenceObservatory.failIf p e) := by
  unfold CoherenceObservatory.failIf
  split
  · exact error h
  · exact ok ()

theorem bind {x : Except Error α} {f : α → Except Error β} (hx : Genuine x)
    (hf : ∀ a, Genuine (f a)) : Genuine (x >>= f) := by
  cases x with
  | ok a => exact hf a
  | error e => exact error (hx e rfl)

theorem relabel {x : Status} (h : Genuine x) (message : Text) :
    Genuine (CoherenceObservatory.relabel message x) := by
  cases x with
  | ok _ => exact ok ()
  | error e => exact error (h e rfl)

theorem whenSome {check : α → Status} (h : ∀ x, Genuine (check x)) (o : Option α) :
    Genuine (CoherenceObservatory.whenSome check o) := by
  cases o with
  | none => exact ok ()
  | some x => exact h x

theorem validateIdentityToken (token : Text) :
    Genuine (CoherenceObservatory.validateIdentityToken token) := by
  unfold CoherenceObservatory.validateIdentityToken
  split
  · exact error nofun
  split
  · exact error nofun
  split
  · exact ok ()
  · split <;> exact error nofun

theorem validateResourceRef (ref : ResourceRef) (role : String) :
    Genuine (CoherenceObservatory.validateResourceRef ref role) :=
  .bind (.failIf nofun) fun _ => .bind (.relabel (.validateIdentityToken _) _) fun _ =>
  .bind (.failIf nofun) fun _ => .bind (.failIf nofun) fun _ => .failIf nofun

theorem validateNamed (id : Option Text) (generation : Option UInt64) (a b c : String) :
    Genuine (CoherenceObservatory.validateNamed id generation a b c) := by
  cases id with
  | none => exact .failIf nofun
  | some id => exact .bind (.relabel (.validateIdentityToken _) _) fun _ => .failIf nofun

theorem validateSubject (o : Observation) : Genuine (CoherenceObservatory.validateSubject o) := by
  unfold CoherenceObservatory.validateSubject
  dsimp only
  repeat' first
    | exact .whenSome (validateResourceRef · _) _
    | exact .whenSome (fun _ => .relabel (.validateIdentityToken _) _) _
    | exact .validateNamed _ _ _ _ _
    | exact .failIf nofun
    | exact .ok ()
    | refine .bind ?_ fun _ => ?_
    | split

theorem validateObservationStructure (o : Observation) :
    Genuine (CoherenceObservatory.validateObservationStructure o) := by
  refine .bind ?_ fun _ => .bind (.validateSubject o) fun _ => .bind ?_ fun _ => ?_
  · unfold validateIdentity
    repeat' first
      | exact .failIf nofun
      | exact .relabel (.validateIdentityToken _) _
      | refine .bind ?_ fun _ => ?_
  · unfold validateRanges
    repeat' first
      | exact .failIf nofun
      | refine .bind ?_ fun _ => ?_
  · unfold validateClaims
    repeat' first
      | exact .failIf nofun
      | refine .bind ?_ fun _ => ?_

theorem validateCounterPublication (c : CounterPublication) :
    Genuine (CoherenceObservatory.validateCounterPublication c) := by
  have hregion : Genuine (validateCounterRegion c) := by
    unfold validateCounterRegion
    split <;> exact .bind (.failIf nofun) fun _ => .failIf nofun
  unfold CoherenceObservatory.validateCounterPublication
  repeat' first
    | exact .failIf nofun
    | exact .relabel (.validateIdentityToken _) _
    | exact hregion
    | refine .bind ?_ fun _ => ?_

end Genuine

/-! ## Observations -/

/-- The checks an observation passes, `p` being the publisher it names. -/
structure Admitted (s : State) (o : Observation) (p : PublisherState) : Prop where
  valid : validateObservationStructure o = .ok ()
  publisher : s.publishers[o.sourcePublisher]? = some p
  boot : p.view.boot = o.publisherBoot
  epoch : o.coordinatorEpoch = s.coordinatorEpoch
  authority : (p.view.current ∧ ¬p.view.fenced) ∨ ¬s.options.enforceCurrentPublisher
  fresh : (accountSequence p o.sequence o.contentHash).disposition.isAccepted = true
  newId : p.recentEventIds.entries[o.eventId]?.any (· ≠ o.contentHash) = false

variable {s : State} {o : Observation} {p : PublisherState}

/-- An admitted observation is accepted and applied. -/
theorem ingestLocked_admitted (h : Admitted s o p) (now : Nanos) :
    ingestLocked s o now = ingestAccepted s p o o.contentHash
      (accountSequence p o.sequence o.contentHash) now := by
  have hauthority : ¬(¬(p.view.current ∧ ¬p.view.fenced) ∧ s.options.enforceCurrentPublisher) := by
    have := h.authority
    tauto
  have hfresh := h.fresh
  rw [ingestLocked, h.valid]
  simp only [h.publisher]
  rw [if_neg (not_not.2 h.boot), if_neg (not_not.2 h.epoch), if_neg hauthority, ingestAccounted]
  simp only [h.newId, Bool.false_eq_true, and_false, if_false]
  generalize accountSequence p o.sequence o.contentHash = d at hfresh ⊢
  split <;> simp_all [IngestionDisposition.isAccepted]

/-- Attribution looks at nothing that accepting the observation has changed. -/
theorem attributeObservation_accepted (hp : s.publishers[o.sourcePublisher]? = some p)
    (hash : UInt64) (d : SequenceDecision) (now : Nanos) (loss : LossReport) (late : Bool)
    (acceptedEpoch : ObservationEpoch) :
    attributeObservation
        (s.setPublisher o.sourcePublisher (acceptObservation p o hash d now) loss)
        { o with late, acceptedEpoch } = attributeObservation s o := by
  have hauthority (r : AttributionResult) :
      attributeAuthority (s.setPublisher o.sourcePublisher (acceptObservation p o hash d now) loss)
        { o with late, acceptedEpoch } r = attributeAuthority s o r := by
    unfold attributeAuthority
    simp only [State.setPublisher, ExtTreeMap.getElem?_insert_self, hp]
    rfl
  unfold attributeObservation attributeSteps
  rw [hauthority]
  rfl

/-- What is answered to an observation that is admitted. -/
theorem ingestLocked_answer (h : Admitted s o p) (now : Nanos) :
    let d := accountSequence p o.sequence o.contentHash
    (ingestLocked s o now).1.disposition = d.disposition ∧
      (ingestLocked s o now).1.detail = d.detail ∧
      (ingestLocked s o now).1.missingSequences = d.missing ∧
      (ingestLocked s o now).1.counted =
        countsAsCurrentEvidence (attributeObservation s o).outcome := by
  rw [ingestLocked_admitted h]
  refine ⟨rfl, rfl, rfl, ?_⟩
  unfold ingestAccepted
  dsimp only
  rw [attributeObservation_accepted h.publisher]

/-- What becomes of an observation that is not accepted. -/
inductive Turned : IngestionOutcome → Prop
  | duplicate : Turned
      { disposition := .duplicate, code := .duplicate, detail := ascii "duplicate observation" }
  | rejected {code : ErrorCode} {detail : Text} (h : code ≠ .ok) : Turned (rejectAs code detail)

/-- A sequence above everything accepted so far. -/
def InOrder (p : PublisherState) (sequence : UInt64) : Prop :=
  p.hasWatermark = false ∨ p.highWatermark < sequence

/-- A sequence that stands in the window with this content. -/
def Repeats (p : PublisherState) (sequence hash : UInt64) : Prop :=
  p.hasWatermark = true ∧ p.durableWatermark = false ∧ sequence ≤ p.highWatermark ∧
    p.window.entries[sequence]? = some hash

theorem accountSequence_accepted_iff (p : PublisherState) (sequence hash : UInt64) :
    (accountSequence p sequence hash).disposition = .accepted ↔ InOrder p sequence := by
  unfold accountSequence InOrder
  split
  · simp_all
  split
  · simp_all [UInt64.not_lt]
  split
  · simp_all
  repeat' split
  all_goals simp_all

theorem accountSequence_duplicate_iff (p : PublisherState) (sequence hash : UInt64) :
    (accountSequence p sequence hash).disposition = .duplicate ↔ Repeats p sequence hash := by
  unfold accountSequence Repeats
  split
  · simp_all
  split
  · simp_all
  split
  · simp_all [UInt64.not_le]
  repeat' split
  all_goals simp_all [UInt64.not_lt]

/-- A sequence that is not accepted is a duplicate, or there is a reason. -/
theorem accountSequence_turned (p : PublisherState) (sequence hash : UInt64) :
    ((accountSequence p sequence hash).disposition = .duplicate →
      (accountSequence p sequence hash).detail = ascii "duplicate observation") ∧
    ((accountSequence p sequence hash).disposition = .rejected →
      (accountSequence p sequence hash).code ≠ .ok) := by
  unfold accountSequence
  split
  · simp
  split
  · simp
  split
  · simp
  split
  · split <;> simp
  · split <;> simp

/-- Exactly an accepted sequence is recorded. -/
theorem accountSequence_mutate (p : PublisherState) (sequence hash : UInt64) :
    (accountSequence p sequence hash).mutate =
      (accountSequence p sequence hash).disposition.isAccepted := by
  unfold accountSequence
  split
  · rfl
  split
  · rfl
  split
  · rfl
  split
  · split <;> rfl
  · split <;> rfl

theorem ingestAccounted_turned (now : Nanos)
    (h : (accountSequence p o.sequence o.contentHash).disposition.isAccepted = true →
      p.recentEventIds.entries[o.eventId]?.any (· ≠ o.contentHash) = true) :
    Turned (ingestAccounted s p o now).1 := by
  obtain ⟨hduplicate, hrejected⟩ := accountSequence_turned p o.sequence o.contentHash
  have hmutate := accountSequence_mutate p o.sequence o.contentHash
  unfold ingestAccounted
  dsimp only
  generalize accountSequence p o.sequence o.contentHash = d at *
  split
  · exact .rejected nofun
  next hconflict =>
  split
  next hd =>
    rw [hduplicate hd]
    exact .duplicate
  next hd => exact .rejected (hrejected hd)
  all_goals
    next hd =>
    have haccepted : d.disposition.isAccepted = true := by
      rw [hd]
      rfl
    exact absurd ⟨hmutate.trans haccepted, h haccepted⟩ hconflict

/-- Any other is a duplicate, or rejected for a reason that is not `ok`. -/
theorem ingestLocked_refused (h : ∀ p, ¬Admitted s o p) (now : Nanos) :
    Turned (ingestLocked s o now).1 := by
  unfold ingestLocked
  split
  next e he => exact .rejected (Genuine.validateObservationStructure o e he)
  next hvalid =>
  split
  · exact .rejected nofun
  next p hp =>
  split
  · exact .rejected nofun
  next hboot =>
  split
  · exact .rejected nofun
  next hepoch =>
  split
  · exact .rejected nofun
  next hauthority =>
  refine ingestAccounted_turned now fun hfresh => ?_
  by_contra hnew
  refine h p ⟨hvalid, hp, not_not.1 hboot, not_not.1 hepoch, ?_, hfresh, by simpa using hnew⟩
  tauto

/-- An observation that was accepted had passed the checks. -/
theorem admitted_of_accepted {now : Nanos}
    (h : (ingestLocked s o now).1.disposition.isAccepted = true) : ∃ p, Admitted s o p := by
  by_contra hne
  have hturned := ingestLocked_refused (not_exists.1 hne) now
  generalize (ingestLocked s o now).1 = outcome at h hturned
  cases hturned <;> exact nomatch h

/-! ## Counter samples -/

/-- The checks a counter sample passes before its sequence is looked at. -/
structure AdmittedCounter (s : State) (c : CounterPublication) (p : PublisherState) : Prop where
  valid : validateCounterPublication c = .ok ()
  granularity : c.granularity ≠ .Unknown
  publisher : s.publishers[c.publisher]? = some p
  boot : p.view.boot = c.publisherBoot
  epoch : c.coordinatorEpoch = s.coordinatorEpoch
  current : p.view.current = true
  fenced : p.view.fenced = false

variable {c : CounterPublication}

/-- An admitted sample is accounted for. Duplicates are among them. -/
theorem ingestCounter_admitted (h : AdmittedCounter s c p) (now : Nanos) :
    ingestCounter s c now = counterAccounted s p c now := by
  rw [ingestCounter, h.valid]
  simp only [if_neg h.granularity, h.publisher]
  rw [if_neg (not_not.2 h.boot), if_neg (not_not.2 h.epoch), if_neg (by simp [h.current, h.fenced])]

/-- Any other is rejected for a reason that is not `ok`. -/
theorem ingestCounter_refused (h : ∀ p, ¬AdmittedCounter s c p) (now : Nanos) :
    ∃ e, (ingestCounter s c now).1 = .error e ∧ e.code ≠ .ok := by
  unfold ingestCounter
  split
  next e he => exact ⟨e, rfl, Genuine.validateCounterPublication c e he⟩
  next hvalid =>
  split
  · exact ⟨_, rfl, nofun⟩
  next hgranularity =>
  split
  · exact ⟨_, rfl, nofun⟩
  next p hp =>
  split
  · exact ⟨_, rfl, nofun⟩
  next hboot =>
  split
  · exact ⟨_, rfl, nofun⟩
  next hepoch =>
  split
  · exact ⟨_, rfl, nofun⟩
  next hauthority =>
  obtain ⟨hcurrent, hfenced⟩ := not_or.1 hauthority
  exact absurd ⟨hvalid, hgranularity, hp, not_not.1 hboot, not_not.1 hepoch, not_not.1 hcurrent,
    by simpa using hfenced⟩ (h p)

/-- The counter a sample is of. -/
def CounterPublication.key (c : CounterPublication) : CounterKey :=
  ⟨c.publisher, c.publisherBoot, c.counter⟩

/-- There is a record for the counter, or room for one. -/
def HasRoom (s : State) (c : CounterPublication) : Prop :=
  c.key ∈ s.counters ∨ s.counters.size < Limits.maxCounterRecords

/-- The value of a sample fits the width of its counter. -/
def FitsWidth (c : CounterPublication) : Prop :=
  c.kind = .Delta ∨ c.kind = .Sampled ∨ c.rawValue ≤ widthMax c.widthBits

/-- The record of a counter before a sample. -/
def previousCounter (s : State) (c : CounterPublication) : CounterState :=
  s.counters[c.key]?.getD {}

/-- A sample that says nothing: no traffic and no break. -/
def Silent (s : State) (c : CounterPublication) : Prop :=
  identityChanged (previousCounter s c) c = false ∧
    counterDelta ((previousCounter s c).describe c) c = (0, .advance)

/-- What a sample is answered with. -/
theorem sampleCounter_answer (s : State) (p : PublisherState) (c : CounterPublication) :
    (¬FitsWidth c → ∃ e, (sampleCounter s p c).1 = .error e ∧ e.code ≠ .ok) ∧
    (FitsWidth c → ∃ outcome, (sampleCounter s p c).1 = .ok outcome ∧ outcome.accepted = true ∧
      outcome.detail = [] ∧
      (outcome.delta = 0 ∧ outcome.discontinuity = false ↔ Silent s c)) := by
  have hwide : ¬FitsWidth c ↔
      c.kind ≠ .Delta ∧ c.kind ≠ .Sampled ∧ c.rawValue > widthMax c.widthBits := by
    simp [FitsWidth]
  unfold sampleCounter
  dsimp only
  split
  next h => exact ⟨fun _ => ⟨_, rfl, nofun⟩, fun hfits => absurd hfits (hwide.2 h)⟩
  next h =>
  refine ⟨fun hfits => absurd (hwide.1 hfits) h, fun _ => ?_⟩
  have hsilent : Silent s c ↔
      (counterDelta ((previousCounter s c).describe c) c).1 = 0 ∧
        (identityChanged (previousCounter s c) c ||
          (counterDelta ((previousCounter s c).describe c) c).2 != .advance) = false := by
    rw [Silent, Prod.ext_iff]
    simp only [Bool.or_eq_false_iff, bne_eq_false_iff_eq]
    tauto
  rw [hsilent]
  split
  · exact ⟨_, rfl, rfl, rfl, Iff.rfl⟩
  · exact ⟨_, rfl, rfl, rfl, Iff.rfl⟩

/-- What an admitted sample is answered with, by what became of its sequence. -/
theorem counterAccounted_answer (s : State) (p : PublisherState) (c : CounterPublication)
    (now : Nanos) :
    let d := (accountSequence p c.sequence (counterHash c)).disposition
    (d = .duplicate → (counterAccounted s p c now).1 =
      .ok { detail := ascii "duplicate counter sample" }) ∧
    (d = .rejected → ∃ e, (counterAccounted s p c now).1 = .error e ∧ e.code ≠ .ok) ∧
    (d.isAccepted = true → ¬(HasRoom s c ∧ FitsWidth c) →
      ∃ e, (counterAccounted s p c now).1 = .error e ∧ e.code ≠ .ok) ∧
    (d.isAccepted = true → HasRoom s c → FitsWidth c →
      ∃ outcome, (counterAccounted s p c now).1 = .ok outcome ∧ outcome.accepted = true ∧
        outcome.detail = [] ∧
        (outcome.delta = 0 ∧ outcome.discontinuity = false ↔ Silent s c)) := by
  have hrejected := (accountSequence_turned p c.sequence (counterHash c)).2
  unfold counterAccounted
  dsimp only
  generalize accountSequence p c.sequence (counterHash c) = d at *
  split
  next hd => simp [hd, IngestionDisposition.isAccepted]
  next hd => exact ⟨by simp [hd], fun _ => ⟨_, rfl, hrejected hd⟩, by
    simp [hd, IngestionDisposition.isAccepted], by simp [hd, IngestionDisposition.isAccepted]⟩
  next hduplicate hrejected =>
  refine ⟨fun h => absurd h hduplicate, fun h => absurd h hrejected, fun _ h => ?_,
    fun _ hroom hfits => ?_⟩
  · split
    · exact ⟨_, rfl, by rintro ⟨⟩⟩
    next hfull =>
    have hroom : HasRoom s c := by
      by_contra hroom
      obtain ⟨hkey, hsize⟩ := not_or.1 hroom
      exact hfull ⟨hkey, Nat.not_lt.1 hsize⟩
    exact (sampleCounter_answer _ _ c).1 fun hfits => h ⟨hroom, hfits⟩
  · rw [if_neg fun hfull => hroom.elim hfull.1 fun hsize => Nat.not_lt.2 hfull.2 hsize]
    exact (sampleCounter_answer _ _ c).2 hfits

/-- Every element of a batch has an outcome. -/
theorem length_ingestEach (clock : Nat → Nanos) (os : List Observation) (s : State) :
    (ingestEach clock s os).1.length = os.length := by
  induction os generalizing s with
  | nil => rfl
  | cons o os ih => exact congrArg (· + 1) (ih _)

end CoherenceObservatory
