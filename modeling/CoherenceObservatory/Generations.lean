import CoherenceObservatory.Counter.Meter
import CoherenceObservatory.Replay

/-!
# Evidence generations

Reconciliation advances the evidence generation of every publisher and asks for fresh
publication. Ingestion does not compare the generation an observation carries with that of its
publisher: neither the admission nor the attribution looks at it.
-/

namespace CoherenceObservatory

open Std ExtTreeMap

/-! ## What is counted -/

/-- The delta of a sample of a counter. -/
def sampleDelta (s : State) (c : CounterPublication) : UInt64 :=
  (counterDelta ((previousCounter s c).describe c) c).1

/-- A sample that reaches its counter and yields an observation. -/
structure Productive (s : State) (c : CounterPublication) (p : PublisherState) : Prop where
  admitted : AdmittedCounter s c p
  fresh : (accountSequence p c.sequence (counterHash c)).disposition.isAccepted = true
  room : HasRoom s c
  fits : FitsWidth c
  delta : sampleDelta s c ≠ 0

/-- What a step needs for an observation to be counted. -/
def Eligible (s : State) : Action → Prop
  | .ingest o _ => (∃ p, Admitted s o p) ∧ EvidenceCurrent s o
  | .ingestCounter c _ =>
    (∃ p, Productive s c p) ∧ EvidenceCurrent s (derivedObservation s c (sampleDelta s c))
  | _ => False

section

variable {s : State} {p : PublisherState}

theorem mem_publishers {id : PublisherId} (h : s.publishers[id]? = some p) : id ∈ s.publishers :=
  mem_iff_isSome_getElem?.2 (Option.isSome_of_eq_some h)

/-- A step that applied an observation counted it if it counts. -/
theorem counted_of_applied {a : Action} {e : JournalEntry} (h : applied s a = some e) :
    (counted s a).isSome = countsAsCurrentEvidence e.outcome := by
  rw [counted, h, Option.bind_some]
  split <;> simp_all

theorem counted_ingest_iff (o : Observation) (now : Nanos) :
    (counted s (.ingest o now)).isSome = true ↔ Eligible s (.ingest o now) := by
  by_cases hadmitted : ∃ p, Admitted s o p
  · obtain ⟨p, hp⟩ := hadmitted
    obtain ⟨e, happlied, houtcome⟩ : ∃ e, applied s (.ingest o now) = some e ∧
        e.outcome = (attributeObservation s o).outcome := by
      have happlies : (act s (.ingest o now)).1.applies = true := by
        rw [act, ingestLocked_admitted hp]
        exact hp.fresh
      rw [applied, if_pos happlies, act, ingestLocked_admitted hp]
      exact ⟨_, getLast?_applyEvidence _ _ _ _,
        congrArg AttributionResult.outcome (attributeObservation_accepted hp.publisher ..)⟩
    rw [counted_of_applied happlied, houtcome, counts_iff (mem_publishers hp.publisher), Eligible]
    exact ⟨fun h => ⟨⟨p, hp⟩, h⟩, And.right⟩
  · have hrefused : (act s (.ingest o now)).1.applies = false := by
      by_contra haccepted
      exact hadmitted (admitted_of_accepted (Bool.not_eq_false _ ▸ haccepted))
    rw [counted, applied, if_neg (by simp [hrefused])]
    exact iff_of_false Bool.false_ne_true fun h => hadmitted h.1

/-- Attribution looks at nothing that a sample has changed. -/
theorem attributeObservation_sampled {o : Observation} {q : PublisherState}
    (hp : s.publishers[o.sourcePublisher]? = some p) (hboot : q.view.boot = p.view.boot)
    (hcurrent : q.view.current = p.view.current) (hfenced : q.view.fenced = p.view.fenced)
    (loss : LossReport) (counters : ExtTreeMap CounterKey CounterState) :
    attributeObservation { s.setPublisher o.sourcePublisher q loss with counters } o =
      attributeObservation s o := by
  have hauthority (r : AttributionResult) :
      attributeAuthority { s.setPublisher o.sourcePublisher q loss with counters } o r =
        attributeAuthority s o r := by
    unfold attributeAuthority
    simp only [State.setPublisher, getElem?_insert_self, hp, hboot, hcurrent, hfenced]
    rfl
  unfold attributeObservation attributeSteps
  rw [hauthority]
  rfl

variable {c : CounterPublication}

/-- What a sample with a delta leaves behind: its publisher with the same authority, and the
observation applied. -/
theorem sampleCounter_productive (p : PublisherState) (hfits : FitsWidth c)
    (hdelta : sampleDelta s c ≠ 0) :
    ∃ p' counters record, p'.view.boot = p.view.boot ∧ p'.view.current = p.view.current ∧
      p'.view.fenced = p.view.fenced ∧
      let s₁ := { s.setPublisher c.publisher p' s.loss with counters }
      let o := derivedObservation s c (sampleDelta s c)
      (sampleCounter s p c).2 = applyEvidence s₁ o (attributeObservation s₁ o) record := by
  have hwidth : ¬(c.kind ≠ .Delta ∧ c.kind ≠ .Sampled ∧ c.rawValue > widthMax c.widthBits) := by
    rw [FitsWidth] at hfits
    simpa [imp_iff_not_or] using hfits
  unfold sampleDelta previousCounter CounterPublication.key at hdelta ⊢
  unfold sampleCounter
  dsimp only
  rw [if_neg hwidth, if_neg hdelta]
  refine ⟨_, _, _, ?_, ?_, ?_, rfl⟩
  all_goals
    rw [PublisherState.countDiscontinuity]
    split <;> rfl

/-- A sample that is accounted for as new, and for which there is room, is taken. -/
theorem ingestCounter_fresh (h : AdmittedCounter s c p)
    (hfresh : (accountSequence p c.sequence (counterHash c)).disposition.isAccepted = true)
    (hroom : HasRoom s c) (now : Nanos) :
    ∃ loss, ingestCounter s c now =
      let p' := acceptCounter p c (accountSequence p c.sequence (counterHash c)) now
      sampleCounter (s.setPublisher c.publisher p' loss) p' c := by
  have hroom' : ¬(⟨c.publisher, c.publisherBoot, c.counter⟩ ∉ s.counters ∧
      s.counters.size ≥ Limits.maxCounterRecords) := by
    rintro ⟨hkey, hfull⟩
    exact hroom.elim hkey (Nat.not_lt.2 hfull)
  rw [ingestCounter_admitted h, counterAccounted]
  dsimp only
  generalize accountSequence p c.sequence (counterHash c) = d at hfresh ⊢
  split
  next hd => simp [hd, IngestionDisposition.isAccepted] at hfresh
  next hd => simp [hd, IngestionDisposition.isAccepted] at hfresh
  · exact ⟨_, if_neg hroom'⟩

theorem productive_of_applies {now : Nanos} (h : (act s (.ingestCounter c now)).1.applies = true) :
    ∃ p, Productive s c p := by
  change (Answer.counter (ingestCounter s c now).1).applies = true at h
  obtain ⟨outcome, hanswer⟩ : ∃ outcome, (ingestCounter s c now).1 = .ok outcome := by
    cases hanswer : (ingestCounter s c now).1 with
    | error e =>
      rw [hanswer] at h
      exact nomatch h
    | ok outcome => exact ⟨outcome, rfl⟩
  rw [hanswer] at h
  obtain ⟨p, hp⟩ : ∃ p, AdmittedCounter s c p := by
    by_contra hnone
    obtain ⟨e, he, -⟩ := ingestCounter_refused (not_exists.1 hnone) now
    rw [hanswer] at he
    exact nomatch he
  have hanswer' := hanswer
  rw [ingestCounter_admitted hp] at hanswer'
  obtain ⟨hduplicate, hrejected, hfull, _⟩ := counterAccounted_answer s p c now
  have hfresh : (accountSequence p c.sequence (counterHash c)).disposition.isAccepted = true := by
    cases hd : (accountSequence p c.sequence (counterHash c)).disposition with
    | accepted | acceptedLate => rfl
    | duplicate =>
      obtain rfl := Except.ok.inj ((hduplicate hd).symm.trans hanswer')
      exact nomatch h
    | rejected =>
      obtain ⟨e, he, -⟩ := hrejected hd
      rw [he] at hanswer'
      exact nomatch hanswer'
  obtain ⟨hroom, hfits⟩ : HasRoom s c ∧ FitsWidth c := by
    by_contra hnot
    obtain ⟨e, he, -⟩ := hfull hfresh hnot
    rw [he] at hanswer'
    exact nomatch hanswer'
  refine ⟨p, hp, hfresh, hroom, hfits, ?_⟩
  obtain ⟨loss, htaken⟩ := ingestCounter_fresh hp hfresh hroom now
  rw [htaken, (sampleCounter_of_fits _ hfits).1] at hanswer
  obtain rfl := Except.ok.inj hanswer
  exact of_decide_eq_true h

theorem counted_productive (h : Productive s c p) (now : Nanos) :
    (counted s (.ingestCounter c now)).isSome = countsAsCurrentEvidence
      (attributeObservation s (derivedObservation s c (sampleDelta s c))).outcome := by
  obtain ⟨loss, htaken⟩ := ingestCounter_fresh h.admitted h.fresh h.room now
  dsimp only at htaken
  set p₁ := acceptCounter p c (accountSequence p c.sequence (counterHash c)) now with hp₁
  obtain ⟨p', counters, record, hboot, hcurrent, hfenced, hstate⟩ :=
    sampleCounter_productive (s := s.setPublisher c.publisher p₁ loss) p₁ h.fits h.delta
  have happlies : (act s (.ingestCounter c now)).1.applies = true := by
    rw [act, htaken]
    change (Answer.counter (sampleCounter _ p₁ c).1).applies = true
    rw [(sampleCounter_of_fits p₁ h.fits).1]
    exact decide_eq_true h.delta
  have happlied : applied s (.ingestCounter c now) =
      (ingestCounter s c now).2.journal.getLast? := by
    rw [applied, if_pos happlies]
    rfl
  rw [htaken, hstate, getLast?_applyEvidence] at happlied
  rw [counted_of_applied happlied]
  dsimp only
  refine congrArg (fun a : AttributionResult => countsAsCurrentEvidence a.outcome) ?_
  have hafter := attributeObservation_sampled (s := s.setPublisher c.publisher p₁ loss) (p := p₁)
    (o := derivedObservation s c (sampleDelta s c)) getElem?_insert_self hboot hcurrent
    hfenced loss counters
  have hbefore := attributeObservation_sampled (s := s) (p := p) (q := p₁)
    (o := derivedObservation s c (sampleDelta s c)) h.admitted.publisher rfl rfl rfl loss s.counters
  exact hafter.trans hbefore

theorem counted_ingestCounter_iff (c : CounterPublication) (now : Nanos) :
    (counted s (.ingestCounter c now)).isSome = true ↔ Eligible s (.ingestCounter c now) := by
  by_cases hproductive : ∃ p, Productive s c p
  · obtain ⟨p, hp⟩ := hproductive
    rw [counted_productive hp, counts_iff (mem_publishers hp.admitted.publisher), Eligible]
    exact ⟨fun h => ⟨⟨p, hp⟩, h⟩, And.right⟩
  · have hrefused : (act s (.ingestCounter c now)).1.applies = false := by
      by_contra happlies
      rw [Bool.not_eq_false] at happlies
      exact hproductive (productive_of_applies happlies)
    rw [counted, applied, if_neg (by simp [hrefused])]
    exact iff_of_false Bool.false_ne_true fun h => hproductive h.1

/-- That this is all it needs. -/
theorem counted_isSome_iff (a : Action) : (counted s a).isSome = true ↔ Eligible s a := by
  cases a with
  | ingest o now => exact counted_ingest_iff o now
  | ingestCounter c now => exact counted_ingestCounter_iff c now
  | _ => exact iff_of_false Bool.false_ne_true id

end

/-! ## Retired generations -/

/-- A publisher is registered, and the generation is below its own, or none. -/
def Retired (s : State) (id : PublisherId) (generation : EvidenceGeneration) : Prop :=
  ∃ p, s.publishers[id]? = some p ∧ (generation < p.view.evidenceGeneration ∨ generation = 0)

/-- A step carries evidence of a retired generation, of a publisher that was registered in the
state `s₀`. -/
def CarriesRetired (s₀ s : State) : Action → Prop
  | .ingest o _ =>
    o.sourcePublisher ∈ s₀.publishers ∧ Retired s o.sourcePublisher o.evidenceGeneration
  | .ingestCounter c _ => c.publisher ∈ s₀.publishers ∧ Retired s c.publisher c.evidenceGeneration
  | _ => False

/-- `P` holds of every step of a run that carries evidence of a retired generation, after a
reconciliation that found its publisher registered. -/
def AfterReconciling (P : State → Action → Prop) (s : State) (l : List Action) : Prop :=
  ∀ l₁ clock l₂ a l₃, l = l₁ ++ .reconcile clock :: l₂ ++ a :: l₃ →
    CarriesRetired (Run.final act s l₁) (Run.final act s (l₁ ++ .reconcile clock :: l₂)) a →
      P (Run.final act s (l₁ ++ .reconcile clock :: l₂)) a

/-- In every run, no evidence of a retired generation is counted exactly if none of it passes the
    checks of ingestion and attribution. These do not look at the generation. -/
theorem retired_uncounted_iff (options : ObservatoryOptions) (now : Nanos) (l : List Action) :
    AfterReconciling (fun s a => counted s a = none) (State.initial options now) l ↔
      AfterReconciling (fun s a => ¬Eligible s a) (State.initial options now) l := by
  have hstep (s : State) (a : Action) : counted s a = none ↔ ¬Eligible s a := by
    rw [← counted_isSome_iff, Option.not_isSome_iff_eq_none]
  simp only [AfterReconciling, hstep]

/-- A read of the first evidence generation. -/
def firstGenerationRead : Action :=
  .ingest { sampleObservation 1 with topologyGeneration := 1, evidenceGeneration := 1 } 0

/-- The read is counted after a reconciliation has advanced its publisher to the second. -/
theorem retiredRead_counted :
    ¬AfterReconciling (fun s a => counted s a = none) (State.initial {} 0)
      [.registerPublisher sampleRegistration fun _ => 0, .reconcile fun _ => 0,
        firstGenerationRead] := by
  intro h
  have hregistered : ascii "p" ∈ (Run.final act (State.initial {} 0)
      [.registerPublisher sampleRegistration fun _ => 0]).publishers := by decide +kernel
  have hadvanced : ((Run.final act (State.initial {} 0)
      [.registerPublisher sampleRegistration fun _ => 0, .reconcile fun _ => 0]).publishers[
        ascii "p"]?.map (·.view.evidenceGeneration)) = some 2 := by decide +kernel
  obtain ⟨p, hp, hgeneration⟩ := Option.map_eq_some_iff.1 hadvanced
  have huncounted := h [.registerPublisher sampleRegistration fun _ => 0] _ [] _ [] rfl
    ⟨hregistered, p, hp, .inl (by rw [hgeneration]; decide)⟩
  have hcounted : (counted (Run.final act (State.initial {} 0)
      [.registerPublisher sampleRegistration fun _ => 0, .reconcile fun _ => 0])
      firstGenerationRead).isSome = true := by decide +kernel
  change counted (Run.final act (State.initial {} 0)
    [.registerPublisher sampleRegistration fun _ => 0, .reconcile fun _ => 0]) _ = none at huncounted
  rw [huncounted] at hcounted
  exact nomatch hcounted

end CoherenceObservatory
