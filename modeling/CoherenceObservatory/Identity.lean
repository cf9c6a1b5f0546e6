import CoherenceObservatory.Counter.Arithmetic
import CoherenceObservatory.Late

/-!
# Event identities

The event ids of the last observations of a boot are remembered with their content, and an
observation that comes with a remembered id and another content is refused. One that comes with
the same content is left to the window of numbers, which is shared with the counter samples and
may have forgotten it by then.
-/

namespace CoherenceObservatory

open Std ExtTreeMap List

/-! ## What the event ids stand for -/

/-- The remembered event ids are those of observations of the bound boot, with their content,
and the numbers of these are covered. -/
def Ledger.Identifies (l : List Action) (id : PublisherId) (b : Ledger) : Prop :=
  ∀ i hash, b.eventIds.entries[i]? = some hash → ∃ o now, Action.ingest o now ∈ l ∧
    o.sourcePublisher = id ∧ o.publisherBoot = b.boot ∧ o.eventId = i ∧ o.contentHash = hash ∧
    b.Covers o.sequence

variable {o : Observation} {now : Nanos} {l : List Action} {id : PublisherId} {p : PublisherState}
  {boot : PublisherBootId} {s : State} {a : Action} {eventId hash k : UInt64} {n : Nat}
  {b : Binding}

namespace Ledger.Identifies

variable {l : List Action} {id : PublisherId} {b : Ledger}

theorem append (h : b.Identifies l id) (l' : List Action) : b.Identifies (l ++ l') id := by
  intro i hash hi
  obtain ⟨o, now, hmem, ho⟩ := h i hash hi
  exact ⟨o, now, mem_append_left l' hmem, ho⟩

/-- A number that is taken covers what was covered, if it keeps the floor. -/
theorem take (h : b.Identifies l id) {sequence : UInt64} (hash : UInt64)
    (hkeeps : b.KeepsFloor sequence) : (b.take sequence hash).Identifies l id := by
  intro i hash' hi
  obtain ⟨o, now, hmem, hid, hboot, hi, hhash, hcovers⟩ := h i hash' hi
  exact ⟨o, now, hmem, hid, hboot, hi, hhash, hcovers.commit hkeeps hash⟩

theorem note (h : b.Identifies l id) (hmem : Action.ingest o now ∈ l) (hid : o.sourcePublisher = id)
    (hboot : o.publisherBoot = b.boot) (hcovers : b.Covers o.sequence) :
    (b.note o.eventId o.contentHash).Identifies l id := by
  intro i hash hi
  rcases BoundedFifo.getElem?_push hi with hi | ⟨rfl, rfl⟩
  · exact h i hash hi
  · exact ⟨o, now, hmem, hid, hboot, rfl, rfl, hcovers⟩

end Ledger.Identifies

/-- While the boot is bound, its event ids are identified. -/
def State.Identifies (l : List Action) (id : PublisherId) (boot : PublisherBootId) (s : State) : Prop :=
  ∀ p, s.publishers[id]? = some p → p.view.boot = boot → p.ledger.Identifies l id

theorem boundPublisher_identifies {r : PublisherRegistration} (epoch : CoordinatorEpoch)
    (kept : Option PublisherWatermark) (now : Nanos)
    (h : p.view.boot = r.boot → p.ledger.Identifies l id) :
    (boundPublisher p r epoch kept now).ledger.Identifies l id := by
  have hbinding : (boundPublisher p r epoch kept now).binding =
      Binding.register (some p.binding) r.id r.boot kept :=
    boundPublisher_binding (some p) r epoch kept now
  intro i hash hi
  by_cases hsame : p.view.boot = r.boot
  · obtain ⟨-, hids, -⟩ := boundPublisher_same epoch kept now hsame
    obtain ⟨o, time, hmem, hid, hboot, hi, hhash, hcovers⟩ :=
      h hsame i hash (hids.subst (motive := fun f => f.entries[i]? = some hash) hi)
    obtain ⟨hcovers, hregister⟩ := Binding.Covers.register hcovers r.id kept
    have hold : p.ledger.toBinding.boot = r.boot := hsame
    rw [hold] at hcovers hregister
    refine ⟨o, time, hmem, hid, ?_, hi, hhash, ?_⟩
    · exact (hboot.trans hold).trans ((congrArg Binding.boot hbinding).trans hregister).symm
    · exact hbinding.symm.subst (motive := (Binding.Covers · o.sequence)) hcovers
  · obtain ⟨-, hids, -⟩ := boundPublisher_fresh epoch kept now hsame
    have hnone := hids.subst (motive := fun f => f.entries[i]? = some hash) hi
    simp [BoundedFifo.empty] at hnone

/-- Every step that keeps the floor notes what it takes. -/
theorem act_identifies (h : s.Identifies l id boot) (hkeeps : KeepsFloor id boot s a) :
    (act s a).2.Identifies (l ++ [a]) id boot := by
  intro p' hp' hboot'
  have hentry := act_entry s a id
  have hmem : a ∈ l ++ [a] := mem_append_right l mem_cons_self
  rw [hp'] at hentry
  generalize he : s.publishers[id]? = e at hentry
  have hbinding {p : PublisherState} (hp : s.publishers[id]? = some p) :
      s.binding id = some p.binding := by simp [State.binding, hp]
  cases hentry with
  | @keep e e' hrecounts _ =>
    cases hrecounts with
    | @some p _ hrecounts =>
      have hb : p.view.boot = boot :=
        (congrArg (fun b : Ledger => b.boot) hrecounts.ledger_eq).symm.trans hboot'
      exact hrecounts.ledger_eq ▸ (h p he hb).append [a]
  -- the new id comes with its content; those before it stay covered
  | @observe o now p _ ha hid hadmitted _ hledger _ =>
    subst ha
    have hb : p.view.boot = boot :=
      (congrArg (fun b : Ledger => b.boot) hledger).symm.trans hboot'
    have hfloor := hkeeps _ rfl hid (hadmitted.boot.symm.trans hb) p.binding (hbinding he) hb
    rw [hledger]
    exact (((h p he hb).append _).take _ hfloor).note hmem hid hadmitted.boot.symm
      (p.binding.covers_commit _ _)
  | @sample c now p _ ha hid hadmitted _ _ hledger _ =>
    subst ha
    have hb : p.view.boot = boot :=
      (congrArg (fun b : Ledger => b.boot) hledger).symm.trans hboot'
    have hfloor := hkeeps _ rfl hid (hadmitted.boot.symm.trans hb) p.binding (hbinding he) hb
    rw [hledger]
    exact ((h p he hb).append _).take _ hfloor
  -- the ids are kept only if the same boot registers again
  | bind r clock s₁ _ _ hchecks _ _ =>
    refine boundPublisher_identifies _ _ _ fun hsame => ?_
    cases e with
    | none => exact absurd hsame.symm (checkRegistration_boot hchecks)
    | some p =>
      have hb : p.view.boot = boot :=
        hsame.trans ((boundPublisher_view ..).2.symm.trans hboot')
      exact (h p he hb).append [a]
  | @fence _ reason detail now p _ _ =>
    intro i hash hi
    obtain ⟨o, time, hmem, hid, hb, hi, hhash, hcovers⟩ := (h p he hboot').append [a] i hash hi
    exact ⟨o, time, hmem, hid, hb, hi, hhash, hcovers.hasWatermark, hcovers.le_high,
      hcovers.reason⟩

theorem final_identifies (options : ObservatoryOptions) (now : Nanos)
    (h : Run.Along act (KeepsFloor id boot) (State.initial options now) l) :
    (Run.final act (State.initial options now) l).Identifies l id boot := by
  have hstep (past : List (Action × Answer)) (s : State) (a : Action)
      (h : s.Identifies (past.map Prod.fst) id boot) (hkeeps : KeepsFloor id boot s a) :
      (act s a).2.Identifies ((past ++ [(a, (act s a).1)]).map Prod.fst) id boot := by
    rw [map_append]
    exact act_identifies h hkeeps
  have hinitial : (State.initial options now).Identifies [] id boot := fun p hp => by
    simp [State.initial] at hp
  have hfinal := Run.history_invariant (I := fun past s => s.Identifies (past.map Prod.fst) id boot)
    hstep hinitial h
  rwa [Run.map_fst_history] at hfinal

/-- The observations that are sent for a boot. -/
def observationsOf (id : PublisherId) (boot : PublisherBootId) (l : List Action) :
    List Observation :=
  l.filterMap fun
    | .ingest o _ => if o.sourcePublisher = id ∧ o.publisherBoot = boot then some o else none
    | _ => none

theorem mem_observationsOf (h : Action.ingest o now ∈ l) (hid : o.sourcePublisher = id)
    (hboot : o.publisherBoot = boot) : o ∈ observationsOf id boot l :=
  mem_filterMap.2 ⟨_, h, if_pos ⟨hid, hboot⟩⟩

/-- Among the observations of a boot with one event id, the content tells the number. -/
def ContentTellsNumber (id : PublisherId) (boot : PublisherBootId) (l : List Action) : Prop :=
  ∀ o ∈ observationsOf id boot l, ∀ o' ∈ observationsOf id boot l, o.eventId = o'.eventId →
    o.contentHash = o'.contentHash → o.sequence = o'.sequence

instance (id : PublisherId) (boot : PublisherBootId) (l : List Action) :
    Decidable (ContentTellsNumber id boot l) :=
  inferInstanceAs (Decidable (∀ o ∈ observationsOf id boot l, _))

theorem ContentTellsNumber.mono {l' : List Action} (h : ContentTellsNumber id boot l')
    (hsub : l ⊆ l') : ContentTellsNumber id boot l := by
  have hobservations : observationsOf id boot l ⊆ observationsOf id boot l' := by
    intro o ho
    obtain ⟨a, ha, hsome⟩ := mem_filterMap.1 ho
    exact mem_filterMap.2 ⟨a, hsub ha, hsome⟩
  exact fun o ho o' ho' => h o (hobservations ho) o' (hobservations ho')

/-- An observation that is admitted has no remembered event id. -/
theorem State.Identifies.not_recalled (h : s.Identifies l o.sourcePublisher o.publisherBoot)
    (hadmitted : Admitted s o p)
    (hcontent : ContentTellsNumber o.sourcePublisher o.publisherBoot (l ++ [.ingest o now])) :
    p.recentEventIds.entries[o.eventId]? = none := by
  cases hentry : p.recentEventIds.entries[o.eventId]? with
  | none => rfl
  | some hash =>
    have hnew := hadmitted.newId
    rw [hentry, Option.any_some, decide_eq_false_iff_not, not_not] at hnew
    obtain ⟨o', now', hmem, hid, hboot, hi, hhash, hcovers⟩ :=
      h p hadmitted.publisher hadmitted.boot o.eventId hash hentry
    have hsent := mem_observationsOf (mem_append_left [.ingest o now] hmem) hid
      (hboot.trans hadmitted.boot)
    have hself := mem_observationsOf (mem_append_right l mem_cons_self :
      Action.ingest o now ∈ l ++ [.ingest o now]) rfl rfl
    have hsequence := hcontent o' hsent o hself hi (hhash.trans hnew)
    rw [hsequence] at hcovers
    exact absurd ((isAccepted_accountSequence ..).1 hadmitted.fresh) hcovers.not_fresh

/-! ## How long they are remembered -/

/-- The event ids accepted for a boot, in order. -/
def acceptedEventIds (id : PublisherId) (boot : PublisherBootId) (past : List (Action × Answer)) :
    List CoherenceEventId :=
  past.filterMap fun e =>
    if e.2.accepts then
      (e.1.eventId.filter fun i => i.1 = id ∧ i.2.1 = boot).map fun i => i.2.2
    else none

theorem acceptedEventIds_of_accepts {answer : Answer} {i : CoherenceEventId}
    (h : answer.accepts = true) (hi : a.eventId = some (id, boot, i)) :
    acceptedEventIds id boot [(a, answer)] = [i] := by
  simp [acceptedEventIds, h, hi]

/-- The boot is bound, the event id is remembered with its content, and at most `n` came after
it. -/
def State.Recalls (s : State) (id : PublisherId) (boot : PublisherBootId)
    (eventId hash : UInt64) (n : Nat) : Prop :=
  ∃ p, s.publishers[id]? = some p ∧ p.view.boot = boot ∧
    p.recentEventIds.entries[eventId]? = some hash ∧ p.recentEventIds.Recent eventId n

/-- An observation that is admitted with a new event id. -/
theorem recalls_of_admitted (h : Admitted s o p)
    (hnew : p.recentEventIds.entries[o.eventId]? = none) (now : Nanos) :
    (act s (.ingest o now)).2.Recalls o.sourcePublisher o.publisherBoot o.eventId
      o.contentHash 0 := by
  have hpublishers : (act s (.ingest o now)).2.publishers = s.publishers.insert o.sourcePublisher
      (acceptObservation p o o.contentHash (accountSequence p o.sequence o.contentHash) now) :=
    (congrArg (·.2.publishers) (ingestLocked_admitted h now)).trans
      (ingestAccepted_publishers s p o _ _ now)
  have hids (d : SequenceDecision) : (acceptObservation p o o.contentHash d now).recentEventIds =
      p.recentEventIds.push o.eventId o.contentHash := rfl
  have hmem : o.eventId ∉ p.recentEventIds := by
    rw [BoundedFifo.mem_def, mem_iff_isSome_getElem?, hnew]
    exact nofun
  rw [State.Recalls, hpublishers]
  refine ⟨_, getElem?_insert_self, h.boot, ?_, ?_⟩
  · rw [hids]
    exact BoundedFifo.getElem?_push_self hmem (by decide)
  · rw [hids]
    exact BoundedFifo.recent_push_self _ hmem (by decide)

/-- A step in which the boot stays bound forgets an event id only after many others. -/
theorem act_recalls (h : s.Recalls id boot eventId hash n) (hbound : (act s a).2.Bound id boot)
    (hfew : n + (acceptedEventIds id boot [(a, (act s a).1)]).length < 4095) :
    (act s a).2.Recalls id boot eventId hash
      (n + (acceptedEventIds id boot [(a, (act s a).1)]).length) := by
  obtain ⟨p, hp, hboot, hentry, hrecent⟩ := h
  obtain ⟨p', hp', hboot'⟩ := hbound
  have hstep := act_entry s a id
  rw [hp, hp'] at hstep
  have hsame (hids : p'.recentEventIds = p.recentEventIds) : (act s a).2.Recalls id boot eventId hash
      (n + (acceptedEventIds id boot [(a, (act s a).1)]).length) := by
    obtain ⟨older, newer, horder, hnewer⟩ := hrecent
    exact ⟨p', hp', hboot', hids ▸ hentry, older, newer, hids ▸ horder, by omega⟩
  cases hstep with
  | keep hrecounts _ =>
    cases hrecounts with
    | some hrecounts => exact hsame (congrArg Ledger.eventIds hrecounts.ledger_eq)
  | observe o now ha hid hadmitted haccepted hledger _ =>
    have hids : p'.recentEventIds = p.recentEventIds.push o.eventId o.contentHash :=
      congrArg Ledger.eventIds hledger
    have hone : acceptedEventIds id boot [(a, (act s a).1)] = [o.eventId] := by
      obtain ⟨haccepts, -⟩ := Option.ite_none_right_eq_some.1 haccepted
      refine acceptedEventIds_of_accepts haccepts ?_
      rw [ha, ← hid, ← hboot, hadmitted.boot]
      rfl
    rw [hone] at hfew ⊢
    have hrecent' := hrecent.push (Nat.lt_succ_of_lt hfew) o.eventId o.contentHash
    refine ⟨p', hp', hboot', ?_, hids ▸ hrecent'⟩
    rw [hids]
    exact BoundedFifo.getElem?_push_of_mem hentry hrecent'.mem
  | sample c now ha hid hadmitted _ _ hledger _ =>
    exact hsame (congrArg Ledger.eventIds hledger)
  | bind r clock s₁ _ _ hchecks _ _ =>
    refine hsame (boundPublisher_same _ _ _ ?_).2.1
    exact hboot.trans (hboot'.symm.trans (boundPublisher_view ..).2)
  | fence => exact hsame rfl

theorem acceptedEventIds_append (id : PublisherId) (boot : PublisherBootId)
    (past later : List (Action × Answer)) :
    acceptedEventIds id boot (past ++ later) =
      acceptedEventIds id boot past ++ acceptedEventIds id boot later :=
  filterMap_append

theorem final_recalls (h : s.Recalls id boot eventId hash 0)
    (hbound : Run.Along act (fun s a => (act s a).2.Bound id boot) s l)
    (hfew : (acceptedEventIds id boot (Run.history act s l)).length < 4095) :
    (Run.final act s l).Recalls id boot eventId hash
      (acceptedEventIds id boot (Run.history act s l)).length := by
  refine Run.history_invariant (I := fun past s => (acceptedEventIds id boot past).length < 4095 →
    s.Recalls id boot eventId hash (acceptedEventIds id boot past).length) ?_ (fun _ => h) hbound
    hfew
  intro past s a ih hbound hfew
  rw [acceptedEventIds_append, length_append] at hfew ⊢
  exact act_recalls (ih (by omega)) hbound hfew

/-- In every run, between two observations accepted from the same boot while it stays bound, with
    fewer than 4095 others accepted from it in between: the event ids differ, if every step up to
    the second keeps the floor of the boot's window, and the content of the boot's observations
    tells their numbers. -/
theorem eventIds_distinct (options : ObservatoryOptions) (now : Nanos)
    (before between : List Action) (o o' : Observation) (time time' : Nanos) {s s₁ s₂ : State}
    (hs : s = Run.final act (State.initial options now) before)
    (hs₁ : s₁ = (act s (.ingest o time)).2) (hs₂ : s₂ = Run.final act s₁ between)
    (hsame : o'.sourcePublisher = o.sourcePublisher ∧ o'.publisherBoot = o.publisherBoot)
    (hfirst : (ingestLocked s o time).1.disposition.isAccepted = true)
    (hbound : Run.Along act
      (fun s a => (act s a).2.Bound o.sourcePublisher o.publisherBoot) s₁ between)
    (hfew : (acceptedEventIds o.sourcePublisher o.publisherBoot
      (Run.history act s₁ between)).length < 4095)
    (hsecond : (ingestLocked s₂ o' time').1.disposition.isAccepted = true)
    (hfloor : Run.Along act (KeepsFloor o.sourcePublisher o.publisherBoot)
      (State.initial options now) (before ++ .ingest o time :: between))
    (hcontent : ContentTellsNumber o.sourcePublisher o.publisherBoot
      (before ++ .ingest o time :: between ++ [.ingest o' time'])) :
    o.eventId ≠ o'.eventId := by
  obtain ⟨hid, hboot⟩ := hsame
  obtain ⟨p, hadmitted⟩ := admitted_of_accepted hfirst
  obtain ⟨p', hadmitted'⟩ := admitted_of_accepted hsecond
  -- the first event id is new, and is the most recent one after its step
  have hrecalls : s₁.Recalls o.sourcePublisher o.publisherBoot o.eventId o.contentHash 0 := by
    have hbefore := final_identifies options now ((Run.along_append _ _ _).1 hfloor).1
    rw [← hs] at hbefore
    have hsub : before ++ [Action.ingest o time] ⊆
        before ++ .ingest o time :: between ++ [.ingest o' time'] := by simp
    rw [hs₁]
    exact recalls_of_admitted hadmitted (hbefore.not_recalled hadmitted (hcontent.mono hsub)) time
  -- it is still in the window when the second one arrives
  have hfinal := final_recalls hrecalls hbound hfew
  have hrun := final_identifies options now hfloor
  rw [Run.final_append, ← hs, Run.final, ← hs₁, ← hs₂, ← hid, ← hboot] at hrun
  rw [← hid, ← hboot] at hcontent hfinal
  have hnew := hrun.not_recalled hadmitted' hcontent
  rw [← hs₂] at hfinal
  obtain ⟨q, hq, -, hentry, -⟩ := hfinal
  obtain rfl : p' = q := Option.some.inj (hadmitted'.publisher.symm.trans hq)
  intro heq
  rw [heq, hnew] at hentry
  cases hentry

/-- Publisher `p` registers. -/
def registerSample : Action := .registerPublisher sampleRegistration fun _ => 0

/-- A counter sample of boot 1 of publisher `p`. -/
def sampleReading (sequence : UInt64) : Action := .ingestCounter (reading .Delta 64 sequence 1) 0

/-- Two observations with a counter sample in between. -/
theorem eventIds_distinct_three :
    let s := Run.final act (State.initial {} 0) [registerSample]
    let s₁ := (act s (.ingest (sampleObservation 1) 0)).2
    let s₂ := Run.final act s₁ [sampleReading 2]
    (ingestLocked s (sampleObservation 1) 0).1.disposition.isAccepted = true ∧
      (ingestLocked s₂ (sampleObservation 3) 0).1.disposition.isAccepted = true ∧
      (sampleObservation 1).eventId ≠ (sampleObservation 3).eventId :=
  ⟨by decide +kernel, by decide +kernel,
    eventIds_distinct {} 0 [registerSample] [sampleReading 2] (sampleObservation 1)
      (sampleObservation 3) 0 0 rfl rfl rfl ⟨rfl, rfl⟩ (by decide +kernel) (by decide +kernel)
      (by decide +kernel) (by decide +kernel) (by decide +kernel) (by decide +kernel)⟩

/-! ## A flood of counter samples -/

theorem validateCounterPublication_reading (hk : k ≠ 0) :
    validateCounterPublication (reading .Delta 64 k 1) = .ok () := by
  simp only [validateCounterPublication, reading, failIf, hk, if_false]
  rfl

/-- A fresh counter sample takes its number as an observation does. -/
theorem Sampling.sample (h : Sampling s b) (hk : k ≠ 0) (hfresh : b.Fresh k) :
    Sampling (act s (sampleReading k)).2
      (b.commit k (counterHash (reading .Delta 64 k 1))) := by
  obtain ⟨p, hp, rfl, hids⟩ := h.entry
  have hadmitted : AdmittedCounter s (reading .Delta 64 k 1) p :=
    ⟨validateCounterPublication_reading hk, nofun, hp, h.boot, h.epoch.symm, h.current, h.fenced⟩
  obtain ⟨resets, wraps, -, -, hpublishers⟩ := counterAccounted_publishers s
    (c := reading .Delta 64 k 1) (p := p) 0 ((isAccepted_accountSequence p k _).2 hfresh)
  rw [← ingestCounter_admitted hadmitted] at hpublishers
  have hbinding (d : SequenceDecision) :
      ((acceptCounter p (reading .Delta 64 k 1) d 0).countDiscontinuity resets wraps).binding =
        p.binding.commit k (counterHash (reading .Delta 64 k 1)) := by
    simp [acceptCounter, PublisherState.countDiscontinuity, commitSequence, PublisherState.binding,
      Binding.commit, Binding.highAfter, reading]
  have honly := (ingestCounter_binding s (reading .Delta 64 k 1) 0).1
  have hentry := (congrArg (·[ascii "p"]?) hpublishers).trans getElem?_insert_self
  exact ⟨honly.coordinatorEpoch_eq.trans h.epoch, h.boot, h.current, h.fenced, _, hentry,
    hbinding _, hids⟩

theorem Sampling.accepts (h : Sampling s b) (hk : k ≠ 0) (hfresh : b.Fresh k) :
    (ingestLocked s (sampleObservation k) 0).1.disposition.isAccepted = true := by
  obtain ⟨p, hp, rfl, hids⟩ := h.entry
  exact (ingestLocked_accepts 0 (validateObservationStructure_sample hk) hp h.boot h.epoch.symm
    h.current h.fenced hfresh (hids k)).1

theorem Sampling.bound (h : Sampling s b) : s.Bound (ascii "p") 1 := by
  obtain ⟨p, hp, rfl, -⟩ := h.entry
  exact ⟨p, hp, h.boot⟩

/-- The first `n` samples of the flood. -/
@[irreducible]
def floodSamples (n : Nat) : List Action := (List.range n).map fun i => sampleReading (lateNumber i)

theorem flooded_samples (h : Flooded 0 s) (hn : n ≤ 4095) :
    Flooded n (Run.final act s (floodSamples n)) ∧
      Run.Along act (fun s a => (act s a).2.Bound (ascii "p") 1) s (floodSamples n) := by
  induction n with
  | zero =>
    rw [floodSamples]
    exact ⟨h, trivial⟩
  | succ n ih =>
    obtain ⟨hflooded, hbound⟩ := ih (by omega)
    have hnext : Flooded (n + 1) (act (Run.final act s (floodSamples n))
        (sampleReading (lateNumber n))).2 :=
      hflooded.take (by omega) _ fun _ hs hfresh =>
        hs.sample (lateNumber_ne_zero (by omega)) hfresh
    have hsplit : floodSamples (n + 1) = floodSamples n ++ [sampleReading (lateNumber n)] := by
      rw [floodSamples, floodSamples, range_succ, map_append, map_singleton]
    rw [hsplit, Run.final_append, Run.along_append]
    have ⟨_, hs, _⟩ := hnext
    exact ⟨hnext, hbound, hs.bound, trivial⟩

theorem floodSamples_silent (n : Nat) : ∀ a ∈ floodSamples n, a.eventId = none := by
  intro a ha
  rw [floodSamples] at ha
  obtain ⟨i, -, rfl⟩ := mem_map.1 ha
  rfl

/-- The last sample of the flood makes room for 5000. -/
theorem Flooded.last (h : Flooded 4095 s) :
    (act s (sampleReading 5001)).2.Bound (ascii "p") 1 ∧
      (ingestLocked (act s (sampleReading 5001)).2
        (sampleObservation 5000) 0).1.disposition.isAccepted = true := by
  obtain ⟨b, hs, hfresh, hagain⟩ := h.forgets
  have hlast := hs.sample (by decide) hfresh
  exact ⟨hlast.bound, hlast.accepts (by decide) (hagain _)⟩

/-- Steps that send no observation accept no event id. -/
theorem acceptedEventIds_of_silent (h : ∀ a ∈ l, a.eventId = none) (s : State) :
    acceptedEventIds id boot (Run.history act s l) = [] := by
  refine filterMap_eq_nil_iff.2 fun e he => ?_
  simp [h e.1 (Run.mem_of_mem_history he)]

/-- The state in which 5000 came first. -/
def firstObserved : State :=
  Run.final act (State.initial {} 0) [registerSample, .ingest (sampleObservation 5000) 0]

/-- The samples between the two arrivals of 5000: all numbers that are late but above the floor,
and one more. -/
def flood : List Action := floodSamples 4095 ++ [sampleReading 5001]

/-- Between two acceptances of the same observation the boot stays bound, and nothing but counter
    samples is accepted from it. -/
theorem sampledFlood_reuses :
    (ingestLocked (Run.final act (State.initial {} 0) [registerSample])
        (sampleObservation 5000) 0).1.disposition.isAccepted = true ∧
      Run.Along act (fun s a => (act s a).2.Bound (ascii "p") 1) firstObserved flood ∧
      acceptedEventIds (ascii "p") 1 (Run.history act firstObserved flood) = [] ∧
      (ingestLocked (Run.final act firstObserved flood)
        (sampleObservation 5000) 0).1.disposition.isAccepted = true := by
  have hzero : Flooded 0 firstObserved := flooded_zero
  obtain ⟨hflooded, hbound⟩ := flooded_samples hzero (Nat.le_refl 4095)
  have hsilent : ∀ a ∈ floodSamples 4095 ++ [sampleReading 5001], a.eventId = none := by
    rw [List.forall_mem_append]
    exact ⟨floodSamples_silent 4095, List.forall_mem_singleton.2 rfl⟩
  rw [flood, Run.along_append, Run.Along, Run.Along, Run.final_concat]
  exact ⟨by decide +kernel, ⟨hbound, hflooded.last.1, trivial⟩,
    acceptedEventIds_of_silent hsilent firstObserved, hflooded.last.2⟩

end CoherenceObservatory
