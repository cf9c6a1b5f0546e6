import CoherenceObservatory.Ledger
import CoherenceObservatory.Persistence.Lineage

/-!
# Late arrivals

A number that comes after a larger one is late. It is still taken if the boot has not sent it
before and the window reaches back to it, unless the watermark is durable. A watermark becomes
durable when it is taken over from the table, and it stays durable for whatever boot the
publisher is bound to later, also for one that has nothing in the table.
-/

namespace CoherenceObservatory

open Std

/-- The event id a step offers, and for which publisher boot. -/
def Action.eventId : Action → Option (PublisherId × PublisherBootId × CoherenceEventId)
  | .ingest o _ => some (o.sourcePublisher, o.publisherBoot, o.eventId)
  | _ => none

/-- The boot has sent the number. -/
def Sent (l : List Action) (id : PublisherId) (boot : PublisherBootId) (sequence : EventSequence) :
    Prop :=
  ∃ a ∈ l, a.offers = some (id, boot, sequence)

/-- The boot has used the event id. -/
def Used (l : List Action) (id : PublisherId) (boot : PublisherBootId) (eventId : CoherenceEventId) :
    Prop :=
  ∃ a ∈ l, a.eventId = some (id, boot, eventId)

instance (l : List Action) (id : PublisherId) (boot : PublisherBootId)
    (sequence : EventSequence) : Decidable (Sent l id boot sequence) :=
  inferInstanceAs (Decidable (∃ a ∈ l, _))

instance (l : List Action) (id : PublisherId) (boot : PublisherBootId) (eventId : CoherenceEventId) :
    Decidable (Used l id boot eventId) :=
  inferInstanceAs (Decidable (∃ a ∈ l, _))

/-- The ledger holds only what the bound boot has sent. -/
structure Ledger.Recorded (l : List Action) (id : PublisherId) (b : Ledger) : Prop where
  sent : ∀ q ∈ b.window, Sent l id b.boot q
  used : ∀ i ∈ b.eventIds, Used l id b.boot i

variable {l : List Action} {id : PublisherId} {boot : PublisherBootId} {sequence : UInt64}
  {p : PublisherState}

theorem Sent.append {sequence : EventSequence} (h : Sent l id boot sequence) (l' : List Action) :
    Sent (l ++ l') id boot sequence := by
  obtain ⟨a, ha, hoffers⟩ := h
  exact ⟨a, List.mem_append_left l' ha, hoffers⟩

theorem Used.append {eventId : CoherenceEventId} (h : Used l id boot eventId) (l' : List Action) :
    Used (l ++ l') id boot eventId := by
  obtain ⟨a, ha, hid⟩ := h
  exact ⟨a, List.mem_append_left l' ha, hid⟩

namespace Ledger.Recorded

variable {l : List Action} {id : PublisherId} {b : Ledger}

theorem append (h : b.Recorded l id) (l' : List Action) : b.Recorded (l ++ l') id where
  sent q hq := (h.sent q hq).append l'
  used i hi := (h.used i hi).append l'

theorem take (h : b.Recorded l id) (hash : UInt64) (hsent : Sent l id b.boot sequence) :
    (b.take sequence hash).Recorded l id where
  sent q hq := by
    rcases BoundedFifo.eq_or_mem_of_mem_push hq with rfl | hq
    · exact hsent
    · exact h.sent q hq
  used := h.used

theorem note (h : b.Recorded l id) {eventId : UInt64} (hash : UInt64)
    (hused : Used l id b.boot eventId) : (b.note eventId hash).Recorded l id where
  sent := h.sent
  used i hi := by
    rcases BoundedFifo.eq_or_mem_of_mem_push hi with rfl | hi
    · exact hused
    · exact h.used i hi

end Ledger.Recorded

/-- What the ledgers of a state hold was sent by the bound boots. -/
def State.Recorded (l : List Action) (s : State) : Prop :=
  ∀ (id : PublisherId) (p : PublisherState), s.publishers[id]? = some p → p.ledger.Recorded l id

theorem boundPublisher_recorded {r : PublisherRegistration} (epoch : CoordinatorEpoch)
    (kept : Option PublisherWatermark) (now : Nanos)
    (h : p.view.boot = r.boot → p.ledger.Recorded l id) :
    (boundPublisher p r epoch kept now).ledger.Recorded l id := by
  obtain ⟨_, hboot⟩ := boundPublisher_view p r epoch kept now
  by_cases hsame : p.view.boot = r.boot
  · obtain ⟨hwindow, hids, _⟩ := boundPublisher_same epoch kept now hsame
    have hp := h hsame
    refine ⟨fun q hq => ?_, fun i hi => ?_⟩
    · change Sent l id (boundPublisher p r epoch kept now).view.boot q
      rw [hboot, ← hsame]
      exact hp.sent q (hwindow.subst (motive := (q ∈ ·)) hq)
    · change Used l id (boundPublisher p r epoch kept now).view.boot i
      rw [hboot, ← hsame]
      exact hp.used i (hids.subst (motive := (i ∈ ·)) hi)
  · obtain ⟨hwindow, hids, _⟩ := boundPublisher_fresh epoch kept now hsame
    refine ⟨fun q hq => ?_, fun i hi => ?_⟩
    · exact absurd (hwindow.subst (motive := (q ∈ ·)) hq) (BoundedFifo.not_mem_empty q)
    · exact absurd (hids.subst (motive := (i ∈ ·)) hi) (BoundedFifo.not_mem_empty i)

/-- Every step records what it takes. -/
theorem act_recorded {s : State} (h : s.Recorded l) (a : Action) :
    (act s a).2.Recorded (l ++ [a]) := by
  intro id p' hp'
  have hentry := act_entry s a id
  have hmem : a ∈ l ++ [a] := List.mem_append_right l List.mem_cons_self
  rw [hp'] at hentry
  generalize he : s.publishers[id]? = e at hentry
  cases hentry with
  | keep hrecounts _ =>
    cases hrecounts with
    | some hrecounts => exact hrecounts.ledger_eq ▸ (h id _ he).append [a]
  | @observe o now p _ ha hid hadmitted _ hledger _ =>
    subst ha hid
    have hb : p.ledger.boot = o.publisherBoot := hadmitted.boot
    rw [hledger]
    exact (((h _ p he).append _).take _ ⟨_, hmem, by rw [hb]; rfl⟩).note _
      ⟨_, hmem, congrArg (fun b => some (_, b, _)) hb.symm⟩
  | @sample c now p _ ha hid hadmitted _ _ hledger _ =>
    subst ha hid
    have hb : p.ledger.boot = c.publisherBoot := hadmitted.boot
    rw [hledger]
    exact ((h _ p he).append _).take _ ⟨_, hmem, by rw [hb]; rfl⟩
  | bind r clock s₁ _ _ hchecks _ _ =>
    refine boundPublisher_recorded _ _ _ fun hsame => ?_
    cases e with
    | none => exact absurd hsame.symm (checkRegistration_boot hchecks)
    | some p => exact (h id p he).append [a]
  | fence boot reason detail now _ _ =>
    have hp := (h id _ he).append [a]
    exact ⟨hp.sent, hp.used⟩

theorem final_recorded (options : ObservatoryOptions) (now : Nanos) (l : List Action) :
    (Run.final act (State.initial options now) l).Recorded l := by
  have hstep (past : List (Action × Answer)) (s : State) (a : Action)
      (h : s.Recorded (past.map Prod.fst)) :
      (act s a).2.Recorded ((past ++ [(a, (act s a).1)]).map Prod.fst) := by
    rw [List.map_append]
    exact act_recorded h a
  have hinitial : (State.initial options now).Recorded [] := fun id p hp => by
    simp [State.initial] at hp
  have h := Run.history_invariant (C := fun _ _ => True)
    (I := fun past s => s.Recorded (past.map Prod.fst)) (fun past s a h _ => hstep past s a h)
    hinitial (Run.along_of_forall (fun _ _ => trivial) (State.initial options now) l)
  rwa [Run.map_fst_history] at h

/-! ## Late numbers -/

/-- A number inside the window that the boot never sent. -/
theorem Ledger.Recorded.fresh_iff (h : p.ledger.Recorded l id)
    (hsent : ¬Sent l id p.view.boot sequence) (hwatermark : p.hasWatermark = true)
    (hbelow : sequence < p.highWatermark)
    (habove : p.highWatermark.toNat < sequence.toNat + Limits.maxSequenceWindow) :
    p.binding.Fresh sequence ↔ p.durableWatermark = false := by
  have hseen : sequence ∉ p.window := fun hmem => hsent (h.sent sequence hmem)
  constructor
  · intro hfresh
    by_contra hdurable
    have hcovers : p.binding.Covers sequence :=
      ⟨hwatermark, UInt64.le_of_lt hbelow, .inl (Bool.eq_true_of_not_eq_false hdurable)⟩
    exact hcovers.not_fresh hfresh
  · intro hdurable
    exact fresh_of_late hdurable (fun hmem => hseen ((p.window.mem_iff sequence).1 hmem)) habove

/-- In every run: a well-formed observation of the current boot under the current epoch, with an
    event id and a number that the boot never used, below the high watermark and above it minus
    4096, is accepted as late exactly if the watermark of the publisher is not durable. -/
theorem lateArrival_iff (options : ObservatoryOptions) (now : Nanos) (l : List Action)
    {o : Observation} {p : PublisherState} (time : Nanos)
    (hp : (Run.final act (State.initial options now) l).publishers[o.sourcePublisher]? = some p)
    (hboot : p.view.boot = o.publisherBoot) (hcurrent : p.view.current = true)
    (hvalid : validateObservationStructure o = .ok ())
    (hepoch : o.coordinatorEpoch =
      (Run.final act (State.initial options now) l).coordinatorEpoch)
    (hused : ¬Used l o.sourcePublisher o.publisherBoot o.eventId)
    (hsent : ¬Sent l o.sourcePublisher o.publisherBoot o.sequence)
    (hwatermark : p.hasWatermark = true) (hbelow : o.sequence < p.highWatermark)
    (habove : p.highWatermark.toNat < o.sequence.toNat + 4096) :
    (ingestLocked (Run.final act (State.initial options now) l) o time).1.disposition =
        .acceptedLate ↔ p.durableWatermark = false := by
  have hrecorded := final_recorded options now l _ p hp
  have hfencedOut := final_fencedOut (fencedOut_initial options now) l
  -- below the watermark the window decides, unless the mark is durable
  have hfresh := hrecorded.fresh_iff (hboot ▸ hsent) hwatermark hbelow habove
  generalize Run.final act (State.initial options now) l = s at *
  rw [← hfresh]
  constructor
  · intro hlate
    have haccepted : (ingestLocked s o time).1.disposition.isAccepted = true := by
      rw [hlate]
      rfl
    obtain ⟨p', hadmitted⟩ := admitted_of_accepted haccepted
    obtain rfl := Option.some.inj (hp.symm.trans hadmitted.publisher)
    exact (isAccepted_accountSequence ..).1 hadmitted.fresh
  · intro hfresh
    have hnew : p.recentEventIds.entries[o.eventId]? = none := by
      rw [← Option.not_isSome_iff_eq_none, ← ExtTreeMap.mem_iff_isSome_getElem?]
      exact fun hmem => hused (hboot ▸ hrecorded.used o.eventId hmem)
    have hfenced : p.view.fenced = false := hfencedOut _ p hp hcurrent
    have hadmitted : Admitted s o p :=
      ⟨hvalid, hp, hboot, hepoch, .inl ⟨hcurrent, by simp [hfenced]⟩,
        (isAccepted_accountSequence ..).2 hfresh, by rw [hnew]; rfl⟩
    rw [(ingestLocked_answer hadmitted time).1]
    exact (accountSequence_fresh hadmitted.fresh).1.2 ⟨hwatermark, UInt64.le_of_lt hbelow⟩

/-- Boot 1 of `p` has sent 1 and 3. -/
def skippedRun : List Action :=
  [.registerPublisher sampleRegistration fun _ => 0, .ingest (sampleObservation 1) 0,
    .ingest (sampleObservation 3) 0]

/-- Then it sends 2. -/
theorem lateArrival_iff_skipped :
    (ingestLocked (Run.final act (State.initial {} 0) skippedRun) (sampleObservation 2)
      0).1.disposition = .acceptedLate := by
  obtain ⟨p, hp, hboot, hcurrent, hwatermark, hbelow, habove, hdurable⟩ :
      ∃ p ∈ (Run.final act (State.initial {} 0) skippedRun).publishers[ascii "p"]?,
        p.view.boot = 1 ∧ p.view.current = true ∧ p.hasWatermark = true ∧ 2 < p.highWatermark ∧
          p.highWatermark.toNat < 2 + 4096 ∧ p.durableWatermark = false := by
    decide +kernel
  exact (lateArrival_iff (o := sampleObservation 2) {} 0 skippedRun 0 hp hboot hcurrent
    (by decide +kernel) (by decide +kernel) (by decide +kernel) (by decide +kernel) hwatermark
    hbelow habove).2 hdurable

/-! ## A boot after a restored one -/

/-- An observation of boot 2 of `p` under the second coordinator epoch. -/
def successorObservation (sequence : UInt64) : Observation :=
  { sampleObservation sequence with publisherBoot := 2, coordinatorEpoch := 2 }

/-- An observatory loads what it had saved after boot 1 of `p` sent 1. The boot registers and
takes its watermark over. Then boot 2 of `p` registers and sends 5. -/
def successorRun : List Action :=
  [.load [] (some (saveState (Lineage.heard (State.initial {} 0) 1 1))) {} fun _ => 0,
    Lineage.greets, .registerPublisher { sampleRegistration with boot := 2 } fun _ => 0,
    .ingest (successorObservation 5) 0]

/-- Boot 2 has nothing in the table and has only sent 5, and its late 3 is refused. -/
theorem successor_lateRefused :
    let s := Run.final act (State.initial {} 0) successorRun
    let o := successorObservation 3
    (∃ p ∈ s.publishers[ascii "p"]?, p.view.boot = 2 ∧ p.view.current = true ∧
        p.hasWatermark = true ∧ 3 < p.highWatermark ∧ p.highWatermark.toNat < 3 + 4096) ∧
      s.watermarks[bootKey (ascii "p") 2]? = none ∧
      validateObservationStructure o = .ok () ∧ o.coordinatorEpoch = s.coordinatorEpoch ∧
      ¬Used successorRun (ascii "p") 2 3 ∧ ¬Sent successorRun (ascii "p") 2 3 ∧
      (ingestLocked s o 0).1.disposition = .rejected := by
  have hsavable := Lineage.savable_heard (savable_initial 0) 1 1 (by decide +kernel)
  have hfinal : Run.final act (State.initial {} 0) successorRun =
      Run.final act (Lineage.reloaded (Lineage.heard (State.initial {} 0) 1 1))
        successorRun.tail := by
    rw [successorRun, Run.final, Lineage.act_load_saveState hsavable]
    rfl
  rw [hfinal]
  decide +kernel

end CoherenceObservatory
