import CoherenceObservatory.Protocol.Client
import CoherenceObservatory.Lib.Run

/-!
# The numbers of a remote publisher

The publishing calls and `next_sequence` share one cursor. A supplied sequence moves it past
itself, a sequence the publisher fills in does not, and `next_sequence` only looks: a caller who
leaves two sequences unset sends the same one twice.
-/

namespace CoherenceObservatory

open List

/-- The numbers of a publication. A counter sample has no event id. -/
structure Numbers where
  sequence : EventSequence
  eventId : Option CoherenceEventId
  deriving DecidableEq, Repr

/-- Those of an observation. -/
def Observation.numbers (o : Observation) : Numbers := ⟨o.sequence, some o.eventId⟩

/-- A counter sample takes no event id. -/
def CounterPublication.numbers (c : CounterPublication) : Numbers := ⟨c.sequence, none⟩

/-- A call of the publisher, with the answer of the coordinator to the frame it sends. -/
inductive PublisherCall where
  | publish (o : Observation) (exchange : Frame → Except Error AckPayload)
  | publishBatch (os : List Observation) (exchange : Frame → Except Error AckPayload)
  | publishCounter (c : CounterPublication) (exchange : Frame → Except Error AckPayload)
  | nextSequence

/-- The numbers the caller supplies. Zero is unset. -/
def PublisherCall.numbers : PublisherCall → List Numbers
  | .publish o _ => [o.numbers]
  | .publishBatch os _ => os.map Observation.numbers
  | .publishCounter c _ => [c.numbers]
  | .nextSequence => []

namespace ObservationPublisher

variable {p : ObservationPublisher} {o : Observation} {os : List Observation}

/-! ## Calls -/

/-- The observations of a batch as they are written. -/
def stampBatch : ObservationPublisher → List Observation → List Observation
  | _, [] => []
  | p, o :: os => p.stamp o :: (p.advance o.sequence).stampBatch os

/-- The numbers a call puts on the wire: those of the publications in the frame it sends. -/
def sent (p : ObservationPublisher) : PublisherCall → List Numbers
  | .publish o _ => if (p.publishRequest o).1.isOk then [(p.stamp o).numbers] else []
  | .publishBatch os _ =>
    if (p.batchRequest os).1.isOk then (p.stampBatch os).map Observation.numbers else []
  | .publishCounter c _ => if (p.counterRequest c).1.isOk then [(p.stampCounter c).numbers] else []
  | .nextSequence => []

/-- The publisher after a call. -/
def after (p : ObservationPublisher) : PublisherCall → ObservationPublisher
  | .publish o exchange => (p.publish o exchange).2
  | .publishBatch os exchange => (p.publishBatch os exchange).2
  | .publishCounter c exchange => (p.publishCounter c exchange).2
  | .nextSequence => p

/-- The numbers a publication goes out with. -/
def number (p : ObservationPublisher) (n : Numbers) : Numbers where
  sequence := p.sequenceFor n.sequence
  eventId := n.eventId.map (fill · p.nextSequence)

/-- The numbers publications go out with, each behind the cursor its predecessors left. -/
def numberAll : ObservationPublisher → List Numbers → List Numbers
  | _, [] => []
  | p, n :: ns => p.number n :: (p.advance n.sequence).numberAll ns

/-- The cursor behind publications. -/
def advanceAll : ObservationPublisher → List Numbers → ObservationPublisher
  | p, [] => p
  | p, n :: ns => (p.advance n.sequence).advanceAll ns

variable (p : ObservationPublisher) (ack : Except Error AckPayload)

theorem numbers_stampBatch (os : List Observation) :
    (p.stampBatch os).map Observation.numbers = p.numberAll (os.map Observation.numbers) := by
  induction os generalizing p with
  | nil => rfl
  | cons o os ih => exact congrArg _ (ih _)

/-- The cursor is moved by the observations of a batch up to the one that cannot be written. -/
theorem writeBatch_cursor (os : List Observation) :
    ∃ pre, pre <+: os.map Observation.numbers ∧ (p.writeBatch os).2 = p.advanceAll pre ∧
      ((p.writeBatch os).1.2 = .ok () → pre = os.map Observation.numbers) := by
  induction os generalizing p with
  | nil => exact ⟨[], prefix_rfl, rfl, fun _ => rfl⟩
  | cons o os ih =>
    obtain ⟨pre, hpre, hcursor, hwhole⟩ := ih (p.advance o.sequence)
    rw [writeBatch]
    split
    · refine ⟨[o.numbers], ?_, rfl, nofun⟩
      exact prefix_append [_] _
    · refine ⟨o.numbers :: pre, (prefix_cons_inj _).2 hpre, hcursor, fun h => ?_⟩
      rw [hwhole h]
      rfl

theorem publishResult_cursor : (p.publishResult ack).2.nextSequence = p.nextSequence := by
  unfold publishResult
  repeat' split
  all_goals rfl

theorem counterResult_cursor : (p.counterResult ack).2.nextSequence = p.nextSequence := by
  unfold counterResult
  repeat' split
  all_goals rfl

theorem batchResult_cursor : (p.batchResult ack).2.nextSequence = p.nextSequence := by
  unfold batchResult
  repeat' split
  all_goals rfl

/-- A call moves the cursor behind a part of its publications. If it sends them, then behind
all, and they go out as they are numbered. -/
theorem call_spec (c : PublisherCall) :
    ∃ pre, pre <+: c.numbers ∧ (p.after c).nextSequence = (p.advanceAll pre).nextSequence ∧
      (p.sent c = [] ∨ pre = c.numbers ∧ p.sent c = p.numberAll c.numbers) := by
  cases c with
  | nextSequence => exact ⟨[], prefix_rfl, rfl, .inl rfl⟩
  | publish o exchange =>
    simp only [sent, after, publish]
    obtain ⟨_, h⟩ | ⟨_, h⟩ | ⟨_, h⟩ := p.publishRequest_cases o <;> rw [h]
    · exact ⟨[], nil_prefix, rfl, .inl rfl⟩
    · exact ⟨[o.numbers], prefix_rfl, rfl, .inl rfl⟩
    · exact ⟨[o.numbers], prefix_rfl, publishResult_cursor _ _, .inr ⟨rfl, rfl⟩⟩
  | publishCounter c exchange =>
    simp only [sent, after, publishCounter]
    obtain ⟨_, h⟩ | ⟨_, h⟩ | ⟨_, h⟩ := p.counterRequest_cases c <;> rw [h]
    · exact ⟨[], nil_prefix, rfl, .inl rfl⟩
    · exact ⟨[c.numbers], prefix_rfl, rfl, .inl rfl⟩
    · exact ⟨[c.numbers], prefix_rfl, counterResult_cursor _ _, .inr ⟨rfl, rfl⟩⟩
  | publishBatch os exchange =>
    simp only [sent, after, publishBatch]
    obtain ⟨pre, hpre, hcursor, hwhole⟩ := p.writeBatch_cursor os
    obtain ⟨_, h⟩ | ⟨_, h⟩ | ⟨hok, -, -, h⟩ := p.batchRequest_cases os <;> rw [h]
    · exact ⟨[], nil_prefix, rfl, .inl rfl⟩
    · exact ⟨pre, hpre, congrArg _ hcursor, .inl rfl⟩
    · refine ⟨pre, hpre, ?_, .inr ⟨hwhole hok, p.numbers_stampBatch os⟩⟩
      rw [batchResult_cursor, ← hcursor]
      rfl

/-! ## Care -/

/-- The publications take their sequences from `next_sequence` as their turns come, and only the
last of all may leave its own unset. `spent`: one before did. An event id is unset or the
value given for the sequence. -/
def Careful : ObservationPublisher → Bool → List Numbers → Prop
  | _, _, [] => True
  | p, spent, n :: ns =>
    spent = false ∧ p.getNextSequence ≠ 0 ∧
      (n.sequence = 0 ∨ n.sequence = p.getNextSequence) ∧
      (∀ id ∈ n.eventId, id = 0 ∨ id = p.getNextSequence) ∧
      (p.advance n.sequence).Careful (n.sequence = 0) ns

instance decidableCareful : ∀ (p : ObservationPublisher) (spent : Bool) (ns : List Numbers),
    Decidable (p.Careful spent ns)
  | _, _, [] => .isTrue trivial
  | p, spent, n :: ns =>
    have := decidableCareful (p.advance n.sequence) (n.sequence = 0) ns
    have : Decidable (∀ id ∈ n.eventId, id = 0 ∨ id = p.getNextSequence) :=
      match n.eventId with
      | none => .isTrue nofun
      | some id => decidable_of_iff (id = 0 ∨ id = p.getNextSequence) (by simp)
    inferInstanceAs (Decidable (_ ∧ _ ∧ _ ∧ _ ∧ _))

end ObservationPublisher

/-- The numbers of what was sent increase. -/
structure Increasing (sent : List Numbers) : Prop where
  sequences : (sent.map Numbers.sequence).Pairwise (· < ·)
  eventIds : (sent.filterMap Numbers.eventId).Pairwise (· < ·)

/-- What was sent lies below the cursor. The cursor is odd: it starts at one and every supplied
sequence moves it by two. -/
structure Below (sent : List Numbers) (p : ObservationPublisher) : Prop where
  odd : p.nextSequence.toNat % 2 = 1
  sequences : ∀ n ∈ sent, n.sequence < p.nextSequence
  eventIds : ∀ n ∈ sent, ∀ id ∈ n.eventId, id < p.nextSequence

namespace ObservationPublisher

variable {sent : List Numbers} {p : ObservationPublisher} {n : Numbers} {ns : List Numbers}

theorem toNat_next (h : p.getNextSequence ≠ 0) :
    p.getNextSequence.toNat = p.nextSequence.toNat + 1 := by
  have hlt := p.nextSequence.toNat_lt
  have hne : p.getNextSequence.toNat ≠ 0 := fun h' => h (UInt64.toNat_inj.1 h')
  rw [getNextSequence, UInt64.toNat_add] at *
  simp only [UInt64.toNat_one] at *
  omega

theorem sequence_number (h : n.sequence = 0 ∨ n.sequence = p.getNextSequence)
    (hnext : p.getNextSequence ≠ 0) : (p.number n).sequence = p.getNextSequence := by
  obtain h | h := h
  · simp [number, sequenceFor, fill, h, getNextSequence]
  · simp [number, sequenceFor, fill, h, hnext]

/-- An event id goes out as the cursor or the sequence behind it. -/
theorem eventId_number (h : ∀ id ∈ n.eventId, id = 0 ∨ id = p.getNextSequence)
    (hnext : p.getNextSequence ≠ 0) :
    ∀ id ∈ (p.number n).eventId, id = p.nextSequence ∨ id = p.getNextSequence := by
  intro id hid
  obtain ⟨given, hgiven, rfl⟩ := Option.map_eq_some_iff.1 hid
  obtain h | h := h given hgiven
  · simp [fill, h]
  · simp [fill, h, hnext]

theorem increasing_number (hbelow : Below sent p) (hsent : Increasing sent)
    (hnext : p.getNextSequence ≠ 0) (hsequence : n.sequence = 0 ∨ n.sequence = p.getNextSequence)
    (hid : ∀ id ∈ n.eventId, id = 0 ∨ id = p.getNextSequence) :
    Increasing (sent ++ [p.number n]) := by
  have hto := toNat_next hnext
  constructor
  · rw [map_append, pairwise_append]
    refine ⟨hsent.sequences, pairwise_singleton _ _, ?_⟩
    simp only [mem_map, map_cons, map_nil, mem_singleton]
    rintro _ ⟨m, hm, rfl⟩ _ rfl
    have hlt := hbelow.sequences m hm
    rw [sequence_number hsequence hnext]
    rw [UInt64.lt_iff_toNat_lt] at *
    omega
  · rw [filterMap_append, pairwise_append]
    refine ⟨hsent.eventIds, ?_, ?_⟩
    · cases h : (p.number n).eventId <;> simp [h]
    intro a ha b hb
    obtain ⟨m, hm, ha⟩ := mem_filterMap.1 ha
    have hlt := hbelow.eventIds m hm a ha
    have hb : b ∈ (p.number n).eventId := by simpa using hb
    rw [UInt64.lt_iff_toNat_lt] at *
    obtain rfl | rfl := eventId_number hid hnext b hb <;> omega

theorem below_number (hbelow : Below sent p) (hnext : p.getNextSequence ≠ 0)
    (hsequence : n.sequence = p.getNextSequence)
    (hid : ∀ id ∈ n.eventId, id = 0 ∨ id = p.getNextSequence) :
    Below (sent ++ [p.number n]) (p.advance n.sequence) := by
  have hto := toNat_next hnext
  have hodd := hbelow.odd
  have hlt := p.getNextSequence.toNat_lt
  have hcursor : (p.advance n.sequence).nextSequence.toNat = p.nextSequence.toNat + 2 := by
    have hge : n.sequence ≠ 0 ∧ n.sequence ≥ p.nextSequence := by
      rw [hsequence, ge_iff_le, UInt64.le_iff_toNat_le]
      exact ⟨hnext, by omega⟩
    rw [advance, if_pos hge, hsequence]
    simp only [UInt64.toNat_add, UInt64.toNat_one]
    omega
  refine ⟨by omega, ?_, ?_⟩
  · intro m hm
    rw [UInt64.lt_iff_toNat_lt]
    obtain hm | hm := mem_append.1 hm
    · have := UInt64.lt_iff_toNat_lt.1 (hbelow.sequences m hm)
      omega
    · rw [mem_singleton.1 hm, sequence_number (.inr hsequence) hnext]
      omega
  · intro m hm id hmem
    rw [UInt64.lt_iff_toNat_lt]
    obtain hm | hm := mem_append.1 hm
    · have := UInt64.lt_iff_toNat_lt.1 (hbelow.eventIds m hm id hmem)
      omega
    · rw [mem_singleton.1 hm] at hmem
      obtain rfl | rfl := eventId_number hid hnext id hmem <;> omega

variable {spent : Bool}

/-- Careful publications go out with increasing numbers, above all before. -/
theorem increasing_numberAll (hsent : Increasing sent) (hbelow : spent = false → Below sent p)
    (h : p.Careful spent ns) :
    Increasing (sent ++ p.numberAll ns) ∧
      ((spent || ns.any (·.sequence = 0)) = false →
        Below (sent ++ p.numberAll ns) (p.advanceAll ns)) := by
  induction ns generalizing sent p spent with
  | nil => simpa [numberAll, advanceAll] using ⟨hsent, hbelow⟩
  | cons n ns ih =>
    obtain ⟨rfl, hnext, hsequence, hid, hrest⟩ := h
    have hmore := ih (increasing_number (hbelow rfl) hsent hnext hsequence hid)
      (fun hset => below_number (hbelow rfl) hnext (hsequence.resolve_left (by simpa using hset)) hid)
      hrest
    simpa [numberAll, advanceAll] using hmore

theorem Careful.of_prefix {pre : List Numbers} (hpre : pre <+: ns) (h : p.Careful spent ns) :
    p.Careful spent pre := by
  induction pre generalizing p spent ns with
  | nil => trivial
  | cons n pre ih =>
    obtain ⟨rest, rfl⟩ := hpre
    obtain ⟨hspent, hnext, hsequence, hid, hrest⟩ := h
    exact ⟨hspent, hnext, hsequence, hid, ih (prefix_append _ _) hrest⟩

end ObservationPublisher

/-! ## Runs -/

/-- A publisher in use. `spent`: a publication left its sequence unset. -/
structure Allocation where
  publisher : ObservationPublisher
  spent : Bool

namespace Allocation

/-- A call answers with the numbers it puts on the wire. -/
def call (a : Allocation) (c : PublisherCall) : List Numbers × Allocation :=
  (a.publisher.sent c, ⟨a.publisher.after c, a.spent || c.numbers.any (·.sequence = 0)⟩)

/-- No publication before left its sequence unset, and the publications of the call take theirs
from `next_sequence`. -/
def Careful (a : Allocation) (c : PublisherCall) : Prop := a.publisher.Careful a.spent c.numbers

instance (a : Allocation) (c : PublisherCall) : Decidable (a.Careful c) :=
  inferInstanceAs (Decidable (a.publisher.Careful _ _))

/-- The numbers on the wire in a run. -/
def wire (p : ObservationPublisher) (calls : List PublisherCall) : List Numbers :=
  (Run.history call ⟨p, false⟩ calls).flatMap Prod.snd

/-- What holds of the numbers on the wire so far. -/
structure Inv (sent : List Numbers) (a : Allocation) : Prop where
  increasing : Increasing sent
  below : a.spent = false → Below sent a.publisher

theorem inv_call {sent : List Numbers} {a : Allocation} {c : PublisherCall} (h : Inv sent a)
    (hc : a.Careful c) : Inv (sent ++ (a.call c).1) (a.call c).2 := by
  obtain ⟨pre, hpre, hcursor, hsent⟩ := a.publisher.call_spec c
  obtain ⟨hincreasing, hbelow⟩ :=
    ObservationPublisher.increasing_numberAll h.increasing h.below (hc.of_prefix hpre)
  -- only the cursor of the publisher matters
  have hmoved : ∀ {ns}, Below ns (a.publisher.advanceAll pre) →
      Below ns (a.publisher.after c) := by
    rintro ns ⟨hodd, hsequences, hids⟩
    rw [← hcursor] at hodd hsequences hids
    exact ⟨hodd, hsequences, hids⟩
  have hunset : (a.call c).2.spent = false →
      (a.spent || pre.any (·.sequence = 0)) = false := by
    simp only [call, Bool.or_eq_false_iff, any_eq_false]
    exact fun ⟨hspent, hall⟩ => ⟨hspent, fun n hn => hall n (hpre.subset hn)⟩
  obtain hnone | ⟨rfl, hall⟩ := hsent
  · -- nothing went out, but the cursor may have moved
    rw [call, hnone, append_nil]
    refine ⟨h.increasing, fun hspent => hmoved ?_⟩
    obtain ⟨hodd, hsequences, hids⟩ := hbelow (hunset hspent)
    exact ⟨hodd, fun n hn => hsequences n (mem_append_left _ hn),
      fun n hn => hids n (mem_append_left _ hn)⟩
  · rw [call, hall]
    exact ⟨hincreasing, fun hspent => hmoved (hbelow (hunset hspent))⟩

end Allocation

/-- In every run of careful calls on a fresh publisher, whatever the coordinator answers, the
    sequences put on the wire increase strictly, and so do the event ids. -/
theorem numbers_increasing {p : ObservationPublisher} (hfresh : p.nextSequence = 1)
    {calls : List PublisherCall}
    (h : Run.Along Allocation.call Allocation.Careful ⟨p, false⟩ calls) :
    ((Allocation.wire p calls).map Numbers.sequence).Pairwise (· < ·) ∧
      ((Allocation.wire p calls).filterMap Numbers.eventId).Pairwise (· < ·) := by
  have hstart : Allocation.Inv [] ⟨p, false⟩ := by
    refine ⟨⟨List.Pairwise.nil, List.Pairwise.nil⟩, fun _ => ⟨?_, nofun, nofun⟩⟩
    simp [hfresh]
  have hinv := Run.history_invariant
    (I := fun past a => Allocation.Inv (past.flatMap Prod.snd) a)
    (fun past a c hpast hc => by simpa using Allocation.inv_call hpast hc) hstart h
  exact ⟨hinv.increasing.sequences, hinv.increasing.eventIds⟩

/-- A coordinator that accepts everything. -/
def acceptAll (_ : Frame) : Except Error AckPayload := .ok { status := .accepted }

/-- Two publications with the sequence fetched before each, and one that leaves it unset. -/
theorem numbers_increasing_three :
    let calls : List PublisherCall :=
      [.nextSequence, .publish { sequence := 2 } acceptAll,
        .nextSequence, .publishCounter { sequence := 4 } acceptAll,
        .publishBatch [{}] acceptAll]
    (Allocation.wire {} calls).map Numbers.sequence = [2, 4, 6] ∧
      ((Allocation.wire {} calls).map Numbers.sequence).Pairwise (· < ·) ∧
      ((Allocation.wire {} calls).filterMap Numbers.eventId).Pairwise (· < ·) := by
  intro calls
  have hcareful : Run.Along Allocation.call Allocation.Careful ⟨{}, false⟩ calls := by
    decide +kernel
  exact ⟨by decide +kernel, numbers_increasing rfl hcareful⟩

/-- Two publications that leave their numbers unset go out with the same ones. -/
theorem unset_numbers_repeat :
    let calls : List PublisherCall := [.publish {} acceptAll, .publish {} acceptAll]
    Allocation.wire {} calls = [⟨2, some 1⟩, ⟨2, some 1⟩] := by
  decide +kernel

end CoherenceObservatory
