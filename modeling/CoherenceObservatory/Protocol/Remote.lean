import CoherenceObservatory.Protocol.Client
import CoherenceObservatory.Protocol.WireRoundTrip
import CoherenceObservatory.Admission

/-!
# What a remote publisher is told

A publication passes three translations on its way back: the handler chooses the fields of an
acknowledgement, the acknowledgement is written and read, and the client interprets it. The
second one is faithful (`readResponse_ackFrame`); the other two forget. For each kind of
publication this module states, on the state before and what is published, exactly when the
client's result is the decision of the coordinator.
-/

namespace CoherenceObservatory

open Codec Limits PayloadReader

/-! ## Acknowledgements -/

variable {α : Type} {ack : AckPayload} {handle : Turn → Frame → Turn} {decided : IngestionOutcome}
  {e : Error} {reason : Text}

theorem run_whole_of_decodes {r : PayloadReader α} {bytes : List UInt8} {x : α}
    (h : Decodes r bytes x) : r.whole.run bytes = .ok x := by
  have hr : r ⟨bytes, 0⟩ = (.ok x, ⟨bytes, bytes.length⟩) := by
    simpa [Cursor.advance] using h ⟨bytes, 0⟩ [] (by simp [Cursor.rest])
  have hend : (⟨bytes, bytes.length⟩ : Cursor).exhausted = true := by
    simp [Cursor.exhausted, Cursor.rest]
  rw [Reader.run, whole, Reader.bind_apply, hr]
  simp [Reader.bind_apply, requireExhausted, Reader.requireExhausted, hend,
    Reader.pure_apply]

/-- An acknowledgement with a short detail is read as it was written. -/
theorem readResponse_ackFrame (h : ack.detail.length ≤ Wire.maxAckDetail) :
    readResponse (Turn.ackFrame ack) = .ok ack := by
  have htype : ¬((Turn.ackFrame ack).type ≠ .Ack ∧ (Turn.ackFrame ack).type ≠ .Error) := by
    unfold Turn.ackFrame
    dsimp only
    split <;> simp
  rw [readResponse, if_neg htype]
  exact run_whole_of_decodes (Wire.carries_ack h).decodes

/-- An acknowledgement is longer than what precedes its detail. -/
theorem moves_readAck : Moves Wire.readAck fun _ => 22 :=
  PayloadReader.moves_u16.bind fun _ => (Moves.lift _).bind fun _ =>
  PayloadReader.moves_u64.bind fun _ => PayloadReader.moves_u64.bind fun _ =>
  (PayloadReader.moves_text _).paid fun _ => .skip PayloadReader.moves_u64 fun _ =>
  .skip PayloadReader.moves_u64 fun _ => .skip PayloadReader.moves_u64 fun _ =>
  .skip PayloadReader.moves_u64 fun _ => .skip PayloadReader.moves_u64 fun _ =>
  .skip PayloadReader.moves_u64 fun _ => .skip PayloadReader.moves_u64 fun _ =>
  .skip PayloadReader.moves_u64 fun _ => .pure rfl

/-- An acknowledgement whose detail exceeds its bound is cut off there and cannot be read. -/
theorem readResponse_error (ack : AckPayload) (h : ack.detail.length > Wire.maxAckDetail) :
    ∃ e, readResponse (Turn.ackFrame ack) = .error e := by
  have hlength : (Turn.ackFrame ack).payload.length = 18 := by
    have hstatus : PayloadWriter.textStatus ack.detail Wire.maxAckDetail =
        .error (failWith .tooLarge "text field exceeds its bound" (formatNat ack.detail.length)) :=
      if_pos h
    simp [Turn.ackFrame, Wire.writeAck, Written.all, Wire.u16, Wire.u64, Wire.text, hstatus,
      PayloadWriter.text, h]
  cases hread : readResponse (Turn.ackFrame ack) with
  | error e => exact ⟨e, rfl⟩
  | ok ack' =>
    rw [readResponse] at hread
    split at hread
    · cases hread
    have hwhole : Moves Wire.readAck.whole fun _ => 22 :=
      moves_readAck.paid fun _ => .skip .requireExhausted fun _ => .pure rfl
    have := hwhole.cost_le_length hread
    omega

/-! ## The exchange -/

/-- A transport that loses nothing: the coordinator gets the request, and the client its first
answer. -/
def exchange (cfg : Configuration) (env : Surroundings) (t : Turn) (f : Frame) :
    Except Error AckPayload :=
  match (dispatch cfg env { t with sent := [] } f).sent with
  | [] => .error (failWith .connectionClosed "peer closed the connection")
  | response :: _ => readResponse response

/-- A session whose greeting was accepted. -/
structure Greeted (t : Turn) (role : ClientRole) : Prop where
  helloDone : t.session.helloDone = true
  role_eq : t.session.role = role

/-- From the cursor on, `r` reads `x` and no byte is left. -/
def ReadsWhole {α : Type} (r : PayloadReader α) (c : Cursor) (x : α) : Prop :=
  ∃ c', r c = (.ok x, c') ∧ c'.exhausted = true

variable {cfg : Configuration} {env : Surroundings} {t : Turn} {f : Frame}

theorem dispatch_eq_handler (hgreeted : t.session.helloDone = true) (hhello : f.type ≠ .Hello)
    (hrole : roleMaySend t.session.role f.type = true)
    (hhandle : handler cfg env f.type = some handle) : dispatch cfg env t f = handle t f := by
  rw [dispatch, if_neg hhello, if_neg (by simp [hgreeted]), if_neg (by simp [hrole]), hhandle]

/-- A request of a greeted session reaches its handler. -/
theorem dispatch_greeted {role : ClientRole} {type : MessageType} (hgreeted : Greeted t role)
    (htype : f.type = type) (hhello : type ≠ .Hello) (hrole : roleMaySend role type = true)
    (hhandle : handler cfg env type = some handle) :
    dispatch cfg env { t with sent := [] } f = handle { t with sent := [] } f := by
  subst htype
  exact dispatch_eq_handler hgreeted.helloDone hhello (by rw [hgreeted.role_eq]; exact hrole) hhandle

theorem decodeWhole_of_readsWhole {r : PayloadReader α} {c : Cursor} {x : α} (h : ReadsWhole r c x)
    (message : String) (k : α → Turn) : t.decodeWhole env c r message k = k x := by
  obtain ⟨c', hr, hc'⟩ := h
  simp [Turn.decodeWhole, hr, hc']

/-- The only answer is an acknowledgement. -/
theorem exchange_of_sendAck (t' : Turn) {status : AckStatus} {detail : Text}
    {accepted rejected duplicates late missing : UInt64} (hsent : t'.sent = [])
    (h : dispatch cfg env { t with sent := [] } f =
      t'.sendAck status detail accepted rejected duplicates late missing) :
    exchange cfg env t f = readResponse (Turn.ackFrame
      (t'.acknowledgement status detail accepted rejected duplicates late missing)) := by
  rw [exchange, h, Turn.sendAck, Turn.send, hsent]
  rfl

/-! ## Observations -/

/-- The client's outcome says what the coordinator decided. -/
def SameEvent (told decided : IngestionOutcome) : Prop :=
  told.disposition = decided.disposition ∧ told.counted = decided.counted ∧
    told.missingSequences = decided.missingSequences

/-- An observation that is accepted is accepted in order and as current evidence. -/
def PlainEvent (s : State) (o : Observation) : Prop :=
  ∀ p, Admitted s o p →
    InOrder p o.sequence ∧ countsAsCurrentEvidence (attributeObservation s o).outcome = true

theorem ackStatusFor_ne_success {code : ErrorCode} (h : code ≠ .ok) :
    ackStatusFor code ≠ .accepted ∧ ackStatusFor code ≠ .partiallyAccepted := by
  cases code <;> simp_all [ackStatusFor]

theorem publishResult_refusal (p : ObservationPublisher)
    (h : ack.status ≠ .accepted ∧ ack.status ≠ .partiallyAccepted) :
    SameEvent (p.publishResult (.ok ack)).1
      { disposition := .rejected, missingSequences := ack.missing } := by
  unfold ObservationPublisher.publishResult
  dsimp only
  split
  next hstatus => exact absurd hstatus h.1
  next hstatus => exact absurd hstatus h.2
  next => exact ⟨rfl, rfl, rfl⟩

/-- The frame an outcome is acknowledged with. -/
def eventFrame (t : Turn) (decided : IngestionOutcome) : Frame :=
  Turn.ackFrame (t.acknowledgement (eventStatus decided) decided.detail 1 0
    (if decided.disposition = .duplicate then 1 else 0)
    (if decided.disposition = .acceptedLate then 1 else 0) decided.missingSequences)

/-- A refusal is reported as it was decided, also where its text does not fit. -/
theorem publishResult_turned (p : ObservationPublisher) (t : Turn) (h : Turned decided) :
    SameEvent (p.publishResult (readResponse (eventFrame t decided))).1 decided := by
  cases h with
  | duplicate =>
    have hdetail : (ascii "duplicate observation").length ≤ Wire.maxAckDetail := by decide
    rw [eventFrame, readResponse_ackFrame hdetail]
    exact ⟨rfl, rfl, rfl⟩
  | @rejected code detail hcode =>
    by_cases hdetail : detail.length ≤ Wire.maxAckDetail
    · rw [eventFrame, readResponse_ackFrame hdetail]
      exact publishResult_refusal p (ackStatusFor_ne_success hcode)
    · obtain ⟨e, he⟩ := readResponse_error (t.acknowledgement
        (eventStatus (rejectAs code detail)) detail 1 0 0 0 0) (Nat.not_le.1 hdetail)
      have : readResponse (eventFrame t (rejectAs code detail)) = .error e := he
      rw [this]
      exact ⟨rfl, rfl, rfl⟩

/-- What is accepted is reported as accepted in order and counted. -/
theorem publishResult_accepted (p : ObservationPublisher) (t : Turn)
    (h : decided.disposition.isAccepted = true)
    (hdetail : decided.detail.length ≤ Wire.maxAckDetail) :
    SameEvent (p.publishResult (readResponse (eventFrame t decided))).1 decided ↔
      decided.disposition = .accepted ∧ decided.counted = true := by
  have hstatus : eventStatus decided = .accepted := by
    unfold eventStatus
    cases hd : decided.disposition <;> simp_all [IngestionDisposition.isAccepted]
  rw [eventFrame, readResponse_ackFrame hdetail, Turn.acknowledgement]
  simp only [hstatus, ObservationPublisher.publishResult, SameEvent]
  simp only [eq_comm (b := decided.disposition), eq_comm (b := decided.counted), and_true]

/-- The text of a sequence decision is short. -/
theorem accountSequence_detail_le (p : PublisherState) (sequence hash : UInt64) :
    (accountSequence p sequence hash).detail.length ≤ Wire.maxAckDetail := by
  unfold accountSequence
  split
  · decide
  split
  · decide
  split
  · dsimp only
    split
    · rw [List.length_append, formatU64]
      have := length_formatNat_le (n := (sequence - p.highWatermark - 1).toNat) (k := 20)
        (by decide) ((sequence - p.highWatermark - 1).toNat_lt.trans (by decide))
      have : (ascii "sequence gap of ").length = 16 := by decide
      simp only [Wire.maxAckDetail]
      omega
    · decide
  split
  · split <;> decide
  · split <;> decide

variable {p p' : ObservationPublisher} {o : Observation} {w : Observation}

theorem exchange_event (hgreeted : Greeted t .publisher) (htype : f.type = .PublishEvent)
    (hread : ReadsWhole Wire.readObservation ⟨f.payload, 0⟩ w) :
    exchange cfg env t f = readResponse (eventFrame
      { t with observatory := (ingestLocked t.observatory w (env.clock 1)).2, sent := [] }
      (ingestLocked t.observatory w (env.clock 1)).1) := by
  refine exchange_of_sendAck { t with
    observatory := (ingestLocked t.observatory w (env.clock 1)).2, sent := [] } rfl ?_
  rw [dispatch_greeted hgreeted htype (by decide) (by decide) rfl, handlePublishEvent,
    decodeWhole_of_readsWhole hread]
  rfl

/-- The client is told what was decided exactly if an accepted observation is neither late nor
stale. -/
theorem event_reported_iff (hgreeted : Greeted t .publisher)
    (hrequest : p.publishRequest o = (.ok f, p'))
    (hread : ReadsWhole Wire.readObservation ⟨f.payload, 0⟩ w) :
    SameEvent (p.publish o (exchange cfg env t)).1
      (ingestLocked t.observatory w (env.clock 1)).1 ↔ PlainEvent t.observatory w := by
  have htype : f.type = .PublishEvent := by
    obtain ⟨_, h⟩ | ⟨_, h⟩ | ⟨_, h⟩ := p.publishRequest_cases o <;> cases hrequest.symm.trans h
    rfl
  rw [ObservationPublisher.publish, hrequest]
  dsimp only
  rw [exchange_event hgreeted htype hread]
  by_cases hadmitted : ∃ q, Admitted t.observatory w q
  · obtain ⟨q, hq⟩ := hadmitted
    obtain ⟨hdisposition, hdetail, -, hcounted⟩ := ingestLocked_answer hq (env.clock 1)
    rw [publishResult_accepted _ _ (by rw [hdisposition]; exact hq.fresh)
      (by rw [hdetail]; exact accountSequence_detail_le _ _ _), hdisposition, hcounted,
      accountSequence_accepted_iff]
    constructor
    · intro h q' hq'
      obtain rfl : q = q' := Option.some.inj (hq.publisher.symm.trans hq'.publisher)
      exact h
    · intro h
      exact h q hq
  · refine iff_of_true (publishResult_turned _ _ (ingestLocked_refused ?_ _)) ?_
    · exact fun q hq => hadmitted ⟨q, hq⟩
    · exact fun q hq => absurd ⟨q, hq⟩ hadmitted

/-! ## Batches -/

/-- The client's outcome has the tallies of the coordinator, or both failed. -/
def SameBatch : Except Error BatchOutcome → Except Error BatchOutcome → Prop
  | .ok told, .ok decided =>
    told.accepted = decided.accepted ∧ told.acceptedLate = decided.acceptedLate ∧
      told.duplicates = decided.duplicates ∧ told.rejected = decided.rejected ∧
      told.missingSequences = decided.missingSequences
  | .error _, .error _ => True
  | _, _ => False

/-- No observation is late when its turn comes. -/
def NoneLate (clock : Nat → Nanos) : State → List Observation → Prop
  | _, [] => True
  | s, o :: os =>
    (∀ p, Admitted s o p → InOrder p o.sequence) ∧
      NoneLate clock (ingestLocked s o (clock os.length)).2 os

theorem acceptedLate_iff {s : State} (now : Nanos) :
    (ingestLocked s o now).1.disposition ≠ .acceptedLate ↔
      ∀ p, Admitted s o p → InOrder p o.sequence := by
  simp only [← accountSequence_accepted_iff _ _ o.contentHash]
  by_cases hadmitted : ∃ q, Admitted s o q
  · obtain ⟨q, hq⟩ := hadmitted
    obtain ⟨hdisposition, -⟩ := ingestLocked_answer hq now
    have hfresh := hq.fresh
    rw [hdisposition]
    constructor
    · intro h q' hq'
      obtain rfl : q = q' := Option.some.inj (hq.publisher.symm.trans hq'.publisher)
      cases hd : (accountSequence q o.sequence o.contentHash).disposition <;>
        simp_all [IngestionDisposition.isAccepted]
    · intro h
      rw [h q hq]
      rintro ⟨⟩
  · refine iff_of_true ?_ fun q hq => absurd ⟨q, hq⟩ hadmitted
    have hturned := ingestLocked_refused (fun q hq => hadmitted ⟨q, hq⟩) now
    generalize (ingestLocked s o now).1 = outcome at hturned
    cases hturned <;> rintro ⟨⟩

theorem noneLate_iff (clock : Nat → Nanos) (s : State) (os : List Observation) :
    (∀ outcome ∈ (ingestEach clock s os).1, outcome.disposition ≠ .acceptedLate) ↔
      NoneLate clock s os := by
  induction os generalizing s with
  | nil => simp [ingestEach, NoneLate]
  | cons o os ih =>
    rw [ingestEach, NoneLate, ← ih, ← acceptedLate_iff (clock os.length)]
    simp

theorem tally_eq_zero_iff {outcomes : List IngestionOutcome} {d : IngestionDisposition}
    (h : outcomes.length < 2 ^ 64) :
    tally outcomes d = 0 ↔ ∀ outcome ∈ outcomes, outcome.disposition ≠ d := by
  have hle : (outcomes.countP fun o => o.disposition = d) ≤ outcomes.length := List.countP_le_length
  have hn : (UInt64.ofNat (outcomes.countP fun o => o.disposition = d)).toNat =
      outcomes.countP fun o => o.disposition = d :=
    UInt64.toNat_ofNat_of_lt' (Nat.lt_of_le_of_lt hle h)
  rw [tally, ← UInt64.toNat_inj, hn]
  simp [List.countP_eq_zero]

/-- The frame a batch is acknowledged with. -/
def batchFrame (t : Turn) (batch : BatchOutcome) : Frame :=
  Turn.ackFrame (t.acknowledgement
    (if batch.rejected = 0 then .accepted else .partiallyAccepted) (ascii "batch")
    (batch.accepted + batch.acceptedLate) batch.rejected batch.duplicates batch.acceptedLate
    batch.missingSequences)

/-- The client takes the late elements for accepted in order as well. -/
theorem batchResult_reported (p : ObservationPublisher) (t : Turn) (batch : BatchOutcome) :
    SameBatch (p.batchResult (readResponse (batchFrame t batch))).1 (.ok batch) ↔
      batch.acceptedLate = 0 := by
  have hdetail : (ascii "batch").length ≤ Wire.maxAckDetail := by decide
  rw [batchFrame, readResponse_ackFrame hdetail]
  by_cases hrejected : batch.rejected = 0 <;>
    simp [ObservationPublisher.batchResult, Turn.acknowledgement, hrejected, SameBatch]

/-- An error is reported as an error. -/
theorem batchResult_refusal (p : ObservationPublisher) (t : Turn) (h : e.code ≠ .ok) :
    SameBatch (p.batchResult (readResponse (Turn.ackFrame
      (t.acknowledgement (ackStatusFor e.code) e.describe)))).1 (.error e) := by
  by_cases hdetail : e.describe.length ≤ Wire.maxAckDetail
  · have hstatus : (t.acknowledgement (ackStatusFor e.code) e.describe).status ≠ .accepted ∧
        (t.acknowledgement (ackStatusFor e.code) e.describe).status ≠ .partiallyAccepted :=
      ackStatusFor_ne_success h
    rw [readResponse_ackFrame hdetail, ObservationPublisher.batchResult, if_pos hstatus]
    trivial
  · obtain ⟨e', he'⟩ := readResponse_error (t.acknowledgement (ackStatusFor e.code) e.describe)
      (Nat.not_le.1 hdetail)
    rw [he']
    trivial

theorem genuine_admitBatch (s : State) (count : Nat) : Genuine (admitBatch s count).1 := by
  unfold admitBatch
  split
  · exact .error nofun
  split
  · exact .error nofun
  split
  · exact .error nofun
  · exact .ok ()

/-- A batch is refused as a whole, or no element of it is late. -/
def PlainBatch (clock : Nat → Nanos) (s : State) (os : List Observation) : Prop :=
  (admitBatch s os.length).1 = .ok () → NoneLate clock (admitBatch s os.length).2 os

/-- There is one answer to a batch. -/
theorem sendBatch_sent (t : Turn) (r : Except Error BatchOutcome) :
    ∃ response, (sendBatch t r).sent = t.sent ++ [response] := by
  cases r with
  | error | ok => exact ⟨_, rfl⟩

/-- What the client makes of the answer to a batch. -/
theorem sendBatch_reported (p : ObservationPublisher) (t : Turn) (s : State)
    {os : List Observation} (clock : Nat → Nanos) (hlength : os.length ≤ maxBatchEvents)
    {response : Frame} (hsent : t.sent = [])
    (h : (sendBatch t (ingestBatch s os clock).1).sent = [response]) :
    SameBatch (p.batchResult (readResponse response)).1 (ingestBatch s os clock).1 ↔
      PlainBatch clock s os := by
  have hgenuine := genuine_admitBatch s os.length
  unfold ingestBatch at h ⊢
  unfold PlainBatch
  generalize admitBatch s os.length = admitted at *
  obtain ⟨_ | _, s'⟩ := admitted
  next e =>
    obtain rfl : Turn.ackFrame (t.acknowledgement (ackStatusFor e.code) e.describe) = response := by
      simpa [sendBatch, Turn.sendRefusal, Turn.sendAck, Turn.send, hsent] using h
    exact iff_of_true (batchResult_refusal p t (hgenuine e rfl)) nofun
  next =>
    obtain rfl : batchFrame t (.ofEach (ingestEach clock s' os).1) = response := by
      simpa [sendBatch, Turn.sendAck, Turn.send, hsent, batchFrame] using h
    have hsmall : (ingestEach clock s' os).1.length < 2 ^ 64 := by
      rw [length_ingestEach]
      exact Nat.lt_of_le_of_lt hlength (by decide)
    refine (batchResult_reported p t _).trans ((tally_eq_zero_iff hsmall).trans ?_)
    rw [noneLate_iff]
    simp

variable {os ws : List Observation}

/-- The request of a batch starts with its length. -/
theorem batchRequest_eq_ok (h : p.batchRequest os = (.ok f, p')) :
    f.type = .PublishBatch ∧ os ≠ [] ∧ os.length ≤ maxBatchEvents ∧
      ∃ rest, f.payload = PayloadWriter.u32 (UInt32.ofNat os.length) ++ rest := by
  obtain ⟨_, h'⟩ | ⟨_, h'⟩ | ⟨-, hne, hlength, h'⟩ := p.batchRequest_cases os <;>
    cases h.symm.trans h'
  exact ⟨rfl, hne, hlength, _, rfl⟩

/-- The client is told the tallies of the coordinator exactly if no element is late. -/
theorem batch_reported_iff (hgreeted : Greeted t .publisher)
    (hrequest : p.batchRequest os = (.ok f, p'))
    (hread : ReadsWhole (Reader.many Wire.readObservation os.length) ⟨f.payload, 4⟩ ws) :
    SameBatch (p.publishBatch os (exchange cfg env t)).1
      (ingestBatch t.observatory ws env.clock).1 ↔ PlainBatch env.clock t.observatory ws := by
  obtain ⟨htype, hne, hlength, rest, hpayload⟩ := batchRequest_eq_ok hrequest
  have hws : ws.length = os.length := by
    obtain ⟨c', hr, -⟩ := hread
    exact ((Ensures.many (.trivial _) _) _ _ _ hr).1
  have hn : (UInt32.ofNat os.length).toNat = os.length :=
    UInt32.toNat_ofNat_of_lt' (Nat.lt_of_le_of_lt hlength (by decide))
  have hcount : u32 ⟨f.payload, 0⟩ =
      (.ok (UInt32.ofNat os.length), ⟨f.payload, 4⟩) := by
    have := decodes_u32 (UInt32.ofNat os.length) ⟨f.payload, 0⟩ rest hpayload
    simpa [Cursor.advance] using this
  have hcheck : ¬(UInt32.ofNat os.length = 0 ∨
      (UInt32.ofNat os.length).toNat > maxBatchEvents) := by
    rw [hn, ← UInt32.toNat_inj, hn]
    have := List.length_pos_of_ne_nil hne
    simp only [UInt32.toNat_zero]
    omega
  have hdispatch : dispatch cfg env { t with sent := [] } f = sendBatch
      { t with observatory := (ingestBatch t.observatory ws env.clock).2, sent := [] }
      (ingestBatch t.observatory ws env.clock).1 := by
    rw [dispatch_greeted hgreeted htype (by decide) (by decide) rfl, handlePublishBatch, hcount]
    dsimp only
    rw [if_neg hcheck, hn, decodeWhole_of_readsWhole hread]
  obtain ⟨response, hresponse⟩ := sendBatch_sent
    { t with observatory := (ingestBatch t.observatory ws env.clock).2, sent := [] }
    (ingestBatch t.observatory ws env.clock).1
  rw [ObservationPublisher.publishBatch, hrequest]
  dsimp only
  rw [exchange, hdispatch, hresponse]
  exact sendBatch_reported p' _ t.observatory env.clock (hws.trans_le hlength) rfl hresponse

/-! ## Counter samples -/

/-- The client's outcome says what the coordinator decided. An error accepts nothing. -/
def SameCounter (told : CounterOutcome) : Except Error CounterOutcome → Prop
  | .error _ => told.accepted = false ∧ told.delta = 0 ∧ told.discontinuity = false
  | .ok decided =>
    told.accepted = decided.accepted ∧ told.delta = decided.delta ∧
      told.discontinuity = decided.discontinuity

/-- A sample is no repetition, and if it is taken there is nothing to say about it. -/
def PlainCounter (s : State) (c : CounterPublication) : Prop :=
  ∀ p, AdmittedCounter s c p →
    ¬Repeats p c.sequence (counterHash c) ∧
      ((accountSequence p c.sequence (counterHash c)).disposition.isAccepted = true →
        HasRoom s c → FitsWidth c → Silent s c)

/-- The frame a sample is acknowledged with. -/
def counterFrame (t : Turn) : Except Error CounterOutcome → Frame
  | .error e => Turn.ackFrame (t.acknowledgement (ackStatusFor e.code) e.describe)
  | .ok outcome => Turn.ackFrame (t.acknowledgement .accepted outcome.detail 1)

theorem counterResult_refusal (p : ObservationPublisher) (t : Turn) (h : e.code ≠ .ok) :
    SameCounter (p.counterResult (readResponse (counterFrame t (.error e)))).1 (.error e) := by
  by_cases hdetail : e.describe.length ≤ Wire.maxAckDetail
  · have hstatus : (t.acknowledgement (ackStatusFor e.code) e.describe).status ≠ .accepted :=
      (ackStatusFor_ne_success h).1
    rw [counterFrame, readResponse_ackFrame hdetail, ObservationPublisher.counterResult,
      if_pos hstatus]
    exact ⟨rfl, rfl, rfl⟩
  · obtain ⟨e', he'⟩ := readResponse_error (t.acknowledgement (ackStatusFor e.code) e.describe)
      (Nat.not_le.1 hdetail)
    rw [counterFrame, he']
    exact ⟨rfl, rfl, rfl⟩

/-- Whatever became of a sample, the client is told that it was accepted and said nothing. -/
theorem counterResult_reported (p : ObservationPublisher) (t : Turn) {decided : CounterOutcome}
    (h : decided.detail.length ≤ Wire.maxAckDetail) :
    SameCounter (p.counterResult (readResponse (counterFrame t (.ok decided)))).1 (.ok decided) ↔
      decided.accepted = true ∧ decided.delta = 0 ∧ decided.discontinuity = false := by
  have hstatus : ¬(t.acknowledgement .accepted decided.detail 1).status ≠ .accepted :=
    not_not.2 rfl
  rw [counterFrame, readResponse_ackFrame h, ObservationPublisher.counterResult, if_neg hstatus]
  simp only [SameCounter, eq_comm (b := decided.accepted), eq_comm (b := decided.delta),
    eq_comm (b := decided.discontinuity)]

theorem exchange_counter {w : CounterPublication} (hgreeted : Greeted t .publisher)
    (htype : f.type = .PublishCounter)
    (hread : ReadsWhole Wire.readCounterPublication ⟨f.payload, 0⟩ w) :
    exchange cfg env t f = readResponse (counterFrame
      { t with observatory := (ingestCounter t.observatory w (env.clock 1)).2, sent := [] }
      (ingestCounter t.observatory w (env.clock 1)).1) := by
  rw [exchange, dispatch_greeted hgreeted htype (by decide) (by decide) rfl, handlePublishCounter,
    decodeWhole_of_readsWhole hread]
  dsimp only
  cases (ingestCounter t.observatory w (env.clock 1)).1 <;> rfl

/-- The client is told what was decided exactly if the sample is no repetition and, if taken,
brings neither traffic nor a break. -/
theorem counter_reported_iff {c w : CounterPublication} (hgreeted : Greeted t .publisher)
    (hrequest : p.counterRequest c = (.ok f, p'))
    (hread : ReadsWhole Wire.readCounterPublication ⟨f.payload, 0⟩ w) :
    SameCounter (p.publishCounter c (exchange cfg env t)).1
      (ingestCounter t.observatory w (env.clock 1)).1 ↔ PlainCounter t.observatory w := by
  have htype : f.type = .PublishCounter := by
    obtain ⟨_, h⟩ | ⟨_, h⟩ | ⟨_, h⟩ := p.counterRequest_cases c <;> cases hrequest.symm.trans h
    rfl
  rw [ObservationPublisher.publishCounter, hrequest]
  dsimp only
  rw [exchange_counter hgreeted htype hread]
  by_cases hadmitted : ∃ q, AdmittedCounter t.observatory w q
  · obtain ⟨q, hq⟩ := hadmitted
    -- the sample is of one publisher, whose entry is `q`
    have honly : PlainCounter t.observatory w ↔
        (accountSequence q w.sequence (counterHash w)).disposition ≠ .duplicate ∧
          ((accountSequence q w.sequence (counterHash w)).disposition.isAccepted = true →
            HasRoom t.observatory w → FitsWidth w → Silent t.observatory w) := by
      rw [ne_eq, accountSequence_duplicate_iff]
      refine ⟨fun h => h q hq, fun h q' hq' => ?_⟩
      obtain rfl : q = q' := Option.some.inj (hq.publisher.symm.trans hq'.publisher)
      exact h
    rw [honly, ingestCounter_admitted hq]
    obtain ⟨hduplicate, hrejected, hrefused, htaken⟩ :=
      counterAccounted_answer t.observatory q w (env.clock 1)
    -- one case for each disposition
    generalize (accountSequence q w.sequence (counterHash w)).disposition = d at *
    generalize counterAccounted t.observatory q w (env.clock 1) = r at *
    by_cases hd : d = .duplicate
    · rw [hduplicate hd, counterResult_reported _ _ (by decide)]
      simp [hd]
    by_cases haccepted : d.isAccepted = true
    · by_cases htake : HasRoom t.observatory w ∧ FitsWidth w
      · obtain ⟨outcome, hr, hyes, hdetail, hsilent⟩ := htaken haccepted htake.1 htake.2
        rw [hr, counterResult_reported _ _ (by simp [hdetail])]
        simp only [hyes, true_and, hsilent]
        exact ⟨fun h => ⟨hd, fun _ _ _ => h⟩, fun h => h.2 haccepted htake.1 htake.2⟩
      · obtain ⟨e, hr, he⟩ := hrefused haccepted htake
        rw [hr]
        exact iff_of_true (counterResult_refusal _ _ he)
          ⟨hd, fun _ hroom hfits => absurd ⟨hroom, hfits⟩ htake⟩
    · obtain ⟨e, hr, he⟩ := hrejected (by
        cases d <;> simp_all [IngestionDisposition.isAccepted])
      rw [hr]
      exact iff_of_true (counterResult_refusal _ _ he) ⟨hd, fun h => absurd h haccepted⟩
  · obtain ⟨e, hr, he⟩ := ingestCounter_refused (fun q hq => hadmitted ⟨q, hq⟩) (env.clock 1)
    rw [hr]
    exact iff_of_true (counterResult_refusal _ _ he) fun q hq => absurd ⟨q, hq⟩ hadmitted

/-! ## Topology -/

theorem exchange_bump (hgreeted : Greeted t .admin) (htype : f.type = .BumpTopology)
    (hlength : reason.length ≤ maxRegionAnnotationLength)
    (hpayload : f.payload = PayloadWriter.text reason maxRegionAnnotationLength) :
    exchange cfg env t f = .ok (Turn.acknowledgement
      { t with observatory := bumpTopology t.observatory reason (env.clock 1), sent := [] }
      .accepted (ascii "topology generation advanced")) := by
  have hread := run_whole_of_decodes (decodes_text hlength (by decide))
  have hdetail : (ascii "topology generation advanced").length ≤ Wire.maxAckDetail := by decide
  rw [← readResponse_ackFrame hdetail]
  refine exchange_of_sendAck
    { t with observatory := bumpTopology t.observatory reason (env.clock 1), sent := [] } rfl ?_
  rw [dispatch_greeted hgreeted htype (by decide) (by decide) rfl, handleBumpTopology, Turn.decode,
    hpayload, hread]
  dsimp only
  rw [bumpTopologyGeneration, if_neg (Nat.not_lt.2 hlength)]
  rfl

/-- The generation the admin client is given is the one in force exactly if it happens to be
the observation epoch. -/
theorem bump_reported_iff {frameSequence : UInt64} (hgreeted : Greeted t .admin)
    (hrequest : bumpTopologyRequest frameSequence reason = .ok f) :
    bumpTopologyResult (exchange cfg env t f) =
        (bumpTopologyGeneration t.observatory reason (env.clock 1)).1 ↔
      t.observatory.observationEpoch = t.observatory.topologyGeneration + 1 := by
  obtain ⟨⟨⟩, hshort, hf⟩ := bind_eq_ok.1 hrequest
  have hlength : reason.length ≤ maxRegionAnnotationLength :=
    Nat.not_lt.1 (failIf_eq_ok.1 hshort)
  obtain rfl := Except.ok.inj hf
  rw [exchange_bump hgreeted rfl hlength rfl, bumpTopologyGeneration,
    if_neg (Nat.not_lt.2 hlength)]
  -- the acknowledgement carries the epoch of the new state, which is that of the old one
  have htold : bumpTopologyResult (.ok (Turn.acknowledgement
      { t with observatory := bumpTopology t.observatory reason (env.clock 1), sent := [] }
      .accepted (ascii "topology generation advanced"))) = .ok t.observatory.observationEpoch := rfl
  rw [htold, Except.ok.injEq]

/-! ## Reports -/

namespace ObservationPublisher

/-- What the publisher fills in can be sent. -/
theorem sendable_stamp (hname : Wire.IsName p.registration.id)
    (h : Wire.SendableObservation o) : Wire.SendableObservation (p.stamp o) := by
  refine { h with sourcePublisher := ?_ }
  unfold stamp
  dsimp only
  split
  · exact hname
  · exact h.sourcePublisher

/-- A connected publisher sends an observation that can be sent, and the coordinator reads it. -/
theorem publishRequest_eq_ok (hconnected : p.connected = true)
    (h : Wire.SendableObservation (p.stamp o)) :
    ∃ f p', p.publishRequest o = (.ok f, p') ∧
      ReadsWhole Wire.readObservation ⟨f.payload, 0⟩ (p.stamp o).received := by
  obtain ⟨hok, hdecodes⟩ := Wire.carries_observation h
  have hrequest : p.publishRequest o = (.ok ((p.advance o.sequence).bumpFrame.request .PublishEvent
      (Wire.writeObservation (p.stamp o)).1), (p.advance o.sequence).bumpFrame) := by
    rw [publishRequest, if_neg (by simp [hconnected])]
    dsimp only
    rw [hok]
  refine ⟨_, _, hrequest, _, hdecodes _ [] (by simp [request, Cursor.rest]), ?_⟩
  simp [request, Cursor.exhausted, Cursor.rest, Cursor.advance]

end ObservationPublisher

/-- Over a transport that loses nothing, for every observatory, publisher and publication that
    reaches ingestion: the client's result is the coordinator's decision exactly under the
    condition of its kind. -/
theorem remote_reported_iff (cfg : Configuration) (env : Surroundings) (t : Turn) :
    (Greeted t .publisher → ∀ (p p' : ObservationPublisher) (o w : Observation) (f : Frame),
      p.publishRequest o = (.ok f, p') → ReadsWhole Wire.readObservation ⟨f.payload, 0⟩ w →
      (SameEvent (p.publish o (exchange cfg env t)).1
        (ingestLocked t.observatory w (env.clock 1)).1 ↔ PlainEvent t.observatory w)) ∧
    (Greeted t .publisher → ∀ (p p' : ObservationPublisher) (os ws : List Observation) (f : Frame),
      p.batchRequest os = (.ok f, p') →
      ReadsWhole (Reader.many Wire.readObservation os.length) ⟨f.payload, 4⟩ ws →
      (SameBatch (p.publishBatch os (exchange cfg env t)).1
        (ingestBatch t.observatory ws env.clock).1 ↔ PlainBatch env.clock t.observatory ws)) ∧
    (Greeted t .publisher → ∀ (p p' : ObservationPublisher) (c w : CounterPublication) (f : Frame),
      p.counterRequest c = (.ok f, p') →
      ReadsWhole Wire.readCounterPublication ⟨f.payload, 0⟩ w →
      (SameCounter (p.publishCounter c (exchange cfg env t)).1
        (ingestCounter t.observatory w (env.clock 1)).1 ↔ PlainCounter t.observatory w)) ∧
    (Greeted t .admin → ∀ (frameSequence : UInt64) (reason : Text) (f : Frame),
      bumpTopologyRequest frameSequence reason = .ok f →
      (bumpTopologyResult (exchange cfg env t f) =
        (bumpTopologyGeneration t.observatory reason (env.clock 1)).1 ↔
          t.observatory.observationEpoch = t.observatory.topologyGeneration + 1)) :=
  ⟨fun h _ _ _ _ _ => event_reported_iff h, fun h _ _ _ _ _ => batch_reported_iff h,
    fun h _ _ _ _ _ => counter_reported_iff h, fun h _ _ _ => bump_reported_iff h⟩

/-- An observation of an unknown publisher is refused, and the client is told so. -/
theorem remote_reported_stranger :
    let p : ObservationPublisher := { registration := { id := ascii "p", boot := 1 } }
    let t := greetedTurn (State.initial {} 0) .publisher
    PlainEvent t.observatory (p.stamp Wire.remoteWrite).received ∧
      SameEvent (p.publish Wire.remoteWrite (exchange silentConfiguration {} t)).1
        (ingestLocked t.observatory (p.stamp Wire.remoteWrite).received 0).1 := by
  intro p t
  have hplain : PlainEvent t.observatory (p.stamp Wire.remoteWrite).received := by
    intro q hq
    exact absurd hq.publisher (by simp [t, greetedTurn, State.initial])
  have hsendable : Wire.SendableObservation (p.stamp Wire.remoteWrite) :=
    ObservationPublisher.sendable_stamp (.inr (Wire.isToken_of_check (by decide)))
      Wire.sendable_remoteWrite
  obtain ⟨f, p', hrequest, hread⟩ := ObservationPublisher.publishRequest_eq_ok rfl hsendable
  exact ⟨hplain, ((remote_reported_iff silentConfiguration {} t).1 ⟨rfl, rfl⟩ p p' _ _ f hrequest
    hread).2 hplain⟩

/-- A read of the first publisher, as the caller states it. -/
def remoteRead (sequence : EventSequence) : Observation where
  eventId := sequence
  type := .RemoteRead
  sequence := sequence
  timestampNs := 1

/-- An observation that is accepted late is reported as accepted in order, and the topology
    generation an admin client is given is not the one in force. -/
theorem lateEvent_misreported :
    let p : ObservationPublisher :=
      { registration := { id := ascii "p", boot := 1, coordinatorEpoch := 1 } }
    let s := Run.final act (State.initial {} 0)
      [.registerPublisher { id := ascii "p", boot := 1 } fun _ => 0,
        .ingest (p.stamp (remoteRead 5)) 0]
    let decided := (ingestLocked s (p.stamp (remoteRead 3)).received 0).1
    let told := (p.publish (remoteRead 3) (exchange silentConfiguration {}
      (greetedTurn s .publisher))).1
    let bumped := (bumpTopologyGeneration s [] 0).1
    let toldBumped := (bumpTopologyRequest 1 []).bind fun f =>
      bumpTopologyResult (exchange silentConfiguration {} (greetedTurn s .admin) f)
    decided.disposition = .acceptedLate ∧ told.disposition = .accepted ∧
      bumped.toOption = some 2 ∧ toldBumped.toOption = some 1 := by
  decide +kernel

end CoherenceObservatory
