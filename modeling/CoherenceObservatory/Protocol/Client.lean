import CoherenceObservatory.Protocol.Coordinator

/-!
# Remote clients

The publishing client and the admin client's topology call: how a request is stamped and
written, and what the client makes of the acknowledgement. Every client is synchronous, so a
call is a request, an exchange and a result; the exchange is a parameter here.
-/

namespace CoherenceObservatory

open Codec Limits

/-! ## Acknowledgements -/

/-- The last part of `exchange`: the acknowledgement in a response. -/
def readResponse (response : Frame) : Except Error AckPayload :=
  if response.type ≠ .Ack ∧ response.type ≠ .Error then
    .error ⟨.protocolError, ascii "expected an acknowledgement", response.type.toText⟩
  else Wire.readAck.whole.run response.payload

/-- The code of `ack_to_status`, for an acknowledgement that is not a success. -/
def ackErrorCode : AckStatus → ErrorCode
  | .unauthorized => .unauthorized
  | .staleEpoch => .staleEpoch
  | .staleBoot => .staleBoot
  | .staleGeneration => .staleGeneration
  | .staleSequence => .staleSequence
  | .capacity => .capacity
  | .unsupported => .unsupportedCapability
  | .malformed => .invalidArgument
  | .rejected => .conflict
  | .partiallyAccepted => .ok
  | .accepted => .ok
  | .internalError => .internal

/-- `ack_to_status`. -/
def ackToStatus (ack : AckPayload) : Status :=
  if ack.status = .accepted ∨ ack.status = .partiallyAccepted then .ok ()
  else .error ⟨ackErrorCode ack.status, ack.detail, []⟩

/-- `ack_to_status(ack).code()`. -/
def ackCode (ack : AckPayload) : ErrorCode :=
  match ackToStatus ack with
  | .ok () => .ok
  | .error e => e.code

/-! ## The publisher -/

/-- A publisher: what it says of itself, and its cursors. -/
structure ObservationPublisher where
  connected : Bool := true
  registration : PublisherRegistration := {}
  /-- The topology generation the coordinator greeted with. -/
  topologyGeneration : TopologyGeneration := 0
  frameSequence : UInt64 := 0
  nextSequence : EventSequence := 1
  rejectedDuplicates : UInt64 := 0
  rejected : UInt64 := 0
  accepted : UInt64 := 0

namespace ObservationPublisher

/-- A value the caller left zero is filled in. -/
def fill (value default : UInt64) : UInt64 := if value = 0 then default else value

/-- The sequence a publication goes out with. -/
def sequenceFor (p : ObservationPublisher) (sequence : EventSequence) : EventSequence :=
  fill sequence (p.nextSequence + 1)

/-- The cursor after a publication. Only a supplied sequence moves it. -/
def advance (p : ObservationPublisher) (sequence : EventSequence) : ObservationPublisher :=
  if sequence ≠ 0 ∧ sequence ≥ p.nextSequence then { p with nextSequence := sequence + 1 } else p

/-- What `publish` and `publish_batch` fill in. -/
def stamp (p : ObservationPublisher) (o : Observation) : Observation :=
  { o with
    sourcePublisher := if o.sourcePublisher = [] then p.registration.id else o.sourcePublisher
    publisherBoot := fill o.publisherBoot p.registration.boot
    coordinatorEpoch := p.registration.coordinatorEpoch
    topologyGeneration := fill o.topologyGeneration p.topologyGeneration
    samplingEpoch := fill o.samplingEpoch p.registration.samplingEpoch
    evidenceGeneration := fill o.evidenceGeneration p.registration.evidenceGeneration
    eventId := fill o.eventId p.nextSequence
    sequence := p.sequenceFor o.sequence }

/-- What `publish_counter` fills in. -/
def stampCounter (p : ObservationPublisher) (c : CounterPublication) : CounterPublication :=
  { c with
    publisher := if c.publisher = [] then p.registration.id else c.publisher
    publisherBoot := fill c.publisherBoot p.registration.boot
    coordinatorEpoch := p.registration.coordinatorEpoch
    topologyGeneration := fill c.topologyGeneration p.topologyGeneration
    evidenceGeneration := fill c.evidenceGeneration p.registration.evidenceGeneration
    samplingEpoch := fill c.samplingEpoch p.registration.samplingEpoch
    sequence := p.sequenceFor c.sequence }

/-- The loop of `publish_batch`: each observation is stamped behind the cursor its predecessors
left, and written, up to the first that cannot be. -/
def writeBatch : ObservationPublisher → List Observation → Wire.Written × ObservationPublisher
  | p, [] => (([], .ok ()), p)
  | p, o :: os =>
    let w := Wire.writeObservation (p.stamp o)
    let p := p.advance o.sequence
    match w.2 with
    | .error e => ((w.1, .error e), p)
    | .ok () => ((w.1 ++ (p.writeBatch os).1.1, (p.writeBatch os).1.2), (p.writeBatch os).2)

/-- The frame of a request. -/
def request (p : ObservationPublisher) (type : MessageType) (payload : List UInt8) : Frame where
  type := type
  flags := FrameFlags.ackRequired
  frameSequence := p.frameSequence
  payload := payload

/-- The next frame has the next number. -/
def bumpFrame (p : ObservationPublisher) : ObservationPublisher :=
  { p with frameSequence := p.frameSequence + 1 }

/-- `next_sequence`: the cursor stays where it is. -/
def getNextSequence (p : ObservationPublisher) : EventSequence := p.nextSequence + 1

/-- What a caller sees of an error. -/
def rejection (code : ErrorCode) (detail : Text) : IngestionOutcome :=
  { disposition := .rejected, code, detail }

/-- `publish` up to the exchange: the frame to send, or the outcome without one. -/
def publishRequest (p : ObservationPublisher) (o : Observation) :
    Except IngestionOutcome Frame × ObservationPublisher :=
  if ¬p.connected then
    (.error (rejection .connectionClosed (ascii "publisher is not connected")), p)
  else
    let w := Wire.writeObservation (p.stamp o)
    let p := (p.advance o.sequence).bumpFrame
    match w.2 with
    | .error e => (.error (rejection e.code e.describe), p)
    | .ok () => (.ok (p.request .PublishEvent w.1), p)

theorem publishRequest_cases (p : ObservationPublisher) (o : Observation) :
    let q := (p.advance o.sequence).bumpFrame
    (∃ outcome, p.publishRequest o = (.error outcome, p)) ∨
    (∃ outcome, p.publishRequest o = (.error outcome, q)) ∨
    ∃ payload, p.publishRequest o = (.ok (q.request .PublishEvent payload), q) := by
  unfold publishRequest
  split
  · exact .inl ⟨_, rfl⟩
  dsimp only
  split
  · exact .inr (.inl ⟨_, rfl⟩)
  · exact .inr (.inr ⟨_, rfl⟩)

/-- `publish` after the exchange. -/
def publishResult (p : ObservationPublisher) :
    Except Error AckPayload → IngestionOutcome × ObservationPublisher
  | .error e => (rejection e.code e.describe, { p with connected := false })
  | .ok ack =>
    match ack.status with
    | .accepted =>
      ({ disposition := .accepted
         detail := ack.detail
         missingSequences := ack.missing
         counted := true }, { p with accepted := p.accepted + 1 })
    | .partiallyAccepted =>
      ({ disposition := .duplicate
         code := .duplicate
         detail := ack.detail
         missingSequences := ack.missing },
       { p with rejectedDuplicates := p.rejectedDuplicates + 1, rejected := p.rejected + 1 })
    | _ =>
      ({ disposition := .rejected
         code := ackCode ack
         detail := ack.detail
         missingSequences := ack.missing }, { p with rejected := p.rejected + 1 })

/-- `publish`. -/
def publish (p : ObservationPublisher) (o : Observation)
    (exchange : Frame → Except Error AckPayload) : IngestionOutcome × ObservationPublisher :=
  match p.publishRequest o with
  | (.error outcome, p) => (outcome, p)
  | (.ok f, p) => p.publishResult (exchange f)

/-- `publish_counter` up to the exchange. -/
def counterRequest (p : ObservationPublisher) (c : CounterPublication) :
    Except CounterOutcome Frame × ObservationPublisher :=
  if ¬p.connected then
    (.error { code := .connectionClosed, detail := ascii "publisher is not connected" }, p)
  else
    let w := Wire.writeCounterPublication (p.stampCounter c)
    let p := (p.advance c.sequence).bumpFrame
    match w.2 with
    | .error e => (.error { code := e.code, detail := e.describe }, p)
    | .ok () => (.ok (p.request .PublishCounter w.1), p)

theorem counterRequest_cases (p : ObservationPublisher) (c : CounterPublication) :
    let q := (p.advance c.sequence).bumpFrame
    (∃ outcome, p.counterRequest c = (.error outcome, p)) ∨
    (∃ outcome, p.counterRequest c = (.error outcome, q)) ∨
    ∃ payload, p.counterRequest c = (.ok (q.request .PublishCounter payload), q) := by
  unfold counterRequest
  split
  · exact .inl ⟨_, rfl⟩
  dsimp only
  split
  · exact .inr (.inl ⟨_, rfl⟩)
  · exact .inr (.inr ⟨_, rfl⟩)

/-- `publish_counter` after the exchange. -/
def counterResult (p : ObservationPublisher) :
    Except Error AckPayload → CounterOutcome × ObservationPublisher
  | .error e => ({ code := e.code, detail := e.describe }, { p with connected := false })
  | .ok ack =>
    if ack.status ≠ .accepted then
      ({ code := ackCode ack, detail := ack.detail }, { p with rejected := p.rejected + 1 })
    else ({ accepted := true, detail := ack.detail }, p)

/-- `publish_counter`. -/
def publishCounter (p : ObservationPublisher) (c : CounterPublication)
    (exchange : Frame → Except Error AckPayload) : CounterOutcome × ObservationPublisher :=
  match p.counterRequest c with
  | (.error outcome, p) => (outcome, p)
  | (.ok f, p) => p.counterResult (exchange f)

/-- `publish_batch` up to the exchange. -/
def batchRequest (p : ObservationPublisher) (os : List Observation) :
    Except (Except Error BatchOutcome) Frame × ObservationPublisher :=
  if os = [] then (.error (.ok {}), p)
  else if os.length > maxBatchEvents then
    (.error (.error (failWith .tooLarge "batch exceeds the maximum event count")), p)
  else if ¬p.connected then
    (.error (.error (failWith .connectionClosed "publisher is not connected")), p)
  else
    let w := p.writeBatch os
    match w.1.2 with
    | .error e => (.error (.error ⟨e.code, e.describe, []⟩), w.2)
    | .ok () =>
      let p := w.2.bumpFrame
      (.ok (p.request .PublishBatch
        (PayloadWriter.u32 (UInt32.ofNat os.length) ++ w.1.1)), p)

theorem batchRequest_cases (p : ObservationPublisher) (os : List Observation) :
    let q := (p.writeBatch os).2.bumpFrame
    (∃ outcome, p.batchRequest os = (.error outcome, p)) ∨
    (∃ outcome, p.batchRequest os = (.error outcome, (p.writeBatch os).2)) ∨
    ((p.writeBatch os).1.2 = .ok () ∧ os ≠ [] ∧ os.length ≤ maxBatchEvents ∧
      p.batchRequest os = (.ok (q.request .PublishBatch
        (PayloadWriter.u32 (UInt32.ofNat os.length) ++ (p.writeBatch os).1.1)), q)) := by
  unfold batchRequest
  split
  · exact .inl ⟨_, rfl⟩
  next hne =>
  split
  · exact .inl ⟨_, rfl⟩
  next hlong =>
  split
  · exact .inl ⟨_, rfl⟩
  dsimp only
  split
  · exact .inr (.inl ⟨_, rfl⟩)
  next hok => exact .inr (.inr ⟨hok, hne, Nat.not_lt.1 hlong, rfl⟩)

/-- `publish_batch` after the exchange. -/
def batchResult (p : ObservationPublisher) :
    Except Error AckPayload → Except Error BatchOutcome × ObservationPublisher
  | .error e => (.error ⟨e.code, e.describe, []⟩, { p with connected := false })
  | .ok ack =>
    if ack.status ≠ .accepted ∧ ack.status ≠ .partiallyAccepted then
      (.error ⟨ackCode ack, ack.detail, []⟩, p)
    else
      (.ok
        { accepted := ack.accepted
          acceptedLate := ack.late
          duplicates := ack.duplicates
          rejected := ack.rejected
          missingSequences := ack.missing }, p)

/-- `publish_batch`. -/
def publishBatch (p : ObservationPublisher) (os : List Observation)
    (exchange : Frame → Except Error AckPayload) :
    Except Error BatchOutcome × ObservationPublisher :=
  match p.batchRequest os with
  | (.error outcome, p) => (outcome, p)
  | (.ok f, p) => p.batchResult (exchange f)

end ObservationPublisher

/-! ## The admin client -/

/-- `bump_topology` up to the exchange. -/
def bumpTopologyRequest (frameSequence : UInt64) (reason : Text) : Except Error Frame := do
  PayloadWriter.textStatus reason maxRegionAnnotationLength
  return {
    type := .BumpTopology
    flags := FrameFlags.ackRequired
    frameSequence
    payload := PayloadWriter.text reason maxRegionAnnotationLength }

/-- `bump_topology` after the exchange: the generation is taken from the observation epoch of
the acknowledgement. -/
def bumpTopologyResult (ack : Except Error AckPayload) : Except Error TopologyGeneration := do
  let ack ← ack
  ackToStatus ack
  return ack.observationEpoch

end CoherenceObservatory
