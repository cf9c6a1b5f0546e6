import CoherenceObservatory.Protocol.Frame
import CoherenceObservatory.Protocol.Wire
import CoherenceObservatory.Observatory

/-!
# The coordinator

What the server around one observatory does with a frame: sessions with a role, a dispatcher,
and one handler per message.

A `Turn` is what a handler may touch: the observatory, its own session, the count of protocol
rejections, the state file and the frames it hands to the transport. What a handler takes from
outside, clock readings and the fate of a write to disk, is in `Surroundings`; how query
results are rendered is a parameter (`Responses`), so nothing here depends on it.
-/

namespace CoherenceObservatory

open Std Codec Limits PayloadReader

/-! ## Sessions -/

/-- What a client may do, as it says in its hello. -/
inductive ClientRole
  | publisher | client | admin
  deriving DecidableEq

namespace ClientRole

/-- `to_string`. -/
def toText : ClientRole → Text
  | publisher => ascii "PUBLISHER"
  | client => ascii "CLIENT"
  | admin => ascii "ADMIN"

/-- The byte that stands for it. -/
def raw : ClientRole → UInt8
  | publisher => 0
  | client => 1
  | admin => 2

/-- The role of a byte, if there is one. -/
def ofRaw : UInt8 → Option ClientRole
  | 0 => some publisher
  | 1 => some client
  | 2 => some admin
  | _ => none

end ClientRole

/-- `role_may_send`. -/
def roleMaySend (role : ClientRole) (type : MessageType) : Bool :=
  if type ∈ [.Hello, .Heartbeat] then true
  else if type ∈ [.RegisterPublisher, .PublishEvent, .PublishBatch, .PublishCounter] then
    role == .publisher || role == .admin
  else if type ∈ [.QuerySnapshot, .QueryFindings, .QueryAttribution] then
    role == .client || role == .admin
  else if type ∈ [.RegisterResource, .RegisterRegion, .RegisterCoherenceDomain, .SetTopologyLink,
      .Fence, .SaveState, .BumpTopology, .RetireRegion] then role == .admin
  else false

/-- The address of a peer, where the transport knows one. -/
structure PeerAddress where
  host : UInt8 × UInt8 × UInt8 × UInt8
  port : UInt16

/-- `socket_peer_text`. -/
def peerText : Option PeerAddress → Text
  | none => ascii "unknown"
  | some ⟨(a, b, c, d), port⟩ =>
    formatNat a.toNat ++ ascii "." ++ formatNat b.toNat ++ ascii "." ++ formatNat c.toNat ++
      ascii "." ++ formatNat d.toNat ++ ascii ":" ++ formatNat port.toNat

/-- A connection, and what its client said of itself. -/
structure Session where
  /-- The socket is valid. -/
  isOpen : Bool := true
  role : ClientRole := .publisher
  helloDone : Bool := false
  publisherRegistered : Bool := false
  publisherId : PublisherId := []
  publisherBoot : PublisherBootId := 0
  peer : Option PeerAddress := none
  /-- Received bytes that do not make up a frame yet. -/
  buffer : List UInt8 := []

/-! ## Turns -/

/-- How the coordinator renders the answers to queries. -/
structure Responses where
  snapshot : State → UInt8 → Wire.Written
  findings : State → UInt8 → Wire.Written
  attribution : State → MemoryRegionId → Wire.Written

/-- `CoordinatorOptions`. -/
structure CoordinatorOptions where
  statePath : Text := []
  loadOnStart : Bool := true
  saveOnShutdown : Bool := true
  maxConnections : Nat := Limits.maxConnections
  observatory : ObservatoryOptions := {}
  persistence : PersistenceOptions := {}

/-- What is fixed while the coordinator runs. -/
structure Configuration where
  options : CoordinatorOptions := {}
  endpoint : Text := []
  responses : Responses

/-- What a turn takes from outside. -/
structure Surroundings where
  clock : Nat → Nanos := fun _ => 0
  saved : Status := .ok ()

/-- What a handler works on. -/
structure Turn where
  observatory : State
  session : Session := {}
  protocolRejections : UInt64 := 0
  /-- The state file. -/
  file : Option (List UInt8) := none
  /-- The frames handed to the transport. -/
  sent : List Frame := []

namespace Turn

/-- Sends a frame. -/
def send (t : Turn) (f : Frame) : Turn := { t with sent := t.sent ++ [f] }

/-- An answer other than an acknowledgement. -/
def respond (t : Turn) (type : MessageType) (payload : List UInt8) : Turn :=
  t.send { type, flags := FrameFlags.response, payload }

/-- The acknowledgement of `send_ack`. -/
def acknowledgement (t : Turn) (status : AckStatus) (detail : Text)
    (accepted rejected duplicates late missing : UInt64 := 0) : AckPayload :=
  { status
    coordinatorEpoch := t.observatory.coordinatorEpoch
    observationEpoch := t.observatory.observationEpoch
    detail, accepted, rejected, duplicates, late, missing }

/-- The frame an acknowledgement travels in. The status of the writer is not looked at: what
it appended before it stopped is the payload. -/
def ackFrame (ack : AckPayload) : Frame where
  type := if ack.status = .accepted ∨ ack.status = .partiallyAccepted then .Ack else .Error
  flags := FrameFlags.response
  payload := (Wire.writeAck ack).1

/-- `send_ack`. -/
def sendAck (t : Turn) (status : AckStatus) (detail : Text)
    (accepted rejected duplicates late missing : UInt64 := 0) : Turn :=
  t.send (ackFrame (t.acknowledgement status detail accepted rejected duplicates late missing))

/-- What a fenced boot is noted with when its connection ends. -/
def closeDetail (peer : Option PeerAddress) : Text :=
  ascii "publisher transport connection ended (" ++ peerText peer ++ ascii ")"

/-- `close_session`. -/
def closeSession (t : Turn) (now : Nanos) : Turn :=
  { t with
    observatory :=
      if t.session.publisherRegistered then
        (fencePublisherBoot t.observatory t.session.publisherId t.session.publisherBoot
          .connectionClosed (closeDetail t.session.peer) now).2
      else t.observatory
    session := { t.session with publisherRegistered := false, isOpen := false } }

/-- `fail_session`. -/
def failSession (t : Turn) (env : Surroundings) (code : ErrorCode) (detail : Text) : Turn :=
  let t := { t with protocolRejections := t.protocolRejections + 1 }
  (t.sendAck (ackStatusFor code) detail).closeSession (env.clock 0)

/-- `fail_session` with the code and the text of an error. -/
def failWithError (t : Turn) (env : Surroundings) (e : Error) : Turn :=
  t.failSession env e.code e.describe

/-- The acknowledgement of a refusal by the observatory. -/
def sendRefusal (t : Turn) (e : Error) : Turn := t.sendAck (ackStatusFor e.code) e.describe

/-- The acknowledgement of an operation on the observatory. -/
def sendStatus (t : Turn) (status : Status) (done : String) : Turn :=
  match status with
  | .ok () => t.sendAck .accepted (ascii done)
  | .error e => t.sendRefusal e

/-- A payload read by `r`, and what follows. -/
def decode {α : Type} (t : Turn) (env : Surroundings) (payload : List UInt8)
    (r : PayloadReader α) (k : α → Turn) : Turn :=
  match r.run payload with
  | .error e => t.failWithError env e
  | .ok x => k x

/-- The rest of a payload read by `r` without a byte left over, and what follows. -/
def decodeWhole {α : Type} (t : Turn) (env : Surroundings) (c : Cursor) (r : PayloadReader α)
    (message : String) (k : α → Turn) : Turn :=
  match r c with
  | (.error e, _) => t.failWithError env e
  | (.ok x, c) =>
    if ¬c.exhausted then
      t.failSession env .trailingBytes (ascii "trailing bytes in " ++ ascii message)
    else k x

end Turn

/-- A reader that is followed by `require_exhausted`. -/
def PayloadReader.whole {α : Type} (r : PayloadReader α) : PayloadReader α := do
  let x ← r
  requireExhausted
  return x

/-! ## Handlers -/

section

variable (cfg : Configuration) (env : Surroundings)

/-- The fields of a hello. -/
def readHello : PayloadReader (UInt16 × UInt8 × Text) := do
  let version ← u16
  let role ← u8
  let name ← text maxNameLength
  return (version, role, name)

/-- What a hello is answered with. -/
def helloPayload (t : Turn) : List UInt8 :=
  PayloadWriter.u16 wireProtocolVersion ++
  PayloadWriter.u64 t.observatory.coordinatorEpoch ++
  PayloadWriter.u64 t.observatory.observationEpoch ++
  PayloadWriter.u64 t.observatory.topologyGeneration ++
  PayloadWriter.text (ascii "coherence-observatory") maxNameLength ++
  PayloadWriter.text cfg.endpoint maxRegionAnnotationLength ++
  PayloadWriter.u8 t.session.role.raw

/-- `handle_hello`. -/
def handleHello (t : Turn) (f : Frame) : Turn :=
  t.decode env f.payload readHello.whole fun (version, role, _) =>
    if version ≠ wireProtocolVersion then
      t.failSession env .unsupportedVersion (ascii "unsupported protocol version")
    else
      match ClientRole.ofRaw role with
      | none => t.failSession env .invalidArgument (ascii "unknown client role")
      | some role =>
        if t.session.helloDone then t.failSession env .protocolError (ascii "duplicate HELLO")
        else
          let t := { t with session := { t.session with role, helloDone := true } }
          t.respond .HelloAck (helloPayload cfg t)

/-- `handle_heartbeat`. -/
def handleHeartbeat (t : Turn) (f : Frame) : Turn :=
  if f.payload ≠ [] then
    t.failSession env .trailingBytes (ascii "HEARTBEAT must have an empty payload")
  else t.sendAck .accepted (ascii "heartbeat")

/-- The acknowledgement of a registration. The session remembers the last one. -/
def sendRegistered (t : Turn) : Except Error PublisherView → Turn
  | .error e => t.sendRefusal e
  | .ok view =>
    { t with session := { t.session with
        publisherRegistered := true
        publisherId := view.id
        publisherBoot := view.boot } }.sendAck .accepted (ascii "publisher registered")

/-- `handle_register_publisher`. -/
def handleRegisterPublisher (t : Turn) (f : Frame) : Turn :=
  t.decodeWhole env ⟨f.payload, 0⟩ Wire.readPublisherRegistration "REGISTER_PUBLISHER"
    fun registration =>
      let r := registerPublisher t.observatory registration env.clock
      sendRegistered { t with observatory := r.2 } r.1

/-- The status an ingestion outcome is acknowledged with. -/
def eventStatus (outcome : IngestionOutcome) : AckStatus :=
  match outcome.disposition with
  | .duplicate => .partiallyAccepted
  | .rejected => ackStatusFor outcome.code
  | _ => .accepted

/-- The acknowledgement of an observation. -/
def sendEvent (t : Turn) (outcome : IngestionOutcome) : Turn :=
  t.sendAck (eventStatus outcome) outcome.detail 1 0
    (if outcome.disposition = .duplicate then 1 else 0)
    (if outcome.disposition = .acceptedLate then 1 else 0) outcome.missingSequences

/-- `handle_publish_event`. -/
def handlePublishEvent (t : Turn) (f : Frame) : Turn :=
  t.decodeWhole env ⟨f.payload, 0⟩ Wire.readObservation "PUBLISH_EVENT" fun o =>
    let r := ingestLocked t.observatory o (env.clock 1)
    sendEvent { t with observatory := r.2 } r.1

/-- The acknowledgement of a batch. -/
def sendBatch (t : Turn) : Except Error BatchOutcome → Turn
  | .error e => t.sendRefusal e
  | .ok batch =>
    t.sendAck (if batch.rejected = 0 then .accepted else .partiallyAccepted) (ascii "batch")
      (batch.accepted + batch.acceptedLate) batch.rejected batch.duplicates batch.acceptedLate
      batch.missingSequences

/-- `handle_publish_batch`. -/
def handlePublishBatch (t : Turn) (f : Frame) : Turn :=
  match u32 ⟨f.payload, 0⟩ with
  | (.error e, _) => t.failWithError env e
  | (.ok count, c) =>
    if count = 0 ∨ count.toNat > maxBatchEvents then
      t.failSession env .tooMany (ascii "batch count out of range")
    else
      t.decodeWhole env c (Reader.many Wire.readObservation count.toNat) "PUBLISH_BATCH"
        fun os =>
          let r := ingestBatch t.observatory os env.clock
          sendBatch { t with observatory := r.2 } r.1

/-- The acknowledgement of a counter sample, whatever became of it. -/
def sendCounter (t : Turn) : Except Error CounterOutcome → Turn
  | .error e => t.sendRefusal e
  | .ok outcome => t.sendAck .accepted outcome.detail 1

/-- `handle_publish_counter`. -/
def handlePublishCounter (t : Turn) (f : Frame) : Turn :=
  t.decodeWhole env ⟨f.payload, 0⟩ Wire.readCounterPublication "PUBLISH_COUNTER" fun c =>
    let r := ingestCounter t.observatory c (env.clock 1)
    sendCounter { t with observatory := r.2 } r.1

/-- A query result, or the report that it could not be written. -/
def sendWritten (t : Turn) (type : MessageType) (w : Wire.Written) (failure : String) : Turn :=
  match w.2 with
  | .ok () => t.respond type w.1
  | .error e =>
    { t with protocolRejections := t.protocolRejections + 1 }.sendAck .internalError
      (ascii failure ++ e.describe)

/-- `handle_query_snapshot`. -/
def handleQuerySnapshot (t : Turn) (f : Frame) : Turn :=
  t.decode env f.payload u8.whole fun flags =>
    let s := { t.observatory with snapshotGeneration := t.observatory.snapshotGeneration + 1 }
    sendWritten { t with observatory := s } .SnapshotResponse (cfg.responses.snapshot s flags)
      "snapshot serialization failed: "

/-- `handle_query_findings`. -/
def handleQueryFindings (t : Turn) (f : Frame) : Turn :=
  t.decode env f.payload u8.whole fun flags =>
    sendWritten t .FindingsResponse (cfg.responses.findings t.observatory flags)
      "finding serialization failed: "

/-- The status of the writer is not looked at. -/
def handleQueryAttribution (t : Turn) (f : Frame) : Turn :=
  t.decode env f.payload (text maxNameLength).whole fun region =>
    match validateIdentityToken region with
    | .error _ => t.sendAck .malformed (ascii "invalid region identity")
    | .ok () =>
      t.respond .AttributionResponse (cfg.responses.attribution t.observatory region).1

/-- A record of `handle_register_resource`. It is registered before the rest of the payload is
looked at. -/
def registerRead {α : Type} (t : Turn) (c : Cursor) (r : PayloadReader α)
    (register : State → α → Nanos → Status × State) : Turn :=
  match r c with
  | (.error e, _) => t.failWithError env e
  | (.ok x, c) =>
    let r := register t.observatory x (env.clock 1)
    let t := { t with observatory := r.2 }
    if ¬c.exhausted then
      t.failSession env .trailingBytes (ascii "trailing bytes in REGISTER_RESOURCE")
    else t.sendStatus r.1 "resource registered"

/-- `handle_register_resource`. -/
def handleRegisterResource (t : Turn) (f : Frame) : Turn :=
  match u8 ⟨f.payload, 0⟩ with
  | (.error e, _) => t.failWithError env e
  | (.ok kind, c) =>
    if kind = ResourceKind.Node.raw then registerRead env t c Wire.readNode registerNode
    else if kind = ResourceKind.Processor.raw then
      registerRead env t c Wire.readProcessor registerProcessor
    else if kind = ResourceKind.Accelerator.raw then
      registerRead env t c Wire.readAccelerator registerAccelerator
    else if kind = ResourceKind.MemoryDomain.raw then
      registerRead env t c Wire.readMemoryDomain registerMemoryDomain
    else if kind = ResourceKind.CoherenceDomain.raw then
      registerRead env t c Wire.readCoherenceDomain registerCoherenceDomain
    else if kind = ResourceKind.Unknown.raw then
      t.failSession env .invalidArgument (ascii "unknown resource kind")
    else t.failSession env .invalidArgument (ascii "resource kind out of range")

/-- A record that is registered once its whole payload was read. -/
def registerWhole {α : Type} (t : Turn) (f : Frame) (r : PayloadReader α) (message : String)
    (register : State → α → Status × State) (done : String) : Turn :=
  t.decodeWhole env ⟨f.payload, 0⟩ r message fun x =>
    let r := register t.observatory x
    { t with observatory := r.2 }.sendStatus r.1 done

/-- `handle_register_region`. -/
def handleRegisterRegion (t : Turn) (f : Frame) : Turn :=
  registerWhole env t f Wire.readRegion "REGISTER_REGION"
    (fun s r => registerRegion s r (env.clock 1)) "region registered"

/-- `handle_register_coherence_domain`. -/
def handleRegisterCoherenceDomain (t : Turn) (f : Frame) : Turn :=
  registerWhole env t f Wire.readCoherenceDomain "REGISTER_COHERENCE_DOMAIN"
    (fun s r => registerCoherenceDomain s r (env.clock 1)) "coherence domain registered"

/-- `handle_set_topology_link`. -/
def handleSetTopologyLink (t : Turn) (f : Frame) : Turn :=
  registerWhole env t f Wire.readTopologyLink "SET_TOPOLOGY_LINK" setTopologyLink
    "topology link stored"

/-- The fields of a fence. -/
def readFence : PayloadReader (Text × UInt8 × Text) := do
  let publisher ← text maxNameLength
  let reason ← u8
  let detail ← text maxRegionAnnotationLength
  return (publisher, reason, detail)

/-- `handle_fence`. -/
def handleFence (t : Turn) (f : Frame) : Turn :=
  t.decode env f.payload readFence.whole fun (publisher, reason, detail) =>
    match FenceReason.ofRaw reason with
    | none => t.failSession env .invalidArgument (ascii "fence reason out of range")
    | some reason =>
      match validateIdentityToken publisher with
      | .error _ => t.sendAck .malformed (ascii "invalid publisher identity")
      | .ok () =>
        let r := fencePublisher t.observatory publisher reason detail (env.clock 1)
        { t with observatory := r.2 }.sendStatus (r.1.map fun _ => ()) "publisher fenced"

/-- `handle_bump_topology`. -/
def handleBumpTopology (t : Turn) (f : Frame) : Turn :=
  t.decode env f.payload (text maxRegionAnnotationLength).whole fun reason =>
    let r := bumpTopologyGeneration t.observatory reason (env.clock 1)
    { t with observatory := r.2 }.sendStatus (r.1.map fun _ => ()) "topology generation advanced"

/-- The fields of a retirement. -/
def readRetirement : PayloadReader (Text × UInt64 × Text) := do
  let region ← text maxNameLength
  let generation ← u64
  let reason ← text maxRegionAnnotationLength
  return (region, generation, reason)

/-- `handle_retire_region`. -/
def handleRetireRegion (t : Turn) (f : Frame) : Turn :=
  t.decode env f.payload readRetirement.whole fun (region, generation, reason) =>
    match validateIdentityToken region with
    | .error _ => t.sendAck .malformed (ascii "invalid region identity")
    | .ok () =>
      let r := retireRegion t.observatory region generation reason (env.clock 1)
      { t with observatory := r.2 }.sendStatus r.1 "region retired"

/-- `handle_save_state`. -/
def handleSaveState (t : Turn) (f : Frame) : Turn :=
  if f.payload ≠ [] then
    t.failSession env .trailingBytes (ascii "SAVE_STATE must have an empty payload")
  else if cfg.options.statePath = [] then
    t.sendAck .unsupported (ascii "no durable state path is configured")
  else
    match env.saved with
    | .error e => t.sendRefusal e
    | .ok () =>
      let file := saveState t.observatory cfg.options.persistence
      { t with file := some file }.sendAck .accepted
        (ascii "state saved (" ++ formatNat file.length ++ ascii " bytes)")

/-- The handler of a message type. -/
def handler (type : MessageType) : Option (Turn → Frame → Turn) :=
  if type = .Heartbeat then some (handleHeartbeat env)
  else if type = .RegisterPublisher then some (handleRegisterPublisher env)
  else if type = .PublishEvent then some (handlePublishEvent env)
  else if type = .PublishBatch then some (handlePublishBatch env)
  else if type = .PublishCounter then some (handlePublishCounter env)
  else if type = .QuerySnapshot then some (handleQuerySnapshot cfg env)
  else if type = .QueryFindings then some (handleQueryFindings cfg env)
  else if type = .QueryAttribution then some (handleQueryAttribution cfg env)
  else if type = .RegisterResource then some (handleRegisterResource env)
  else if type = .RegisterRegion then some (handleRegisterRegion env)
  else if type = .RegisterCoherenceDomain then some (handleRegisterCoherenceDomain env)
  else if type = .SetTopologyLink then some (handleSetTopologyLink env)
  else if type = .Fence then some (handleFence env)
  else if type = .SaveState then some (handleSaveState cfg env)
  else if type = .BumpTopology then some (handleBumpTopology env)
  else if type = .RetireRegion then some (handleRetireRegion env)
  else none

/-- `dispatch`: the role decides which messages are taken. -/
def dispatch (t : Turn) (f : Frame) : Turn :=
  if f.type = .Hello then handleHello cfg env t f
  else if ¬t.session.helloDone then
    t.failSession env .protocolError (ascii "HELLO must precede other messages")
  else if ¬roleMaySend t.session.role f.type then
    t.failSession env .unauthorized
      (ascii "role " ++ t.session.role.toText ++ ascii " may not send " ++ f.type.toText)
  else
    match handler cfg env f.type with
    | some handle => handle t f
    | none => t.failSession env .unknownMessageType (ascii "unhandled message type")

end

/-! ## Samples -/

/-- A coordinator that renders nothing. -/
def silentConfiguration : Configuration where
  responses := ⟨fun _ _ => ([], .ok ()), fun _ _ => ([], .ok ()), fun _ _ => ([], .ok ())⟩

/-- A greeted session with an observatory. -/
def greetedTurn (s : State) (role : ClientRole) : Turn where
  observatory := s
  session := { role, helloDone := true }

end CoherenceObservatory
