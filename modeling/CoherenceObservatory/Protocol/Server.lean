import CoherenceObservatory.Protocol.Coordinator
import CoherenceObservatory.Lib.Run

/-!
# The server

All sessions of a coordinator around one observatory. `serve` is what one event does: a
connection, a frame, bytes that are no frame, the end of a connection. What a session receives is
cut into such events (`cut`, `receive`), so that what holds along every run of `serve` holds of
the server, whatever bytes it is sent (`serviceSession`).
-/

namespace CoherenceObservatory

open Std Limits

structure Server where
  observatory : State
  sessions : ExtTreeMap UInt64 Session := ∅
  nextSessionId : UInt64 := 1
  protocolRejections : UInt64 := 0
  file : Option (List UInt8) := none

namespace Server

/-- What a handler of one session works on. -/
def turn (sv : Server) (session : Session) : Turn where
  observatory := sv.observatory
  session := session
  protocolRejections := sv.protocolRejections
  file := sv.file

/-- The server after a turn of a session. A session whose socket is closed is erased. -/
def put (sv : Server) (id : UInt64) (t : Turn) : Server :=
  { sv with
    observatory := t.observatory
    sessions := if t.session.isOpen then sv.sessions.insert id t.session else sv.sessions.erase id
    protocolRejections := t.protocolRejections
    file := t.file }

end Server

variable (cfg : Configuration)

/-- `accept_connection`. -/
def acceptConnection (sv : Server) (peer : Option PeerAddress) : Server :=
  if sv.sessions.size ≥ cfg.options.maxConnections then sv
  else
    { sv with
      sessions := sv.sessions.insertIfNew sv.nextSessionId { peer }
      nextSessionId := sv.nextSessionId + 1 }

/-! ## Events -/

/-- One thing that happens to the server. -/
inductive Event
  | accept (peer : Option PeerAddress)
  /-- A session has received a frame. -/
  | frame (id : UInt64) (f : Frame) (env : Surroundings)
  /-- A session has received something that is not a frame. -/
  | malformed (id : UInt64) (code : ErrorCode) (detail : Text) (env : Surroundings)
  /-- The connection of a session has ended. -/
  | close (id : UInt64) (env : Surroundings)
  /-- A session keeps bytes for later. -/
  | keep (id : UInt64) (buffer : List UInt8)

/-- A turn of one session, if there is such a session. -/
def Server.serveSession (sv : Server) (id : UInt64) (turn : Turn → Turn) : List Frame × Server :=
  match sv.sessions[id]? with
  | none => ([], sv)
  | some session => ((turn (sv.turn session)).sent, sv.put id (turn (sv.turn session)))

/-- One step of the server, with the frames it sends. -/
def serve (sv : Server) : Event → List Frame × Server
  | .accept peer => ([], acceptConnection cfg sv peer)
  | .frame id f env => sv.serveSession id fun t => dispatch cfg env t f
  | .malformed id code detail env => sv.serveSession id fun t => t.failSession env code detail
  | .close id env => sv.serveSession id fun t => t.closeSession (env.clock 0)
  | .keep id buffer => sv.serveSession id fun t => { t with session := { t.session with buffer } }

/-! ## Bytes -/

/-- The size of one read from a socket. -/
def receiveChunk : Nat := 16384

/-- What a read from a socket gives. -/
inductive Received
  /-- Nothing yet. -/
  | busy
  /-- The peer has closed the connection, or it failed. -/
  | ended
  | chunk (bytes : List UInt8) (nonempty : bytes ≠ []) (fits : bytes.length ≤ receiveChunk)

/-- The bound on the bytes a session may hold. -/
def maxBuffer : Nat := maxFramePayload + frameHeaderSize + frameTrailerSize

/-- The loop of `service_session`: complete frames are cut off the buffer and dispatched, until
one closes the session or the rest is kept for later. The surroundings of a turn are found
under the number of bytes left. -/
def cut (env : Nat → Surroundings) (sv : Server) (id : UInt64) (buffer : List UInt8) : List Event :=
  if buffer.length < frameHeaderSize then [.keep id buffer]
  else
    match FrameHeader.decode buffer with
    | .error e => [.malformed id e.code e.describe (env buffer.length)]
    | .ok header =>
      let total := frameHeaderSize + header.payloadLength.toNat + frameTrailerSize
      if buffer.length < total then [.keep id buffer]
      else
        match Frame.decode (buffer.take total) with
        | .error e => [.malformed id e.code e.describe (env buffer.length)]
        | .ok f =>
          let event := .frame id f (env buffer.length)
          let sv := (serve cfg sv event).2
          event :: if id ∈ sv.sessions then cut env sv id (buffer.drop total) else []
  termination_by buffer.length
  decreasing_by
    rw [List.length_drop]
    simp only [frameHeaderSize, frameTrailerSize] at *
    omega

/-- What a read from the socket of a session amounts to. -/
def receive (env : Nat → Surroundings) (sv : Server) (id : UInt64) (received : Received) :
    List Event :=
  match sv.sessions[id]? with
  | none => []
  | some session =>
    match received with
    | .busy => []
    | .ended => [.close id (env 0)]
    | .chunk bytes _ _ =>
      let buffer := session.buffer ++ bytes
      if buffer.length > maxBuffer then
        [.malformed id .tooLarge (ascii "receive buffer exceeds the frame bound") (env 0)]
      else cut cfg env sv id buffer

/-- `service_session`, with the frames it sends. -/
def serviceSession (env : Nat → Surroundings) (sv : Server) (id : UInt64) (received : Received) :
    List Frame × Server :=
  let events := receive cfg env sv id received
  ((Run.history (serve cfg) sv events).flatMap Prod.snd, Run.final (serve cfg) sv events)

end CoherenceObservatory
