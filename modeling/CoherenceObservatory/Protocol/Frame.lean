import CoherenceObservatory.Checksum

/-!
# Frames

The unit of transport: a header of 32 bytes with its own checksum, the payload, and the
checksum of the payload. The decoder pins every byte down, so frames and the byte strings it
accepts correspond one to one, and no single changed byte goes unnoticed.
-/

namespace CoherenceObservatory

open Codec Limits PayloadWriter List

/-! ## Message types -/

structure MessageType where
  raw : UInt16
  deriving DecidableEq

namespace MessageType

def Hello : MessageType := ⟨1⟩
def HelloAck : MessageType := ⟨2⟩
def RegisterPublisher : MessageType := ⟨3⟩
def RegisterResource : MessageType := ⟨4⟩
def RegisterRegion : MessageType := ⟨5⟩
def RegisterCoherenceDomain : MessageType := ⟨6⟩
def SetTopologyLink : MessageType := ⟨7⟩
def PublishEvent : MessageType := ⟨8⟩
def PublishBatch : MessageType := ⟨9⟩
def PublishCounter : MessageType := ⟨10⟩
def QuerySnapshot : MessageType := ⟨11⟩
def QueryFindings : MessageType := ⟨12⟩
def QueryAttribution : MessageType := ⟨13⟩
def Fence : MessageType := ⟨14⟩
def Heartbeat : MessageType := ⟨15⟩
def SaveState : MessageType := ⟨16⟩
def BumpTopology : MessageType := ⟨17⟩
def RetireRegion : MessageType := ⟨18⟩
def Ack : MessageType := ⟨100⟩
def Error : MessageType := ⟨101⟩
def SnapshotResponse : MessageType := ⟨102⟩
def FindingsResponse : MessageType := ⟨103⟩
def AttributionResponse : MessageType := ⟨104⟩

/-- Every message type with its name. -/
def names : List (MessageType × String) :=
  [(Hello, "HELLO"), (HelloAck, "HELLO_ACK"), (RegisterPublisher, "REGISTER_PUBLISHER"),
   (RegisterResource, "REGISTER_RESOURCE"), (RegisterRegion, "REGISTER_REGION"),
   (RegisterCoherenceDomain, "REGISTER_COHERENCE_DOMAIN"), (SetTopologyLink, "SET_TOPOLOGY_LINK"),
   (PublishEvent, "PUBLISH_EVENT"), (PublishBatch, "PUBLISH_BATCH"),
   (PublishCounter, "PUBLISH_COUNTER"), (QuerySnapshot, "QUERY_SNAPSHOT"),
   (QueryFindings, "QUERY_FINDINGS"), (QueryAttribution, "QUERY_ATTRIBUTION"), (Fence, "FENCE"),
   (Heartbeat, "HEARTBEAT"), (SaveState, "SAVE_STATE"), (BumpTopology, "BUMP_TOPOLOGY"),
   (RetireRegion, "RETIRE_REGION"), (Ack, "ACK"), (Error, "ERROR"),
   (SnapshotResponse, "SNAPSHOT_RESPONSE"), (FindingsResponse, "FINDINGS_RESPONSE"),
   (AttributionResponse, "ATTRIBUTION_RESPONSE")]

/-- `is_known_message_type`. -/
def isKnown (type : MessageType) : Bool := names.any fun e => e.1 == type

/-- `to_string`. -/
def toText (type : MessageType) : Text :=
  ascii (((names.find? fun e => e.1 == type).map Prod.snd).getD "UNKNOWN")

end MessageType

/-- `kWireProtocolVersion`. -/
def wireProtocolVersion : UInt16 := 1

/-- `kFrameMagic`. -/
def frameMagic : List UInt8 := ascii "COBSFRM1"

namespace FrameFlags

def ackRequired : UInt32 := 1
def response : UInt32 := 2

/-- `kKnownMask`. -/
def knownMask : UInt32 := ackRequired ||| response

end FrameFlags

/-! ## Headers and frames -/

structure FrameHeader where
  magic : List UInt8 := frameMagic
  version : UInt16 := wireProtocolVersion
  type : UInt16 := 0
  flags : UInt32 := 0
  frameSequence : UInt64 := 0
  payloadLength : UInt32 := 0
  headerCrc : UInt32 := 0

namespace FrameHeader

/-- The fields up to the checksum. -/
def fields (h : FrameHeader) : List UInt8 :=
  h.magic ++ (u16 h.version ++ (u16 h.type ++
    (u32 h.flags ++ (u64 h.frameSequence ++
      u32 h.payloadLength))))

/-- `FrameHeader::encode`: the checksum is taken with its own field zero. -/
def encode (h : FrameHeader) : List UInt8 :=
  h.fields ++ u32 (crc32 (h.fields ++ u32 0))

/-- `FrameHeader::decode`. -/
def decode (data : List UInt8) : Except Error FrameHeader := do
  failIf (data.length < frameHeaderSize)
    (failWith .truncated "frame header is short" (formatNat data.length))
  failIf (data.take 8 ≠ frameMagic) (failWith .invalidMagic "frame magic mismatch")
  let header : FrameHeader :=
    { magic := data.take 8
      version := getU16 data 8
      type := getU16 data 10
      flags := getU32 data 12
      frameSequence := getU64 data 16
      payloadLength := getU32 data 24
      headerCrc := getU32 data 28 }
  failIf (header.version ≠ wireProtocolVersion)
    (failWith .unsupportedVersion "unsupported protocol version" (formatNat header.version.toNat))
  failIf (¬(MessageType.mk header.type).isKnown)
    (failWith .unknownMessageType "unknown message type" (formatNat header.type.toNat))
  failIf (header.flags &&& ~~~FrameFlags.knownMask ≠ 0)
    (failWith .invalidFlags "unknown frame flag bits" (formatNat header.flags.toNat))
  failIf (header.payloadLength.toNat > maxFramePayload)
    (failWith .tooLarge "frame payload exceeds the maximum size"
      (formatNat header.payloadLength.toNat))
  failIf (crc32 (data.take 28 ++ u32 0) ≠ header.headerCrc)
    (failWith .integrityFailure "frame header checksum mismatch")
  return header

end FrameHeader

structure Frame where
  type : MessageType := .Hello
  flags : UInt32 := 0
  frameSequence : UInt64 := 0
  payload : List UInt8 := []
  deriving DecidableEq

namespace Frame

/-- The header of a frame. A payload past the range of its length field wraps around. -/
def header (f : Frame) : FrameHeader where
  type := f.type.raw
  flags := f.flags
  frameSequence := f.frameSequence
  payloadLength := UInt32.ofNat f.payload.length

/-- `Frame::encode`. -/
def encode (f : Frame) : List UInt8 :=
  f.header.encode ++ f.payload ++ u32 (crc32 f.payload)

/-- `Frame::decode`. -/
def decode (data : List UInt8) : Except Error Frame := do
  let header ← FrameHeader.decode data
  let expected := frameHeaderSize + header.payloadLength.toNat + frameTrailerSize
  let lengths := ascii "expected=" ++ formatNat expected ++ ascii " actual=" ++ formatNat data.length
  failIf (data.length < expected) (failWith .truncated "frame is truncated" lengths)
  failIf (data.length > expected)
    (failWith .trailingBytes "bytes follow the declared frame length" lengths)
  let payload := (data.drop frameHeaderSize).take header.payloadLength.toNat
  failIf (crc32 payload ≠ getU32 data (frameHeaderSize + header.payloadLength.toNat))
    (failWith .integrityFailure "frame payload checksum mismatch")
  return ⟨⟨header.type⟩, header.flags, header.frameSequence, payload⟩

/-- A frame of a known type with known flags and a payload within its bound. -/
structure Sendable (f : Frame) : Prop where
  known : f.type.isKnown = true
  flags : f.flags &&& ~~~FrameFlags.knownMask = 0
  payload : f.payload.length ≤ maxFramePayload

end Frame

/-! ## Encoded frames -/

@[simp] theorem length_frameMagic : frameMagic.length = 8 := rfl

variable {f : Frame} {data : List UInt8}

namespace Frame

@[simp] theorem length_header_fields (f : Frame) : f.header.fields.length = 28 := by
  simp [FrameHeader.fields, header]

@[simp] theorem length_header_encode (f : Frame) : f.header.encode.length = 32 := by
  simp [FrameHeader.encode]

theorem length_encode (f : Frame) : f.encode.length = 32 + f.payload.length + 4 := by
  simp [encode]
  omega

/-- The fields of an encoded header at their offsets, whatever follows it. -/
theorem header_fields (f : Frame) (rest : List UInt8) :
    let data := f.header.encode ++ rest
    data.take 8 = frameMagic ∧ getU16 data 8 = wireProtocolVersion ∧ getU16 data 10 = f.type.raw ∧
      getU32 data 12 = f.flags ∧ getU64 data 16 = f.frameSequence ∧
      getU32 data 24 = UInt32.ofNat f.payload.length ∧ data.take 28 = f.header.fields ∧
      getU32 data 28 = crc32 (f.header.fields ++ u32 0) := by
  intro data
  have hdata : data = frameMagic ++ (u16 wireProtocolVersion ++
      (u16 f.type.raw ++ (u32 f.flags ++
        (u64 f.frameSequence ++ (u32 (UInt32.ofNat f.payload.length) ++
          (u32 (crc32 (f.header.fields ++ u32 0)) ++ rest)))))) := by
    simp only [data, FrameHeader.encode, append_assoc]
    rw [FrameHeader.fields]
    simp only [append_assoc]
    rfl
  have hfields : data = f.header.fields ++
      (u32 (crc32 (f.header.fields ++ u32 0)) ++ rest) := by
    simp only [data, FrameHeader.encode, append_assoc]
  have htype : (frameMagic ++ u16 wireProtocolVersion).length = 10 := by simp
  have hflags : (frameMagic ++ u16 wireProtocolVersion ++
      u16 f.type.raw).length = 12 := by simp
  have hsequence : (frameMagic ++ u16 wireProtocolVersion ++
      u16 f.type.raw ++ u32 f.flags).length = 16 := by simp
  have hlength : (frameMagic ++ u16 wireProtocolVersion ++
      u16 f.type.raw ++ u32 f.flags ++
      u64 f.frameSequence).length = 24 := by simp
  refine ⟨?_, getU16_append hdata rfl,
    getU16_append (by simp only [hdata, append_assoc]; rfl) htype,
    getU32_append (by simp only [hdata, append_assoc]; rfl) hflags,
    getU64_append (by simp only [hdata, append_assoc]; rfl) hsequence,
    getU32_append (by simp only [hdata, append_assoc]; rfl) hlength, ?_,
    getU32_append hfields (length_header_fields f)⟩
  · rw [hdata]
    exact take_left' rfl
  · rw [hfields]
    exact take_left' (length_header_fields f)

/-- The header of a frame that may be sent is read back, whatever follows it. -/
theorem decode_header (h : f.Sendable) (rest : List UInt8) :
    FrameHeader.decode (f.header.encode ++ rest) = .ok { f.header with
      headerCrc := crc32 (f.header.fields ++ u32 0) } := by
  have hlength : 32 ≤ (f.header.encode ++ rest).length := by simp
  obtain ⟨hmagic, hversion, htype, hflags, hsequence, hpayload, hfields, hcrc⟩ :=
    header_fields f rest
  generalize f.header.encode ++ rest = data at *
  have hbound : ¬(UInt32.ofNat f.payload.length).toNat > maxFramePayload := by
    rw [UInt32.toNat_ofNat_of_lt' (Nat.lt_of_le_of_lt h.payload (by decide))]
    exact Nat.not_lt.2 h.payload
  unfold FrameHeader.decode
  simp only [hmagic, hversion, htype, hflags, hsequence, hpayload, hfields, hcrc]
  refine (failIf_bind (Nat.not_lt.2 hlength)).trans ?_
  refine (failIf_bind (by simp)).trans ?_
  refine (failIf_bind (by simp)).trans ?_
  refine (failIf_bind (by simp [h.known])).trans ?_
  refine (failIf_bind (by simp [h.flags])).trans ?_
  refine (failIf_bind hbound).trans ?_
  exact failIf_bind (by simp)

theorem drop_encode (f : Frame) : f.encode.drop 32 = f.payload ++ u32 (crc32 f.payload) := by
  rw [encode, append_assoc, drop_left' (length_header_encode f)]

theorem getU32_encode (f : Frame) : getU32 f.encode (32 + f.payload.length) = crc32 f.payload := by
  have hbefore : (f.header.encode ++ f.payload).length = 32 + f.payload.length := by simp
  exact getU32_append (by rw [encode, append_nil]) hbefore

/-- A frame that may be sent is read back. -/
theorem decode_encode (h : f.Sendable) : decode f.encode = .ok f := by
  have hn : (UInt32.ofNat f.payload.length).toNat = f.payload.length :=
    UInt32.toNat_ofNat_of_lt' (Nat.lt_of_le_of_lt h.payload (by decide))
  have hlength := length_encode f
  have hheader : FrameHeader.decode f.encode = .ok { f.header with
      headerCrc := crc32 (f.header.fields ++ u32 0) } := by
    rw [encode, append_assoc]
    exact decode_header h _
  unfold decode
  rw [hheader, ok_bind]
  simp only [header, hn, frameHeaderSize, frameTrailerSize, hlength, drop_encode,
    take_left, getU32_encode]
  refine (failIf_bind (by omega)).trans ?_
  refine (failIf_bind (by omega)).trans ?_
  exact failIf_bind (by simp)

end Frame

/-! ## Accepted byte strings -/

/-- What a frame with a payload of `n` bytes has to satisfy. -/
structure Framed (data : List UInt8) (n : Nat) : Prop where
  header_crc : crc32 (data.take 28 ++ u32 0) = getU32 data 28
  length_eq : data.length = 32 + n + 4
  payload_crc : crc32 ((data.drop 32).take n) = getU32 data (32 + n)

/-- Every encoded frame is framed, also one that is not accepted. -/
theorem framed_encode (f : Frame) : Framed f.encode f.payload.length where
  header_crc := by
    rw [Frame.encode, append_assoc]
    obtain ⟨_, _, _, _, _, _, hfields, hcrc⟩ := f.header_fields
      (f.payload ++ u32 (crc32 f.payload))
    rw [hfields, hcrc]
  length_eq := f.length_encode
  payload_crc := by rw [f.drop_encode, take_left, f.getU32_encode]

/-- No change of a single byte keeps both checksums. -/
theorem Framed.not_set {n : Nat} (h : Framed data n) {i : Nat} {b : UInt8} (hi : i < data.length)
    (hb : b ≠ data[i]) (n' : Nat) : ¬Framed (data.set i b) n' := by
  intro h'
  have hlength := h.length_eq
  obtain rfl : n' = n := by
    have := h'.length_eq
    rw [length_set] at this
    omega
  -- the byte lies in the header, its checksum, the payload or the checksum of that
  rcases (by omega : i < 28 ∨ 28 ≤ i ∧ i < 32 ∨ 32 ≤ i ∧ i < 32 + n' ∨ 32 + n' ≤ i) with
    hheader | ⟨hle, hlt⟩ | ⟨hle, hlt⟩ | hle
  · have hcrc := h'.header_crc
    have hinside : i < (data.take 28).length := by simp; omega
    rw [getU32_set_of_outside 28 (.inl hheader), ← h.header_crc, take_set,
      ← set_append_left _ _ hinside] at hcrc
    refine crc32_set_ne (by simp; omega) ?_ hcrc
    rwa [getElem_append_left hinside, getElem_take]
  · have hcrc := h'.header_crc
    rw [take_set_of_ge 28 hle, h.header_crc] at hcrc
    exact getU32_set_ne 28 hle hlt hi hb hcrc.symm
  · have hcrc := h'.payload_crc
    rw [getU32_set_of_outside _ (.inl hlt), ← h.payload_crc, slice_set_of_inside 32 n' hle] at hcrc
    refine crc32_set_ne (by simp; omega) ?_ hcrc
    simpa [Nat.add_sub_cancel' hle] using hb
  · have hcrc := h'.payload_crc
    rw [slice_set_of_outside 32 n' (.inr hle), h.payload_crc] at hcrc
    exact getU32_set_ne (32 + n') hle (by omega) hi hb hcrc.symm

/-- Everything an accepted byte string has been checked for, and what it is read as. -/
theorem Frame.decode_eq_ok (h : decode data = .ok f) :
    data.take 8 = frameMagic ∧ getU16 data 8 = wireProtocolVersion ∧
      Framed data (getU32 data 24).toNat ∧
      f = ⟨⟨getU16 data 10⟩, getU32 data 12, getU64 data 16,
        (data.drop 32).take (getU32 data 24).toNat⟩ ∧ f.Sendable := by
  unfold decode at h
  obtain ⟨header, hheader, h⟩ := bind_eq_ok.1 h
  obtain ⟨_, hshort, h⟩ := bind_eq_ok.1 h
  obtain ⟨_, hlong, h⟩ := bind_eq_ok.1 h
  obtain ⟨_, hpayload, h⟩ := bind_eq_ok.1 h
  unfold FrameHeader.decode at hheader
  obtain ⟨_, _, hheader⟩ := bind_eq_ok.1 hheader
  obtain ⟨_, hmagic, hheader⟩ := bind_eq_ok.1 hheader
  obtain ⟨_, hversion, hheader⟩ := bind_eq_ok.1 hheader
  obtain ⟨_, hknown, hheader⟩ := bind_eq_ok.1 hheader
  obtain ⟨_, hflags, hheader⟩ := bind_eq_ok.1 hheader
  obtain ⟨_, hbound, hheader⟩ := bind_eq_ok.1 hheader
  obtain ⟨_, hcrc, hheader⟩ := bind_eq_ok.1 hheader
  obtain rfl := Except.ok.inj hheader
  obtain rfl := Except.ok.inj h
  have hshort := failIf_eq_ok.1 hshort
  have hlong := failIf_eq_ok.1 hlong
  have hbound := failIf_eq_ok.1 hbound
  simp only [frameHeaderSize, frameTrailerSize] at hshort hlong
  refine ⟨not_not.1 (failIf_eq_ok.1 hmagic), not_not.1 (failIf_eq_ok.1 hversion),
    ⟨not_not.1 (failIf_eq_ok.1 hcrc), by omega, not_not.1 (failIf_eq_ok.1 hpayload)⟩, rfl,
    not_not.1 (failIf_eq_ok.1 hknown), not_not.1 (failIf_eq_ok.1 hflags), ?_⟩
  exact (length_take_le _ _).trans (Nat.not_lt.1 hbound)

/-- A byte string that starts as a header is the encoding of the header it is read as. -/
theorem FrameHeader.fields_eq_take (h : 32 ≤ data.length) (hmagic : data.take 8 = frameMagic)
    (hversion : getU16 data 8 = wireProtocolVersion) {header : FrameHeader}
    (hheader : header.magic = frameMagic) (hv : header.version = wireProtocolVersion)
    (htype : header.type = getU16 data 10) (hflags : header.flags = getU32 data 12)
    (hsequence : header.frameSequence = getU64 data 16)
    (hlength : header.payloadLength = getU32 data 24) : header.fields = data.take 28 := by
  rw [FrameHeader.fields, hheader, hv, htype, hflags, hsequence, hlength, ← hversion, ← hmagic,
    u16_getU16 8 (by omega), u16_getU16 10 (by omega), u32_getU32 12 (by omega),
    u64_getU64 16 (by omega), u32_getU32 24 (by omega)]
  rw [show 28 = 8 + (2 + (2 + (4 + (8 + 4)))) from rfl, take_add, take_add, take_add,
    take_add, take_add]
  simp only [drop_drop]

/-- What is accepted is the encoding of what it is read as. -/
theorem Frame.encode_of_decode (h : decode data = .ok f) : f.encode = data := by
  obtain ⟨hmagic, hversion, hframed, rfl, -⟩ := decode_eq_ok h
  obtain ⟨hcrc, hlength, hpayload⟩ := hframed
  generalize hn : (getU32 data 24).toNat = n at *
  have htake : ((data.drop 32).take n).length = n := by simp; omega
  have hn' : UInt32.ofNat ((data.drop 32).take n).length = getU32 data 24 := by
    rw [htake, ← hn, UInt32.ofNat_toNat]
  have hfields := FrameHeader.fields_eq_take (by omega) hmagic hversion
    (show (Frame.header ⟨⟨getU16 data 10⟩, getU32 data 12, getU64 data 16,
      (data.drop 32).take n⟩).magic = _ from rfl) rfl rfl rfl rfl hn'
  rw [encode, FrameHeader.encode, hfields, hcrc, u32_getU32 28 (by omega)]
  change _ ++ (data.drop 32).take n ++ u32 (crc32 ((data.drop 32).take n)) = data
  rw [hpayload, u32_getU32 (32 + n) (by omega)]
  calc data.take 28 ++ (data.drop 28).take 4 ++ (data.drop 32).take n ++ (data.drop (32 + n)).take 4
      = data.take (28 + 4 + n + 4) := by rw [take_add, take_add, take_add]
    _ = data := take_of_length_le (by omega)

/-! ## Main results -/

/-- Frames that may be sent and byte strings that are accepted correspond one to one. -/
theorem frame_bijection :
    (∀ f : Frame, f.Sendable → Frame.decode f.encode = .ok f) ∧
      ∀ (data : List UInt8) (f : Frame), Frame.decode data = .ok f → f.encode = data :=
  ⟨fun _ => Frame.decode_encode, fun _ _ => Frame.encode_of_decode⟩

/-- A heartbeat. -/
theorem frame_bijection_heartbeat :
    let f : Frame := { type := .Heartbeat, flags := FrameFlags.ackRequired, frameSequence := 7 }
    Frame.decode f.encode = .ok f ∧
      ∀ f' : Frame, Frame.decode f.encode = .ok f' → f'.encode = f.encode := by
  intro f
  exact ⟨frame_bijection.1 f ⟨by decide, by decide, by decide⟩, frame_bijection.2 f.encode⟩

/-- An encoded frame with one byte changed is refused. -/
theorem frame_change_refused (f : Frame) (i : Nat) (b : UInt8) (hi : i < f.encode.length)
    (hb : b ≠ f.encode[i]) : ∃ e, Frame.decode (f.encode.set i b) = .error e := by
  cases hdecode : Frame.decode (f.encode.set i b) with
  | error e => exact ⟨e, rfl⟩
  | ok f' =>
    obtain ⟨-, -, hframed, -⟩ := Frame.decode_eq_ok hdecode
    exact absurd hframed ((framed_encode f).not_set hi hb _)

/-- The first byte of a heartbeat is changed. -/
theorem frame_change_refused_heartbeat :
    let f : Frame := { type := .Heartbeat }
    ∃ e, Frame.decode (f.encode.set 0 0) = .error e := by
  intro f
  exact frame_change_refused f 0 0 (by rw [f.length_encode]; decide) (by decide +kernel)

/-- The header says where a frame ends, whatever follows it. -/
theorem Frame.encode_append_inj {f g : Frame} (hf : f.Sendable) (hg : g.Sendable)
    {rest rest' : List UInt8} (h : f.encode ++ rest = g.encode ++ rest') : f = g ∧ rest = rest' := by
  have hn {f : Frame} (hf : f.Sendable) := UInt32.toNat_ofNat_of_lt'
    (Nat.lt_of_le_of_lt hf.payload (by decide))
  have hheader := decode_header hf (f.payload ++ (u32 (crc32 f.payload) ++ rest))
  simp only [encode, append_assoc] at h
  rw [h, decode_header hg] at hheader
  have hlength : g.payload.length = f.payload.length := by
    simpa [header, hn hf, hn hg] using
      congrArg (·.payloadLength.toNat) (Except.ok.inj hheader)
  simp only [← append_assoc] at h
  obtain ⟨hencode, hrest⟩ := append_inj h (by simp [hlength])
  have hdecode := decode_encode hf
  rw [encode, hencode] at hdecode
  exact ⟨Except.ok.inj (hdecode.symm.trans (decode_encode hg)), hrest⟩

/-- A stream of frames that may be sent is one of these frames only. -/
theorem streams_injective :
    Set.InjOn (fun frames : List Frame => frames.flatMap Frame.encode)
      {frames | ∀ f ∈ frames, f.Sendable} := by
  have hne (f : Frame) : f.encode ≠ [] := ne_nil_of_length_pos (by rw [f.length_encode]; omega)
  intro frames hframes frames' hframes' h
  induction frames generalizing frames' with
  | nil =>
    cases frames' with
    | nil => rfl
    | cons g _ => exact absurd (append_eq_nil_iff.1 h.symm).1 (hne g)
  | cons f frames ih =>
    cases frames' with
    | nil => exact absurd (append_eq_nil_iff.1 h).1 (hne f)
    | cons g frames' =>
      obtain ⟨hf, hrest⟩ := forall_mem_cons.1 hframes
      obtain ⟨hg, hrest'⟩ := forall_mem_cons.1 hframes'
      obtain ⟨rfl, htail⟩ := Frame.encode_append_inj hf hg h
      rw [ih hrest hrest' htail]

end CoherenceObservatory
