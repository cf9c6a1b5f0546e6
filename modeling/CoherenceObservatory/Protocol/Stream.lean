import CoherenceObservatory.Protocol.Confinement

/-!
# Framing

What `service_session` makes of a stream of frames that arrives in chunks. A call appends its
chunk to the buffer, refuses a buffer past the bound and only then cuts frames off, so that the
end of a large frame and the start of the next one may be too much together.
-/

namespace CoherenceObservatory

open Std Limits ExtTreeMap List

/-! ## Frames within a number of bytes -/

/-- The size of encoded frames. -/
def frameBytes (frames : List Frame) : Nat := (frames.flatMap Frame.encode).length

/-- The frames that end within the first `n` bytes of a stream. -/
def complete : List Frame → Nat → List Frame
  | [], _ => []
  | f :: frames, n =>
    if f.encode.length ≤ n then f :: complete frames (n - f.encode.length) else []

@[simp] theorem frameBytes_nil : frameBytes [] = 0 := rfl

@[simp] theorem frameBytes_cons (f : Frame) (frames : List Frame) :
    frameBytes (f :: frames) = f.encode.length + frameBytes frames := by
  simp [frameBytes]

@[simp] theorem frameBytes_append (frames frames' : List Frame) :
    frameBytes (frames ++ frames') = frameBytes frames + frameBytes frames' := by
  simp [frameBytes]

variable {f : Frame} {n : Nat} {rest tail : List UInt8} {frames : List Frame}
  {chunks : List (List UInt8)} {cfg : Configuration} {id : UInt64} {sv : Server}

theorem complete_of_lt (h : n < f.encode.length) (frames : List Frame) :
    complete (f :: frames) n = [] := if_neg (Nat.not_le.2 h)

theorem complete_of_le (h : f.encode.length ≤ n) (frames : List Frame) :
    complete (f :: frames) n = f :: complete frames (n - f.encode.length) := if_pos h

theorem complete_zero (frames : List Frame) : complete frames 0 = [] := by
  cases frames with
  | nil => rfl
  | cons f frames => exact complete_of_lt (by rw [f.length_encode]; omega) frames

theorem frameBytes_complete_le (frames : List Frame) (n : Nat) :
    frameBytes (complete frames n) ≤ n := by
  induction frames generalizing n with
  | nil => exact Nat.zero_le n
  | cons f frames ih =>
    rw [complete]
    split
    next h =>
      have := ih (n - f.encode.length)
      rw [frameBytes_cons]
      omega
    · exact Nat.zero_le n

/-- All frames end within their bytes. -/
theorem complete_frameBytes (frames : List Frame) : complete frames (frameBytes frames) = frames := by
  induction frames with
  | nil => rfl
  | cons f frames ih =>
    rw [frameBytes_cons, complete_of_le (Nat.le_add_right _ _), Nat.add_sub_cancel_left, ih]

/-- The complete frames are the first ones. -/
theorem complete_append_drop (frames : List Frame) (n : Nat) :
    complete frames n ++ frames.drop (complete frames n).length = frames := by
  induction frames generalizing n with
  | nil => rfl
  | cons f frames ih =>
    rw [complete]
    split
    · exact congrArg (f :: ·) (ih _)
    · rfl

/-- Further bytes complete further frames. -/
theorem complete_add (frames : List Frame) (n m : Nat) :
    complete frames (n + m) = complete frames n ++
      complete (frames.drop (complete frames n).length) (n - frameBytes (complete frames n) + m) := by
  induction frames generalizing n with
  | nil => rfl
  | cons f frames ih =>
    rcases Nat.lt_or_ge n f.encode.length with h | h
    · simp [complete_of_lt h]
    · have hsub : n + m - f.encode.length = n - f.encode.length + m := by omega
      rw [complete_of_le h, complete_of_le (by omega), hsub, ih, frameBytes_cons, length_cons,
        drop_succ_cons, cons_append, Nat.sub_sub]

/-! ## Cutting a buffer -/

/-- The frame an event dispatches. -/
def Event.dispatched : Event → Option Frame
  | .frame _ f _ => some f
  | _ => none

/-- The session is failed. -/
def Event.fails : Event → Bool
  | .malformed .. => true
  | _ => false

/-- A session is open and holds these bytes. -/
def Server.Holds (sv : Server) (id : UInt64) (buffer : List UInt8) : Prop :=
  ∃ session, sv.sessions[id]? = some session ∧ session.isOpen = true ∧ session.buffer = buffer

section

variable (cfg : Configuration) {env : Nat → Surroundings} {sv : Server} {id : UInt64}

/-- The handler of a frame leaves the session open. -/
def LeavesOpen (id : UInt64) (sv : Server) : Event → Prop
  | .frame _ f env => id ∈ sv.sessions → id ∈ (serve cfg sv (.frame id f env)).2.sessions
  | _ => True

variable {buffer : List UInt8}

/-- Bytes that are the start of a frame are kept. -/
theorem cut_short (hf : f.Sendable) (h : buffer ++ rest = f.encode ++ tail)
    (hshort : buffer.length < f.encode.length) : cut cfg env sv id buffer = [.keep id buffer] := by
  rw [cut]
  split
  · rfl
  next hheader =>
    simp only [frameHeaderSize, Nat.not_lt] at hheader
    -- the header is complete and says how long the frame is
    have htake : buffer.take 32 = f.header.encode := by
      have := congrArg (List.take 32) h
      rwa [take_append_of_le_length hheader, Frame.encode, append_assoc, append_assoc,
        take_left' (Frame.length_header_encode f)] at this
    have hdecode := Frame.decode_header hf (buffer.drop 32)
    rw [← htake, take_append_drop] at hdecode
    have hn : (UInt32.ofNat f.payload.length).toNat = f.payload.length :=
      UInt32.toNat_ofNat_of_lt' (Nat.lt_of_le_of_lt hf.payload (by decide))
    rw [Frame.length_encode] at hshort
    rw [hdecode]
    exact if_pos (by simpa [Frame.header, hn, frameHeaderSize, frameTrailerSize])

/-- A frame is cut off and dispatched. -/
theorem cut_frame (hf : f.Sendable) (rest : List UInt8) :
    let event := .frame id f (env (f.encode ++ rest).length)
    cut cfg env sv id (f.encode ++ rest) =
      event :: if id ∈ (serve cfg sv event).2.sessions then cut cfg env (serve cfg sv event).2 id rest
        else [] := by
  intro event
  have hlength := f.length_encode
  have hheader : ¬(f.encode ++ rest).length < frameHeaderSize := by
    rw [length_append, hlength, frameHeaderSize]
    omega
  have hdecode : FrameHeader.decode (f.encode ++ rest) = .ok { f.header with
      headerCrc := crc32 (f.header.fields ++ PayloadWriter.u32 0) } := by
    rw [Frame.encode, append_assoc, append_assoc]
    exact Frame.decode_header hf _
  have htotal : frameHeaderSize + f.header.payloadLength.toNat + frameTrailerSize =
      f.encode.length := by
    rw [hlength, Frame.header]
    dsimp only
    rw [UInt32.toNat_ofNat_of_lt' (Nat.lt_of_le_of_lt hf.payload (by decide))]
    rfl
  rw [cut, if_neg hheader, hdecode]
  dsimp only
  rw [htotal, if_neg (by simp), take_left, Frame.decode_encode hf]
  dsimp only
  rw [drop_left]

variable {cfg}

theorem Server.Holds.mem (h : sv.Holds id buffer) : id ∈ sv.sessions := by
  obtain ⟨session, hsession, -⟩ := h
  exact mem_iff_isSome_getElem?.2 (by rw [hsession]; rfl)

/-- A session that has had its turn and is still there is open. -/
theorem Server.Holds.serve_frame (h : sv.Holds id buffer) {surroundings : Surroundings}
    (hkeeps : LeavesOpen cfg id sv (.frame id f surroundings)) :
    id ∈ (serve cfg sv (.frame id f surroundings)).2.sessions ∧
      ∃ buffer', (serve cfg sv (.frame id f surroundings)).2.Holds id buffer' := by
  have hmem := hkeeps h.mem
  refine ⟨hmem, ?_⟩
  obtain ⟨session, hsession, -⟩ := h
  obtain ⟨session', hsession'⟩ :=
    Option.isSome_iff_exists.1 (mem_iff_isSome_getElem?.1 hmem)
  have hput := hsession'
  rw [serve, Server.serveSession, hsession] at hput
  dsimp only at hput
  rw [Server.getElem?_put, if_pos rfl] at hput
  split at hput
  next hopen => exact ⟨_, session', hsession', Option.some.inj hput ▸ hopen, rfl⟩
  · cases hput

theorem Server.Holds.serve_keep (h : sv.Holds id buffer) (cfg : Configuration)
    (buffer' : List UInt8) : (serve cfg sv (.keep id buffer')).2.Holds id buffer' := by
  obtain ⟨session, hsession, hopen, -⟩ := h
  refine ⟨{ session with buffer := buffer' }, ?_, hopen, rfl⟩
  rw [serve, Server.serveSession, hsession]
  dsimp only
  rw [Server.getElem?_put, if_pos rfl]
  exact if_pos hopen

/-- What the loop makes of a part of a stream: the frames complete in it are dispatched, the rest
is kept and the session goes on. -/
theorem cut_stream (hframes : ∀ f ∈ frames, f.Sendable) {old : List UInt8} (hold : sv.Holds id old)
    (h : buffer ++ rest = frames.flatMap Frame.encode)
    (hkeeps : Run.Along (serve cfg) (LeavesOpen cfg id) sv (cut cfg env sv id buffer)) :
    (cut cfg env sv id buffer).filterMap Event.dispatched = complete frames buffer.length ∧
      (∀ e ∈ cut cfg env sv id buffer, e.fails = false) ∧
      (Run.final (serve cfg) sv (cut cfg env sv id buffer)).Holds id
        (buffer.drop (frameBytes (complete frames buffer.length))) := by
  induction frames generalizing buffer sv old with
  | nil =>
    obtain ⟨rfl, -⟩ := append_eq_nil_iff.1 h
    have hcut : cut cfg env sv id [] = [.keep id []] := by rw [cut]; rfl
    rw [hcut]
    exact ⟨rfl, by simp [Event.fails], hold.serve_keep cfg []⟩
  | cons f frames ih =>
    obtain ⟨hf, hframes⟩ := forall_mem_cons.1 hframes
    rw [flatMap_cons] at h
    rcases Nat.lt_or_ge buffer.length f.encode.length with hshort | hlong
    · rw [cut_short cfg hf h hshort, complete_of_lt hshort]
      exact ⟨rfl, by simp [Event.fails], hold.serve_keep cfg buffer⟩
    · -- the buffer starts with the frame
      obtain ⟨buffer, rfl⟩ : ∃ tail, buffer = f.encode ++ tail := by
        refine ⟨buffer.drop f.encode.length, ?_⟩
        have htake := congrArg (List.take f.encode.length) h
        rw [take_append_of_le_length hlong, take_left] at htake
        rw [← htake, length_take, Nat.min_eq_left hlong, take_append_drop]
      rw [append_assoc, append_cancel_left_eq] at h
      rw [cut_frame cfg hf buffer] at hkeeps ⊢
      obtain ⟨hmem, old', hold'⟩ := hold.serve_frame hkeeps.1
      rw [if_pos hmem] at hkeeps ⊢
      obtain ⟨hdispatched, hfails, hholds⟩ := ih hframes hold' h hkeeps.2
      have hcomplete : complete (f :: frames) (f.encode ++ buffer).length =
          f :: complete frames buffer.length := by
        rw [complete_of_le hlong, length_append, Nat.add_sub_cancel_left]
      rw [hcomplete, frameBytes_cons, drop_append]
      refine ⟨?_, forall_mem_cons.2 ⟨rfl, hfails⟩, ?_⟩
      · exact congrArg (f :: ·) hdispatched
      · rw [Run.final, Nat.add_sub_cancel_left, drop_of_length_le (Nat.le_add_right _ _)]
        exact hholds

end

/-! ## Chunks -/

/-- A call of `service_session` that reads a chunk. -/
structure Chunk where
  bytes : List UInt8
  nonempty : bytes ≠ []
  fits : bytes.length ≤ receiveChunk
  env : Nat → Surroundings := fun _ => {}

section

variable (cfg : Configuration) (id : UInt64)

/-- What a call makes of its chunk. -/
def feed (sv : Server) (c : Chunk) : List Event × Server :=
  (receive cfg c.env sv id (.chunk c.bytes c.nonempty c.fits),
    (serviceSession cfg c.env sv id (.chunk c.bytes c.nonempty c.fits)).2)

/-- No handler that a call runs closes the session. -/
def NoneCloses (sv : Server) (c : Chunk) : Prop :=
  Run.Along (serve cfg) (LeavesOpen cfg id) sv (feed cfg id sv c).1

variable {id} {sv : Server} (c : Chunk) {buffer : List UInt8}

theorem feed_of_holds (h : sv.Holds id buffer) :
    (feed cfg id sv c).1 =
      if maxBuffer < (buffer ++ c.bytes).length then
        [.malformed id .tooLarge (ascii "receive buffer exceeds the frame bound") (c.env 0)]
      else cut cfg c.env sv id (buffer ++ c.bytes) := by
  obtain ⟨session, hsession, -, hbuffer⟩ := h
  rw [feed, receive, hsession]
  dsimp only
  rw [hbuffer]

/-- A buffer past the bound runs no handler. -/
theorem noneCloses_of_over {c : Chunk} (h : sv.Holds id buffer)
    (hover : maxBuffer < (buffer ++ c.bytes).length) : NoneCloses cfg id sv c := by
  rw [NoneCloses, feed_of_holds cfg c h, if_pos hover]
  exact ⟨trivial, trivial⟩

/-- A buffer that holds one frame runs its handler. -/
theorem noneCloses_of_frame {c : Chunk} (hf : f.Sendable) (h : sv.Holds id buffer)
    (hbytes : buffer ++ c.bytes = f.encode)
    (hopen : LeavesOpen cfg id sv (.frame id f (c.env f.encode.length))) :
    NoneCloses cfg id sv c := by
  have hbound : ¬maxBuffer < f.encode.length := by
    have := hf.payload
    rw [f.length_encode]
    simp only [maxBuffer, frameHeaderSize, frameTrailerSize]
    omega
  rw [NoneCloses, feed_of_holds cfg c h, hbytes, if_neg hbound, ← append_nil f.encode,
    cut_frame cfg hf]
  rw [← append_nil f.encode] at hopen
  refine ⟨hopen, ?_⟩
  split
  · rw [cut]
    exact ⟨trivial, trivial⟩
  · trivial

/-- The start of a frame is kept. -/
theorem feed_short (hf : f.Sendable) (h : sv.Holds id buffer)
    (hbytes : buffer ++ c.bytes ++ rest = f.encode ++ tail)
    (hshort : (buffer ++ c.bytes).length < f.encode.length) :
    feed cfg id sv c = ([.keep id (buffer ++ c.bytes)],
      (serve cfg sv (.keep id (buffer ++ c.bytes))).2) := by
  have hbound : ¬maxBuffer < (buffer ++ c.bytes).length := by
    have := hf.payload
    rw [f.length_encode] at hshort
    simp only [maxBuffer, frameHeaderSize, frameTrailerSize]
    omega
  have hevents := feed_of_holds cfg c h
  rw [if_neg hbound, cut_short cfg hf hbytes hshort] at hevents
  refine Prod.ext hevents ?_
  change Run.final (serve cfg) sv (feed cfg id sv c).1 = _
  rw [hevents]
  rfl

/-- Chunks that do not complete a frame run no handler and are kept. -/
theorem feed_short_run (hf : f.Sendable) (chunks : List Chunk) (h : sv.Holds id buffer)
    (hbytes : buffer ++ chunks.flatMap Chunk.bytes ++ rest = f.encode ++ tail)
    (hshort : (buffer ++ chunks.flatMap Chunk.bytes).length < f.encode.length) :
    Run.Along (feed cfg id) (NoneCloses cfg id) sv chunks ∧
      (Run.final (feed cfg id) sv chunks).Holds id (buffer ++ chunks.flatMap Chunk.bytes) := by
  induction chunks generalizing sv buffer with
  | nil => exact ⟨trivial, by simpa [Run.final] using h⟩
  | cons c chunks ih =>
    simp only [flatMap_cons, ← append_assoc] at hbytes hshort ⊢
    have hfeed := feed_short cfg c hf h (by rw [append_assoc _ _ rest] at hbytes; exact hbytes)
      (by rw [length_append] at hshort; omega)
    have hnext := h.serve_keep cfg (buffer ++ c.bytes)
    rw [← congrArg Prod.snd hfeed] at hnext
    obtain ⟨halong, hfinal⟩ := ih hnext hbytes hshort
    refine ⟨⟨?_, halong⟩, hfinal⟩
    rw [NoneCloses, hfeed]
    exact ⟨trivial, trivial⟩

end

/-- No call finds more than the bound in the buffer: what has been received, without the frames
that were complete before the call. -/
def Fits (frames : List Frame) (chunks : List (List UInt8)) : Prop :=
  ∀ n < chunks.length, (chunks.take (n + 1)).flatten.length ≤
    maxBuffer + frameBytes (complete frames (chunks.take n).flatten.length)

/-- A stream no longer than the bound fits, however it is cut. -/
theorem fits_of_length_le (h : chunks.flatten.length ≤ maxBuffer) (frames : List Frame) :
    Fits frames chunks := by
  intro n _
  have hsplit := congrArg List.length (congrArg List.flatten (take_append_drop (n + 1) chunks))
  rw [flatten_append, length_append] at hsplit
  omega

theorem fits_concat (frames : List Frame) (chunks : List (List UInt8)) (c : List UInt8) :
    Fits frames (chunks ++ [c]) ↔ Fits frames chunks ∧ (chunks.flatten ++ c).length ≤
      maxBuffer + frameBytes (complete frames chunks.flatten.length) := by
  have hlast : (chunks ++ [c]).take (chunks.length + 1) = chunks ++ [c] :=
    take_of_length_le (by simp)
  constructor
  · intro h
    refine ⟨fun n hn => ?_, ?_⟩
    · have := h n (by simp; omega)
      rwa [take_append_of_le_length hn, take_append_of_le_length hn.le] at this
    · have := h chunks.length (by simp)
      rw [hlast, take_left] at this
      simpa using this
  · rintro ⟨h, hc⟩ n hn
    rw [length_append, length_singleton] at hn
    rcases Nat.lt_succ_iff_lt_or_eq.1 hn with hn | rfl
    · rw [take_append_of_le_length hn, take_append_of_le_length hn.le]
      exact h n hn
    · rw [hlast, take_left]
      simpa using hc

/-- What has been received, dispatched and kept after the calls so far. -/
structure Framing (id : UInt64) (frames : List Frame) (received : List UInt8) (events : List Event)
    (sv : Server) : Prop where
  dispatched : events.filterMap Event.dispatched = complete frames received.length
  holds : sv.Holds id (received.drop (frameBytes (complete frames received.length)))

namespace Framing

variable {cfg : Configuration} {id : UInt64} {frames : List Frame} {received : List UInt8}
  {events : List Event} {sv : Server} {c : Chunk}

/-- The length of the buffer that a call finds. -/
theorem length_buffer (frames : List Frame) (received bytes : List UInt8) :
    (received.drop (frameBytes (complete frames received.length)) ++ bytes).length +
      frameBytes (complete frames received.length) = (received ++ bytes).length := by
  have := frameBytes_complete_le frames received.length
  rw [length_append, length_append, length_drop]
  omega

theorem fits_buffer_iff (received bytes : List UInt8) :
    maxBuffer < (received.drop (frameBytes (complete frames received.length)) ++ bytes).length ↔
      ¬(received ++ bytes).length ≤ maxBuffer + frameBytes (complete frames received.length) := by
  have := length_buffer frames received bytes
  omega

/-- A chunk that fits completes further frames. -/
theorem feed (h : Framing id frames received events sv) (hframes : ∀ f ∈ frames, f.Sendable)
    (hbytes : received ++ c.bytes <+: frames.flatMap Frame.encode)
    (hkeeps : NoneCloses cfg id sv c)
    (hfits : (received ++ c.bytes).length ≤
      maxBuffer + frameBytes (complete frames received.length)) :
    (∀ e ∈ (feed cfg id sv c).1, e.fails = false) ∧
      Framing id frames (received ++ c.bytes) (events ++ (feed cfg id sv c).1)
        (feed cfg id sv c).2 := by
  obtain ⟨rest, hrest⟩ := hbytes
  have hle := frameBytes_complete_le frames received.length
  have hevents := feed_of_holds cfg c h.holds
  rw [if_neg (fun hover => (fits_buffer_iff _ _).1 hover hfits)] at hevents
  -- what is in the buffer starts with the first frame that is not complete
  have hbuffer : received.drop (frameBytes (complete frames received.length)) ++ c.bytes ++ rest =
      (frames.drop (complete frames received.length).length).flatMap Frame.encode := by
    have hdrop := congrArg (List.drop (frameBytes (complete frames received.length))) hrest
    rw [← complete_append_drop frames received.length, flatMap_append,
      complete_append_drop frames received.length, append_assoc,
      drop_append_of_le_length hle, frameBytes, drop_left, ← frameBytes] at hdrop
    rw [append_assoc, hdrop]
  rw [NoneCloses, hevents] at hkeeps
  obtain ⟨hdispatched, hfails, hholds⟩ := cut_stream
    (fun f hf => hframes f (mem_of_mem_drop hf)) h.holds hbuffer hkeeps
  have hnext := complete_add frames received.length c.bytes.length
  rw [← length_append, ← length_drop, ← length_append] at hnext
  refine ⟨hevents ▸ hfails, ?_, ?_⟩
  · rw [filterMap_append, h.dispatched, hevents, hdispatched, hnext]
  · rw [hnext, frameBytes_append, ← drop_drop, drop_append_of_le_length hle]
    change (Run.final (serve cfg) sv (CoherenceObservatory.feed cfg id sv c).1).Holds id _
    rw [hevents]
    exact hholds

/-- A chunk that does not fit fails the session. -/
theorem feed_fails (h : Framing id frames received events sv)
    (cfg : Configuration) (hover : ¬(received ++ c.bytes).length ≤
      maxBuffer + frameBytes (complete frames received.length)) :
    ∃ e ∈ (CoherenceObservatory.feed cfg id sv c).1, e.fails = true := by
  rw [feed_of_holds cfg c h.holds, if_pos ((fits_buffer_iff _ _).2 hover)]
  exact ⟨_, mem_singleton_self _, rfl⟩

end Framing

/-- What the calls so far have done. They failed the session if one of them did not fit. -/
structure Fed (id : UInt64) (frames : List Frame) (chunks : List (List UInt8)) (events : List Event)
    (sv : Server) : Prop where
  fits_iff : (∀ e ∈ events, e.fails = false) ↔ Fits frames chunks
  framing : Fits frames chunks → Framing id frames chunks.flatten events sv

theorem Fed.feed {events : List Event} {c : Chunk} (h : Fed id frames chunks events sv)
    (hframes : ∀ f ∈ frames, f.Sendable)
    (hbytes : chunks.flatten ++ c.bytes <+: frames.flatMap Frame.encode)
    (hkeeps : NoneCloses cfg id sv c) :
    Fed id frames (chunks ++ [c.bytes]) (events ++ (CoherenceObservatory.feed cfg id sv c).1)
      (CoherenceObservatory.feed cfg id sv c).2 := by
  have hflatten : (chunks ++ [c.bytes]).flatten = chunks.flatten ++ c.bytes := by simp
  by_cases hfits : Fits frames (chunks ++ [c.bytes])
  · obtain ⟨hbefore, hchunk⟩ := (fits_concat frames chunks c.bytes).1 hfits
    obtain ⟨hfails, hframing⟩ := (h.framing hbefore).feed hframes hbytes hkeeps hchunk
    refine ⟨iff_of_true ?_ hfits, fun _ => hflatten ▸ hframing⟩
    exact forall_mem_append.2 ⟨h.fits_iff.2 hbefore, hfails⟩
  · refine ⟨iff_of_false (fun hnone => ?_) hfits, fun hfits' => absurd hfits' hfits⟩
    obtain ⟨hpast, hnow⟩ := forall_mem_append.1 hnone
    have hbefore := h.fits_iff.1 hpast
    -- the earlier calls fitted, so this one did not and has failed the session
    have hover := fun hchunk => hfits ((fits_concat frames chunks c.bytes).2 ⟨hbefore, hchunk⟩)
    obtain ⟨e, he, hfailed⟩ := (h.framing hbefore).feed_fails cfg hover
    exact absurd (hnow e he) (by simp [hfailed])

section

variable (cfg : Configuration) {id : UInt64} {sv : Server} {frames : List Frame}
  {chunks : List Chunk}

theorem fed_run (hframes : ∀ f ∈ frames, f.Sendable) (hholds : sv.Holds id [])
    (hbytes : chunks.flatMap Chunk.bytes <+: frames.flatMap Frame.encode)
    (hkeeps : Run.Along (feed cfg id) (NoneCloses cfg id) sv chunks) :
    Fed id frames (chunks.map Chunk.bytes)
      ((Run.history (feed cfg id) sv chunks).flatMap Prod.snd)
      (Run.final (feed cfg id) sv chunks) := by
  have hrun := Run.history_invariant (C := NoneCloses cfg id) (l := chunks) (s := sv)
    (I := fun past sv' =>
      ((past.map Prod.fst).map Chunk.bytes).flatten <+: frames.flatMap Frame.encode →
        Fed id frames ((past.map Prod.fst).map Chunk.bytes) (past.flatMap Prod.snd) sv')
    (fun past sv' c ih hc hprefix => ?_) (fun _ => ?_) hkeeps
  · rw [Run.map_fst_history] at hrun
    exact hrun (by rwa [← flatMap_def])
  · simp only [map_append, map_cons, map_nil, flatten_append, flatten_cons,
      flatten_nil, append_nil, flatMap_append, flatMap_cons,
      flatMap_nil] at hprefix ⊢
    exact (ih ((prefix_append _ _).trans hprefix)).feed hframes hprefix hc
  · refine ⟨iff_of_true (by simp) (by simp [Fits]), fun _ => ⟨?_, ?_⟩⟩
    · exact (complete_zero frames).symm
    · simpa using hholds

/-- Fed one chunk a call, a session that no handler closes dispatches the frames of a stream once
    each and in order, and is not failed, exactly if the chunks fit. -/
theorem stream_framing_iff (frames : List Frame) (chunks : List Chunk)
    (hframes : ∀ f ∈ frames, f.Sendable) (hholds : sv.Holds id [])
    (hbytes : chunks.flatMap Chunk.bytes = frames.flatMap Frame.encode)
    (hkeeps : Run.Along (feed cfg id) (NoneCloses cfg id) sv chunks) :
    let events := (Run.history (feed cfg id) sv chunks).flatMap Prod.snd
    (events.filterMap Event.dispatched = frames ∧ ∀ e ∈ events, e.fails = false) ↔
      Fits frames (chunks.map Chunk.bytes) := by
  intro events
  have hfed := fed_run cfg hframes hholds (hbytes ▸ List.prefix_rfl) hkeeps
  refine ⟨fun h => hfed.fits_iff.1 h.2, fun hfits => ⟨?_, hfed.fits_iff.2 hfits⟩⟩
  rw [(hfed.framing hfits).dispatched, ← List.flatMap_def, hbytes]
  exact complete_frameBytes frames

end

/-- A server with a session. -/
def connectedServer : Server :=
  (serve silentConfiguration { observatory := State.initial {} 0 } (.accept none)).2

theorem connectedServer_holds : connectedServer.Holds 1 [] := by
  refine ⟨{}, ?_, rfl, rfl⟩
  have hroom : ¬(∅ : ExtTreeMap UInt64 Session).size ≥ silentConfiguration.options.maxConnections := by
    decide +kernel
  rw [connectedServer, serve, acceptConnection, if_neg hroom, getElem?_insertIfNew]
  simp

/-- A frame that arrives in two chunks. -/
theorem stream_framing_hello :
    let f := helloFrame .client
    let start : Chunk := ⟨f.encode.take 10, by decide +kernel, by decide +kernel, fun _ => {}⟩
    let rest : Chunk := ⟨f.encode.drop 10, by decide +kernel, by decide +kernel, fun _ => {}⟩
    let events :=
      (Run.history (feed silentConfiguration 1) connectedServer [start, rest]).flatMap Prod.snd
    events.filterMap Event.dispatched = [f] ∧ ∀ e ∈ events, e.fails = false := by
  intro f start rest
  have hf : f.Sendable := ⟨by decide, by decide, by decide⟩
  have hsplit : start.bytes ++ rest.bytes = f.encode := List.take_append_drop 10 _
  have hstart := feed_short silentConfiguration start hf
    connectedServer_holds (hsplit.trans (List.append_nil _).symm) (by decide +kernel)
  have hrest : NoneCloses silentConfiguration 1
      (feed silentConfiguration 1 connectedServer start).2 rest := by
    rw [hstart]
    exact noneCloses_of_frame _ hf (connectedServer_holds.serve_keep silentConfiguration _) hsplit
      fun _ => by decide +kernel
  refine (stream_framing_iff silentConfiguration [f] [start, rest]
    (by simpa using hf) connectedServer_holds ?_ ⟨?_, hrest, trivial⟩).2 ?_
  · simpa using hsplit
  · rw [NoneCloses, hstart]
    exact ⟨trivial, trivial⟩
  · exact fits_of_length_le (by decide +kernel) [f]

/-- The first chunks of a byte string, all of one size. -/
def Chunk.slices (data : List UInt8) (size : Nat) (hpos : 0 < size) (hfits : size ≤ receiveChunk) :
    (n : Nat) → n * size ≤ data.length → List Chunk
  | 0, _ => []
  | n + 1, h =>
    have hn : n * size + size ≤ data.length := Nat.succ_mul n size ▸ h
    slices data size hpos hfits n (by omega) ++
      [⟨(data.drop (n * size)).take size,
        fun hnil => by
          have := congrArg List.length hnil
          simp only [length_take, length_drop, length_nil] at this
          omega,
        (length_take_le _ _).trans hfits, fun _ => {}⟩]

theorem Chunk.flatMap_slices (data : List UInt8) (size : Nat) (hpos : 0 < size)
    (hfits : size ≤ receiveChunk) (n : Nat) (h : n * size ≤ data.length) :
    (slices data size hpos hfits n h).flatMap Chunk.bytes = data.take (n * size) := by
  induction n with
  | zero => simp [slices]
  | succ n ih => rw [slices, flatMap_append, ih, Nat.succ_mul, take_add]; simp

/-- A frame of the largest size fills 64 chunks but for its end. If that arrives with the next frame,
the session is failed. -/
theorem pipelined_fails (hholds : sv.Holds id []) {g : Frame} (hf : f.Sendable)
    (hlargest : f.payload.length = maxFramePayload)
    (hsmall : f.encode.length + g.encode.length ≤ 65 * receiveChunk) :
    ∃ chunks : List Chunk,
      chunks.flatMap Chunk.bytes = [f, g].flatMap Frame.encode ∧
      Run.Along (feed cfg id) (NoneCloses cfg id) sv chunks ∧
      ∃ e ∈ (Run.history (feed cfg id) sv chunks).flatMap Prod.snd, e.fails = true := by
  have hlength : f.encode.length = 64 * receiveChunk + 36 := by
    rw [f.length_encode, hlargest]
    simp only [maxFramePayload, receiveChunk]
  have hbound : maxBuffer = f.encode.length := by
    rw [f.length_encode, hlargest]
    simp only [maxBuffer, maxFramePayload, frameHeaderSize, frameTrailerSize]
  have hpositive := g.length_encode
  have hslices := Chunk.flatMap_slices f.encode receiveChunk (by decide) (Nat.le_refl _) 64 (by omega)
  generalize Chunk.slices f.encode receiveChunk _ _ 64 _ = slices at hslices
  have hrest : (f.encode.drop (64 * receiveChunk) ++ g.encode).length = 36 + g.encode.length := by
    rw [length_append, length_drop]
    omega
  let last : Chunk := ⟨f.encode.drop (64 * receiveChunk) ++ g.encode,
    ne_nil_of_length_pos (by omega), by omega, fun _ => {}⟩
  have hbytes : slices.flatMap Chunk.bytes ++ last.bytes = f.encode ++ g.encode := by
    rw [hslices, ← append_assoc, take_append_drop]
  obtain ⟨halong, hheld⟩ := feed_short_run cfg hf slices hholds
    (by rw [nil_append]; exact hbytes)
    (by rw [nil_append, hslices, length_take]; omega)
  rw [nil_append] at hheld
  have hover : maxBuffer < (slices.flatMap Chunk.bytes ++ last.bytes).length := by
    rw [hbytes, length_append]
    omega
  refine ⟨slices ++ [last], ?_, ?_, ?_⟩
  · rw [flatMap_append, flatMap_singleton, hbytes]
    simp
  · exact (Run.along_append _ _ _).2 ⟨halong, noneCloses_of_over _ hheld hover, trivial⟩
  · have hevents := feed_of_holds cfg last hheld
    rw [if_pos hover] at hevents
    rw [Run.history_append, flatMap_append]
    refine ⟨.malformed id .tooLarge (ascii "receive buffer exceeds the frame bound") {}, ?_, rfl⟩
    exact mem_append_right _ (by simp [Run.history, hevents, last])

/-- A server whose session has said hello as a publisher. -/
def publishingServer : Server :=
  (serve silentConfiguration connectedServer (.frame 1 (helloFrame .publisher) {})).2

/-- A publisher's batch of the largest size, and a second one behind it. -/
theorem largestFrame_pipelined :
    let f : Frame := { type := .PublishBatch, payload := List.replicate maxFramePayload 0 }
    let g : Frame := { type := .PublishBatch, payload := List.replicate 16000 0 }
    f.Sendable ∧ g.Sendable ∧ publishingServer.Holds 1 [] ∧
      publishingServer.GreetedAs 1 .publisher ∧ ∃ chunks : List Chunk,
      chunks.flatMap Chunk.bytes = [f, g].flatMap Frame.encode ∧
      Run.Along (feed silentConfiguration 1) (NoneCloses silentConfiguration 1) publishingServer
        chunks ∧
      ∃ e ∈ (Run.history (feed silentConfiguration 1) publishingServer chunks).flatMap Prod.snd,
        e.fails = true := by
  intro f g
  have hlargest : f.payload.length = maxFramePayload := List.length_replicate ..
  have hlength : g.payload.length = 16000 := List.length_replicate ..
  have hf : f.Sendable := ⟨by decide, by decide, hlargest.le⟩
  have hg : g.Sendable := ⟨by decide, by decide, hlength.trans_le (by decide)⟩
  obtain ⟨session, hsession, hopen, hbuffer, hgreeted, hrole⟩ : ∃ session,
      publishingServer.sessions[(1 : UInt64)]? = some session ∧ session.isOpen = true ∧
        session.buffer = [] ∧ session.helloDone = true ∧ session.role = .publisher :=
    ⟨_, rfl, by decide +kernel, by decide +kernel, by decide +kernel, by decide +kernel⟩
  have hholds : publishingServer.Holds 1 [] := ⟨session, hsession, hopen, hbuffer⟩
  refine ⟨hf, hg, hholds, fun session' hsession' => ?_, pipelined_fails hholds hf hlargest ?_⟩
  · rw [← Option.some.inj (hsession.symm.trans hsession')]
    exact ⟨hgreeted, hrole⟩
  · rw [f.length_encode, g.length_encode, hlargest, hlength]
    decide

end CoherenceObservatory
