import CoherenceObservatory.Protocol.Server

/-!
# What a frame does

Seen from the observatory, a frame is a list of operations (`requests`), of which a session that
has not been greeted, or whose role does not allow the frame, is granted none.
-/

namespace CoherenceObservatory

open Codec PayloadReader

/-! ## Requests -/

section

variable {α : Type}

/-- What `r` reads from the cursor on, if no byte is left over. -/
def wholly (r : PayloadReader α) (c : Cursor) : List α :=
  match r c with
  | (.ok x, c) => if c.exhausted then [x] else []
  | (.error _, _) => []

/-- What `r` reads from the cursor on. -/
def partly (r : PayloadReader α) (c : Cursor) : List α :=
  match r c with
  | (.ok x, _) => [x]
  | (.error _, _) => []

/-- The observations of a `PUBLISH_BATCH`. -/
def readBatch (payload : List UInt8) : List (List Observation) :=
  match u32 ⟨payload, 0⟩ with
  | (.error _, _) => []
  | (.ok count, c) =>
    if count = 0 ∨ count.toNat > Limits.maxBatchEvents then []
    else wholly (Reader.many Wire.readObservation count.toNat) c

/-- The steps of a batch: those of its elements are taken if it is admitted. -/
def batchActions (s : State) (clock : Nat → Nanos) (os : List Observation) : List Action :=
  .admitBatch os.length ::
    match (admitBatch s os.length).1 with
    | .ok () => ingestActions clock os ++ [.finishBatch os.length]
    | .error _ => []

/-- The step of a `FENCE`: the boot that is bound, if any. -/
def fenceActions (s : State) (now : Nanos) : Text × UInt8 × Text → List Action
  | (publisher, reason, detail) =>
    match FenceReason.ofRaw reason, validateIdentityToken publisher, s.publishers[publisher]? with
    | some reason, .ok (), some p => [.fencePublisherBoot publisher p.view.boot reason detail now]
    | _, _, _ => []

/-- The step of a `RETIRE_REGION`. -/
def retireActions (now : Nanos) : Text × UInt64 × Text → List Action
  | (region, generation, reason) =>
    match validateIdentityToken region with
    | .ok () => [.retireRegion region generation reason now]
    | .error _ => []

/-- The step of a `REGISTER_RESOURCE`, taken whether or not bytes are left over. -/
def resourceActions (now : Nanos) (payload : List UInt8) : List Action :=
  match u8 ⟨payload, 0⟩ with
  | (.error _, _) => []
  | (.ok kind, c) =>
    if kind = ResourceKind.Node.raw then (partly Wire.readNode c).map (.registerNode · now)
    else if kind = ResourceKind.Processor.raw then
      (partly Wire.readProcessor c).map (.registerProcessor · now)
    else if kind = ResourceKind.Accelerator.raw then
      (partly Wire.readAccelerator c).map (.registerAccelerator · now)
    else if kind = ResourceKind.MemoryDomain.raw then
      (partly Wire.readMemoryDomain c).map (.registerMemoryDomain · now)
    else if kind = ResourceKind.CoherenceDomain.raw then
      (partly Wire.readCoherenceDomain c).map (.registerCoherenceDomain · now)
    else []

/-- The steps a message asks the observatory for. -/
def requests (env : Surroundings) (s : State) (type : MessageType) (payload : List UInt8) :
    List Action :=
  let c : Cursor := ⟨payload, 0⟩
  let now := env.clock 1
  if type = .RegisterPublisher then
    (wholly Wire.readPublisherRegistration c).map (.registerPublisher · env.clock)
  else if type = .PublishEvent then (wholly Wire.readObservation c).map (.ingest · now)
  else if type = .PublishBatch then (readBatch payload).flatMap (batchActions s env.clock)
  else if type = .PublishCounter then
    (wholly Wire.readCounterPublication c).map (.ingestCounter · now)
  else if type = .QuerySnapshot then (wholly u8 c).map fun _ => .snapshot
  else if type = .RegisterResource then resourceActions now payload
  else if type = .RegisterRegion then (wholly Wire.readRegion c).map (.registerRegion · now)
  else if type = .RegisterCoherenceDomain then
    (wholly Wire.readCoherenceDomain c).map (.registerCoherenceDomain · now)
  else if type = .SetTopologyLink then (wholly Wire.readTopologyLink c).map .setTopologyLink
  else if type = .Fence then (wholly readFence c).flatMap (fenceActions s now)
  else if type = .BumpTopology then
    (wholly (text Limits.maxRegionAnnotationLength) c).map
      (.bumpTopologyGeneration · now)
  else if type = .RetireRegion then (wholly readRetirement c).flatMap (retireActions now)
  else []

/-- The steps a frame is granted. -/
def granted (env : Surroundings) (t : Turn) (f : Frame) : List Action :=
  if t.session.helloDone = true ∧ roleMaySend t.session.role f.type = true then
    requests env t.observatory f.type f.payload
  else []

end

variable {clock : Nat → Nanos} {os : List Observation} {a : Action}

theorem mem_ingestActions (h : a ∈ ingestActions clock os) :
    ∃ o ∈ os, ∃ now, a = .ingest o now := by
  induction os with
  | nil => simp [ingestActions] at h
  | cons o os ih =>
    obtain rfl | h := List.mem_cons.1 h
    · exact ⟨o, List.mem_cons_self, _, rfl⟩
    · obtain ⟨o', ho', h'⟩ := ih h
      exact ⟨o', List.mem_cons_of_mem _ ho', h'⟩

theorem mem_batchActions {s : State} (h : a ∈ batchActions s clock os) :
    a = .admitBatch os.length ∨ (∃ o ∈ os, ∃ now, a = .ingest o now) ∨
      a = .finishBatch os.length := by
  obtain h | h := List.mem_cons.1 h
  · exact .inl h
  split at h
  · obtain h | h := List.mem_append.1 h
    · exact .inr (.inl (mem_ingestActions h))
    · exact .inr (.inr (List.mem_singleton.1 h))
  · simp at h

theorem final_batchActions (s : State) (clock : Nat → Nanos) (os : List Observation) :
    Run.final act s (batchActions s clock os) = (ingestBatch s os clock).2 := by
  unfold batchActions ingestBatch
  rw [Run.final, act]
  cases h : admitBatch s os.length with
  | mk status s₁ =>
    cases status with
    | error e => rfl
    | ok u =>
      obtain ⟨-, hfinal⟩ := ingestEach_run clock os s₁
      dsimp only [Prod.map, id]
      rw [Run.final_append, hfinal]
      rfl

/-! ## Handlers -/

def Session.close (session : Session) : Session :=
  { session with publisherRegistered := false, isOpen := false }

/-- The session remembers a registration. -/
def Session.remember (session : Session) (id : PublisherId) (boot : PublisherBootId) : Session :=
  { session with publisherRegistered := true, publisherId := id, publisherBoot := boot }

/-- The observatory when a session ends: the boot it remembers is fenced. -/
def Session.leave (session : Session) (s : State) (now : Nanos) : State :=
  if session.publisherRegistered then
    (fencePublisherBoot s session.publisherId session.publisherBoot .connectionClosed
      (Turn.closeDetail session.peer) now).2
  else s

theorem Turn.observatory_closeSession (t : Turn) (now : Nanos) :
    (t.closeSession now).observatory = t.session.leave t.observatory now := rfl

theorem Turn.observatory_failSession (t : Turn) (env : Surroundings) (code : ErrorCode)
    (detail : Text) : (t.failSession env code detail).observatory =
      t.session.leave t.observatory (env.clock 0) := rfl

/-- The registrations of `handle_register_resource`. -/
def Action.isResource : Action → Bool
  | .registerNode .. | .registerProcessor .. | .registerAccelerator .. | .registerMemoryDomain ..
  | .registerCoherenceDomain .. => true
  | _ => false

/-- What may become of the turn of a frame that is granted some steps. -/
inductive Handled (env : Surroundings) (t : Turn) (f : Frame) (actions : List Action) (t' : Turn) :
    Prop
  | answered (observatory_eq : t'.observatory = Run.final act t.observatory actions)
      (session_eq : t'.session = { t.session with buffer := t'.session.buffer })
      (registered_eq : ∀ h ∈ Run.history act t.observatory actions, registered h.1 h.2 = none)
  | registered (r : PublisherRegistration) (actions_eq : actions = [.registerPublisher r env.clock])
      (registered_eq : registered (.registerPublisher r env.clock)
        (act t.observatory (.registerPublisher r env.clock)).1 = some (r.id, r.boot))
      (observatory_eq : t'.observatory = Run.final act t.observatory actions)
      (session_eq : t'.session = t.session.remember r.id r.boot)
  | greeted (role : ClientRole) (actions_eq : actions = []) (new : t.session.helloDone = false)
      (observatory_eq : t'.observatory = t.observatory)
      (session_eq : t'.session = { t.session with role, helloDone := true })
  | failed (observatory_eq : t'.observatory =
        t.session.leave (Run.final act t.observatory actions) (env.clock 0))
      (session_eq : t'.session = t.session.close)
      (refused : actions = [] ∨
        f.type = .RegisterResource ∧ ∃ a, actions = [a] ∧ a.isResource = true)

namespace Handled

variable {env : Surroundings} {t t' : Turn} {f : Frame} {actions : List Action} {α : Type}

theorem registered_of_isResource (h : a.isResource = true) (answer : Answer) :
    CoherenceObservatory.registered a answer = none := by
  cases a <;> simp_all [Action.isResource, CoherenceObservatory.registered]

theorem fail (code : ErrorCode) (detail : Text) :
    Handled env t f [] (t.failSession env code detail) := by
  refine .failed ?_ rfl (.inl rfl)
  rw [Turn.observatory_failSession, Run.final]

theorem failError (e : Error) : Handled env t f [] (t.failWithError env e) := fail _ _

variable {r : PayloadReader α} {c : Cursor} {message : String} {k : α → Turn} {g : α → List Action}
  {payload : List UInt8}

theorem decodeWhole (h : ∀ x, Handled env t f (g x) (k x)) :
    Handled env t f ((wholly r c).flatMap g) (t.decodeWhole env c r message k) := by
  unfold Turn.decodeWhole wholly
  cases r c with
  | mk result c' =>
    cases result with
    | error e => exact failError e
    | ok x =>
      by_cases hend : c'.exhausted = true
      · simpa [hend] using h x
      · simpa [hend] using fail _ _

theorem decode (h : ∀ x, Handled env t f (g x) (k x)) :
    Handled env t f ((wholly r ⟨payload, 0⟩).flatMap g) (t.decode env payload r.whole k) := by
  unfold Turn.decode wholly Reader.run whole
  rw [Reader.bind_apply]
  cases r ⟨payload, 0⟩ with
  | mk result c' =>
    cases result with
    | error e => exact failError e
    | ok x =>
      by_cases hend : c'.exhausted = true
      · simpa [Reader.bind_apply, requireExhausted, Reader.requireExhausted, hend,
          Reader.pure_apply] using h x
      · simpa [Reader.bind_apply, requireExhausted, Reader.requireExhausted, hend]
          using failError _

/-- A payload that is read and asks for nothing. -/
theorem decodeIdle (h : ∀ x, Handled env t f [] (k x)) :
    Handled env t f [] (t.decode env payload r.whole k) := by
  have hidle : Handled env t f _ (t.decode env payload r.whole k) := decode (g := fun _ => []) h
  rwa [List.flatMap_eq_nil_iff.2 fun _ _ => rfl] at hidle

/-- One step that registers no publisher, answered. -/
theorem one (hregistered : ∀ answer, CoherenceObservatory.registered a answer = none)
    (hobservatory : t'.observatory = (act t.observatory a).2) (hsession : t'.session = t.session) :
    Handled env t f [a] t' :=
  .answered hobservatory (by rw [hsession]) (by simpa [Run.history] using hregistered _)

/-- Nothing is granted, and the answer leaves the session alone. -/
theorem none (hobservatory : t'.observatory = t.observatory) (hsession : t'.session = t.session) :
    Handled env t f [] t' :=
  .answered hobservatory (by rw [hsession]) (by simp [Run.history])

/-- A record that is registered by one step once it was read. -/
theorem registerWhole {done : String} {register : State → α → Status × State} {a : α → Action}
    (hact : ∀ s x, (act s (a x)).2 = (register s x).2)
    (hregistered : ∀ x answer, CoherenceObservatory.registered (a x) answer = Option.none) :
    Handled env t f ((wholly r ⟨f.payload, 0⟩).map a)
      (CoherenceObservatory.registerWhole env t f r message register done) := by
  rw [List.map_eq_flatMap]
  refine decodeWhole fun x => one (hregistered x) ?_ ?_ <;> dsimp only [Turn.sendStatus]
  · rw [hact]
    split <;> rfl
  · split <;> rfl

/-- A record that is registered before the rest of the payload is looked at. -/
theorem registerRead {register : State → α → Nanos → Status × State} {a : α → Action}
    (hact : ∀ s x, (act s (a x)).2 = (register s x (env.clock 1)).2)
    (hresource : ∀ x, (a x).isResource = true) (htype : f.type = .RegisterResource) :
    Handled env t f ((partly r c).map a)
      (CoherenceObservatory.registerRead env t c r register) := by
  unfold CoherenceObservatory.registerRead partly
  cases r c with
  | mk result c' =>
    cases result with
    | error e => exact failError e
    | ok x =>
      have hquiet : ∀ h ∈ Run.history act t.observatory [a x],
          CoherenceObservatory.registered h.1 h.2 = Option.none := by
        simpa [Run.history] using registered_of_isResource (hresource x) _
      have hfinal : Run.final act t.observatory [a x] = (register t.observatory x (env.clock 1)).2 :=
        hact _ _
      dsimp only [List.map]
      split
      · refine .failed ?_ rfl (.inr ⟨htype, a x, rfl, hresource x⟩)
        rw [Turn.observatory_failSession, hfinal]
      · refine .answered ?_ ?_ hquiet <;> dsimp only [Turn.sendStatus]
        · rw [hfinal]
          split <;> rfl
        · split <;> rfl

end Handled

section

variable (cfg : Configuration) (env : Surroundings) (t : Turn) (f : Frame)

theorem handleHello_handled : Handled env t f [] (handleHello cfg env t f) := by
  refine .decodeIdle fun (version, role, name) => ?_
  dsimp only
  split
  · exact .fail _ _
  split
  · exact .fail _ _
  next role _ =>
  split
  · exact .fail _ _
  next hnew => exact .greeted role rfl (by simpa using hnew) rfl rfl

theorem handleHeartbeat_handled : Handled env t f [] (handleHeartbeat env t f) := by
  unfold handleHeartbeat
  split
  · exact .fail _ _
  · exact .none rfl rfl

theorem handleRegisterPublisher_handled :
    Handled env t f ((wholly Wire.readPublisherRegistration ⟨f.payload, 0⟩).map
      (.registerPublisher · env.clock)) (handleRegisterPublisher env t f) := by
  rw [List.map_eq_flatMap]
  refine .decodeWhole fun r => ?_
  dsimp only
  obtain ⟨e, h⟩ | ⟨s', -, -, -, ⟨e, -, h⟩ | ⟨-, h⟩⟩ :=
    registerPublisher_cases t.observatory r env.clock
  · rw [h]
    exact .answered (by rw [Run.final, act, h]; rfl) rfl (by simp [Run.history, act, h, registered])
  · rw [h]
    exact .answered (by rw [Run.final, act, h]; rfl) rfl (by simp [Run.history, act, h, registered])
  · rw [h]
    obtain ⟨hid, hboot⟩ := boundPublisher_view (s'.publishers[r.id]?.getD {}) r
      s'.coordinatorEpoch (keptWatermark s' r) (env.clock 1)
    refine .registered r rfl ?_ ?_ ?_
    · simp only [act, h]
      rfl
    · simp only [Run.final, act, h]
      rfl
    · exact congrArg₂ t.session.remember hid hboot

theorem handlePublishEvent_handled :
    Handled env t f ((wholly Wire.readObservation ⟨f.payload, 0⟩).map (.ingest · (env.clock 1)))
      (handlePublishEvent env t f) := by
  rw [List.map_eq_flatMap]
  exact .decodeWhole fun o => .one (fun _ => rfl) rfl rfl

theorem handlePublishCounter_handled :
    Handled env t f ((wholly Wire.readCounterPublication ⟨f.payload, 0⟩).map
      (.ingestCounter · (env.clock 1))) (handlePublishCounter env t f) := by
  rw [List.map_eq_flatMap]
  refine .decodeWhole fun c => .one (fun _ => rfl) ?_ ?_ <;> dsimp only [sendCounter]
  · split <;> rfl
  · split <;> rfl

theorem sendWritten_observatory (t : Turn) (type : MessageType) (w : Wire.Written)
    (failure : String) : (sendWritten t type w failure).observatory = t.observatory ∧
      (sendWritten t type w failure).session = t.session := by
  unfold sendWritten
  split <;> exact ⟨rfl, rfl⟩

theorem handleQuerySnapshot_handled :
    Handled env t f ((wholly u8 ⟨f.payload, 0⟩).map fun _ => .snapshot)
      (handleQuerySnapshot cfg env t f) := by
  rw [List.map_eq_flatMap]
  refine .decode fun flags => .one (fun _ => rfl) ?_ ?_
  · exact (sendWritten_observatory _ _ _ _).1
  · exact (sendWritten_observatory _ _ _ _).2

theorem handlePublishBatch_handled :
    Handled env t f ((readBatch f.payload).flatMap (batchActions t.observatory env.clock))
      (handlePublishBatch env t f) := by
  unfold handlePublishBatch readBatch
  cases u32 ⟨f.payload, 0⟩ with
  | mk result c =>
    cases result with
    | error e => exact .failError e
    | ok count =>
      dsimp only
      split
      · exact .fail _ _
      refine .decodeWhole fun os => .answered ?_ ?_ ?_
      · rw [final_batchActions]
        dsimp only [sendBatch]
        split <;> rfl
      · dsimp only [sendBatch]
        split <;> rfl
      · intro h hh
        obtain ha | ⟨o, -, now, ha⟩ | ha := mem_batchActions (Run.mem_of_mem_history hh) <;>
          rw [ha] <;> rfl

theorem handleQueryFindings_handled : Handled env t f [] (handleQueryFindings cfg env t f) := by
  refine .decodeIdle fun flags => .none ?_ ?_
  · exact (sendWritten_observatory _ _ _ _).1
  · exact (sendWritten_observatory _ _ _ _).2

theorem handleQueryAttribution_handled :
    Handled env t f [] (handleQueryAttribution cfg env t f) := by
  refine .decodeIdle fun region => ?_
  split
  · exact .none rfl rfl
  · exact .none rfl rfl

theorem handleRegisterResource_handled (htype : f.type = .RegisterResource) :
    Handled env t f (resourceActions (env.clock 1) f.payload) (handleRegisterResource env t f) := by
  unfold handleRegisterResource resourceActions
  cases u8 ⟨f.payload, 0⟩ with
  | mk result c =>
    cases result with
    | error e => exact .failError e
    | ok kind =>
      dsimp only
      iterate 5
        split
        · exact .registerRead (fun _ _ => rfl) (fun _ => rfl) htype
      split
      · exact .fail _ _
      · exact .fail _ _

theorem handleFence_handled :
    Handled env t f ((wholly readFence ⟨f.payload, 0⟩).flatMap
      (fenceActions t.observatory (env.clock 1))) (handleFence env t f) := by
  refine .decode fun (publisher, reason, detail) => ?_
  dsimp only [fenceActions]
  cases FenceReason.ofRaw reason with
  | none => exact .fail _ _
  | some reason =>
    cases validateIdentityToken publisher with
    | error e => exact .none rfl rfl
    | ok u =>
      dsimp only [fencePublisher]
      cases t.observatory.publishers[publisher]? with
      | none => exact .none rfl rfl
      | some p =>
        refine .one (fun _ => rfl) ?_ ?_ <;> dsimp only [Turn.sendStatus]
        · split <;> rfl
        · split <;> rfl

theorem handleBumpTopology_handled :
    Handled env t f ((wholly (text Limits.maxRegionAnnotationLength) ⟨f.payload, 0⟩).map
      (.bumpTopologyGeneration · (env.clock 1))) (handleBumpTopology env t f) := by
  rw [List.map_eq_flatMap]
  refine .decode fun reason => .one (fun _ => rfl) ?_ ?_ <;> dsimp only [Turn.sendStatus]
  · split <;> rfl
  · split <;> rfl

theorem handleRetireRegion_handled :
    Handled env t f ((wholly readRetirement ⟨f.payload, 0⟩).flatMap (retireActions (env.clock 1)))
      (handleRetireRegion env t f) := by
  refine .decode fun (region, generation, reason) => ?_
  dsimp only [retireActions]
  cases validateIdentityToken region with
  | error e => exact .none rfl rfl
  | ok u =>
    refine .one (fun _ => rfl) ?_ ?_ <;> dsimp only [Turn.sendStatus]
    · split <;> rfl
    · split <;> rfl

theorem handleSaveState_handled : Handled env t f [] (handleSaveState cfg env t f) := by
  unfold handleSaveState
  split
  · exact .fail _ _
  split
  · exact .none rfl rfl
  split
  · exact .none rfl rfl
  · exact .none rfl rfl

/-- A frame that reaches the handlers. -/
theorem handler_handled :
    Handled env t f (requests env t.observatory f.type f.payload)
      (match handler cfg env f.type with
      | some handle => handle t f
      | none => t.failSession env .unknownMessageType (ascii "unhandled message type")) := by
  by_cases h0 : f.type = .Heartbeat
  · rw [h0]
    exact handleHeartbeat_handled env t f
  by_cases h1 : f.type = .RegisterPublisher
  · rw [h1]
    exact handleRegisterPublisher_handled env t f
  by_cases h2 : f.type = .PublishEvent
  · rw [h2]
    exact handlePublishEvent_handled env t f
  by_cases h3 : f.type = .PublishBatch
  · rw [h3]
    exact handlePublishBatch_handled env t f
  by_cases h4 : f.type = .PublishCounter
  · rw [h4]
    exact handlePublishCounter_handled env t f
  by_cases h5 : f.type = .QuerySnapshot
  · rw [h5]
    exact handleQuerySnapshot_handled cfg env t f
  by_cases h6 : f.type = .QueryFindings
  · rw [h6]
    exact handleQueryFindings_handled cfg env t f
  by_cases h7 : f.type = .QueryAttribution
  · rw [h7]
    exact handleQueryAttribution_handled cfg env t f
  by_cases h8 : f.type = .RegisterResource
  · rw [h8]
    exact handleRegisterResource_handled env t f h8
  by_cases h9 : f.type = .RegisterRegion
  · rw [h9]
    exact .registerWhole (fun _ _ => rfl) fun _ _ => rfl
  by_cases h10 : f.type = .RegisterCoherenceDomain
  · rw [h10]
    exact .registerWhole (fun _ _ => rfl) fun _ _ => rfl
  by_cases h11 : f.type = .SetTopologyLink
  · rw [h11]
    exact .registerWhole (fun _ _ => rfl) fun _ _ => rfl
  by_cases h12 : f.type = .Fence
  · rw [h12]
    exact handleFence_handled env t f
  by_cases h13 : f.type = .SaveState
  · rw [h13]
    exact handleSaveState_handled cfg env t f
  by_cases h14 : f.type = .BumpTopology
  · rw [h14]
    exact handleBumpTopology_handled env t f
  by_cases h15 : f.type = .RetireRegion
  · rw [h15]
    exact handleRetireRegion_handled env t f
  -- a type without a handler ends the session
  rw [show handler cfg env f.type = none by simp [handler, *],
    show requests env t.observatory f.type f.payload = [] by simp [requests, *]]
  exact .fail _ _

/-- Dispatching a frame performs the steps it is granted and answers, or remembers a
registration, or greets, or ends the session. -/
theorem dispatch_handled : Handled env t f (granted env t f) (dispatch cfg env t f) := by
  unfold dispatch granted
  by_cases hhello : f.type = .Hello
  · rw [if_pos hhello, hhello, show requests env t.observatory .Hello f.payload = [] from rfl,
      ite_self]
    exact handleHello_handled cfg env t f
  rw [if_neg hhello]
  by_cases hgreeted : t.session.helloDone = true
  · rw [if_neg (not_not.2 hgreeted)]
    by_cases hrole : roleMaySend t.session.role f.type = true
    · rw [if_neg (not_not.2 hrole), if_pos ⟨hgreeted, hrole⟩]
      exact handler_handled cfg env t f
    · rw [if_pos hrole, if_neg fun h => hrole h.2]
      exact .fail _ _
  · rw [if_pos hgreeted, if_neg fun h => hgreeted h.1]
    exact .fail _ _

end

end CoherenceObservatory
