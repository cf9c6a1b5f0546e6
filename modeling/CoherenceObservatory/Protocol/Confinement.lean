import CoherenceObservatory.Lib.Table
import CoherenceObservatory.Protocol.Handling

/-!
# What a role confines a session to

Which message a step of the observatory can come from (`mem_requests`) and which role may send
it decide what the frames of a session can do.
-/

namespace CoherenceObservatory

open List

/-! ## Messages -/

/-- The messages a step can be asked for with. -/
def Action.messages : Action → List MessageType
  | .registerNode .. | .registerProcessor .. | .registerAccelerator .. | .registerMemoryDomain .. =>
    [.RegisterResource]
  | .registerCoherenceDomain .. => [.RegisterResource, .RegisterCoherenceDomain]
  | .registerRegion .. => [.RegisterRegion]
  | .retireRegion .. => [.RetireRegion]
  | .setTopologyLink .. => [.SetTopologyLink]
  | .bumpTopologyGeneration .. => [.BumpTopology]
  | .registerPublisher .. => [.RegisterPublisher]
  | .fencePublisherBoot .. => [.Fence]
  | .ingest .. => [.PublishEvent, .PublishBatch]
  | .admitBatch .. | .finishBatch .. => [.PublishBatch]
  | .ingestCounter .. => [.PublishCounter]
  | .snapshot => [.QuerySnapshot]
  | .setCapability .. | .setCostModel .. | .reconcile .. | .save .. | .load .. => []

variable {env : Surroundings} {a : Action} {t : Turn} {cfg : Configuration} {e : Event}
  {sv : Server} {actions : List Action}

section

variable {α : Type} {l : List α} {g : α → Action} {a : Action} {type : MessageType}

theorem mem_messages_of_map (hg : ∀ x, type ∈ (g x).messages) (h : a ∈ l.map g) :
    type ∈ a.messages := by
  obtain ⟨x, -, rfl⟩ := mem_map.1 h
  exact hg x

variable {now : Nanos} {payload : List UInt8} {s : State}

theorem mem_resourceActions (h : a ∈ resourceActions now payload) :
    .RegisterResource ∈ a.messages := by
  unfold resourceActions at h
  split at h
  · simp at h
  repeat
    split at h
    · exact mem_messages_of_map (fun _ => mem_cons_self) h
  simp at h

theorem mem_fenceActions {x : Text × UInt8 × Text} (h : a ∈ fenceActions s now x) :
    .Fence ∈ a.messages := by
  obtain ⟨publisher, reason, detail⟩ := x
  dsimp only [fenceActions] at h
  split at h
  · obtain rfl := mem_singleton.1 h
    exact mem_cons_self
  · simp at h

theorem mem_retireActions {x : Text × UInt64 × Text} (h : a ∈ retireActions now x) :
    .RetireRegion ∈ a.messages := by
  obtain ⟨region, generation, reason⟩ := x
  dsimp only [retireActions] at h
  split at h
  · obtain rfl := mem_singleton.1 h
    exact mem_cons_self
  · simp at h

/-- One link of the chain that looks for the message. -/
theorem mem_messages_of_link {type' : MessageType} {l l' : List Action}
    (hl : a ∈ l → type' ∈ a.messages) (hl' : a ∈ l' → type ∈ a.messages)
    (h : a ∈ if type = type' then l else l') : type ∈ a.messages := by
  split at h
  next htype => exact htype ▸ hl h
  · exact hl' h

/-- A step comes from a message that may ask for it. -/
theorem mem_requests (h : a ∈ requests env s type payload) : type ∈ a.messages := by
  revert h
  -- a link for each message, in the order of `requests`
  refine mem_messages_of_link (mem_messages_of_map fun _ => mem_cons_self) <|
    mem_messages_of_link (mem_messages_of_map fun _ => mem_cons_self) <|
    mem_messages_of_link (fun h => ?batch) <|
    mem_messages_of_link (mem_messages_of_map fun _ => mem_cons_self) <|
    mem_messages_of_link (mem_messages_of_map fun _ => mem_cons_self) <|
    mem_messages_of_link mem_resourceActions <|
    mem_messages_of_link (mem_messages_of_map fun _ => mem_cons_self) <|
    mem_messages_of_link (mem_messages_of_map fun _ => mem_cons_of_mem _ mem_cons_self) <|
    mem_messages_of_link (mem_messages_of_map fun _ => mem_cons_self) <|
    mem_messages_of_link (fun h => ?fence) <|
    mem_messages_of_link (mem_messages_of_map fun _ => mem_cons_self) <|
    mem_messages_of_link (fun h => ?retire) fun h => absurd h not_mem_nil
  case batch =>
    obtain ⟨os, -, h⟩ := mem_flatMap.1 h
    obtain rfl | ⟨o, -, now, rfl⟩ | rfl := mem_batchActions h
    · exact mem_cons_self
    · exact mem_cons_of_mem _ mem_cons_self
    · exact mem_cons_self
  case fence =>
    obtain ⟨x, -, h⟩ := mem_flatMap.1 h
    exact mem_fenceActions h
  case retire =>
    obtain ⟨x, -, h⟩ := mem_flatMap.1 h
    exact mem_retireActions h

end

/-! ## Roles -/

section

variable {env : Surroundings} {t : Turn} {f : Frame} {a : Action}

/-- A step is granted to a session that was greeted, for a message its role may send. -/
theorem mem_granted (h : a ∈ granted env t f) : t.session.helloDone = true ∧
    roleMaySend t.session.role f.type = true ∧ f.type ∈ a.messages := by
  unfold granted at h
  split at h
  next hmay => exact ⟨hmay.1, hmay.2, mem_requests h⟩
  · simp at h

/-- All a client is granted is a snapshot. -/
theorem granted_client (hrole : t.session.role = .client) (h : a ∈ granted env t f) :
    a = .snapshot := by
  obtain ⟨-, hmay, htype⟩ := mem_granted h
  rw [hrole] at hmay
  generalize f.type = type at *
  cases a <;> simp only [Action.messages, mem_cons, not_mem_nil, or_false] at htype
  all_goals first
    | rfl
    | (rcases htype with rfl | rfl <;> exact absurd hmay (by decide))

/-- A publisher is granted no step that describes the system. -/
theorem granted_publisher (hrole : t.session.role = .publisher) (h : a ∈ granted env t f) :
    a.describes = false := by
  obtain ⟨-, hmay, htype⟩ := mem_granted h
  rw [hrole] at hmay
  generalize f.type = type at *
  cases a <;> simp only [Action.messages, mem_cons, not_mem_nil, or_false] at htype
  all_goals first
    | rfl
    | (rcases htype with rfl | rfl <;> exact absurd hmay (by decide))

/-- A registration is granted to publishers and administrators. -/
theorem granted_registers {r : PublisherRegistration} {clock : Nat → Nanos}
    (h : .registerPublisher r clock ∈ granted env t f) :
    t.session.helloDone = true ∧ t.session.role ≠ .client := by
  refine ⟨(mem_granted h).1, fun hrole => ?_⟩
  exact nomatch granted_client hrole h

end

/-! ## Refused frames -/

section

variable {s : State}

/-- The end of a session fences at most one boot. -/
theorem leave_skeleton (session : Session) (s : State) (now : Nanos) :
    (session.leave s now).skeleton = s.skeleton := by
  unfold Session.leave
  split
  · exact act_skeleton s (a := .fencePublisherBoot _ _ _ _ now) rfl
  · rfl

/-- The registration of a resource that changes nothing: its checks refuse it, or the record is
stored already. -/
def Action.Idle (s : State) : Action → Prop
  | .registerNode r now => checkNode s r ≠ .ok () ∨
    s.nodes[r.id]? = some { r with registeredAtNs := stamp r.registeredAtNs now }
  | .registerProcessor r now => checkProcessor s r ≠ .ok () ∨
    s.processors[r.id]? = some { r with registeredAtNs := stamp r.registeredAtNs now }
  | .registerAccelerator r now => checkAccelerator s r ≠ .ok () ∨
    s.accelerators[r.id]? = some { r with registeredAtNs := stamp r.registeredAtNs now }
  | .registerMemoryDomain r now => checkMemoryDomain s r ≠ .ok () ∨
    s.memoryDomains[r.id]? = some { r with registeredAtNs := stamp r.registeredAtNs now }
  | .registerCoherenceDomain r now => checkCoherenceDomain s r ≠ .ok () ∨
    s.coherenceDomains[r.id]? = some { r with registeredAtNs := stamp r.registeredAtNs now }
  | _ => False

theorem commit_idle {check : Status} {next : State} {P : Prop}
    (hchanged : next.skeleton = s.skeleton → P) (hself : P → next = s) :
    (check ≠ .ok () ∨ P → (commit s check next).2 = s) ∧
      ((commit s check next).2.skeleton = s.skeleton → check ≠ .ok () ∨ P) := by
  obtain ⟨e, hcheck, heq⟩ | ⟨hcheck, heq⟩ := commit_cases s check next <;> rw [heq]
  · exact ⟨fun _ => rfl, fun _ => .inl (by simp [hcheck])⟩
  · exact ⟨fun h => hself (h.resolve_left (not_not.2 hcheck)), fun h => .inr (hchanged h)⟩

/-- A resource is registered in the skeleton or not at all. -/
theorem act_idle (s : State) (ha : a.isResource = true) :
    (a.Idle s → (act s a).2 = s) ∧ ((act s a).2.skeleton = s.skeleton → a.Idle s) := by
  cases a with
  | registerNode r now =>
    exact commit_idle (fun h => insert_eq_self_iff.1 (congrArg State.nodes h))
      fun h => congrArg (fun m => { s with nodes := m }) (insert_eq_self_iff.2 h)
  | registerProcessor r now =>
    exact commit_idle (fun h => insert_eq_self_iff.1 (congrArg State.processors h))
      fun h => congrArg (fun m => { s with processors := m }) (insert_eq_self_iff.2 h)
  | registerAccelerator r now =>
    exact commit_idle (fun h => insert_eq_self_iff.1 (congrArg State.accelerators h))
      fun h => congrArg (fun m => { s with accelerators := m }) (insert_eq_self_iff.2 h)
  | registerMemoryDomain r now =>
    exact commit_idle (fun h => insert_eq_self_iff.1 (congrArg State.memoryDomains h))
      fun h => congrArg (fun m => { s with memoryDomains := m }) (insert_eq_self_iff.2 h)
  | registerCoherenceDomain r now =>
    exact commit_idle (fun h => insert_eq_self_iff.1 (congrArg State.coherenceDomains h))
      fun h => congrArg (fun m => { s with coherenceDomains := m }) (insert_eq_self_iff.2 h)
  | _ => exact absurd ha nofun

/-- What the frame of an administrator asks for in a `REGISTER_RESOURCE` is stored already, or
refused. -/
def StoresNothing (env : Surroundings) (t : Turn) (f : Frame) : Prop :=
  f.type = .RegisterResource → t.session.helloDone = true → t.session.role = .admin →
    ∀ a ∈ resourceActions (env.clock 1) f.payload, a.Idle t.observatory

theorem granted_resource {f : Frame} (htype : f.type = .RegisterResource)
    (hgreeted : t.session.helloDone = true) (hrole : t.session.role = .admin) :
    granted env t f = resourceActions (env.clock 1) f.payload := by
  rw [granted, if_pos ⟨hgreeted, by rw [hrole, htype]; rfl⟩, htype]
  rfl

/-- A frame that the coordinator answers by ending the session leaves the observatory as it was,
    but for the fence of the boot the session remembers, exactly if it stores nothing. -/
theorem refusedFrame_unchanged_iff {cfg : Configuration} {env : Surroundings} {t : Turn} {f : Frame}
    (hopen : t.session.isOpen = true) (hfailed : (dispatch cfg env t f).session.isOpen = false) :
    (dispatch cfg env t f).observatory = t.session.leave t.observatory (env.clock 0) ↔
      StoresNothing env t f := by
  cases dispatch_handled cfg env t f with
  | answered _ hsession _ =>
    have hsame := congrArg Session.isOpen hsession
    rw [hfailed] at hsame
    exact absurd (hsame.trans hopen) nofun
  | registered _ _ _ _ hsession => simp [hsession, Session.remember, hopen] at hfailed
  | greeted _ _ _ _ hsession => simp [hsession, hopen] at hfailed
  | failed hobservatory _ hrefused =>
    rw [hobservatory]
    obtain hnone | ⟨htype, a, hone, ha⟩ := hrefused
    · rw [hnone, Run.final]
      refine iff_of_true rfl fun htype hgreeted hrole b hb => ?_
      rw [← granted_resource htype hgreeted hrole, hnone] at hb
      exact absurd hb List.not_mem_nil
    · have hmem : a ∈ granted env t f := by rw [hone]; exact List.mem_cons_self
      obtain ⟨hgreeted, hmay, -⟩ := mem_granted hmem
      have hrole : t.session.role = .admin := by
        rw [htype] at hmay
        revert hmay
        cases t.session.role <;> decide
      rw [hone, StoresNothing, ← granted_resource htype hgreeted hrole, hone]
      constructor
      · intro h _ _ _ b hb
        rw [List.mem_singleton.1 hb]
        have hskeleton := congrArg State.skeleton h
        rw [leave_skeleton, leave_skeleton] at hskeleton
        exact (act_idle _ ha).2 hskeleton
      · intro h
        rw [Run.final, Run.final, (act_idle _ ha).1 (h htype hgreeted hrole a List.mem_cons_self)]

/-- An administrator's `REGISTER_RESOURCE` that ends after the kind of the resource. -/
theorem refusedFrame_unchanged_truncated :
    let t := greetedTurn (State.initial {} 0) .admin
    let f : Frame := { type := .RegisterResource, payload := [ResourceKind.Node.raw] }
    (dispatch silentConfiguration {} t f).session.isOpen = false ∧
      (dispatch silentConfiguration {} t f).observatory = t.session.leave t.observatory 0 := by
  intro t f
  have hfailed : (dispatch silentConfiguration {} t f).session.isOpen = false := by decide +kernel
  refine ⟨hfailed, (refusedFrame_unchanged_iff rfl hfailed).2 fun _ _ _ a ha => ?_⟩
  have hnone : resourceActions 0 f.payload = [] := rfl
  exact absurd (hnone ▸ ha) not_mem_nil

/-- A `REGISTER_RESOURCE` with a byte too many ends the session, and the node is registered. -/
theorem trailingRecord_stored :
    let t := greetedTurn (State.initial {} 0) .admin
    let f : Frame :=
      { type := .RegisterResource
        payload := ResourceKind.Node.raw ::
          (Wire.writeNode { id := ascii "n" }).1 ++ [0] }
    (dispatch silentConfiguration {} t f).session.isOpen = false ∧
      ascii "n" ∈ (dispatch silentConfiguration {} t f).observatory.nodes ∧
      ascii "n" ∉ (t.session.leave t.observatory 0).nodes := by
  decide +kernel

end

/-! ## Sessions of the server -/

/-- The session an event is about. -/
def Event.session : Event → Option UInt64
  | .accept _ => none
  | .frame id .. | .malformed id .. | .close id .. | .keep id .. => some id

/-- What an event does to the turn of its session. -/
def Event.turn (cfg : Configuration) : Event → Turn → Turn
  | .accept _ => id
  | .frame _ f env => fun t => dispatch cfg env t f
  | .malformed _ code detail env => fun t => t.failSession env code detail
  | .close _ env => fun t => t.closeSession (env.clock 0)
  | .keep _ buffer => fun t => { t with session := { t.session with buffer } }

/-- The steps of the observatory an event is granted. -/
def Event.granted (t : Turn) : Event → List Action
  | .frame _ f env => CoherenceObservatory.granted env t f
  | _ => []

theorem serve_session {id : UInt64} (h : e.session = some id) (sv : Server) :
    serve cfg sv e = sv.serveSession id (e.turn cfg) := by
  cases e <;> cases h <;> rfl

/-- Whatever happens to a session is handled like a frame. -/
theorem turn_handled (cfg : Configuration) (e : Event) (t : Turn) :
    ∃ env f, Handled env t f (e.granted t) (e.turn cfg t) := by
  cases e with
  | accept peer => exact ⟨{}, { type := .Hello }, .none rfl rfl⟩
  | frame id f env => exact ⟨env, f, dispatch_handled cfg env t f⟩
  | malformed id code detail env => exact ⟨env, { type := .Hello }, .fail code detail⟩
  | close id env =>
    refine ⟨env, { type := .Hello }, .failed ?_ rfl (.inl rfl)⟩
    exact t.observatory_closeSession _
  | keep id buffer => exact ⟨{}, { type := .Hello }, .answered rfl rfl (by simp [Event.granted, Run.history])⟩

theorem Server.getElem?_put (sv : Server) (id k : UInt64) (t : Turn) :
    (sv.put id t).sessions[k]? =
      if id = k then (if t.session.isOpen then some t.session else none) else sv.sessions[k]? := by
  rw [Server.put]
  dsimp only
  split
  · rw [Std.ExtTreeMap.getElem?_insert]
    simp only [Std.LawfulEqOrd.compare_eq_iff_eq]
  · rw [Std.ExtTreeMap.getElem?_erase]
    simp only [Std.LawfulEqOrd.compare_eq_iff_eq]

/-- What a step of the server can be. -/
inductive Served (cfg : Configuration) (sv : Server) (e : Event) : Server → Prop
  /-- A connection is turned down, or there is no such session. -/
  | idle : Served cfg sv e sv
  | accepted (peer : Option PeerAddress) (event_eq : e = .accept peer) :
      Served cfg sv e
        { sv with
          sessions := sv.sessions.insertIfNew sv.nextSessionId { peer }
          nextSessionId := sv.nextSessionId + 1 }
  | turned (id : UInt64) (session : Session) (event_eq : e.session = some id)
      (session_eq : sv.sessions[id]? = some session) :
      Served cfg sv e (sv.put id (e.turn cfg (sv.turn session)))

theorem serve_served (cfg : Configuration) (sv : Server) (e : Event) :
    Served cfg sv e (serve cfg sv e).2 := by
  cases hsession : e.session with
  | none =>
    cases e with
    | accept peer =>
      rw [serve, acceptConnection]
      split
      · exact .idle
      · exact .accepted peer rfl
    | _ => exact nomatch hsession
  | some id =>
    rw [serve_session hsession, Server.serveSession]
    split
    · exact .idle
    next session h => exact .turned id session hsession h

/-- What holds of every session is kept if it holds of a new one and every turn keeps it. -/
theorem serve_sessions {P : Session → Prop}
    (h : ∀ (id : UInt64) (session : Session), sv.sessions[id]? = some session → P session)
    (hnew : ∀ peer, P { peer })
    (hturn : ∀ session, P session → (e.turn cfg (sv.turn session)).session.isOpen = true →
      P (e.turn cfg (sv.turn session)).session) :
    ∀ (id : UInt64) (session : Session), (serve cfg sv e).2.sessions[id]? = some session →
      P session := by
  have hserved := serve_served cfg sv e
  generalize (serve cfg sv e).2 = sv' at hserved
  intro k session hk
  cases hserved with
  | idle => exact h k session hk
  | accepted peer _ =>
    rw [Std.ExtTreeMap.getElem?_insertIfNew] at hk
    split at hk
    · rw [← Option.some.inj hk]
      exact hnew peer
    · exact h k session hk
  | turned id before _ hbefore =>
    rw [Server.getElem?_put] at hk
    split at hk
    · split at hk
      next hopen =>
        rw [← Option.some.inj hk]
        exact hturn before (h id before hbefore) hopen
      · exact nomatch hk
    · exact h k session hk

/-- A session of the server is open, and none that remembers a registration is a client's. -/
structure Session.Fit (session : Session) : Prop where
  isOpen : session.isOpen = true
  registers : session.publisherRegistered = true →
    session.helloDone = true ∧ session.role ≠ .client

def Server.Fit (sv : Server) : Prop :=
  ∀ (id : UInt64) (session : Session), sv.sessions[id]? = some session → session.Fit

theorem turn_fit (hfit : t.session.Fit) (hopen : (e.turn cfg t).session.isOpen = true) :
    (e.turn cfg t).session.Fit := by
  refine ⟨hopen, fun hregistered => ?_⟩
  obtain ⟨env, f, h⟩ := turn_handled cfg e t
  cases h with
  | answered _ hsession _ =>
    rw [hsession] at hregistered ⊢
    exact hfit.registers hregistered
  | registered r hactions _ _ hsession =>
    rw [hsession]
    cases e with
    | frame id f' env' =>
      have hmem : .registerPublisher r env.clock ∈ granted env' t f' := by
        rw [show granted env' t f' = _ from hactions]
        exact mem_cons_self
      exact granted_registers hmem
    | _ => exact nomatch hactions
  | greeted role _ hnew _ hsession =>
    rw [hsession] at hregistered
    exact absurd (hfit.registers hregistered).1 (by simp [hnew])
  | failed _ hsession _ =>
    rw [hsession] at hopen
    exact absurd hopen nofun

theorem serve_fit (cfg : Configuration) (h : sv.Fit) (e : Event) : (serve cfg sv e).2.Fit :=
  serve_sessions h (fun _ => ⟨rfl, nofun⟩) fun _ hfit hopen => turn_fit hfit hopen

/-! ## Confinement -/

/-- The state with the snapshots that were taken set aside. -/
def State.unread (s : State) : State := { s with snapshotGeneration := 0 }

theorem final_unread (h : ∀ a ∈ actions, a = .snapshot) (s : State) :
    (Run.final act s actions).unread = s.unread := by
  refine Run.final_invariant (I := fun s' : State => s'.unread = s.unread)
    (C := fun _ (a : Action) => a = .snapshot) ?_ rfl (Run.along_of_forall_mem h s)
  rintro s' _ hs' rfl
  exact hs'

theorem final_skeleton (h : ∀ a ∈ actions, a.describes = false) (s : State) :
    (Run.final act s actions).skeleton = s.skeleton := by
  refine Run.final_invariant (I := fun s' : State => s'.skeleton = s.skeleton)
    (C := fun _ (a : Action) => a.describes = false) ?_ rfl (Run.along_of_forall_mem h s)
  intro s' a hs' ha
  exact (act_skeleton s' ha).trans hs'

section

variable {cfg : Configuration} {e : Event} {t : Turn}

/-- What an event grants, it grants to a session that was greeted. -/
theorem mem_event_granted (h : a ∈ e.granted t) :
    t.session.helloDone = true ∧ (t.session.role = .client → a = .snapshot) ∧
      (t.session.role = .publisher → a.describes = false) := by
  cases e with
  | frame id f env =>
    exact ⟨(mem_granted h).1, fun hrole => granted_client hrole h,
      fun hrole => granted_publisher hrole h⟩
  | _ => exact absurd h not_mem_nil

theorem turn_client (hfit : t.session.Fit)
    (hrole : t.session.helloDone = true → t.session.role = .client) :
    (e.turn cfg t).observatory.unread = t.observatory.unread := by
  have hsnapshots : ∀ a ∈ e.granted t, a = .snapshot := by
    intro a ha
    obtain ⟨hgreeted, hclient, -⟩ := mem_event_granted ha
    exact hclient (hrole hgreeted)
  obtain ⟨env, f, h⟩ := turn_handled cfg e t
  cases h with
  | answered hobservatory _ _ =>
    rw [hobservatory]
    exact final_unread hsnapshots _
  | registered r hactions _ hobservatory _ =>
    rw [hobservatory]
    exact final_unread hsnapshots _
  | greeted _ _ _ hobservatory _ => rw [hobservatory]
  | failed hobservatory _ _ =>
    -- a client has registered nothing, so nothing is fenced
    have hregistered : t.session.publisherRegistered = false := by
      by_contra h
      obtain ⟨hgreeted, hclient⟩ := hfit.registers (by simpa using h)
      exact hclient (hrole hgreeted)
    rw [hobservatory, Session.leave, if_neg (by simp [hregistered])]
    exact final_unread hsnapshots _

theorem turn_publisher (hrole : t.session.helloDone = true → t.session.role = .publisher) :
    (e.turn cfg t).observatory.skeleton = t.observatory.skeleton := by
  have hquiet : ∀ a ∈ e.granted t, a.describes = false := by
    intro a ha
    obtain ⟨hgreeted, -, hpublisher⟩ := mem_event_granted ha
    exact hpublisher (hrole hgreeted)
  obtain ⟨env, f, h⟩ := turn_handled cfg e t
  cases h with
  | answered hobservatory _ _ =>
    rw [hobservatory]
    exact final_skeleton hquiet _
  | registered r hactions _ hobservatory _ =>
    rw [hobservatory]
    exact final_skeleton hquiet _
  | greeted _ _ _ hobservatory _ => rw [hobservatory]
  | failed hobservatory _ _ =>
    rw [hobservatory, leave_skeleton]
    exact final_skeleton hquiet _

/-- A session keeps the role it was greeted in: a second `HELLO` ends it. -/
theorem turn_role (hgreeted : t.session.helloDone = true)
    (hopen : (e.turn cfg t).session.isOpen = true) :
    (e.turn cfg t).session.helloDone = true ∧ (e.turn cfg t).session.role = t.session.role := by
  obtain ⟨env, f, h⟩ := turn_handled cfg e t
  cases h with
  | answered _ hsession _ =>
    rw [hsession]
    exact ⟨hgreeted, rfl⟩
  | registered r _ _ _ hsession =>
    rw [hsession]
    exact ⟨hgreeted, rfl⟩
  | greeted _ _ hnew _ _ => exact absurd hgreeted (by simp [hnew])
  | failed _ hsession _ =>
    rw [hsession] at hopen
    exact absurd hopen nofun

/-- The session was greeted in a role, unless it is gone. -/
def Server.GreetedAs (sv : Server) (id : UInt64) (role : ClientRole) : Prop :=
  ∀ session : Session, sv.sessions[id]? = some session →
    session.helloDone = true ∧ session.role = role

/-- What happens to the session leaves it the role. -/
theorem serve_greetedAs {id : UInt64} {role : ClientRole} (h : sv.GreetedAs id role)
    (hevent : e.session = some id) : (serve cfg sv e).2.GreetedAs id role := by
  have hserved := serve_served cfg sv e
  generalize (serve cfg sv e).2 = sv' at hserved
  intro session hsession
  cases hserved with
  | idle => exact h session hsession
  | accepted peer heq => exact absurd (heq ▸ hevent) nofun
  | turned id' before hevent' hbefore =>
    obtain rfl : id = id' := Option.some.inj (hevent.symm.trans hevent')
    rw [Server.getElem?_put, if_pos rfl] at hsession
    split at hsession
    next hopen =>
      obtain ⟨hgreeted, hrole⟩ := h before hbefore
      obtain ⟨hgreeted', hrole'⟩ := turn_role (t := sv.turn before) hgreeted hopen
      rw [← Option.some.inj hsession]
      exact ⟨hgreeted', hrole'.trans hrole⟩
    · exact absurd hsession nofun

/-- After any run of the server, nothing that happens to a session greeted as a client changes
    more of the observatory than its snapshot generation, and nothing that happens to a session
    greeted as a publisher changes its skeleton. -/
theorem role_confinement (cfg : Configuration) {sv : Server} (hstart : sv.sessions = ∅)
    (before after : List Event) (id : UInt64) (session : Session)
    (hsession : (Run.final (serve cfg) sv before).sessions[id]? = some session)
    (hgreeted : session.helloDone = true) (hafter : ∀ e ∈ after, e.session = some id) :
    (session.role = .client →
      (Run.final (serve cfg) sv (before ++ after)).observatory.unread =
        (Run.final (serve cfg) sv before).observatory.unread) ∧
    (session.role = .publisher →
      (Run.final (serve cfg) sv (before ++ after)).observatory.skeleton =
        (Run.final (serve cfg) sv before).observatory.skeleton) := by
  -- there were no sessions to begin with
  have hfit : (Run.final (serve cfg) sv before).Fit := by
    refine Run.final_stable (I := Server.Fit) (fun sv e hsv => serve_fit cfg hsv e) ?_ before
    intro id session hsession
    rw [hstart] at hsession
    simp at hsession
  rw [Run.final_append]
  generalize Run.final (serve cfg) sv before = start at hsession hfit ⊢
  have hrole : start.GreetedAs id session.role := by
    intro session' hsession'
    rw [← Option.some.inj (hsession.symm.trans hsession')]
    exact ⟨hgreeted, rfl⟩
  generalize session.role = role at hrole ⊢
  have halong : Run.Along (serve cfg) (fun _ e => e.session = some id) start after :=
    Run.along_of_forall_mem hafter start
  -- the role is part of the invariant, so that no step has to assume it
  refine (Run.final_invariant (I := fun sv : Server => sv.Fit ∧ sv.GreetedAs id role ∧
      (role = .client → sv.observatory.unread = start.observatory.unread) ∧
      (role = .publisher → sv.observatory.skeleton = start.observatory.skeleton))
    ?_ ⟨hfit, hrole, fun _ => rfl, fun _ => rfl⟩ halong).2.2
  rintro sv e ⟨hsv, hrole, hclient, hpublisher⟩ hevent
  refine ⟨serve_fit cfg hsv e, serve_greetedAs hrole hevent, ?_⟩
  have hserved := serve_served cfg sv e
  generalize (serve cfg sv e).2 = sv' at hserved
  cases hserved with
  | idle => exact ⟨hclient, hpublisher⟩
  | accepted peer _ => exact ⟨hclient, hpublisher⟩
  | turned id' session hevent' hsession =>
    obtain rfl : id = id' := Option.some.inj (hevent.symm.trans hevent')
    obtain ⟨-, hsame⟩ := hrole session hsession
    refine ⟨fun hrole => ?_, fun hrole => ?_⟩
    · exact (turn_client (t := sv.turn session) (hsv id session hsession)
        fun _ => hsame.trans hrole).trans (hclient hrole)
    · exact (turn_publisher (t := sv.turn session) fun _ => hsame.trans hrole).trans
        (hpublisher hrole)

/-- A `HELLO`. -/
def helloFrame (role : ClientRole) : Frame where
  type := .Hello
  payload := PayloadWriter.u16 wireProtocolVersion ++ PayloadWriter.u8 role.raw ++
    PayloadWriter.text [] Limits.maxNameLength

/-- A client says hello again, as an administrator, and asks for a new topology generation. -/
theorem role_confinement_bump :
    let sv : Server := { observatory := State.initial {} 0 }
    let before : List Event := [.accept none, .frame 1 (helloFrame .client) {}]
    let after : List Event :=
      [.frame 1 (helloFrame .admin) {},
        .frame 1 { type := .BumpTopology, payload := PayloadWriter.text [] 0 } {}]
    (Run.final (serve silentConfiguration) sv (before ++ after)).observatory.unread =
      (Run.final (serve silentConfiguration) sv before).observatory.unread := by
  intro sv before after
  obtain ⟨session, hsession, hgreeted, hrole⟩ : ∃ session,
      (Run.final (serve silentConfiguration) sv before).sessions[(1 : UInt64)]? = some session ∧
        session.helloDone = true ∧ session.role = .client :=
    ⟨_, rfl, by decide +kernel, by decide +kernel⟩
  exact (role_confinement silentConfiguration rfl before after 1 session hsession hgreeted
    (by decide)).1 hrole

end

end CoherenceObservatory
