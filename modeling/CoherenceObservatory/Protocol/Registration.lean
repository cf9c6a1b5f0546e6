import CoherenceObservatory.Protocol.Confinement
import CoherenceObservatory.Fencing

/-!
# Sessions and the boots they registered

A session remembers its last registration, and ends by fencing it. Beside the server stands the
record of all registrations made over each session (`Watched`), which the server does not keep.
-/

namespace CoherenceObservatory

open List Function

/-- A boot of a publisher. -/
abbrev PublisherBoot := PublisherId × PublisherBootId

/-! ## Current boots -/

/-- The boot is bound and current. -/
def State.Current (s : State) (b : PublisherBoot) : Prop :=
  ∃ bound, s.binding b.1 = some bound ∧ bound.boot = b.2 ∧ bound.current = true

/-- The boot is bound, and has the authority that the options ask for. -/
def State.Speaks (s : State) (b : PublisherBoot) : Prop :=
  ∃ bound, s.binding b.1 = some bound ∧ bound.boot = b.2 ∧
    (s.options.enforceCurrentPublisher = true → bound.current = true ∧ bound.fenced = false)

/-- Steps other than loading a file. -/
def Action.isLoad : Action → Bool
  | .load .. => true
  | _ => false

variable {sequence : EventSequence} {h : Action × Answer} {t : Turn} {b : PublisherBoot}

section

variable {s : State} {a : Action} {b : PublisherBoot}

/-- A step makes no boot current but the one it registers, and of the same publisher it leaves
no other current. -/
theorem current_act (hload : a.isLoad = false) (h : (act s a).2.Current b) :
    registered a (act s a).1 = some b ∨
      s.Current b ∧ ∀ b', registered a (act s a).1 = some b' → b'.1 ≠ b.1 := by
  obtain ⟨bound, hbound, hboot, hcurrent⟩ := h
  cases act_authority s a with
  | quiet hbinding _ _ hregistered =>
    rw [hbinding] at hbound
    exact .inr ⟨⟨bound, hbound, hboot, hcurrent⟩, by simp [hregistered]⟩
  | refuse r clock _ hadmits _ hregistered =>
    rw [admitBoot_binding hadmits] at hbound
    exact .inr ⟨⟨bound, hbound, hboot, hcurrent⟩, by simp [hregistered]⟩
  | commit id boot sequence hash old _ hcommits _ hregistered =>
    refine .inr ⟨?_, by simp [hregistered]⟩
    rw [hcommits.binding_eq] at hbound
    by_cases hid : b.1 = id
    · rw [hid, update_self] at hbound
      obtain rfl := Option.some.inj hbound
      exact ⟨old, hid ▸ hcommits.bound, hboot, hcurrent⟩
    · rw [update_of_ne hid] at hbound
      exact ⟨bound, hbound, hboot, hcurrent⟩
  | bind r clock s₁ _ _ hadmits _ hstate _ hregistered =>
    rw [hstate, bindBoot_binding, admitBoot_binding hadmits] at hbound
    by_cases hid : b.1 = r.id
    · rw [hid, update_self] at hbound
      obtain rfl := Option.some.inj hbound
      -- the boot in force for the publisher is the one just bound
      have hr : r.boot = b.2 := (Binding.register_authority _ _ _ _).2.1.symm.trans hboot
      exact .inl (by rw [hregistered, ← hid, hr])
    · rw [update_of_ne hid] at hbound
      refine .inr ⟨⟨bound, hbound, hboot, hcurrent⟩, fun b' hb' => ?_⟩
      rw [hregistered] at hb'
      rw [← Option.some.inj hb']
      exact fun h => hid h.symm
  | fence id boot reason detail now p _ hp _ hstate _ hregistered =>
    refine .inr ⟨?_, by simp [hregistered]⟩
    rw [hstate, fenceBound_binding] at hbound
    by_cases hid : b.1 = id
    · rw [hid, update_self] at hbound
      obtain rfl := Option.some.inj hbound
      exact absurd hcurrent (by simp [Binding.fence])
    · rw [update_of_ne hid] at hbound
      exact ⟨bound, hbound, hboot, hcurrent⟩
  | load path data options clock staged ha =>
    rw [ha] at hload
    exact absurd hload nofun

theorem binding_of_isResource (h : a.isResource = true) : (act s a).2.binding = s.binding := by
  cases act_authority s a with
  | quiet hbinding => exact hbinding
  | commit _ _ _ _ _ hoffers => cases a <;> simp_all [Action.isResource, Action.offers]
  | refuse r clock ha => rw [ha] at h; cases h
  | bind r clock s₁ ha => rw [ha] at h; cases h
  | fence id boot reason detail now p ha => rw [ha] at h; cases h
  | load path data options clock staged ha => rw [ha] at h; cases h

/-- A step that registers nothing gives no boot authority. -/
theorem speaks_act (hload : a.isLoad = false) (hregistered : registered a (act s a).1 = none)
    (h : (act s a).2.Speaks b) : s.Speaks b := by
  obtain ⟨bound, hbound, hboot, hauthority⟩ := h
  rw [act_enforces] at hauthority
  cases act_authority s a with
  | quiet hbinding _ _ _ => exact ⟨bound, hbinding ▸ hbound, hboot, hauthority⟩
  | refuse r clock _ hadmits _ _ =>
    exact ⟨bound, admitBoot_binding hadmits ▸ hbound, hboot, hauthority⟩
  | commit id boot sequence hash old _ hcommits _ _ =>
    rw [hcommits.binding_eq] at hbound
    by_cases hid : b.1 = id
    · rw [hid, update_self] at hbound
      obtain rfl := Option.some.inj hbound
      exact ⟨old, hid ▸ hcommits.bound, hboot, hauthority⟩
    · rw [update_of_ne hid] at hbound
      exact ⟨bound, hbound, hboot, hauthority⟩
  | bind r clock s₁ _ _ _ _ _ _ hsome => cases hregistered.symm.trans hsome
  | fence id boot reason detail now p _ hp _ hstate _ _ =>
    rw [hstate, fenceBound_binding] at hbound
    by_cases hid : b.1 = id
    · rw [hid, update_self] at hbound
      obtain rfl := Option.some.inj hbound
      refine ⟨p.binding, by simp [State.binding, hid, hp], hboot, fun henforce => ?_⟩
      exact absurd (hauthority henforce).1 (by rintro ⟨⟩)
    · rw [update_of_ne hid] at hbound
      exact ⟨bound, hbound, hboot, hauthority⟩
  | load path data options clock staged ha =>
    rw [ha] at hload
    exact absurd hload (by rintro ⟨⟩)

/-- What is accepted is accepted from a boot with authority. -/
theorem speaks_of_accepted (hload : a.isLoad = false)
    (h : accepted a (act s a).1 = some (b.1, b.2, sequence)) : s.Speaks b := by
  cases act_authority s a with
  | quiet _ _ haccepted _ => exact nomatch haccepted.symm.trans h
  | refuse _ _ _ _ haccepted _ => exact nomatch haccepted.symm.trans h
  | commit id boot sequence' hash old hoffers hcommits _ _ =>
    have hsame : a.offers = some (b.1, b.2, sequence) := by
      unfold accepted at h
      split at h
      · exact h
      · exact nomatch h
    obtain ⟨rfl, rfl, -⟩ : id = b.1 ∧ boot = b.2 ∧ sequence' = sequence := by
      simpa using hoffers.symm.trans hsame
    exact ⟨old, hcommits.bound, hcommits.boot_eq, hcommits.authority⟩
  | bind _ _ _ _ _ _ _ _ haccepted _ => exact nomatch haccepted.symm.trans h
  | fence _ _ _ _ _ _ _ _ _ _ haccepted _ => exact nomatch haccepted.symm.trans h
  | load _ _ _ _ _ ha =>
    rw [ha] at hload
    exact absurd hload nofun

variable {actions : List Action}

/-- In a row of steps that registers nothing, everything is accepted from boots that had
authority before. -/
theorem speaks_of_mem_history (hload : ∀ a ∈ actions, a.isLoad = false)
    (hregistered : ∀ h ∈ Run.history act s actions, registered h.1 h.2 = none)
    (hh : h ∈ Run.history act s actions) (haccepted : accepted h.1 h.2 = some (b.1, b.2, sequence)) :
    s.Speaks b := by
  induction actions generalizing s with
  | nil => exact absurd hh not_mem_nil
  | cons a actions ih =>
    obtain ⟨ha, hactions⟩ := forall_mem_cons.1 hload
    obtain ⟨hfirst, hrest⟩ := forall_mem_cons.1 hregistered
    obtain rfl | hh := mem_cons.1 hh
    · exact speaks_of_accepted ha haccepted
    · exact speaks_act ha hfirst (ih hactions hrest hh)

/-- A row of steps that registers nothing makes no boot current. -/
theorem current_final (hload : ∀ a ∈ actions, a.isLoad = false)
    (hregistered : ∀ h ∈ Run.history act s actions, registered h.1 h.2 = none)
    (h : (Run.final act s actions).Current b) : s.Current b := by
  induction actions generalizing s with
  | nil => exact h
  | cons a actions ih =>
    obtain ⟨ha, hactions⟩ := forall_mem_cons.1 hload
    obtain ⟨hfirst, hrest⟩ := forall_mem_cons.1 hregistered
    obtain hsome | ⟨hcurrent, -⟩ := current_act ha (ih hactions hrest h)
    · exact nomatch hfirst.symm.trans hsome
    · exact hcurrent

/-- A fence for the end of a connection is not refused for its text. -/
theorem length_closeDetail_le (peer : Option PeerAddress) :
    (Turn.closeDetail peer).length ≤ Limits.maxRegionAnnotationLength := by
  have hhead : (ascii "publisher transport connection ended (").length = 38 := by decide
  have hpeer : (peerText peer).length ≤ 21 := by
    cases peer with
    | none => decide
    | some address =>
      obtain ⟨⟨a, b, c, d⟩, port⟩ := address
      have hbyte (x : UInt8) : (formatNat x.toNat).length ≤ 3 :=
        length_formatNat_le (by decide) (x.toNat_lt.trans (by decide))
      have hport : (formatNat port.toNat).length ≤ 5 :=
        length_formatNat_le (by decide) (port.toNat_lt.trans (by decide))
      have hdot : (ascii ".").length = 1 := by decide
      have hcolon : (ascii ":").length = 1 := by decide
      have ha := hbyte a
      have hb := hbyte b
      have hc := hbyte c
      have hd := hbyte d
      simp only [peerText, length_append]
      omega
  have htail : (ascii ")").length = 1 := by decide
  simp only [Turn.closeDetail, length_append, Limits.maxRegionAnnotationLength]
  omega

/-- Fencing a boot makes it not current, and no other. -/
theorem current_fencePublisherBoot_iff {id : PublisherId} {boot : PublisherBootId}
    {reason : FenceReason} {detail : Text} {now : Nanos}
    (hdetail : detail.length ≤ Limits.maxRegionAnnotationLength) :
    (fencePublisherBoot s id boot reason detail now).2.Current b ↔
      s.Current b ∧ b ≠ (id, boot) := by
  unfold fencePublisherBoot
  rw [if_neg (Nat.not_lt.2 hdetail)]
  cases hp : s.publishers[id]? with
  | none =>
    refine ⟨fun h => ⟨h, ?_⟩, And.left⟩
    rintro rfl
    obtain ⟨bound, hbound, -⟩ := h
    simp [State.binding, hp] at hbound
  | some p =>
    dsimp only
    split
    next hboot =>
      refine ⟨fun h => ⟨h, ?_⟩, And.left⟩
      rintro rfl
      obtain ⟨bound, hbound, hb, -⟩ := h
      simp only [State.binding, hp, Option.map_some, Option.some.injEq] at hbound
      exact hboot ((congrArg Binding.boot hbound).trans hb)
    next hboot =>
      obtain rfl : p.view.boot = boot := not_not.1 hboot
      unfold State.Current
      rw [fenceBound_binding]
      by_cases hid : b.1 = id
      · rw [hid, update_self]
        constructor
        · rintro ⟨bound, hbound, -, hcurrent⟩
          obtain rfl := Option.some.inj hbound
          exact absurd hcurrent (by rintro ⟨⟩)
        · rintro ⟨⟨bound, hbound, hb, -⟩, hne⟩
          simp only [State.binding, hp, Option.map_some, Option.some.injEq] at hbound
          exact absurd (Prod.ext hid (hb.symm.trans (congrArg Binding.boot hbound).symm)) hne
      · rw [update_of_ne hid]
        exact ⟨fun h => ⟨h, fun hb => hid (congrArg Prod.fst hb)⟩, And.left⟩

/-- The boot a session remembers. -/
def Session.remembered (session : Session) : Option PublisherBoot :=
  if session.publisherRegistered then some (session.publisherId, session.publisherBoot) else none

/-- The end of a session makes the boot it remembers not current, and no other. -/
theorem current_leave_iff (session : Session) (now : Nanos) :
    (session.leave s now).Current b ↔ s.Current b ∧ session.remembered ≠ some b := by
  unfold Session.leave Session.remembered
  split
  · rw [current_fencePublisherBoot_iff (length_closeDetail_le _)]
    exact and_congr_right fun _ => not_congr (by rw [Option.some.injEq, eq_comm])
  · simp

end

/-! ## Registrations over sessions -/

/-- The boots an event registers. -/
def Event.registers (t : Turn) (e : Event) : List PublisherBoot :=
  (Run.history act t.observatory (e.granted t)).filterMap fun h => registered h.1 h.2

/-- A server, and the registrations made over each of its sessions, oldest first. -/
structure Watched where
  server : Server
  registrations : UInt64 → List PublisherBoot

namespace Watched

/-- A step of the server. A new session starts with no registrations. -/
def step (cfg : Configuration) (w : Watched) (e : Event) : List Frame × Watched :=
  let sv := (serve cfg w.server e).2
  ((serve cfg w.server e).1,
    { server := sv
      registrations :=
        match e.session with
        | none =>
          if w.server.nextSessionId ∉ w.server.sessions ∧ w.server.nextSessionId ∈ sv.sessions then
            update w.registrations w.server.nextSessionId []
          else w.registrations
        | some id =>
          match w.server.sessions[id]? with
          | none => w.registrations
          | some session =>
            update w.registrations id
              (w.registrations id ++ e.registers (w.server.turn session)) })

/-- Every session remembers the last registration made over it. -/
def Remembers (w : Watched) : Prop :=
  ∀ (id : UInt64) (session : Session), w.server.sessions[id]? = some session →
    (w.registrations id).getLast? = session.remembered

end Watched

section

variable {cfg : Configuration} {e : Event} {t : Turn}

theorem isLoad_of_mem_granted {a : Action} (h : a ∈ e.granted t) : a.isLoad = false := by
  cases e with
  | frame id f env =>
    have htype := (mem_granted h).2.2
    cases a <;> first | rfl | exact absurd htype not_mem_nil
  | _ => exact absurd h not_mem_nil

theorem registers_eq_nil
    (h : ∀ h ∈ Run.history act t.observatory (e.granted t), registered h.1 h.2 = none) :
    e.registers t = [] :=
  filterMap_eq_nil_iff.2 h

/-- What becomes of a session and of the boots that are current. -/
inductive Session.Turned (t t' : Turn) (boots : List PublisherBoot) : Prop
  | kept (boots_eq : boots = []) (isOpen_eq : t'.session.isOpen = t.session.isOpen)
      (remembered_eq : t'.session.remembered = t.session.remembered)
      (current : ∀ b, t'.observatory.Current b → t.observatory.Current b)
  | bound (b : PublisherBoot) (boots_eq : boots = [b])
      (isOpen_eq : t'.session.isOpen = t.session.isOpen)
      (remembered_eq : t'.session.remembered = some b)
      (current : ∀ b', t'.observatory.Current b' →
        b' = b ∨ t.observatory.Current b' ∧ b'.1 ≠ b.1)
  | ended (boots_eq : boots = []) (isOpen_eq : t'.session.isOpen = false)
      (current : ∀ b, t'.observatory.Current b ↔
        t.observatory.Current b ∧ t.session.remembered ≠ some b)

theorem turn_turned (cfg : Configuration) (e : Event) (t : Turn) :
    Session.Turned t (e.turn cfg t) (e.registers t) := by
  obtain ⟨env, f, h⟩ := turn_handled cfg e t
  cases h with
  | answered hobservatory hsession hregistered =>
    refine .kept (registers_eq_nil hregistered) ?_ ?_ fun b hb => ?_
    · rw [hsession]
    · rw [hsession]
      rfl
    · rw [hobservatory] at hb
      exact current_final (fun a => isLoad_of_mem_granted) hregistered hb
  | registered r hactions hregistered hobservatory hsession =>
    refine .bound (r.id, r.boot) ?_ ?_ ?_ fun b hb => ?_
    · simp [Event.registers, hactions, Run.history, hregistered]
    · rw [hsession]
      rfl
    · rw [hsession]
      rfl
    · rw [hobservatory, hactions] at hb
      obtain hsome | ⟨hcurrent, hother⟩ := current_act rfl (show (act _ _).2.Current b from hb)
      · exact .inl (Option.some.inj (hsome.symm.trans hregistered))
      · exact .inr ⟨hcurrent, fun h => hother _ hregistered h.symm⟩
  | greeted role hactions _ hobservatory hsession =>
    refine .kept ?_ ?_ ?_ fun b hb => ?_
    · simp [Event.registers, hactions, Run.history]
    · rw [hsession]
    · rw [hsession]
      rfl
    · rwa [hobservatory] at hb
  | failed hobservatory hsession hrefused =>
    -- a step that was taken has registered a resource, which is no matter of boots
    have hquiet : (∀ h ∈ Run.history act t.observatory (e.granted t), registered h.1 h.2 = none) ∧
        (Run.final act t.observatory (e.granted t)).binding = t.observatory.binding := by
      obtain hnone | ⟨-, a, hone, ha⟩ := hrefused
      · rw [hnone]
        exact ⟨by simp [Run.history], rfl⟩
      · rw [hone]
        refine ⟨?_, binding_of_isResource ha⟩
        simpa [Run.history] using Handled.registered_of_isResource ha _
    refine .ended (registers_eq_nil hquiet.1) ?_ fun b => ?_
    · rw [hsession]
      rfl
    · rw [hobservatory, current_leave_iff, State.Current, hquiet.2]
      rfl

end

namespace Watched

variable {cfg : Configuration} {w : Watched} {e : Event}

/-- What a step of the server is, with its registrations. -/
inductive Stepped (cfg : Configuration) (w : Watched) (e : Event) (w' : Watched) : Prop
  | idle (observatory_eq : w'.server.observatory = w.server.observatory)
      (sessions_eq : ∀ k : UInt64, w'.server.sessions[k]? = w.server.sessions[k]?)
      (registrations_eq : w'.registrations = w.registrations)
  | accepted (peer : Option PeerAddress)
      (observatory_eq : w'.server.observatory = w.server.observatory)
      (fresh : w.server.nextSessionId ∉ w.server.sessions)
      (sessions_eq : ∀ k : UInt64, w'.server.sessions[k]? =
        if w.server.nextSessionId = k then some { peer } else w.server.sessions[k]?)
      (registrations_eq : w'.registrations =
        update w.registrations w.server.nextSessionId [])
  | turned (id : UInt64) (session : Session) (event_eq : e.session = some id)
      (session_eq : w.server.sessions[id]? = some session)
      (server_eq : w'.server = w.server.put id (e.turn cfg (w.server.turn session)))
      (registrations_eq : w'.registrations = update w.registrations id
        (w.registrations id ++ e.registers (w.server.turn session)))

theorem step_stepped (cfg : Configuration) (w : Watched) (e : Event) :
    Stepped cfg w e (w.step cfg e).2 := by
  cases hsession : e.session with
  | some id =>
    cases hfound : w.server.sessions[id]? with
    | none =>
      have hserve : (serve cfg w.server e).2 = w.server := by
        rw [serve_session hsession, Server.serveSession, hfound]
      refine .idle ?_ ?_ ?_ <;> simp [step, hserve, hsession, hfound]
    | some session =>
      refine .turned id session hsession hfound ?_ ?_
      · simp only [step, serve_session hsession, Server.serveSession, hfound]
      · simp only [step, hsession, hfound]
  | none =>
    obtain ⟨peer, rfl⟩ : ∃ peer, e = .accept peer := by
      cases e with
      | accept peer => exact ⟨peer, rfl⟩
      | _ => cases hsession
    by_cases hfull : w.server.sessions.size ≥ cfg.options.maxConnections
    · have hserve : (serve cfg w.server (.accept peer)).2 = w.server := by
        rw [serve, acceptConnection, if_pos hfull]
      refine .idle ?_ ?_ ?_ <;> simp [step, hserve, hsession]
    · have hserve : (serve cfg w.server (.accept peer)).2 = { w.server with
          sessions := w.server.sessions.insertIfNew w.server.nextSessionId { peer }
          nextSessionId := w.server.nextSessionId + 1 } := by
        rw [serve, acceptConnection, if_neg hfull]
      by_cases hfresh : w.server.nextSessionId ∈ w.server.sessions
      · refine .idle ?_ (fun k => ?_) ?_
        · simp [step, hserve]
        · simp only [step, hserve, Std.ExtTreeMap.getElem?_insertIfNew]
          rw [if_neg fun h => h.2 hfresh]
        · simp [step, hsession, hfresh]
      · refine .accepted peer ?_ hfresh (fun k => ?_) ?_
        · simp [step, hserve]
        · simp only [step, hserve, Std.ExtTreeMap.getElem?_insertIfNew,
            Std.LawfulEqOrd.compare_eq_iff_eq]
          by_cases hk : w.server.nextSessionId = k
          · rw [if_pos hk, if_pos ⟨hk, hfresh⟩]
          · rw [if_neg hk, if_neg fun h => hk h.1]
        · simp [step, hserve, hsession, hfresh]

/-- What a session remembers is the last registration made over it. -/
theorem remembers_step (cfg : Configuration) (h : w.Remembers) (e : Event) :
    (w.step cfg e).2.Remembers := by
  intro k session hk
  cases step_stepped cfg w e with
  | idle _ hsessions hregistrations =>
    rw [hregistrations]
    exact h k session (hsessions k ▸ hk)
  | accepted peer _ hfresh hsessions hregistrations =>
    rw [hsessions k] at hk
    rw [hregistrations]
    split at hk
    next hid =>
      rw [← Option.some.inj hk, ← hid, update_self]
      rfl
    next hid =>
      rw [update_of_ne (Ne.symm hid)]
      exact h k session hk
  | turned id before _ hbefore hserver hregistrations =>
    rw [hserver, Server.getElem?_put] at hk
    rw [hregistrations]
    split at hk
    next hid =>
      subst hid
      rw [update_self, getLast?_append, h id before hbefore]
      split at hk
      next hopen =>
        rw [← Option.some.inj hk]
        cases turn_turned cfg e (w.server.turn before) with
        | kept hboots _ hremembered _ => rw [hboots, hremembered]; rfl
        | bound b hboots _ hremembered _ => rw [hboots, hremembered]; rfl
        | ended _ hclosed _ => exact nomatch hopen.symm.trans hclosed
      · exact nomatch hk
    next hid =>
      rw [update_of_ne (Ne.symm hid)]
      exact h k session hk

theorem remembers_of_empty (h : w.server.sessions = ∅) : w.Remembers := by
  intro id session hsession
  rw [h] at hsession
  simp at hsession

/-! ## Publications -/

/-- What a publisher's session sends is sent under the identity it registered last, or under one
that has no authority. -/
def SpeaksForItself (w : Watched) (e : Event) : Prop :=
  ∀ (id : UInt64) (session : Session), e.session = some id →
    w.server.sessions[id]? = some session → session.role = .publisher →
    ∀ a ∈ e.granted (w.server.turn session), ∀ (b : PublisherBoot) (sequence : EventSequence),
      a.offers = some (b.1, b.2, sequence) →
        session.remembered = some b ∨ ¬w.server.observatory.Speaks b

/-- What is accepted from a publisher's session names the last registration made over it. -/
def AcceptsOwn (w : Watched) (e : Event) : Prop :=
  ∀ (id : UInt64) (session : Session), e.session = some id →
    w.server.sessions[id]? = some session → session.role = .publisher →
    ∀ h ∈ Run.history act w.server.observatory (e.granted (w.server.turn session)),
      ∀ (b : PublisherBoot) (sequence : EventSequence),
        accepted h.1 h.2 = some (b.1, b.2, sequence) → (w.registrations id).getLast? = some b

/-- What a turn accepts is accepted from boots that had authority before. -/
theorem speaks_of_turn (cfg : Configuration) (hh : h ∈ Run.history act t.observatory (e.granted t))
    (haccepted : accepted h.1 h.2 = some (b.1, b.2, sequence)) : t.observatory.Speaks b := by
  obtain ⟨env, f, hhandled⟩ := turn_handled cfg e t
  cases hhandled with
  | answered _ _ hregistered =>
    exact speaks_of_mem_history (fun a => isLoad_of_mem_granted) hregistered hh haccepted
  | registered r hactions _ _ _ =>
    have ha := Run.mem_of_mem_history hh
    rw [hactions, mem_singleton] at ha
    rw [ha, accepted] at haccepted
    split at haccepted <;> cases haccepted
  | greeted _ hactions _ _ _ =>
    rw [hactions] at hh
    exact absurd hh not_mem_nil
  | failed _ _ hrefused =>
    obtain hnone | ⟨-, a, hone, ha⟩ := hrefused
    · rw [hnone] at hh
      exact absurd hh not_mem_nil
    · refine speaks_of_mem_history (fun a => isLoad_of_mem_granted) ?_ hh haccepted
      simpa [hone, Run.history] using Handled.registered_of_isResource ha _

theorem acceptsOwn_of_speaksForItself (cfg : Configuration) (hremembers : w.Remembers)
    (h : w.SpeaksForItself e) : w.AcceptsOwn e := by
  intro id session hevent hsession hrole x hx b sequence haccepted
  have hoffers : x.1.offers = some (b.1, b.2, sequence) := by
    unfold accepted at haccepted
    split at haccepted
    · exact haccepted
    · exact nomatch haccepted
  rw [hremembers id session hsession]
  exact (h id session hevent hsession hrole x.1 (Run.mem_of_mem_history hx) b sequence
    hoffers).resolve_right (not_not.2 (speaks_of_turn cfg (t := w.server.turn session) hx haccepted))

end Watched

/-- In every run in which no publisher's session sends anything under an identity of another
    session that has authority, whatever is accepted from a publisher's session names the
    publisher and the boot of the last registration made over it. -/
theorem publications_own (cfg : Configuration) {w : Watched} (hstart : w.server.sessions = ∅)
    {events : List Event}
    (h : Run.Along (Watched.step cfg) Watched.SpeaksForItself w events) :
    Run.Along (Watched.step cfg) Watched.AcceptsOwn w events :=
  Run.along_of_invariant (I := Watched.Remembers)
    (fun _ e hremembers hspeaks => ⟨Watched.remembers_step cfg hremembers e,
      Watched.acceptsOwn_of_speaksForItself cfg hremembers hspeaks⟩)
    (Watched.remembers_of_empty hstart) h

/-! ## Closing -/

namespace Watched

variable {cfg : Configuration} {w : Watched} {e : Event}

/-- A session that asks for a registration does not let go of a boot: the one it remembers is of
the same publisher, or not current, or another session remembers it too. -/
def KeepsHold (w : Watched) (e : Event) : Prop :=
  ∀ (id : UInt64) (session : Session), e.session = some id →
    w.server.sessions[id]? = some session →
    ∀ (r : PublisherRegistration) (clock : Nat → Nanos),
      .registerPublisher r clock ∈ e.granted (w.server.turn session) →
    ∀ b : PublisherBoot, session.remembered = some b →
      r.id = b.1 ∨ ¬w.server.observatory.Current b ∨
        ∃ (id' : UInt64) (other : Session), id' ≠ id ∧ w.server.sessions[id']? = some other ∧
          other.remembered = some b

/-- Every current boot is remembered by a session. -/
def Held (w : Watched) : Prop :=
  ∀ b : PublisherBoot, w.server.observatory.Current b →
    ∃ (id : UInt64) (session : Session), w.server.sessions[id]? = some session ∧
      session.remembered = some b

/-- The sessions that end with a step, if any, had registered every boot that is no longer
current. -/
def ClosesOwn (cfg : Configuration) (w : Watched) (e : Event) : Prop :=
  ∀ id : UInt64, id ∈ w.server.sessions → id ∉ (w.step cfg e).2.server.sessions →
    ∀ b : PublisherBoot, w.server.observatory.Current b →
      ¬(w.step cfg e).2.server.observatory.Current b → b ∈ w.registrations id

theorem mem_granted_of_mem_registers (h : b ∈ e.registers t) :
    ∃ r clock, .registerPublisher r clock ∈ e.granted t ∧ r.id = b.1 := by
  obtain ⟨⟨a, answer⟩, hmem, hregistered⟩ := mem_filterMap.1 h
  cases a with
  | registerPublisher r clock =>
    refine ⟨r, clock, Run.mem_of_mem_history hmem, ?_⟩
    unfold registered at hregistered
    split at hregistered
    next heq _ =>
      cases heq
      exact congrArg Prod.fst (Option.some.inj hregistered)
    · exact nomatch hregistered
  | _ => exact nomatch hregistered

theorem held_step (hfit : w.server.Fit) (hheld : w.Held) (hkeeps : w.KeepsHold e) :
    (w.step cfg e).2.Held := by
  intro b hb
  cases step_stepped cfg w e with
  | idle hobservatory hsessions _ =>
    rw [hobservatory] at hb
    obtain ⟨id, session, hsession, hremembered⟩ := hheld b hb
    exact ⟨id, session, (hsessions id).trans hsession, hremembered⟩
  -- a new session takes an id that is not in use
  | accepted peer hobservatory hfresh hsessions _ =>
    rw [hobservatory] at hb
    obtain ⟨id, session, hsession, hremembered⟩ := hheld b hb
    refine ⟨id, session, ?_, hremembered⟩
    rw [hsessions, if_neg, hsession]
    rintro rfl
    exact hfresh (Std.ExtTreeMap.mem_iff_isSome_getElem?.2 (by rw [hsession]; rfl))
  | turned id session hevent hsession hserver _ =>
    rw [hserver]
    rw [hserver] at hb
    change (e.turn cfg (w.server.turn session)).observatory.Current b at hb
    have hopen : (w.server.turn session).session.isOpen = true := (hfit id session hsession).isOpen
    -- a session the step is not about keeps what it remembers
    have hother {id' : UInt64} {other : Session} (hid : id' ≠ id)
        (hfound : w.server.sessions[id']? = some other) (hremembered : other.remembered = some b) :
        ∃ (k : UInt64) (session' : Session),
          (w.server.put id (e.turn cfg (w.server.turn session))).sessions[k]? = some session' ∧
            session'.remembered = some b :=
      ⟨id', other, by rw [Server.getElem?_put, if_neg (Ne.symm hid), hfound], hremembered⟩
    -- and so does one that stays open, of what it remembers after the step
    have hself (hstays : (e.turn cfg (w.server.turn session)).session.isOpen = true)
        (hremembered : (e.turn cfg (w.server.turn session)).session.remembered = some b) :
        ∃ (k : UInt64) (session' : Session),
          (w.server.put id (e.turn cfg (w.server.turn session))).sessions[k]? = some session' ∧
            session'.remembered = some b :=
      ⟨id, _, by rw [Server.getElem?_put, if_pos rfl, if_pos hstays], hremembered⟩
    cases turn_turned cfg e (w.server.turn session) with
    | kept _ hisOpen hsame hcurrent =>
      obtain ⟨id', other, hfound, hremembered⟩ := hheld b (hcurrent b hb)
      by_cases hid : id' = id
      · subst hid
        obtain rfl := Option.some.inj (hsession.symm.trans hfound)
        exact hself (hisOpen.trans hopen) (hsame.trans hremembered)
      · exact hother hid hfound hremembered
    | bound b₀ hboots hisOpen hbound hcurrent =>
      obtain rfl | ⟨hbefore, hne⟩ := hcurrent b hb
      -- the boot just bound
      · exact hself (hisOpen.trans hopen) hbound
      obtain ⟨id', other, hfound, hremembered⟩ := hheld b hbefore
      by_cases hid : id' = id
      · subst hid
        obtain rfl := Option.some.inj (hsession.symm.trans hfound)
        obtain ⟨r, clock, hgranted, hr⟩ :=
          mem_granted_of_mem_registers (hboots ▸ mem_cons_self : b₀ ∈ e.registers _)
        -- the session forgets the boot it held before: another one must remember it
        obtain hsame | hnot | ⟨k, third, hk, hthird, hremembers⟩ :=
          hkeeps id' session hevent hsession r clock hgranted b hremembered
        · exact absurd (hsame.symm.trans hr) hne
        · exact absurd hbefore hnot
        · exact hother hk hthird hremembers
      · exact hother hid hfound hremembered
    | ended _ _ hcurrent =>
      obtain ⟨hbefore, hne⟩ := (hcurrent b).1 hb
      obtain ⟨id', other, hfound, hremembered⟩ := hheld b hbefore
      refine hother ?_ hfound hremembered
      -- the boot of the session that ends is fenced with it
      rintro rfl
      obtain rfl := Option.some.inj (hsession.symm.trans hfound)
      exact hne hremembered

theorem closesOwn_of_remembers (hfit : w.server.Fit) (hremembers : w.Remembers) :
    w.ClosesOwn cfg e := by
  intro id hbefore hafter b hcurrent hnot
  obtain ⟨session, hsession⟩ := Option.isSome_iff_exists.1
    (Std.ExtTreeMap.mem_iff_isSome_getElem?.1 hbefore)
  have hgone : (w.step cfg e).2.server.sessions[id]? = none := Std.ExtTreeMap.getElem?_eq_none hafter
  cases step_stepped cfg w e with
  | idle _ hsessions _ => exact nomatch (hsessions id ▸ hgone).symm.trans hsession
  | accepted peer _ hfresh hsessions _ =>
    rw [hsessions, if_neg fun h : w.server.nextSessionId = id => hfresh (h ▸ hbefore), hsession] at hgone
    exact nomatch hgone
  | turned id' session' hevent hsession' hserver _ =>
    rw [hserver, Server.getElem?_put] at hgone
    split at hgone
    next hid =>
      subst hid
      obtain rfl := Option.some.inj (hsession.symm.trans hsession')
      have hopen : (w.server.turn session).session.isOpen = true :=
        (hfit id' session hsession).isOpen
      have hclosed : (e.turn cfg (w.server.turn session)).session.isOpen = false := by
        by_contra h
        rw [if_pos (by simpa using h)] at hgone
        exact nomatch hgone
      cases turn_turned cfg e (w.server.turn session) with
      | kept _ hisOpen _ _ => exact nomatch (hclosed.symm.trans hisOpen).trans hopen
      | bound _ _ hisOpen _ _ => exact nomatch (hclosed.symm.trans hisOpen).trans hopen
      | ended _ _ hcurrent' =>
        rw [hserver] at hnot
        have hremembered : session.remembered = some b := by
          by_contra hne
          exact hnot ((hcurrent' b).2 ⟨hcurrent, hne⟩)
        exact mem_of_getLast? ((hremembers id' session hsession).trans hremembered)
    next hid => exact nomatch hgone.symm.trans hsession

/-- The invariant of a run. -/
structure Inv (w : Watched) : Prop where
  fit : w.server.Fit
  remembers : w.Remembers
  held : w.Held

theorem inv_step (h : w.Inv) (hkeeps : w.KeepsHold e) : (w.step cfg e).2.Inv where
  fit := serve_fit cfg h.fit e
  remembers := remembers_step cfg h.remembers e
  held := held_step h.fit h.held hkeeps

end Watched

/-- In every run in which no session lets go of a current boot by registering another: a boot
    registered over a session that has ended is current only if it was also registered over one
    that is open; and a session that ends makes no boot non-current but those registered over
    it. -/
theorem closing_fences (cfg : Configuration) {w : Watched} (hstart : w.server.sessions = ∅)
    (hnone : ∀ b, ¬w.server.observatory.Current b) {events : List Event}
    (h : Run.Along (Watched.step cfg) Watched.KeepsHold w events) :
    (∀ id : UInt64, id ∉ (Run.final (Watched.step cfg) w events).server.sessions →
      ∀ b ∈ (Run.final (Watched.step cfg) w events).registrations id,
        (Run.final (Watched.step cfg) w events).server.observatory.Current b →
        ∃ id' ∈ (Run.final (Watched.step cfg) w events).server.sessions,
          b ∈ (Run.final (Watched.step cfg) w events).registrations id') ∧
      Run.Along (Watched.step cfg) (Watched.ClosesOwn cfg) w events := by
  have hinv : w.Inv := by
    refine ⟨?_, Watched.remembers_of_empty hstart, fun b hb => absurd hb (hnone b)⟩
    intro id session hsession
    rw [hstart] at hsession
    simp at hsession
  constructor
  · have hfinal := Run.final_invariant (I := Watched.Inv)
      (fun _ _ h hkeeps => Watched.inv_step h hkeeps) hinv h
    intro id _ b _ hcurrent
    obtain ⟨id', session, hsession, hremembered⟩ := hfinal.held b hcurrent
    refine ⟨id', Std.ExtTreeMap.mem_iff_isSome_getElem?.2 (by rw [hsession]; rfl), ?_⟩
    exact List.mem_of_getLast? ((hfinal.remembers id' session hsession).trans hremembered)
  · exact Run.along_of_invariant (I := Watched.Inv) (fun _ _ h hkeeps =>
      ⟨Watched.inv_step h hkeeps, Watched.closesOwn_of_remembers h.fit h.remembers⟩) hinv h

/-! ## Samples -/

/-- A registration of a publisher's boot. -/
def registerFrame (id : String) (boot : PublisherBootId) : Frame where
  type := .RegisterPublisher
  payload := (Wire.writePublisherRegistration { id := ascii id, boot }).1

/-- An observation in the name of a boot. -/
def publishFrame (id : String) (boot : PublisherBootId) : Frame where
  type := .PublishEvent
  payload := (Wire.writeObservation
    { eventId := 1
      type := .RemoteRead
      sourcePublisher := ascii id
      publisherBoot := boot
      coordinatorEpoch := 1
      sequence := 1
      timestampNs := 1 }).1

/-- A server that was just started. -/
def freshWatched : Watched := ⟨{ observatory := State.initial {} 0 }, fun _ => []⟩

/-- Whether an event finds no session, or one that passes a test. -/
def Watched.tests (test : Session → List Action → Bool) (w : Watched) (e : Event) : Bool :=
  match e.session with
  | none => true
  | some id => (w.server.sessions[id]?).all fun session =>
    test session (e.granted (w.server.turn session))

theorem Watched.test_of_tests {test : Session → List Action → Bool} {w : Watched} {e : Event}
    (h : w.tests test e = true) {id : UInt64} {session : Session} (hevent : e.session = some id)
    (hsession : w.server.sessions[id]? = some session) :
    test session (e.granted (w.server.turn session)) = true := by
  simpa [tests, hevent, hsession] using h

/-- A session publishes under the identity it registered. -/
theorem publications_own_one :
    Run.Along (Watched.step silentConfiguration) Watched.AcceptsOwn freshWatched
      [.accept none, .frame 1 (helloFrame .publisher) {}, .frame 1 (registerFrame "p" 1) {},
        .frame 1 (publishFrame "p" 1) {}] := by
  refine publications_own silentConfiguration rfl ?_
  have htests : Run.Along (Watched.step silentConfiguration)
      (fun w e => w.tests (fun session actions => actions.all fun a =>
        a.offers.all fun o => session.remembered = some (o.1, o.2.1)) e = true) freshWatched
      [.accept none, .frame 1 (helloFrame .publisher) {}, .frame 1 (registerFrame "p" 1) {},
        .frame 1 (publishFrame "p" 1) {}] := by
    decide +kernel
  refine Run.along_of_invariant (I := fun _ => True) (fun w e _ h => ⟨trivial, ?_⟩) trivial htests
  intro id session hevent hsession _ a ha b sequence hoffers
  have htest := List.all_eq_true.1 (Watched.test_of_tests h hevent hsession) a ha
  exact .inl (by simpa [hoffers] using htest)

/-- A session that registered nothing publishes in the name of another. -/
theorem foreign_accepted :
    let w := Run.final (Watched.step silentConfiguration) freshWatched
      [.accept none, .frame 1 (helloFrame .publisher) {}, .frame 1 (registerFrame "p" 1) {},
        .accept none, .frame 2 (helloFrame .publisher) {}]
    let t := w.server.turn (w.server.sessions[(2 : UInt64)]?.getD {})
    w.registrations 2 = [] ∧ t.session.role = .publisher ∧
      (Run.history act w.server.observatory
          ((Event.frame 2 (publishFrame "p" 1) {}).granted t)).filterMap
        (fun h => accepted h.1 h.2) = [(ascii "p", 1, 1)] := by
  decide +kernel

/-- A session registers two publishers and ends; the first stays current. -/
theorem firstRegistration_stays :
    let w := Run.final (Watched.step silentConfiguration) freshWatched
      [.accept none, .frame 1 (helloFrame .publisher) {}, .frame 1 (registerFrame "p" 1) {},
        .frame 1 (registerFrame "q" 1) {}, .close 1 {}]
    w.server.sessions.isEmpty = true ∧ w.registrations 1 = [(ascii "p", 1), (ascii "q", 1)] ∧
      ((w.server.observatory.binding (ascii "p")).map fun b => (b.boot, b.current)) =
        some (1, true) := by
  decide +kernel

/-- A session registers one publisher and ends. -/
theorem closing_fences_one :
    let events : List Event :=
      [.accept none, .frame 1 (helloFrame .publisher) {}, .frame 1 (registerFrame "p" 1) {},
        .close 1 {}]
    let w := Run.final (Watched.step silentConfiguration) freshWatched events
    w.registrations 1 = [(ascii "p", 1)] ∧
      ∀ id : UInt64, id ∉ w.server.sessions → ∀ b ∈ w.registrations id,
        w.server.observatory.Current b → ∃ id' ∈ w.server.sessions, b ∈ w.registrations id' := by
  intro events w
  have htests : Run.Along (Watched.step silentConfiguration)
      (fun w e => w.tests (fun session actions => session.remembered.isNone || actions.isEmpty) e =
        true) freshWatched events := by
    decide +kernel
  have hkeeps : Run.Along (Watched.step silentConfiguration) Watched.KeepsHold freshWatched
      events := by
    refine Run.along_of_invariant (I := fun _ => True) (fun w e _ h => ⟨trivial, ?_⟩) trivial htests
    intro id session hevent hsession r clock hgranted b hremembered
    have htest := Watched.test_of_tests h hevent hsession
    simp only [hremembered, Option.isNone_some, Bool.false_or, List.isEmpty_iff] at htest
    rw [htest] at hgranted
    exact absurd hgranted List.not_mem_nil
  have hnone : ∀ b, ¬freshWatched.server.observatory.Current b := by
    rintro b ⟨bound, hbound, -⟩
    simp [freshWatched, State.binding, State.initial] at hbound
  exact ⟨by decide +kernel, (closing_fences silentConfiguration rfl hnone hkeeps).1⟩

end CoherenceObservatory
