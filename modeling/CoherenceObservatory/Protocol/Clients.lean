import CoherenceObservatory.Protocol.Confinement
import CoherenceObservatory.Persistence.Loadable

/-!
# What clients can do to the observatory

However many clients there are and whatever they send, the observatory of a coordinator takes
steps of its own interface, each one that a message asks for. What holds in every run of an
observatory holds behind a coordinator.
-/

namespace CoherenceObservatory

open Codec Limits List

variable {a : Action} {α : Type} {r : PayloadReader α} {P : α → Prop} {x : α} {c : Cursor}
  {payload : List UInt8}

/-! ## Records that arrive -/

theorem mem_partly (h : Ensures r P) (hx : x ∈ partly r c) : P x := by
  rw [partly] at hx
  split at hx
  next hr => exact mem_singleton.1 hx ▸ h _ _ _ hr
  · simp at hx

theorem wholly_subset : wholly r c ⊆ partly r c := by
  rw [wholly, partly]
  split
  · split <;> simp
  · simp

theorem ensures_nameId : Ensures Wire.readNameId fun id => id.length ≤ maxNameLength := by
  refine .bind (ensures_text _) fun id hid => ?_
  split
  · exact .pure (Nat.zero_le _)
  · exact .skip fun _ => .pure hid

theorem ensures_workload : Ensures Wire.readRegion fun r => r.workload.length ≤ maxNameLength := by
  iterate 5 refine .skip fun _ => ?_
  refine ensures_nameId.bind fun _ h => ?_
  repeat refine .skip fun _ => ?_
  exact .pure h

theorem ensures_provenance : Ensures Wire.readTopologyLink fun link => link.provenance.raw ≤ 9 := by
  iterate 3 refine .skip fun _ => ?_
  refine .bind (P := (· ≤ 9)) ?_ fun _ h => ?_
  · exact .skip fun _ => .guard fun h => .pure (by grind)
  repeat refine .skip fun _ => ?_
  exact .pure h

theorem resourceActions_bounded {now : Nanos} (h : a ∈ resourceActions now payload) (s : State) :
    a.Bounded s := by
  rw [resourceActions] at h
  split at h
  · simp at h
  repeat
    split at h
    · obtain ⟨r, hr, rfl⟩ := mem_map.1 h
      first
      | trivial
      | -- the node is the second name of a record
        refine mem_partly (P := fun r => r.node.length ≤ maxNameLength) ?_ hr
        refine .skip fun _ => ensures_nameId.bind fun _ h => ?_
        repeat refine .skip fun _ => ?_
        exact .pure h
  simp at h

/-- A step that a message asks for and that respects the bounds of the format. -/
structure Action.Remote (a : Action) : Prop where
  messages_ne : a.messages ≠ []
  bounded : ∀ s, a.Bounded s

theorem remote_of_requests {env : Surroundings} {s : State} {type : MessageType}
    (h : a ∈ requests env s type payload) : a.Remote := by
  have htype := mem_requests h
  refine ⟨ne_nil_of_mem htype, fun s => ?_⟩
  cases a with
  | registerProcessor | registerAccelerator | registerMemoryDomain =>
    obtain rfl := mem_singleton.1 htype
    exact resourceActions_bounded h s
  | registerRegion r now =>
    obtain rfl := mem_singleton.1 htype
    obtain ⟨r, hr, h⟩ := mem_map.1 h
    cases h
    exact (mem_partly ensures_workload (wholly_subset hr) :)
  | setTopologyLink link =>
    obtain rfl := mem_singleton.1 htype
    obtain ⟨r, hr, h⟩ := mem_map.1 h
    cases h
    exact (mem_partly ensures_provenance (wholly_subset hr) :)
  | setCapability | load => cases htype
  | _ => trivial

/-! ## Runs of the coordinator -/

theorem serve_acts (cfg : Configuration) (sv : Server) (e : Event) :
    ∃ l : List Action, (∀ a ∈ l, a.Remote) ∧
      (serve cfg sv e).2.observatory = Run.final act sv.observatory l := by
  have hserved := serve_served cfg sv e
  generalize (serve cfg sv e).2 = sv' at hserved
  cases hserved with
  | idle | accepted => exact ⟨[], by simp, rfl⟩
  | turned id session =>
    have hremote : ∀ a ∈ e.granted (sv.turn session), a.Remote := by
      intro a ha
      cases e with
      | frame id f env =>
        rw [Event.granted, granted] at ha
        split at ha
        · exact remote_of_requests ha
        · simp at ha
      | _ => simp [Event.granted] at ha
    obtain ⟨env, f, h⟩ := turn_handled cfg e (sv.turn session)
    cases h with
    | answered hobservatory | registered _ _ _ hobservatory => exact ⟨_, hremote, hobservatory⟩
    | greeted _ _ _ hobservatory => exact ⟨[], by simp, hobservatory⟩
    | failed hobservatory =>
      rw [Session.leave] at hobservatory
      split at hobservatory
      · -- the session takes the boot it remembers with it
        have hfence (id boot detail now) :
            (Action.fencePublisherBoot id boot .connectionClosed detail now).Remote :=
          ⟨cons_ne_nil _ _, fun _ => trivial⟩
        refine ⟨_, forall_mem_append.2 ⟨hremote, forall_mem_singleton.2 (hfence session.publisherId
          session.publisherBoot (Turn.closeDetail session.peer) (env.clock 0))⟩, ?_⟩
        rw [Run.final_concat]
        exact hobservatory
      · exact ⟨_, hremote, hobservatory⟩

/-- Every run of a coordinator, whatever its sessions send and however they are interleaved, is
    for its observatory a run of steps that messages ask for. -/
theorem served_acts (cfg : Configuration) (sv : Server) (events : List Event) :
    ∃ l : List Action, (∀ a ∈ l, a.Remote) ∧
      (Run.final (serve cfg) sv events).observatory = Run.final act sv.observatory l := by
  induction events generalizing sv with
  | nil => exact ⟨[], by simp, rfl⟩
  | cons e events ih =>
    obtain ⟨l, hl, heq⟩ := serve_acts cfg sv e
    obtain ⟨l', hl', heq'⟩ := ih (serve cfg sv e).2
    refine ⟨l ++ l', forall_mem_append.2 ⟨hl, hl'⟩, ?_⟩
    rw [Run.final, heq', heq, Run.final_append]

/-- Whatever clients send to a fresh coordinator, the tables of its observatory stay within their
    capacities and their records within the bounds of a state file. -/
theorem served_structured (cfg : Configuration) (sv : Server) (now : Nanos) (events : List Event) :
    Structured (Run.final (serve cfg) { sv with observatory := State.initial {} now }
      events).observatory := by
  refine Run.final_stable (I := fun sv : Server => Structured sv.observatory) (fun sv e hs => ?_)
    (structured_initial now) events
  obtain ⟨l, hl, heq⟩ := serve_acts cfg sv e
  rw [heq]
  exact Run.final_invariant (fun _ a hs (ha : a.Remote) => act_structured hs (ha.bounded _)) hs
    (Run.along_of_forall_mem hl _)

end CoherenceObservatory
