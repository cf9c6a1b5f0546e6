import CoherenceObservatory.Evidence
import CoherenceObservatory.Persistence.Lineage
import CoherenceObservatory.Protocol.Coordinator

/-!
# The lives of a coordinator

A coordinator loads its state file when it starts, and saves it when it is asked to and when it
stops. Once its process has ended, be it by a crash, the next one begins with a fresh observatory,
and the file is all it finds.
-/

namespace CoherenceObservatory

/-- A coordinator and its state file. The epochs of the states that were saved to the file are not
    part of the program. -/
structure CoordinatorServer where
  observatory : State
  file : Option (List UInt8) := none
  running : Bool := false
  saved : List CoordinatorEpoch := []

variable (options : CoordinatorOptions)

namespace CoordinatorServer

/-- `start`, with what becomes of the network and of the listener. That there is no file is no
    failure. -/
def start (c : CoordinatorServer) (clock : Nat → Nanos) (network listener : Status) :
    Status × CoordinatorServer :=
  if c.running then (.error (failWith .alreadyExists "coordinator is already running"), c)
  else
    match network with
    | .error e => (.error e, c)
    | .ok () =>
      let (loaded, c) : Status × CoordinatorServer :=
        if options.loadOnStart ∧ options.statePath ≠ [] then
          match loadState c.observatory options.statePath c.file options.persistence clock with
          | (.ok _, s) => (.ok (), { c with observatory := s })
          | (.error e, s) =>
            (if e.code = .notFound then .ok () else .error e, { c with observatory := s })
        else (.ok (), c)
      match loaded, listener with
      | .error e, _ | .ok (), .error e => (.error e, c)
      | .ok (), .ok () => (.ok (), { c with running := true })

/-- A save to the state file, which is replaced or, if the write fails, left as it is. -/
def save (c : CoordinatorServer) (written : Status) : Status × CoordinatorServer :=
  match written with
  | .error e => (.error e, c)
  | .ok () =>
    (.ok (),
      { c with
        file := some (saveState c.observatory options.persistence)
        saved := c.observatory.coordinatorEpoch :: c.saved })

/-- `stop`, once the sessions are closed. -/
def stop (c : CoordinatorServer) (written : Status) : Status × CoordinatorServer :=
  if ¬c.running then (.ok (), c)
  else if options.saveOnShutdown ∧ options.statePath ≠ [] then
    save options { c with running := false } written
  else (.ok (), { c with running := false })

inductive Move
  /-- The process has ended or crashed, and another one begins. -/
  | launch (now : Nanos)
  | start (clock : Nat → Nanos) (network listener : Status)
  /-- A step of the observatory, for a session or for the process itself. -/
  | operate (a : Action)
  /-- `SAVE_STATE`. -/
  | save (written : Status)
  | stop (written : Status)

def move (c : CoordinatorServer) : Move → Status × CoordinatorServer
  | .launch now =>
    (.ok (), { c with observatory := State.initial options.observatory now, running := false })
  | .start clock network listener => c.start options clock network listener
  | .operate a => (.ok (), { c with observatory := (act c.observatory a).2 })
  | .save written => if c.running then c.save options written else (.ok (), c)
  | .stop written => c.stop options written

/-- Names fit the file and epochs have not run out, no step loads a file of its own, and a start
    that succeeds has loaded the state file if there is one. -/
def Regular (c : CoordinatorServer) (m : Move) : Prop :=
  (c.observatory.options.Fits ∧ c.observatory.coordinatorEpoch ≠ 0xFFFFFFFFFFFFFFFF) ∧
  match m with
  | .operate a => a.loads = false
  | .start clock _ _ => (move options c m).1 = .ok () → c.file ≠ none →
    ∃ report, (loadState c.observatory options.statePath c.file options.persistence clock).1 =
      .ok report
  | _ => True

end CoordinatorServer

variable {options}

theorem act_epoch {s : State} {a : Action} (ha : a.loads = false) :
    (act s a).2.coordinatorEpoch = s.coordinatorEpoch := by
  cases hdescribes : a.describes with
  | false => exact act_of_not_describes State.coordinatorEpoch hdescribes
  | true => exact act_of_describes State.coordinatorEpoch hdescribes ha

namespace CoordinatorServer

variable {c : CoordinatorServer}

/-- The last state that was saved is in the file, and no state was saved under a higher epoch. -/
structure Settled (options : CoordinatorOptions) (c : CoordinatorServer) : Prop where
  file : ∀ e ∈ c.saved, ∃ s : State, c.file = some (saveState s options.persistence) ∧
    s.options.Fits ∧ s.coordinatorEpoch ≠ 0xFFFFFFFFFFFFFFFF ∧ e ≤ s.coordinatorEpoch
  below : c.running = true → ∀ e ∈ c.saved, e ≤ c.observatory.coordinatorEpoch

theorem Settled.save (h : Settled options c) (hfits : c.observatory.options.Fits)
    (hepoch : c.observatory.coordinatorEpoch ≠ 0xFFFFFFFFFFFFFFFF)
    (hbelow : ∀ e ∈ c.saved, e ≤ c.observatory.coordinatorEpoch) (written : Status) :
    Settled options (c.save options written).2 := by
  cases written with
  | error e => exact h
  | ok _ =>
    have hall : ∀ e ∈ c.observatory.coordinatorEpoch :: c.saved,
        e ≤ c.observatory.coordinatorEpoch := List.forall_mem_cons.2 ⟨UInt64.le_refl _, hbelow⟩
    exact ⟨fun e he => ⟨c.observatory, rfl, hfits, hepoch, hall e he⟩, fun _ => hall⟩

/-- What is loaded goes on under a higher epoch than all that was saved. -/
theorem Settled.recover (h : Settled options c) {data : List UInt8} {staged : StagedState}
    (hfile : c.file = some data) (hparse : parseState data options.persistence = .ok staged)
    (clock : Nat → Nanos) :
    ∀ e ∈ c.saved, e < (recover c.observatory staged clock).coordinatorEpoch := by
  intro e he
  obtain ⟨s, hsaved, hfits, hmax, hle⟩ := h.file e he
  obtain rfl := Option.some.inj (hfile.symm.trans hsaved)
  have hepoch : (CoherenceObservatory.recover c.observatory staged clock).coordinatorEpoch =
      s.coordinatorEpoch + 1 := congrArg (· + 1) ((parsed_of_parseState hparse).hasMeta hfits).2.1
  rw [hepoch]
  grind

/-- A start that has loaded the file goes on under a higher epoch. -/
theorem Settled.start (hload : options.loadOnStart = true) (hpath : options.statePath ≠ [])
    (h : Settled options c) {clock : Nat → Nanos} {network listener : Status}
    (hregular : Regular options c (.start clock network listener)) :
    Settled options (c.start options clock network listener).2 ∧
      ((c.start options clock network listener).1 = .ok () → ∀ e ∈ c.saved,
        e < (c.start options clock network listener).2.observatory.coordinatorEpoch) := by
  have hloads := hregular.2
  simp only [move] at hloads
  unfold CoordinatorServer.start at hloads ⊢
  by_cases hrunning : c.running = true
  · rw [if_pos hrunning]
    exact ⟨h, nofun⟩
  rw [if_neg hrunning] at hloads ⊢
  cases network with
  | error e => exact ⟨h, nofun⟩
  | ok _ =>
    dsimp only at hloads ⊢
    rw [if_pos ⟨hload, hpath⟩] at hloads ⊢
    rcases loadState_cases c.observatory options.statePath c.file options.persistence clock with
      ⟨e, heq⟩ | ⟨data, staged, hfile, hparse, heq⟩
    · rw [heq] at hloads ⊢
      dsimp only at hloads ⊢
      generalize (if e.code = .notFound then .ok () else .error e : Status) = loaded at hloads ⊢
      rcases loaded with e | ⟨⟩ <;> rcases listener with e | ⟨⟩
      iterate 3 exact ⟨h, nofun⟩
      · have hnone : ∀ e, e ∉ c.saved := by
          intro e he
          obtain ⟨s, hsaved, _⟩ := h.file e he
          obtain ⟨_, hreport⟩ := hloads rfl (by rw [hsaved]; nofun)
          cases hreport
        exact ⟨⟨h.file, fun _ e he => absurd he (hnone e)⟩, fun _ e he => absurd he (hnone e)⟩
    · rw [heq]
      have habove := h.recover hfile hparse clock
      cases listener with
      | error e => exact ⟨⟨h.file, fun hruns => absurd hruns hrunning⟩, nofun⟩
      | ok _ => exact ⟨⟨h.file, fun _ e he => UInt64.le_of_lt (habove e he)⟩, fun _ => habove⟩

theorem Settled.move (hload : options.loadOnStart = true) (hpath : options.statePath ≠ [])
    (h : Settled options c) {m : Move} (hm : Regular options c m) :
    Settled options (c.move options m).2 := by
  cases m with
  | launch now => exact ⟨h.file, nofun⟩
  | start clock network listener => exact (h.start hload hpath hm).1
  | operate a =>
    refine ⟨h.file, fun hruns e he => ?_⟩
    change e ≤ (act c.observatory a).2.coordinatorEpoch
    rw [act_epoch hm.2]
    exact h.below hruns e he
  | save written =>
    rw [CoordinatorServer.move]
    split
    next hruns => exact h.save hm.1.1 hm.1.2 (h.below hruns) written
    · exact h
  | stop written =>
    rw [CoordinatorServer.move, stop]
    split
    · exact h
    next hruns =>
      have hstopped : Settled options { c with running := false } := ⟨h.file, nofun⟩
      split
      · exact hstopped.save hm.1.1 hm.1.2 (h.below (not_not.1 hruns)) written
      · exact hstopped

end CoordinatorServer

end CoherenceObservatory
