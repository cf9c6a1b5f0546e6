import CoherenceObservatory.Fencing
import CoherenceObservatory.Ledger

/-!
# Fencing everyone

`fence_all_publishers` notes under the lock which boots are bound, and then fences one after the
other, taking the lock anew each time. Other callers come in between. If one of them replaces a
boot that is still to be fenced, its fence fails, and the call gives up with the rest of the
boots as they are.
-/

namespace CoherenceObservatory

open Std

/-- Where a call of `fence_all_publishers` is. -/
inductive FencingPhase
  /-- It has not taken the lock yet. -/
  | called
  /-- It has noted the boots; these are left. -/
  | fencing (rest : List (PublisherId × PublisherBootId))
  | returned (result : Status)

/-- A call of `fence_all_publishers` and the observatory it is for. -/
structure FencingCall where
  observatory : State
  phase : FencingPhase := .called

/-- One stretch of work under the lock, by the call or by another caller. -/
inductive FencingTurn
  | collect
  | next (now : Nanos)
  | other (a : Action)

/-- What a turn does, until the call returns, and whether it took place. -/
def FencingCall.turn (reason : FenceReason) (detail : Text) (c : FencingCall) :
    FencingTurn → Bool × FencingCall
  | .collect =>
    match c.phase with
    | .called => (true, { c with phase := .fencing (boundBoots c.observatory) })
    | _ => (false, c)
  | .next now =>
    match c.phase with
    | .fencing [] => (true, { c with phase := .returned (.ok ()) })
    | .fencing ((id, boot) :: rest) =>
      match fencePublisherBoot c.observatory id boot reason detail now with
      | (.ok _, s) => (true, ⟨s, .fencing rest⟩)
      | (.error e, s) =>
        if e.code = .notFound then (true, ⟨s, .fencing rest⟩)
        else (true, ⟨s, .returned (.error e)⟩)
    | _ => (false, c)
  | .other a =>
    match c.phase with
    | .returned _ => (false, c)
    | _ => (true, { c with observatory := (act c.observatory a).2 })

/-! ## A call by itself -/

/-- The turns in which the call fences boots, and the one in which it returns. -/
def fencingTurns (clock : Nat → Nanos) : Nat → List FencingTurn
  | 0 => [.next (clock 0)]
  | n + 1 => .next (clock n) :: fencingTurns clock n

theorem final_returned (reason : FenceReason) (detail : Text) (s : State) (result : Status)
    (clock : Nat → Nanos) (n : Nat) :
    Run.final (FencingCall.turn reason detail) ⟨s, .returned result⟩ (fencingTurns clock n) =
      ⟨s, .returned result⟩ := by
  induction n with
  | zero => rfl
  | succ n ih => exact ih

theorem final_fencingTurns (reason : FenceReason) (detail : Text) (clock : Nat → Nanos) (s : State)
    (boots : List (PublisherId × PublisherBootId)) :
    Run.final (FencingCall.turn reason detail) ⟨s, .fencing boots⟩
        (fencingTurns clock boots.length) =
      ⟨(fenceEach reason detail clock s boots).2,
        .returned (fenceEach reason detail clock s boots).1⟩ := by
  induction boots generalizing s with
  | nil => rfl
  | cons b boots ih =>
    obtain ⟨id, boot⟩ := b
    rw [List.length_cons, fencingTurns, Run.final, fenceEach, FencingCall.turn]
    dsimp only
    rcases fencePublisherBoot s id boot reason detail (clock boots.length) with ⟨e | view, s'⟩
    · dsimp only
      split
      · exact ih s'
      · exact final_returned reason detail s' _ clock _
    · exact ih s'

/-- Without other callers the call is `fenceAllPublishers`. -/
theorem final_alone (reason : FenceReason) (detail : Text) (clock : Nat → Nanos) (s : State) :
    Run.final (FencingCall.turn reason detail) ⟨s, .called⟩
        (.collect :: fencingTurns clock (boundBoots s).length) =
      ⟨(fenceAllPublishers s reason detail clock).2,
        .returned (fenceAllPublishers s reason detail clock).1⟩ :=
  final_fencingTurns reason detail clock s (boundBoots s)

/-! ## Calls among others -/

/-- The boot is bound with authority. -/
def State.Serving (s : State) (id : PublisherId) (boot : PublisherBootId) : Prop :=
  ∃ p, s.publishers[id]? = some p ∧ p.view.boot = boot ∧ p.view.current = true

instance (s : State) (id : PublisherId) (boot : PublisherBootId) :
    Decidable (s.Serving id boot) :=
  decidable_of_iff (∃ p ∈ s.publishers[id]?, p.view.boot = boot ∧ p.view.current = true) Iff.rfl

variable {s : State} {id : PublisherId} {boot : PublisherBootId} {a : Action}

theorem State.Retired.not_serving (h : s.Retired id boot) (hs : s.FencedOut) :
    ¬s.Serving id boot := by
  rintro ⟨p, hp, hboot, hcurrent⟩
  have hfenced := h.binding p.binding (by simp [State.binding, hp]) hboot
  exact absurd ((hs id p hp hcurrent).symm.trans hfenced) Bool.false_ne_true

theorem registered_ok {r : PublisherRegistration} {clock : Nat → Nanos} {answer : Answer}
    {x : PublisherId × PublisherBootId}
    (h : registered (.registerPublisher r clock) answer = some x) :
    ∃ view, answer = .publisher (.ok view) := by
  unfold registered at h
  split at h
  next view _ => exact ⟨_, rfl⟩
  · exact nomatch h

/-- A bound boot stays bound or is retired. -/
theorem State.Bound.act (h : s.Bound id boot) (hs : s.Sound) (hfits : FenceFits s a) :
    (act s a).2.Bound id boot ∨ (act s a).2.Retired id boot := by
  obtain ⟨p, hp, hboot⟩ := h
  have hentry := act_entry s a id
  rw [hp] at hentry
  generalize he : (CoherenceObservatory.act s a).2.publishers[id]? = e at hentry
  cases hentry with
  | keep hrecounts _ =>
    cases hrecounts with
    | some hrecounts =>
      exact .inl ⟨_, he, (congrArg (·.boot) hrecounts.ledger_eq).trans hboot⟩
  | observe o now _ _ _ _ hledger _ => exact .inl ⟨_, he, (congrArg (·.boot) hledger).trans hboot⟩
  | sample c now _ _ _ _ _ hledger _ => exact .inl ⟨_, he, (congrArg (·.boot) hledger).trans hboot⟩
  | bind r clock s₁ ha hid _ _ hregistered =>
    by_cases hsame : r.boot = boot
    · exact .inl ⟨_, he, (boundPublisher_view ..).2.trans hsame⟩
    · -- the boot is replaced
      refine .inr (retires_retired hs hfits ?_)
      subst ha hid
      obtain ⟨view, hview⟩ := registered_ok hregistered
      rw [hview]
      simp [retires, State.binding, hp, PublisherState.binding, hboot, Ne.symm hsame]
  | fence boot' reason detail now _ _ => exact .inl ⟨_, he, hboot⟩
  | load path data options clock ha => rw [ha] at hfits; exact hfits.elim

/-- The boot that is to be fenced next. -/
def FencingPhase.upcoming : FencingPhase → Option (PublisherId × PublisherBootId)
  | .fencing (b :: _) => some b
  | _ => none

/-- What a turn has to find: the boot that is to be fenced is still bound, the detail is not too
long, and a fence finds room in the table. Nothing is loaded. -/
def Undisturbed (reason : FenceReason) (detail : Text) (c : FencingCall) : FencingTurn → Prop
  | .collect => True
  | .next now => ∀ b ∈ c.phase.upcoming, c.observatory.Bound b.1 b.2 ∧
    detail.length ≤ Limits.maxRegionAnnotationLength ∧
    FenceFits c.observatory (.fencePublisherBoot b.1 b.2 reason detail now)
  | .other a => FenceFits c.observatory a

instance (reason : FenceReason) (detail : Text) (c : FencingCall) :
    DecidablePred (Undisturbed reason detail c)
  | .collect => .isTrue trivial
  | .next _ => inferInstanceAs (Decidable (∀ b ∈ c.phase.upcoming, _))
  | .other a => inferInstanceAs (Decidable (FenceFits c.observatory a))

/-- What becomes of a boot that was bound at the call: it is retired, or it is still bound and
its turn is to come. -/
def FencingCall.Awaits (c : FencingCall) (id : PublisherId) (boot : PublisherBootId) : Prop :=
  c.observatory.Retired id boot ∨ c.observatory.Bound id boot ∧
    match c.phase with
    | .called => True
    | .fencing rest => (id, boot) ∈ rest
    | .returned _ => False

theorem mem_boundBoots (hs : s.Sound) (h : s.Bound id boot) : (id, boot) ∈ boundBoots s := by
  obtain ⟨p, hp, hboot⟩ := h
  have hid : p.view.id = id := (hs.bindings id p.binding (by simp [State.binding, hp])).id_eq
  exact List.mem_map.2 ⟨(id, p), ExtTreeMap.mem_toList_iff_getElem?_eq_some.2 hp,
    Prod.ext hid hboot⟩

section

variable {reason : FenceReason} {detail : Text} {c : FencingCall} {id : PublisherId}
  {boot : PublisherBootId}

/-- Every turn is a step of the observatory, or leaves it alone. -/
theorem FencingCall.turn_observatory (reason : FenceReason) (detail : Text) (c : FencingCall)
    (t : FencingTurn) :
    (c.turn reason detail t).2.observatory = c.observatory ∨
      ∃ a, (c.turn reason detail t).2.observatory = (act c.observatory a).2 := by
  cases t with
  | collect =>
    rw [FencingCall.turn]
    split <;> exact .inl rfl
  | other a =>
    rw [FencingCall.turn]
    split
    · exact .inl rfl
    · exact .inr ⟨a, rfl⟩
  | next now =>
    rw [FencingCall.turn]
    split
    · exact .inl rfl
    next id boot rest _ =>
      refine .inr ⟨.fencePublisherBoot id boot reason detail now, ?_⟩
      rw [act]
      rcases fencePublisherBoot c.observatory id boot reason detail now with ⟨e | view, s⟩
      · dsimp only
        split <;> rfl
      · rfl
    · exact .inl rfl

/-- Another caller's turn. -/
theorem FencingCall.Awaits.other (h : c.Awaits id boot) (hs : c.observatory.Sound)
    (hfits : FenceFits c.observatory a) :
    FencingCall.Awaits { c with observatory := (act c.observatory a).2 } id boot := by
  rcases h with hretired | ⟨hbound, hphase⟩
  · exact .inl (hretired.act hs hfits).1
  · rcases hbound.act hs hfits with hbound | hretired
    · exact .inr ⟨hbound, hphase⟩
    · exact .inl hretired

/-- The turn of a boot that is still bound. -/
theorem FencingCall.turn_next (reason : FenceReason) (now : Nanos) {rest : List (PublisherId × PublisherBootId)}
    (hphase : c.phase = .fencing ((id, boot) :: rest)) (hbound : c.observatory.Bound id boot)
    (hdetail : detail.length ≤ Limits.maxRegionAnnotationLength) :
    (c.turn reason detail (.next now)).2 =
        ⟨(act c.observatory (.fencePublisherBoot id boot reason detail now)).2, .fencing rest⟩ ∧
      retires c.observatory (.fencePublisherBoot id boot reason detail now)
        (act c.observatory (.fencePublisherBoot id boot reason detail now)).1 =
          some (id, boot) := by
  obtain ⟨p, hp, hboot⟩ := hbound
  have hfence : fencePublisherBoot c.observatory id boot reason detail now =
      (.ok (p.view.fence reason detail), fenceBound c.observatory id p reason detail now) := by
    rw [fencePublisherBoot, if_neg (Nat.not_lt.2 hdetail)]
    simp only [hp]
    rw [if_neg (not_not.2 hboot)]
  rw [turn, act]
  simp only [hphase, hfence]
  exact ⟨rfl, rfl⟩

theorem FencingCall.Awaits.turn (h : c.Awaits id boot) (hs : c.observatory.Sound)
    {t : FencingTurn} (ht : Undisturbed reason detail c t) :
    (c.turn reason detail t).2.Awaits id boot := by
  cases t with
  | other a =>
    rw [FencingCall.turn]
    split
    · exact h
    · exact h.other hs ht
  | collect =>
    rw [FencingCall.turn]
    split
    · rcases h with hretired | ⟨hbound, _⟩
      · exact .inl hretired
      · exact .inr ⟨hbound, mem_boundBoots hs hbound⟩
    · exact h
  | next now =>
    match hphase : c.phase with
    | .called => simpa only [FencingCall.turn, hphase] using h
    | .returned result => simpa only [FencingCall.turn, hphase] using h
    | .fencing [] =>
      simp only [FencingCall.turn, hphase]
      rcases h with hretired | ⟨_, hmem⟩
      · exact .inl hretired
      · rw [hphase] at hmem
        exact nomatch hmem
    | .fencing ((id', boot') :: rest) =>
      obtain ⟨hbound', hdetail, hfits⟩ := ht (id', boot') (by rw [hphase]; rfl)
      obtain ⟨hturn, hretires⟩ := FencingCall.turn_next reason now hphase hbound' hdetail
      rw [hturn]
      by_cases hself : (id, boot) = (id', boot')
      · obtain ⟨rfl, rfl⟩ := Prod.mk.inj hself
        exact .inl (retires_retired hs hfits hretires)
      · rcases h.other hs hfits with hretired | ⟨hbound, hmem⟩
        · exact .inl hretired
        · dsimp only at hmem
          rw [hphase] at hmem
          exact .inr ⟨hbound, (List.mem_cons.1 hmem).resolve_left hself⟩

end

/-- From every reachable state: if every turn of the call finds the boot to be fenced still bound,
    the detail is not too long and fences find room in the table, then no boot that was current at
    the call is current when it returns. -/
theorem fenceAll_leavesNone (options : ObservatoryOptions) (now : Nanos) (before : List Action)
    (reason : FenceReason) (detail : Text) (turns : List FencingTurn) {s : State} {c : FencingCall}
    (hs : s = Run.final act (State.initial options now) before)
    (hc : c = Run.final (FencingCall.turn reason detail) ⟨s, .called⟩ turns)
    (hturns : Run.Along (FencingCall.turn reason detail) (Undisturbed reason detail) ⟨s, .called⟩
      turns) {result : Status} (hreturned : c.phase = .returned result) (id : PublisherId)
    (boot : PublisherBootId) (hcurrent : s.Serving id boot) : ¬c.observatory.Serving id boot := by
  obtain ⟨p, hp, hboot, _⟩ := hcurrent
  have hsound : s.Sound := hs ▸ final_sound (sound_initial options now) before
  have hfencedOut : s.FencedOut := hs ▸ final_fencedOut (fencedOut_initial options now) before
  have hinvariant := Run.final_invariant (I := fun c : FencingCall =>
      c.observatory.Sound ∧ c.observatory.FencedOut ∧ c.Awaits id boot)
    (fun c t h ht => ?_) ⟨hsound, hfencedOut, .inr ⟨⟨p, hp, hboot⟩, trivial⟩⟩ hturns
  · obtain ⟨-, hfencedOut, hawaits⟩ := hinvariant
    rw [← hc] at hfencedOut hawaits
    rcases hawaits with hretired | ⟨_, hphase⟩
    · exact hretired.not_serving hfencedOut
    · rw [hreturned] at hphase
      exact hphase.elim
  · obtain ⟨hsound, hfencedOut, hawaits⟩ := h
    have hnext := hawaits.turn hsound ht
    rcases FencingCall.turn_observatory reason detail c t with heq | ⟨a, heq⟩
    · exact ⟨heq ▸ hsound, heq ▸ hfencedOut, hnext⟩
    · exact ⟨heq ▸ act_sound hsound a, heq ▸ act_fencedOut hfencedOut a, hnext⟩

/-- Boot 1 of `p` and boot 1 of `q` have registered. -/
def twoBoots : List Action :=
  [registerBoot 1, .registerPublisher { id := ascii "q", boot := 1 } fun _ => 0]

/-- The call has returned with an error. -/
def FencingPhase.failed : FencingPhase → Bool
  | .returned (.error _) => true
  | _ => false

/-- Another boot of `p` registers after the fences of `p` and `q`. -/
theorem fenceAll_leavesNone_two :
    let s := Run.final act (State.initial {} 0) twoBoots
    let c := Run.final (FencingCall.turn .administrative []) ⟨s, .called⟩
      [.collect, .next 0, .next 0, .other (registerBoot 2), .next 0]
    s.Serving (ascii "q") 1 ∧ ¬c.observatory.Serving (ascii "q") 1 := by
  have hcurrent : (Run.final act (State.initial {} 0) twoBoots).Serving (ascii "q") 1 := by
    decide +kernel
  exact ⟨hcurrent, fenceAll_leavesNone {} 0 twoBoots .administrative []
    [.collect, .next 0, .next 0, .other (registerBoot 2), .next 0] rfl rfl (by decide +kernel)
    rfl _ _ hcurrent⟩

/-- Another boot of `p` registers after the boots were noted. Then the fence of `p` fails, the
    call returns, and the boot of `q` is as current as before. -/
theorem replacedBoot_leavesOther :
    let s := Run.final act (State.initial {} 0) twoBoots
    let c := Run.final (FencingCall.turn .administrative []) ⟨s, .called⟩
      [.collect, .other (registerBoot 2), .next 0]
    c.phase.failed = true ∧ s.Serving (ascii "q") 1 ∧ c.observatory.Serving (ascii "q") 1 := by
  decide +kernel

end CoherenceObservatory
