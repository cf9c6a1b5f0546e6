import CoherenceObservatory.Authority
import CoherenceObservatory.Lib.Run
import CoherenceObservatory.Persistence.File

/-!
# The observatory as a machine

Every public operation takes the lock, acts on the state and answers; the operations that
take the lock several times (a batch, fencing whoever is current) are made of such steps,
and other callers may come in between. `Action` lists the steps and `act` performs one, so
that an execution, however its callers interleave, is a run of `act`.

Operations that only read the state are not steps. A step that describes the system leaves
publishers and evidence alone, and the others leave the description alone.
-/

namespace CoherenceObservatory

open Std

/-! ## Reconciliation -/

/-- One publisher's evidence generation is retired. -/
def retireEvidence (s : State) (id : PublisherId) (p : PublisherState) (now : Nanos) : State :=
  recordStale
    (s.setPublisher id
      { p with view := { p.view with evidenceGeneration := p.view.evidenceGeneration + 1 } } s.loss)
    { kind := .staleGeneration
      publisher := p.view.id
      publisherBoot := p.view.boot
      observedAtNs := now
      detail := ascii "evidence generation retired by reconciliation; fresh publication required" }

/-- The loop over the publishers. -/
def retireEach (clock : Nat → Nanos) : State → List (PublisherId × PublisherState) → State
  | s, [] => s
  | s, (id, p) :: l => retireEach clock (retireEvidence s id p (clock l.length)) l

/-- `reconcile_current_evidence`. -/
def reconcileCurrentEvidence (s : State) (clock : Nat → Nanos) : ReconcileReport × State :=
  let publishers := s.publishers.toList
  let s := retireEach clock { s with observationEpoch := s.observationEpoch + 1 } publishers
  ({ coordinatorEpoch := s.coordinatorEpoch
     observationEpoch := s.observationEpoch
     publishersMarkedStale := UInt64.ofNat (publishers.countP fun e => !e.2.view.current)
     evidenceGenerationsRetired := UInt64.ofNat publishers.length
     staleRecords := UInt64.ofNat publishers.length
     findingsInvalidated := UInt64.ofNat s.stale.length }, s)

/-! ## Steps -/

/-- One turn under the lock, with the clock readings it takes. -/
inductive Action
  | registerNode (r : NodeRecord) (now : Nanos)
  | registerProcessor (r : ProcessorRecord) (now : Nanos)
  | registerAccelerator (r : AcceleratorRecord) (now : Nanos)
  | registerMemoryDomain (r : MemoryDomainRecord) (now : Nanos)
  | registerCoherenceDomain (r : CoherenceDomainRecord) (now : Nanos)
  | registerRegion (r : RegionRecord) (now : Nanos)
  | retireRegion (region : MemoryRegionId) (generation : MemoryRegionGeneration) (reason : Text)
      (now : Nanos)
  | setTopologyLink (link : TopologyLink)
  | bumpTopologyGeneration (reason : Text) (now : Nanos)
  | setCapability (c : Capability)
  | setCostModel (model : CostModel)
  | registerPublisher (r : PublisherRegistration) (clock : Nat → Nanos)
  | fencePublisherBoot (id : PublisherId) (boot : PublisherBootId) (reason : FenceReason)
      (detail : Text) (now : Nanos)
  | ingest (o : Observation) (now : Nanos)
  | admitBatch (count : Nat)
  | finishBatch (count : Nat)
  | ingestCounter (c : CounterPublication) (now : Nanos)
  | snapshot
  | reconcile (clock : Nat → Nanos)
  | save (options : PersistenceOptions)
  | load (path : Text) (file : Option (List UInt8)) (options : PersistenceOptions)
      (clock : Nat → Nanos)

/-- What an operation returns. -/
inductive Answer
  | status (r : Status)
  | topology (r : Except Error TopologyGeneration)
  | publisher (r : Except Error PublisherView)
  | ingested (outcome : IngestionOutcome)
  | counter (r : Except Error CounterOutcome)
  | reconciled (report : ReconcileReport)
  | saved (file : List UInt8)
  | loaded (r : Except Error PersistenceReport)
  | done

/-- One operation of the observatory. -/
def act (s : State) : Action → Answer × State
  | .registerNode r now => (registerNode s r now).map .status id
  | .registerProcessor r now => (registerProcessor s r now).map .status id
  | .registerAccelerator r now => (registerAccelerator s r now).map .status id
  | .registerMemoryDomain r now => (registerMemoryDomain s r now).map .status id
  | .registerCoherenceDomain r now => (registerCoherenceDomain s r now).map .status id
  | .registerRegion r now => (registerRegion s r now).map .status id
  | .retireRegion region generation reason now =>
    (retireRegion s region generation reason now).map .status id
  | .setTopologyLink link => (setTopologyLink s link).map .status id
  | .bumpTopologyGeneration reason now => (bumpTopologyGeneration s reason now).map .topology id
  | .setCapability c => (setCapability s c).map .status id
  | .setCostModel model => (setCostModel s model).map .status id
  | .registerPublisher r clock => (registerPublisher s r clock).map .publisher id
  | .fencePublisherBoot id boot reason detail now =>
    (fencePublisherBoot s id boot reason detail now).map .publisher (fun s => s)
  | .ingest o now => (ingestLocked s o now).map .ingested id
  | .admitBatch count => (admitBatch s count).map .status id
  | .finishBatch count => (.done, finishBatch s count)
  | .ingestCounter c now => (ingestCounter s c now).map .counter id
  | .snapshot => (.done, { s with snapshotGeneration := s.snapshotGeneration + 1 })
  | .reconcile clock => (reconcileCurrentEvidence s clock).map .reconciled id
  | .save options => (.saved (saveState s options), s)
  | .load path file options clock => (loadState s path file options clock).map .loaded id

/-- The sequence number a step offers, and for which publisher boot. -/
def Action.offers : Action → Option (PublisherId × PublisherBootId × EventSequence)
  | .ingest o _ => some (o.sourcePublisher, o.publisherBoot, o.sequence)
  | .ingestCounter c _ => some (c.publisher, c.publisherBoot, c.sequence)
  | _ => none

/-- Whether an answer says that an observation or a counter sample was accepted. -/
def Answer.accepts : Answer → Bool
  | .ingested outcome => outcome.disposition.isAccepted
  | .counter r => counterAccepted r
  | _ => false

/-- The sequence number a step took for a publisher boot. -/
def accepted (a : Action) (answer : Answer) :
    Option (PublisherId × PublisherBootId × EventSequence) :=
  if answer.accepts then a.offers else none

/-- The publisher boot a step registered. -/
def registered : Action → Answer → Option (PublisherId × PublisherBootId)
  | .registerPublisher r _, .publisher (.ok _) => some (r.id, r.boot)
  | _, _ => none

/-! ## What a step leaves alone -/

/-- The steps that describe the system, or replace its description by that of a file. -/
def Action.describes : Action → Bool
  | .registerNode .. | .registerProcessor .. | .registerAccelerator .. | .registerMemoryDomain ..
  | .registerCoherenceDomain .. | .registerRegion .. | .retireRegion .. | .setTopologyLink ..
  | .bumpTopologyGeneration .. | .setCapability .. | .setCostModel .. | .load .. => true
  | .registerPublisher .. | .fencePublisherBoot .. | .ingest .. | .admitBatch ..
  | .finishBatch .. | .ingestCounter .. | .snapshot | .reconcile .. | .save .. => false

/-- Whether a step loads a file. -/
def Action.loads : Action → Bool
  | .load .. => true
  | _ => false

/-- The steps by which publishers come and go. -/
def Action.binds : Action → Bool
  | .registerPublisher .. | .fencePublisherBoot .. | .reconcile .. => true
  | _ => false

/-- A state without what describes the system. -/
def State.activity (s : State) : State :=
  { s with
    options := { s.options with costModel := {} }
    topologyGeneration := 0
    nodes := ∅
    processors := ∅
    accelerators := ∅
    memoryDomains := ∅
    coherenceDomains := ∅
    regions := ∅
    topology := {}
    stale := []
    capabilities := ∅ }

/-- A state without its publishers. -/
def State.unbound (s : State) : State :=
  { s with observationEpoch := 0, publishers := ∅, watermarks := ∅, stale := [] }

/-- A state without its publishers and their evidence, and without its tallies. -/
def State.skeleton (s : State) : State :=
  { s with
    observationEpoch := 0
    snapshotGeneration := 0
    publishers := ∅
    counters := ∅
    watermarks := ∅
    aggregates := {}
    journal := []
    regionEvidence := ∅
    regionEvidenceOrder := []
    stale := []
    loss := {}
    pendingIngestion := 0 }

/-- Describing the system touches nothing else. -/
theorem act_activity (s : State) {a : Action} (hdescribes : a.describes = true)
    (hloads : a.loads = false) : (act s a).2.activity = s.activity := by
  cases a with
  | registerNode | registerProcessor | registerAccelerator | registerMemoryDomain
  | registerCoherenceDomain | registerRegion | setTopologyLink | setCapability | setCostModel =>
    exact commit_induction (P := fun s' => s'.activity = s.activity) rfl fun _ => rfl
  | retireRegion region generation reason now =>
    rw [act, retireRegion]
    split <;> rfl
  | bumpTopologyGeneration reason now =>
    rw [act, bumpTopologyGeneration]
    split <;> rfl
  | load => cases hloads
  | _ => cases hdescribes

/-- What does not depend on the description stays as it is when the description changes. -/
theorem act_of_describes {β : Type} {s : State} {a : Action} (f : State → β)
    (hdescribes : a.describes = true) (hloads : a.loads = false)
    (hf : ∀ s : State, f s.activity = f s := by intro; rfl) : f (act s a).2 = f s := by
  rw [← hf, act_activity s hdescribes hloads, hf]

theorem admitBoot_unbound {s s' : State} {r : PublisherRegistration} {now : Nanos}
    (h : admitBoot s r now = .ok s') : s'.unbound = s.unbound := by
  rcases admitBoot_cases h with ⟨rfl, _⟩ | ⟨_, rfl, _⟩ | ⟨_, rfl, _⟩ <;> rfl

theorem retireEach_unbound (clock : Nat → Nanos) (l : List (PublisherId × PublisherState))
    (s : State) : (retireEach clock s l).unbound = s.unbound := by
  induction l generalizing s with
  | nil => rfl
  | cons e l ih => exact ih _

/-- Publishers come and go without touching anything but their bindings. -/
theorem act_unbound (s : State) {a : Action} (h : a.binds = true) :
    (act s a).2.unbound = s.unbound := by
  cases a with
  | reconcile clock => exact (retireEach_unbound clock _ _).trans rfl
  | registerPublisher r clock =>
    rw [act]
    rcases registerPublisher_cases s r clock with
      ⟨e, heq⟩ | ⟨s', _, hadmits, _, ⟨e, _, heq⟩ | ⟨_, heq⟩⟩ <;> rw [heq]
    · rfl
    · exact admitBoot_unbound hadmits
    · have hunbound := admitBoot_unbound hadmits
      exact hunbound
  | fencePublisherBoot id boot reason detail now =>
    rw [act]
    rcases fencePublisherBoot_cases s id boot reason detail now with ⟨e, heq⟩ | ⟨_, _, _, _, heq⟩ <;>
      rw [heq] <;> rfl
  | _ => cases h

/-- What does not depend on the bindings stays as it is when they change. -/
theorem act_of_binds {β : Type} {s : State} {a : Action} (f : State → β) (h : a.binds = true)
    (hf : ∀ s : State, f s.unbound = f s := by intro; rfl) : f (act s a).2 = f s := by
  rw [← hf, act_unbound s h, hf]

theorem IngestOnly.skeleton_eq {s s' : State} (h : IngestOnly s s') :
    s'.skeleton = s.skeleton := by
  obtain ⟨_, _, _, _, _, _, _, _, rfl⟩ := h
  rfl

/-- Publishers come and go, and evidence is taken, without touching the skeleton. -/
theorem act_skeleton (s : State) {a : Action} (h : a.describes = false) :
    (act s a).2.skeleton = s.skeleton := by
  cases a with
  | finishBatch | snapshot | save => rfl
  | admitBatch count =>
    simp only [act, Prod.map, id, admitBatch]
    split_ifs <;> rfl
  | registerPublisher | fencePublisherBoot | reconcile =>
    exact act_of_binds State.skeleton rfl
  | ingest o now => exact (ingestLocked_binding s o now).1.skeleton_eq
  | ingestCounter c now => exact (ingestCounter_binding s c now).1.skeleton_eq
  | _ => simp [Action.describes] at h

/-- What depends on the skeleton alone changes only with the description. -/
theorem act_of_not_describes {β : Type} {s : State} {a : Action} (f : State → β)
    (h : a.describes = false) (hf : ∀ s : State, f s.skeleton = f s := by intro; rfl) :
    f (act s a).2 = f s := by
  rw [← hf, act_skeleton s h, hf]

/-! ## What a step can do to authority -/

/-- The effect of a step on bindings and on the table of watermarks. -/
inductive AuthorityStep (s : State) (a : Action) (answer : Answer) (s' : State) : Prop
  /-- Nothing changes and nothing is granted. -/
  | quiet (binding_eq : s'.binding = s.binding) (watermarks_eq : s'.watermarks = s.watermarks)
      (accepted_eq : accepted a answer = none) (registered_eq : registered a answer = none)
  /-- The offered sequence is committed; the answer may still be a refusal. -/
  | commit (id : PublisherId) (boot : PublisherBootId) (sequence : EventSequence) (hash : UInt64)
      (b : Binding) (offers_eq : a.offers = some (id, boot, sequence))
      (commits : Commits s s' id boot sequence hash b)
      (watermarks_eq : s'.watermarks = s.watermarks)
      (registered_eq : registered a answer = none)
  /-- A registration is refused because the table has the boot as fenced. By then the boot
  bound so far may be written off. -/
  | refuse (r : PublisherRegistration) (clock : Nat → Nanos) (a_eq : a = .registerPublisher r clock)
      (admits : admitBoot s r (clock 0) = .ok s')
      (accepted_eq : accepted a answer = none) (registered_eq : registered a answer = none)
  /-- A registration binds the boot. -/
  | bind (r : PublisherRegistration) (clock : Nat → Nanos) (s₁ : State)
      (a_eq : a = .registerPublisher r clock) (checks : checkRegistration r = .ok ())
      (admits : admitBoot s r (clock 0) = .ok s₁)
      (not_fenced : s₁.watermarks[bootKey r.id r.boot]?.any PublisherWatermark.fenced = false)
      (state_eq : s' = bindBoot s₁ r (clock 1)) (accepted_eq : accepted a answer = none)
      (registered_eq : registered a answer = some (r.id, r.boot))
  /-- The bound boot is fenced. -/
  | fence (id : PublisherId) (boot : PublisherBootId) (reason : FenceReason) (detail : Text)
      (now : Nanos) (p : PublisherState) (a_eq : a = .fencePublisherBoot id boot reason detail now)
      (bound : s.publishers[id]? = some p) (boot_eq : p.view.boot = boot)
      (state_eq : s' = fenceBound s id p reason detail now) (accepted_eq : accepted a answer = none)
      (registered_eq : registered a answer = none)
  /-- A file is loaded. -/
  | load (path : Text) (data : List UInt8) (options : PersistenceOptions) (clock : Nat → Nanos)
      (staged : StagedState) (a_eq : a = .load path (some data) options clock)
      (parses : parseState data options = .ok staged) (state_eq : s' = recover s staged clock)
      (accepted_eq : accepted a answer = none) (registered_eq : registered a answer = none)

theorem retireEach_binding (clock : Nat → Nanos) (l : List (PublisherId × PublisherState))
    (s : State) (h : ∀ e ∈ l, s.binding e.1 = some e.2.binding) :
    (retireEach clock s l).binding = s.binding ∧
      (retireEach clock s l).watermarks = s.watermarks := by
  induction l generalizing s with
  | nil => exact ⟨rfl, rfl⟩
  | cons e l ih =>
    obtain ⟨id, p⟩ := e
    have hbinding : (retireEvidence s id p (clock l.length)).binding = s.binding := by
      have hset := binding_setPublisher s id
        { p with view := { p.view with evidenceGeneration := p.view.evidenceGeneration + 1 } } s.loss
      refine (binding_congr rfl).trans (hset.trans ?_)
      exact Function.update_eq_self_iff.2 (h (id, p) List.mem_cons_self).symm
    obtain ⟨hb, hw⟩ := ih (retireEvidence s id p (clock l.length)) fun e he => by
      rw [hbinding]
      exact h e (List.mem_cons_of_mem _ he)
    exact ⟨hb.trans hbinding, hw⟩

theorem reconcileCurrentEvidence_authority (s : State) (clock : Nat → Nanos) :
    (reconcileCurrentEvidence s clock).2.binding = s.binding ∧
      (reconcileCurrentEvidence s clock).2.watermarks = s.watermarks := by
  refine retireEach_binding clock s.publishers.toList
    { s with observationEpoch := s.observationEpoch + 1 } fun e he => ?_
  have := ExtTreeMap.mem_toList_iff_getElem?_eq_some.1 he
  simp [State.binding, this]

/-- What a step can do to bindings and to the table of watermarks. -/
theorem act_authority (s : State) (a : Action) : AuthorityStep s a (act s a).1 (act s a).2 := by
  have hquiet {answer : Answer} {s' : State} (h : s'.binding = s.binding ∧ s'.watermarks = s.watermarks)
      (ha : accepted a answer = none) (hr : registered a answer = none) :
      AuthorityStep s a answer s' := .quiet h.1 h.2 ha hr
  cases a with
  | registerNode | registerProcessor | registerAccelerator | registerMemoryDomain
  | registerCoherenceDomain | registerRegion | setTopologyLink | setCapability | setCostModel
  | retireRegion | bumpTopologyGeneration =>
    exact hquiet ⟨act_of_describes State.binding rfl rfl, act_of_describes State.watermarks rfl rfl⟩
      rfl rfl
  | finishBatch | snapshot | save => exact hquiet ⟨rfl, rfl⟩ rfl rfl
  | admitBatch count =>
    refine hquiet ?_ rfl rfl
    simp only [act, Prod.map, id, admitBatch]
    split
    · exact ⟨rfl, rfl⟩
    split
    · exact ⟨rfl, rfl⟩
    split <;> exact ⟨rfl, rfl⟩
  | reconcile clock => exact hquiet (reconcileCurrentEvidence_authority s clock) rfl rfl
  | registerPublisher r clock =>
    rw [act]
    rcases registerPublisher_cases s r clock with ⟨e, h⟩ | ⟨s₁, hcheck, hadmits, _, hrest⟩
    · rw [h]
      exact hquiet ⟨rfl, rfl⟩ rfl rfl
    rcases hrest with ⟨e, _, h⟩ | ⟨hfenced, h⟩ <;> rw [h]
    · exact .refuse r clock rfl hadmits rfl rfl
    · exact .bind r clock s₁ rfl hcheck hadmits hfenced rfl rfl rfl
  | fencePublisherBoot id boot reason detail now =>
    rw [act]
    rcases fencePublisherBoot_cases s id boot reason detail now with ⟨e, h⟩ | ⟨p, hp, hb, _, h⟩ <;>
      rw [h]
    · exact hquiet ⟨rfl, rfl⟩ rfl rfl
    · exact .fence id boot reason detail now p rfl hp hb rfl rfl rfl
  | ingest o now =>
    obtain ⟨honly, h⟩ := ingestLocked_binding s o now
    have hw : (ingestLocked s o now).2.watermarks = s.watermarks := honly.watermarks_eq
    rcases h with ⟨hrefused, hb⟩ | ⟨_, _, b, hcommits⟩
    · exact hquiet ⟨hb, hw⟩ (by simp [accepted, act, Answer.accepts, hrefused]) rfl
    · exact .commit _ _ _ _ b rfl hcommits hw rfl
  | ingestCounter c now =>
    obtain ⟨honly, h⟩ := ingestCounter_binding s c now
    have hw : (ingestCounter s c now).2.watermarks = s.watermarks := honly.watermarks_eq
    rcases h with ⟨hrefused, hb⟩ | ⟨_, b, _, _, hcommits⟩
    · exact hquiet ⟨hb, hw⟩ (by simp [accepted, act, Answer.accepts, hrefused]) rfl
    · exact .commit _ _ _ _ b rfl hcommits hw rfl
  | load path file options clock =>
    rw [act, loadState]
    split
    · exact hquiet ⟨rfl, rfl⟩ rfl rfl
    next data hread =>
    split
    · exact hquiet ⟨rfl, rfl⟩ rfl rfl
    next staged hparse =>
    obtain rfl := readFileBounded_eq_ok hread
    exact .load path data options clock staged rfl hparse rfl rfl rfl

/-- A step that accepts a number commits it. -/
theorem accepted_commits {s : State} {a : Action} {id : PublisherId} {boot : PublisherBootId}
    {q : EventSequence} (h : accepted a (act s a).1 = some (id, boot, q)) :
    ∃ hash b, Commits s (act s a).2 id boot q hash b := by
  cases act_authority s a with
  | quiet _ _ hnone => simp [hnone] at h
  | refuse _ _ _ _ hnone => simp [hnone] at h
  | bind _ _ _ _ _ _ _ _ hnone => simp [hnone] at h
  | fence _ _ _ _ _ _ _ _ _ _ hnone => simp [hnone] at h
  | load _ _ _ _ _ _ _ _ hnone => simp [hnone] at h
  | commit id' boot' sequence hash b hoffers hcommits =>
    rw [accepted, hoffers] at h
    obtain ⟨_, heq⟩ := Option.ite_none_right_eq_some.1 h
    obtain ⟨rfl, rfl, rfl⟩ := by simpa using heq
    exact ⟨hash, b, hcommits⟩

/-! ## Composite operations -/

/-- The steps of the elements of a batch. -/
def ingestActions (clock : Nat → Nanos) : List Observation → List Action
  | [] => []
  | o :: os => .ingest o (clock os.length) :: ingestActions clock os

/-- The elements of a batch are ingested by a run. -/
theorem ingestEach_run (clock : Nat → Nanos) (os : List Observation) (s : State) :
    (Run.history act s (ingestActions clock os)).map Prod.snd =
        (ingestEach clock s os).1.map Answer.ingested ∧
      Run.final act s (ingestActions clock os) = (ingestEach clock s os).2 := by
  induction os generalizing s with
  | nil => exact ⟨rfl, rfl⟩
  | cons o os ih =>
    obtain ⟨hanswers, hfinal⟩ := ih (ingestLocked s o (clock os.length)).2
    exact ⟨congrArg (List.cons _) hanswers, hfinal⟩

end CoherenceObservatory
