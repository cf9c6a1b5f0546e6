import CoherenceObservatory.Structure

/-!
# Publisher authority

A publisher identity is bound to one boot at a time. Registering another boot supersedes
the bound one, fencing takes a boot's authority away, and a table keyed by boot remembers
the replay watermark and the fence of boots that are gone.
-/

namespace CoherenceObservatory

open Std Limits

/-! ## Registration -/

/-- An identity that may be left open. -/
def checkOptionalToken (token : Text) : Status :=
  if token = [] then .ok () else validateIdentityToken token

/-- The checks of `register_publisher` that do not look at the state. -/
def checkRegistration (r : PublisherRegistration) : Status := do
  validateIdentityToken r.id
  failIf (r.boot = 0) (failWith .invalidArgument "publisher boot identity must be non-zero")
  checkOptionalToken r.observer
  checkOptionalToken r.node
  failIf (r.displayName.length > maxRegionAnnotationLength)
    (failWith .tooLarge "publisher display name too long")
  failIf (¬r.provenance.raw < 10)
    (failWith .invalidArgument "publisher provenance out of range")

/-- What the table keeps of a boot: its watermark and why it lost authority. -/
def PublisherState.watermark (p : PublisherState) (id : PublisherId) (boot : PublisherBootId)
    (reason : FenceReason) : PublisherWatermark where
  publisher := id
  boot := boot
  highWatermark := p.highWatermark
  hasWatermark := p.hasWatermark
  fenced := true
  fenceReason := reason
  bootIncarnations := p.bootIncarnations
  lastSeenNs := p.view.lastSeenNs

/-- The bound boot is written off for a replacement. -/
def supersede (s : State) (existing : PublisherState) (now : Nanos) : State :=
  recordStale
    { s with
      watermarks := s.watermarks.insert (bootKey existing.view.id existing.view.boot)
        (existing.watermark existing.view.id existing.view.boot .supersededByNewBoot) }
    { kind := .staleBoot
      publisher := existing.view.id
      publisherBoot := existing.view.boot
      observedAtNs := now
      detail := ascii "publisher boot superseded by a replacement incarnation" }

/-- What happens to the boot bound so far: the state with it written off, if it must be. -/
def admitBoot (s : State) (r : PublisherRegistration) (now : Nanos) : Except Error State :=
  match s.publishers[r.id]? with
  | none =>
    if s.publishers.size ≥ maxPublisherCount then
      .error (failWith .tooMany "publisher capacity reached")
    else .ok s
  | some existing =>
    if existing.view.boot = r.boot then
      if existing.view.fenced then
        .error (failWith .staleBoot "a fenced publisher boot identity is never re-admitted" r.id)
      else .ok s
    else if s.watermarks.size ≥ maxPublisherWatermarks ∧
        bootKey existing.view.id existing.view.boot ∉ s.watermarks then
      .error (failWith .tooMany "publisher boot watermark capacity reached")
    else .ok (supersede s existing now)

/-- The bookkeeping of a freshly bound boot. The durable flag is not reset with the rest. -/
def PublisherState.rebind (p : PublisherState) : PublisherState :=
  { p with
    view := { p.view with
      sequences := {}
      acceptedEvents := 0
      acceptedBatches := 0
      acceptedCounters := 0
      rejectedEvents := 0 }
    hasWatermark := false
    highWatermark := 0
    window := .empty
    recentEventIds := .empty
    bootIncarnations := p.bootIncarnations + 1 }

/-- The view a registration leaves, whether or not the boot was bound before. -/
def PublisherView.register (v : PublisherView) (r : PublisherRegistration)
    (epoch : CoordinatorEpoch) (now : Nanos) : PublisherView :=
  { v with
    id := r.id
    boot := r.boot
    observer := r.observer
    node := r.node
    displayName := r.displayName
    provenance := r.provenance
    reality := r.provenance.realityOf
    registeredEpoch := epoch
    evidenceGeneration := if r.evidenceGeneration = 0 then 1 else r.evidenceGeneration
    samplingEpoch := if r.samplingEpoch = 0 then 1 else r.samplingEpoch
    registeredAtNs := now
    lastSeenNs := now
    current := true
    fenced := false
    fenceReason := .notFenced
    fenceDetail := []
    loadedFromState := false }

/-- A watermark kept in the table is taken over as durable, unless the boot has one. -/
def PublisherState.restore (p : PublisherState) : Option PublisherWatermark → PublisherState
  | none => p
  | some kept =>
    if kept.hasWatermark ∧ ¬p.hasWatermark then
      { p with
        hasWatermark := true
        highWatermark := kept.highWatermark
        durableWatermark := true
        view := { p.view with
          sequences := { p.view.sequences with highWatermark := kept.highWatermark } } }
    else p

/-- The publisher a successful registration leaves. -/
def boundPublisher (previous : PublisherState) (r : PublisherRegistration)
    (epoch : CoordinatorEpoch) (kept : Option PublisherWatermark) (now : Nanos) : PublisherState :=
  let p := { previous with view := previous.view.register r epoch now }
  (if previous.view.boot ≠ r.boot then p.rebind else p).restore kept

theorem boundPublisher_view (previous : PublisherState) (r : PublisherRegistration)
    (epoch : CoordinatorEpoch) (kept : Option PublisherWatermark) (now : Nanos) :
    (boundPublisher previous r epoch kept now).view.id = r.id ∧
      (boundPublisher previous r epoch kept now).view.boot = r.boot := by
  have hrestore (p : PublisherState) : (p.restore kept).view.id = p.view.id ∧
      (p.restore kept).view.boot = p.view.boot := by
    cases kept with
    | none => exact ⟨rfl, rfl⟩
    | some kept =>
      rw [PublisherState.restore]
      split <;> exact ⟨rfl, rfl⟩
  unfold boundPublisher
  dsimp only
  split <;> exact hrestore _

/-- The table entry of exactly this boot. -/
def keptWatermark (s : State) (r : PublisherRegistration) : Option PublisherWatermark :=
  s.watermarks[bootKey r.id r.boot]?.filter fun kept => kept.boot = r.boot

/-- The state in which the boot is bound; a table entry of its own loses its fence. -/
def bindBoot (s : State) (r : PublisherRegistration) (now : Nanos) : State :=
  { s with
    publishers := s.publishers.insert r.id
      (boundPublisher (s.publishers[r.id]?.getD {}) r s.coordinatorEpoch (keptWatermark s r) now)
    watermarks := match keptWatermark s r with
      | none => s.watermarks
      | some kept => s.watermarks.insert (bootKey r.id r.boot)
          { kept with fenced := false, fenceReason := .notFenced } }

/-- `register_publisher`. The first clock reading is for the superseded boot. -/
def registerPublisher (s : State) (r : PublisherRegistration) (clock : Nat → Nanos) :
    Except Error PublisherView × State :=
  match checkRegistration r with
  | .error e => (.error e, s)
  | .ok () =>
    if r.coordinatorEpoch ≠ 0 ∧ r.coordinatorEpoch ≠ s.coordinatorEpoch then
      (.error (failWith .staleEpoch "publisher presented a stale coordinator epoch"
        (formatU64 r.coordinatorEpoch)), s)
    else
      match admitBoot s r (clock 0) with
      | .error e => (.error e, s)
      | .ok s =>
        if (s.watermarks[bootKey r.id r.boot]?.any PublisherWatermark.fenced) = true then
          (.error (failWith .staleBoot
            "publisher boot identity was fenced and can never be re-admitted"
            (bootKey r.id r.boot)), s)
        else
          let s := bindBoot s r (clock 1)
          (.ok (s.publishers[r.id]?.getD {}).view, s)

/-! ## Fencing -/

/-- `state.watermarks.erase(begin())`. -/
def eraseFirst (m : ExtTreeMap Text PublisherWatermark) : ExtTreeMap Text PublisherWatermark :=
  match m.toList with
  | [] => m
  | (key, _) :: _ => m.erase key

/-- The smallest keys go until the table fits. -/
def trimWatermarks (m : ExtTreeMap Text PublisherWatermark) : ExtTreeMap Text PublisherWatermark :=
  eraseFirst^[m.size - maxPublisherWatermarks] m

/-- A boot without authority. -/
def PublisherView.fence (v : PublisherView) (reason : FenceReason) (detail : Text) : PublisherView :=
  { v with current := false, fenced := true, fenceReason := reason, fenceDetail := detail }

/-- The state in which the bound boot `p` of `id` is fenced. -/
def fenceBound (s : State) (id : PublisherId) (p : PublisherState) (reason : FenceReason)
    (detail : Text) (now : Nanos) : State :=
  recordStale
    { s with
      publishers := s.publishers.insert id { p with view := p.view.fence reason detail }
      watermarks := trimWatermarks
        (s.watermarks.insert (bootKey id p.view.boot) (p.watermark id p.view.boot reason)) }
    { kind := .fencedPublisher
      publisher := id
      publisherBoot := p.view.boot
      observedAtNs := now
      detail := ascii "publisher fenced (" ++ reason.toText ++ ascii "): " ++ detail }

theorem fenceBound_watermarks (s : State) (id : PublisherId) (p : PublisherState)
    (reason : FenceReason) (detail : Text) (now : Nanos) :
    (fenceBound s id p reason detail now).watermarks = trimWatermarks
      (s.watermarks.insert (bootKey id p.view.boot) (p.watermark id p.view.boot reason)) := by
  rw [fenceBound, recordStale]

/-- `fence_publisher_boot`. -/
def fencePublisherBoot (s : State) (id : PublisherId) (boot : PublisherBootId)
    (reason : FenceReason) (detail : Text) (now : Nanos) : Except Error PublisherView × State :=
  if detail.length > maxRegionAnnotationLength then
    (.error (failWith .tooLarge "fence detail too long"), s)
  else
    match s.publishers[id]? with
    | none => (.error (failWith .notFound "unknown publisher" id), s)
    | some p =>
      if p.view.boot ≠ boot then
        (.error (failWith .staleBoot "fence names a publisher boot that is not current"
          (formatU64 boot)), s)
      else (.ok (p.view.fence reason detail), fenceBound s id p reason detail now)

/-- `fence_publisher`: the boot bound when the lock was first taken. -/
def fencePublisher (s : State) (id : PublisherId) (reason : FenceReason) (detail : Text)
    (now : Nanos) : Except Error PublisherView × State :=
  match s.publishers[id]? with
  | none => (.error (failWith .notFound "unknown publisher" id), s)
  | some p => fencePublisherBoot s id p.view.boot reason detail now

/-- Fences boot after boot and stops at the first failure other than an unknown publisher. -/
def fenceEach (reason : FenceReason) (detail : Text) (clock : Nat → Nanos) :
    State → List (PublisherId × PublisherBootId) → Status × State
  | s, [] => (.ok (), s)
  | s, (id, boot) :: boots =>
    match fencePublisherBoot s id boot reason detail (clock boots.length) with
    | (.ok _, s') => fenceEach reason detail clock s' boots
    | (.error e, s') =>
      if e.code = .notFound then fenceEach reason detail clock s' boots else (.error e, s')

/-- Every publisher with the boot it is bound to. -/
def boundBoots (s : State) : List (PublisherId × PublisherBootId) :=
  s.publishers.toList.map fun e => (e.2.view.id, e.2.view.boot)

/-- `fence_all_publishers`. -/
def fenceAllPublishers (s : State) (reason : FenceReason) (detail : Text) (clock : Nat → Nanos) :
    Status × State :=
  fenceEach reason detail clock s (boundBoots s)

/-! ## What registration and fencing can do -/

variable {s s' : State} {r : PublisherRegistration} {clock : Nat → Nanos}

theorem admitBoot_cases {now : Nanos} (h : admitBoot s r now = .ok s') :
    (s' = s ∧ s.publishers[r.id]? = none ∧ s.publishers.size < maxPublisherCount) ∨
    (∃ p, s' = s ∧ s.publishers[r.id]? = some p ∧ p.view.boot = r.boot ∧ p.view.fenced = false) ∨
    (∃ p, s' = supersede s p now ∧ s.publishers[r.id]? = some p ∧ p.view.boot ≠ r.boot ∧
      (s.watermarks.size < maxPublisherWatermarks ∨
        bootKey p.view.id p.view.boot ∈ s.watermarks)) := by
  unfold admitBoot at h
  split at h
  next hnone =>
    split at h
    · simp at h
    next hsize => exact .inl ⟨(Except.ok.inj h).symm, hnone, Nat.lt_of_not_le hsize⟩
  next p hsome =>
    split at h
    next hboot =>
      split at h
      · simp at h
      next hfenced =>
        exact .inr (.inl ⟨p, (Except.ok.inj h).symm, hsome, hboot, by simpa using hfenced⟩)
    next hboot =>
      split at h
      · simp at h
      next hroom =>
        refine .inr (.inr ⟨p, (Except.ok.inj h).symm, hsome, hboot, ?_⟩)
        by_cases hsize : s.watermarks.size < maxPublisherWatermarks
        · exact .inl hsize
        · exact .inr (not_not.1 fun hnot => hroom ⟨Nat.le_of_not_lt hsize, hnot⟩)

/-- A registration is refused and changes nothing, or the checks passed and the bound
boot was dealt with; then a fenced table entry still refuses it, or it is bound. -/
theorem registerPublisher_cases (s : State) (r : PublisherRegistration) (clock : Nat → Nanos) :
    (∃ e, registerPublisher s r clock = (.error e, s)) ∨
    (∃ s', checkRegistration r = .ok () ∧ admitBoot s r (clock 0) = .ok s' ∧
      (r.coordinatorEpoch = 0 ∨ r.coordinatorEpoch = s.coordinatorEpoch) ∧
      ((∃ e, s'.watermarks[bootKey r.id r.boot]?.any PublisherWatermark.fenced = true ∧
          registerPublisher s r clock = (.error e, s')) ∨
       (s'.watermarks[bootKey r.id r.boot]?.any PublisherWatermark.fenced = false ∧
          registerPublisher s r clock =
            (.ok (boundPublisher (s'.publishers[r.id]?.getD {}) r s'.coordinatorEpoch
              (keptWatermark s' r) (clock 1)).view, bindBoot s' r (clock 1))))) := by
  unfold registerPublisher
  split
  next e _ => exact .inl ⟨e, rfl⟩
  next hcheck =>
    split
    · exact .inl ⟨_, rfl⟩
    next hepoch =>
      split
      next e _ => exact .inl ⟨e, rfl⟩
      next s' hadmits =>
        refine .inr ⟨s', hcheck, hadmits, by tauto, ?_⟩
        split
        next hfenced => exact .inl ⟨_, hfenced, rfl⟩
        next hfenced =>
          refine .inr ⟨by simpa using hfenced, ?_⟩
          simp [bindBoot]

/-- A registration that meets no obstacle binds the boot. -/
theorem registerPublisher_binds (hcheck : checkRegistration r = .ok ())
    (hepoch : r.coordinatorEpoch = 0 ∨ r.coordinatorEpoch = s.coordinatorEpoch)
    (hadmits : admitBoot s r (clock 0) = .ok s')
    (hfenced : s'.watermarks[bootKey r.id r.boot]?.any PublisherWatermark.fenced = false) :
    registerPublisher s r clock =
      (.ok (boundPublisher (s'.publishers[r.id]?.getD {}) r s'.coordinatorEpoch
        (keptWatermark s' r) (clock 1)).view, bindBoot s' r (clock 1)) := by
  rw [registerPublisher, hcheck]
  dsimp only
  rw [if_neg (by tauto), hadmits]
  simp [hfenced, bindBoot]

/-- A fence names the bound boot or changes nothing. -/
theorem fencePublisherBoot_cases (s : State) (id : PublisherId) (boot : PublisherBootId)
    (reason : FenceReason) (detail : Text) (now : Nanos) :
    (∃ e, fencePublisherBoot s id boot reason detail now = (.error e, s)) ∨
    (∃ p, s.publishers[id]? = some p ∧ p.view.boot = boot ∧
      detail.length ≤ maxRegionAnnotationLength ∧
      fencePublisherBoot s id boot reason detail now =
        (.ok (p.view.fence reason detail), fenceBound s id p reason detail now)) := by
  unfold fencePublisherBoot
  split
  · exact .inl ⟨_, rfl⟩
  next hdetail =>
    split
    · exact .inl ⟨_, rfl⟩
    next p hp =>
      split
      · exact .inl ⟨_, rfl⟩
      next hboot => exact .inr ⟨p, hp, not_not.1 hboot, Nat.le_of_not_lt hdetail, rfl⟩

end CoherenceObservatory
