import CoherenceObservatory.Bookkeeping

/-!
# Boots that lost their authority

A boot that was fenced, or replaced by another boot of its publisher, must not come back.
What remembers it is the table of watermarks, which a fence trims by dropping the entries
that come first, so that a boot can be forgotten and registered again.
-/

namespace CoherenceObservatory

open Std ExtTreeMap Function

/-! ## Retirement -/

/-- The publisher boot that a step, by its answer, fenced or replaced. -/
def retires (s : State) (a : Action) (answer : Answer) : Option (PublisherId × PublisherBootId) :=
  match a, answer with
  | .fencePublisherBoot id boot _ _ _, .publisher (.ok _) => some (id, boot)
  | .registerPublisher r _, .publisher (.ok _) =>
    (s.binding r.id).bind fun b => if b.boot ≠ r.boot then some (r.id, b.boot) else none
  | _, _ => none

/-- The table has an entry for the key, and it is a fence. -/
def FencedIn (m : ExtTreeMap Text PublisherWatermark) (key : Text) : Prop :=
  ∃ w, m[key]? = some w ∧ w.fenced = true

variable {key : Text} {w : PublisherWatermark} {s : State} {r : PublisherRegistration} {a : Action}
  {p : PublisherId} {b : PublisherBootId}

theorem FencedIn.insert {m : ExtTreeMap Text PublisherWatermark} {key' : Text} (h : FencedIn m key)
    (hw : key' = key → w.fenced = true) : FencedIn (m.insert key' w) key := by
  by_cases hkey : key' = key
  · subst hkey
    exact ⟨w, getElem?_insert_self, hw rfl⟩
  · obtain ⟨w', hw', hfenced⟩ := h
    refine ⟨w', ?_, hfenced⟩
    rw [getElem?_insert, if_neg (by rwa [LawfulEqOrd.compare_eq_iff_eq]), hw']

theorem fencedIn_insert_self (m : ExtTreeMap Text PublisherWatermark) (hw : w.fenced = true) :
    FencedIn (m.insert key w) key :=
  ⟨w, getElem?_insert_self, hw⟩

/-- The boot is fenced in the table, and if it is still bound it has no authority. -/
structure State.Retired (s : State) (p : PublisherId) (b : PublisherBootId) : Prop where
  table : FencedIn s.watermarks (bootKey p b)
  binding : ∀ bound, s.binding p = some bound → bound.boot = b → bound.fenced = true

/-- Nothing is loaded, and a fence that takes effect finds room in the table or an entry of
its boot. -/
def FenceFits (s : State) : Action → Prop
  | .fencePublisherBoot id boot _ _ _ => ∀ bound ∈ s.binding id, bound.boot = boot →
    bootKey id boot ∈ s.watermarks ∨ s.watermarks.size < Limits.maxPublisherWatermarks
  | .load .. => False
  | _ => True

instance (s : State) : DecidablePred (FenceFits s)
  | .fencePublisherBoot id boot _ _ _ => inferInstanceAs (Decidable (∀ bound ∈ s.binding id,
      bound.boot = boot → bootKey id boot ∈ s.watermarks ∨
        s.watermarks.size < Limits.maxPublisherWatermarks))
  | .load .. => .isFalse id
  | .registerNode .. | .registerProcessor .. | .registerAccelerator .. | .registerMemoryDomain ..
  | .registerCoherenceDomain .. | .registerRegion .. | .retireRegion .. | .setTopologyLink ..
  | .bumpTopologyGeneration .. | .setCapability .. | .setCostModel .. | .registerPublisher ..
  | .ingest .. | .admitBatch .. | .finishBatch .. | .ingestCounter .. | .snapshot
  | .reconcile .. | .save .. => .isTrue trivial

/-! ## Steps -/

/-- Writing off the boot bound so far forgets no fence. -/
theorem admitBoot_fencedIn {s' : State} {now : Nanos} (h : admitBoot s r now = .ok s')
    (hkey : FencedIn s.watermarks key) : FencedIn s'.watermarks key := by
  rcases admitBoot_cases h with ⟨rfl, _⟩ | ⟨_, rfl, _⟩ | ⟨p, rfl, _⟩
  · exact hkey
  · exact hkey
  · exact hkey.insert fun _ => rfl

/-- Binding a boot lifts no fence but its own. -/
theorem bindBoot_fencedIn (now : Nanos) (hkey : FencedIn s.watermarks key)
    (hne : bootKey r.id r.boot ≠ key) : FencedIn (bindBoot s r now).watermarks key := by
  rcases bindBoot_watermarks s r now with heq | ⟨kept, -, heq⟩
  · rw [heq]
    exact hkey
  · rw [heq]
    exact hkey.insert fun h => absurd h hne

theorem fenceBound_watermarks_of_fits {id : PublisherId} {p : PublisherState} (hs : s.Sound)
    (hfits : bootKey id p.view.boot ∈ s.watermarks ∨ s.watermarks.size < Limits.maxPublisherWatermarks)
    (reason : FenceReason) (detail : Text) (now : Nanos) :
    (fenceBound s id p reason detail now).watermarks =
      s.watermarks.insert (bootKey id p.view.boot) (p.watermark id p.view.boot reason) := by
  rw [fenceBound_watermarks, trimWatermarks_of_fits _ hfits hs.watermarks.size_le]

/-- Whether authority is enforced is decided once and for all. -/
theorem act_enforces (s : State) (a : Action) :
    (act s a).2.options.enforceCurrentPublisher = s.options.enforceCurrentPublisher := by
  by_cases hdescribes : a.describes = false
  · exact act_of_not_describes (fun s => s.options.enforceCurrentPublisher) hdescribes
  cases a with
  | registerNode | registerProcessor | registerAccelerator | registerMemoryDomain
  | registerCoherenceDomain | registerRegion | setTopologyLink | setCapability | setCostModel
  | retireRegion | bumpTopologyGeneration =>
    exact act_of_describes (fun s => s.options.enforceCurrentPublisher) rfl rfl
  | load path file options clock =>
    rw [act, loadState]
    split
    · rfl
    split <;> rfl
  | _ => exact absurd rfl hdescribes

/-- A retired boot stays retired, and gets no registration. -/
theorem State.Retired.act (h : s.Retired p b) (hs : s.Sound) (hfits : FenceFits s a) :
    (act s a).2.Retired p b ∧ registered a (act s a).1 ≠ some (p, b) := by
  cases act_authority s a with
  | quiet hbinding hwatermarks hacc hreg =>
    exact ⟨⟨hwatermarks ▸ h.table, hbinding ▸ h.binding⟩, by simp [hreg]⟩
  | load _ _ _ _ _ ha => rw [ha] at hfits; exact hfits.elim
  | refuse r clock ha hadmits hacc hreg =>
    refine ⟨⟨admitBoot_fencedIn hadmits h.table, ?_⟩, by simp [hreg]⟩
    rw [admitBoot_binding hadmits]
    exact h.binding
  | bind r clock s₁ ha hchecks hadmits hfenced hstate hacc hreg =>
    have htable := admitBoot_fencedIn hadmits h.table
    -- the fence in the table would have refused the boot itself
    have hne : ¬(r.id = p ∧ r.boot = b) := by
      rintro ⟨rfl, rfl⟩
      obtain ⟨w, hw, hfence⟩ := htable
      simp [hw, hfence] at hfenced
    refine ⟨⟨?_, fun bound hbound hboot => ?_⟩, ?_⟩
    · rw [hstate]
      exact bindBoot_fencedIn _ htable fun hkey => hne (bootKey_injective hkey)
    · rw [hstate, bindBoot_binding, admitBoot_binding hadmits] at hbound
      by_cases hid : p = r.id
      · subst hid
        rw [update_self] at hbound
        have hr := (Binding.register_authority (s.binding r.id) r.id r.boot (keptWatermark s₁ r)).2.1
        rw [Option.some.inj hbound] at hr
        exact absurd ⟨rfl, hr.symm.trans hboot⟩ hne
      · rw [update_of_ne hid] at hbound
        exact h.binding bound hbound hboot
    · rw [hreg]
      exact fun heq => hne (by simpa using heq)
  | fence id boot reason detail now q ha hbound hq hstate hacc hreg =>
    subst ha
    have hfits := fenceBound_watermarks_of_fits hs
      (hq ▸ hfits q.binding (by simp [State.binding, hbound]) hq) reason detail now
    refine ⟨⟨?_, fun bound hb hboot => ?_⟩, by simp [hreg]⟩
    · rw [hstate, hfits]
      exact h.table.insert fun _ => rfl
    · rw [hstate, fenceBound_binding] at hb
      by_cases hid : p = id
      · subst hid
        rw [update_self] at hb
        exact Option.some.inj hb ▸ rfl
      · rw [update_of_ne hid] at hb
        exact h.binding bound hb hboot
  -- accepting a number leaves fences alone
  | commit id boot sequence hash bound hoffers hcommits hwatermarks hreg =>
    refine ⟨⟨hwatermarks ▸ h.table, fun bound' hb hboot => ?_⟩, by simp [hreg]⟩
    rw [hcommits.binding_eq] at hb
    by_cases hid : p = id
    · subst hid
      rw [update_self] at hb
      obtain rfl := Option.some.inj hb
      exact h.binding bound hcommits.bound hboot
    · rw [update_of_ne hid] at hb
      exact h.binding bound' hb hboot

/-- Where authority is enforced, nothing is accepted from a retired boot. -/
theorem State.Retired.not_accepted (h : s.Retired p b)
    (henforce : s.options.enforceCurrentPublisher = true) (q : EventSequence) :
    accepted a (CoherenceObservatory.act s a).1 ≠ some (p, b, q) := by
  intro hq
  obtain ⟨hash, bound, hcommits⟩ := accepted_commits hq
  have hfenced := h.binding bound hcommits.bound hcommits.boot_eq
  simp [(hcommits.authority henforce).2] at hfenced

/-- A step that fences or replaces a boot retires it. -/
theorem retires_retired (hs : s.Sound) (hfits : FenceFits s a)
    (h : retires s a (act s a).1 = some (p, b)) : (act s a).2.Retired p b := by
  cases a with
  | registerPublisher r clock =>
    rw [act] at h ⊢
    rcases registerPublisher_cases s r clock with
      ⟨e, heq⟩ | ⟨s₁, _, hadmits, _, ⟨e, _, heq⟩ | ⟨_, heq⟩⟩ <;> rw [heq] at h ⊢
    · simp [retires] at h
    · simp [retires] at h
    obtain ⟨bound, hbound, hne⟩ : ∃ bound, s.binding r.id = some bound ∧
        bound.boot ≠ r.boot ∧ r.id = p ∧ bound.boot = b := by
      simp only [retires, Prod.map, Option.bind_eq_some_iff] at h
      obtain ⟨bound, hbound, hsome⟩ := h
      split at hsome
      · exact ⟨bound, hbound, ‹_›, by simpa using hsome⟩
      · simp at hsome
    obtain ⟨hboot, rfl, rfl⟩ := hne
    -- the boot replaced is written off as fenced
    have htable : FencedIn s₁.watermarks (bootKey r.id bound.boot) := by
      rcases admitBoot_cases hadmits with ⟨_, hnone, _⟩ | ⟨q, _, hq, hsame, _⟩ | ⟨q, rfl, hq, _⟩
      · simp [State.binding, hnone] at hbound
      · obtain rfl : q.binding = bound := by simpa [State.binding, hq] using hbound
        exact absurd hsame hboot
      · obtain rfl : q.binding = bound := by simpa [State.binding, hq] using hbound
        have hid : q.view.id = r.id := (hs.bindings r.id q.binding hbound).id_eq
        rw [← hid]
        exact fencedIn_insert_self _ rfl
    refine ⟨bindBoot_fencedIn _ htable fun hkey => hboot (bootKey_injective hkey).2.symm, ?_⟩
    intro bound' hbound' hsame
    change (bindBoot s₁ r (clock 1)).binding r.id = some bound' at hbound'
    rw [bindBoot_binding, update_self] at hbound'
    have hr := (Binding.register_authority (s₁.binding r.id) r.id r.boot (keptWatermark s₁ r)).2.1
    rw [Option.some.inj hbound'] at hr
    exact absurd (hsame.symm.trans hr) hboot
  | fencePublisherBoot id boot reason detail now =>
    rw [act] at h ⊢
    rcases fencePublisherBoot_cases s id boot reason detail now with ⟨e, heq⟩ | ⟨q, hq, hboot, _, heq⟩
    · rw [heq] at h
      simp [retires] at h
    · rw [heq] at h ⊢
      obtain ⟨rfl, rfl⟩ : id = p ∧ boot = b := by simpa [retires] using h
      -- there is room, so trimming does not drop the entry
      have hfits := fenceBound_watermarks_of_fits hs
        (hboot ▸ hfits q.binding (by simp [State.binding, hq]) hboot) reason detail now
      refine ⟨?_, fun bound hbound _ => ?_⟩
      · change FencedIn (fenceBound s id q reason detail now).watermarks _
        rw [hfits, hboot]
        exact fencedIn_insert_self _ rfl
      · change (fenceBound s id q reason detail now).binding id = some bound at hbound
        rw [fenceBound_binding, update_self] at hbound
        exact Option.some.inj hbound ▸ rfl
  | _ => simp [retires] at h

/-! ## Runs -/

/-- From any state a fresh observatory with default options can reach: once a step has
    fenced or replaced a boot, no later step of the incarnation registers the boot or
    accepts anything from it, provided the fences find room in the table. -/
theorem retired_stays_out (now : Nanos) (before : List Action) (a : Action) (l : List Action)
    (p : PublisherId) (b : PublisherBootId)
    (hretires : retires (Run.final act (State.initial {} now) before) a
      (act (Run.final act (State.initial {} now) before) a).1 = some (p, b))
    (hfits : Run.Along act FenceFits (Run.final act (State.initial {} now) before) (a :: l)) :
    ∀ e ∈ Run.history act (act (Run.final act (State.initial {} now) before) a).2 l,
      registered e.1 e.2 ≠ some (p, b) ∧ ∀ q, accepted e.1 e.2 ≠ some (p, b, q) := by
  have hsound := final_sound (sound_initial {} now) before
  have henforce : (Run.final act (State.initial {} now) before).options.enforceCurrentPublisher =
      true :=
    Run.final_stable (I := fun s => s.options.enforceCurrentPublisher = true)
      (fun s a h => (act_enforces s a).trans h) rfl _
  refine Run.history_forall
    (I := fun s => s.Sound ∧ s.options.enforceCurrentPublisher = true ∧ s.Retired p b)
    (Q := fun a answer => registered a answer ≠ some (p, b) ∧
      ∀ q, accepted a answer ≠ some (p, b, q)) ?_ ?_ hfits.2
  · rintro s a ⟨hs, henforce, hretired⟩ hfits
    obtain ⟨hkept, hout⟩ := hretired.act hs hfits
    exact ⟨⟨act_sound hs a, (act_enforces s a).trans henforce, hkept⟩, hout,
      hretired.not_accepted henforce⟩
  · exact ⟨act_sound hsound a, (act_enforces _ a).trans henforce,
      retires_retired hsound hfits.1 hretires⟩

/-- A registration of a boot of publisher `p`. -/
def registerBoot (boot : PublisherBootId) : Action :=
  .registerPublisher { id := ascii "p", boot } fun _ => 0

/-- An administrative fence of a boot of publisher `p`. -/
def fenceBoot (boot : PublisherBootId) : Action :=
  .fencePublisherBoot (ascii "p") boot .administrative [] 0

/-- The first boot is replaced by the second and cannot come back. -/
theorem retired_stays_out_replaced :
    retires (Run.final act (State.initial {} 0) [registerBoot 1]) (registerBoot 2)
        (act (Run.final act (State.initial {} 0) [registerBoot 1]) (registerBoot 2)).1 =
          some (ascii "p", 1) ∧
      ∀ e ∈ Run.history act
          (act (Run.final act (State.initial {} 0) [registerBoot 1]) (registerBoot 2)).2
          [registerBoot 1, fenceBoot 2, registerBoot 1],
        registered e.1 e.2 ≠ some (ascii "p", 1) ∧ ∀ q, accepted e.1 e.2 ≠ some (ascii "p", 1, q) :=
  ⟨by decide +kernel, retired_stays_out 0 [registerBoot 1] (registerBoot 2) _ _ _
    (by decide +kernel) (by decide +kernel)⟩

/-- The boots `first`, ..., `first + n - 1` come and are fenced in turn. -/
def fenceInTurn (first : PublisherBootId) : Nat → List Action
  | 0 => []
  | n + 1 => registerBoot first :: fenceBoot first :: fenceInTurn (first + 1) n

/-- Boot 1 is fenced, 256 further boots come and are fenced, and boot 1 registers again. -/
theorem fencedBoot_returns :
    retires (Run.final act (State.initial {} 0) [registerBoot 1]) (fenceBoot 1)
        (act (Run.final act (State.initial {} 0) [registerBoot 1]) (fenceBoot 1)).1 =
          some (ascii "p", 1) ∧
      ∃ e ∈ Run.history act
          (act (Run.final act (State.initial {} 0) [registerBoot 1]) (fenceBoot 1)).2
          (fenceInTurn 2 256 ++ [registerBoot 1]),
        registered e.1 e.2 = some (ascii "p", 1) := by
  decide +kernel

end CoherenceObservatory
