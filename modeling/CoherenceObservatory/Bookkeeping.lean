import CoherenceObservatory.Observatory
import CoherenceObservatory.Persistence.Accepted

/-!
# The bookkeeping of publishers

Two facts hold of publishers and of the table of watermarks in every state that can be
reached, whatever the steps: entries are filed under the names they carry, and the table
stays within its bound.
-/

namespace CoherenceObservatory

open Std Limits ExtTreeMap Function

/-! ## The table of watermarks -/

variable {m : ExtTreeMap Text PublisherWatermark} {k : Text} {w : PublisherWatermark}
  {id : PublisherId} {p : PublisherState} {s : State} {r : PublisherRegistration}

theorem getElem?_eraseFirst (h : (eraseFirst m)[k]? = some w) : m[k]? = some w := by
  unfold eraseFirst at h
  split at h
  · exact h
  · rw [getElem?_erase] at h
    split at h
    · simp at h
    · exact h

theorem size_eraseFirst (m : ExtTreeMap Text PublisherWatermark) :
    (eraseFirst m).size = m.size - 1 := by
  have hlength : m.toList.length = m.size := length_toList
  unfold eraseFirst
  split
  next h => rw [h] at hlength; simp [← hlength]
  next key w l h =>
    have hkey : key ∈ m := by
      have : (key, w) ∈ m.toList := h ▸ List.mem_cons_self
      rw [mem_iff_isSome_getElem?, mem_toList_iff_getElem?_eq_some.1 this]
      rfl
    rw [size_erase, if_pos (contains_iff_mem.2 hkey)]

theorem getElem?_trimWatermarks (h : (trimWatermarks m)[k]? = some w) : m[k]? = some w := by
  unfold trimWatermarks at h
  generalize m.size - maxPublisherWatermarks = n at h
  induction n with
  | zero => exact h
  | succ n ih =>
    rw [iterate_succ_apply'] at h
    exact ih (getElem?_eraseFirst h)

theorem size_trimWatermarks (m : ExtTreeMap Text PublisherWatermark) :
    (trimWatermarks m).size ≤ maxPublisherWatermarks := by
  have hsize (n : Nat) : (eraseFirst^[n] m).size = m.size - n := by
    induction n with
    | zero => rfl
    | succ n ih => rw [iterate_succ_apply', size_eraseFirst, ih]; omega
  rw [trimWatermarks, hsize]
  omega

/-- The table of watermarks: each entry under the key of its boot, within the bound. -/
abbrev FiledWatermarks (bound : Nat) (m : ExtTreeMap Text PublisherWatermark) : Prop :=
  Filed (fun w => bootKey w.publisher w.boot) PublisherWatermark.Storable bound m

/-- Trimming only drops entries. -/
theorem trimWatermarks_filed {bound : Nat} (h : FiledWatermarks bound m) :
    FiledWatermarks maxPublisherWatermarks (trimWatermarks m) :=
  h.sub getElem?_trimWatermarks (size_trimWatermarks m)

/-! ## The invariant -/

/-- A binding is that of the publisher it is filed under, to a boot with a number. -/
structure Binding.Sound (id : PublisherId) (b : Binding) : Prop where
  id_eq : b.id = id
  token : IsToken id
  boot : b.boot ≠ 0

/-- Bindings and watermarks are those of well-formed boots. -/
structure State.Sound (s : State) : Prop where
  bindings : ∀ id b, s.binding id = some b → b.Sound id
  watermarks : FiledWatermarks maxPublisherWatermarks s.watermarks

theorem sound_initial (options : ObservatoryOptions) (now : Nanos) :
    (State.initial options now).Sound where
  bindings id b h := by simp [State.binding, State.initial] at h
  watermarks := .empty

/-- A bound boot with its table entry, as a fence or a replacement writes it. -/
theorem Binding.Sound.storable (h : p.binding.Sound id) (reason : FenceReason) :
    (p.watermark id p.view.boot reason).Storable :=
  ⟨h.token, h.boot⟩

/-- Writing off the boot bound so far keeps the table filed. -/
theorem admitBoot_sound {s' : State} {now : Nanos} (hs : s.Sound) (h : admitBoot s r now = .ok s') :
    s'.Sound := by
  refine ⟨by rw [admitBoot_binding h]; exact hs.bindings, ?_⟩
  rcases admitBoot_cases h with ⟨rfl, _⟩ | ⟨_, rfl, _⟩ | ⟨p, rfl, hp, _, hroom⟩
  · exact hs.watermarks
  · exact hs.watermarks
  · have hsound : p.binding.Sound r.id := hs.bindings r.id p.binding (by simp [State.binding, hp])
    have hid : p.view.id = r.id := hsound.id_eq
    rw [← hid] at hsound
    exact hs.watermarks.insert rfl ⟨hsound.token, hsound.boot⟩ hroom.symm

theorem bindBoot_sound (now : Nanos) (hs : s.Sound) (hcheck : checkRegistration r = .ok ()) :
    (bindBoot s r now).Sound := by
  obtain ⟨_, htoken, hcheck⟩ := bind_eq_ok.1 hcheck
  obtain ⟨_, hboot, _⟩ := bind_eq_ok.1 hcheck
  constructor
  · intro id b hb
    rw [bindBoot_binding] at hb
    by_cases hid : id = r.id
    · subst hid
      rw [update_self] at hb
      obtain ⟨hid, hb', _⟩ :=
        Binding.register_authority (s.binding r.id) r.id r.boot (keptWatermark s r)
      rw [Option.some.inj hb] at hid hb'
      exact ⟨hid, validateIdentityToken_eq_ok.1 htoken, by rw [hb']; exact failIf_eq_ok.1 hboot⟩
    · rw [update_of_ne hid] at hb
      exact hs.bindings id b hb
  · rcases bindBoot_watermarks s r now with heq | ⟨kept, hkept, heq⟩
    · rw [heq]
      exact hs.watermarks
    · -- the entry is replaced under its own key
      rw [heq]
      obtain ⟨hentry, _⟩ := Option.filter_eq_some_iff.1 hkept
      have hkey := hs.watermarks.key_eq hentry
      have hvalid := hs.watermarks.valid hentry
      refine hs.watermarks.insert hkey ⟨hvalid.publisher, hvalid.boot⟩ (.inl ?_)
      rw [mem_iff_isSome_getElem?, hentry]
      rfl

theorem fenceBound_sound (hs : s.Sound) (hp : s.publishers[id]? = some p) (reason : FenceReason)
    (detail : Text) (now : Nanos) : (fenceBound s id p reason detail now).Sound := by
  have hsound : p.binding.Sound id := hs.bindings id p.binding (by simp [State.binding, hp])
  constructor
  · intro k b hb
    rw [fenceBound_binding] at hb
    by_cases hk : k = id
    · subst hk
      rw [update_self] at hb
      exact Option.some.inj hb ▸ ⟨hsound.id_eq, hsound.token, hsound.boot⟩
    · rw [update_of_ne hk] at hb
      exact hs.bindings k b hb
  · rw [fenceBound_watermarks]
    exact trimWatermarks_filed ((hs.watermarks.mono (fun _ h => h) (Nat.le_succ _)).insert rfl
      (hsound.storable reason) (.inr (Nat.lt_succ_of_le hs.watermarks.size_le)))

theorem recover_sound {staged : StagedState} (clock : Nat → Nanos) (h : staged.Storable) :
    (recover s staged clock).Sound where
  bindings id b hb := by
    rw [State.binding, recover_publishers] at hb
    simp at hb
  watermarks := by
    rw [recover_watermarks]
    exact trimWatermarks_filed (h.watermarks.map (fun _ => rfl) fun _ hw => ⟨hw.1, hw.2⟩)

/-- Every step keeps the bookkeeping sound. -/
theorem act_sound (hs : s.Sound) (a : Action) : (act s a).2.Sound := by
  cases act_authority s a with
  | quiet hbinding hwatermarks =>
    exact ⟨hbinding ▸ hs.bindings, hwatermarks ▸ hs.watermarks⟩
  | commit id boot sequence hash b hoffers hcommits hwatermarks =>
    refine ⟨fun k b' hb => ?_, hwatermarks ▸ hs.watermarks⟩
    rw [hcommits.binding_eq] at hb
    by_cases hk : k = id
    · subst hk
      rw [update_self] at hb
      have hsound := hs.bindings k b hcommits.bound
      exact Option.some.inj hb ▸ ⟨hsound.id_eq, hsound.token, hsound.boot⟩
    · rw [update_of_ne hk] at hb
      exact hs.bindings k b' hb
  | refuse r clock _ hadmits => exact admitBoot_sound hs hadmits
  | bind r clock s₁ _ hchecks hadmits _ hstate =>
    rw [hstate]
    exact bindBoot_sound _ (admitBoot_sound hs hadmits) hchecks
  | fence id boot reason detail now p _ hbound _ hstate =>
    rw [hstate]
    exact fenceBound_sound hs hbound reason detail now
  | load path data options clock staged _ hparse hstate =>
    rw [hstate]
    exact recover_sound clock (parseState_storable hparse).1

/-- So every run does. -/
theorem final_sound (hs : s.Sound) (l : List Action) : (Run.final act s l).Sound :=
  Run.final_stable (I := State.Sound) (fun _ a h => act_sound h a) hs l

end CoherenceObservatory
