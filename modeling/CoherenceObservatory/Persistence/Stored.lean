import CoherenceObservatory.Bookkeeping

/-!
# The watermarks a save stores

A save stores the table of watermarks together with an entry for every bound boot that the
table does not have. A bound boot with an entry, however old, is stored as that entry.
-/

namespace CoherenceObservatory

open Std ExtTreeMap

variable {p : PublisherState} {s : State} {key : Text}

section

variable {m : ExtTreeMap Text PublisherWatermark} {l : List PublisherState} {k : Text}

theorem mem_addLive : k ∈ addLive m p ↔ k ∈ m ∨ bootKey p.view.id p.view.boot = k := by
  unfold addLive
  split
  next hkey =>
    constructor
    · exact .inl
    · rintro (h | rfl)
      · exact h
      · exact hkey
  · rw [mem_insert, LawfulEqOrd.compare_eq_iff_eq, or_comm]

/-- A boot is stored when the table has it or it is bound. -/
theorem mem_foldl_addLive :
    k ∈ l.foldl addLive m ↔ k ∈ m ∨ ∃ p ∈ l, bootKey p.view.id p.view.boot = k := by
  induction l generalizing m with
  | nil => simp
  | cons p l ih =>
    rw [List.foldl_cons, ih, mem_addLive, or_assoc, List.exists_mem_cons_iff]

/-- An entry of the table is stored as it is. -/
theorem getElem?_addLive_of_mem (h : k ∈ m) : (addLive m p)[k]? = m[k]? := by
  unfold addLive
  split
  · rfl
  next hkey =>
    rw [getElem?_insert, if_neg]
    rw [LawfulEqOrd.compare_eq_iff_eq]
    rintro rfl
    exact hkey h

theorem getElem?_foldl_addLive_of_mem (h : k ∈ m) : (l.foldl addLive m)[k]? = m[k]? := by
  induction l generalizing m with
  | nil => rfl
  | cons p l ih =>
    rw [List.foldl_cons, ih (mem_addLive.2 (.inl h)), getElem?_addLive_of_mem h]

/-- What is stored comes from the table or from a bound boot. -/
theorem getElem?_foldl_addLive {w : PublisherWatermark} (h : (l.foldl addLive m)[k]? = some w) :
    m[k]? = some w ∨
      ∃ p ∈ l, k ∉ m ∧ k = bootKey p.view.id p.view.boot ∧ w = p.liveWatermark := by
  induction l generalizing m with
  | nil => exact .inl h
  | cons p l ih =>
    rw [List.foldl_cons] at h
    rcases ih h with hm | ⟨q, hq, hnew, hkey, hw⟩
    · unfold addLive at hm
      split at hm
      · exact .inl hm
      next hnew =>
        rw [getElem?_insert] at hm
        split at hm
        next heq =>
          obtain rfl := LawfulEqOrd.eq_of_compare heq
          exact .inr ⟨p, List.mem_cons_self, hnew, rfl, (Option.some.inj hm).symm⟩
        · exact .inl hm
    · refine .inr ⟨q, List.mem_cons_of_mem _ hq, fun hmem => hnew ?_, hkey, hw⟩
      exact mem_addLive.2 (.inl hmem)

end

/-! ## States -/

/-- A boot the state would store: one in the table, or a bound one. -/
def State.Stores (s : State) (key : Text) : Prop :=
  key ∈ s.watermarks ∨ ∃ id b, s.binding id = some b ∧ bootKey b.id b.boot = key

theorem mem_publishers_iff :
    p ∈ s.publishers.toList.map Prod.snd ↔ ∃ id : PublisherId, s.publishers[id]? = some p := by
  constructor
  · intro h
    obtain ⟨e, he, rfl⟩ := List.mem_map.1 h
    exact ⟨e.1, mem_toList_iff_getElem?_eq_some.1 he⟩
  · rintro ⟨id, h⟩
    exact List.mem_map.2 ⟨(id, p), mem_toList_iff_getElem?_eq_some.2 h, rfl⟩

theorem binding_eq_some {id : PublisherId} {b : Binding} :
    s.binding id = some b ↔ ∃ p, s.publishers[id]? = some p ∧ p.binding = b := by
  rw [State.binding, Option.map_eq_some_iff]

/-- Which boots are stored. -/
theorem mem_storedWatermarks : key ∈ storedWatermarks s ↔ s.Stores key := by
  rw [storedWatermarks, mem_foldl_addLive, State.Stores]
  refine or_congr_right ⟨?_, ?_⟩
  · rintro ⟨p, hp, hkey⟩
    obtain ⟨id, hid⟩ := mem_publishers_iff.1 hp
    exact ⟨id, p.binding, binding_eq_some.2 ⟨p, hid, rfl⟩, hkey⟩
  · rintro ⟨id, b, hb, hkey⟩
    obtain ⟨p, hp, rfl⟩ := binding_eq_some.1 hb
    exact ⟨p, mem_publishers_iff.2 ⟨id, hp⟩, hkey⟩

/-- The stored table is filed as the table is, with the room it needs. -/
theorem storedWatermarks_filed (hs : s.Sound) {bound : Nat}
    (hsize : (storedWatermarks s).size ≤ bound) : FiledWatermarks bound (storedWatermarks s) := by
  have hentry {k : Text} {w : PublisherWatermark} (h : (storedWatermarks s)[k]? = some w) :
      bootKey w.publisher w.boot = k ∧ w.Storable := by
    rcases getElem?_foldl_addLive h with h | ⟨p, hp, _, rfl, rfl⟩
    · exact ⟨hs.watermarks.key_eq h, hs.watermarks.valid h⟩
    · obtain ⟨id, hid⟩ := mem_publishers_iff.1 hp
      have hsound := hs.bindings id p.binding (binding_eq_some.2 ⟨p, hid, rfl⟩)
      refine ⟨rfl, ?_, hsound.boot⟩
      change IsToken p.view.id
      rw [show p.view.id = id from hsound.id_eq]
      exact hsound.token
  exact ⟨fun h => (hentry h).1, fun h => (hentry h).2, hsize⟩

/-- Which boots are stored after a step: no new one but the one it registers. -/
theorem act_stores (hs : s.Sound) {a : Action}
    (hload : ∀ path file options clock, a ≠ .load path file options clock)
    (h : (act s a).2.Stores key) :
    s.Stores key ∨ ∃ r clock, a = .registerPublisher r clock ∧ bootKey r.id r.boot = key := by
  -- the boot bound so far is stored already, so writing it off stores nothing new
  have hadmitted {r : PublisherRegistration} {now : Nanos} {s₁ : State}
      (hadmits : admitBoot s r now = .ok s₁) (hkey : key ∈ s₁.watermarks) : s.Stores key := by
    rcases admitBoot_cases hadmits with ⟨rfl, _⟩ | ⟨_, rfl, _⟩ | ⟨p, rfl, hp, _⟩
    · exact .inl hkey
    · exact .inl hkey
    · rcases mem_insert.1 hkey with heq | hkey
      · exact .inr ⟨r.id, p.binding, binding_eq_some.2 ⟨p, hp, rfl⟩, LawfulEqOrd.eq_of_compare heq⟩
      · exact .inl hkey
  cases act_authority s a with
  | quiet hbinding hwatermarks =>
    left
    rwa [State.Stores, hwatermarks, hbinding] at h
  | load path data options clock staged ha => exact absurd ha (hload _ _ _ _)
  | commit id boot sequence hash b hoffers hcommits hwatermarks =>
    left
    rcases h with h | ⟨k, b', hb, hkey⟩
    · exact .inl (hwatermarks ▸ h)
    · rw [hcommits.binding_eq] at hb
      by_cases hk : k = id
      · subst hk
        rw [Function.update_self] at hb
        obtain rfl := Option.some.inj hb
        exact .inr ⟨k, b, hcommits.bound, hkey⟩
      · rw [Function.update_of_ne hk] at hb
        exact .inr ⟨k, b', hb, hkey⟩
  | refuse r clock ha hadmits =>
    left
    rcases h with h | ⟨k, b, hb, hkey⟩
    · exact hadmitted hadmits h
    · rw [admitBoot_binding hadmits] at hb
      exact .inr ⟨k, b, hb, hkey⟩
  -- the table gets the boot that is bound, and the one written off for it
  | bind r clock s₁ ha hchecks hadmits _ hstate =>
    rw [hstate] at h
    rcases h with h | ⟨k, b, hb, hkey⟩
    · rcases bindBoot_watermarks s₁ r (clock 1) with hkept | ⟨kept, -, hkept⟩ <;> rw [hkept] at h
      · exact .inl (hadmitted hadmits h)
      · rcases mem_insert.1 h with heq | h
        · exact .inr ⟨r, clock, ha, LawfulEqOrd.eq_of_compare heq⟩
        · exact .inl (hadmitted hadmits h)
    · rw [bindBoot_binding, admitBoot_binding hadmits] at hb
      by_cases hk : k = r.id
      · subst hk
        rw [Function.update_self] at hb
        obtain ⟨hid, hboot, _⟩ :=
          Binding.register_authority (s.binding r.id) r.id r.boot (keptWatermark s₁ r)
        rw [Option.some.inj hb] at hid hboot
        exact .inr ⟨r, clock, ha, by rw [← hkey, hid, hboot]⟩
      · rw [Function.update_of_ne hk] at hb
        exact .inl (.inr ⟨k, b, hb, hkey⟩)
  | fence id boot reason detail now p ha hbound hboot hstate =>
    left
    have hp := binding_eq_some.2 ⟨p, hbound, rfl⟩
    have hid : p.view.id = id := (hs.bindings id p.binding hp).id_eq
    rw [hstate] at h
    rcases h with h | ⟨k, b, hb, hkey⟩
    · rw [fenceBound_watermarks, mem_iff_isSome_getElem?, Option.isSome_iff_exists] at h
      obtain ⟨w, hw⟩ := h
      -- trimming the table adds no keys
      have hmem : key ∈ s.watermarks.insert (bootKey id p.view.boot)
          (p.watermark id p.view.boot reason) := by
        rw [mem_iff_isSome_getElem?, getElem?_trimWatermarks hw]
        rfl
      rcases mem_insert.1 hmem with heq | hmem
      · rw [← hid] at heq
        exact .inr ⟨id, p.binding, hp, LawfulEqOrd.eq_of_compare heq⟩
      · exact .inl hmem
    · rw [fenceBound_binding] at hb
      by_cases hk : k = id
      · subst hk
        rw [Function.update_self] at hb
        obtain rfl := Option.some.inj hb
        exact .inr ⟨k, p.binding, hp, hkey⟩
      · rw [Function.update_of_ne hk] at hb
        exact .inr ⟨k, b, hb, hkey⟩

end CoherenceObservatory
