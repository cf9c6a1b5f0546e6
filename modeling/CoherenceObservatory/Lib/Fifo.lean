import Mathlib

/-!
# Bounded first-in first-out maps

A map that remembers at most `cap` keys. A new key goes to the back of a queue; when
the queue outgrows the capacity its front is forgotten, whatever the key's value. The
queue and the map always hold the same keys, each once, which the type states.
-/

open Std ExtTreeMap

/-- Replacing the front of a queue by `x` at its back changes the queue, unless it holds
nothing but `x`. -/
theorem drop_one_append_eq_self_iff {α : Type} {l : List α} {x : α} (hl : l ≠ []) :
    l.drop 1 ++ [x] = l ↔ ∀ y ∈ l, y = x := by
  constructor
  · intro h
    induction l with
    | nil => exact absurd rfl hl
    | cons y l ih =>
      cases l with
      | nil => simpa using h.symm
      | cons z l =>
        -- the second element is the first one of the shifted queue
        obtain ⟨rfl, hrest⟩ := List.cons.inj h
        have hz := ih (List.cons_ne_nil _ _) hrest
        rw [List.forall_mem_cons]
        exact ⟨hz z List.mem_cons_self, hz⟩
  · intro h
    obtain ⟨n, hn⟩ : ∃ n, l = List.replicate (n + 1) x := by
      refine ⟨l.length - 1, List.eq_replicate_iff.2 ⟨?_, h⟩⟩
      have := List.length_pos_iff.2 hl
      omega
    rw [hn, List.replicate_succ, List.drop_succ_cons, List.drop_zero, ← List.replicate_succ',
      List.replicate_succ]

variable {K V : Type} [Ord K] [TransOrd K]

/-- A map of at most `cap` keys with the order in which they came. -/
structure BoundedFifo (K V : Type) [Ord K] [TransOrd K] [LawfulEqOrd K] (cap : Nat) where
  entries : ExtTreeMap K V
  order : List K
  nodup : order.Nodup
  mem_iff : ∀ k, k ∈ order ↔ k ∈ entries
  length_le : order.length ≤ cap

namespace BoundedFifo

/-- Forgets keys from the front of the queue while it is longer than `cap`. -/
def evict (cap : Nat) : List K → ExtTreeMap K V → List K × ExtTreeMap K V
  | [], m => ([], m)
  | k :: order, m => if order.length + 1 > cap then evict cap order (m.erase k) else (k :: order, m)

theorem evict_of_le {cap : Nat} {order : List K} (m : ExtTreeMap K V) (h : order.length ≤ cap) :
    evict cap order m = (order, m) := by
  cases order with
  | nil => rfl
  | cons k order =>
    rw [List.length_cons] at h
    rw [evict, if_neg (by omega)]

/-- A queue one too long loses exactly its front. -/
theorem evict_of_eq_succ {cap : Nat} {k : K} {order : List K} (m : ExtTreeMap K V)
    (h : order.length = cap) : evict cap (k :: order) m = (order, m.erase k) := by
  rw [evict, if_pos (by omega), evict_of_le _ (by omega)]

theorem length_evict_le (cap : Nat) (order : List K) (m : ExtTreeMap K V) :
    (evict cap order m).1.length ≤ cap := by
  induction order generalizing m with
  | nil => simp [evict]
  | cons k order ih =>
    rw [evict]
    split
    · exact ih _
    · rw [List.length_cons]
      omega

theorem nodup_evict {cap : Nat} {order : List K} (m : ExtTreeMap K V) (h : order.Nodup) :
    (evict cap order m).1.Nodup := by
  induction order generalizing m with
  | nil => simp [evict]
  | cons k order ih =>
    rw [evict]
    split
    · exact ih _ (List.nodup_cons.1 h).2
    · exact h

variable [LawfulEqOrd K]

theorem mem_evict_iff {cap : Nat} {order : List K} {m : ExtTreeMap K V} (hnodup : order.Nodup)
    (h : ∀ k, k ∈ order ↔ k ∈ m) (k : K) :
    k ∈ (evict cap order m).1 ↔ k ∈ (evict cap order m).2 := by
  induction order generalizing m with
  | nil => simpa [evict] using h k
  | cons a order ih =>
    rw [evict]
    obtain ⟨ha, hnodup⟩ := List.nodup_cons.1 hnodup
    split
    · refine ih hnodup fun b => ?_
      have hb := h b
      rw [List.mem_cons] at hb
      rw [mem_erase, ← hb, LawfulEqOrd.compare_eq_iff_eq.ne]
      constructor
      · intro hmem
        exact ⟨fun hab => ha (hab ▸ hmem), .inr hmem⟩
      · rintro ⟨hab, rfl | hmem⟩
        · exact absurd rfl hab
        · exact hmem
    · exact h k

variable {cap : Nat}

/-- Nothing remembered. -/
def empty : BoundedFifo K V cap := ⟨∅, [], by simp, by simp, by simp⟩

instance : Membership K (BoundedFifo K V cap) := ⟨fun f k => k ∈ f.entries⟩

theorem mem_def {f : BoundedFifo K V cap} {k : K} : k ∈ f ↔ k ∈ f.entries := Iff.rfl

instance (f : BoundedFifo K V cap) (k : K) : Decidable (k ∈ f) :=
  inferInstanceAs (Decidable (k ∈ f.entries))

@[simp] theorem not_mem_empty (k : K) : k ∉ (empty : BoundedFifo K V cap) := by
  simp [mem_def, empty]

/-- Remembers `k` with `v` unless `k` is already known, then evicts from the front. -/
def push (f : BoundedFifo K V cap) (k : K) (v : V) : BoundedFifo K V cap :=
  if hk : k ∈ f.entries then f
  else
    have hnodup : (f.order ++ [k]).Nodup := by
      rw [List.nodup_append]
      refine ⟨f.nodup, by simp, ?_⟩
      rintro a ha b hb rfl
      obtain rfl : a = k := by simpa using hb
      exact hk ((f.mem_iff a).1 ha)
    have hmem : ∀ a, a ∈ f.order ++ [k] ↔ a ∈ f.entries.insert k v := by
      intro a
      rw [List.mem_append, f.mem_iff, mem_insert,
        LawfulEqOrd.compare_eq_iff_eq, List.mem_singleton]
      tauto
    { entries := (evict cap (f.order ++ [k]) (f.entries.insert k v)).2
      order := (evict cap (f.order ++ [k]) (f.entries.insert k v)).1
      nodup := nodup_evict _ hnodup
      mem_iff := mem_evict_iff hnodup hmem
      length_le := length_evict_le _ _ _ }

variable {f : BoundedFifo K V cap} {a k : K} {v w : V} {n : Nat}

theorem push_of_mem (v : V) (h : k ∈ f) : f.push k v = f :=
  dif_pos h

theorem order_push_of_not_mem (v : V) (h : k ∉ f) :
    (f.push k v).order = (evict cap (f.order ++ [k]) (f.entries.insert k v)).1 ∧
      (f.push k v).entries = (evict cap (f.order ++ [k]) (f.entries.insert k v)).2 := by
  rw [mem_def] at h
  rw [push, dif_neg h]
  exact ⟨rfl, rfl⟩

/-- With room left, a new key is added at the back. -/
theorem push_of_lt (v : V) (h : k ∉ f) (hlt : f.order.length < cap) :
    (f.push k v).order = f.order ++ [k] ∧ (f.push k v).entries = f.entries.insert k v := by
  obtain ⟨ho, he⟩ := order_push_of_not_mem v h
  rw [evict_of_le _ (by rw [List.length_append, List.length_singleton]; omega)] at ho he
  exact ⟨ho, he⟩

/-- A full queue drops its front for a new key. -/
theorem push_of_full {order : List K} (v : V) (h : k ∉ f) (horder : f.order = a :: order)
    (hfull : f.order.length = cap) :
    (f.push k v).order = order ++ [k] ∧
      (f.push k v).entries = (f.entries.insert k v).erase a := by
  obtain ⟨ho, he⟩ := order_push_of_not_mem v h
  have hlen : (order ++ [k]).length = cap := by
    rw [horder, List.length_cons] at hfull
    rw [List.length_append, List.length_singleton, hfull]
  rw [horder, List.cons_append, evict_of_eq_succ _ hlen] at ho he
  exact ⟨ho, he⟩

/-- A key survives unless it stands at the front of a full queue. -/
theorem mem_push_of_mem (v : V) (ha : a ∈ f) (h : f.order.length < cap ∨ f.order.head? ≠ some a) :
    a ∈ f.push k v := by
  by_cases hk : k ∈ f
  · rwa [push_of_mem v hk]
  by_cases hlt : f.order.length < cap
  · rw [mem_def, (push_of_lt v hk hlt).2, mem_insert]
    exact .inr ha
  · have hfull : f.order.length = cap := Nat.le_antisymm f.length_le (Nat.not_lt.1 hlt)
    have hhead := h.resolve_left hlt
    cases horder : f.order with
    | nil => rw [mem_def, ← f.mem_iff, horder] at ha; simp at ha
    | cons b order =>
      rw [mem_def, (push_of_full v hk horder hfull).2, mem_erase,
        mem_insert]
      refine ⟨fun hb => hhead ?_, .inr ha⟩
      rw [horder, List.head?_cons, LawfulEqOrd.compare_eq_iff_eq.1 hb]

/-- The pushed key is remembered. -/
theorem mem_push_self (f : BoundedFifo K V cap) (k : K) (v : V) (hcap : 0 < cap) :
    k ∈ f.push k v := by
  by_cases hk : k ∈ f
  · rwa [push_of_mem v hk]
  by_cases hlt : f.order.length < cap
  · rw [mem_def, (push_of_lt v hk hlt).2]
    exact mem_insert_self
  · have hfull : f.order.length = cap := Nat.le_antisymm f.length_le (Nat.not_lt.1 hlt)
    cases horder : f.order with
    | nil => rw [horder, List.length_nil] at hfull; omega
    | cons b order =>
      rw [mem_def, (push_of_full v hk horder hfull).2, mem_erase]
      refine ⟨fun hb => hk ?_, mem_insert_self⟩
      rw [← LawfulEqOrd.compare_eq_iff_eq.1 hb, mem_def, ← f.mem_iff, horder]
      exact List.mem_cons_self

/-- A push brings in no value but the pushed one. -/
theorem getElem?_push (h : (f.push k v).entries[a]? = some w) :
    f.entries[a]? = some w ∨ a = k ∧ w = v := by
  have hinsert (h : (f.entries.insert k v)[a]? = some w) :
      f.entries[a]? = some w ∨ a = k ∧ w = v := by
    rw [getElem?_insert] at h
    split at h
    next hk =>
      exact .inr ⟨(LawfulEqOrd.compare_eq_iff_eq.1 hk).symm, (Option.some.inj h).symm⟩
    · exact .inl h
  by_cases hk : k ∈ f
  · rw [push_of_mem v hk] at h
    exact .inl h
  by_cases hlt : f.order.length < cap
  · rw [(push_of_lt v hk hlt).2] at h
    exact hinsert h
  · have hfull : f.order.length = cap := Nat.le_antisymm f.length_le (Nat.not_lt.1 hlt)
    cases horder : f.order with
    | nil =>
      -- a queue of capacity zero keeps nothing
      rw [(order_push_of_not_mem v hk).2, horder, List.nil_append,
        evict_of_eq_succ _ (by rw [← hfull, horder]), getElem?_erase] at h
      split at h
      · cases h
      · exact hinsert h
    | cons b order =>
      rw [(push_of_full v hk horder hfull).2, getElem?_erase] at h
      split at h
      · cases h
      · exact hinsert h

/-- A push brings in no key but the pushed one. -/
theorem eq_or_mem_of_mem_push (h : a ∈ f.push k v) : a = k ∨ a ∈ f := by
  obtain ⟨w, hw⟩ := Option.isSome_iff_exists.1 (mem_iff_isSome_getElem?.1 h)
  rcases getElem?_push hw with hold | ⟨heq, -⟩
  · exact .inr (mem_iff_isSome_getElem?.2 (by rw [hold]; rfl))
  · exact .inl heq

/-- A key that survives a push keeps its value. -/
theorem getElem?_push_of_mem (h : f.entries[a]? = some w) (hmem : a ∈ f.push k v) :
    (f.push k v).entries[a]? = some w := by
  have ha : a ∈ f := mem_iff_isSome_getElem?.2 (by rw [h]; rfl)
  by_cases hk : k ∈ f
  · rwa [push_of_mem v hk]
  · obtain ⟨x, hx⟩ := Option.isSome_iff_exists.1 (mem_iff_isSome_getElem?.1 hmem)
    rcases getElem?_push hx with hold | ⟨rfl, -⟩
    · rw [hx, ← hold, h]
    · exact absurd ha hk

/-- A new key is remembered with its value. -/
theorem getElem?_push_self (h : k ∉ f) (hcap : 0 < cap) : (f.push k v).entries[k]? = some v := by
  have hmem := f.mem_push_self k v hcap
  obtain ⟨x, hx⟩ := Option.isSome_iff_exists.1 (mem_iff_isSome_getElem?.1 hmem)
  rcases getElem?_push hx with hold | ⟨-, rfl⟩
  · exact absurd (mem_iff_isSome_getElem?.2 (by rw [hold]; rfl)) h
  · exact hx

/-! ## Recent keys -/

/-- The key is in the queue, and at most `n` came after it. -/
def Recent (f : BoundedFifo K V cap) (a : K) (n : Nat) : Prop :=
  ∃ older newer, f.order = older ++ a :: newer ∧ newer.length ≤ n

theorem Recent.mem (h : f.Recent a n) : a ∈ f := by
  obtain ⟨older, newer, horder, -⟩ := h
  rw [mem_def, ← f.mem_iff, horder]
  exact List.mem_append_right _ List.mem_cons_self

/-- A new key is the most recent one. -/
theorem recent_push_self (v : V) (h : k ∉ f) (hcap : 0 < cap) : (f.push k v).Recent k 0 := by
  rcases Nat.lt_or_ge f.order.length cap with hlt | hge
  · exact ⟨f.order, [], (push_of_lt v h hlt).1, Nat.le_refl 0⟩
  · have hfull : f.order.length = cap := Nat.le_antisymm f.length_le hge
    cases horder : f.order with
    | nil => rw [horder, List.length_nil] at hfull; omega
    | cons b order => exact ⟨order, [], (push_of_full v h horder hfull).1, Nat.le_refl 0⟩

/-- A recent key outlives a push, which counts for it. -/
theorem Recent.push (h : f.Recent a n) (hn : n + 1 < cap) (k : K) (v : V) :
    (f.push k v).Recent a (n + 1) := by
  obtain ⟨older, newer, horder, hnewer⟩ := h
  by_cases hk : k ∈ f
  · rw [push_of_mem v hk]
    exact ⟨older, newer, horder, by omega⟩
  have hlength : (newer ++ [k]).length ≤ n + 1 := by
    rw [List.length_append, List.length_singleton]
    omega
  rcases Nat.lt_or_ge f.order.length cap with hlt | hge
  · refine ⟨older, newer ++ [k], ?_, hlength⟩
    rw [(push_of_lt v hk hlt).1, horder, List.append_assoc, List.cons_append]
  · have hfull : f.order.length = cap := Nat.le_antisymm f.length_le hge
    cases older with
    | nil =>
      -- were it at the front, all others would have come after it
      rw [horder, List.nil_append, List.length_cons] at hfull
      omega
    | cons b older =>
      rw [List.cons_append] at horder
      refine ⟨older, newer ++ [k], ?_, hlength⟩
      rw [(push_of_full v hk horder hfull).1, List.append_assoc, List.cons_append]

end BoundedFifo
