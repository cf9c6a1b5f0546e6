import Mathlib

/-!
# Tables of records

A table files each record under the key the record itself names. `Filed` is the
invariant: keys and records agree, every record is well formed, and the table stays
within its capacity.

* `Filed.insert`, `Filed.map`, `Filed.sub`: filing one more record, changing records in
  place, dropping some.
-/

open Std ExtTreeMap Option

/-- A record found after an insertion was inserted or was there. -/
theorem getElem?_insert_cases {κ α : Type} [Ord κ] [TransOrd κ] [LawfulEqOrd κ]
    {m : ExtTreeMap κ α} {k k' : κ} {r r' : α} (h : (m.insert k r)[k']? = some r') :
    k = k' ∧ r = r' ∨ m[k']? = some r' := by
  rw [getElem?_insert] at h
  split at h
  next heq => exact .inl ⟨LawfulEqOrd.eq_of_compare heq, Option.some.inj h⟩
  next => exact .inr h

/-- Entering a record changes a table, unless the record is there. -/
theorem insert_eq_self_iff {κ α : Type} [Ord κ] [TransOrd κ] [LawfulEqOrd κ]
    {m : ExtTreeMap κ α} {k : κ} {r : α} : m.insert k r = m ↔ m[k]? = some r := by
  constructor
  · intro h
    rw [← h]
    exact getElem?_insert_self
  · intro h
    refine ext_getElem? fun k' => ?_
    rw [getElem?_insert]
    split
    next heq => rw [← LawfulEqOrd.eq_of_compare heq, h]
    next => rfl

/-! ## The last entry -/

/-- The last entry in the order of the keys is that of the greatest key. -/
theorem getLast?_toList {κ α : Type} [Ord κ] [TransOrd κ] [LawfulEqOrd κ] (m : ExtTreeMap κ α) :
    m.toList.getLast? = m.maxKey?.bind fun k => m[k]?.map (k, ·) := by
  rw [maxKey?_eq_getLast?_keys, ← map_fst_toList_eq_keys, List.getLast?_map]
  cases h : m.toList.getLast? with
  | none => rfl
  | some e =>
    have hentry := mem_toList_iff_getElem?_eq_some.1 (List.mem_of_getLast? h)
    rw [map_some, bind_some, hentry]
    rfl

/-- Replacing a record keeps the greatest key. -/
theorem maxKey?_insert_of_mem {κ α : Type} [Ord κ] [TransOrd κ] [LawfulEqOrd κ]
    {m : ExtTreeMap κ α} {k : κ} {r : α} (h : k ∈ m) : (m.insert k r).maxKey? = m.maxKey? := by
  rw [maxKey?_insert]
  cases hmax : m.maxKey? with
  | none =>
    rw [maxKey?_eq_none_iff] at hmax
    simp [hmax] at h
  | some k' =>
    rw [elim_some]
    split
    next hle =>
      have hge := (maxKey?_eq_some_iff_mem_and_forall.1 hmax).2 k h
      rw [← LawfulEqOrd.eq_of_compare (OrientedCmp.isLE_antisymm hle hge)]
    next => rfl

/-! ## Growing tables -/

/-- Every record of `m` is still in `m'`, as it was or replaced by one that may follow it. -/
def Grows {κ α : Type} [Ord κ] [TransOrd κ] (follows : α → α → Prop) (m m' : ExtTreeMap κ α) :
    Prop :=
  ∀ (k : κ) (r : α), m[k]? = some r → ∃ r', m'[k]? = some r' ∧ follows r r'

namespace Grows

variable {κ α : Type} [Ord κ] [TransOrd κ] {follows : α → α → Prop} {m m' m'' : ExtTreeMap κ α}

theorem refl (h : ∀ r, follows r r) (m : ExtTreeMap κ α) : Grows follows m m :=
  fun _ r hr => ⟨r, hr, h r⟩

theorem trans (hfollows : ∀ {a b c}, follows a b → follows b c → follows a c)
    (h : Grows follows m m') (h' : Grows follows m' m'') : Grows follows m m'' := by
  intro k r hr
  obtain ⟨r', hr', hfirst⟩ := h k r hr
  obtain ⟨r'', hr'', hsecond⟩ := h' k r' hr'
  exact ⟨r'', hr'', hfollows hfirst hsecond⟩

/-- What was filed is filed. -/
theorem mem (h : Grows follows m m') {k : κ} (hk : k ∈ m) : k ∈ m' := by
  rw [mem_iff_isSome_getElem?, isSome_iff_exists] at hk ⊢
  obtain ⟨r, hr⟩ := hk
  obtain ⟨r', hr', _⟩ := h k r hr
  exact ⟨r', hr'⟩

theorem insert [LawfulEqOrd κ] (hrefl : ∀ r, follows r r) {k : κ} {r : α}
    (h : ∀ old, m[k]? = some old → follows old r) : Grows follows m (m.insert k r) := by
  intro k' old hold
  rw [getElem?_insert]
  split
  next heq =>
    obtain rfl := LawfulEqOrd.eq_of_compare heq
    exact ⟨r, rfl, h old hold⟩
  next => exact ⟨old, hold, hrefl old⟩

end Grows

/-! ## Filed tables -/

/-- Every record is filed under the key it names. -/
def KeyedBy {κ α : Type} [Ord κ] [TransOrd κ] (keyOf : α → κ) (m : ExtTreeMap κ α) : Prop :=
  ∀ k r, m[k]? = some r → keyOf r = k

theorem KeyedBy.insert {κ α : Type} [Ord κ] [TransOrd κ] [LawfulEqOrd κ] {keyOf : α → κ}
    {m : ExtTreeMap κ α} {k : κ} {r : α} (h : KeyedBy keyOf m) (hk : keyOf r = k) :
    KeyedBy keyOf (m.insert k r) := by
  intro k' r' hr'
  rcases getElem?_insert_cases hr' with ⟨rfl, rfl⟩ | hr'
  · exact hk
  · exact h k' r' hr'

/-- Every record is filed under its own key and satisfies `P`, and there are at most
`bound` of them. -/
structure Filed {κ α : Type} [Ord κ] [TransOrd κ] (keyOf : α → κ) (P : α → Prop) (bound : Nat)
    (m : ExtTreeMap κ α) : Prop where
  key_eq : ∀ {k : κ} {r : α}, m[k]? = some r → keyOf r = k
  valid : ∀ {k : κ} {r : α}, m[k]? = some r → P r
  size_le : m.size ≤ bound

namespace Filed

variable {κ α : Type} [Ord κ] [TransOrd κ] {keyOf : α → κ} {P : α → Prop} {bound : Nat}
  {m : ExtTreeMap κ α}

theorem empty : Filed keyOf P bound ∅ where
  key_eq h := by simp at h
  valid h := by simp at h
  size_le := by simp

theorem keyedBy (h : Filed keyOf P bound m) : KeyedBy keyOf m := fun _ _ hr => h.key_eq hr

variable {Q : α → Prop}

theorem mono {bound' : Nat} (h : Filed keyOf P bound m) (hPQ : ∀ r, P r → Q r) (hb : bound ≤ bound') :
    Filed keyOf Q bound' m where
  key_eq := h.key_eq
  valid hr := hPQ _ (h.valid hr)
  size_le := h.size_le.trans hb

/-- Dropping entries keeps the rest filed. -/
theorem sub {bound' : Nat} {m' : ExtTreeMap κ α} (h : Filed keyOf P bound m)
    (hsub : ∀ {k : κ} {r : α}, m'[k]? = some r → m[k]? = some r) (hsize : m'.size ≤ bound') :
    Filed keyOf P bound' m' where
  key_eq hr := h.key_eq (hsub hr)
  valid hr := h.valid (hsub hr)
  size_le := hsize

theorem eq_empty (h : Filed keyOf P 0 m) : m = ∅ :=
  eq_empty_iff_size_eq_zero.2 (Nat.le_zero.1 h.size_le)

variable [LawfulEqOrd κ]

/-- Changing records without changing their keys keeps them filed. -/
theorem map {f : α → α} (h : Filed keyOf P bound m) (hkey : ∀ r, keyOf (f r) = keyOf r)
    (hPQ : ∀ r, P r → Q (f r)) : Filed keyOf Q bound (m.map fun _ r => f r) where
  key_eq hk := by
    rw [getElem?_map, map_eq_some_iff] at hk
    obtain ⟨r, hr, rfl⟩ := hk
    rw [hkey, h.key_eq hr]
  valid hk := by
    rw [getElem?_map, map_eq_some_iff] at hk
    obtain ⟨r, hr, rfl⟩ := hk
    exact hPQ r (h.valid hr)
  size_le := by rw [size_map]; exact h.size_le

theorem insert {k : κ} {r : α} (h : Filed keyOf P bound m) (hkey : keyOf r = k) (hr : P r)
    (hroom : k ∈ m ∨ m.size < bound) : Filed keyOf P bound (m.insert k r) where
  key_eq hk := by
    rcases getElem?_insert_cases hk with ⟨rfl, rfl⟩ | hk
    · exact hkey
    · exact h.key_eq hk
  valid hk := by
    rcases getElem?_insert_cases hk with ⟨_, rfl⟩ | hk
    · exact hr
    · exact h.valid hk
  size_le := by
    rw [size_insert]
    split
    next => exact h.size_le
    next hk => exact hroom.resolve_left hk

end Filed

/-- A table with fewer keys is smaller. -/
theorem size_le_of_keys_subset {κ α β : Type} [Ord κ] [TransOrd κ] [LawfulEqOrd κ]
    {m : ExtTreeMap κ α} {m' : ExtTreeMap κ β} (h : ∀ k, k ∈ m' → k ∈ m) : m'.size ≤ m.size := by
  rw [← length_keys, ← length_keys]
  refine (List.Nodup.subperm nodup_keys fun k hk => ?_).length_le
  exact mem_keys.2 (h k (mem_keys.1 hk))

section

variable {κ α : Type} [Ord κ] [TransOrd κ] {m : ExtTreeMap κ α}

variable {l : List (κ × α)}

/-- Entering records under other keys leaves a record alone. -/
theorem getElem?_foldl_insert_of_ne {k : κ} (h : ∀ e ∈ l, ¬compare e.1 k = .eq) :
    (l.foldl (fun t e => t.insert e.1 e.2) m)[k]? = m[k]? := by
  induction l generalizing m with
  | nil => rfl
  | cons e l ih =>
    obtain ⟨he, hl⟩ := List.forall_mem_cons.1 h
    rw [List.foldl_cons, ih hl, getElem?_insert, if_neg he]

/-- Of records entered under distinct keys, each is found. -/
theorem getElem?_foldl_insert_of_mem {k : κ} {r : α}
    (hkeys : l.Pairwise fun a b => ¬compare a.1 b.1 = .eq) (h : (k, r) ∈ l) :
    (l.foldl (fun t e => t.insert e.1 e.2) m)[k]? = some r := by
  induction l generalizing m with
  | nil => exact nomatch h
  | cons e l ih =>
    rw [List.pairwise_cons] at hkeys
    rw [List.foldl_cons]
    rcases List.mem_cons.1 h with rfl | h
    · rw [getElem?_foldl_insert_of_ne fun e he heq => hkeys.1 e he (OrientedCmp.eq_symm heq)]
      exact getElem?_insert_self
    · exact ih hkeys.2 h

theorem size_foldl_insert_le (l : List (κ × α)) :
    (l.foldl (fun t e => t.insert e.1 e.2) m).size ≤ m.size + l.length := by
  induction l generalizing m with
  | nil => exact Nat.le_refl _
  | cons e l ih =>
    have hinsert : (m.insert e.1 e.2).size ≤ m.size + 1 := size_insert_le
    have hrest := ih (m := m.insert e.1 e.2)
    rw [List.foldl_cons, List.length_cons]
    omega

variable [LawfulEqOrd κ]

/-- What is in a table after entering records was there or is one of them. -/
theorem getElem?_foldl_insert {k : κ} {r : α}
    (h : (l.foldl (fun t e => t.insert e.1 e.2) m)[k]? = some r) : m[k]? = some r ∨ (k, r) ∈ l := by
  induction l generalizing m with
  | nil => exact .inl h
  | cons e l ih =>
    rcases ih h with hm | hmem
    · rcases getElem?_insert_cases hm with ⟨rfl, rfl⟩ | hm
      · exact .inr List.mem_cons_self
      · exact .inl hm
    · exact .inr (List.mem_cons_of_mem _ hmem)

/-- Entering well-formed records under their own keys keeps the table filed. -/
theorem Filed.enter {keyOf : α → κ} {P : α → Prop} {bound bound' : Nat} (h : Filed keyOf P bound m)
    (hl : ∀ e ∈ l, keyOf e.2 = e.1 ∧ P e.2)
    (hsize : (l.foldl (fun t e => t.insert e.1 e.2) m).size ≤ bound') :
    Filed keyOf P bound' (l.foldl (fun t e => t.insert e.1 e.2) m) := by
  have hentry {k : κ} {r : α} (hk : (l.foldl (fun t e => t.insert e.1 e.2) m)[k]? = some r) :
      keyOf r = k ∧ P r := by
    rcases getElem?_foldl_insert hk with hm | hmem
    · exact ⟨h.key_eq hm, h.valid hm⟩
    · exact hl (k, r) hmem
  exact ⟨fun hk => (hentry hk).1, fun hk => (hentry hk).2, hsize⟩

end

/-- Entering the records of a table into an empty one, changed by `f` on the way. -/
theorem foldl_insert_toList {κ α β : Type} [Ord κ] [TransOrd κ] [LawfulEqOrd κ]
    (m : ExtTreeMap κ α) (f : κ → α → β) :
    m.toList.foldl (fun t e => t.insert e.1 (f e.1 e.2)) ∅ = m.map f := by
  classical
  have hfold : m.toList.foldl (fun t e => t.insert e.1 (f e.1 e.2)) ∅ =
      ofList (m.toList.map fun e => (e.1, f e.1 e.2)) := by
    rw [ofList_eq_foldl, List.foldl_map]
  have hkeys : (m.toList.map fun e => (e.1, f e.1 e.2)).Pairwise
      fun a b => ¬compare a.1 b.1 = .eq := by
    rw [List.pairwise_map]
    exact distinct_keys_toList
  rw [hfold]
  refine ext_getElem? fun k => ?_
  rw [getElem?_map]
  cases hk : m[k]? with
  | some r =>
    have hmem : (k, r) ∈ m.toList := mem_toList_iff_getElem?_eq_some.2 hk
    exact getElem?_ofList_of_mem ReflCmp.compare_self hkeys
      (List.mem_map.2 ⟨(k, r), hmem, rfl⟩)
  | none =>
    refine getElem?_ofList_of_contains_eq_false ?_
    rw [Bool.eq_false_iff]
    intro hcontains
    obtain ⟨e, he, hek⟩ : ∃ e ∈ m.toList, e.1 = k := by simpa using hcontains
    have := mem_toList_iff_getElem?_eq_some.1 he
    rw [hek, hk] at this
    simp at this

/-! ## Sums over a table -/

section

variable {κ α : Type} [Ord κ] [TransOrd κ] [LawfulEqOrd κ] {m : ExtTreeMap κ α} {k : κ} {r : α}

theorem nodup_toList (m : ExtTreeMap κ α) : m.toList.Nodup := by
  refine (distinct_keys_toList (t := m)).imp fun hne heq => hne ?_
  rw [heq]
  exact compare_self

/-- The entries of a table, one of them first. -/
theorem toList_perm_of_getElem? (h : m[k]? = some r) :
    m.toList.Perm ((k, r) :: (m.erase k).toList) := by
  refine (List.perm_ext_iff_of_nodup (nodup_toList m) (List.nodup_cons.2 ⟨?_, nodup_toList _⟩)).2 ?_
  · rw [mem_toList_iff_getElem?_eq_some]
    simp
  · rintro ⟨k', r'⟩
    rw [List.mem_cons, mem_toList_iff_getElem?_eq_some,
      mem_toList_iff_getElem?_eq_some, getElem?_erase]
    by_cases hk : k = k'
    · subst hk
      simp [h, eq_comm]
    · simp [hk, Ne.symm hk]

theorem erase_insert_self : (m.insert k r).erase k = m.erase k := by
  refine ext_getElem? fun k' => ?_
  rw [getElem?_erase, getElem?_erase, getElem?_insert]
  split <;> rfl

theorem erase_of_getElem?_eq_none (h : m[k]? = none) : m.erase k = m := by
  refine ext_getElem? fun k' => ?_
  rw [getElem?_erase]
  split
  next heq => rw [← LawfulEqOrd.eq_of_compare heq, h]
  next => rfl

/-- The sum of a quantity over the entries of a table. -/
def tableTotal (f : κ → α → Nat) (m : ExtTreeMap κ α) : Nat :=
  (m.toList.map fun e => f e.1 e.2).sum

theorem tableTotal_of_getElem? (f : κ → α → Nat) (h : m[k]? = some r) :
    tableTotal f m = f k r + tableTotal f (m.erase k) := by
  unfold tableTotal
  rw [((toList_perm_of_getElem? h).map fun e => f e.1 e.2).sum_eq, List.map_cons, List.sum_cons]

/-- Entering a record adds its quantity and takes away that of the record it replaces. -/
theorem tableTotal_insert (f : κ → α → Nat) :
    tableTotal f (m.insert k r) + (m[k]?.map (f k)).getD 0 = tableTotal f m + f k r := by
  rw [tableTotal_of_getElem? f (getElem?_insert_self (t := m) (k := k) (v := r)),
    erase_insert_self]
  cases h : m[k]? with
  | none =>
    rw [erase_of_getElem?_eq_none h, map_none, getD_none]
    omega
  | some old =>
    rw [tableTotal_of_getElem? f h, map_some, getD_some]
    omega

end

/-! ## Queues of keys -/

section

variable {κ α : Type} [Ord κ] [TransOrd κ] {m : ExtTreeMap κ α} {k : κ} {order : List κ}

theorem length_of_perm_keys (h : order.Perm m.keys) : order.length = m.size :=
  h.length_eq.trans length_keys

variable [LawfulEqOrd κ]

theorem perm_keys_iff : order.Perm m.keys ↔ order.Nodup ∧ ∀ k, k ∈ order ↔ k ∈ m := by
  constructor
  · intro h
    exact ⟨h.nodup_iff.2 nodup_keys, fun k => h.mem_iff.trans mem_keys⟩
  · rintro ⟨hnodup, hmem⟩
    exact (List.perm_ext_iff_of_nodup hnodup nodup_keys).2 fun k =>
      (hmem k).trans mem_keys.symm

/-- Replacing a record leaves the queue as it is. -/
theorem perm_keys_insert_of_mem (h : order.Perm m.keys) (hk : k ∈ m) (r : α) :
    order.Perm (m.insert k r).keys := by
  obtain ⟨hnodup, hmem⟩ := perm_keys_iff.1 h
  refine perm_keys_iff.2 ⟨hnodup, fun k' => ?_⟩
  rw [hmem, mem_insert, LawfulEqOrd.compare_eq_iff_eq]
  constructor
  · exact .inr
  · rintro (rfl | h')
    · exact hk
    · exact h'

/-- A new key goes to the back of the queue. -/
theorem perm_keys_insert (h : order.Perm m.keys) (hk : k ∉ m) (r : α) :
    (order ++ [k]).Perm (m.insert k r).keys := by
  obtain ⟨hnodup, hmem⟩ := perm_keys_iff.1 h
  refine perm_keys_iff.2 ⟨?_, fun k' => ?_⟩
  · refine hnodup.append (List.nodup_singleton k) fun a ha hak => hk ?_
    rw [← List.mem_singleton.1 hak]
    exact (hmem a).1 ha
  · rw [List.mem_append, List.mem_singleton, hmem, mem_insert,
      LawfulEqOrd.compare_eq_iff_eq, or_comm, eq_comm]

/-- The front of the queue is forgotten. -/
theorem perm_keys_erase (h : (k :: order).Perm m.keys) : order.Perm (m.erase k).keys := by
  obtain ⟨hnodup, hmem⟩ := perm_keys_iff.1 h
  obtain ⟨hk, hnodup⟩ := List.nodup_cons.1 hnodup
  refine perm_keys_iff.2 ⟨hnodup, fun k' => ?_⟩
  rw [mem_erase, ← hmem, LawfulEqOrd.compare_eq_iff_eq.ne, List.mem_cons]
  constructor
  · exact fun h' => ⟨fun heq => hk (heq ▸ h'), .inr h'⟩
  · rintro ⟨hne, rfl | h'⟩
    · exact absurd rfl hne
    · exact h'

end
