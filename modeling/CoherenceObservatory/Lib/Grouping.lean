import Mathlib

/-!
# Grouping by key

A pass over a list that adds each element to the group of its key. The group of a key is what
the elements of that key, in their order, add up to.

* `foldl_getD`, `getLastD_eq_of_perm`, `headD_eq_of_perm`: a group that keeps its last or its first
  element.
-/

namespace Grouping

open Std ExtTreeMap

variable {κ α β : Type} [DecidableEq κ] (key : α → κ) (init : β) (add : β → α → β)

/-- The elements of a key. -/
def members (k : κ) (l : List α) : List α := l.filter fun a => key a = k

variable {k : κ} {l l' : List α} {a : α} {M : Type*}

variable {key} in
theorem mem_members : a ∈ members key k l ↔ a ∈ l ∧ key a = k := by
  rw [members, List.mem_filter, decide_eq_true_iff]

variable {key} in
theorem members_concat (k : κ) (l : List α) (a : α) :
    members key k (l ++ [a]) = members key k l ++ if key a = k then [a] else [] := by
  rw [members, List.filter_append, ← members]
  split
  case isTrue h => rw [List.filter_singleton, decide_eq_true h]; rfl
  case isFalse h => rw [List.filter_singleton, decide_eq_false h]; rfl

variable {key} in
/-- A sum over all elements is a sum over the keys. -/
theorem sum_members [AddCommMonoid M] (f : α → M) (l : List α) {keys : List κ} (hnodup : keys.Nodup)
    (hkeys : ∀ a ∈ l, key a ∈ keys) :
    (keys.map fun k => ((members key k l).map f).sum).sum = (l.map f).sum := by
  induction l with
  | nil => simp [members]
  | cons a l ih =>
    have hsplit (k : κ) : ((members key k (a :: l)).map f).sum =
        (if key a = k then f a else 0) + ((members key k l).map f).sum := by
      rw [members, List.filter_cons]
      split <;> simp_all [members]
    have hone : (keys.map fun k => if key a = k then f a else 0).sum = f a := by
      rw [← List.sum_toFinset _ hnodup, Finset.sum_ite_eq,
        if_pos (List.mem_toFinset.2 (hkeys a List.mem_cons_self))]
    simp only [hsplit]
    rw [List.sum_map_add, hone, ih fun b hb => hkeys b (List.mem_cons_of_mem _ hb), List.map_cons,
      List.sum_cons]

variable {key} in
theorem perm_members (h : l.Perm l') (k : κ) :
    (members key k l).Perm (members key k l') := h.filter _

variable {key} in
theorem members_eq_nil_of_perm (h : l.Perm l') (k : κ) :
    members key k l = [] ↔ members key k l' = [] := by
  rw [← List.length_eq_zero_iff, ← List.length_eq_zero_iff, (perm_members h k).length_eq]

/-! ### First and last -/

section

variable {γ : Type*}

/-- A fold that keeps what the last element to have any gives. -/
theorem foldl_getD (f : α → Option γ) (l : List α) (d : γ) :
    l.foldl (fun c a => (f a).getD c) d = (l.filterMap f).getLastD d := by
  induction l using List.reverseRecOn with
  | nil => rfl
  | append_singleton l a ih =>
    rw [List.foldl_concat, ih, List.filterMap_append]
    cases hf : f a with
    | none | some => simp [hf]

theorem getLastD_mem {l : List γ} (h : l ≠ []) (d : γ) : l.getLastD d ∈ l := by
  rw [List.getLastD_eq_getLast?, List.getLast?_eq_some_getLast h]
  exact List.getLast_mem h

theorem headD_mem {l : List γ} (h : l ≠ []) (d : γ) : l.headD d ∈ l := by
  cases l with
  | nil => exact absurd rfl h
  | cons a l => exact List.mem_cons_self

theorem getLastD_eq_of_perm {l l' : List γ} (h : l.Perm l') (heq : ∀ a ∈ l, ∀ b ∈ l, a = b)
    (d : γ) : l.getLastD d = l'.getLastD d := by
  by_cases hl : l = []
  · subst hl
    rw [h.nil_eq]
  · have hl' : l' ≠ [] := fun hnil => hl (hnil ▸ h).eq_nil
    exact heq _ (getLastD_mem hl d) _ (h.mem_iff.2 (getLastD_mem hl' d))

theorem headD_eq_of_perm {l l' : List γ} (h : l.Perm l') (heq : ∀ a ∈ l, ∀ b ∈ l, a = b)
    (d : γ) : l.headD d = l'.headD d := by
  by_cases hl : l = []
  · subst hl
    rw [h.nil_eq]
  · have hl' : l' ≠ [] := fun hnil => hl (hnil ▸ h).eq_nil
    exact heq _ (headD_mem hl d) _ (h.mem_iff.2 (headD_mem hl' d))

end

/-- A sum in the arithmetic of the machine. -/
theorem toNat_foldl_add (f : α → UInt64) (l : List α) (total : UInt64) :
    (l.foldl (fun total a => total + f a) total).toNat =
      (total.toNat + (l.map fun a => (f a).toNat).sum) % 2 ^ 64 := by
  induction l generalizing total with
  | nil =>
    rw [List.foldl_nil, List.map_nil, List.sum_nil, Nat.add_zero]
    exact (Nat.mod_eq_of_lt total.toNat_lt).symm
  | cons a l ih =>
    rw [List.foldl_cons, ih, UInt64.toNat_add, Nat.mod_add_mod, List.map_cons, List.sum_cons,
      Nat.add_assoc]

variable [Ord κ] [TransOrd κ]

/-- An element enters its group, which starts with `init`. -/
def enter (m : ExtTreeMap κ β) (a : α) : ExtTreeMap κ β :=
  m.insert (key a) (add (m[key a]?.getD init) a)

/-- The groups after the pass. -/
def groups (l : List α) : ExtTreeMap κ β := l.foldl (enter key init add) ∅

variable {key init add} [LawfulEqOrd κ]

/-- The group of a key, from the elements of that key. -/
theorem getElem?_groups (l : List α) (k : κ) :
    (groups key init add l)[k]? =
      if members key k l = [] then none else some ((members key k l).foldl add init) := by
  induction l using List.reverseRecOn with
  | nil => exact getElem?_empty
  | append_singleton l a ih =>
    rw [groups, List.foldl_concat, ← groups, enter, getElem?_insert, members_concat]
    by_cases hkey : key a = k
    · subst hkey
      have hstart : (groups key init add l)[key a]?.getD init =
          (members key (key a) l).foldl add init := by
        rw [ih]
        split
        case isTrue h => rw [h]; rfl
        case isFalse => rfl
      rw [if_pos (by simp), if_pos rfl, if_neg (List.append_ne_nil_of_right_ne_nil _ (by simp)),
        List.foldl_concat, hstart]
    · rw [if_neg (by simpa using hkey), if_neg hkey, List.append_nil]
      exact ih

theorem getElem?_groups_eq_some {b : β} :
    (groups key init add l)[k]? = some b ↔
      members key k l ≠ [] ∧ (members key k l).foldl add init = b := by
  rw [getElem?_groups]
  split
  case isTrue h => simp [h]
  case isFalse h => simp [h]

omit [DecidableEq κ] [Ord κ] [TransOrd κ] [LawfulEqOrd κ] in
theorem eq_of_map_fst_snd {l l' : List (κ × β)} (hfst : l.map Prod.fst = l'.map Prod.fst)
    (hsnd : l.map Prod.snd = l'.map Prod.snd) : l = l' := by
  calc l
    _ = (l.map Prod.fst).zip (l.map Prod.snd) := by rw [List.zip_map']; exact (List.map_id l).symm
    _ = (l'.map Prod.fst).zip (l'.map Prod.snd) := by rw [hfst, hsnd]
    _ = l' := by rw [List.zip_map']; exact List.map_id l'

theorem mem_groups_iff : k ∈ groups key init add l ↔ members key k l ≠ [] := by
  rw [mem_iff_isSome_getElem?, getElem?_groups]
  split <;> simp_all

theorem key_mem_groups (h : a ∈ l) : key a ∈ groups key init add l :=
  mem_groups_iff.2 (List.ne_nil_of_mem (mem_members.2 ⟨h, rfl⟩))

/-- The keys do not depend on the order of the list. -/
theorem keys_groups_of_perm (h : l.Perm l') :
    (groups key init add l).keys = (groups key init add l').keys := by
  have hunit : (groups key init add l).map (fun _ _ => ()) =
      (groups key init add l').map fun _ _ => () := by
    refine ext_mem_unit fun k => ?_
    rw [mem_map, mem_map, mem_groups_iff, mem_groups_iff]
    exact not_congr (members_eq_nil_of_perm h k)
  calc (groups key init add l).keys
    _ = ((groups key init add l).map fun _ _ => ()).keys := keys_map.symm
    _ = ((groups key init add l').map fun _ _ => ()).keys := by rw [hunit]
    _ = (groups key init add l').keys := keys_map

/-- The listed groups of two orders of a list are the same, as far as `g` sees them, exactly if
that holds for each key. -/
theorem map_toList_groups_eq_iff {γ : Type} (h : l.Perm l') (g : β → γ) :
    (groups key init add l).toList.map (fun entry => g entry.2) =
        (groups key init add l').toList.map (fun entry => g entry.2) ↔
      ∀ k, members key k l ≠ [] →
        g ((members key k l).foldl add init) = g ((members key k l').foldl add init) := by
  have hlist (l : List α) : (groups key init add l).toList.map (fun entry => g entry.2) =
      ((groups key init add l).map fun _ => g).toList.map Prod.snd := by
    rw [toList_map, List.map_map]
    rfl
  have hkeys : ((groups key init add l).map fun _ => g).toList.map Prod.fst =
      ((groups key init add l').map fun _ => g).toList.map Prod.fst := by
    rw [map_fst_toList_eq_keys, map_fst_toList_eq_keys, keys_map,
      keys_map, keys_groups_of_perm h]
  have hget (l : List α) (k : κ) : ((groups key init add l).map fun _ => g)[k]? =
      if members key k l = [] then none else some (g ((members key k l).foldl add init)) := by
    rw [getElem?_map, getElem?_groups]
    split <;> rfl
  rw [hlist, hlist]
  constructor
  · intro hrows k hk
    -- with the keys, the listed values give the map
    have hmap := ext_toList (List.Perm.of_eq (eq_of_map_fst_snd hkeys hrows))
    have hk' := congrArg (·[k]?) hmap
    simp only [hget, if_neg hk, if_neg (mt (members_eq_nil_of_perm h k).2 hk)] at hk'
    exact Option.some.inj hk'
  · intro hgroups
    congr 2
    refine ext_getElem? fun k => ?_
    rw [hget, hget]
    by_cases hk : members key k l = []
    · rw [if_pos hk, if_pos ((members_eq_nil_of_perm h k).1 hk)]
    · rw [if_neg hk, if_neg (mt (members_eq_nil_of_perm h k).2 hk), hgroups k hk]

/-- Where a group measures what its elements add up to, the groups together measure the sum of
all. -/
theorem sum_groups [AddCommMonoid M] (measure : β → M) (f : α → M) (l : List α)
    (h : ∀ k, measure ((members key k l).foldl add init) = ((members key k l).map f).sum) :
    ((groups key init add l).toList.map fun entry => measure entry.2).sum = (l.map f).sum := by
  have hgroup : ∀ entry ∈ (groups key init add l).toList,
      measure entry.2 = ((members key entry.1 l).map f).sum := by
    rintro ⟨k, group⟩ hentry
    obtain ⟨-, rfl⟩ := getElem?_groups_eq_some.1
      (mem_toList_iff_getElem?_eq_some.1 hentry)
    exact h k
  calc ((groups key init add l).toList.map fun entry => measure entry.2).sum
    _ = (((groups key init add l).toList.map Prod.fst).map fun k =>
          ((members key k l).map f).sum).sum := by
      rw [List.map_map, List.map_congr_left hgroup]
      rfl
    _ = (l.map f).sum := by
      rw [map_fst_toList_eq_keys]
      exact sum_members f l nodup_keys fun a ha =>
        mem_keys.2 (key_mem_groups ha)

end Grouping
