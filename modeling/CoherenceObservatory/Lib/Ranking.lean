import Mathlib.Data.List.Sort
import Mathlib.Data.List.Induction
import Mathlib.Data.List.Perm.Subperm

/-!
# The first elements of a list in an order

Two ways to gather candidates give the same first `m` of them exactly where each candidate that
only one of them gathered stands too late there to be among the first.

* `mem_first_iff`: the first `m` are those with fewer than `m` before them.
-/

namespace Ranking

open List

/-- A pass that adds what it finds until there is enough takes the first it finds. -/
theorem foldl_push {ι α : Type*} (f : ι → Option α) (cap : Nat) (l : List ι) :
    l.foldl (fun found i => if found.length ≥ cap then found else found ++ (f i).toList) [] =
      (l.filterMap f).take cap := by
  induction l using List.reverseRecOn with
  | nil => rw [foldl_nil, filterMap_nil, take_nil]
  | append_singleton l i ih =>
    rw [foldl_concat, ih, filterMap_append]
    split
    case isTrue h =>
      rw [length_take] at h
      rw [take_append_of_le_length (by omega)]
    case isFalse h =>
      rw [length_take] at h
      have hall : (l.filterMap f).length < cap := by omega
      rw [take_of_length_le hall.le, take_of_length_le]
      · cases hf : f i <;> simp [hf]
      · cases hf : f i <;> simp [hf] <;> omega

/-- Lists with the same images are the same where the function tells their elements apart. -/
theorem map_inj_on {α β : Type*} {f : α → β} {l l' : List α}
    (hinj : ∀ a b, a ∈ l → b ∈ l' → f a = f b → a = b) (h : l.map f = l'.map f) : l = l' := by
  have hlength : l.length = l'.length := by
    rw [← length_map f, h, length_map]
  refine ext_getElem hlength fun i hi hi' => ?_
  refine hinj _ _ (getElem_mem hi) (getElem_mem hi') ?_
  rw [← getElem_map f (h := by rwa [length_map]),
    ← getElem_map f (h := by rwa [length_map])]
  congr 1

variable {α : Type*} (r : α → α → Prop)

/-- The order tells the elements apart. -/
def Apart (l : List α) : Prop := ∀ a ∈ l, ∀ b ∈ l, r a b → r b a → a = b

variable {r} {l : List α} in
theorem Apart.subset {l' : List α} (h : Apart r l) (hsubset : l' ⊆ l) : Apart r l' :=
  fun a ha b hb => h a (hsubset ha) b (hsubset hb)

variable [DecidableRel r]

/-- The first `m` elements in the order. -/
def first (m : Nat) (l : List α) : List α := (l.insertionSort r).take m

/-- How many elements stand before `a`. -/
def before (a : α) (l : List α) : Nat := l.countP fun x => ¬r a x

variable {r} {m : Nat} {l : List α} [Std.Total r]

/-- In a sorted list, what stands before an element is what comes before it. -/
theorem before_eq_length {pre post : List α} {a : α} (hsorted : (pre ++ a :: post).Pairwise r)
    (hnodup : (pre ++ a :: post).Nodup) (hapart : Apart r (pre ++ a :: post)) :
    before r a (pre ++ a :: post) = pre.length := by
  have hmem : a ∈ pre ++ a :: post := mem_append_right _ mem_cons_self
  rw [pairwise_append] at hsorted
  have hpre : pre.countP (fun x => ¬r a x) = pre.length := by
    rw [countP_eq_length]
    intro x hx
    refine decide_eq_true fun hax => ?_
    have hxa := hsorted.2.2 x hx a mem_cons_self
    obtain rfl := hapart x (mem_append_left _ hx) a hmem hxa hax
    exact (nodup_append.1 hnodup).2.2 x hx x mem_cons_self rfl
  have hpost : (a :: post).countP (fun x => ¬r a x) = 0 := by
    rw [countP_eq_zero]
    intro x hx
    rcases mem_cons.1 hx with rfl | hx
    · simpa using (Std.Total.total (r := r) x x).elim id id
    · simpa using (pairwise_cons.1 hsorted.2.1).1 x hx
  rw [before, countP_append, hpre, hpost, Nat.add_zero]

variable [IsTrans α r]

theorem mem_first_iff (hnodup : l.Nodup) (hapart : Apart r l) {a : α} :
    a ∈ first r m l ↔ a ∈ l ∧ before r a l < m := by
  have hperm := perm_insertionSort r l
  have hsorted := pairwise_insertionSort r l
  rw [first, ← hperm.mem_iff, before, ← hperm.countP_eq, ← before]
  replace hnodup := hperm.nodup_iff.2 hnodup
  replace hapart : Apart r (l.insertionSort r) := hapart.subset hperm.subset
  generalize l.insertionSort r = sorted at *
  constructor
  · intro h
    have ha := mem_of_mem_take h
    obtain ⟨pre, post, rfl⟩ := append_of_mem ha
    refine ⟨ha, ?_⟩
    rw [before_eq_length hsorted hnodup hapart]
    by_contra hle
    rw [take_append_of_le_length (by omega)] at h
    exact (nodup_append.1 hnodup).2.2 a (mem_of_mem_take h) a mem_cons_self rfl
  · rintro ⟨ha, hlt⟩
    obtain ⟨pre, post, rfl⟩ := append_of_mem ha
    rw [before_eq_length hsorted hnodup hapart] at hlt
    obtain ⟨n, rfl⟩ := Nat.exists_eq_add_of_lt hlt
    rw [Nat.add_assoc, take_length_add_append]
    exact mem_append_right _ (by simp)

/-- The elements before one stand before it in any list that has the first of them. -/
theorem before_lt_of_subset {l' : List α} (hnodup : l'.Nodup) (hapart : Apart r l')
    (hfirst : ∀ c ∈ l', before r c l' < m → c ∈ l) {a : α} (hlt : before r a l < m) :
    before r a l' < m := by
  -- otherwise the first `m` of `l'` would all be in `l`, before `a`
  by_contra hge
  have hsub : (first r m l').countP (fun x => ¬r a x) ≤ before r a l := by
    have hsubperm : (first r m l').Subperm l := by
      refine subperm_of_subset ?_ fun c hc => ?_
      · exact ((perm_insertionSort r l').nodup_iff.2 hnodup).sublist (take_sublist _ _)
      · obtain ⟨hc, hlt⟩ := (mem_first_iff hnodup hapart).1 hc
        exact hfirst c hc hlt
    exact hsubperm.countP_le _
  have hlength : (first r m l').length = m := by
    have : before r a l' ≤ l'.length := countP_le_length
    rw [first, length_take, length_insertionSort]
    omega
  have hall : (first r m l').countP (fun x => ¬r a x) = (first r m l').length := by
    rw [countP_eq_length]
    intro x hx
    refine decide_eq_true fun hax => ?_
    obtain ⟨hx, hlt'⟩ := (mem_first_iff hnodup hapart).1 hx
    -- `x` is not before `a`, so no fewer stand before `x` than before `a`
    have hmono : before r a l' ≤ before r x l' := by
      refine countP_mono_left fun y _ hy => ?_
      simp only [decide_eq_true_eq] at hy ⊢
      exact fun hxy => hy (trans_of r hax hxy)
    omega
  omega

/-- The first elements of two lists are the same exactly where each element of only one of
them stands too late in it. -/
theorem first_eq_iff {l' : List α} (hnodup : l.Nodup) (hnodup' : l'.Nodup)
    (hapart : Apart r l) (hapart' : Apart r l') : first r m l = first r m l' ↔
      (∀ a ∈ l, a ∉ l' → m ≤ before r a l) ∧ ∀ a ∈ l', a ∉ l → m ≤ before r a l' := by
  constructor
  · intro h
    constructor
    · intro a ha hnot
      by_contra hlt
      have hmem := (mem_first_iff hnodup hapart).2 ⟨ha, Nat.lt_of_not_le hlt⟩
      rw [h] at hmem
      exact hnot ((mem_first_iff hnodup' hapart').1 hmem).1
    · intro a ha hnot
      by_contra hlt
      have hmem := (mem_first_iff hnodup' hapart').2 ⟨ha, Nat.lt_of_not_le hlt⟩
      rw [← h] at hmem
      exact hnot ((mem_first_iff hnodup hapart).1 hmem).1
  · rintro ⟨hl, hl'⟩
    have hin (a : α) (ha : a ∈ l) (hlt : before r a l < m) : a ∈ l' := by
      by_contra hnot
      exact absurd (hl a ha hnot) (by omega)
    have hin' (a : α) (ha : a ∈ l') (hlt : before r a l' < m) : a ∈ l := by
      by_contra hnot
      exact absurd (hl' a ha hnot) (by omega)
    have hmem (a : α) : a ∈ first r m l ↔ a ∈ first r m l' := by
      rw [mem_first_iff hnodup hapart, mem_first_iff hnodup' hapart']
      constructor
      · rintro ⟨ha, hlt⟩
        exact ⟨hin a ha hlt, before_lt_of_subset hnodup' hapart' hin' hlt⟩
      · rintro ⟨ha, hlt⟩
        exact ⟨hin' a ha hlt, before_lt_of_subset hnodup hapart hin hlt⟩
    -- both are sorted, and have the same elements
    have hsorted (l : List α) : (first r m l).Pairwise r :=
      (pairwise_insertionSort r l).sublist (take_sublist _ _)
    have hfirst {l : List α} (h : l.Nodup) : (first r m l).Nodup :=
      ((perm_insertionSort r l).nodup_iff.2 h).sublist (take_sublist _ _)
    refine List.Perm.eq_of_pairwise (fun a b ha hb hab hba => ?_) (hsorted l) (hsorted l')
      ((perm_ext_iff_of_nodup (hfirst hnodup) (hfirst hnodup')).2 hmem)
    exact hapart a ((mem_first_iff hnodup hapart).1 ha).1 b
      ((mem_first_iff hnodup hapart).1 ((hmem b).2 hb)).1 hab hba

end Ranking
