import Mathlib

/-!
# The fullest window

How many elements of a list lie in a closed interval of a given width, at most. In a sorted list
it is enough to look at the intervals that end at an element, and to count back from there.
-/

namespace Window

open List

/-! ## Scans that go on -/

section

variable {α : Type*} {p : α → Bool} {l : List α}

/-- A scan may go on behind elements that are known to pass. -/
theorem length_takeWhile_resume {start : Nat} (hle : start ≤ l.length)
    (hpass : ∀ a ∈ l.take start, p a = true) :
    start + ((l.drop start).takeWhile p).length = (l.takeWhile p).length := by
  conv_rhs => rw [← take_append_drop start l]
  rw [takeWhile_append_of_pos hpass, length_append, length_take, min_eq_left hle]

/-- A scan goes no further than an element that does not pass. -/
theorem le_of_not_pass {i : Nat} (hi : i < l.length) (hnot : ¬p l[i] = true) :
    (l.takeWhile p).length ≤ i := by
  by_contra hlt
  have hi' : i < (l.takeWhile p).length := Nat.lt_of_not_le hlt
  have hpass := all_takeWhile (p := p) (l := l)
  rw [all_eq_true] at hpass
  have hinit := takeWhile_prefix (l := l) p
  have hget : (l.takeWhile p)[i] = l[i] := hinit.getElem hi'
  exact hnot (hget ▸ hpass _ (getElem_mem hi'))

/-- A scan of images goes as far as one of the elements. -/
theorem length_takeWhile_map {β : Type*} {f : α → β} {q : β → Bool}
    (h : ∀ a ∈ l, q (f a) = p a) : ((l.map f).takeWhile q).length = (l.takeWhile p).length := by
  induction l with
  | nil => rfl
  | cons a l ih =>
    rw [map_cons, takeWhile_cons, takeWhile_cons, h a mem_cons_self]
    cases p a with
    | false => rfl
    | true => exact congrArg (· + 1) (ih fun b hb => h b (mem_cons_of_mem a hb))

/-- Where what passes stands in front, a scan counts it. -/
theorem length_takeWhile_eq_countP (h : l.Pairwise fun a b => p b = true → p a = true) :
    (l.takeWhile p).length = l.countP p := by
  induction h with
  | nil => rfl
  | @cons a l hfront _ ih =>
    by_cases ha : p a = true
    · rw [takeWhile_cons_of_pos ha, countP_cons_of_pos ha, length_cons, ih]
    · have hnone : l.countP p = 0 := countP_eq_zero.2 fun b hb hpass => ha (hfront b hb hpass)
      rw [takeWhile_cons_of_neg ha, countP_cons_of_neg ha, hnone, length_nil]

/-- There, an element passes exactly if its place is among as many as pass. -/
theorem pass_iff (h : l.Pairwise fun a b => p b = true → p a = true) {i : Nat}
    (hi : i < l.length) : p l[i] = true ↔ i < l.countP p := by
  induction h generalizing i with
  | nil => exact absurd hi (Nat.not_lt_zero i)
  | @cons a l hfront _ ih =>
    by_cases ha : p a = true
    · rw [countP_cons_of_pos ha]
      cases i with
      | zero => simpa using ha
      | succ i => simpa using ih (Nat.lt_of_succ_lt_succ hi)
    · have hnone : l.countP p = 0 := countP_eq_zero.2 fun b hb hpass => ha (hfront b hb hpass)
      rw [countP_cons_of_neg ha, hnone]
      refine iff_of_false (fun hpass => ?_) (Nat.not_lt_zero i)
      rcases mem_cons.1 (getElem_mem hi) with heq | hmem
      · exact ha (heq ▸ hpass)
      · exact ha (hfront _ hmem hpass)

/-- Nothing is lost by looking at more than as many as pass. -/
theorem countP_take (h : l.Pairwise fun a b => p b = true → p a = true) {n : Nat}
    (hn : l.countP p ≤ n) {q : α → Bool} (hq : ∀ a, q a = true → p a = true) :
    (l.take n).countP q = l.countP q := by
  conv_rhs => rw [← take_append_drop n l]
  rw [countP_append, Nat.left_eq_add, countP_eq_zero]
  intro a ha hpass
  obtain ⟨j, hj, rfl⟩ := mem_iff_getElem.1 ha
  rw [length_drop] at hj
  rw [getElem_drop] at hpass
  have := (pass_iff h (i := n + j) (by omega)).1 (hq _ hpass)
  omega

end

/-! ## Passes over positions -/

section

variable {β : Type*} {step : β → Nat → β} {P : Nat → β → Prop} {init : β} {n : Nat}

/-- What each step keeps holds at the end of the pass. -/
theorem foldl_range (hinit : P 0 init) (hstep : ∀ i b, i < n → P i b → P (i + 1) (step b i)) :
    P n ((List.range n).foldl step init) := by
  induction n with
  | zero => exact hinit
  | succ n ih =>
    rw [range_succ, foldl_concat]
    exact hstep n _ (Nat.lt_succ_self n)
      (ih fun i b hi hb => hstep i b (Nat.lt_succ_of_lt hi) hb)

/-- A pass whose steps may fail does not, where none does from what the steps before keep. -/
theorem foldlM_range {checked : β → Nat → Option β} (hinit : P 0 init)
    (hstep : ∀ i b, i < n → P i b → P (i + 1) (step b i))
    (hchecked : ∀ i b, i < n → P i b → checked b i = some (step b i)) :
    (List.range n).foldlM checked init = some ((List.range n).foldl step init) := by
  induction n with
  | zero => rfl
  | succ n ih =>
    have hstep' (i : Nat) (b : β) (hi : i < n) (hb : P i b) : P (i + 1) (step b i) :=
      hstep i b (Nat.lt_succ_of_lt hi) hb
    rw [range_succ, foldlM_append,
      ih hstep' fun i b hi hb => hchecked i b (Nat.lt_succ_of_lt hi) hb, foldl_concat,
      Option.bind_eq_bind, Option.bind_some, foldlM_cons,
      hchecked n _ (Nat.lt_succ_self n) (foldl_range hinit hstep')]
    rfl

end

/-! ## Windows that end at an element -/

variable (w : ℤ) (l : List ℤ)

/-- The elements in the interval of width `w` from `a` on. -/
def count (a : ℤ) : Nat := l.countP fun t => a ≤ t ∧ t ≤ a + w

/-- The elements up to the one at `i`, back to where the interval that ends there starts. -/
def reach (i : Nat) : Nat := i + 1 - (l.takeWhile fun t => l.getD i 0 - t > w).length

variable {w l}

theorem pairwise_far (hsorted : l.Pairwise (· ≤ ·)) (c : ℤ) :
    l.Pairwise fun a b => decide (c - b > w) = true → decide (c - a > w) = true := by
  refine hsorted.imp fun {a b} hab hfar => ?_
  simp only [decide_eq_true_eq] at hfar ⊢
  omega

/-- The elements an interval leaves behind stand before its end. -/
theorem countP_far_le (hw : 0 ≤ w) (hsorted : l.Pairwise (· ≤ ·)) {i : Nat} (hi : i < l.length) :
    l.countP (fun t => l.getD i 0 - t > w) ≤ i := by
  by_contra hlt
  have hfar := (pass_iff (pairwise_far hsorted (l.getD i 0)) hi).2 (Nat.lt_of_not_le hlt)
  rw [getD_eq_getElem _ _ hi, decide_eq_true_eq] at hfar
  omega

/-- The reach counts what is near enough, up to the element. -/
theorem reach_eq_countP (hw : 0 ≤ w) (hsorted : l.Pairwise (· ≤ ·)) {i : Nat}
    (hi : i < l.length) :
    reach w l i = (l.take (i + 1)).countP fun t => ¬decide (l.getD i 0 - t > w) = true := by
  have hfar := pairwise_far (w := w) hsorted (l.getD i 0)
  have htake := countP_take hfar ((countP_far_le hw hsorted hi).trans (Nat.le_succ i))
    fun _ hpass => hpass
  have htotal := length_eq_countP_add_countP (l := l.take (i + 1))
    fun t => decide (l.getD i 0 - t > w)
  rw [length_take, min_eq_left (by omega), htake] at htotal
  rw [reach, length_takeWhile_eq_countP hfar]
  omega

/-- What is within reach of an element lies in the interval that ends there. -/
theorem reach_le_count (hw : 0 ≤ w) (hsorted : l.Pairwise (· ≤ ·)) {i : Nat}
    (hi : i < l.length) : reach w l i ≤ count w l (l.getD i 0 - w) := by
  rw [reach_eq_countP hw hsorted hi, count]
  refine le_trans ?_ (take_sublist (i + 1) l).countP_le
  refine countP_mono_left fun t ht hnear => ?_
  obtain ⟨j, hj, rfl⟩ := mem_iff_getElem.1 ht
  rw [length_take] at hj
  rw [getElem_take] at hnear ⊢
  have hle : l[j] ≤ l[i] := by
    rcases Nat.lt_or_ge j i with hji | hij
    · exact pairwise_iff_getElem.1 hsorted j i (by omega) hi hji
    · obtain rfl : i = j := by omega
      exact le_rfl
  rw [getD_eq_getElem _ _ hi] at hnear ⊢
  simp only [decide_eq_true_eq, not_lt] at hnear ⊢
  omega

/-- An interval with elements has no more than are within reach of its last one. -/
theorem exists_count_le_reach (hw : 0 ≤ w) (hsorted : l.Pairwise (· ≤ ·)) {a : ℤ}
    (hpos : 0 < count w l a) : ∃ i < l.length, count w l a ≤ reach w l i := by
  -- the elements up to the end of the interval come first; the last of them ends the window
  have hfront : l.Pairwise fun x y => decide (y ≤ a + w) = true → decide (x ≤ a + w) = true := by
    refine hsorted.imp fun {x y} hxy hy => ?_
    simp only [decide_eq_true_eq] at hy ⊢
    omega
  obtain ⟨n, hn⟩ : ∃ n, n = l.countP fun t => t ≤ a + w := ⟨_, rfl⟩
  have hle : n ≤ l.length := hn ▸ countP_le_length
  have hcount : (l.take n).countP (fun t => a ≤ t ∧ t ≤ a + w) = count w l a := by
    refine countP_take hfront hn.ge fun t hin => ?_
    simp only [decide_eq_true_eq] at hin ⊢
    exact hin.2
  have hpos' : 0 < n := by
    have hlength : count w l a ≤ (l.take n).length := hcount ▸ countP_le_length
    rw [length_take] at hlength
    omega
  have hi : n - 1 < l.length := by omega
  have hlast : l[n - 1] ≤ a + w := by
    simpa using (pass_iff hfront hi).2 (by omega)
  refine ⟨n - 1, hi, ?_⟩
  rw [← hcount, reach_eq_countP hw hsorted hi, Nat.sub_add_cancel hpos']
  refine countP_mono_left fun t _ hin => ?_
  rw [getD_eq_getElem _ _ hi]
  simp only [decide_eq_true_eq, not_lt] at hin ⊢
  omega

/-- The furthest reach is the largest number of elements in an interval. -/
theorem isGreatest_reach (hw : 0 ≤ w) (hsorted : l.Pairwise (· ≤ ·)) {m : Nat}
    (hreached : m = 0 ∨ ∃ i < l.length, reach w l i = m)
    (hmax : ∀ i < l.length, reach w l i ≤ m) : IsGreatest (Set.range (count w l)) m := by
  have hbound (a : ℤ) : count w l a ≤ m := by
    rcases Nat.eq_zero_or_pos (count w l a) with hzero | hpos
    · omega
    · obtain ⟨i, hi, hle⟩ := exists_count_le_reach hw hsorted hpos
      exact hle.trans (hmax i hi)
  refine ⟨?_, ?_⟩
  · rcases hreached with rfl | ⟨i, hi, rfl⟩
    · exact ⟨0, Nat.le_zero.1 (hbound 0)⟩
    · exact ⟨_, le_antisymm (hbound _) (reach_le_count hw hsorted hi)⟩
  · rintro _ ⟨a, rfl⟩
    exact hbound a

end Window
