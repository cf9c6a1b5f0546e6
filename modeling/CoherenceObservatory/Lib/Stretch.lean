import Mathlib.Data.List.Chain
import Mathlib.Data.List.Infix

/-!
# The longest linked stretch of a list

One pass over a list finds its longest stretch of neighbours that are linked, the earliest one
where several are as long. The pass remembers where the current stretch started and the best
stretch so far.
-/

namespace Stretch

open List

variable {α : Type*} (link : α → α → Bool) (l : List α)

/-- The element at `i` is linked to the one before it. -/
def linkedAt (i : Nat) : Bool :=
  match l[i - 1]?, l[i]? with
  | some a, some b => link a b
  | _, _ => false

/-- Where the current stretch starts, and the best stretch so far. -/
structure Scan where
  start : Nat := 0
  bestStart : Nat := 0
  bestLength : Nat := 0

/-- One element is read. -/
def Scan.step (scan : Scan) (i : Nat) : Scan :=
  let start := if i = 0 ∨ linkedAt link l i = false then i else scan.start
  if i - start + 1 > scan.bestLength then
    { start, bestStart := start, bestLength := i - start + 1 }
  else { scan with start }

/-- The scan of a whole list. -/
def scan : Scan := (List.range l.length).foldl (Scan.step link l) {}

/-- The stretch the pass ends with. -/
def best : List α := (l.drop (scan link l).bestStart).take (scan link l).bestLength

/-- `r` is linked, no linked stretch of `l` is longer, and none as long starts earlier. -/
structure FirstLongest (r : List α) : Prop where
  chain : r.IsChain fun a b => link a b = true
  longest : ∀ r', r' <:+: l → (r'.IsChain fun a b => link a b = true) → r'.length ≤ r.length
  first : ∃ pre post, l = pre ++ r ++ post ∧ ∀ pre' r' post', l = pre' ++ r' ++ post' →
    (r'.IsChain fun a b => link a b = true) → r'.length = r.length → pre.length ≤ pre'.length

variable {link l}

/-- There is only one such stretch. -/
theorem FirstLongest.eq {r r' : List α} (h : FirstLongest link l r) (h' : FirstLongest link l r') :
    r = r' := by
  obtain ⟨pre, post, heq, hfirst⟩ := h.first
  obtain ⟨pre', post', heq', hfirst'⟩ := h'.first
  have hlength : r.length = r'.length :=
    le_antisymm (h'.longest r ⟨pre, post, heq.symm⟩ h.chain)
      (h.longest r' ⟨pre', post', heq'.symm⟩ h'.chain)
  have hpre : pre.length = pre'.length :=
    le_antisymm (hfirst pre' r' post' heq' h'.chain hlength.symm)
      (hfirst' pre r post heq h.chain hlength)
  have happend := heq.symm.trans heq'
  simp only [append_assoc] at happend
  exact append_inj_left (append_inj_right happend hpre) hlength

/-! ## Positions -/

variable (link l) in
/-- The elements from `a` to before `b` are linked. -/
def LinkedOn (a b : Nat) : Prop := ∀ i, a < i → i < b → linkedAt link l i = true

theorem LinkedOn.concat {a b : Nat} (h : LinkedOn link l a b) (hb : linkedAt link l b = true) :
    LinkedOn link l a (b + 1) := by
  intro i ha hi
  rcases Nat.lt_succ_iff_lt_or_eq.1 hi with h' | rfl
  · exact h i ha h'
  · exact hb

theorem LinkedOn.mono {a b b' : Nat} (h : LinkedOn link l a b') (hb : b ≤ b') :
    LinkedOn link l a b := fun i ha hi => h i ha (hi.trans_le hb)

theorem isChain_iff_linkedOn {pre r post : List α} (h : l = pre ++ r ++ post) :
    (r.IsChain fun a b => link a b = true) ↔
      LinkedOn link l pre.length (pre.length + r.length) := by
  -- position `k + 1` of the stretch is position `pre.length + k + 1` of the list
  have hat (k : Nat) (hk : k + 1 < r.length) :
      linkedAt link l (pre.length + k + 1) = link r[k] r[k + 1] := by
    have hindex (j : Nat) (hj : j < r.length) : l[pre.length + j]? = some r[j] := by
      rw [h, append_assoc, getElem?_append_right (Nat.le_add_right _ _),
        Nat.add_sub_cancel_left, getElem?_append_left hj, getElem?_eq_getElem hj]
    have hprev := hindex k (by omega)
    have hnext := hindex (k + 1) hk
    simp only [linkedAt, Nat.add_assoc] at hprev hnext ⊢
    rw [hnext, show pre.length + (k + 1) - 1 = pre.length + k by omega, hprev]
  rw [isChain_iff_getElem]
  constructor
  · intro hr i hstart hend
    obtain ⟨k, rfl⟩ : ∃ k, i = pre.length + k + 1 := ⟨i - pre.length - 1, by omega⟩
    rw [hat k (by omega)]
    exact hr k (by omega)
  · intro hl k hk
    rw [← hat k hk]
    exact hl _ (by omega) (by omega)

/-! ## The pass -/

variable (link l) in
/-- What the pass knows after `n` elements. -/
structure Scanned (n : Nat) (scan : Scan) : Prop where
  start_lt : 0 < n → scan.start < n
  linked : LinkedOn link l scan.start n
  start_le : ∀ a, a < n → LinkedOn link l a n → scan.start ≤ a
  best_le : scan.bestStart + scan.bestLength ≤ n
  best_linked : LinkedOn link l scan.bestStart (scan.bestStart + scan.bestLength)
  longest : ∀ a b, b ≤ n → LinkedOn link l a b → b - a ≤ scan.bestLength
  first : ∀ a, a + scan.bestLength ≤ n → LinkedOn link l a (a + scan.bestLength) →
    scan.bestStart ≤ a

theorem scanned_nil : Scanned link l 0 {} where
  start_lt h := absurd h (lt_irrefl 0)
  linked := fun i _ hi => absurd hi (Nat.not_lt_zero i)
  start_le := fun a ha _ => absurd ha (Nat.not_lt_zero a)
  best_le := le_refl 0
  best_linked := fun i _ hi => absurd hi (Nat.not_lt_zero i)
  longest := fun _ _ hb _ => by omega
  first := fun a _ _ => Nat.zero_le a

/-- The start of the current stretch after one more element. -/
theorem Scanned.start_step {n start : Nat} {scan : Scan} (h : Scanned link l n scan)
    (hstart : start = if n = 0 ∨ linkedAt link l n = false then n else scan.start) :
    start < n + 1 ∧ LinkedOn link l start (n + 1) ∧
      ∀ a, a < n + 1 → LinkedOn link l a (n + 1) → start ≤ a := by
  by_cases hn : n = 0 ∨ linkedAt link l n = false
  · rw [if_pos hn] at hstart
    subst hstart
    refine ⟨Nat.lt_succ_self start, fun i _ _ => by omega, fun a ha hlinked => ?_⟩
    -- a stretch from before the element would link it
    by_contra hlt
    rcases hn with rfl | hn
    · omega
    · exact absurd (hlinked start (by omega) (by omega)) (by simp [hn])
  · rw [if_neg hn] at hstart
    subst hstart
    push Not at hn
    have hlt := h.start_lt (by omega)
    refine ⟨by omega, h.linked.concat (by simpa using hn.2), fun a ha hlinked => ?_⟩
    rcases Nat.lt_succ_iff_lt_or_eq.1 ha with ha | rfl
    · exact h.start_le a ha (hlinked.mono (Nat.le_succ n))
    · exact hlt.le

theorem Scanned.step {n : Nat} {scan : Scan} (h : Scanned link l n scan) :
    Scanned link l (n + 1) (scan.step link l n) := by
  unfold Scan.step
  generalize hstart : (if n = 0 ∨ linkedAt link l n = false then n else scan.start) = start
  obtain ⟨hlt, hlinked, hle⟩ := h.start_step hstart.symm
  -- a stretch that ends here is no longer than the current one
  have hends (a b : Nat) (hb : b ≤ n + 1) (hab : LinkedOn link l a b) :
      b ≤ n ∨ b - a ≤ n - start + 1 := by
    rcases Nat.le_succ_iff.1 hb with hb | rfl
    · exact .inl hb
    · by_cases ha : a < n + 1
      · have := hle a ha hab
        omega
      · omega
  dsimp only
  split
  case isTrue hlonger =>
    have hend : start + (n - start + 1) = n + 1 := by omega
    refine ⟨fun _ => hlt, hlinked, hle, hend.le, ?_, ?_, ?_⟩
    · dsimp only
      rw [hend]
      exact hlinked
    · intro a b hb hab
      dsimp only
      rcases hends a b hb hab with hb | hb
      · have := h.longest a b hb hab
        omega
      · exact hb
    · intro a ha hab
      dsimp only at ha hab ⊢
      rcases Nat.le_succ_iff.1 ha with ha | ha
      · have := h.longest a _ ha hab
        omega
      · omega
  case isFalse hshort =>
    refine ⟨fun _ => hlt, hlinked, hle, h.best_le.trans (Nat.le_succ n), h.best_linked, ?_, ?_⟩
    · intro a b hb hab
      rcases hends a b hb hab with hb | hb
      · exact h.longest a b hb hab
      · dsimp only
        omega
    · intro a ha hab
      rcases Nat.le_succ_iff.1 ha with ha | ha
      · exact h.first a ha hab
      · have := h.best_le
        dsimp only at ha ⊢
        omega

variable (link l) in
theorem scanned_scan : Scanned link l l.length (scan link l) := by
  have hall (n : Nat) : Scanned link l n ((List.range n).foldl (Scan.step link l) {}) := by
    induction n with
    | zero => exact scanned_nil
    | succ n ih =>
      rw [range_succ, foldl_concat]
      exact ih.step
  exact hall l.length

variable (link l) in
/-- The list around the stretch the pass ends with. -/
theorem exists_around_best : ∃ pre post, l = pre ++ best link l ++ post ∧
    pre.length = (scan link l).bestStart ∧ (best link l).length = (scan link l).bestLength := by
  have hle := (scanned_scan link l).best_le
  refine ⟨l.take (scan link l).bestStart,
    (l.drop (scan link l).bestStart).drop (scan link l).bestLength, ?_, ?_, ?_⟩
  · rw [best, append_assoc, take_append_drop, take_append_drop]
  · rw [length_take]
    omega
  · rw [best, length_take, length_drop]
    omega

variable (link l) in
/-- It is the first of the longest. -/
theorem firstLongest_best : FirstLongest link l (best link l) := by
  have hscan := scanned_scan link l
  obtain ⟨pre, post, heq, hpre, hlength⟩ := exists_around_best link l
  have hbound {pre' r' post' : List α} (h : l = pre' ++ r' ++ post') :
      pre'.length + r'.length ≤ l.length := by
    have := congrArg List.length h
    simp only [length_append] at this
    omega
  refine ⟨?_, ?_, pre, post, heq, ?_⟩
  · rw [isChain_iff_linkedOn heq, hpre, hlength]
    exact hscan.best_linked
  · rintro r' ⟨pre', post', h⟩ hr'
    have := hscan.longest _ _ (hbound h.symm) ((isChain_iff_linkedOn h.symm).1 hr')
    omega
  · intro pre' r' post' h hr' hr
    rw [isChain_iff_linkedOn h, hr, hlength] at hr'
    have hle := hbound h
    rw [hr, hlength] at hle
    rw [hpre]
    exact hscan.first _ hle hr'

/-- A list is linked when its neighbours are. -/
theorem isChain_iff_neighbours {R : α → α → Prop} {l : List α} :
    l.IsChain R ↔ ∀ a b, [a, b] <:+: l → R a b := by
  refine ⟨fun h a b hab => ?_, fun h => (isChain_isInfix l).imp fun a b hab => h a b hab⟩
  have hpair := List.IsChain.infix h hab
  exact isChain_pair.1 hpair

/-- Where what is cut stands before what is kept, the cut is a filter. -/
theorem dropWhile_eq_filter {p : α → Bool} {l : List α}
    (h : l.Pairwise fun a b => p b = true → p a = true) :
    l.dropWhile p = l.filter fun a => !p a := by
  induction h with
  | nil => rfl
  | @cons a l ha _ ih =>
    cases hp : p a with
    | true => rw [dropWhile_cons_of_pos hp, ih, filter_cons_of_neg (by simp [hp])]
    | false =>
      have hkept : l.filter (fun b => !p b) = l := by
        refine filter_eq_self.2 fun b hb => ?_
        cases hpb : p b with
        | true => exact absurd (ha b hb hpb) (by simp [hp])
        | false => rfl
      rw [dropWhile_cons_of_neg (by simp [hp]), filter_cons_of_pos (by simp [hp]), hkept]

end Stretch
