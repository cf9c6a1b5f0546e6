import Mathlib

/-!
# Runs of a deterministic machine

A machine takes an input in a state, answers with an output and moves on. A run is a
list of inputs; its history pairs each input with the answer it got.
-/

namespace Run

variable {σ ι ο : Type} (step : σ → ι → ο × σ)

/-- The state a run ends in. -/
def final : σ → List ι → σ
  | s, [] => s
  | s, i :: l => final (step s i).2 l

/-- The inputs of a run, each with its answer. -/
def history : σ → List ι → List (ι × ο)
  | _, [] => []
  | s, i :: l => (i, (step s i).1) :: history (step s i).2 l

/-- What the steps of a run contribute together. -/
def total (f : σ → ι → Nat) : σ → List ι → Nat
  | _, [] => 0
  | s, i :: l => f s i + total f (step s i).2 l

/-- `C` holds at every step of a run. -/
def Along (C : σ → ι → Prop) : σ → List ι → Prop
  | _, [] => True
  | s, i :: l => C s i ∧ Along C (step s i).2 l

/-- `P` holds at some step of a run. -/
def Occurs (P : σ → ι → Prop) : σ → List ι → Prop
  | _, [] => False
  | s, i :: l => P s i ∨ Occurs P (step s i).2 l

instance decidableAlong (C : σ → ι → Prop) [∀ s i, Decidable (C s i)] :
    ∀ s l, Decidable (Along step C s l)
  | _, [] => .isTrue trivial
  | s, i :: l => @instDecidableAnd _ _ _ (decidableAlong C (step s i).2 l)

variable {step} {C : σ → ι → Prop}

theorem final_append (s : σ) (l l' : List ι) :
    final step s (l ++ l') = final step (final step s l) l' := by
  induction l generalizing s with
  | nil => rfl
  | cons i l ih => exact ih _

theorem final_concat (s : σ) (l : List ι) (i : ι) :
    final step s (l ++ [i]) = (step (final step s l) i).2 :=
  final_append s l [i]

theorem history_append (s : σ) (l l' : List ι) :
    history step s (l ++ l') = history step s l ++ history step (final step s l) l' := by
  induction l generalizing s with
  | nil => rfl
  | cons i l ih => exact congrArg _ (ih _)

/-- The inputs of the history are those of the run. -/
theorem map_fst_history (s : σ) (l : List ι) : (history step s l).map Prod.fst = l := by
  induction l generalizing s with
  | nil => rfl
  | cons i l ih => exact congrArg _ (ih _)

theorem length_history (s : σ) (l : List ι) : (history step s l).length = l.length := by
  rw [← List.length_map Prod.fst, map_fst_history]

theorem mem_of_mem_history {s : σ} {l : List ι} {i : ι × ο} (hi : i ∈ history step s l) :
    i.1 ∈ l := by
  have h := List.mem_map_of_mem (f := Prod.fst) hi
  rwa [map_fst_history] at h

theorem along_append (s : σ) (l l' : List ι) :
    Along step C s (l ++ l') ↔ Along step C s l ∧ Along step C (final step s l) l' := by
  induction l generalizing s with
  | nil => simp [Along, final]
  | cons i l ih => simp [Along, final, ih, and_assoc]

/-- What holds at every step of a run holds at the last. -/
theorem along_last {s : σ} {l : List ι} {i : ι} (h : Along step C s (l ++ [i])) :
    C (final step s l) i :=
  ((along_append s l [i]).1 h).2.1

theorem along_of_forall_mem {P : ι → Prop} {l : List ι} (h : ∀ i ∈ l, P i) (s : σ) :
    Along step (fun _ i => P i) s l := by
  induction l generalizing s with
  | nil => trivial
  | cons i l ih =>
    obtain ⟨hi, hl⟩ := List.forall_mem_cons.1 h
    exact ⟨hi, ih hl _⟩

theorem forall_mem_of_along {P : ι → Prop} (h : ∀ s i, C s i → P i) {s : σ} {l : List ι}
    (hl : Along step C s l) : ∀ i ∈ l, P i := by
  induction l generalizing s with
  | nil => exact nofun
  | cons i l ih => exact List.forall_mem_cons.2 ⟨h s i hl.1, ih hl.2⟩

theorem along_of_forall (h : ∀ s i, C s i) (s : σ) (l : List ι) : Along step C s l := by
  induction l generalizing s with
  | nil => trivial
  | cons i l ih => exact ⟨h s i, ih _⟩

theorem along_congr {C' : σ → ι → Prop} (h : ∀ s i, C s i ↔ C' s i) (s : σ) (l : List ι) :
    Along step C s l ↔ Along step C' s l := by
  induction l generalizing s with
  | nil => exact Iff.rfl
  | cons i l ih => exact and_congr (h s i) (ih _)

/-- What every admitted step keeps, an admitted run keeps. -/
theorem final_invariant {I : σ → Prop} (h : ∀ s i, I s → C s i → I (step s i).2)
    {s : σ} {l : List ι} (hs : I s) (hl : Along step C s l) : I (final step s l) := by
  induction l generalizing s with
  | nil => exact hs
  | cons i l ih => exact ih (h s i hs hl.1) hl.2

/-- The same for what every step keeps, admitted or not. -/
theorem final_stable {I : σ → Prop} (h : ∀ s i, I s → I (step s i).2) {s : σ} (hs : I s)
    (l : List ι) : I (final step s l) :=
  final_invariant (fun s i hs _ => h s i hs) hs (along_of_forall (fun _ _ => trivial) s l)

/-- What holds of every admitted step from an invariant state holds along an admitted run. -/
theorem along_of_invariant {I : σ → Prop} {Q : σ → ι → Prop}
    (h : ∀ s i, I s → C s i → I (step s i).2 ∧ Q s i) {s : σ} {l : List ι} (hs : I s)
    (hl : Along step C s l) : Along step Q s l := by
  induction l generalizing s with
  | nil => trivial
  | cons i l ih =>
    obtain ⟨hnext, hstep⟩ := h s i hs hl.1
    exact ⟨hstep, ih hnext hl.2⟩

/-- A relation between the history so far and the state that every admitted step
keeps holds after an admitted run. -/
theorem history_invariant {I : List (ι × ο) → σ → Prop}
    (h : ∀ past s i, I past s → C s i → I (past ++ [(i, (step s i).1)]) (step s i).2)
    {s : σ} {l : List ι} (hs : I [] s) (hl : Along step C s l) :
    I (history step s l) (final step s l) := by
  -- the history so far grows along the run
  suffices ∀ past s, I past s → Along step C s l →
      I (past ++ history step s l) (final step s l) from this [] s hs hl
  clear hs hl s
  induction l with
  | nil => intro past s hs _; simpa [history, final] using hs
  | cons i l ih => intro past s hs hl; simpa [history, final] using ih _ _ (h past s i hs hl.1) hl.2

/-- A relation between what has occurred so far and the state that every admitted step
keeps holds after an admitted run. -/
theorem occurs_invariant {κ : Type} {P : κ → σ → ι → Prop} {I : (κ → Prop) → σ → Prop}
    (h : ∀ W s i, I W s → C s i → I (fun k => W k ∨ P k s i) (step s i).2) {s : σ} {l : List ι}
    (hs : I (fun _ => False) s) (hl : Along step C s l) :
    I (fun k => Occurs step (P k) s l) (final step s l) := by
  -- what has occurred so far grows along the run
  suffices ∀ W s, I W s → Along step C s l →
      I (fun k => W k ∨ Occurs step (P k) s l) (final step s l) by
    simpa using this (fun _ => False) s hs hl
  clear hs hl s
  induction l with
  | nil => intro W s hs _; simpa [Occurs, final] using hs
  | cons i l ih =>
    intro W s hs hl
    simpa [Occurs, final, or_assoc] using ih _ _ (h W s i hs hl.1) hl.2

/-- What every admitted step from an invariant state answers, every answer of an admitted
run is. -/
theorem history_forall {I : σ → Prop} {Q : ι → ο → Prop}
    (h : ∀ s i, I s → C s i → I (step s i).2 ∧ Q i (step s i).1) {s : σ} {l : List ι} (hs : I s)
    (hl : Along step C s l) : ∀ e ∈ history step s l, Q e.1 e.2 := by
  induction l generalizing s with
  | nil => exact fun _ he => nomatch he
  | cons i l ih =>
    obtain ⟨hnext, hanswer⟩ := h s i hs hl.1
    exact List.forall_mem_cons.2 ⟨hanswer, ih hnext hl.2⟩

/-- A measure that grows by what each step contributes while it stays below a bound has
grown by what the run contributes. -/
theorem measure_final {μ : σ → Nat} {f : σ → ι → Nat} {bound : Nat}
    (h : ∀ s i, C s i → μ s + f s i < bound → μ (step s i).2 = μ s + f s i) {s : σ} {l : List ι}
    (hl : Along step C s l) (hbound : μ s + total step f s l < bound) :
    μ (final step s l) = μ s + total step f s l := by
  induction l generalizing s with
  | nil => rfl
  | cons i l ih =>
    rw [total] at hbound ⊢
    have hstep := h s i hl.1 (by omega)
    rw [final, ih hl.2 (by rw [hstep]; omega), hstep]
    omega

theorem total_append (f : σ → ι → Nat) (s : σ) (l l' : List ι) :
    total step f s (l ++ l') = total step f s l + total step f (final step s l) l' := by
  induction l generalizing s with
  | nil => exact (Nat.zero_add _).symm
  | cons i l ih =>
    rw [List.cons_append, total, total, final, ih, Nat.add_assoc]

theorem total_add (f g : σ → ι → Nat) (s : σ) (l : List ι) :
    total step (fun s i => f s i + g s i) s l = total step f s l + total step g s l := by
  induction l generalizing s with
  | nil => rfl
  | cons i l ih =>
    rw [total, total, total, ih]
    omega

theorem total_mono {f g : σ → ι → Nat} (h : ∀ s i, f s i ≤ g s i) (s : σ) (l : List ι) :
    total step f s l ≤ total step g s l := by
  induction l generalizing s with
  | nil => exact Nat.le_refl 0
  | cons i l ih => exact Nat.add_le_add (h s i) (ih _)

/-- What adds at most one at each step adds at most the length of the run. -/
theorem total_le_length {f : σ → ι → Nat} (h : ∀ s i, f s i ≤ 1) (s : σ) (l : List ι) :
    total step f s l ≤ l.length := by
  induction l generalizing s with
  | nil => exact Nat.le_refl 0
  | cons i l ih =>
    have hi := h s i
    have hl := ih (step s i).2
    rw [total, List.length_cons]
    omega

theorem total_mul (n : Nat) (f : σ → ι → Nat) (s : σ) (l : List ι) :
    total step (fun s i => n * f s i) s l = n * total step f s l := by
  induction l generalizing s with
  | nil => rfl
  | cons i l ih => rw [total, total, ih, Nat.mul_add]

theorem total_eq_zero_iff (f : σ → ι → Nat) (s : σ) (l : List ι) :
    total step f s l = 0 ↔ Along step (fun s i => f s i = 0) s l := by
  induction l generalizing s with
  | nil => exact iff_of_true rfl trivial
  | cons i l ih => rw [total, Along, Nat.add_eq_zero_iff, ih]

/-- What the steps take from a measure and bring to it balances over a run. -/
theorem total_balance {μ : σ → Nat} {f g : σ → ι → Nat}
    (h : ∀ s i, C s i → μ (step s i).2 + f s i = μ s + g s i) {s : σ} {l : List ι}
    (hl : Along step C s l) : μ (final step s l) + total step f s l = μ s + total step g s l := by
  induction l generalizing s with
  | nil => rfl
  | cons i l ih =>
    have hstep := h s i hl.1
    have hrest := ih hl.2
    rw [total, total, final]
    omega

/-- Contributions by kind add up kind by kind. -/
theorem total_sum {κ : Type} (kinds : List κ) (f : κ → σ → ι → Nat) (s : σ) (l : List ι) :
    total step (fun s i => (kinds.map fun k => f k s i).sum) s l =
      (kinds.map fun k => total step (f k) s l).sum := by
  induction kinds with
  | nil =>
    simp only [List.map_nil, List.sum_nil]
    induction l generalizing s with
    | nil => rfl
    | cons i l ih => simp [total, ih]
  | cons k kinds ih =>
    simp only [List.map_cons, List.sum_cons]
    rw [total_add, ih]

end Run
