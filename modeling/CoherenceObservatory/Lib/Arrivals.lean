import CoherenceObservatory.Lib.Run

/-!
# Numbers in order of arrival

Numbers arrive more or less in order, and the watermark is the largest one so far. A number
that is not above the watermark is late, and one further ahead than the next leaves numbers
missing. What has arrived and was not late, together with what is missing, makes up all numbers
from the base to the watermark, where the base is the watermark at the start or, without one,
what comes before the first number.
-/

namespace Arrivals

/-- The watermark after a number has arrived. -/
def arrive (mark : Option Nat) (q : Nat) : Unit × Option Nat := ((), some (mark.elim q (max · q)))

/-- One for a number that is not above the watermark. -/
def late (mark : Option Nat) (q : Nat) : Nat := mark.elim 0 fun h => if q ≤ h then 1 else 0

/-- How many numbers one that is ahead leaves out. -/
def missing (mark : Option Nat) (q : Nat) : Nat := mark.elim 0 fun h => q - h - 1

/-- One for a number that is ahead by more than one. -/
def jump (mark : Option Nat) (q : Nat) : Nat := mark.elim 0 fun h => if h + 1 < q then 1 else 0

/-- What the numbers are counted from. -/
def base : Option Nat → List Nat → Int
  | some h, _ => h
  | none, q :: _ => q - 1
  | none, [] => 0

/-- From a watermark on, what is in order and what is missing make up the way. -/
theorem balance_of_mark (b : Nat) (qs : List Nat) :
    ∃ h, Run.final arrive (some b) qs = some h ∧
      (qs.length : Int) - Run.total arrive late (some b) qs +
        Run.total arrive missing (some b) qs = h - b ∧
      (h : Int) = qs.foldl (fun m (q : Nat) => max m (q : Int)) b ∧
      Run.total arrive missing (some b) qs + b ≤ h := by
  induction qs generalizing b with
  | nil => exact ⟨b, rfl, by simp [Run.total], rfl, by simp [Run.total]⟩
  | cons q qs ih =>
    obtain ⟨h, hfinal, hbalance, hmax, hle⟩ := ih (max b q)
    refine ⟨h, hfinal, ?_, ?_, ?_⟩
    · simp only [Run.total, arrive, late, missing, Option.elim_some, List.length_cons] at hbalance ⊢
      split <;> omega
    · rw [hmax, List.foldl_cons, Nat.cast_max]
    · simp only [Run.total, arrive, missing, Option.elim_some] at hle ⊢
      omega

variable {mark : Option Nat} {qs : List Nat} {h : Nat}

/-- The numbers add up. -/
theorem balance (hh : Run.final arrive mark qs = some h) :
    (qs.length : Int) - Run.total arrive late mark qs + Run.total arrive missing mark qs =
      h - base mark qs := by
  cases mark with
  | some b =>
    obtain ⟨h', hfinal, hbalance, -⟩ := balance_of_mark b qs
    obtain rfl := Option.some.inj (hfinal.symm.trans hh)
    exact hbalance
  | none =>
    -- the first number is in order, and the rest is counted from it
    cases qs with
    | nil => exact nomatch hh
    | cons q qs =>
      obtain ⟨h', hfinal, hbalance, -⟩ := balance_of_mark q qs
      obtain rfl := Option.some.inj (hfinal.symm.trans hh)
      simp only [Run.total, arrive, late, missing, Option.elim_none, base, List.length_cons]
      omega

/-- The watermark is the largest of the base and the numbers. -/
theorem final_eq_max (hh : Run.final arrive mark qs = some h) :
    (h : Int) = qs.foldl (fun m (q : Nat) => max m (q : Int)) (base mark qs) := by
  cases mark with
  | some b =>
    obtain ⟨h', hfinal, -, hmax, -⟩ := balance_of_mark b qs
    obtain rfl := Option.some.inj (hfinal.symm.trans hh)
    exact hmax
  | none =>
    cases qs with
    | nil => exact nomatch hh
    | cons q qs =>
      obtain ⟨h', hfinal, -, hmax, -⟩ := balance_of_mark q qs
      obtain rfl := Option.some.inj (hfinal.symm.trans hh)
      rw [List.foldl_cons, base, max_eq_right (by omega), hmax]

/-- No more numbers are missing than the watermark says. -/
theorem missing_le (hh : Run.final arrive mark qs = some h) :
    Run.total arrive missing mark qs ≤ h := by
  cases mark with
  | some b =>
    obtain ⟨h', hfinal, -, -, hle⟩ := balance_of_mark b qs
    obtain rfl := Option.some.inj (hfinal.symm.trans hh)
    omega
  | none =>
    cases qs with
    | nil => exact nomatch hh
    | cons q qs =>
      obtain ⟨h', hfinal, -, -, hle⟩ := balance_of_mark q qs
      obtain rfl := Option.some.inj (hfinal.symm.trans hh)
      simp only [Run.total, arrive, missing, Option.elim_none]
      omega

theorem late_le (mark : Option Nat) (q : Nat) : late mark q ≤ 1 := by
  cases mark with
  | none => exact Nat.zero_le 1
  | some h =>
    simp only [late, Option.elim_some]
    split <;> omega

theorem jump_le (mark : Option Nat) (q : Nat) : jump mark q ≤ 1 := by
  cases mark with
  | none => exact Nat.zero_le 1
  | some h =>
    simp only [jump, Option.elim_some]
    split <;> omega

end Arrivals
