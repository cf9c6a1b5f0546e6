import Mathlib

/-!
# Rise and fall

What a sequence of numbers climbs and what it drops, step by step. A sequence ends where it
started, plus its rise, less its fall (`head_add_rise`).
-/

namespace Variation

/-- What a sequence climbs. -/
def rise : List Nat → Nat
  | a :: b :: l => (b - a) + rise (b :: l)
  | _ => 0

/-- What a sequence drops. -/
def fall : List Nat → Nat
  | a :: b :: l => (a - b) + fall (b :: l)
  | _ => 0

/-- The largest number, or zero. -/
def top (l : List Nat) : Nat := l.foldr max 0

/-- The smallest number, or zero. -/
def bottom : List Nat → Nat
  | [] => 0
  | a :: l => l.foldr min a

theorem le_top {a : Nat} {l : List Nat} (h : a ∈ l) : a ≤ top l := by
  induction l with
  | nil => exact nomatch h
  | cons b l ih =>
    rcases List.mem_cons.1 h with rfl | h
    · exact Nat.le_max_left _ _
    · exact (ih h).trans (Nat.le_max_right _ _)

theorem bottom_le_head (a : Nat) (l : List Nat) : bottom (a :: l) ≤ a := by
  induction l with
  | nil => exact Nat.le_refl a
  | cons b l ih => exact (Nat.min_le_right _ _).trans ih

theorem head_add_rise (a : Nat) (l : List Nat) :
    a + rise (a :: l) = (l.getLastD a) + fall (a :: l) := by
  induction l generalizing a with
  | nil => rfl
  | cons b l ih =>
    have := ih b
    rw [rise, fall, List.getLastD_cons]
    omega

theorem getLastD_mem_cons (a : Nat) (l : List Nat) : l.getLastD a ∈ a :: l := by
  induction l generalizing a with
  | nil => exact List.mem_cons_self
  | cons b l ih =>
    rw [List.getLastD_cons]
    exact List.mem_cons_of_mem a (ih b)

/-- The rise is within the range exactly if the fall is made up for at both ends. -/
theorem rise_le_iff (a : Nat) (l : List Nat) :
    rise (a :: l) ≤ top (a :: l) - bottom (a :: l) ↔
      fall (a :: l) ≤ (top (a :: l) - l.getLastD a) + (a - bottom (a :: l)) := by
  have hsum := head_add_rise a l
  have hlast := le_top (getLastD_mem_cons a l)
  have hfirst := bottom_le_head a l
  have hhead := le_top (List.mem_cons_self (a := a) (l := l))
  omega

end Variation
