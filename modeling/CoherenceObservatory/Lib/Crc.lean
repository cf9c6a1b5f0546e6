import Mathlib

/-!
# Cyclic redundancy checks

The register of a reflected CRC, as a map that is linear in exclusive or. If the polynomial has
its top bit set, no bit of the register is lost (`shift_injective`), so two inputs that differ in
one place leave different registers (`foldl_set_ne`). Bits may enter one by one or together
(`foldl_feed`).
-/

/-- A fold forgets nothing of its state if no step does. -/
theorem foldl_injective {σ ι : Type} {f : σ → ι → σ} (h : ∀ x, Function.Injective (f · x))
    (l : List ι) : Function.Injective (l.foldl f ·) := by
  induction l with
  | nil => exact Function.injective_id
  | cons y l ih => exact ih.comp (h y)

namespace Crc

variable {w : Nat} (poly : BitVec w)

/-- The register moves by one bit. -/
def shift (v : BitVec w) : BitVec w := if v.getLsbD 0 then (v >>> 1) ^^^ poly else v >>> 1

theorem shift_xor (a b : BitVec w) : shift poly (a ^^^ b) = shift poly a ^^^ shift poly b := by
  unfold shift
  simp only [BitVec.getLsbD_xor, BitVec.ushiftRight_xor_distrib]
  cases a.getLsbD 0 <;> cases b.getLsbD 0
  · rfl
  · exact BitVec.xor_assoc _ _ _
  · exact (BitVec.xor_assoc _ _ _).trans
      ((congrArg _ (BitVec.xor_comm _ _)).trans (BitVec.xor_assoc _ _ _).symm)
  · simp only [bne_self_eq_false, Bool.false_eq_true, if_false, if_true]
    rw [BitVec.xor_assoc (a >>> 1), ← BitVec.xor_assoc poly, BitVec.xor_comm poly,
      BitVec.xor_assoc (b >>> 1), BitVec.xor_self, BitVec.xor_zero]

theorem iterate_shift_xor (n : Nat) (a b : BitVec w) :
    (shift poly)^[n] (a ^^^ b) = (shift poly)^[n] a ^^^ (shift poly)^[n] b := by
  induction n generalizing a b with
  | zero => rfl
  | succ n ih => rw [Function.iterate_succ_apply, shift_xor, ih]; rfl

/-- Bits that are clear fall out without a trace. -/
theorem iterate_shift_of_low {n : Nat} {v : BitVec w} (h : ∀ i < n, v.getLsbD i = false) :
    (shift poly)^[n] v = v >>> n := by
  induction n with
  | zero => exact BitVec.ushiftRight_zero v |>.symm
  | succ n ih =>
    have hbit : (v >>> n).getLsbD 0 = false := by simpa using h n (Nat.lt_succ_self n)
    rw [Function.iterate_succ_apply', ih fun i hi => h i (Nat.lt_succ_of_lt hi), shift,
      if_neg (by simp [hbit]), BitVec.shiftRight_add]

/-- The register takes one bit of the input, which meets its lowest bit. -/
def feed (v : BitVec w) (bit : Bool) : BitVec w := shift poly (v ^^^ (BitVec.ofBool bit).setWidth w)

/-- The bits of an input enter one by one as they do all at once. -/
theorem foldl_feed {m : Nat} (hm : m ≤ w) (x : BitVec m) (v : BitVec w) :
    ((List.range m).map x.getLsbD).foldl (feed poly) v = (shift poly)^[m] (v ^^^ x.setWidth w) := by
  -- the first `k` bits, for every `k`
  suffices h : ∀ k ≤ m, ((List.range k).map x.getLsbD).foldl (feed poly) v =
      (shift poly)^[k] (v ^^^ (x.setWidth k).setWidth w) by
    simpa using h m (Nat.le_refl m)
  intro k hk
  induction k with
  | zero =>
    rw [BitVec.of_length_zero (x := x.setWidth 0), BitVec.setWidth_zero, BitVec.xor_zero]
    rfl
  | succ k ih =>
    have hbit : (shift poly)^[k] ((BitVec.ofBool (x.getLsbD k)).setWidth w <<< k) =
        (BitVec.ofBool (x.getLsbD k)).setWidth w := by
      rw [iterate_shift_of_low poly fun i hi => by simp [hi]]
      ext i hi
      cases i with
      | zero => simp [show k < w by omega]
      | succ i => simp
    have hsplit : (x.setWidth (k + 1)).setWidth w =
        (x.setWidth k).setWidth w ^^^ (BitVec.ofBool (x.getLsbD k)).setWidth w <<< k := by
      ext i hi
      rcases Nat.lt_trichotomy i k with hlt | rfl | hgt
      · simp [hlt, Nat.lt_succ_of_lt hlt]
      · simp
      · simp [show ¬i < k + 1 by omega, show ¬i < k by omega, show i - k ≠ 0 by omega]
    rw [List.range_succ, List.map_append, List.foldl_append, ih (Nat.le_of_succ_le hk), hsplit,
      ← BitVec.xor_assoc, Function.iterate_succ_apply', iterate_shift_xor poly k (v ^^^ _), hbit]
    rfl

variable {poly}

/-- Only the zero register moves to zero: the polynomial would set its top bit. -/
theorem eq_zero_of_shift_eq_zero (hpoly : poly.msb = true) {v : BitVec w} (h : shift poly v = 0) :
    v = 0 := by
  unfold shift at h
  split at h
  · have hmsb := congrArg BitVec.msb h
    have hw : w ≠ 0 := by rintro rfl; simp [BitVec.msb_eq_getLsbD_last] at hpoly
    simp [BitVec.msb_xor, hpoly, BitVec.msb_ushiftRight] at hmsb
  · next hbit =>
    ext i hi
    cases i with
    | zero => simpa [BitVec.getLsbD_eq_getElem hi] using hbit
    | succ i =>
      have := congrArg (fun x : BitVec w => x.getLsbD i) h
      simpa [Nat.add_comm 1 i, BitVec.getLsbD_eq_getElem hi] using this

theorem shift_injective (hpoly : poly.msb = true) : Function.Injective (shift poly) := by
  intro a b h
  have hxor : shift poly (a ^^^ b) = 0 := by rw [shift_xor, h, BitVec.xor_self]; rfl
  exact BitVec.xor_eq_zero_iff.1 (eq_zero_of_shift_eq_zero hpoly hxor)

/-- Inputs that differ in one place end in different states, if no step forgets its state or
its input. -/
theorem foldl_set_ne {σ ι : Type} {f : σ → ι → σ} (hstate : ∀ x, Function.Injective (f · x))
    (hinput : ∀ s, Function.Injective (f s)) {l : List ι} {i : Nat} {x : ι} (hi : i < l.length)
    (hx : x ≠ l[i]) (s : σ) : (l.set i x).foldl f s ≠ l.foldl f s := by
  induction l generalizing i s with
  | nil => exact absurd hi (Nat.not_lt_zero i)
  | cons y l ih =>
    cases i with
    | zero => exact fun h => hx (hinput s (foldl_injective hstate l h))
    | succ i => exact ih (Nat.lt_of_succ_lt_succ hi) hx (f s y)

end Crc
