import Mathlib

/-!
# Opaque handles

A region is published under a handle that stands for the address of its buffer, mixed with a
salt of its owner. Each step of the mixer can be undone, so for one salt no two addresses share
a handle.
-/

namespace CoherenceObservatory

/-- `mix64`, the splitmix64 finalizer. -/
def mix64 (value : UInt64) : UInt64 :=
  let value := value + 0x9E3779B97F4A7C15
  let value := (value ^^^ (value >>> 30)) * 0xBF58476D1CE4E5B9
  let value := (value ^^^ (value >>> 27)) * 0x94D049BB133111EB
  value ^^^ (value >>> 31)

/-- `make_opaque_handle`, of an address that is 64 bits wide. -/
def makeOpaqueHandle (address ownerSalt : UInt64) : UInt64 :=
  mix64 (address ^^^ mix64 (ownerSalt ^^^ 0xA5A5A5A5A5A5A5A5))

/-- A word that is its own shift to the right is zero. -/
theorem eq_zero_of_shiftRight_eq {v n : UInt64} (hn : n.toNat % 64 ≠ 0) (h : v >>> n = v) :
    v = 0 := by
  have hnat := congrArg UInt64.toNat h
  rw [UInt64.toNat_shiftRight, Nat.shiftRight_eq_div_pow] at hnat
  by_contra hv
  have hpos : 0 < v.toNat := Nat.pos_of_ne_zero fun h0 => hv (UInt64.toNat_inj.1 h0)
  exact absurd hnat (Nat.div_lt_self hpos (Nat.one_lt_two_pow hn)).ne

/-- The high bits are left as they are, and the others can be had back from them. -/
theorem xorShift_injective {n : UInt64} (hn : n.toNat % 64 ≠ 0) :
    Function.Injective fun v : UInt64 => v ^^^ (v >>> n) := by
  intro a b h
  have hxor : (a ^^^ b) >>> n = a ^^^ b := by
    rw [UInt64.shiftRight_xor, ← UInt64.xor_eq_zero_iff]
    calc (a >>> n ^^^ b >>> n) ^^^ (a ^^^ b)
      _ = (a ^^^ a >>> n) ^^^ (b ^^^ b >>> n) := by ac_rfl
      _ = 0 := UInt64.xor_eq_zero_iff.2 h
  exact UInt64.xor_eq_zero_iff.1 (eq_zero_of_shiftRight_eq hn hxor)

/-- A factor with an inverse can be divided out. -/
theorem mul_injective_of_inverse {c d : UInt64} (h : c * d = 1) :
    Function.Injective fun v : UInt64 => v * c := by
  intro a b hab
  have hd := congrArg (· * d) hab
  simpa only [UInt64.mul_assoc, h, UInt64.mul_one] using hd

/-- The mixer forgets nothing. -/
theorem mix64_injective : Function.Injective mix64 := by
  have hadd : Function.Injective fun v : UInt64 => v + 0x9E3779B97F4A7C15 :=
    fun _ _ => (UInt64.add_left_inj _).1
  have h₁ := mul_injective_of_inverse (show 0xBF58476D1CE4E5B9 * 0x96DE1B173F119089 = 1 by decide)
  have h₂ := mul_injective_of_inverse (show 0x94D049BB133111EB * 0x319642B2D24D8EC3 = 1 by decide)
  exact (xorShift_injective (n := 31) (by decide)).comp <| h₂.comp <|
    (xorShift_injective (n := 27) (by decide)).comp <| h₁.comp <|
    (xorShift_injective (n := 30) (by decide)).comp hadd

/-- For every salt, different addresses get different handles. -/
theorem makeOpaqueHandle_injective (ownerSalt : UInt64) :
    Function.Injective fun address => makeOpaqueHandle address ownerSalt := by
  intro a b h
  exact (UInt64.xor_left_inj _).1 (mix64_injective h)

end CoherenceObservatory
