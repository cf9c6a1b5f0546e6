import CoherenceObservatory.Lib.Crc
import CoherenceObservatory.Payload

/-!
# Checksums and fields of a byte string

What frames and state files rely on when they find damage: the checksum, and the fields that
sit at fixed offsets.

* `getU32_append` and its siblings: a field that was written is read back, and
  `u32_getU32` the other way round.
-/

namespace CoherenceObservatory

open Codec PayloadWriter List

/-! ## The checksum -/

/-- The polynomial of the checksum. -/
def crcPoly : BitVec 32 := 0xEDB88320

/-- What one byte does to the register. -/
def crcByte (value : UInt32) (b : UInt8) : UInt32 :=
  crcTable ((value ^^^ b.toUInt32) &&& 0xFF) ^^^ (value >>> 8)

theorem toBitVec_crcTable (i : UInt32) :
    (crcTable i).toBitVec = (Crc.shift crcPoly)^[8] i.toBitVec := by
  have hstep (value : UInt32) :
      (if value &&& 1 ≠ 0 then (value >>> 1) ^^^ 0xEDB88320 else value >>> 1).toBitVec =
        Crc.shift crcPoly value.toBitVec := by
    have hbit : value &&& 1 ≠ 0 ↔ value.toBitVec.getLsbD 0 = true := by
      rw [Ne, ← UInt32.toBitVec_inj, UInt32.toBitVec_and]
      have : value.toBitVec &&& 1#32 = _ := BitVec.and_one_eq_setWidth_ofBool_getLsbD
      rw [show (1 : UInt32).toBitVec = 1#32 from rfl, this]
      cases value.toBitVec.getLsbD 0 <;> decide
    rw [Crc.shift]
    by_cases h : value &&& 1 ≠ 0
    · rw [if_pos h, if_pos (hbit.1 h)]
      rfl
    · rw [if_neg h, if_neg (mt hbit.2 h)]
      rfl
  exact (Function.Semiconj.iterate_right (f := UInt32.toBitVec) hstep 8) i

theorem testBit_low (i : Nat) : (255#32).getLsbD i = decide (i < 8) := by
  by_cases h : i < 32
  · interval_cases i <;> rfl
  · rw [BitVec.getLsbD_of_ge _ _ (by omega)]
    simp; omega

variable {i offset : Nat} {data before after : List UInt8}

theorem getLsbD_toUInt32 (b : UInt8) (h : 8 ≤ i) : b.toUInt32.toBitVec.getLsbD i = false := by
  rw [UInt8.toBitVec_toUInt32, BitVec.getLsbD_setWidth, BitVec.getLsbD_of_ge _ _ h, Bool.and_false]

theorem toBitVec_crcByte (value : UInt32) (b : UInt8) :
    (crcByte value b).toBitVec = (Crc.shift crcPoly)^[8] (value.toBitVec ^^^ b.toUInt32.toBitVec) := by
  set x := value.toBitVec ^^^ b.toUInt32.toBitVec with hx
  have hsplit : x = (x &&& 255#32) ^^^ (x &&& ~~~255#32) := by
    ext i hi
    simp only [BitVec.getElem_xor, BitVec.getElem_and, BitVec.getElem_not]
    cases x[i] <;> cases (255#32)[i] <;> rfl
  have hlow : ∀ i < 8, (x &&& ~~~255#32).getLsbD i = false := by
    intro i hi
    rw [BitVec.getLsbD_and, BitVec.getLsbD_not, testBit_low, decide_eq_true hi]
    simp
  have hhigh : (x &&& ~~~255#32) >>> 8 = value.toBitVec >>> 8 := by
    apply BitVec.eq_of_getLsbD_eq
    intro i hi
    rw [BitVec.getLsbD_ushiftRight, BitVec.getLsbD_ushiftRight, BitVec.getLsbD_and,
      BitVec.getLsbD_not, testBit_low, hx, BitVec.getLsbD_xor, getLsbD_toUInt32 b (by omega)]
    by_cases h : 8 + i < 32
    · simp [h]
    · simp [h, BitVec.getLsbD_of_ge _ _ (Nat.le_of_not_lt h)]
  rw [hsplit, Crc.iterate_shift_xor, Crc.iterate_shift_of_low _ hlow, hhigh]
  rw [crcByte, UInt32.toBitVec_xor, toBitVec_crcTable]
  rfl

theorem crcShifts_injective : Function.Injective (Crc.shift crcPoly)^[8] :=
  (Crc.shift_injective (show crcPoly.msb = true by decide)).iterate 8

theorem crcByte_injective (b : UInt8) : Function.Injective (crcByte · b) := by
  intro v v' h
  have h := congrArg UInt32.toBitVec h
  simp only [toBitVec_crcByte] at h
  have := crcShifts_injective h
  exact UInt32.toBitVec_inj.1 ((BitVec.xor_left_inj _).1 this)

theorem crcByte_injective_input (value : UInt32) : Function.Injective (crcByte value) := by
  intro b b' h
  have h := congrArg UInt32.toBitVec h
  simp only [toBitVec_crcByte] at h
  have := crcShifts_injective h
  have := UInt32.toBitVec_inj.1 ((BitVec.xor_right_inj _).1 this)
  exact UInt8.toUInt32_inj.1 this

/-- The checksum notices every change of a single byte. -/
theorem crc32_set_ne {b : UInt8} (hi : i < data.length) (hb : b ≠ data[i]) :
    crc32 (data.set i b) ≠ crc32 data := by
  intro h
  refine Crc.foldl_set_ne (f := crcByte) crcByte_injective crcByte_injective_input hi hb 0xFFFFFFFF ?_
  exact (UInt32.xor_left_inj _).1 h

/-- The bits of a byte string, of each byte the lowest first. -/
def bitsOf (data : List UInt8) : List Bool :=
  data.flatMap fun b => (List.range 8).map b.toBitVec.getLsbD

/-- The reflected CRC-32, one bit at a time: the register starts with all ones, and what it ends
with is complemented. -/
def crc32Bitwise (data : List UInt8) : BitVec 32 :=
  ~~~(bitsOf data).foldl (Crc.feed crcPoly) (BitVec.allOnes 32)

/-- The table does what the bits of the input do one by one. -/
theorem toBitVec_crc32Extend (seed : UInt32) (data : List UInt8) :
    (crc32Extend seed data).toBitVec = (bitsOf data).foldl (Crc.feed crcPoly) seed.toBitVec := by
  induction data generalizing seed with
  | nil => rfl
  | cons b data ih =>
    have hbyte : ((List.range 8).map b.toBitVec.getLsbD).foldl (Crc.feed crcPoly) seed.toBitVec =
        (crcByte seed b).toBitVec := by
      rw [Crc.foldl_feed crcPoly (by decide), toBitVec_crcByte, UInt8.toBitVec_toUInt32]
    rw [bitsOf, flatMap_cons, foldl_append, hbyte]
    exact ih (crcByte seed b)

theorem crc32Extend_append (seed : UInt32) (a b : List UInt8) :
    crc32Extend seed (a ++ b) = crc32Extend (crc32Extend seed a) b := foldl_append

/-- The table computes the checksum of the definition by bits, and a checksum can be extended: the
    complement is undone before the rest is added, and done again behind it. -/
theorem crc32_reference :
    (∀ data, (crc32 data).toBitVec = crc32Bitwise data) ∧
      ∀ a b, crc32Extend (crc32 a ^^^ 0xFFFFFFFF) b ^^^ 0xFFFFFFFF = crc32 (a ++ b) := by
  refine ⟨fun data => ?_, fun a b => ?_⟩
  · rw [crc32, UInt32.toBitVec_xor, toBitVec_crc32Extend]
    exact BitVec.xor_allOnes
  · rw [crc32, crc32, crc32Extend_append, UInt32.xor_assoc, UInt32.xor_self, UInt32.xor_zero]

/-! ## Slices -/

section

variable {data : List UInt8} {i : Nat} {b : UInt8} (offset length : Nat)

theorem slice_set_of_outside (h : i < offset ∨ offset + length ≤ i) :
    ((data.set i b).drop offset).take length = (data.drop offset).take length := by
  rw [drop_set]
  split
  · rfl
  · rw [take_set, set_eq_of_length_le]
    exact (length_take_le _ _).trans (by omega)

theorem slice_set_of_inside (h : offset ≤ i) :
    ((data.set i b).drop offset).take length = ((data.drop offset).take length).set (i - offset) b := by
  rw [drop_set, if_neg (Nat.not_lt.2 h), take_set]

theorem take_set_of_ge (h : length ≤ i) : (data.set i b).take length = data.take length :=
  slice_set_of_outside 0 length (.inr (by omega))

theorem getU32_set_of_outside (h : i < offset ∨ offset + 4 ≤ i) :
    getU32 (data.set i b) offset = getU32 data offset := by
  rw [getU32, slice_set_of_outside offset 4 h, getU32]

theorem getU64_set_of_outside (h : i < offset ∨ offset + 8 ≤ i) :
    getU64 (data.set i b) offset = getU64 data offset := by
  rw [getU64, slice_set_of_outside offset 8 h, getU64]

/-- A changed slice is another slice. -/
theorem slice_set_ne (hle : offset ≤ i) (hlt : i < offset + length) (hi : i < data.length)
    (hb : b ≠ data[i]) :
    ((data.set i b).drop offset).take length ≠ (data.drop offset).take length := by
  intro h
  have := congrArg (fun l : List UInt8 => l[i - offset]?) h
  simp only [getElem?_take, getElem?_drop, show i - offset < length by omega, if_true,
    Nat.add_sub_cancel' hle, getElem?_set_self hi, getElem?_eq_getElem hi] at this
  exact hb (Option.some.inj this)

theorem getU32_set_ne (hle : offset ≤ i) (hlt : i < offset + 4) (hi : i < data.length)
    (hb : b ≠ data[i]) : getU32 (data.set i b) offset ≠ getU32 data offset := by
  intro h
  have hlength : (((data.set i b).drop offset).take 4).length = ((data.drop offset).take 4).length := by
    simp
  have hbound (l : List UInt8) : ofLE (l.take 4) < 2 ^ 32 :=
    (ofLE_lt _).trans_le (Nat.pow_le_pow_right (n := 256) (by decide) (length_take_le 4 l))
  have hnumber := congrArg UInt32.toNat h
  rw [getU32, getU32, UInt32.toNat_ofNat_of_lt' (hbound _), UInt32.toNat_ofNat_of_lt' (hbound _)]
    at hnumber
  refine slice_set_ne offset 4 hle hlt hi hb ?_
  rw [← toLE_ofLE (((data.set i b).drop offset).take 4), hnumber, hlength, toLE_ofLE]

end

/-! ## Fields -/

theorem getU16_append {value : UInt16} (h : data = before ++ (u16 value ++ after))
    (ho : before.length = offset) : getU16 data offset = value := by
  subst h ho
  rw [getU16, drop_left, take_left' (length_u16 value),
    u16, ofLE_toLE, Nat.mod_eq_of_lt (show _ < 256 ^ 2 from value.toNat_lt), UInt16.ofNat_toNat]

theorem getU32_append {value : UInt32} (h : data = before ++ (u32 value ++ after))
    (ho : before.length = offset) : getU32 data offset = value := by
  subst h ho
  rw [getU32, drop_left, take_left' (length_u32 value),
    u32, ofLE_toLE, Nat.mod_eq_of_lt (show _ < 256 ^ 4 from value.toNat_lt), UInt32.ofNat_toNat]

theorem getU64_append {value : UInt64} (h : data = before ++ (u64 value ++ after))
    (ho : before.length = offset) : getU64 data offset = value := by
  subst h ho
  rw [getU64, drop_left, take_left' (length_u64 value),
    u64, ofLE_toLE, Nat.mod_eq_of_lt (show _ < 256 ^ 8 from value.toNat_lt), UInt64.ofNat_toNat]

section

variable {data : List UInt8} (offset : Nat)

/-- A field written back gives the bytes it was read from. -/
theorem u16_getU16 (h : offset + 2 ≤ data.length) :
    u16 (getU16 data offset) = (data.drop offset).take 2 := by
  have hlength : ((data.drop offset).take 2).length = 2 := by simp; omega
  have hbound : ofLE ((data.drop offset).take 2) < 2 ^ 16 :=
    (ofLE_lt _).trans_le (Nat.pow_le_pow_right (n := 256) (by decide) hlength.le)
  rw [u16, getU16, UInt16.toNat_ofNat_of_lt' hbound]
  nth_rewrite 1 [← hlength]
  exact toLE_ofLE _

@[inherit_doc u16_getU16] theorem u32_getU32 (h : offset + 4 ≤ data.length) :
    u32 (getU32 data offset) = (data.drop offset).take 4 := by
  have hlength : ((data.drop offset).take 4).length = 4 := by simp; omega
  have hbound : ofLE ((data.drop offset).take 4) < 2 ^ 32 :=
    (ofLE_lt _).trans_le (Nat.pow_le_pow_right (n := 256) (by decide) hlength.le)
  rw [u32, getU32, UInt32.toNat_ofNat_of_lt' hbound]
  nth_rewrite 1 [← hlength]
  exact toLE_ofLE _

@[inherit_doc u16_getU16] theorem u64_getU64 (h : offset + 8 ≤ data.length) :
    u64 (getU64 data offset) = (data.drop offset).take 8 := by
  have hlength : ((data.drop offset).take 8).length = 8 := by simp; omega
  have hbound : ofLE ((data.drop offset).take 8) < 2 ^ 64 :=
    (ofLE_lt _).trans_le (Nat.pow_le_pow_right (n := 256) (by decide) hlength.le)
  rw [u64, getU64, UInt64.toNat_ofNat_of_lt' hbound]
  nth_rewrite 1 [← hlength]
  exact toLE_ofLE _

end

end CoherenceObservatory
