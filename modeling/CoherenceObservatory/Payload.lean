import CoherenceObservatory.Lib.Codec
import CoherenceObservatory.Basic

/-!
# Payload primitives

The fields frames and state files are made of: fixed-width little-endian numbers and
length-prefixed texts, and the checksum both formats use. A writer is the list of bytes
it appends; a text past its bound appends nothing and leaves the complaint to its caller.

Each primitive comes with the fact that its reader undoes its writer
(`PayloadReader.decodes_u32` and its siblings), in the form the rules of `Codec` combine.
-/

namespace CoherenceObservatory

open Codec

/-! ## Checksum -/

/-- One entry of the table of `make_crc_table`. -/
def crcTable (i : UInt32) : UInt32 :=
  Nat.iterate (fun value : UInt32 =>
    if value &&& 1 ≠ 0 then (value >>> 1) ^^^ 0xEDB88320 else value >>> 1) 8 i

/-- `crc32_extend`. -/
def crc32Extend (seed : UInt32) (data : List UInt8) : UInt32 :=
  data.foldl (fun value b => crcTable ((value ^^^ b.toUInt32) &&& 0xFF) ^^^ (value >>> 8)) seed

/-- `crc32`. -/
def crc32 (data : List UInt8) : UInt32 := crc32Extend 0xFFFFFFFF data ^^^ 0xFFFFFFFF

/-! ## Fields at an offset -/

/-- `get_u16`, `get_u32` and `get_u64` at an offset. -/
def getU16 (data : List UInt8) (offset : Nat) : UInt16 :=
  UInt16.ofNat (ofLE ((data.drop offset).take 2))

@[inherit_doc getU16] def getU32 (data : List UInt8) (offset : Nat) : UInt32 :=
  UInt32.ofNat (ofLE ((data.drop offset).take 4))

@[inherit_doc getU16] def getU64 (data : List UInt8) (offset : Nat) : UInt64 :=
  UInt64.ofNat (ofLE ((data.drop offset).take 8))

/-! ## Writing -/

namespace PayloadWriter

def u8 (value : UInt8) : List UInt8 := toLE 1 value.toNat
def bool (value : Bool) : List UInt8 := u8 (if value then 1 else 0)
def u16 (value : UInt16) : List UInt8 := toLE 2 value.toNat
def u32 (value : UInt32) : List UInt8 := toLE 4 value.toNat
def u64 (value : UInt64) : List UInt8 := toLE 8 value.toNat
def i64 (value : Int64) : List UInt8 := u64 value.toUInt64

/-- What `text` appends: nothing when the value exceeds its bound. -/
def text (value : Text) (maxLength : Nat) : List UInt8 :=
  if value.length > maxLength then [] else u32 (UInt32.ofNat value.length) ++ value

/-- The status of `text`. -/
def textStatus (value : Text) (maxLength : Nat) : Status :=
  failIf (value.length > maxLength)
    (failWith .tooLarge "text field exceeds its bound" (formatNat value.length))

@[simp] theorem length_u8 (value : UInt8) : (u8 value).length = 1 := length_toLE _ _
@[simp] theorem length_bool (value : Bool) : (bool value).length = 1 := length_toLE _ _
@[simp] theorem length_u16 (value : UInt16) : (u16 value).length = 2 := length_toLE _ _
@[simp] theorem length_u32 (value : UInt32) : (u32 value).length = 4 := length_toLE _ _
@[simp] theorem length_u64 (value : UInt64) : (u64 value).length = 8 := length_toLE _ _
@[simp] theorem length_i64 (value : Int64) : (i64 value).length = 8 := length_toLE _ _

theorem length_text_le (value : Text) (maxLength : Nat) :
    (text value maxLength).length ≤ 4 + maxLength := by
  unfold text
  split
  · simp
  · rw [List.length_append, length_u32]
    omega

end PayloadWriter

/-! ## Reading -/

/-- A reader that fails as the source does. -/
abbrev PayloadReader (α : Type) : Type := Reader Error α

namespace PayloadReader

/-- A little-endian number of `width` bytes. -/
def number (width : Nat) (what : String) : PayloadReader Nat := do
  let bytes ← Reader.take (failWith .truncated ("payload exhausted reading " ++ what)) width
  return ofLE bytes

def u8 : PayloadReader UInt8 := do return UInt8.ofNat (← number 1 "u8")
def u16 : PayloadReader UInt16 := do return UInt16.ofNat (← number 2 "u16")
def u32 : PayloadReader UInt32 := do return UInt32.ofNat (← number 4 "u32")
def u64 : PayloadReader UInt64 := do return UInt64.ofNat (← number 8 "u64")
def i64 : PayloadReader Int64 := do return (← u64).toInt64

def text (maxLength : Nat) : PayloadReader Text := do
  let length ← u32
  Reader.failIf (length.toNat > maxLength)
    (failWith .tooLarge "text field exceeds its bound" (formatNat length.toNat))
  Reader.take (failWith .truncated "payload exhausted reading text") length.toNat

/-- `require_exhausted`. -/
def requireExhausted : PayloadReader Unit :=
  Reader.requireExhausted fun c =>
    failWith .trailingBytes "trailing bytes in payload" (formatNat c.rest.length)

theorem decodes_number {width n : Nat} (what : String) (h : n < 256 ^ width) :
    Decodes (number width what) (toLE width n) n :=
  (Decodes.take (length_toLE width n)).ret (by rw [ofLE_toLE, Nat.mod_eq_of_lt h])

theorem decodes_u8 (value : UInt8) : Decodes u8 (PayloadWriter.u8 value) value :=
  (decodes_number "u8" value.toNat_lt).ret (UInt8.ofNat_toNat)

theorem decodes_u16 (value : UInt16) : Decodes u16 (PayloadWriter.u16 value) value :=
  (decodes_number "u16" value.toNat_lt).ret (UInt16.ofNat_toNat)

theorem decodes_u32 (value : UInt32) : Decodes u32 (PayloadWriter.u32 value) value :=
  (decodes_number "u32" value.toNat_lt).ret (UInt32.ofNat_toNat)

theorem decodes_u64 (value : UInt64) : Decodes u64 (PayloadWriter.u64 value) value :=
  (decodes_number "u64" value.toNat_lt).ret (UInt64.ofNat_toNat)

theorem decodes_i64 (value : Int64) : Decodes i64 (PayloadWriter.i64 value) value :=
  (decodes_u64 value.toUInt64).ret rfl

instance : Fixed u8 PayloadWriter.u8 := ⟨decodes_u8⟩
instance : Fixed u16 PayloadWriter.u16 := ⟨decodes_u16⟩
instance : Fixed u32 PayloadWriter.u32 := ⟨decodes_u32⟩
instance : Fixed u64 PayloadWriter.u64 := ⟨decodes_u64⟩
instance : Fixed i64 PayloadWriter.i64 := ⟨decodes_i64⟩

theorem decodes_shortText {value : Text} {maxLength : Nat} (h : value.length ≤ maxLength)
    (hshort : value.length < 2 ^ 32) :
    Decodes (text maxLength) (PayloadWriter.text value maxLength) value := by
  have hlength : (UInt32.ofNat value.length).toNat = value.length :=
    UInt32.toNat_ofNat_of_lt' hshort
  rw [PayloadWriter.text, if_neg (Nat.not_lt.2 h)]
  refine (decodes_u32 _).bind (Decodes.seq (Decodes.failIf ?_) (Decodes.take hlength.symm))
  rw [hlength]
  exact Nat.not_lt.2 h

theorem decodes_text {value : Text} {maxLength : Nat} (h : value.length ≤ maxLength)
    (hmax : maxLength < 2 ^ 32) :
    Decodes (text maxLength) (PayloadWriter.text value maxLength) value :=
  decodes_shortText h (Nat.lt_of_le_of_lt h hmax)

/-- A number costs its width, and the other fields follow. -/
theorem moves_number (width : Nat) (what : String) : Moves (number width what) fun _ => width :=
  (Moves.take _ width).ret fun _ => Nat.le_refl width

theorem moves_u8 : Moves u8 fun _ => 1 := (moves_number 1 _).ret fun _ => Nat.le_refl 1
theorem moves_u16 : Moves u16 fun _ => 2 := (moves_number 2 _).ret fun _ => Nat.le_refl 2
theorem moves_u32 : Moves u32 fun _ => 4 := (moves_number 4 _).ret fun _ => Nat.le_refl 4
theorem moves_u64 : Moves u64 fun _ => 8 := (moves_number 8 _).ret fun _ => Nat.le_refl 8

theorem moves_text (maxLength : Nat) : Moves (text maxLength) fun _ => 4 :=
  moves_u32.paid fun _ => .skip .failIf fun _ => (Moves.take _ _).stays

instance : Steady u8 := ⟨moves_u8.stays⟩
instance : Steady u32 := ⟨moves_u32.stays⟩
instance : Steady u64 := ⟨moves_u64.stays⟩
instance : Steady i64 := inferInstanceAs (Steady (u64 >>= fun value => pure value.toInt64))
instance {maxLength : Nat} : Steady (text maxLength) := ⟨(moves_text maxLength).stays⟩

end PayloadReader

end CoherenceObservatory
