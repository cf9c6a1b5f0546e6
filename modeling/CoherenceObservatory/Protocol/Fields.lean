import CoherenceObservatory.Lib.Access
import CoherenceObservatory.Payload

/-!
# Sequences of fields

A payload is written by one call after the other, and read by whatever calls its reader makes. A
call that fails leaves the position behind what it had read, and the next call goes on from there.
-/

namespace CoherenceObservatory

open Codec Access

namespace PayloadWriter

/-- A double, by its bit pattern. -/
def f64 (bits : UInt64) : List UInt8 := u64 bits

def bytes (data : List UInt8) : List UInt8 := data

end PayloadWriter

namespace PayloadReader

@[inherit_doc PayloadWriter.f64] def f64 : PayloadReader UInt64 := u64

def bytes (count : Nat) : PayloadReader (List UInt8) :=
  Reader.take (failWith .truncated "payload exhausted reading bytes" (formatNat count)) count

end PayloadReader

/-! ## Calls -/

/-- A call of a `PayloadWriter`. -/
inductive FieldWrite
  | u8 (value : UInt8)
  | bool (value : Bool)
  | u16 (value : UInt16)
  | u32 (value : UInt32)
  | u64 (value : UInt64)
  | i64 (value : Int64)
  | f64 (bits : UInt64)
  | bytes (data : List UInt8)
  | text (value : Text) (maxLength : Nat)

/-- A call of a `PayloadReader`. -/
inductive FieldRead
  | u8 | u16 | u32 | u64 | i64 | f64
  | bytes (count : Nat)
  | text (maxLength : Nat)

/-- What is read. -/
inductive FieldValue
  | u8 (value : UInt8)
  | u16 (value : UInt16)
  | u32 (value : UInt32)
  | u64 (value : UInt64)
  | i64 (value : Int64)
  | f64 (bits : UInt64)
  | bytes (data : List UInt8)
  | text (value : Text)

namespace FieldWrite

/-- What the call appends, and its status. -/
def run : FieldWrite → Written Error
  | u8 value => (PayloadWriter.u8 value, .ok ())
  | bool value => (PayloadWriter.bool value, .ok ())
  | u16 value => (PayloadWriter.u16 value, .ok ())
  | u32 value => (PayloadWriter.u32 value, .ok ())
  | u64 value => (PayloadWriter.u64 value, .ok ())
  | i64 value => (PayloadWriter.i64 value, .ok ())
  | f64 bits => (PayloadWriter.f64 bits, .ok ())
  | bytes data => (PayloadWriter.bytes data, .ok ())
  | text value maxLength =>
    (PayloadWriter.text value maxLength, PayloadWriter.textStatus value maxLength)

/-- The call that reads what this one writes. -/
def matching : FieldWrite → FieldRead
  | u8 _ | bool _ => .u8
  | u16 _ => .u16
  | u32 _ => .u32
  | u64 _ => .u64
  | i64 _ => .i64
  | f64 _ => .f64
  | bytes data => .bytes data.length
  | text _ maxLength => .text maxLength

/-- The value written. A truth value is a byte, one or zero. -/
def value : FieldWrite → FieldValue
  | u8 value => .u8 value
  | bool value => .u8 (if value then 1 else 0)
  | u16 value => .u16 value
  | u32 value => .u32 value
  | u64 value => .u64 value
  | i64 value => .i64 value
  | f64 bits => .f64 bits
  | bytes data => .bytes data
  | text value _ => .text value

/-- A text is shorter than `2 ^ 32` bytes. -/
def Short : FieldWrite → Prop
  | text value _ => value.length < 2 ^ 32
  | _ => True

end FieldWrite

/-- What a call reads. -/
def FieldRead.run : FieldRead → PayloadReader FieldValue
  | u8 => do return .u8 (← PayloadReader.u8)
  | u16 => do return .u16 (← PayloadReader.u16)
  | u32 => do return .u32 (← PayloadReader.u32)
  | u64 => do return .u64 (← PayloadReader.u64)
  | i64 => do return .i64 (← PayloadReader.i64)
  | f64 => do return .f64 (← PayloadReader.f64)
  | bytes count => do return .bytes (← PayloadReader.bytes count)
  | text maxLength => do return .text (← PayloadReader.text maxLength)

/-- Each call of a writer is undone by the call of a reader that matches it. -/
theorem decodes_write {w : FieldWrite} (hshort : w.Short) (hok : w.run.2 = .ok ()) :
    Decodes w.matching.run w.run.1 w.value := by
  cases w with
  | u8 value => exact (PayloadReader.decodes_u8 value).ret rfl
  | bool value => exact (PayloadReader.decodes_u8 _).ret rfl
  | u16 value => exact (PayloadReader.decodes_u16 value).ret rfl
  | u32 value => exact (PayloadReader.decodes_u32 value).ret rfl
  | u64 value => exact (PayloadReader.decodes_u64 value).ret rfl
  | i64 value => exact (PayloadReader.decodes_i64 value).ret rfl
  | f64 bits => exact (PayloadReader.decodes_u64 bits).ret rfl
  | bytes data => exact (Decodes.take rfl).ret rfl
  | text value maxLength =>
    exact (PayloadReader.decodes_shortText (Nat.le_of_not_lt (failIf_eq_ok.1 hok)) hshort).ret rfl

theorem stays_run (r : FieldRead) : Stays r.run := by
  have hret {α : Type} {r : PayloadReader α} {n : Nat} (f : α → FieldValue)
      (h : Moves r fun _ => n) : Stays (r >>= fun x => pure (f x)) := h.ret fun _ => Nat.zero_le n
  cases r with
  | u8 => exact hret .u8 PayloadReader.moves_u8
  | u16 => exact hret .u16 PayloadReader.moves_u16
  | u32 => exact hret .u32 PayloadReader.moves_u32
  | u64 => exact hret .u64 PayloadReader.moves_u64
  | i64 =>
    have hi64 : Stays PayloadReader.i64 := PayloadReader.moves_u64.ret fun _ => Nat.zero_le 8
    exact hret .i64 hi64
  | f64 => exact hret .f64 PayloadReader.moves_u64
  | bytes count => exact hret .bytes (.take _ count)
  | text maxLength => exact hret .text (PayloadReader.moves_text maxLength)

/-! ## Offsets -/

/-- What a call returns, and the position it leaves. -/
abbrev Landing (α : Type) : Type := Except Error α × Nat

/-- The result, and where the cursor is then. -/
def landing {α : Type} (x : Except Error α × Cursor) : Landing α := (x.1, x.2.position)

/-- The next `n` bytes are looked at if there are as many. -/
def takeAt (e : Error) (n : Nat) (data : List UInt8) (position : Nat) :
    Logged Error (Landing (List UInt8)) :=
  if data.length - position < n then return (.error e, position)
  else return (.ok (← .read data position n), position + n)

/-- What a call returns is converted. -/
def mapAt {α β : Type} (f : α → β) (x : Logged Error (Landing α)) : Logged Error (Landing β) := do
  let (value, position) ← x
  return (value.map f, position)

/-- A little-endian number of `width` bytes. -/
def numberAt (width : Nat) (what : String) (data : List UInt8) (position : Nat) :
    Logged Error (Landing Nat) :=
  mapAt ofLE
    (takeAt (failWith .truncated ("payload exhausted reading " ++ what)) width data position)

/-- `text`, from an offset. -/
def textAt (maxLength : Nat) (data : List UInt8) (position : Nat) :
    Logged Error (Landing Text) := do
  let (length, position) ← mapAt UInt32.ofNat (numberAt 4 "u32" data position)
  match length with
  | .error e => return (.error e, position)
  | .ok length =>
    if length.toNat > maxLength then
      return (.error (failWith .tooLarge "text field exceeds its bound" (formatNat length.toNat)),
        position)
    else takeAt (failWith .truncated "payload exhausted reading text") length.toNat data position

/-- The calls with the offsets they look at. -/
def FieldRead.runAt (data : List UInt8) (position : Nat) :
    FieldRead → Logged Error (Landing FieldValue)
  | u8 => mapAt .u8 (mapAt UInt8.ofNat (numberAt 1 "u8" data position))
  | u16 => mapAt .u16 (mapAt UInt16.ofNat (numberAt 2 "u16" data position))
  | u32 => mapAt .u32 (mapAt UInt32.ofNat (numberAt 4 "u32" data position))
  | u64 => mapAt .u64 (mapAt UInt64.ofNat (numberAt 8 "u64" data position))
  | i64 =>
    mapAt .i64 (mapAt UInt64.toInt64 (mapAt UInt64.ofNat (numberAt 8 "u64" data position)))
  | f64 => mapAt .f64 (mapAt UInt64.ofNat (numberAt 8 "u64" data position))
  | bytes count =>
    mapAt .bytes (takeAt (failWith .truncated "payload exhausted reading bytes" (formatNat count))
      count data position)
  | text maxLength => mapAt .text (textAt maxLength data position)

section

variable {α β : Type} {data : List UInt8} {position : Nat}

theorem outcome_takeAt (e : Error) (n : Nat) :
    (takeAt e n data position).outcome = .ok (landing (Reader.take e n ⟨data, position⟩)) := by
  rw [takeAt, Reader.take, Cursor.rest, List.length_drop]
  split <;> rfl

variable {x : Logged Error (Landing α)}

theorem outcome_mapAt {r : PayloadReader α} {c : Cursor} (f : α → β)
    (h : x.outcome = .ok (landing (r c))) :
    (mapAt f x).outcome = .ok (landing ((r >>= fun y => pure (f y)) c)) := by
  rw [mapAt, Logged.outcome_bind, h, Reader.bind_apply]
  rcases r c with ⟨_ | _, _⟩ <;> rfl

theorem outcome_numberAt (width : Nat) (what : String) :
    (numberAt width what data position).outcome =
      .ok (landing (PayloadReader.number width what ⟨data, position⟩)) :=
  outcome_mapAt ofLE (outcome_takeAt _ _)

theorem outcome_textAt (maxLength : Nat) :
    (textAt maxLength data position).outcome =
      .ok (landing (PayloadReader.text maxLength ⟨data, position⟩)) := by
  have hlength : (mapAt UInt32.ofNat (numberAt 4 "u32" data position)).outcome =
      .ok (landing (PayloadReader.u32 ⟨data, position⟩)) := outcome_mapAt _ (outcome_numberAt _ _)
  have hdata := PayloadReader.moves_u32.data_eq ⟨data, position⟩
  rw [textAt, Logged.outcome_bind, hlength, PayloadReader.text, Reader.bind_apply]
  generalize PayloadReader.u32 ⟨data, position⟩ = read at hdata ⊢
  rcases read with ⟨e | length, ⟨data', position'⟩⟩
  · rfl
  obtain rfl : data' = data := hdata
  dsimp only [landing, ok_bind]
  rw [Reader.bind_apply, Reader.failIf]
  split
  · rfl
  · exact outcome_takeAt _ _

theorem outcome_runAt (r : FieldRead) :
    (r.runAt data position).outcome = .ok (landing (r.run ⟨data, position⟩)) := by
  cases r with
  | bytes count => exact outcome_mapAt _ (outcome_takeAt _ _)
  | text maxLength => exact outcome_mapAt _ (outcome_textAt _)
  | i64 => exact outcome_mapAt _ (outcome_mapAt _ (outcome_mapAt _ (outcome_numberAt _ _)))
  | _ => exact outcome_mapAt _ (outcome_mapAt _ (outcome_numberAt _ _))

theorem within_takeAt (e : Error) (n : Nat) (h : position ≤ data.length) :
    Within data.length (takeAt e n data position) := by
  rw [takeAt]
  split
  · exact .pure _
  · exact (Within.read (by omega)).bind fun _ _ => .pure _

theorem within_mapAt {size : Nat} (f : α → β) (h : Within size x) :
    Within size (mapAt f x) := h.bind fun _ _ => .pure _

theorem within_numberAt (width : Nat) (what : String) (h : position ≤ data.length) :
    Within data.length (numberAt width what data position) := within_mapAt _ (within_takeAt _ _ h)

/-- A text is looked at from where its length ends. -/
theorem within_textAt (maxLength : Nat) (h : position ≤ data.length) :
    Within data.length (textAt maxLength data position) := by
  refine (within_mapAt UInt32.ofNat (within_numberAt 4 "u32" h)).bind ?_
  rintro ⟨length, position'⟩ hok
  rw [outcome_mapAt UInt32.ofNat (outcome_numberAt 4 "u32")] at hok
  have hinside := PayloadReader.moves_u32.inside ⟨data, position⟩ h
  have hposition : (PayloadReader.u32 ⟨data, position⟩).2.position = position' :=
    congrArg Prod.snd (Except.ok.inj hok)
  dsimp only
  split
  · exact .pure _
  · split
    · exact .pure _
    · exact within_takeAt _ _ (hposition ▸ hinside)

theorem within_runAt (r : FieldRead) (h : position ≤ data.length) :
    Within data.length (r.runAt data position) := by
  cases r with
  | bytes count => exact within_mapAt _ (within_takeAt _ _ h)
  | text maxLength => exact within_mapAt _ (within_textAt _ h)
  | i64 => exact within_mapAt _ (within_mapAt _ (within_mapAt _ (within_numberAt _ _ h)))
  | _ => exact within_mapAt _ (within_mapAt _ (within_numberAt _ _ h))

end

/-! ## Sequences of calls -/

/-- What a sequence of calls returns, and the positions they leave. A call that fails is followed
by the next. -/
def readSteps (data : List UInt8) : Nat → List FieldRead → List (Landing FieldValue)
  | _, [] => []
  | position, r :: reads =>
    let step := landing (r.run ⟨data, position⟩)
    step :: readSteps data step.2 reads

/-- The same with the offsets the calls look at. -/
def readStepsAt (data : List UInt8) :
    Nat → List FieldRead → Logged Error (List (Landing FieldValue))
  | _, [] => return []
  | position, r :: reads => do
    let step ← r.runAt data position
    return step :: (← readStepsAt data step.2 reads)

theorem outcome_readStepsAt (data : List UInt8) (position : Nat) (reads : List FieldRead) :
    (readStepsAt data position reads).outcome = .ok (readSteps data position reads) := by
  induction reads generalizing position with
  | nil => rfl
  | cons r reads ih =>
    rw [readStepsAt, Logged.outcome_bind, outcome_runAt, ok_bind, Logged.outcome_bind, ih]
    rfl

variable {data : List UInt8} {position : Nat}

theorem within_readStepsAt (h : position ≤ data.length) (reads : List FieldRead) :
    Within data.length (readStepsAt data position reads) := by
  induction reads generalizing position with
  | nil => exact .pure _
  | cons r reads ih =>
    refine (within_runAt r h).bind fun step hstep => ?_
    rw [outcome_runAt] at hstep
    obtain rfl := Except.ok.inj hstep
    exact (ih ((stays_run r).inside ⟨data, position⟩ h)).bind fun _ _ => .pure _

/-- The positions go forward, and stay inside. -/
theorem positions_readSteps (h : position ≤ data.length) (reads : List FieldRead) :
    (position :: (readSteps data position reads).map Prod.snd).IsChain (· ≤ ·) ∧
      ∀ step ∈ readSteps data position reads, step.2 ≤ data.length := by
  induction reads generalizing position with
  | nil => simp [readSteps]
  | cons r reads ih =>
    have hinside := (stays_run r).inside ⟨data, position⟩ h
    obtain ⟨hchain, hsteps⟩ := ih hinside
    refine ⟨List.isChain_cons_cons.2 ⟨(stays_run r).forward ⟨data, position⟩, hchain⟩, ?_⟩
    exact List.forall_mem_cons.2 ⟨hinside, hsteps⟩

theorem readSteps_written {writes : List FieldWrite} (hshort : ∀ w ∈ writes, w.Short)
    {bytes : List UInt8} (hok : Written.all (writes.map FieldWrite.run) = (bytes, .ok ()))
    {rest : List UInt8} (hdata : data.drop position = bytes ++ rest) :
    (readSteps data position (writes.map FieldWrite.matching)).map Prod.fst =
        writes.map (fun w => .ok w.value) ∧
      ((readSteps data position (writes.map FieldWrite.matching)).map Prod.snd).getLastD position =
        position + bytes.length := by
  induction writes generalizing bytes position with
  | nil =>
    obtain rfl : [] = bytes := congrArg Prod.fst hok
    exact ⟨rfl, rfl⟩
  | cons w writes ih =>
    obtain ⟨hw, hwrites⟩ := List.forall_mem_cons.1 hshort
    rcases hrun : w.run with ⟨front, e | _⟩ <;> rw [List.map_cons, hrun, Written.all] at hok
    · cases congrArg Prod.snd hok
    obtain ⟨rfl, hall⟩ := Prod.mk.inj hok
    have hdecodes := decodes_write hw (by rw [hrun])
    rw [hrun] at hdecodes
    have hrest := hdata.trans (List.append_assoc ..)
    have hstep := hdecodes ⟨data, position⟩ _ hrest
    have hbehind : data.drop (position + front.length) =
        (Written.all (writes.map FieldWrite.run)).1 ++ rest := by
      rw [← List.drop_drop, hrest, List.drop_left]
    obtain ⟨hvalues, hend⟩ := ih hwrites (Prod.ext rfl hall) hbehind
    rw [List.map_cons, readSteps, hstep]
    refine ⟨congrArg (List.cons _) hvalues, ?_⟩
    rw [List.map_cons, List.getLastD_cons, List.length_append, ← Nat.add_assoc]
    exact hend

/-- Fields whose writes succeed, with texts shorter than `2 ^ 32` bytes, are read back by the
    matching calls, which end at the end. And whatever the bytes and the calls are, none looks at
    a byte outside, and the position never goes back or past the end. -/
theorem payload_fields :
    (∀ (writes : List FieldWrite) (bytes : List UInt8), (∀ w ∈ writes, w.Short) →
      Written.all (writes.map FieldWrite.run) = (bytes, .ok ()) →
      (readSteps bytes 0 (writes.map FieldWrite.matching)).map Prod.fst =
          writes.map (fun w => .ok w.value) ∧
        ((readSteps bytes 0 (writes.map FieldWrite.matching)).map Prod.snd).getLastD 0 =
          bytes.length) ∧
    ∀ (data : List UInt8) (reads : List FieldRead),
      (readStepsAt data 0 reads).outcome = .ok (readSteps data 0 reads) ∧
      (∀ slice ∈ (readStepsAt data 0 reads).slices, slice.offset + slice.length ≤ data.length) ∧
      (0 :: (readSteps data 0 reads).map Prod.snd).IsChain (· ≤ ·) ∧
      ∀ step ∈ readSteps data 0 reads, step.2 ≤ data.length := by
  refine ⟨fun writes bytes hshort hok => ?_, fun data reads => ?_⟩
  · have hdata : bytes.drop 0 = bytes ++ [] := (List.append_nil bytes).symm
    have hread := readSteps_written hshort hok hdata
    rwa [Nat.zero_add] at hread
  · exact ⟨outcome_readStepsAt data 0 reads, within_readStepsAt (Nat.zero_le _) reads,
      positions_readSteps (Nat.zero_le _) reads⟩

/-- A text, a number and a truth value. -/
theorem payload_fields_three :
    (readSteps [2, 0, 0, 0, 97, 98, 5, 0, 0, 0, 1] 0 [.text 64, .u32, .u8]).map Prod.fst =
      [.ok (.text (ascii "ab")), .ok (.u32 5), .ok (.u8 1)] :=
  (payload_fields.1 [.text (ascii "ab") 64, .u32 5, .bool true] _
    (by simp [FieldWrite.Short]; decide) (by decide)).1

end CoherenceObservatory
