import CoherenceObservatory.Basic

/-!
# Decimal numbers

How a trace's numbers are read. The test for overflow rounds a division, and still refuses a digit
exactly if the number does not fit.

* `parseU64_exact`: which texts are read, as what, and that a number that is written is read back.
-/

namespace CoherenceObservatory

open List

/-- One digit more. -/
def parseDigit (result : UInt64) (c : UInt8) : Option UInt64 :=
  if c < 48 ∨ c > 57 then none
  else
    let digit := (c - 48).toUInt64
    if result > (18446744073709551615 - digit) / 10 then none else some (result * 10 + digit)

/-- `parse_u64`. -/
def parseU64 (text : Text) : Option UInt64 :=
  if text = [] then none else text.foldlM parseDigit 0

/-- One digit more, without a bound. -/
def decimalDigit (n : Nat) (c : UInt8) : Option Nat :=
  if c < 48 ∨ c > 57 then none else some (n * 10 + (c.toNat - 48))

/-- The number a text writes in decimal digits. -/
def decimal (text : Text) : Option Nat :=
  if text = [] then none else text.foldlM decimalDigit 0

variable {text : Text}

theorem le_of_foldlM_decimalDigit {n m : Nat} (h : text.foldlM decimalDigit n = some m) :
    n ≤ m := by
  induction text generalizing n with
  | nil => exact (Option.some.inj h).le
  | cons c text ih =>
    rw [foldlM_cons, decimalDigit] at h
    split at h
    · cases h
    · exact le_trans (by omega) (ih h)

/-- A digit is refused exactly if the number does not fit. -/
theorem parseDigit_eq (result : UInt64) (c : UInt8) :
    parseDigit result c = (decimalDigit result.toNat c).bind fun n =>
      if n < 2 ^ 64 then some (.ofNat n) else none := by
  rw [parseDigit, decimalDigit]
  split
  case isTrue => rfl
  case isFalse hdigit =>
    rw [not_or, UInt8.not_lt, gt_iff_lt, UInt8.not_lt] at hdigit
    have hlow : 48 ≤ c.toNat := UInt8.le_iff_toNat_le.1 hdigit.1
    have hhigh : c.toNat ≤ 57 := UInt8.le_iff_toNat_le.1 hdigit.2
    have hvalue : (c - 48).toUInt64.toNat = c.toNat - 48 := by
      rw [UInt8.toNat_toUInt64, UInt8.toNat_sub_of_le _ _ hdigit.1]
      rfl
    have hroom : ((18446744073709551615 - (c - 48).toUInt64) / 10).toNat =
        (18446744073709551615 - (c.toNat - 48)) / 10 := by
      rw [UInt64.toNat_div, UInt64.toNat_sub_of_le, hvalue]
      · rfl
      · rw [UInt64.le_iff_toNat_le, hvalue]
        change c.toNat - 48 ≤ 18446744073709551615
        omega
    have hfull : result > (18446744073709551615 - (c - 48).toUInt64) / 10 ↔
        ¬result.toNat * 10 + (c.toNat - 48) < 2 ^ 64 := by
      rw [gt_iff_lt, UInt64.lt_iff_toNat_lt, hroom]
      omega
    dsimp only
    rw [Option.bind_some]
    by_cases hfits : result.toNat * 10 + (c.toNat - 48) < 2 ^ 64
    · rw [if_neg (mt hfull.1 (not_not.2 hfits)), if_pos hfits]
      congr 1
      rw [← UInt64.toNat_inj, UInt64.toNat_add, UInt64.toNat_mul, hvalue, UInt64.toNat_ofNat']
      change (result.toNat * 10 % 2 ^ 64 + (c.toNat - 48)) % 2 ^ 64 = _
      omega
    · rw [if_pos (hfull.2 hfits), if_neg hfits]

theorem foldlM_parseDigit (text : Text) (result : UInt64) :
    text.foldlM parseDigit result = (text.foldlM decimalDigit result.toNat).bind fun n =>
      if n < 2 ^ 64 then some (.ofNat n) else none := by
  induction text generalizing result with
  | nil =>
    rw [foldlM_nil, foldlM_nil]
    change some result = if result.toNat < 2 ^ 64 then some (UInt64.ofNat result.toNat) else none
    rw [if_pos result.toNat_lt, UInt64.ofNat_toNat]
  | cons c text ih =>
    rw [foldlM_cons, foldlM_cons, parseDigit_eq]
    cases hdigit : decimalDigit result.toNat c with
    | none => rfl
    | some n =>
      change (if n < 2 ^ 64 then some (UInt64.ofNat n) else none).bind _ =
        Option.bind (text.foldlM decimalDigit n) _
      split
      case isTrue hfits =>
        rw [Option.bind_some, ih, UInt64.toNat_ofNat_of_lt' hfits]
      case isFalse hlarge =>
        -- a number that is too large stays so
        cases hrest : text.foldlM decimalDigit n with
        | none => rfl
        | some m =>
          have hle := le_of_foldlM_decimalDigit hrest
          rw [Option.bind_none, Option.bind_some, if_neg (by omega)]

/-- A number is read exactly if the text writes one that fits. -/
theorem parseU64_eq_some_iff {value : UInt64} :
    parseU64 text = some value ↔ decimal text = some value.toNat := by
  rw [parseU64, decimal]
  split
  case isTrue => simp
  case isFalse =>
    rw [foldlM_parseDigit, UInt64.toNat_zero]
    cases text.foldlM decimalDigit 0 with
    | none => simp
    | some n =>
      rw [Option.bind_some, Option.some.injEq]
      constructor
      · intro h
        split at h
        case isTrue hfits =>
          rw [← Option.some.inj h, UInt64.toNat_ofNat_of_lt' hfits]
        case isFalse => cases h
      · rintro rfl
        rw [if_pos value.toNat_lt, UInt64.ofNat_toNat]

theorem foldlM_decimalDigit_digits (digits : List Nat) (hdigits : ∀ d ∈ digits, d < 10) (n : Nat) :
    (digits.map fun d => (48 + d).toUInt8).foldlM decimalDigit n =
      some (digits.foldl (fun n d => n * 10 + d) n) := by
  induction digits generalizing n with
  | nil => rfl
  | cons d digits ih =>
    have hd := hdigits d mem_cons_self
    have hbyte : decimalDigit n (48 + d).toUInt8 = some (n * 10 + d) := by
      have hvalue := toNat_digit hd
      have hlow : ¬(48 + d).toUInt8 < 48 := by
        rw [UInt8.lt_iff_toNat_lt, hvalue]
        change ¬48 + d < 48
        omega
      have hhigh : ¬(48 + d).toUInt8 > 57 := by
        rw [gt_iff_lt, UInt8.lt_iff_toNat_lt, hvalue]
        change ¬57 < 48 + d
        omega
      rw [decimalDigit, if_neg (not_or.2 ⟨hlow, hhigh⟩), hvalue, Nat.add_sub_cancel_left]
    rw [map_cons, foldlM_cons, hbyte]
    exact ih (fun d hd => hdigits d (mem_cons_of_mem _ hd)) _

theorem decimal_formatNat (n : Nat) : decimal (formatNat n) = some n := by
  by_cases hn : n = 0
  · subst hn
    rfl
  · have hne : (Nat.digits 10 n).reverse.map (fun d => (48 + d).toUInt8) ≠ [] := by
      rwa [ne_eq, map_eq_nil_iff, reverse_eq_nil_iff, Nat.digits_eq_nil_iff_eq_zero]
    rw [decimal, formatNat, if_neg hn, if_neg hne, foldlM_decimalDigit_digits _
      fun d hd => mem_reverse_digits_lt hd, foldl_reverse]
    congr 1
    calc (Nat.digits 10 n).foldr (fun d n => n * 10 + d) 0
      _ = Nat.ofDigits 10 (Nat.digits 10 n) := by
        rw [Nat.ofDigits_eq_foldr]
        congr 1
        funext d n
        simp [Nat.add_comm, Nat.mul_comm]
      _ = n := Nat.ofDigits_digits 10 n

theorem parseU64_formatU64 (value : UInt64) : parseU64 (formatU64 value) = some value :=
  parseU64_eq_some_iff.2 (decimal_formatNat value.toNat)

/-- The number a text of digits denotes. -/
def digitsValue (text : Text) : Nat := text.foldl (fun n c => n * 10 + (c.toNat - 48)) 0

theorem foldlM_decimalDigit_eq_some {n m : Nat} :
    text.foldlM decimalDigit n = some m ↔
      (∀ c ∈ text, 48 ≤ c ∧ c ≤ 57) ∧ text.foldl (fun n c => n * 10 + (c.toNat - 48)) n = m := by
  induction text generalizing n with
  | nil => simp
  | cons c text ih =>
    have hdigit : ¬(c < 48 ∨ c > 57) ↔ 48 ≤ c ∧ c ≤ 57 := by
      rw [not_or, UInt8.not_lt, gt_iff_lt, UInt8.not_lt]
    rw [foldlM_cons, forall_mem_cons, foldl_cons, decimalDigit, ← hdigit, and_assoc]
    split
    case isTrue hc => simp [hc]
    case isFalse hc =>
      rw [and_iff_right hc]
      exact ih

/-- A text is read exactly if it is not empty, has digits only and denotes a number below `2 ^ 64`,
    and then as that number; and every number that is written is read back. -/
theorem parseU64_exact :
    (∀ text, (parseU64 text).isSome ↔
      text ≠ [] ∧ (∀ c ∈ text, 48 ≤ c ∧ c ≤ 57) ∧ digitsValue text < 2 ^ 64) ∧
    (∀ text value, parseU64 text = some value → value.toNat = digitsValue text) ∧
    ∀ n, parseU64 (formatU64 n) = some n := by
  have hread (text : Text) (value : UInt64) : parseU64 text = some value ↔
      text ≠ [] ∧ (∀ c ∈ text, 48 ≤ c ∧ c ≤ 57) ∧ digitsValue text = value.toNat := by
    rw [parseU64_eq_some_iff, decimal]
    split
    case isTrue hnil => simp [hnil]
    case isFalse hne => exact foldlM_decimalDigit_eq_some.trans (and_iff_right hne).symm
  refine ⟨fun text => ?_, fun text value h => ((hread text value).1 h).2.2.symm, parseU64_formatU64⟩
  rw [Option.isSome_iff_exists]
  constructor
  · rintro ⟨value, hvalue⟩
    obtain ⟨hne, hdigits, heq⟩ := (hread text value).1 hvalue
    exact ⟨hne, hdigits, heq ▸ value.toNat_lt⟩
  · rintro ⟨hne, hdigits, hlt⟩
    exact ⟨.ofNat (digitsValue text),
      (hread text _).2 ⟨hne, hdigits, (UInt64.toNat_ofNat_of_lt' hlt).symm⟩⟩

end CoherenceObservatory
