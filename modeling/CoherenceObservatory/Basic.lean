import Mathlib

/-!
# Texts, errors, limits and identity tokens

The ground of the model. A `std::string` is the list of its bytes (`Text`), a
`Status` or `Result<T>` an `Except Error`, and an identity a text that passed
`validateIdentityToken` (`IsToken`).
-/

namespace CoherenceObservatory

open List

/-! ## Texts -/

/-- A byte string, compared byte by byte as `std::string` is. -/
abbrev Text := List UInt8

instance : LawfulBEq Text := List.instLawfulBEq

/-- The bytes of an ASCII literal. -/
def ascii (s : String) : Text := s.toList.map fun c => c.toNat.toUInt8

/-- Monotonic nanoseconds. -/
abbrev Nanos := Int64

/-- `std::to_string` of a size. -/
def formatNat (n : Nat) : Text :=
  if n = 0 then [48] else (Nat.digits 10 n).reverse.map fun d => (48 + d).toUInt8

variable {n d : Nat} {p : Prop} {ε α β : Type}

theorem length_formatNat_le {k : Nat} (hk : 0 < k) (h : n < 10 ^ k) : (formatNat n).length ≤ k := by
  unfold formatNat
  split
  · exact hk
  · rw [length_map, length_reverse]
    exact (Nat.digits_length_le_iff (by decide) n).2 h

/-- `detail::format_u64`: plain decimal, no padding. -/
def formatU64 (value : UInt64) : Text := formatNat value.toNat

/-- `detail::truncate`: at most `maxLength` bytes, the last three of a cut text being dots. -/
def truncate (text : Text) (maxLength : Nat) : Text :=
  if text.length ≤ maxLength then text
  else if maxLength ≤ 3 then text.take maxLength
  else text.take (maxLength - 3) ++ ascii "..."

/-- A decimal digit as the byte `formatNat` prints for it. -/
theorem toNat_digit (h : d < 10) : ((48 + d).toUInt8).toNat = 48 + d := by
  rw [Nat.toUInt8_eq, UInt8.toNat_ofNat']
  omega

theorem map_digit_inj {l l' : List Nat} (hl : ∀ d ∈ l, d < 10) (hl' : ∀ d ∈ l', d < 10)
    (h : (l.map fun d => (48 + d).toUInt8) = l'.map fun d => (48 + d).toUInt8) : l = l' := by
  induction l generalizing l' with
  | nil => simpa using h.symm
  | cons d l ih =>
    cases l' with
    | nil => simp at h
    | cons d' l' =>
      simp only [map_cons, List.cons.injEq] at h
      have hd := toNat_digit (hl d (by simp))
      have hd' := toNat_digit (hl' d' (by simp))
      rw [h.1] at hd
      rw [ih (fun x hx => hl x (by simp [hx])) (fun x hx => hl' x (by simp [hx])) h.2]
      congr 1
      omega

theorem mem_reverse_digits_lt (h : d ∈ (Nat.digits 10 n).reverse) : d < 10 :=
  Nat.digits_lt_base (by simp) (mem_reverse.1 h)

/-- The leading digit of a nonzero number is not zero, so it never prints as `0`. -/
theorem formatNat_ne_zero (hn : n ≠ 0) : formatNat n ≠ [48] := by
  intro h
  rw [formatNat, if_neg hn] at h
  have h0 : (Nat.digits 10 n).reverse = [0] :=
    map_digit_inj (fun d hd => mem_reverse_digits_lt hd) (by simp) (by simpa using h)
  have h0' : Nat.digits 10 n = [0] := by simpa using congrArg List.reverse h0
  have hlast := Nat.getLast_digit_ne_zero 10 hn
  simp [h0'] at hlast

theorem formatNat_injective : Function.Injective formatNat := by
  intro m n h
  by_cases hm : m = 0
  · by_cases hn : n = 0
    · rw [hm, hn]
    · exact absurd (h.symm.trans (by simp [formatNat, hm])) (formatNat_ne_zero hn)
  · by_cases hn : n = 0
    · exact absurd (h.trans (by simp [formatNat, hn])) (formatNat_ne_zero hm)
    · rw [formatNat, formatNat, if_neg hm, if_neg hn] at h
      have hd := map_digit_inj (fun d hd => mem_reverse_digits_lt hd)
        (fun d hd => mem_reverse_digits_lt hd) h
      exact Nat.digits_inj_iff.1 (reverse_injective hd)

/-- Decimal rendering keeps numbers apart. -/
theorem formatU64_injective : Function.Injective formatU64 := fun _ _ h =>
  UInt64.toNat_inj.1 (formatNat_injective h)

/-- Every byte printed is a decimal digit. -/
theorem formatNat_digit {b : UInt8} (h : b ∈ formatNat n) : 48 ≤ b.toNat ∧ b.toNat < 58 := by
  unfold formatNat at h
  split at h
  · obtain rfl : b = 48 := by simpa using h
    decide
  · simp only [mem_map, mem_reverse] at h
    obtain ⟨d, hd, rfl⟩ := h
    have hlt : d < 10 := Nat.digits_lt_base (by simp) hd
    rw [toNat_digit hlt]
    omega

/-- The first occurrence of a separator splits a text in one way. -/
theorem append_cons_inj_of_not_mem {c : UInt8} {l l' r r' : Text} (hl : c ∉ l) (hl' : c ∉ l')
    (h : l ++ c :: r = l' ++ c :: r') : l = l' ∧ r = r' := by
  induction l generalizing l' with
  | nil =>
    cases l' with
    | nil => simpa using h
    | cons b l' => simp at h; simp [h.1] at hl'
  | cons b l ih =>
    cases l' with
    | nil => simp at h; simp [h.1] at hl
    | cons b' l' =>
      simp only [cons_append, List.cons.injEq] at h
      simp only [mem_cons, not_or] at hl hl'
      obtain ⟨h1, h2⟩ := ih hl.2 hl'.2 h.2
      exact ⟨by rw [h.1, h1], h2⟩

/-- A name followed by a mark and a number determines both, even when the name contains the
mark: the digits after the last one never do. -/
theorem append_formatU64_inj {c : UInt8} (hc : ¬(48 ≤ c.toNat ∧ c.toNat < 58)) {a b : Text}
    {m n : UInt64} (h : a ++ [c] ++ formatU64 m = b ++ [c] ++ formatU64 n) : a = b ∧ m = n := by
  have hno (k : UInt64) : c ∉ (formatU64 k).reverse :=
    fun hk => hc (formatNat_digit (mem_reverse.1 hk))
  -- read from the right, where the digits come first
  have hr := congrArg List.reverse h
  simp only [reverse_append, reverse_cons, reverse_nil, nil_append,
    singleton_append] at hr
  obtain ⟨h1, h2⟩ := append_cons_inj_of_not_mem (hno m) (hno n) hr
  exact ⟨reverse_injective h2, formatU64_injective (reverse_injective h1)⟩

/-! ## Errors -/

/-- The failure taxonomy, in the source's order. -/
inductive ErrorCode
  | ok
  | invalidArgument | outOfRange | tooLarge | tooMany | notFound | alreadyExists | conflict
  | capacity | overflow | saturated | busy | shutdown | ioError | internal
  | unauthorized | staleEpoch | staleBoot | staleGeneration | staleSequence | retiredEntity
  | unsupportedCapability | precisionInsufficient | duplicate
  | invalidMagic | unsupportedVersion | unknownMessageType | invalidFlags | truncated
  | integrityFailure | protocolError | trailingBytes | connectionClosed
  | corruptState | unsupportedStateVersion | emptyState
  deriving DecidableEq

/-- The stable rendering of an error code. -/
def ErrorCode.toText : ErrorCode → Text
  | ok => ascii "Ok"
  | invalidArgument => ascii "InvalidArgument"
  | outOfRange => ascii "OutOfRange"
  | tooLarge => ascii "TooLarge"
  | tooMany => ascii "TooMany"
  | notFound => ascii "NotFound"
  | alreadyExists => ascii "AlreadyExists"
  | conflict => ascii "Conflict"
  | capacity => ascii "Capacity"
  | overflow => ascii "Overflow"
  | saturated => ascii "Saturated"
  | busy => ascii "Busy"
  | shutdown => ascii "Shutdown"
  | ioError => ascii "IoError"
  | internal => ascii "Internal"
  | unauthorized => ascii "Unauthorized"
  | staleEpoch => ascii "StaleEpoch"
  | staleBoot => ascii "StaleBoot"
  | staleGeneration => ascii "StaleGeneration"
  | staleSequence => ascii "StaleSequence"
  | retiredEntity => ascii "RetiredEntity"
  | unsupportedCapability => ascii "UnsupportedCapability"
  | precisionInsufficient => ascii "PrecisionInsufficient"
  | duplicate => ascii "Duplicate"
  | invalidMagic => ascii "InvalidMagic"
  | unsupportedVersion => ascii "UnsupportedVersion"
  | unknownMessageType => ascii "UnknownMessageType"
  | invalidFlags => ascii "InvalidFlags"
  | truncated => ascii "Truncated"
  | integrityFailure => ascii "IntegrityFailure"
  | protocolError => ascii "ProtocolError"
  | trailingBytes => ascii "TrailingBytes"
  | connectionClosed => ascii "ConnectionClosed"
  | corruptState => ascii "CorruptState"
  | unsupportedStateVersion => ascii "UnsupportedStateVersion"
  | emptyState => ascii "EmptyState"

/-- A code with a message and a context, either of which may be empty. -/
structure Error where
  code : ErrorCode
  message : Text
  context : Text := []
  deriving DecidableEq

/-- `Error::describe`: the code, then the message, then the context in brackets. -/
def Error.describe (e : Error) : Text :=
  e.code.toText ++ (if e.message.isEmpty then [] else ascii ": " ++ e.message) ++
    (if e.context.isEmpty then [] else ascii " [" ++ e.context ++ ascii "]")

/-- The outcome of an operation without a value. -/
abbrev Status := Except Error Unit

/-- An error with a literal message. -/
def failWith (code : ErrorCode) (message : String) (context : Text := []) : Error :=
  { code, message := ascii message, context }

/-- Stops with an error when the condition holds. -/
def failIf (p : Prop) [Decidable p] (e : Error) : Status := if p then .error e else .ok ()

variable {e : Error}

theorem failIf_eq_ok [Decidable p] : failIf p e = .ok () ↔ ¬p := by
  unfold failIf
  split <;> simp_all

/-- A sequence of two computations succeeds when both do. -/
@[simp] theorem ok_bind (x : α) (f : α → Except ε β) : (Except.ok x >>= f) = f x := rfl

@[simp] theorem error_bind (e : ε) (f : α → Except ε β) : (Except.error e >>= f) = .error e := rfl

/-- A check that passes drops out. -/
theorem failIf_bind [Decidable p] {f : Unit → Except Error α} (h : ¬p) :
    (failIf p e >>= f) = f () := by
  rw [failIf_eq_ok.2 h, ok_bind]

theorem bind_eq_ok {x : Except ε α} {f : α → Except ε β} {b : β} :
    (x >>= f) = .ok b ↔ ∃ a, x = .ok a ∧ f a = .ok b := by
  cases x <;> simp [bind, Except.bind]

/-! ## Limits -/

namespace Limits

def maxNameLength : Nat := 64
def maxPublisherCount : Nat := 256
def maxNodeCount : Nat := 64
def maxProcessorCount : Nat := 1024
def maxAcceleratorCount : Nat := 256
def maxMemoryDomainCount : Nat := 256
def maxCoherenceDomainCount : Nat := 256
def maxRegionCount : Nat := 100000
def maxRegionAnnotationLength : Nat := 96
def maxTopologyLinkCount : Nat := 4096
def maxBatchEvents : Nat := 1024
def maxMetadataEntries : Nat := 8
def maxMetadataKeyLength : Nat := 48
def maxMetadataValueLength : Nat := 160
def maxPendingIngestion : Nat := 16384
def maxSequenceWindow : Nat := 4096
def maxRecentEventIds : Nat := 4096
def frameHeaderSize : Nat := 32
def frameTrailerSize : Nat := 4
def maxFramePayload : Nat := 1048576
def maxConnections : Nat := 64
def maxAggregateKeys : Nat := 65536
def maxFindings : Nat := 4096
def maxObservationJournal : Nat := 16384
def maxTrackedRegions : Nat := 8192
def maxRegionSamples : Nat := 256
def maxCounterRecords : Nat := 4096
def maxHistoryRecords : Nat := 8192
def maxHistoryAggregates : Nat := 4096
def maxPublisherWatermarks : Nat := 256
def maxPersistenceBytes : Nat := 268435456
def stateVersion : UInt32 := 1
def stateHeaderSize : Nat := 64
def stateSectionHeaderSize : Nat := 16
def stateTrailerSize : Nat := 16
def maxByteCount : UInt64 := 281474976710656
def maxLineCount : UInt64 := 1099511627776
def maxTimestampNs : UInt64 := 4611686018427387904
def maxMeasuredDurationNs : Int64 := 4398046511104

end Limits

/-! ## Identity tokens -/

/-- The bytes `std::isalnum` accepts, and the seven marks allowed beside them. -/
def isTokenByte (c : UInt8) : Bool :=
  (48 ≤ c && c ≤ 57) || (65 ≤ c && c ≤ 90) || (97 ≤ c && c ≤ 122) ||
    c == 46 || c == 95 || c == 45 || c == 58 || c == 64 || c == 35 || c == 43

/-- `validate_identity_token`: the first byte that is not admitted names the error. -/
def validateIdentityToken (token : Text) : Status :=
  if token.isEmpty then
    .error (failWith .invalidArgument "identity token is empty")
  else if token.length > Limits.maxNameLength then
    .error (failWith .tooLarge "identity token exceeds maximum length"
      (ascii "length=" ++ formatNat token.length))
  else
    match token.find? fun c => !isTokenByte c with
    | none => .ok ()
    | some c =>
      if 128 ≤ c then
        .error (failWith .invalidArgument "identity token must be ASCII"
          (ascii "byte=0x" ++ formatNat c.toNat))
      else
        .error (failWith .invalidArgument "identity token contains a forbidden character"
          (ascii "char='" ++ [c] ++ ascii "'"))

/-- A text that may serve as an identity. -/
structure IsToken (token : Text) : Prop where
  ne_nil : token ≠ []
  length_le : token.length ≤ Limits.maxNameLength
  admitted : ∀ c ∈ token, isTokenByte c

/-- The texts admitted as identities. -/
theorem validateIdentityToken_eq_ok {token : Text} :
    validateIdentityToken token = .ok () ↔ IsToken token := by
  constructor
  · intro h
    unfold validateIdentityToken at h
    split at h
    · simp at h
    next hne =>
    split at h
    · simp at h
    next hlen =>
    split at h
    next hfind =>
      exact ⟨by simpa using hne, by omega, by simpa using hfind⟩
    next => split at h <;> simp at h
  · rintro ⟨hne, hlen, hall⟩
    have hfind : token.find? (fun c => !isTokenByte c) = none := by simpa using hall
    simp [validateIdentityToken, hne, Nat.not_lt.2 hlen, hfind]

end CoherenceObservatory
