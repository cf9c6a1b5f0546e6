import Mathlib

/-!
# JSON texts

A reader of JSON texts made of objects, arrays and strings. Numbers, the literals and escapes by
code point are left out: it accepts a part of the grammar, and reads that as the grammar says.
-/

namespace Json

open List

/-- The values of which texts are built here: there are no numbers among them. -/
inductive Value
  | string (s : List UInt8)
  | array (values : List Value)
  | object (members : List (List UInt8 × Value))

/-! ## Reading -/

/-- What stands behind blanks, tabs and line ends. -/
def skip (text : List UInt8) : List UInt8 :=
  text.dropWhile fun c => c = 32 ∨ c = 9 ∨ c = 10 ∨ c = 13

/-- What a byte behind a backslash stands for. -/
def unescape (c : UInt8) : Option UInt8 :=
  if c = 34 ∨ c = 92 ∨ c = 47 then some c
  else if c = 98 then some 8
  else if c = 102 then some 12
  else if c = 110 then some 10
  else if c = 114 then some 13
  else if c = 116 then some 9
  else none

/-- The rest of a string, behind its opening quote. -/
def chars : List UInt8 → Option (List UInt8 × List UInt8)
  | [] => none
  | c :: rest =>
    if c = 34 then some ([], rest)
    else if c = 92 then
      match rest with
      | [] => none
      | e :: rest => do
        let c ← unescape e
        let (s, rest) ← chars rest
        return (c :: s, rest)
    else if c < 32 then none
    else do
      let (s, rest) ← chars rest
      return (c :: s, rest)

mutual

/-- A value and what stands behind it, in `n` steps at most. -/
def value : Nat → List UInt8 → Option (Value × List UInt8)
  | 0, _ => none
  | n + 1, text =>
    match skip text with
    | 34 :: rest => do
      let (s, rest) ← chars rest
      return (.string s, rest)
    | 91 :: rest =>
      match skip rest with
      | 93 :: rest => some (.array [], rest)
      | rest => do
        let (values, rest) ← elements n rest
        return (.array values, rest)
    | 123 :: rest =>
      match skip rest with
      | 125 :: rest => some (.object [], rest)
      | rest => do
        let (fields, rest) ← members n rest
        return (.object fields, rest)
    | _ => none

/-- The values of an array that is not empty, behind its bracket. -/
def elements : Nat → List UInt8 → Option (List Value × List UInt8)
  | 0, _ => none
  | n + 1, text => do
    let (v, rest) ← value n text
    match skip rest with
    | 44 :: rest => do
      let (values, rest) ← elements n rest
      return (v :: values, rest)
    | 93 :: rest => some ([v], rest)
    | _ => none

/-- The members of an object that is not empty, behind its brace. -/
def members : Nat → List UInt8 → Option (List (List UInt8 × Value) × List UInt8)
  | 0, _ => none
  | n + 1, text =>
    match skip text with
    | 34 :: rest => do
      let (key, rest) ← chars rest
      match skip rest with
      | 58 :: rest => do
        let (v, rest) ← value n rest
        match skip rest with
        | 44 :: rest => do
          let (fields, rest) ← members n rest
          return ((key, v) :: fields, rest)
        | 125 :: rest => some ([(key, v)], rest)
        | _ => none
      | _ => none
    | _ => none

end

/-- A whole text. -/
def parse (text : List UInt8) : Option Value := do
  let (v, rest) ← value (text.length + 1) text
  if skip rest = [] then some v else none

/-! ## UTF-8 -/

/-- The text encodes characters. -/
def IsUtf8 (text : List UInt8) : Prop := ∃ l : List Char, text = l.flatMap String.utf8EncodeChar

theorem IsUtf8.append {a b : List UInt8} (ha : IsUtf8 a) (hb : IsUtf8 b) : IsUtf8 (a ++ b) := by
  obtain ⟨l, rfl⟩ := ha
  obtain ⟨l', rfl⟩ := hb
  exact ⟨l ++ l', flatMap_append.symm⟩

theorem IsUtf8.nil : IsUtf8 [] := ⟨[], rfl⟩

variable {text : List UInt8} {c : UInt8} {values : List Value} {fields : List (List UInt8 × Value)}

theorem IsUtf8.ascii (h : text.all (·.toNat < 128) = true) : IsUtf8 text := by
  induction text with
  | nil => exact .nil
  | cons b text ih =>
    rw [all_cons, Bool.and_eq_true, decide_eq_true_iff] at h
    obtain ⟨hb, htext⟩ := h
    refine .append (a := [b]) ⟨[Char.ofNat b.toNat], ?_⟩ (ih htext)
    have hvalue : (Char.ofNat b.toNat).val.toNat = b.toNat := by
      rw [Char.ofNat, dif_pos (.inl (by omega))]
      rfl
    rw [flatMap_singleton, String.utf8EncodeChar, hvalue]
    simp only [if_pos (Nat.le_of_lt_succ hb), UInt8.ofNat_toNat]

/-- A character is one byte below 128, or bytes that are not. -/
theorem utf8EncodeChar_cases (c : Char) :
    (∃ b : UInt8, b.toNat < 128 ∧ String.utf8EncodeChar c = [b]) ∨
      ∀ b ∈ String.utf8EncodeChar c, 128 ≤ b.toNat := by
  unfold String.utf8EncodeChar
  dsimp only
  split_ifs with h
  · left
    refine ⟨_, ?_, rfl⟩
    rw [UInt8.toNat_ofNat']
    omega
  all_goals
    right
    simp only [forall_mem_cons, not_mem_nil, false_imp_iff, implies_true, and_true,
      UInt8.toNat_ofNat']
    omega

/-- Replacing bytes below 128 by texts of such bytes. -/
theorem IsUtf8.flatMap {f : UInt8 → List UInt8} (h : IsUtf8 text)
    (hlow : ∀ b, b.toNat < 128 → (f b).all (·.toNat < 128) = true)
    (hhigh : ∀ b, 128 ≤ b.toNat → f b = [b]) : IsUtf8 (text.flatMap f) := by
  obtain ⟨l, rfl⟩ := h
  induction l with
  | nil => exact .nil
  | cons c l ih =>
    rw [flatMap_cons, flatMap_append]
    refine .append ?_ ih
    obtain ⟨b, hb, heq⟩ | hbytes := utf8EncodeChar_cases c
    · rw [heq, flatMap_singleton]
      exact .ascii (hlow b hb)
    · rw [flatMap_congr fun b hb => hhigh b (hbytes b hb), flatMap_singleton']
      exact ⟨[c], (flatMap_singleton ..).symm⟩

theorem IsUtf8.intercalate {sep : List UInt8} {texts : List (List UInt8)} (hsep : IsUtf8 sep)
    (h : ∀ text ∈ texts, IsUtf8 text) : IsUtf8 (sep.intercalate texts) := by
  induction texts with
  | nil => exact .nil
  | cons text texts ih =>
    obtain ⟨htext, htexts⟩ := forall_mem_cons.1 h
    cases texts with
    | nil => exact intercalate_singleton ▸ htext
    | cons => exact intercalate_cons_cons ▸ (htext.append hsep).append (ih htexts)

/-- The text is read as `v`, and encodes characters. -/
def Accepts (text : List UInt8) (v : Value) : Prop := IsUtf8 text ∧ parse text = some v

/-! ## Strings -/

/-- Up to a quote, `text` is read as `s`. -/
def Chars (text s : List UInt8) : Prop :=
  ∀ rest, chars (text ++ 34 :: rest) = some (s, rest)

variable {text s : List UInt8}

theorem Chars.nil : Chars [] [] := by
  intro rest
  rw [nil_append, chars.eq_def]
  rfl

theorem Chars.plain (hquote : c ≠ 34) (hslash : c ≠ 92) (hc : ¬c < 32) (h : Chars text s) :
    Chars (c :: text) (c :: s) := by
  intro rest
  rw [cons_append, chars.eq_def]
  dsimp only
  rw [if_neg hquote, if_neg hslash, if_neg hc, h rest]
  rfl

theorem Chars.escape {e : UInt8} (he : unescape e = some c) (h : Chars text s) :
    Chars (92 :: e :: text) (c :: s) := by
  intro rest
  rw [cons_append, cons_append, chars.eq_def]
  dsimp only
  rw [if_neg (by decide), if_pos rfl, he, h rest]
  rfl

/-! ## Values -/

/-- In front of anything, `text` is read as `v`, in as many steps as it is long. A value starts
with a quote, a bracket or a brace. -/
structure Parses (text : List UInt8) (v : Value) : Prop where
  reads : ∀ n rest, text.length ≤ n → value n (text ++ rest) = some (v, rest)
  starts : ∃ c rest, text = c :: rest ∧ (c = 34 ∨ c = 91 ∨ c = 123)

/-- A name in quotes, a colon and a value. -/
inductive Member : List UInt8 → List UInt8 × Value → Prop
  | mk {name key text : List UInt8} {v : Value} (hkey : Chars name key) (hv : Parses text v) :
    Member (34 :: (name ++ 34 :: 58 :: text)) (key, v)

variable {texts : List (List UInt8)}

theorem parses_string (h : Chars text s) : Parses (34 :: (text ++ [34])) (.string s) where
  reads n rest hn := by
    obtain _ | n := n
    · simp at hn
    rw [cons_append, append_assoc, value]
    change (chars (text ++ 34 :: rest) >>= _) = _
    rw [h rest]
    rfl
  starts := ⟨34, _, rfl, .inl rfl⟩

theorem intercalate_cons (c : UInt8) (text : List UInt8) :
    [44].intercalate ((c :: text) :: texts) = c :: [44].intercalate (text :: texts) := by
  cases texts with
  | nil => simp only [intercalate_singleton]
  | cons => simp only [intercalate_cons_cons, cons_append]

/-- Values with commas between them, up to the closing bracket. -/
theorem elements_intercalate (h : List.Forall₂ Parses texts values) (hne : texts ≠ []) :
    ∀ n rest, ([44].intercalate texts).length < n →
      elements n ([44].intercalate texts ++ 93 :: rest) = some (values, rest) := by
  induction h with
  | nil => exact absurd rfl hne
  | @cons text v texts values hv hrest ih =>
    intro n rest hn
    obtain _ | n := n
    · simp at hn
    cases hrest with
    | nil =>
      rw [intercalate_singleton] at hn ⊢
      rw [elements, hv.reads n _ (Nat.le_of_lt_succ hn)]
      rfl
    | cons hv' hrest =>
      rw [intercalate_cons_cons, length_append, length_append] at hn
      rw [intercalate_cons_cons, append_assoc, append_assoc, singleton_append,
        elements, hv.reads n _ (by omega)]
      change (elements n _ >>= _) = _
      rw [ih (cons_ne_nil _ _) n rest (by simp at hn; omega)]
      rfl

theorem parses_array (h : List.Forall₂ Parses texts values) :
    Parses (91 :: ([44].intercalate texts ++ [93])) (.array values) where
  reads n rest hn := by
    obtain _ | n := n
    · simp at hn
    rw [cons_append, append_assoc, value]
    cases h with
    | nil => rfl
    | @cons text v texts values hv hrest =>
      have hread := elements_intercalate (.cons hv hrest) (cons_ne_nil _ _) n rest
        (by simp only [length_cons, length_append, length_nil] at hn; omega)
      obtain ⟨c, tail, rfl, hc⟩ := hv.starts
      rw [intercalate_cons, cons_append] at hread ⊢
      rw [singleton_append]
      rcases hc with rfl | rfl | rfl
      all_goals
        change (elements n _ >>= _) = _
        rw [hread]
        rfl
  starts := ⟨91, _, rfl, .inr (.inl rfl)⟩

/-- Members with commas between them, up to the closing brace. -/
theorem members_intercalate (h : List.Forall₂ Member texts fields) (hne : texts ≠ []) :
    ∀ n rest, ([44].intercalate texts).length < n →
      members n ([44].intercalate texts ++ 125 :: rest) = some (fields, rest) := by
  induction h with
  | nil => exact absurd rfl hne
  | @cons text field texts fields hfield hrest ih =>
    intro n rest hn
    obtain _ | n := n
    · simp at hn
    cases hfield with
    | @mk name key text v hkey hv =>
    cases hrest with
    | nil =>
      rw [intercalate_singleton] at hn ⊢
      rw [cons_append, append_assoc, members]
      change (chars (name ++ 34 :: 58 :: (text ++ 125 :: rest)) >>= _) = _
      rw [hkey]
      change (value n _ >>= _) = _
      rw [hv.reads n _ (by simp at hn; omega)]
      rfl
    | cons hfield' hrest =>
      rw [intercalate_cons_cons, length_append, length_append] at hn
      rw [intercalate_cons_cons, append_assoc, append_assoc, singleton_append,
        cons_append, append_assoc, members]
      change (chars (name ++ 34 :: 58 :: (text ++ 44 :: _)) >>= _) = _
      rw [hkey]
      change (value n _ >>= _) = _
      rw [hv.reads n _ (by simp at hn; omega)]
      change (members n _ >>= _) = _
      rw [ih (cons_ne_nil _ _) n rest (by simp at hn; omega)]
      rfl

theorem parses_object (h : List.Forall₂ Member texts fields) :
    Parses (123 :: ([44].intercalate texts ++ [125])) (.object fields) where
  reads n rest hn := by
    obtain _ | n := n
    · simp at hn
    rw [cons_append, append_assoc, value]
    cases h with
    | nil => rfl
    | @cons text field texts fields hfield hrest =>
      have hread := members_intercalate (.cons hfield hrest) (cons_ne_nil _ _) n rest
        (by simp only [length_cons, length_append, length_nil] at hn; omega)
      cases hfield
      rw [intercalate_cons, cons_append] at hread ⊢
      rw [singleton_append]
      change (members n _ >>= _) = _
      rw [hread]
      rfl
  starts := ⟨123, _, rfl, .inr (.inr rfl)⟩

theorem Parses.accepts {v : Value} (h : Parses text v) (hutf8 : IsUtf8 text) : Accepts text v := by
  refine ⟨hutf8, ?_⟩
  have hread := h.reads (text.length + 1) [] (Nat.le_succ _)
  rw [append_nil] at hread
  rw [parse, hread]
  rfl

end Json
