import Mathlib

/-!
# Byte codecs

Readers that move a cursor over a byte string, and the byte strings they accept.
A reader returns a value or an error together with the cursor it stopped at, so a
failing reader keeps the bytes it consumed before failing.
-/

namespace Codec

open List

/-! ## Little-endian numbers -/

/-- The `width` low bytes of `n`, least significant first. -/
def toLE : (width n : Nat) → List UInt8
  | 0, _ => []
  | width + 1, n => UInt8.ofNat n :: toLE width (n / 256)

/-- The number with the given little-endian bytes. -/
def ofLE : List UInt8 → Nat
  | [] => 0
  | b :: bytes => b.toNat + 256 * ofLE bytes

@[simp] theorem length_toLE (width n : Nat) : (toLE width n).length = width := by
  induction width generalizing n with
  | zero => rfl
  | succ width ih => simp [toLE, ih]

theorem ofLE_toLE (width n : Nat) : ofLE (toLE width n) = n % 256 ^ width := by
  induction width generalizing n with
  | zero => simp [toLE, ofLE, Nat.mod_one]
  | succ width ih =>
    rw [toLE, ofLE, ih, UInt8.toNat_ofNat', pow_succ' 256, Nat.mod_mul]

theorem ofLE_lt (bytes : List UInt8) : ofLE bytes < 256 ^ bytes.length := by
  induction bytes with
  | nil => simp [ofLE]
  | cons b bytes ih =>
    have hb : b.toNat < 256 := b.toNat_lt
    rw [ofLE, length_cons, pow_succ']
    omega

/-- A number written back gives its bytes. -/
theorem toLE_ofLE (bytes : List UInt8) : toLE bytes.length (ofLE bytes) = bytes := by
  induction bytes with
  | nil => rfl
  | cons b bytes ih =>
    have hb : b.toNat < 256 := b.toNat_lt
    have hhead : UInt8.ofNat (b.toNat + 256 * ofLE bytes) = b := by
      rw [← UInt8.toNat_inj, UInt8.toNat_ofNat']
      omega
    have htail : (b.toNat + 256 * ofLE bytes) / 256 = ofLE bytes := by omega
    rw [length_cons, ofLE, toLE, hhead, htail, ih]

/-! ## Readers -/

/-- A read position in a byte string. -/
structure Cursor where
  data : List UInt8
  position : Nat

namespace Cursor

/-- The bytes not read yet. -/
def rest (c : Cursor) : List UInt8 := c.data.drop c.position

/-- The cursor `n` bytes further on. -/
def advance (c : Cursor) (n : Nat) : Cursor := { c with position := c.position + n }

/-- All bytes have been read. -/
def exhausted (c : Cursor) : Bool := c.rest.isEmpty

@[simp] theorem advance_position (c : Cursor) (n : Nat) :
    (c.advance n).position = c.position + n := rfl

theorem advance_advance (c : Cursor) (m n : Nat) : (c.advance m).advance n = c.advance (m + n) := by
  simp [advance, Nat.add_assoc]

theorem rest_advance (c : Cursor) (n : Nat) : (c.advance n).rest = c.rest.drop n := by
  simp [rest, advance, Nat.add_comm]

end Cursor

/-- A computation that reads at a cursor and may fail with an `ε`. -/
def Reader (ε α : Type) : Type := Cursor → Except ε α × Cursor

namespace Reader

variable {ε α β σ : Type}

protected def pure (x : α) : Reader ε α := fun c => (.ok x, c)

protected def bind (r : Reader ε α) (f : α → Reader ε β) : Reader ε β := fun c =>
  match r c with
  | (.ok x, c') => f x c'
  | (.error e, c') => (.error e, c')

instance : Monad (Reader ε) where
  pure := Reader.pure
  bind := Reader.bind

/-- Stops with an error. -/
def fail (e : ε) : Reader ε α := fun c => (.error e, c)

/-- Stops with an error when the condition holds. -/
def failIf (p : Prop) [Decidable p] (e : ε) : Reader ε Unit := if p then fail e else pure ()

/-- A value computed without reading. -/
def lift : Except ε α → Reader ε α
  | .ok x => pure x
  | .error e => fail e

/-- The next `n` bytes, or the error `e` when fewer are left. -/
def take (e : ε) (n : Nat) : Reader ε (List UInt8) := fun c =>
  if c.rest.length < n then (.error e, c) else (.ok (c.rest.take n), c.advance n)

/-- Fails unless every byte has been read. -/
def requireExhausted (e : Cursor → ε) : Reader ε Unit := fun c =>
  if c.exhausted then (.ok (), c) else (.error (e c), c)

/-- Runs `f` from a state `n` times. -/
def iterate (f : σ → Reader ε σ) : Nat → σ → Reader ε σ
  | 0, s => pure s
  | n + 1, s => f s >>= iterate f n

/-- The state a loop has reached when it stops, at its end or where `f` fails. -/
def reached (f : σ → Reader ε σ) : Nat → σ → Cursor → σ
  | 0, s, _ => s
  | n + 1, s, c =>
    match f s c with
    | (.ok s', c') => reached f n s' c'
    | (.error _, _) => s

/-- `n` values in a row. -/
def many (r : Reader ε α) : Nat → Reader ε (List α)
  | 0 => pure []
  | n + 1 => r >>= fun x => many r n >>= fun l => pure (x :: l)

/-- The outcome on a whole byte string. -/
def run (r : Reader ε α) (data : List UInt8) : Except ε α := (r ⟨data, 0⟩).1

theorem pure_apply (x : α) (c : Cursor) : (pure x : Reader ε α) c = (.ok x, c) := rfl

theorem bind_apply (r : Reader ε α) (f : α → Reader ε β) (c : Cursor) :
    (r >>= f) c = match r c with
      | (.ok x, c') => f x c'
      | (.error e, c') => (.error e, c') := rfl

/-- A bind that succeeds is two successes in a row. -/
theorem bind_eq_ok {r : Reader ε α} {f : α → Reader ε β} {c c'' : Cursor} {y : β}
    (h : (r >>= f) c = (.ok y, c'')) : ∃ x c', r c = (.ok x, c') ∧ f x c' = (.ok y, c'') := by
  rw [bind_apply] at h
  split at h
  · next x c' hr => exact ⟨x, c', hr, h⟩
  · simp at h

end Reader

variable {ε α β σ : Type}

/-! ## What a reader accepts -/

/-- In front of any suffix, `r` consumes exactly `bytes` and returns `x`. -/
def Decodes (r : Reader ε α) (bytes : List UInt8) (x : α) : Prop :=
  ∀ (c : Cursor) (rest : List UInt8), c.rest = bytes ++ rest →
    r c = (.ok x, c.advance bytes.length)

namespace Decodes

variable {r : Reader ε α} {f : α → Reader ε β} {bytes : List UInt8} {x : α} {y : β} {p : Prop}
  {e : ε}

theorem pure (x : α) : Decodes (Pure.pure x : Reader ε α) [] x := fun _ _ _ => rfl

theorem bind {bytes' : List UInt8} (h : Decodes r bytes x) (h' : Decodes (f x) bytes' y) :
    Decodes (r >>= f) (bytes ++ bytes') y := by
  intro c rest hc
  have hr : r c = (.ok x, c.advance bytes.length) := h c (bytes' ++ rest) (by simp [hc])
  have hrest : (c.advance bytes.length).rest = bytes' ++ rest := by
    rw [Cursor.rest_advance, hc, append_assoc, drop_left]
  rw [Reader.bind_apply, hr]
  simp only [h' _ rest hrest, Cursor.advance_advance, length_append]

/-- A reader that only checks something leaves the bytes to what follows. -/
theorem seq (h : Decodes r [] x) (h' : Decodes (f x) bytes y) : Decodes (r >>= f) bytes y :=
  h.bind h'

/-- After the last bytes only checks follow. -/
theorem last (h : Decodes r bytes x) (h' : Decodes (f x) [] y) : Decodes (r >>= f) bytes y := by
  simpa using h.bind h'

/-- A value computed from what was read. -/
theorem ret {f : α → β} (h : Decodes r bytes x) (hy : f x = y) :
    Decodes (r >>= fun x => Pure.pure (f x)) bytes y := by
  subst hy
  exact h.last (.pure (f x))

theorem failIf [Decidable p] (hp : ¬p) : Decodes (Reader.failIf p e) [] () := by
  rw [Reader.failIf, if_neg hp]
  exact .pure ()

theorem lift {x : Except ε α} {y : α} (h : x = .ok y) : Decodes (Reader.lift x) [] y := by
  subst h
  exact .pure y

theorem take {n : Nat} (h : bytes.length = n) : Decodes (Reader.take e n) bytes bytes := by
  intro c rest hc
  rw [Reader.take, if_neg (by simp [hc, h]), hc, ← h, take_left]

end Decodes

/-- A field that is read whatever its value is: `r` undoes `write`. -/
class Fixed (r : Reader ε α) (write : outParam (α → List UInt8)) : Prop where
  decodes : ∀ x, Decodes r (write x) x

/-! ## What decides whether a reader accepts -/

/-- In front of any suffix, `r` takes `bytes` as `x` if `p` holds, and takes nothing
otherwise. -/
structure Reads (r : Reader ε α) (bytes : List UInt8) (x : α) (p : Prop) : Prop where
  decodes : p → Decodes r bytes x
  only : ∀ {c c' : Cursor} {rest : List UInt8} {y : α}, c.rest = bytes ++ rest →
    r c = (.ok y, c') → p

theorem Decodes.reads {r : Reader ε α} {bytes : List UInt8} {x : α} (h : Decodes r bytes x) :
    Reads r bytes x True where
  decodes _ := h
  only _ _ := True.intro

namespace Reads

variable {r : Reader ε α} {f : α → Reader ε β} {bytes bytes' : List UInt8} {x : α} {y : β}
  {p q : Prop}

theorem iff (h : Reads r bytes x p) (hpq : p ↔ q) : Reads r bytes x q := by rwa [← hpq]

theorem pure (x : α) : Reads (Pure.pure x : Reader ε α) [] x True := (Decodes.pure x).reads

theorem bind (h : Reads r bytes x p) (h' : Reads (f x) bytes' y q) :
    Reads (r >>= f) (bytes ++ bytes') y (p ∧ q) where
  decodes hpq := (h.decodes hpq.1).bind (h'.decodes hpq.2)
  only {c c'' rest z} hc hz := by
    obtain ⟨x', c', hx, hf⟩ := Reader.bind_eq_ok hz
    rw [append_assoc] at hc
    have hp := h.only hc hx
    obtain ⟨hx', rfl⟩ := Prod.mk.inj ((h.decodes hp c _ hc).symm.trans hx)
    obtain rfl := Except.ok.inj hx'
    have hrest : (c.advance bytes.length).rest = bytes' ++ rest := by
      rw [Cursor.rest_advance, hc, drop_left]
    exact ⟨hp, h'.only hrest hf⟩

/-- A field that is always read. -/
theorem field (h : Decodes r bytes x) (h' : Reads (f x) bytes' y q) :
    Reads (r >>= f) (bytes ++ bytes') y q := (h.reads.bind h').iff (iff_of_eq (true_and q))

theorem next {write : α → List UInt8} [Fixed r write]
    (h' : Reads (f x) bytes' y q) : Reads (r >>= f) (write x ++ bytes') y q :=
  field (Fixed.decodes x) h'

/-- After the last field only checks follow. -/
theorem last (h : Decodes r bytes x) (h' : Reads (f x) [] y q) :
    Reads (r >>= f) bytes y q := by simpa using field h h'

/-- A value computed without reading. -/
theorem seq (h : Decodes r [] x) (h' : Reads (f x) bytes y q) :
    Reads (r >>= f) bytes y q := field h h'

/-- A value computed from what was read. -/
theorem ret {f : α → β} (h : Reads r bytes x p) (hy : f x = y) :
    Reads (r >>= fun x => Pure.pure (f x)) bytes y p := by
  subst hy
  have := h.bind (f := fun x => Pure.pure (f x)) (.pure (f x))
  simpa using this

theorem failIf {p : Prop} [Decidable p] {e : ε} : Reads (Reader.failIf p e) [] () ¬p where
  decodes hp := .failIf hp
  only _ h hp := by simp [Reader.failIf, hp, Reader.fail] at h

/-- A check that decides. -/
theorem check {p : Prop} [Decidable p] {e : ε} {f : Unit → Reader ε β}
    (h : Reads (f ()) bytes y q) : Reads (Reader.failIf p e >>= f) bytes y (¬p ∧ q) :=
  failIf.bind h

theorem lift {v : Except ε α} (h : ∀ z, v = .ok z → x = z) :
    Reads (Reader.lift v) [] x (v = .ok x) where
  decodes := .lift
  only {c c' _ z} _ hz := by
    cases v with
    | error e => simp [Reader.lift, Reader.fail] at hz
    | ok z' => rw [h z' rfl]

/-- A loop that reads one record per round. `Inv` relates the state to the
records still to come; `g` is what one round does to the state. -/
theorem iterate {f : σ → Reader ε σ} {g : σ → α → σ} {encode : α → List UInt8} {P : α → Prop}
    (Inv : σ → List α → Prop)
    (step : ∀ s x l, Inv s (x :: l) → Reads (f s) (encode x) (g s x) (P x) ∧ Inv (g s x) l) :
    ∀ (l : List α) (s : σ), Inv s l →
      Reads (Reader.iterate f l.length s) (l.flatMap encode) (l.foldl g s) (∀ x ∈ l, P x)
  | [], s, _ => (pure s).iff (by simp)
  | x :: l, s, h => by
    obtain ⟨hx, hl⟩ := step s x l h
    exact (hx.bind (iterate Inv step l _ hl)).iff forall_mem_cons.symm

/-- A list is read element by element, each as `g` of what was written. -/
theorem many {r : Reader ε β} {encode : α → List UInt8} {g : α → β} {P : α → Prop} :
    ∀ {l : List α}, (∀ x ∈ l, Reads r (encode x) (g x) (P x)) →
      Reads (Reader.many r l.length) (l.flatMap encode) (l.map g) (∀ x ∈ l, P x)
  | [], _ => (pure []).iff (by simp)
  | _ :: _, h => by
    obtain ⟨hx, hl⟩ := forall_mem_cons.1 h
    exact (hx.bind ((many hl).ret rfl)).iff forall_mem_cons.symm

end Reads

/-! ## Readers of a whole input -/

/-- With exactly `bytes` left to read, `r` returns `x` if `p` holds, and fails otherwise. -/
def Settles (r : Reader ε α) (bytes : List UInt8) (x : α) (p : Prop) : Prop :=
  ∀ c : Cursor, c.rest = bytes → ∀ y, (r c).1 = .ok y ↔ p ∧ x = y

namespace Settles

variable {r : Reader ε α} {f : α → Reader ε β} {bytes bytes' : List UInt8} {x : α} {y : β}
  {p q : Prop}

theorem iff (h : Settles r bytes x p) (hpq : p ↔ q) : Settles r bytes x q := by rwa [← hpq]

theorem bind (h : Reads r bytes x p) (h' : Settles (f x) bytes' y q) :
    Settles (r >>= f) (bytes ++ bytes') y (p ∧ q) := by
  intro c hc z
  rw [Reader.bind_apply]
  by_cases hp : p
  · rw [h.decodes hp c bytes' hc]
    have hrest : (c.advance bytes.length).rest = bytes' := by
      rw [Cursor.rest_advance, hc, drop_left]
    simpa [hp] using h' _ hrest z
  · split
    next x' c' hx => exact absurd (h.only hc hx) hp
    next => simp [hp]

theorem field (h : Decodes r bytes x) (h' : Settles (f x) bytes' y q) :
    Settles (r >>= f) (bytes ++ bytes') y q := (bind h.reads h').iff (iff_of_eq (true_and q))

theorem next {write : α → List UInt8} [Fixed r write]
    (h' : Settles (f x) bytes' y q) : Settles (r >>= f) (write x ++ bytes') y q :=
  field (Fixed.decodes x) h'

/-- After the last record nothing can fail. -/
theorem last (h : Reads r bytes x p) (h' : Settles (f x) [] y True) :
    Settles (r >>= f) bytes y p := by simpa using bind h h'

/-- After the last field only checks follow. -/
theorem lastField (h : Decodes r bytes x) (h' : Settles (f x) [] y q) :
    Settles (r >>= f) bytes y q := by simpa using field h h'

/-- A check that decides. -/
theorem check {p : Prop} [Decidable p] {e : ε} {f : Unit → Reader ε β}
    (h : Settles (f ()) bytes y q) : Settles (Reader.failIf p e >>= f) bytes y (¬p ∧ q) :=
  bind .failIf h

/-- The check that nothing is left, at the end. -/
theorem exhausted {e : Cursor → ε} {y : α} :
    Settles (Reader.requireExhausted e >>= fun _ => Pure.pure y) [] y True := by
  intro c hc z
  simp [Reader.bind_apply, Reader.requireExhausted, Cursor.exhausted, hc, Reader.pure_apply]

theorem run (h : Settles r bytes x p) {y : α} : r.run bytes = .ok y ↔ p ∧ x = y :=
  h ⟨bytes, 0⟩ rfl y

end Settles

/-! ## Writers that may fail -/

/-- What a writer has appended when it stops, and how it stopped. -/
abbrev Written (ε : Type) : Type := List UInt8 × Except ε Unit

/-- Writers in a row. The first that fails ends the row, behind what it appended. -/
def Written.all : List (Written ε) → Written ε
  | [] => ([], .ok ())
  | (bytes, .error e) :: _ => (bytes, .error e)
  | (bytes, .ok ()) :: ws => (bytes ++ (all ws).1, (all ws).2)

/-- The writer goes through, and `r` takes what it wrote as `x`. -/
structure Carries (w : Written ε) (r : Reader ε α) (x : α) : Prop where
  ok : w.2 = .ok ()
  decodes : Decodes r w.1 x

namespace Carries

variable {w : Written ε} {ws : List (Written ε)} {r : Reader ε α} {f : α → Reader ε β} {x : α}
  {y : β}

/-- A writer that cannot fail. -/
theorem always {bytes : List UInt8} (h : Decodes r bytes x) : Carries (bytes, .ok ()) r x :=
  ⟨rfl, h⟩

theorem nil (x : α) : Carries (.all []) (Pure.pure x : Reader ε α) x := .always (.pure x)

theorem cons (h : Carries w r x) (h' : Carries (.all ws) (f x) y) :
    Carries (.all (w :: ws)) (r >>= f) y := by
  obtain ⟨bytes, status⟩ := w
  obtain rfl : status = .ok () := h.ok
  exact ⟨h'.ok, h.decodes.bind h'.decodes⟩

/-- A reader that only checks something leaves the writers to what follows. -/
theorem seq (h : Decodes r [] x) (h' : Carries w (f x) y) :
    Carries w (r >>= f) y := ⟨h'.ok, h.seq h'.decodes⟩

/-- After a writer only checks follow. -/
theorem last (h : Carries w r x) (h' : Decodes (f x) [] y) :
    Carries w (r >>= f) y := ⟨h.ok, h.decodes.last h'⟩

/-- A list is read element by element. -/
theorem many {write : α → Written ε} :
    ∀ {l : List α}, (∀ x ∈ l, Carries (write x) r x) →
      Carries (.all (l.map write)) (Reader.many r l.length) l
  | [], _ => .nil []
  | x :: l, h => by
    obtain ⟨hx, hl⟩ := forall_mem_cons.1 h
    exact hx.cons ((many hl).last (.pure (x :: l)))

end Carries

/-- The writer goes through, and `r` takes what it wrote as `x` if `p` holds, and takes nothing
otherwise. -/
structure Conveys (w : Written ε) (r : Reader ε α) (x : α) (p : Prop) : Prop where
  ok : w.2 = .ok ()
  reads : Reads r w.1 x p

theorem Carries.conveys {w : Written ε} {r : Reader ε α} {x : α} (h : Carries w r x) :
    Conveys w r x True := ⟨h.ok, h.decodes.reads⟩

namespace Conveys

variable {w : Written ε} {ws : List (Written ε)} {r : Reader ε α} {f : α → Reader ε β} {x : α}
  {y : β} {p q : Prop}

theorem iff (h : Conveys w r x p) (hpq : p ↔ q) : Conveys w r x q := ⟨h.ok, h.reads.iff hpq⟩

theorem nil (x : α) : Conveys (.all []) (Pure.pure x : Reader ε α) x True :=
  (Carries.nil x).conveys

/-- A reader that only checks something leaves the writers to what follows. -/
theorem seq (h : Decodes r [] x) (h' : Conveys w (f x) y q) :
    Conveys w (r >>= f) y q := ⟨h'.ok, .seq h h'.reads⟩

/-- A field on which it depends whether the reader accepts. -/
theorem cons (h : Conveys w r x p) (h' : Conveys (.all ws) (f x) y q) :
    Conveys (.all (w :: ws)) (r >>= f) y (p ∧ q) := by
  obtain ⟨bytes, status⟩ := w
  obtain rfl : status = .ok () := h.ok
  exact ⟨h'.ok, h.reads.bind h'.reads⟩

/-- A field that is always read. -/
theorem field (h : Carries w r x) (h' : Conveys (.all ws) (f x) y q) :
    Conveys (.all (w :: ws)) (r >>= f) y q := (cons h.conveys h').iff (iff_of_eq (true_and q))

end Conveys

/-! ## What a reader promises -/

/-- Every value `r` returns satisfies `P`. -/
def Ensures (r : Reader ε α) (P : α → Prop) : Prop :=
  ∀ c x c', r c = (.ok x, c') → P x

namespace Ensures

variable {r : Reader ε α} {f : α → Reader ε β} {P : α → Prop} {Q : β → Prop} {x : α} {p : Prop}
  {e : ε}

theorem pure (h : P x) : Ensures (Pure.pure x : Reader ε α) P := by
  intro c y c' hy
  obtain rfl : x = y := by simpa [Reader.pure_apply] using congrArg Prod.fst hy
  exact h

theorem bind (h : Ensures r P) (h' : ∀ x, P x → Ensures (f x) Q) : Ensures (r >>= f) Q := by
  intro c y c'' hy
  obtain ⟨x, c', hx, hf⟩ := Reader.bind_eq_ok hy
  exact h' x (h c x c' hx) c' y c'' hf

theorem trivial (r : Reader ε α) : Ensures r fun _ => True := fun _ _ _ _ => True.intro

/-- What follows a reader about which nothing needs to be known. -/
theorem skip (h : ∀ x, Ensures (f x) Q) : Ensures (r >>= f) Q :=
  (trivial r).bind fun x _ => h x

theorem mono {Q : α → Prop} (h : Ensures r P) (hPQ : ∀ x, P x → Q x) :
    Ensures r Q := fun c x c' hx => hPQ x (h c x c' hx)

theorem failIf [Decidable p] : Ensures (Reader.failIf p e) fun _ => ¬p := by
  intro c x c' h hp
  simp [Reader.failIf, hp, Reader.fail] at h

/-- After a check, what follows may use that the check passed. -/
theorem guard [Decidable p] {f : Unit → Reader ε β} (h : ¬p → Ensures (f ()) Q) :
    Ensures (Reader.failIf p e >>= f) Q :=
  failIf.bind fun _ hp => h hp

theorem lift {x : Except ε α} : Ensures (Reader.lift x) fun y => x = .ok y := by
  intro c y c' h
  cases x with
  | ok z => simpa [Reader.lift, Reader.pure_apply] using congrArg Prod.fst h
  | error e => simp [Reader.lift, Reader.fail] at h

theorem take {n : Nat} : Ensures (Reader.take e n) fun bytes => bytes.length = n := by
  intro c x c' h
  rw [Reader.take] at h
  split at h
  · simp at h
  · next hn =>
    have hx : c.rest.take n = x := by simpa using congrArg Prod.fst h
    rw [← hx, length_take, Nat.min_eq_left (Nat.le_of_not_lt hn)]

theorem iterate {f : σ → Reader ε σ} {P : Nat → σ → Prop}
    (step : ∀ k s, P k s → Ensures (f s) (P (k + 1))) :
    ∀ (n k : Nat) (s : σ), P k s → Ensures (Reader.iterate f n s) (P (k + n))
  | 0, _, _, h => .pure h
  | n + 1, k, s, h => by
    refine (step k s h).bind fun s' h' => ?_
    have hn := iterate step n (k + 1) s' h'
    rwa [Nat.add_right_comm] at hn

theorem many (h : Ensures r P) :
    ∀ n, Ensures (Reader.many r n) fun l => l.length = n ∧ ∀ x ∈ l, P x
  | 0 => .pure (by simp)
  | n + 1 => h.bind fun x hx => (many h n).bind fun l hl =>
    .pure ⟨by simp [hl.1], forall_mem_cons.2 ⟨hx, hl.2⟩⟩

theorem run {data : List UInt8} (h : Ensures r P) (hx : r.run data = .ok x) : P x :=
  h ⟨data, 0⟩ x (r ⟨data, 0⟩).2 (by rw [← hx]; rfl)

end Ensures

/-! ## How far a reader gets -/

/-- `r` goes forward inside the data, by at least `cost x` bytes when it returns `x`. -/
structure Moves (r : Reader ε α) (cost : α → Nat) : Prop where
  data_eq : ∀ c, (r c).2.data = c.data
  forward : ∀ c, c.position ≤ (r c).2.position
  inside : ∀ c, c.position ≤ c.data.length → (r c).2.position ≤ c.data.length
  pays : ∀ {c c' x}, r c = (.ok x, c') → c.position + cost x ≤ c'.position

/-- `r` goes forward inside the data. -/
abbrev Stays (r : Reader ε α) : Prop := Moves r fun _ => 0

/-- The readers that are known to go forward, by their parts. -/
class Steady (r : Reader ε α) : Prop where
  stays : Stays r

namespace Moves

variable {r : Reader ε α} {cost cost' : α → Nat} {f : α → Reader ε β} {total : β → Nat}

theorem mono (h : Moves r cost) (hcost : ∀ x, cost' x ≤ cost x) : Moves r cost' :=
  { h with pays := fun hx => (Nat.add_le_add_left (hcost _) _).trans (h.pays hx) }

theorem stays (h : Moves r cost) : Stays r := h.mono fun _ => Nat.zero_le _

/-- A reader that leaves the cursor where it is. -/
theorem still (h : ∀ c, (r c).2 = c) : Stays r where
  data_eq c := by rw [h]
  forward c := by rw [h]
  inside c hc := by rwa [h]
  pays {c c' x} hx := by
    have := h c
    rw [hx] at this
    rw [show c' = c from this, Nat.add_zero]

theorem pure {x : α} (h : cost x = 0) : Moves (Pure.pure x : Reader ε α) cost :=
  { still (r := Pure.pure x) fun _ => rfl with
    pays := fun hx => by
      obtain ⟨hok, hc⟩ := Prod.mk.inj hx
      obtain rfl := Except.ok.inj hok
      rw [h, ← hc, Nat.add_zero] }

theorem failIf {p : Prop} [Decidable p] {e : ε} : Stays (Reader.failIf p e) := still fun c => by
  rw [Reader.failIf]
  split <;> rfl

theorem lift (x : Except ε α) : Stays (Reader.lift x) := still fun c => by
  cases x <;> rfl

theorem requireExhausted {e : Cursor → ε} : Stays (Reader.requireExhausted e) := still fun c => by
  rw [Reader.requireExhausted]
  split <;> rfl

/-- The bytes taken are there. -/
theorem take (e : ε) (n : Nat) : Moves (Reader.take e n) fun _ => n where
  data_eq c := by
    rw [Reader.take]
    split <;> rfl
  forward c := by
    rw [Reader.take]
    split
    · exact Nat.le_refl _
    · exact Nat.le_add_right _ _
  inside c hc := by
    rw [Reader.take]
    split
    · exact hc
    · next hn =>
      rw [Cursor.rest, length_drop] at hn
      rw [Cursor.advance_position]
      omega
  pays {c c' x} hx := by
    rw [Reader.take] at hx
    split at hx
    · simp at hx
    · rw [← (Prod.mk.inj hx).2, Cursor.advance_position]

theorem bind (h : Moves r cost) (h' : ∀ x, Moves (f x) fun y => total y - cost x) :
    Moves (r >>= f) total where
  data_eq c := by
    have hr := h.data_eq c
    rw [Reader.bind_apply]
    split
    · next x c' hx =>
      rw [hx] at hr
      rw [(h' x).data_eq, hr]
    · next e c' hx => rwa [hx] at hr
  forward c := by
    have hr := h.forward c
    rw [Reader.bind_apply]
    split
    · next x c' hx =>
      rw [hx] at hr
      exact hr.trans ((h' x).forward c')
    · next e c' hx => rwa [hx] at hr
  inside c hc := by
    have hr := h.inside c hc
    have hdata := h.data_eq c
    rw [Reader.bind_apply]
    split
    · next x c' hx =>
      rw [hx] at hr hdata
      rw [← hdata] at hr ⊢
      exact (h' x).inside c' hr
    · next e c' hx => rwa [hx] at hr
  pays {c c'' y} hy := by
    obtain ⟨x, c', hx, hf⟩ := Reader.bind_eq_ok hy
    have hr := h.pays hx
    have hf := (h' x).pays hf
    omega

/-- The rest of a reader, after a part that need not be counted. -/
theorem skip (h : Moves r cost) (h' : ∀ x, Moves (f x) total) : Moves (r >>= f) total :=
  h.stays.bind h'

/-- A part that pays for all that follows. -/
theorem paid {n : Nat} (h : Moves r fun _ => n) (h' : ∀ x, Stays (f x)) :
    Moves (r >>= f) fun _ => n :=
  h.bind fun x => (h' x).mono fun _ => (Nat.sub_self n).le

/-- The first field of a record pays for it, and the rest stays inside. -/
theorem opens {n : Nat} [h' : ∀ x, Steady (f x)] (h : Moves r fun _ => n) :
    Moves (r >>= f) fun _ => n := h.paid fun x => (h' x).stays

/-- A value computed from what was read costs as much. -/
theorem ret {f : α → β} (h : Moves r cost) (hf : ∀ x, total (f x) ≤ cost x) :
    Moves (r >>= fun x => Pure.pure (f x)) total :=
  h.bind fun x => .pure (Nat.sub_eq_zero_of_le (hf x))

/-- A loop pays for what each of its rounds adds to the measure `size`. -/
theorem iterate {f : σ → Reader ε σ} (size : σ → Nat)
    (step : ∀ s, Moves (f s) fun s' => size s' - size s) :
    ∀ (n : Nat) (s : σ), Moves (Reader.iterate f n s) fun s' => size s' - size s
  | 0, s => .pure (Nat.sub_self (size s))
  | n + 1, s => (step s).bind fun s' => (iterate size step n s').mono fun s'' => by omega

/-- However a loop stops, what it has added to the measure is paid for. -/
theorem reached {f : σ → Reader ε σ} (size : σ → Nat)
    (step : ∀ s, Moves (f s) fun s' => size s' - size s) (n : Nat) (s : σ) {c : Cursor}
    (hc : c.position ≤ c.data.length) :
    size (Reader.reached f n s c) + c.position ≤ size s + c.data.length := by
  induction n generalizing s c with
  | zero => exact Nat.add_le_add_left hc _
  | succ n ih =>
    rw [Reader.reached]
    split
    next s' c' hs' =>
      have hdata := (step s).data_eq c
      have hinside := (step s).inside c hc
      have hpays := (step s).pays hs'
      rw [hs'] at hdata hinside
      dsimp only at hdata hinside
      rw [← hdata] at hinside ⊢
      have := ih s' hinside
      omega
    · exact Nat.add_le_add_left hc _

/-- Every element of a list is paid for. -/
theorem many (h : Moves r cost) :
    ∀ n, Moves (Reader.many r n) fun l => (l.map cost).sum
  | 0 => .pure rfl
  | n + 1 => by
    refine h.bind fun x => (many h n).ret fun l => ?_
    rw [map_cons, sum_cons, Nat.add_sub_cancel_left]

/-- A whole input is at least as long as the value read from it is costly. -/
theorem cost_le_length (h : Moves r cost) {data : List UInt8} {x : α}
    (hx : r.run data = .ok x) : cost x ≤ data.length := by
  have hread : r ⟨data, 0⟩ = (.ok x, (r ⟨data, 0⟩).2) := by
    rw [← hx]
    rfl
  have hpays := h.pays hread
  have hinside := h.inside ⟨data, 0⟩ (Nat.zero_le _)
  simp only at hpays hinside
  omega

end Moves

namespace Steady

variable {r : Reader ε α}

instance {x : α} : Steady (Pure.pure x : Reader ε α) := ⟨.pure rfl⟩

instance {p : Prop} [Decidable p] {e : ε} : Steady (Reader.failIf p e) := ⟨.failIf⟩

instance {x : Except ε α} : Steady (Reader.lift x) := ⟨.lift x⟩

instance {e : Cursor → ε} : Steady (Reader.requireExhausted e) := ⟨.requireExhausted⟩

instance [h : Steady r] {f : α → Reader ε β} [h' : ∀ x, Steady (f x)] : Steady (r >>= f) :=
  ⟨h.stays.bind fun x => (h' x).stays⟩

end Steady

end Codec
