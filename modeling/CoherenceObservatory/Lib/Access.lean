import Mathlib

/-!
# Accesses to a byte string

A computation that may fail, together with the slices of its input it looks at. Reading code
is written twice, once as it computes and once naming the offsets it reads at; the second
version has the outcome of the first (`Logged.outcome`, a homomorphism) and lists its accesses,
of which `Within` says that they stay inside the input. `Safe` adds what a failure and a result
satisfy.
-/

namespace Access

/-- `length` bytes from `offset` on. -/
structure Slice where
  offset : Nat
  length : Nat
  deriving DecidableEq

/-- An outcome and the slices looked at on the way to it, failing or not. -/
structure Logged (ε α : Type) where
  outcome : Except ε α
  slices : List Slice

namespace Logged

variable {ε α β : Type}

protected def bind (x : Logged ε α) (f : α → Logged ε β) : Logged ε β :=
  match x.outcome with
  | .ok a => { f a with slices := x.slices ++ (f a).slices }
  | .error e => ⟨.error e, x.slices⟩

instance : Monad (Logged ε) where
  pure a := ⟨.ok a, []⟩
  bind := Logged.bind

/-- A computation that looks at nothing. -/
def lift (x : Except ε α) : Logged ε α := ⟨x, []⟩

/-- `length` bytes of the data from `offset` on. -/
def read (data : List UInt8) (offset length : Nat) : Logged ε (List UInt8) :=
  ⟨.ok ((data.drop offset).take length), [⟨offset, length⟩]⟩

/-- The same with an error of another kind. -/
def mapError {ε' : Type} (x : Logged ε α) (f : ε → ε') : Logged ε' α :=
  ⟨x.outcome.mapError f, x.slices⟩

@[simp] theorem outcome_pure (a : α) : (pure a : Logged ε α).outcome = .ok a := rfl

@[simp] theorem outcome_lift (x : Except ε α) : (lift x).outcome = x := rfl

@[simp] theorem outcome_read (data : List UInt8) (offset length : Nat) :
    (read data offset length : Logged ε (List UInt8)).outcome =
      .ok ((data.drop offset).take length) := rfl

@[simp] theorem outcome_bind (x : Logged ε α) (f : α → Logged ε β) :
    (x >>= f).outcome = x.outcome >>= fun a => (f a).outcome := by
  obtain ⟨outcome, slices⟩ := x
  cases outcome <;> rfl

end Logged

/-- Every slice looked at lies inside an input of the given size. -/
def Within {ε α : Type} (size : Nat) (x : Logged ε α) : Prop :=
  ∀ s ∈ x.slices, s.offset + s.length ≤ size

namespace Within

variable {ε α β : Type} {size : Nat}

theorem pure (a : α) : Within size (Pure.pure a : Logged ε α) := fun _ h => absurd h List.not_mem_nil

theorem lift (x : Except ε α) : Within size (Logged.lift x) := fun _ h => absurd h List.not_mem_nil

theorem read {data : List UInt8} {offset length : Nat} (h : offset + length ≤ data.length) :
    Within data.length (Logged.read data offset length : Logged ε (List UInt8)) := by
  intro s hs
  rwa [List.mem_singleton.1 hs]

/-- What follows may use what the first part has found out. -/
theorem bind {x : Logged ε α} {f : α → Logged ε β} (h : Within size x)
    (h' : ∀ a, x.outcome = .ok a → Within size (f a)) : Within size (x >>= f) := by
  intro s hs
  obtain ⟨outcome, slices⟩ := x
  cases outcome with
  | error e => exact h s hs
  | ok a =>
    rcases List.mem_append.1 hs with hs | hs
    · exact h s hs
    · exact h' a rfl s hs

end Within

/-- Every slice looked at lies inside an input of the given size, a failure satisfies `E` and a
result `Q`. -/
structure Safe {ε α : Type} (size : Nat) (x : Logged ε α) (E : ε → Prop) (Q : α → Prop) : Prop where
  within : Within size x
  fails : ∀ {e}, x.outcome = .error e → E e
  returns : ∀ {a}, x.outcome = .ok a → Q a

namespace Safe

variable {ε ε' α β : Type} {size : Nat} {E : ε → Prop} {P : α → Prop} {Q : β → Prop}

theorem pure {b : β} (h : Q b) : Safe size (Pure.pure b : Logged ε β) E Q where
  within := .pure b
  fails := nofun
  returns hb := Except.ok.inj hb ▸ h

theorem read {data : List UInt8} {offset length : Nat} (h : offset + length ≤ data.length) :
    Safe data.length (Logged.read data offset length : Logged ε (List UInt8)) E
      (· = (data.drop offset).take length) where
  within := .read h
  fails := nofun
  returns hb := (Except.ok.inj hb).symm

/-- What follows may use what the first part has returned. -/
theorem bind {x : Logged ε α} {f : α → Logged ε β} (h : Safe size x E P)
    (h' : ∀ a, P a → Safe size (f a) E Q) : Safe size (x >>= f) E Q := by
  have hwithin := h.within.bind fun a ha => (h' a (h.returns ha)).within
  obtain ⟨outcome, slices⟩ := x
  cases outcome with
  | error e => exact ⟨hwithin, fun he => Except.error.inj he ▸ h.fails rfl, nofun⟩
  | ok a =>
    have hf := h' a (h.returns rfl)
    exact ⟨hwithin, hf.fails, hf.returns⟩

theorem mono {E' : ε → Prop} {P' : α → Prop} {x : Logged ε α} (h : Safe size x E P)
    (hE : ∀ e, E e → E' e) (hP : ∀ a, P a → P' a) : Safe size x E' P' :=
  ⟨h.within, fun he => hE _ (h.fails he), fun ha => hP _ (h.returns ha)⟩

theorem mapError {E' : ε' → Prop} {f : ε → ε'} {x : Logged ε α} (h : Safe size x E P)
    (hf : ∀ e, E e → E' (f e)) : Safe size (x.mapError f) E' P := by
  obtain ⟨outcome, slices⟩ := x
  cases outcome with
  | error e => exact ⟨h.within, fun he => Except.error.inj he ▸ hf e (h.fails rfl), nofun⟩
  | ok a => exact ⟨h.within, nofun, fun ha => Except.ok.inj ha ▸ h.returns rfl⟩

end Safe

end Access
