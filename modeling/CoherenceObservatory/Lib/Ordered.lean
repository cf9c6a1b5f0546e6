import Mathlib

/-!
# Tables in order of entry

A list used as a table: a record takes the place of the one with its key, or goes to the end.
Such a table lists the keys in the order in which they first came, each with the record that
came last.
-/

namespace Ordered

open List Option

variable {α κ : Type} [DecidableEq κ] (key : α → κ)

/-- Enters a record. -/
def enter (x : α) : List α → List α
  | [] => [x]
  | y :: l => if key y = key x then x :: l else y :: enter x l

/-- The record that came last under a key. -/
def latest (k : κ) (l : List α) : Option α := l.reverse.find? fun x => key x = k

variable {key}

theorem latest_append_singleton (k : κ) (l : List α) (x : α) :
    latest key k (l ++ [x]) = if key x = k then some x else latest key k l := by
  rw [latest, reverse_append, reverse_singleton, singleton_append, find?_cons]
  split <;> simp_all [latest]

theorem key_of_latest {k : κ} {l : List α} {x : α} (h : latest key k l = some x) : key x = k := by
  simpa using find?_some h

theorem exists_latest {l : List α} {x : α} (h : x ∈ l) : ∃ y, latest key (key x) l = some y := by
  rw [← isSome_iff_exists, latest, find?_isSome]
  exact ⟨x, mem_reverse.2 h, by simp⟩

/-- A search by keys finds the same key, unless it finds nothing but the new record. -/
theorem find?_enter (P : κ → Bool) (x : α) (l : List α) :
    (enter key x l).find? (fun y => P (key y)) =
      ((l.find? fun y => P (key y)).map fun y => if key y = key x then x else y).or
        (if P (key x) then some x else none) := by
  induction l with
  | nil =>
    rw [enter, find?_singleton]
    rfl
  | cons y l ih =>
    rw [enter]
    by_cases hkey : key y = key x
    · rw [if_pos hkey, find?_cons, find?_cons, hkey]
      cases hP : P (key x) with
      | true => simp [hkey]
      | false =>
        -- what is found further on has another key
        cases hfound : l.find? fun y => P (key y) with
        | none => simp
        | some z =>
          have hz := find?_some hfound
          have hne : key z ≠ key x := fun heq => by simp [heq, hP] at hz
          simp [hne]
    · rw [if_neg hkey, find?_cons, find?_cons]
      cases hP : P (key y) with
      | true => simp [hkey]
      | false => exact ih

/-- A search by keys in what was entered finds the key that came first, with the record that
came last under it. -/
theorem find?_foldl_enter (P : κ → Bool) (l : List α) :
    (l.foldl (fun table x => enter key x table) []).find? (fun y => P (key y)) =
      (l.find? fun y => P (key y)).bind fun y => latest key (key y) l := by
  induction l using List.reverseRecOn with
  | nil => rfl
  | append_singleton l x ih =>
    rw [foldl_append, foldl_cons, foldl_nil, find?_enter, ih, find?_append]
    simp only [latest_append_singleton]
    cases hfound : l.find? fun y => P (key y) with
    | none =>
      rw [bind_none, map_none, none_or, none_or, find?_singleton]
      cases P (key x) <;> simp
    | some y =>
      obtain ⟨z, hz⟩ : ∃ z, latest key (key y) l = some z :=
        exists_latest (mem_of_find?_eq_some hfound)
      rw [some_or, bind_some, bind_some, hz, map_some, some_or,
        key_of_latest hz]
      by_cases hkey : key x = key y
      · rw [if_pos hkey, if_pos hkey.symm]
      · rw [if_neg hkey, if_neg (Ne.symm hkey)]

end Ordered
