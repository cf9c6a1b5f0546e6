import CoherenceObservatory.Observation

/-!
# Metadata in key order

Metadata is written in the order of its keys, whatever order its entries came in, and read back
entry by entry.
-/

namespace CoherenceObservatory

namespace BoundedMetadata

variable {m m' : BoundedMetadata}

theorem ext_entries (h : m.entries = m'.entries) : m = m' := by
  cases m
  cases m'
  simpa using h

theorem sortedEntries_perm (m : BoundedMetadata) : m.sortedEntries.Perm m.entries :=
  List.perm_insertionSort _ _

/-- The same entries in key order. -/
def sorted (m : BoundedMetadata) : BoundedMetadata where
  entries := m.sortedEntries
  length_le := m.sortedEntries_perm.length_eq.trans_le m.length_le
  nodup := (m.sortedEntries_perm.map Prod.fst).nodup_iff.2 m.nodup
  bounded e he := m.bounded e (m.sortedEntries_perm.mem_iff.1 he)

theorem sortedEntries_pairwise (m : BoundedMetadata) :
    m.sortedEntries.Pairwise fun a b => (compare a.1 b.1).isLE = true := by
  have : Std.Total fun a b : Text × Text => (compare a.1 b.1).isLE = true := ⟨fun a b => by
    have hswap : compare b.1 a.1 = (compare a.1 b.1).swap := Std.OrientedCmp.eq_swap
    rw [hswap]
    cases compare a.1 b.1 <;> simp⟩
  have : IsTrans (Text × Text) fun a b => (compare a.1 b.1).isLE = true :=
    ⟨fun a b c => Std.TransCmp.isLE_trans⟩
  exact List.pairwise_insertionSort _ _

@[simp] theorem sortedEntries_sorted (m : BoundedMetadata) :
    m.sorted.sortedEntries = m.sortedEntries :=
  m.sortedEntries_pairwise.insertionSort_eq

@[simp] theorem canonicalHash_sorted (m : BoundedMetadata) :
    m.sorted.canonicalHash = m.canonicalHash := by
  rw [canonicalHash, sortedEntries_sorted, canonicalHash]

/-- An entry of a metadata that still has room and does not know the key can be added. -/
theorem add_eq_ok {e : Text × Text} {l : List (Text × Text)} (h : m'.entries = m.entries ++ e :: l) :
    ∃ m₁, m.add e.1 e.2 = .ok m₁ ∧ m'.entries = m₁.entries ++ l := by
  obtain ⟨hkey, hlong, hvalue⟩ := m'.bounded e (by simp [h])
  have hlength := m'.length_le
  have hnodup := m'.nodup
  rw [h, List.length_append, List.length_cons] at hlength
  rw [h, List.map_append, List.map_cons] at hnodup
  have hnew : e.1 ∉ m.entries.map Prod.fst := fun hmem =>
    (List.nodup_append.1 hnodup).2.2 _ hmem _ List.mem_cons_self rfl
  rw [add, dif_neg hkey, dif_neg (Nat.not_lt.2 hlong), dif_neg (Nat.not_lt.2 hvalue),
    dif_neg (by omega), dif_neg hnew]
  exact ⟨_, rfl, by simp [h]⟩

end BoundedMetadata

end CoherenceObservatory
