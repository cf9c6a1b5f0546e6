import CoherenceObservatory.Analysis.Bursts
import CoherenceObservatory.Analysis.RemoteAccess

/-!
# Rows as a partition of the journal

Each entry the row analyses read is counted in exactly one row. The counts of a row are numbers
of the machine; within the limits of the journal none of them wraps, so that the rows add up to
the entries.
-/

namespace CoherenceObservatory

open Limits Grouping

open Std (ExtTreeMap)
open RemoteAccessRow

/-! ## The limits of the journal -/

section

variable {s : State} {l : List Observation}

theorem State.JournalBounded.length_lt (h : s.JournalBounded)
    (hl : l.Sublist (s.journal.map (·.observation))) : l.length < 2 ^ 64 := by
  have hlength := hl.length_le
  rw [List.length_map] at hlength
  exact (hlength.trans h.length_le).trans_lt (by decide)

/-- Part of a journal carries at most `2 ^ 14` times `2 ^ 48` bytes. -/
theorem State.JournalBounded.sum_bytes_lt (h : s.JournalBounded)
    (hl : l.Sublist (s.journal.map (·.observation))) :
    (l.map fun o => o.bytes.toNat).sum < 2 ^ 64 := by
  have hlength := hl.length_le
  rw [List.length_map] at hlength
  calc (l.map fun o => o.bytes.toNat).sum
    _ ≤ (l.map fun o => o.bytes.toNat).length • 2 ^ 48 := by
      refine List.sum_le_card_nsmul _ _ fun n hn => ?_
      obtain ⟨o, ho, rfl⟩ := List.mem_map.1 hn
      obtain ⟨e, he, rfl⟩ := List.mem_map.1 (hl.subset ho)
      exact UInt64.le_iff_toNat_le.1 (h.bytes_le e he)
    _ = l.length * 2 ^ 48 := by rw [List.length_map, smul_eq_mul]
    _ ≤ 2 ^ 14 * 2 ^ 48 := Nat.mul_le_mul_right _ (hlength.trans h.length_le)
    _ < 2 ^ 64 := by decide

end

/-! ## Counts of one row -/

theorem toNat_foldl_succ {α : Type} (p : α → Bool) (l : List α) (n : UInt64) :
    (l.foldl (fun n a => if p a then n + 1 else n) n).toNat =
      (n.toNat + l.countP p) % 2 ^ 64 := by
  have hstep : (fun (n : UInt64) a => if p a then n + 1 else n) =
      fun n a => n + if p a then 1 else 0 := by
    funext n a
    split
    · rfl
    · exact (UInt64.add_zero n).symm
  have hsum : (l.map fun a => (if p a then (1 : UInt64) else 0).toNat).sum = l.countP p := by
    induction l with
    | nil => rfl
    | cons a l ih =>
      rw [List.map_cons, List.sum_cons, ih, List.countP_cons, Nat.add_comm]
      split <;> rfl
  rw [hstep, toNat_foldl_add, hsum]

section

variable (l : List JournalEntry)

theorem accesses_foldl_add : (l.foldl add {}).accesses.toNat = l.length % 2 ^ 64 := by
  have hfold : (l.foldl add {}).accesses = l.foldl (fun n _ => n + 1) 0 :=
    (List.foldl_hom accesses fun _ _ => rfl).symm
  rw [hfold, toNat_foldl_add fun _ => 1]
  simp

theorem bytes_foldl_add : (l.foldl add {}).bytes.toNat =
    ((l.map (·.observation)).map fun o => o.bytes.toNat).sum % 2 ^ 64 := by
  have hfold : (l.foldl add {}).bytes =
      l.foldl (fun n entry => n + entry.observation.bytes) 0 :=
    (List.foldl_hom bytes fun _ _ => rfl).symm
  rw [hfold, toNat_foldl_add fun entry : JournalEntry => entry.observation.bytes,
    UInt64.toNat_zero, Nat.zero_add, List.map_map]
  rfl

theorem writeAccesses_foldl_add : (l.foldl add {}).writeAccesses.toNat =
    l.countP (·.observation.isRemoteWrite) % 2 ^ 64 := by
  have hfold : (l.foldl add {}).writeAccesses =
      l.foldl (fun n entry => if entry.observation.isRemoteWrite then n + 1 else n) 0 :=
    (List.foldl_hom writeAccesses fun _ _ => rfl).symm
  rw [hfold, toNat_foldl_succ fun entry : JournalEntry => entry.observation.isRemoteWrite,
    UInt64.toNat_zero, Nat.zero_add]

theorem readAccesses_foldl_add : (l.foldl add {}).readAccesses.toNat =
    l.countP (fun entry => ¬entry.observation.isRemoteWrite) % 2 ^ 64 := by
  have hfold : (l.foldl add {}).readAccesses = l.foldl
      (fun n entry => if decide (¬entry.observation.isRemoteWrite = true) then n + 1 else n) 0 := by
    refine (List.foldl_hom readAccesses fun row entry => ?_).symm
    rw [add]
    cases entry.observation.isRemoteWrite <;> rfl
  rw [hfold, toNat_foldl_succ fun entry : JournalEntry => decide
    (¬entry.observation.isRemoteWrite = true), UInt64.toNat_zero, Nat.zero_add]

end

section

variable (l : List Observation)

theorem individualEvents_foldl_add :
    (l.foldl InvalidationAccum.add {}).row.individualEvents.toNat = l.length % 2 ^ 64 := by
  have hfold : (l.foldl InvalidationAccum.add {}).row.individualEvents =
      l.foldl (fun n _ => n + 1) 0 :=
    (List.foldl_hom (fun accum : InvalidationAccum => accum.row.individualEvents)
      fun _ _ => rfl).symm
  rw [hfold, toNat_foldl_add fun _ => 1]
  simp

theorem bytesInvalidated_foldl_add :
    (l.foldl InvalidationAccum.add {}).row.bytesInvalidated.toNat =
      (l.map fun o => o.bytes.toNat).sum % 2 ^ 64 := by
  have hfold : (l.foldl InvalidationAccum.add {}).row.bytesInvalidated =
      l.foldl (fun n o => n + o.bytes) 0 :=
    (List.foldl_hom (fun accum : InvalidationAccum => accum.row.bytesInvalidated)
      fun _ _ => rfl).symm
  rw [hfold, toNat_foldl_add, UInt64.toNat_zero, Nat.zero_add]

end

/-! ## All rows -/

section

variable {s : State}

theorem sublist_remoteGroup (key : Text) :
    ((remoteGroup s key).map (·.observation)).Sublist (s.journal.map (·.observation)) :=
  (List.filter_sublist.trans List.filter_sublist).map _

theorem sublist_groupEvents (key : Text) :
    (groupEvents s key).Sublist (s.journal.map (·.observation)) :=
  List.filter_sublist.trans List.filter_sublist

variable {policy : RemoteAccessPolicy}

/-- What the rows of a group of remote accesses measure adds up, over all rows. -/
theorem sum_remoteAccessRows (hrows : (remoteAccessGroups s).size ≤ policy.maxRows.toNat)
    (measure : RemoteAccessRow → Nat) (f : JournalEntry → Nat)
    (hfinish : ∀ row : RemoteAccessRow, measure (row.finish s) = measure row)
    (hgroup : ∀ key,
      measure ((remoteGroup s key).foldl add {}) = ((remoteGroup s key).map f).sum) :
    ((remoteAccessRows s policy).map measure).sum = ((remoteEntries s).map f).sum := by
  have hall : (allRemoteAccessRows s).length ≤ policy.maxRows.toNat := by
    rwa [allRemoteAccessRows, List.length_map, ExtTreeMap.length_toList]
  rw [remoteAccessRows, List.take_of_length_le hall, allRemoteAccessRows, List.map_map]
  simp only [Function.comp_def, hfinish]
  exact sum_groups measure f _ hgroup

/-- What the rows of a group of invalidations measure adds up, over all rows. -/
theorem sum_invalidationRows {policy : InvalidationPolicy}
    (hrows : (invalidationGroups s).size ≤ maxQueryResults)
    (measure : InvalidationRow → Nat) (f : Observation → Nat)
    (hfinish : ∀ accum : InvalidationAccum, measure (accum.finish s policy) = measure accum.row)
    (hgroup : ∀ key, measure ((groupEvents s key).foldl InvalidationAccum.add {}).row =
      ((groupEvents s key).map f).sum) :
    ((invalidationRows s policy).map measure).sum = ((individualInvalidations s).map f).sum := by
  have hall : ((invalidationGroups s).toList.map fun entry => entry.2.finish s policy).length ≤
      maxQueryResults := by
    rwa [List.length_map, ExtTreeMap.length_toList]
  -- the final order of the rows does not matter
  rw [invalidationRows, List.take_of_length_le hall,
    ((List.perm_insertionSort _ _).map measure).sum_eq, List.map_map]
  simp only [Function.comp_def, hfinish]
  exact sum_groups (fun accum : InvalidationAccum => measure accum.row) f _ hgroup

/-- Reads and writes of a row are its accesses. -/
theorem readAccesses_add_writeAccesses (h : s.JournalBounded) {row : RemoteAccessRow}
    (hrow : row ∈ remoteAccessRows s policy) :
    row.readAccesses.toNat + row.writeAccesses.toNat = row.accesses.toNat := by
  obtain ⟨key, -, rfl⟩ := exists_members_remoteAccessRow hrow
  have hlength := h.length_lt (sublist_remoteGroup key)
  rw [List.length_map] at hlength
  simp only [finish, accesses_foldl_add, readAccesses_foldl_add,
    writeAccesses_foldl_add]
  have hsplit := List.length_eq_countP_add_countP
    (fun entry : JournalEntry => entry.observation.isRemoteWrite)
    (l := remoteGroup s key)
  omega

theorem sum_accesses (h : s.JournalBounded)
    (hrows : (remoteAccessGroups s).size ≤ policy.maxRows.toNat) :
    ((remoteAccessRows s policy).map fun row => row.accesses.toNat).sum =
      (remoteEntries s).length := by
  rw [sum_remoteAccessRows hrows _ (fun _ => 1) fun _ => rfl]
  · simp
  · intro key
    have hlength := h.length_lt (sublist_remoteGroup key)
    rw [List.length_map] at hlength
    rw [accesses_foldl_add, Nat.mod_eq_of_lt hlength]
    simp

theorem sum_remoteBytes (h : s.JournalBounded)
    (hrows : (remoteAccessGroups s).size ≤ policy.maxRows.toNat) :
    ((remoteAccessRows s policy).map fun row => row.bytes.toNat).sum =
      ((remoteEntries s).map fun entry => entry.observation.bytes.toNat).sum := by
  refine sum_remoteAccessRows hrows _ _ (fun _ => rfl) fun key => ?_
  rw [bytes_foldl_add, Nat.mod_eq_of_lt (h.sum_bytes_lt (sublist_remoteGroup key)), List.map_map]
  rfl

theorem sum_individualEvents (h : s.JournalBounded) {policy : InvalidationPolicy}
    (hrows : (invalidationGroups s).size ≤ maxQueryResults) :
    ((invalidationRows s policy).map fun row => row.individualEvents.toNat).sum =
      (individualInvalidations s).length := by
  rw [sum_invalidationRows hrows _ (fun _ => 1) fun _ => rfl]
  · simp
  · intro key
    rw [individualEvents_foldl_add, Nat.mod_eq_of_lt (h.length_lt (sublist_groupEvents key))]
    simp

theorem sum_bytesInvalidated (h : s.JournalBounded) {policy : InvalidationPolicy}
    (hrows : (invalidationGroups s).size ≤ maxQueryResults) :
    ((invalidationRows s policy).map fun row => row.bytesInvalidated.toNat).sum =
      ((individualInvalidations s).map fun o => o.bytes.toNat).sum := by
  refine sum_invalidationRows hrows _ _ (fun _ => rfl) fun key => ?_
  rw [bytesInvalidated_foldl_add, Nat.mod_eq_of_lt (h.sum_bytes_lt (sublist_groupEvents key))]

/-- In every run, the rows of both analyses partition what they read of the journal, as long as
    their limits leave no row out, and no sum wraps. -/
theorem rows_partition (options : ObservatoryOptions) (now : Nanos) (l : List Action)
    (remotePolicy : RemoteAccessPolicy) (policy : InvalidationPolicy) (s : State)
    (hs : s = Run.final act (State.initial options now) l) :
    (∀ row ∈ remoteAccessRows s remotePolicy,
      row.readAccesses.toNat + row.writeAccesses.toNat = row.accesses.toNat) ∧
    ((remoteAccessGroups s).size ≤ remotePolicy.maxRows.toNat →
      ((remoteAccessRows s remotePolicy).map fun row => row.accesses.toNat).sum =
        (remoteEntries s).length ∧
      ((remoteAccessRows s remotePolicy).map fun row => row.bytes.toNat).sum =
        ((remoteEntries s).map fun entry => entry.observation.bytes.toNat).sum ∧
      ((remoteEntries s).map fun entry => entry.observation.bytes.toNat).sum < 2 ^ 64) ∧
    ((invalidationGroups s).size ≤ maxQueryResults →
      ((invalidationRows s policy).map fun row => row.individualEvents.toNat).sum =
        (individualInvalidations s).length ∧
      ((invalidationRows s policy).map fun row => row.bytesInvalidated.toNat).sum =
        ((individualInvalidations s).map fun o => o.bytes.toNat).sum) := by
  have h : s.JournalBounded := hs ▸ final_journalBounded options now l
  refine ⟨fun row hrow => readAccesses_add_writeAccesses h hrow, fun hrows => ⟨sum_accesses h hrows,
    sum_remoteBytes h hrows, ?_⟩, fun hrows => ⟨sum_individualEvents h hrows,
    sum_bytesInvalidated h hrows⟩⟩
  have hlt := h.sum_bytes_lt (List.filter_sublist.map _ :
    ((remoteEntries s).map (·.observation)).Sublist (s.journal.map (·.observation)))
  rwa [List.map_map] at hlt

/-- Two reads and an invalidation. -/
def mixedRun : List Action :=
  [.registerPublisher sampleRegistration fun _ => 0,
    .ingest { sampleObservation 1 with bytes := 64 } 0,
    .ingest { sampleObservation 2 with bytes := 128 } 0,
    .ingest { sampleObservation 3 with type := .Invalidation, bytes := 32 } 0]

/-- They are counted in one row each. -/
theorem rows_partition_mixed :
    (remoteEntries (Run.final act (State.initial {} 0) mixedRun)).length = 2 ∧
      ((remoteAccessRows (Run.final act (State.initial {} 0) mixedRun) {}).map fun row =>
        row.bytes.toNat).sum = 192 ∧
      ((invalidationRows (Run.final act (State.initial {} 0) mixedRun) {}).map fun row =>
        row.bytesInvalidated.toNat).sum = 32 := by
  obtain ⟨-, hremote, hinvalidations⟩ := rows_partition {} 0 mixedRun {} {} _ rfl
  refine ⟨by decide +kernel, ?_, ?_⟩
  · rw [(hremote (by decide +kernel)).2.1]
    decide +kernel
  · rw [(hinvalidations (by decide +kernel)).2]
    decide +kernel

end

/-! ## Reads and writes -/

namespace Observation

/-- The aggregates count the access as a read or as a write, but not as both, and the rows
count it on the same side. -/
def OneSided (o : Observation) : Prop :=
  (contributionOf o).remoteRead = !(contributionOf o).remoteWrite ∧
    (contributionOf o).remoteWrite = o.isRemoteWrite

instance (o : Observation) : Decidable o.OneSided := inferInstanceAs (Decidable (_ ∧ _))

/-- Type and direction do not contradict each other, and neither leaves the side open. Atomic
accesses are writes to the aggregates and reads to the rows, unless their direction says
that they write. -/
def SideSettled (o : Observation) : Prop :=
  if o.type = .RemoteRead then
    o.direction ≠ .Write ∧ o.direction ≠ .ReadModifyWrite ∧
      ¬((o.localityDeclared && o.locality.isRemote) = true ∧ o.direction = .Atomic)
  else if o.type = .RemoteWrite then
    ¬((o.localityDeclared && o.locality.isRemote) = true ∧ o.direction = .Read)
  else if o.type = .RemoteAtomic then o.direction = .Write ∨ o.direction = .ReadModifyWrite
  else o.direction = .Read ∨ o.direction = .Write ∨ o.direction = .ReadModifyWrite

theorem remoteTypes_distinct : EventType.RemoteRead ≠ .RemoteWrite ∧
    EventType.RemoteRead ≠ .RemoteAtomic ∧ EventType.RemoteWrite ≠ .RemoteAtomic := by decide

theorem directions_distinct : AccessDirection.Read ≠ .Write ∧
    AccessDirection.Read ≠ .ReadModifyWrite ∧ AccessDirection.Read ≠ .Atomic ∧
    AccessDirection.Write ≠ .ReadModifyWrite ∧ AccessDirection.Write ≠ .Atomic ∧
    AccessDirection.ReadModifyWrite ≠ .Atomic := by decide

/-- The sides of a remote access agree exactly if type and direction settle them. -/
theorem oneSided_iff_sideSettled (o : Observation) (h : o.isRemoteAccess) :
    o.OneSided ↔ o.SideSettled := by
  simp only [isRemoteAccess, decide_eq_true_eq] at h
  simp only [OneSided, contributionOf, isRemoteWrite, SideSettled, beq_eq_decide]
  obtain ⟨hrw, hra, hwa⟩ := remoteTypes_distinct
  obtain ⟨d₁, d₂, d₃, d₄, d₅, d₆⟩ := directions_distinct
  generalize (o.localityDeclared && o.locality.isRemote) = remote at h ⊢
  by_cases hread : o.type = .RemoteRead
  · simp only [hread, hrw, hra]
    grind
  by_cases hwrite : o.type = .RemoteWrite
  · simp only [hwrite, hrw.symm, hwa]
    grind
  by_cases hatomic : o.type = .RemoteAtomic
  · simp only [hatomic, hra.symm, hwa.symm]
    grind
  · have hremote : remote = true := by simpa [hread, hwrite, hatomic] using h
    simp only [hread, hwrite, hatomic, hremote]
    grind

/-- A valid read is counted as one by both. -/
theorem oneSided_iff_sideSettled_read :
    validateObservationStructure { sampleObservation 1 with direction := .Read } = .ok () ∧
      OneSided { sampleObservation 1 with direction := .Read } :=
  ⟨rfl, (oneSided_iff_sideSettled _ (by decide)).2 ⟨by decide, by decide, by decide⟩⟩

/-- A valid atomic access is a write to the aggregates and a read to the rows. -/
theorem remoteAtomic_twoSided :
    validateObservationStructure
        { sampleObservation 1 with type := .RemoteAtomic, direction := .Atomic } = .ok () ∧
      (contributionOf { sampleObservation 1 with
        type := .RemoteAtomic, direction := .Atomic }).remoteWrite = true ∧
      isRemoteWrite { sampleObservation 1 with
        type := .RemoteAtomic, direction := .Atomic } = false := by
  refine ⟨rfl, ?_, ?_⟩ <;> decide

end Observation
end CoherenceObservatory
