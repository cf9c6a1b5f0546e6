import CoherenceObservatory.Analysis.Generation
import CoherenceObservatory.Analysis.RemoteAccess

/-!
# The reality of results

Results are marked real, synthetic or mixed by the evidence behind them. The analyses of false
sharing, of invalidations and of remote accesses combine the evidence with the mark a result
starts with, which is real: a result of synthetic evidence alone comes out as mixed.
-/

namespace CoherenceObservatory

/-- A real piece of evidence more changes nothing, unless all the evidence is synthetic. -/
theorem Reality.ofAll_real_cons_iff {rs : List Reality} (h : rs ≠ []) :
    ofAll (.real :: rs) = ofAll rs ↔ ∃ r ∈ rs, r ≠ synthetic := by
  obtain ⟨a, ha⟩ := List.exists_mem_of_ne_nil rs h
  unfold ofAll
  simp only [List.forall_mem_cons, true_and]
  by_cases hreal : ∀ r ∈ rs, r = real
  · have hne : ∃ r ∈ rs, r ≠ synthetic := ⟨a, ha, by rw [hreal a ha]; nofun⟩
    simp only [eq_true hreal, if_true, hne]
  · by_cases hsynthetic : ∀ r ∈ rs, r = synthetic
    · have hnone : ¬∃ r ∈ rs, r ≠ synthetic := by simpa using hsynthetic
      simp only [eq_false hreal, eq_true hsynthetic, if_false, if_true, hnone, iff_false]
      decide
    · have hne : ∃ r ∈ rs, r ≠ synthetic := by simpa using hsynthetic
      simp only [eq_false hreal, eq_false hsynthetic, if_false, hne, and_false]

variable {α : Type}

/-- The mark of evidence combined with a real one, for any kind of evidence. -/
theorem Reality.marked_iff {l : List α} (h : l ≠ []) (mark : α → Reality) :
    ofAll (.real :: l.map mark) = ofAll (l.map mark) ↔ ∃ a ∈ l, mark a ≠ synthetic := by
  rw [ofAll_real_cons_iff (List.map_eq_nil_iff.not.2 h)]
  simp only [List.mem_map, exists_exists_and_eq_and]

/-- A result marked by real evidence is real. -/
theorem Reality.of_forall_real {l : List α} (h : l ≠ []) {mark : α → Reality}
    (hreal : ∀ a ∈ l, mark a = real) {r : Reality}
    (hiff : r = ofAll (l.map mark) ↔ ∃ a ∈ l, mark a ≠ synthetic) : r = real := by
  obtain ⟨a, ha⟩ := List.exists_mem_of_ne_nil l h
  rw [hiff.2 ⟨a, ha, by rw [hreal a ha]; nofun⟩, ofAll, if_pos (List.forall_mem_map.2 hreal)]

/-- Every finding of false sharing, every row of invalidations and every row of remote accesses
    is marked by its evidence exactly where some of the evidence is not synthetic. -/
theorem reality_derived_iff (s : State) (sharing : FalseSharingPolicy)
    (invalidation : InvalidationPolicy) (remote : RemoteAccessPolicy) :
    (∀ f ∈ analyzeFalseSharing s sharing, ∃ evidence,
      s.regionEvidence[f.subject]? = some evidence ∧
      (f.reality =
          Reality.ofAll ((sharing.qualifying evidence).map (·.provenance.realityOf)) ↔
        ∃ sample ∈ sharing.qualifying evidence, sample.provenance.realityOf ≠ .synthetic)) ∧
    (∀ row ∈ invalidationRows s invalidation, ∃ key group, group ≠ [] ∧
      group = Grouping.members Observation.invalidationKey key (individualInvalidations s) ∧
      row = (group.foldl InvalidationAccum.add {}).finish s invalidation ∧
      (row.reality = Reality.ofAll (group.map (·.provenance.realityOf)) ↔
        ∃ o ∈ group, o.provenance.realityOf ≠ .synthetic)) ∧
    (∀ row ∈ remoteAccessRows s remote, ∃ key group, group ≠ [] ∧
      group = Grouping.members (fun entry : JournalEntry => entry.observation.remoteAccessKey) key
        (remoteEntries s) ∧
      row = (group.foldl RemoteAccessRow.add {}).finish s ∧
      (row.reality = Reality.ofAll (group.map (·.observation.provenance.realityOf)) ↔
        ∃ entry ∈ group, entry.observation.provenance.realityOf ≠ .synthetic)) := by
  refine ⟨fun f hf => ?_, fun row hrow => ?_, fun row hrow => ?_⟩
  · obtain ⟨evidence, hevidence, hne, hreality⟩ := falseSharing_reality hf
    refine ⟨evidence, hevidence, ?_⟩
    rw [hreality]
    exact Reality.marked_iff hne _
  · obtain ⟨key, hne, hgroup⟩ := exists_members_invalidationRow hrow
    refine ⟨key, _, hne, rfl, hgroup, ?_⟩
    rw [hgroup, InvalidationAccum.reality_finish, reality_foldl_add]
    exact Reality.marked_iff hne _
  · obtain ⟨key, hne, hgroup⟩ := exists_members_remoteAccessRow hrow
    refine ⟨key, _, hne, rfl, hgroup, ?_⟩
    rw [hgroup, RemoteAccessRow.reality_finish, reality_foldl_remoteAdd]
    exact Reality.marked_iff hne _

/-- A sample and two entries of the journal, all of one provenance. -/
def markedState (provenance : Provenance) : State :=
  { sampledState [{ handover "a" "b" 1 with provenance, granularity := .Page }] with
    journal :=
      [⟨{ type := .Invalidation, provenance }, .unattributed, .Unknown, false⟩,
        ⟨{ type := .RemoteRead, provenance }, .unattributed, .Unknown, false⟩] }

/-- Evidence of the operating system marks all three kinds of results as real. -/
theorem reality_derived_osTelemetry :
    (∃ f ∈ analyzeFalseSharing (markedState .OsTelemetry) {}, f.reality = .real) ∧
      (∃ row ∈ invalidationRows (markedState .OsTelemetry) {}, row.reality = .real) ∧
      ∃ row ∈ remoteAccessRows (markedState .OsTelemetry) {}, row.reality = .real := by
  obtain ⟨hsharing, hinvalidations, hremote⟩ :=
    reality_derived_iff (markedState .OsTelemetry) {} {} {}
  refine ⟨?_, ?_, ?_⟩
  · obtain ⟨f, hf, hsubject⟩ :
        ∃ f ∈ analyzeFalseSharing (markedState .OsTelemetry) {}, f.subject = ascii "r" := by
      decide +kernel
    obtain ⟨evidence, hevidence, hiff⟩ := hsharing f hf
    rw [hsubject] at hevidence
    obtain rfl := Option.some.inj (hevidence.symm.trans (getElem?_sampledState.trans (if_pos rfl)))
    exact ⟨f, hf, (hiff.2 (by decide +kernel)).trans (by decide +kernel)⟩
  · obtain ⟨row, hrow⟩ := List.exists_mem_of_ne_nil
      (invalidationRows (markedState .OsTelemetry) {}) (by decide +kernel)
    obtain ⟨key, group, hne, hgroup, -, hiff⟩ := hinvalidations row hrow
    have hreal : ∀ o ∈ group, o.provenance.realityOf = .real := fun o ho =>
      (by decide +kernel : ∀ o ∈ individualInvalidations (markedState .OsTelemetry),
        o.provenance.realityOf = .real) o (Grouping.mem_members.1 (hgroup ▸ ho)).1
    exact ⟨row, hrow, Reality.of_forall_real hne hreal hiff⟩
  · obtain ⟨row, hrow⟩ := List.exists_mem_of_ne_nil
      (remoteAccessRows (markedState .OsTelemetry) {}) (by decide +kernel)
    obtain ⟨key, group, hne, hgroup, -, hiff⟩ := hremote row hrow
    have hreal : ∀ entry ∈ group, entry.observation.provenance.realityOf = .real :=
      fun entry hentry =>
        (by decide +kernel : ∀ entry ∈ remoteEntries (markedState .OsTelemetry),
          entry.observation.provenance.realityOf = .real) entry
          (Grouping.mem_members.1 (hgroup ▸ hentry)).1
    exact ⟨row, hrow, Reality.of_forall_real hne hreal hiff⟩

/-- Synthetic evidence alone comes out as mixed. -/
theorem synthetic_mixed :
    (∃ f ∈ analyzeFalseSharing (markedState .SyntheticBackend) {}, f.reality = .mixed) ∧
      (∃ row ∈ invalidationRows (markedState .SyntheticBackend) {}, row.reality = .mixed) ∧
      (∃ row ∈ remoteAccessRows (markedState .SyntheticBackend) {}, row.reality = .mixed) ∧
      (∀ sample ∈ (markedState .SyntheticBackend).samples (ascii "r"),
        sample.provenance.realityOf = .synthetic) ∧
      ∀ entry ∈ (markedState .SyntheticBackend).journal,
        entry.observation.provenance.realityOf = .synthetic := by
  refine ⟨?_, ?_, ?_, ?_, ?_⟩ <;> decide +kernel

end CoherenceObservatory
