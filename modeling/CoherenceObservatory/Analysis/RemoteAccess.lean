import CoherenceObservatory.Analysis.Invalidations

/-!
# Remote accesses

Remote accesses of the journal by source, target and region. A finding says where they
concentrate. As with invalidations, the journal is read whatever the outcome of attribution
was.
-/

namespace CoherenceObservatory

open Std (ExtTreeMap)

namespace Observation

/-- The observation is of a remote access, by its type or by the locality it declares. -/
def isRemoteAccess (o : Observation) : Bool :=
  let remoteType := o.type = .RemoteRead ∨ o.type = .RemoteWrite ∨ o.type = .RemoteAtomic
  let remoteLocality := o.localityDeclared && o.locality.isRemote
  remoteType ∨ remoteLocality = true

/-- The key of the group an access belongs to. -/
def remoteAccessKey (o : Observation) : Text :=
  o.sourceText ++ [31] ++ o.targetText ++ [31] ++ o.regionText ++ [31] ++
    formatU64 (o.regionGeneration.getD 0)

/-- The side a remote access is counted on. -/
def isRemoteWrite (o : Observation) : Bool :=
  o.direction = .Write ∨ o.direction = .ReadModifyWrite ∨ o.type = .RemoteWrite

end Observation

/-- One row of the analysis. -/
structure RemoteAccessRow where
  source : Text := []
  target : Text := []
  region : MemoryRegionId := []
  regionGeneration : MemoryRegionGeneration := 0
  direction : AccessDirection := .None
  locality : Locality := .Unknown
  localityEstablished : Bool := false
  accesses : UInt64 := 0
  bytes : UInt64 := 0
  readAccesses : UInt64 := 0
  writeAccesses : UInt64 := 0
  cost : CostEstimate := {}
  topologyGeneration : TopologyGeneration := 0
  precision : Precision := .Unknown
  provenance : Provenance := .Unknown
  reality : Reality := .real
  aggregateOnly : Bool := false

/-- An entry of the journal enters its group. A group without accesses is seen for the first
time. -/
def RemoteAccessRow.add (row : RemoteAccessRow) (entry : JournalEntry) : RemoteAccessRow :=
  let o := entry.observation
  { row with
    source := if row.accesses = 0 then o.sourceText else row.source
    target := if row.accesses = 0 then o.targetText else row.target
    region := o.region.getD row.region
    regionGeneration := o.regionGeneration.getD row.regionGeneration
    direction := o.direction
    locality := entry.locality
    localityEstablished := entry.localityEstablished
    topologyGeneration := o.topologyGeneration
    precision := if row.accesses = 0 then o.precision else row.precision.weakest o.precision
    provenance := o.provenance
    reality := row.reality.combine o.provenance.realityOf
    aggregateOnly := o.counterDelta.isSome
    bytes := row.bytes + o.bytes
    accesses := row.accesses + 1
    writeAccesses := if o.isRemoteWrite then row.writeAccesses + 1 else row.writeAccesses
    readAccesses := if o.isRemoteWrite then row.readAccesses else row.readAccesses + 1 }

/-- The entries of the journal that are of remote accesses. -/
def remoteEntries (s : State) : List JournalEntry :=
  s.journal.filter (·.observation.isRemoteAccess)

/-- The row of a group, with its cost. -/
def RemoteAccessRow.finish (row : RemoteAccessRow) (s : State) : RemoteAccessRow :=
  { row with
    cost := estimateCost s.options.costModel
      { bytes := row.bytes
        remoteReads := row.readAccesses
        remoteWrites := row.writeAccesses
        locality := row.locality
        localityKnown := row.localityEstablished
        precision := row.precision } }

/-- The groups, in the order of their keys. -/
def remoteAccessGroups (s : State) : ExtTreeMap Text RemoteAccessRow :=
  Grouping.groups (fun entry : JournalEntry => entry.observation.remoteAccessKey) {}
    RemoteAccessRow.add (remoteEntries s)

/-- All rows, in the order of their keys. -/
def allRemoteAccessRows (s : State) : List RemoteAccessRow :=
  (remoteAccessGroups s).toList.map fun entry => entry.2.finish s

/-- The first row with the most accesses. -/
def topRow (rows : List RemoteAccessRow) : Option RemoteAccessRow :=
  rows.foldl (fun top row =>
    match top with
    | none => some row
    | some best => if row.accesses > best.accesses then some row else some best) none

/-- The finding about the group accesses concentrate on. -/
def concentrationFinding (s : State) (policy : RemoteAccessPolicy) : Option Finding :=
  let rows := allRemoteAccessRows s
  let total := rows.foldl (fun total row => total + row.accesses) 0
  match topRow rows with
  | none => none
  | some top =>
    let concentration := (F64.ofUInt64 top.accesses).div (.ofUInt64 total)
    if total = 0 then none
    else if concentration.ge policy.concentrationThreshold then
      let f : Finding :=
        { kind := .remoteAccessConcentration
          subjectKind := ascii "source_target_pair"
          subject := top.source ++ ascii "->" ++ top.target
          precision := top.precision
          provenance := top.provenance
          reality := top.reality
          granularity := if top.aggregateOnly then .Aggregate else .Region
          bindings := { currentBindings s with topologyGeneration := top.topologyGeneration }
          locality := top.locality
          localityEstablished := top.localityEstablished
          missingEvidence := if top.aggregateOnly
            then [ascii "evidence is counter-derived and resolves no region identity"] else []
          cost := top.cost }
      some ((f.addReason "source_target_concentration").addMetric "pair.accesses"
          (.ofUInt64 top.accesses) (ascii "accesses")
        |>.addMetric "pair.share" concentration (ascii "share")
          (some policy.concentrationThreshold)
        |>.addMetric "system.remote_accesses" (.ofUInt64 total) (ascii "accesses")
        |>.addMetric "pair.bytes" (.ofUInt64 top.bytes) (ascii "bytes")).sort
    else none

/-- The rows `analyze_remote_access` fills in. -/
def remoteAccessRows (s : State) (policy : RemoteAccessPolicy) : List RemoteAccessRow :=
  (allRemoteAccessRows s).take policy.maxRows.toNat

/-- `analyze_remote_access`. -/
def analyzeRemoteAccess (s : State) (policy : RemoteAccessPolicy) : List Finding :=
  finalizeFindings (concentrationFinding s policy).toList policy.maxFindings

/-! ## The reality of a row -/

variable {s : State} {policy : RemoteAccessPolicy}

theorem RemoteAccessRow.reality_finish (row : RemoteAccessRow) :
    (row.finish s).reality = row.reality := by
  rw [finish]

/-- The reality of a group. -/
theorem reality_foldl_remoteAdd (l : List JournalEntry) :
    (l.foldl RemoteAccessRow.add {}).reality =
      Reality.ofAll (.real :: l.map (·.observation.provenance.realityOf)) := by
  rw [← Reality.foldl_combine, List.foldl_map]
  exact (List.foldl_hom RemoteAccessRow.reality fun _ _ => rfl).symm

/-- The entries of a key. -/
def remoteGroup (s : State) (key : Text) : List JournalEntry :=
  Grouping.members (fun entry : JournalEntry => entry.observation.remoteAccessKey) key
    (remoteEntries s)

/-- The entries of the journal that make up a row. -/
theorem exists_members_remoteAccessRow {row : RemoteAccessRow}
    (h : row ∈ remoteAccessRows s policy) :
    ∃ key, remoteGroup s key ≠ [] ∧
      row = ((remoteGroup s key).foldl RemoteAccessRow.add {}).finish s := by
  obtain ⟨⟨key, group⟩, hentry, rfl⟩ := List.mem_map.1 (List.mem_of_mem_take h)
  obtain ⟨hne, rfl⟩ := Grouping.getElem?_groups_eq_some.1
    (ExtTreeMap.mem_toList_iff_getElem?_eq_some.1 hentry)
  exact ⟨key, hne, rfl⟩

end CoherenceObservatory
