import CoherenceObservatory.Lib.Access
import CoherenceObservatory.Lib.Table
import CoherenceObservatory.Persistence.File

/-!
# Loading arbitrary bytes

Nothing is known about the bytes of a file, and its lengths and counts are whatever they say.
Still a parse stays inside them, and stages no more records than there are bytes, whether it
comes to its end or not.
-/

namespace CoherenceObservatory

open Std Codec Access Limits List

/-! ## Fields and records -/

theorem moves_u8 : Moves PayloadReader.u8 fun _ => 1 := PayloadReader.moves_u8

theorem moves_u32 : Moves PayloadReader.u32 fun _ => 1 :=
  PayloadReader.moves_u32.mono fun _ => by decide

theorem moves_u64 : Moves PayloadReader.u64 fun _ => 1 :=
  PayloadReader.moves_u64.mono fun _ => by decide

theorem moves_i64 : Moves PayloadReader.i64 fun _ => 1 := moves_u64.ret fun _ => Nat.le_refl 1

theorem moves_flag : Moves PayloadReader.flag fun _ => 1 := moves_u8.ret fun _ => Nat.le_refl 1

theorem moves_text (maxLength : Nat) : Moves (PayloadReader.text maxLength) fun _ => 1 :=
  (PayloadReader.moves_text maxLength).mono fun _ => by decide

instance : Steady PayloadReader.flag := ⟨moves_flag.stays⟩

instance {id : Text} {e : Error} : Steady (checkIdentity id e) := ⟨.failIf⟩

theorem moves_readNode : Moves readNode fun _ => 1 := (moves_text _).opens

theorem moves_readProcessor : Moves readProcessor fun _ => 1 := (moves_text _).opens

theorem moves_readAccelerator : Moves readAccelerator fun _ => 1 := (moves_text _).opens

theorem moves_readMemoryDomain : Moves readMemoryDomain fun _ => 1 := (moves_text _).opens

theorem moves_readMember (domain : Text) : Moves (readMember domain) fun _ => 1 := moves_u8.opens

/-- A domain pays for itself and for each of its members. -/
theorem moves_readCoherenceDomain : Moves readCoherenceDomain fun r => 1 + r.members.length := by
  refine (moves_text _).bind fun id => (moves_text _).skip fun _ => moves_u64.skip fun _ => ?_
  refine moves_flag.skip fun _ => moves_u64.skip fun _ => .skip .failIf fun _ => ?_
  refine ((moves_readMember id).many _).bind fun members => moves_i64.skip fun _ => ?_
  refine .skip .failIf fun _ => .skip .failIf fun _ => .pure ?_
  simp

theorem moves_readRegion : Moves readRegion fun _ => 1 := (moves_text _).opens

theorem moves_readLink : Moves readLink fun _ => 1 := moves_u8.opens

theorem moves_readWatermark : Moves readWatermark fun _ => 1 := (moves_text _).opens

theorem moves_readCapability : Moves readCapability fun _ => 1 := (moves_text _).opens

instance : Steady readCostModel := by
  unfold readCostModel
  infer_instance

theorem moves_readAggregate : Moves readAggregate fun _ => 1 := moves_u8.opens

theorem moves_readHistory : Moves readHistory fun _ => 1 := (moves_text _).opens

/-! ## Sections -/

variable {bound offset remaining size : Nat} {tooMany : String} {α : Type}
  {options : PersistenceOptions} {staged staged' : StagedState} {data : List UInt8}
  {c o r n : UInt64} {e : Error}

/-- What is staged behind a number, if the number is there. -/
def behindU64 {σ : Type} (k : UInt64 → Cursor → σ) (s : σ) (c : Cursor) : σ :=
  match PayloadReader.u64 c with
  | (.ok number, c') => k number c'
  | (.error _, _) => s

/-- What a counted loop has made of `s` when it stops, at its end or at a record it refuses. -/
def runCounted {σ : Type} (bound : Nat) (f : σ → PayloadReader σ) (s : σ) : Cursor → σ :=
  behindU64 (fun count c => if count.toNat > bound then s else Reader.reached f count.toNat s c) s

section

variable {σ : Type} {s : σ} {size : σ → Nat} {c : Cursor}

theorem size_behindU64 {k : UInt64 → Cursor → σ} (hc : c.position ≤ c.data.length)
    (h : ∀ number c, c.position ≤ c.data.length →
      size (k number c) + c.position ≤ size s + c.data.length) :
    size (behindU64 k s c) + c.position ≤ size s + c.data.length := by
  rw [behindU64]
  split
  next number c' hnumber =>
    have hdata := moves_u64.data_eq c
    have hforward := moves_u64.forward c
    have hinside := moves_u64.inside c hc
    rw [hnumber] at hdata hforward hinside
    dsimp only at hdata hforward hinside
    rw [← hdata] at hinside ⊢
    have := h number c' hinside
    omega
  · omega

/-- However a counted loop stops, it has paid for what it has added. -/
theorem size_runCounted {f : σ → PayloadReader σ} (bound : Nat)
    (hf : ∀ s, Moves (f s) fun s' => size s' - size s) (hc : c.position ≤ c.data.length) :
    size (runCounted bound f s c) + c.position ≤ size s + c.data.length := by
  refine size_behindU64 hc fun count c hc => ?_
  split
  · omega
  · exact Moves.reached size hf count.toNat s hc

end

section

variable {κ α : Type} [Ord κ] [TransOrd κ]

/-- A round of `stageMap`. -/
def fileRecord (read : PayloadReader (κ × α)) (duplicate : κ → Error) (m : ExtTreeMap κ α) :
    PayloadReader (ExtTreeMap κ α) := do
  let (key, record) ← read
  Reader.failIf (key ∈ m) (duplicate key)
  return m.insert key record

/-- What `stageMap` has made of a table when it stops, with whatever error. -/
def filed (bound : Nat) (read : PayloadReader (κ × α)) : ExtTreeMap κ α → Cursor → ExtTreeMap κ α :=
  runCounted bound (fileRecord read fun _ => corrupt "")

variable [LawfulEqOrd κ] {m : ExtTreeMap κ α} {read : PayloadReader (κ × α)}
  {d : κ → Error}

/-- A table grows by no more than a record has cost. -/
theorem moves_fileRecord (weight : α → Nat) (h : Moves read fun e => weight e.2)
    (m : ExtTreeMap κ α) :
    Moves (fileRecord read d m) fun m' =>
      tableTotal (fun _ => weight) m' - tableTotal (fun _ => weight) m := by
  refine h.bind fun (key, record) => .skip .failIf fun _ => .pure ?_
  have := tableTotal_insert (m := m) (k := key) (r := record) fun _ => weight
  dsimp only
  omega

theorem total_filed {c : Cursor} (bound : Nat) (weight : α → Nat)
    (h : Moves read fun e => weight e.2) (m : ExtTreeMap κ α) (hc : c.position ≤ c.data.length) :
    tableTotal (fun _ => weight) (filed bound read m c) + c.position ≤
      tableTotal (fun _ => weight) m + c.data.length :=
  size_runCounted bound (moves_fileRecord weight h) hc

theorem moves_stageMap (weight : α → Nat) (h : Moves read fun e => weight e.2) :
    Moves (stageMap m bound tooMany read d) fun result =>
      tableTotal (fun _ => weight) result.2 - tableTotal (fun _ => weight) m :=
  moves_u64.skip fun _ => .skip .failIf fun _ =>
    (Moves.iterate (tableTotal fun _ => weight) (moves_fileRecord weight h) _ m).ret
      fun _ => Nat.le_refl _

end

theorem moves_keyed {read : PayloadReader α} {cost : α → Nat} (keyOf : α → Text)
    (h : Moves read cost) : Moves (keyed keyOf read) fun e => cost e.2 :=
  h.ret fun _ => Nat.le_refl _

theorem tableTotal_one {κ : Type} [Ord κ] [TransOrd κ] (m : ExtTreeMap κ α) :
    tableTotal (fun _ _ => 1) m = m.size := by
  rw [tableTotal, map_const', sum_replicate_nat, Nat.mul_one, ExtTreeMap.length_toList]

/-- A round of `stageList`. -/
def appendRecord (read : PayloadReader α) (l : List α) : PayloadReader (List α) := do
  return l ++ [← read]

/-- What `stageList` has appended to a list when it stops. -/
def listed (bound : Nat) (read : PayloadReader α) : List α → Cursor → List α :=
  runCounted bound (appendRecord read)

theorem moves_appendRecord {read : PayloadReader α} (h : Moves read fun _ => 1) (l : List α) :
    Moves (appendRecord read l) fun l' => l'.length - l.length :=
  h.ret fun x => by simp

theorem moves_stageList {read : PayloadReader α} (h : Moves read fun _ => 1) :
    Moves (stageList bound tooMany read) fun result => result.2.length := by
  refine moves_u64.skip fun count => .skip .failIf fun _ => (h.many _).ret fun l => ?_
  simp

/-- How many records have been staged, members of coherence domains included. -/
def StagedState.recordTotal (staged : StagedState) : Nat :=
  staged.nodes.size + staged.processors.size + staged.accelerators.size +
  staged.memoryDomains.size +
  tableTotal (fun _ (r : CoherenceDomainRecord) => 1 + r.members.length) staged.coherenceDomains +
  staged.regions.size + staged.links.length + staged.watermarks.size + staged.capabilities.size +
  staged.historicalAggregates.size + staged.history.length

/-- What a section has staged of its records when it stops, at its end or at a record it refuses.
There are none in the meta section and in that of the cost model. -/
def StagedState.reached (options : PersistenceOptions) (staged : StagedState) (c : Cursor) :
    SectionType → StagedState
  | .metaInfo | .costModel => staged
  | .nodes =>
    { staged with nodes := filed maxNodeCount (keyed NodeRecord.id readNode) staged.nodes c }
  | .processors =>
    { staged with
      processors := filed maxProcessorCount (keyed ProcessorRecord.id readProcessor)
        staged.processors c }
  | .accelerators =>
    { staged with
      accelerators := filed maxAcceleratorCount (keyed AcceleratorRecord.id readAccelerator)
        staged.accelerators c }
  | .memoryDomains =>
    { staged with
      memoryDomains := filed maxMemoryDomainCount (keyed MemoryDomainRecord.id readMemoryDomain)
        staged.memoryDomains c }
  | .coherenceDomains =>
    { staged with
      coherenceDomains := filed maxCoherenceDomainCount
        (keyed CoherenceDomainRecord.id readCoherenceDomain) staged.coherenceDomains c }
  | .regions =>
    { staged with
      regions := filed maxRegionCount (keyed RegionRecord.id readRegion) staged.regions c }
  | .topology =>
    { staged with
      links := behindU64 (fun _ => listed maxTopologyLinkCount readLink staged.links)
        staged.links c }
  | .publisherWatermarks =>
    { staged with
      watermarks := filed maxPublisherWatermarks
        (keyed (fun w => bootKey w.publisher w.boot) readWatermark) staged.watermarks c }
  | .capabilities =>
    { staged with
      capabilities := filed maxStoredCapabilities (keyed Capability.key readCapability)
        staged.capabilities c }
  | .historicalAggregates =>
    { staged with
      historicalAggregates := filed maxHistoryAggregates readAggregate
        staged.historicalAggregates c }
  | .history =>
    { staged with history := listed options.maxHistoryRecords readHistory staged.history c }

/-- A section reader pays for the records it adds. -/
abbrev StagesWithin (r : PayloadReader StagedState) (staged : StagedState) : Prop :=
  Moves r fun staged' => staged'.recordTotal - staged.recordTotal

theorem moves_stageMeta (staged : StagedState) : StagesWithin (stageMeta staged) staged := by
  refine moves_u32.skip fun _ => .skip .failIf fun _ => (moves_text _).skip fun _ => ?_
  refine (moves_text _).skip fun _ => (moves_text _).skip fun _ => moves_u64.skip fun _ => ?_
  refine moves_u64.skip fun _ => moves_u64.skip fun _ => moves_u64.skip fun _ => ?_
  refine moves_u64.skip fun _ => .skip (.lift _) fun _ => .skip (.lift _) fun _ => ?_
  exact .skip .failIf fun _ => .skip .requireExhausted fun _ => .pure (Nat.sub_self _)

/-- What is staged has been paid for. -/
theorem moves_stored {n : Nat} (h : staged'.recordTotal ≤ staged.recordTotal + n := by
      simp only [StagedState.recordTotal, tableTotal_one, length_append]
      omega) :
    Moves (PayloadReader.requireExhausted >>= fun _ => pure staged') fun st =>
      st.recordTotal - staged.recordTotal - n :=
  .skip .requireExhausted fun _ => .pure (by omega)

/-- A table of records that have been paid for. -/
theorem moves_stageTable {table : ExtTreeMap Text α} {keyOf : α → Text} {read : PayloadReader α}
    {duplicate : String} {put : ExtTreeMap Text α → StagedState} {w : α → Nat}
    (h : Moves read w) (hput : ∀ m, (put m).recordTotal ≤
      staged.recordTotal + (tableTotal (fun _ => w) m - tableTotal (fun _ => w) table) := by
        intro m
        simp only [StagedState.recordTotal, tableTotal_one]
        omega) :
    StagesWithin (stageTable table bound tooMany keyOf read duplicate put) staged := by
  rw [stageTable]
  exact (moves_stageMap w (moves_keyed keyOf h)).bind fun (_, m) => moves_stored (hput m)

theorem moves_stageSection (options : PersistenceOptions) (staged : StagedState)
    (type : SectionType) : StagesWithin (stageSection options staged type) staged := by
  cases type with
  | metaInfo => exact moves_stageMeta staged
  | costModel =>
    exact Steady.stays.skip fun _ => .skip .requireExhausted fun _ => .pure (Nat.sub_self _)
  | nodes => exact moves_stageTable moves_readNode
  | processors => exact moves_stageTable moves_readProcessor
  | accelerators => exact moves_stageTable moves_readAccelerator
  | memoryDomains => exact moves_stageTable moves_readMemoryDomain
  | coherenceDomains => exact moves_stageTable moves_readCoherenceDomain
  | regions => exact moves_stageTable moves_readRegion
  | topology =>
    exact moves_u64.skip fun _ => (moves_stageList moves_readLink).bind
      fun (_, _) => moves_stored
  | publisherWatermarks => exact moves_stageTable moves_readWatermark
  | capabilities => exact moves_stageTable moves_readCapability
  | historicalAggregates =>
    exact (moves_stageMap (fun _ => 1) moves_readAggregate).bind fun (_, _) => moves_stored
  | history => exact (moves_stageList moves_readHistory).bind fun (_, _) => moves_stored

/-- However a section stops, each record it has staged has cost it a byte. -/
theorem recordTotal_reached (options : PersistenceOptions) (staged : StagedState) {c : Cursor}
    (hc : c.position ≤ c.data.length) (type : SectionType) :
    (staged.reached options c type).recordTotal + c.position ≤
      staged.recordTotal + c.data.length := by
  have hfiled {κ α : Type} [Ord κ] [TransOrd κ] [LawfulEqOrd κ] {read : PayloadReader (κ × α)}
      (bound : Nat) (h : Moves read fun _ => 1) (m : ExtTreeMap κ α) :
      (filed bound read m c).size + c.position ≤ m.size + c.data.length := by
    rw [← tableTotal_one, ← tableTotal_one]
    exact total_filed bound (fun _ => 1) h m hc
  have hkeyed {α : Type} {read : PayloadReader α} (bound : Nat) (keyOf : α → Text)
      (h : Moves read fun _ => 1) (m : ExtTreeMap Text α) :=
    hfiled bound (moves_keyed keyOf h) m
  have hlisted {α : Type} {read : PayloadReader α} (bound : Nat) (h : Moves read fun _ => 1)
      (l : List α) {c : Cursor} (hc : c.position ≤ c.data.length) :
      (listed bound read l c).length + c.position ≤ l.length + c.data.length :=
    size_runCounted bound (moves_appendRecord h) hc
  -- at most one of the tables grows
  have hnodes := hkeyed maxNodeCount NodeRecord.id moves_readNode staged.nodes
  have hprocessors := hkeyed maxProcessorCount ProcessorRecord.id moves_readProcessor
    staged.processors
  have haccelerators := hkeyed maxAcceleratorCount AcceleratorRecord.id moves_readAccelerator
    staged.accelerators
  have hmemory := hkeyed maxMemoryDomainCount MemoryDomainRecord.id moves_readMemoryDomain
    staged.memoryDomains
  have hcoherence := total_filed maxCoherenceDomainCount (fun r => 1 + r.members.length)
    (moves_keyed CoherenceDomainRecord.id moves_readCoherenceDomain) staged.coherenceDomains hc
  have hregions := hkeyed maxRegionCount RegionRecord.id moves_readRegion staged.regions
  have hlinks := size_behindU64 (k := fun _ => listed maxTopologyLinkCount readLink staged.links)
    hc fun _ c hc => hlisted maxTopologyLinkCount moves_readLink staged.links hc
  have hwatermarks := hkeyed maxPublisherWatermarks (fun w => bootKey w.publisher w.boot)
    moves_readWatermark staged.watermarks
  have hcapabilities := hkeyed maxStoredCapabilities Capability.key moves_readCapability
    staged.capabilities
  have haggregates := hfiled maxHistoryAggregates moves_readAggregate staged.historicalAggregates
  have hhistory := hlisted options.maxHistoryRecords moves_readHistory staged.history hc
  cases type <;> simp only [StagedState.recordTotal, StagedState.reached] <;> omega

/-! ## Offsets -/

/-- `get_u32` and `get_u64`, as accesses to the file. -/
def readU32At (data : List UInt8) (offset : Nat) : Logged Error UInt32 := do
  return UInt32.ofNat (ofLE (← Logged.read data offset 4))

@[inherit_doc readU32At]
def readU64At (data : List UInt8) (offset : Nat) : Logged Error UInt64 := do
  return UInt64.ofNat (ofLE (← Logged.read data offset 8))

/-- A reader on a body that starts at `offset`. It reads from the start of the body up to where
its cursor stops, failing or not. -/
def readBodyAt {α : Type} (r : PayloadReader α) (body : List UInt8) (offset : Nat) :
    Logged Error α :=
  ⟨r.run body, [⟨offset, (r ⟨body, 0⟩).2.position⟩]⟩

/-- The envelope, with the offsets it is read at. -/
def openStateAt (data : List UInt8) (options : PersistenceOptions) :
    Logged Error (UInt64 × UInt64 × UInt64 × UInt64) := do
  .lift (failIf (data.length < stateHeaderSize + stateTrailerSize)
    (failWith .emptyState "state file is shorter than its fixed envelope"))
  let magic ← .read data 0 8
  .lift (failIf (magic ≠ stateMagic) (failWith .invalidMagic "state file magic mismatch"))
  let version ← readU32At data 8
  .lift (failIf (version ≠ stateVersion)
    (failWith .unsupportedStateVersion "unsupported state file version" (formatNat version.toNat)))
  let flags ← readU32At data 12
  .lift (failIf (flags ≠ 0) (corrupt "unknown state file flags" (formatNat flags.toNat)))
  let payloadLength ← readU64At data 16
  let coordinatorEpoch ← readU64At data 24
  let observationEpoch ← readU64At data 32
  let declaredRecords ← readU64At data 40
  let headerCrc ← readU32At data 48
  let header ← .read data 0 stateHeaderSize
  .lift (failIf (crc32 (header.take 48 ++ PayloadWriter.u32 0 ++ header.drop 52) ≠ headerCrc)
    (failWith .integrityFailure "state header checksum mismatch"))
  .lift (failIf (payloadLength > options.maxBytes)
    (failWith .tooLarge "state payload exceeds the accepted bound"))
  let expected : UInt64 := UInt64.ofNat stateHeaderSize + payloadLength +
    UInt64.ofNat stateTrailerSize
  .lift (failIf (data.length < expected.toNat)
    (failWith .truncated "state file is truncated"
      (ascii "expected=" ++ formatU64 expected ++ ascii " actual=" ++ formatNat data.length)))
  .lift (failIf (data.length > expected.toNat) (corrupt "trailing bytes follow the state payload"))
  let trailer := stateHeaderSize + payloadLength.toNat
  let trailerMagic ← .read data trailer 8
  .lift (failIf (trailerMagic ≠ stateTrailerMagic)
    (failWith .invalidMagic "state trailer magic mismatch"))
  let payloadCrc ← readU32At data (trailer + 8)
  let payload ← .read data stateHeaderSize payloadLength.toNat
  .lift (failIf (crc32 payload ≠ payloadCrc)
    (failWith .integrityFailure "state payload checksum mismatch"))
  return (payloadLength, coordinatorEpoch, observationEpoch, declaredRecords)

/-- The header and the body of a section at `offset`, with `remaining` bytes of the payload
left: its number, its type, its body and its length. -/
def openSectionAt (data : List UInt8) (seenSections : List UInt32) (offset remaining : Nat) :
    Logged Error (UInt32 × SectionType × List UInt8 × Nat) := do
  .lift (failIf (remaining < stateSectionHeaderSize)
    (failWith .truncated "state section header is truncated"))
  let rawType ← readU32At data offset
  let flags ← readU32At data (offset + 4)
  let sectionLength ← readU64At data (offset + 8)
  .lift (failIf (flags ≠ 0) (corrupt "unknown state section flags"))
  .lift (failIf (sectionLength.toNat < 4) (corrupt "state section length is too small"))
  .lift (failIf (remaining - stateSectionHeaderSize < sectionLength.toNat)
    (failWith .truncated "state section body is truncated"))
  let bodyOffset := offset + stateSectionHeaderSize
  let bodySize := sectionLength.toNat - 4
  let bodyCrc ← readU32At data (bodyOffset + bodySize)
  let body ← .read data bodyOffset bodySize
  .lift (failIf (crc32 body ≠ bodyCrc)
    (failWith .integrityFailure "state section checksum mismatch" (formatNat rawType.toNat)))
  .lift (failIf (rawType ∈ seenSections)
    (corrupt "duplicate state section" (formatNat rawType.toNat)))
  match SectionType.ofRaw rawType with
  | none => .lift (.error (corrupt "unknown state section type" (formatNat rawType.toNat)))
  | some type => return (rawType, type, body, sectionLength.toNat)

/-- One section at `offset`. Where its body fails, the records in front of the failure are staged. -/
def parseSectionAt (options : PersistenceOptions) (data : List UInt8) (staged : StagedState)
    (offset remaining : Nat) : Logged (Error × StagedState) (StagedState × Nat) := do
  let (rawType, type, body, sectionLength) ←
    (openSectionAt data staged.seenSections offset remaining).mapError (·, staged)
  let staged := { staged with seenSections := rawType :: staged.seenSections }
  let staged' ← (readBodyAt (stageSection options staged type) body
    (offset + stateSectionHeaderSize)).mapError (·, staged.reached options ⟨body, 0⟩ type)
  return (staged', sectionLength)

/-- The sections from `offset` on, with `remaining` bytes of the payload left. -/
def parseSectionsAt (options : PersistenceOptions) (data : List UInt8) (staged : StagedState)
    (offset remaining : Nat) : Logged (Error × StagedState) StagedState :=
  if remaining = 0 then return staged
  else
    parseSectionAt options data staged offset remaining >>= fun (staged, sectionLength) =>
      parseSectionsAt options data staged (offset + stateSectionHeaderSize + sectionLength)
        (remaining - (stateSectionHeaderSize + sectionLength))
termination_by remaining
decreasing_by
  rw [stateSectionHeaderSize]
  omega

/-- The checks of a parse that has seen all sections. -/
def checkStaged (staged : StagedState) (declaredRecords : UInt64) : Status := do
  failIf (¬staged.hasMeta) (corrupt "state file has no meta section")
  failIf (declaredRecords ≠ staged.recordCount)
    (corrupt "state record count does not match its payload"
      (ascii "declared=" ++ formatU64 declaredRecords ++ ascii " actual=" ++
        formatU64 staged.recordCount))
  checkReferences staged

/-- `parse_state`, with the offsets of the file it looks at and, where it fails, the records it
has staged. -/
def parseStateAt (data : List UInt8) (options : PersistenceOptions := {}) :
    Logged (Error × StagedState) StagedState := do
  let (payloadLength, coordinatorEpoch, observationEpoch, declaredRecords) ←
    (openStateAt data options).mapError (·, {})
  let staged ← parseSectionsAt options data
    { sourceCoordinatorEpoch := coordinatorEpoch, sourceObservationEpoch := observationEpoch }
    stateHeaderSize payloadLength.toNat
  (Logged.lift (checkStaged staged declaredRecords)).mapError (·, staged)
  return staged

/-- What has been staged in the end, whether the parse failed or not. -/
def stagedRecords : Except (Error × StagedState) StagedState → StagedState
  | .ok staged => staged
  | .error (_, staged) => staged

@[simp] theorem outcome_readU32At (data : List UInt8) (offset : Nat) :
    (readU32At data offset).outcome = .ok (getU32 data offset) := rfl

@[simp] theorem outcome_readU64At (data : List UInt8) (offset : Nat) :
    (readU64At data offset).outcome = .ok (getU64 data offset) := rfl

/-! ## Accesses -/

theorem safe_readU32At (h : offset + 4 ≤ data.length) :
    Safe data.length (readU32At data offset) (fun _ => True) fun _ => True :=
  (Safe.read h).bind fun _ _ => .pure trivial

theorem safe_readU64At (h : offset + 8 ≤ data.length) :
    Safe data.length (readU64At data offset) (fun _ => True) fun _ => True :=
  (Safe.read h).bind fun _ _ => .pure trivial

theorem safe_readBodyAt {r : PayloadReader α} {cost : α → Nat} {body : List UInt8}
    (hr : Moves r cost) (h : offset + body.length ≤ size) :
    Safe size (readBodyAt r body offset) (fun _ => True) fun x => cost x ≤ body.length where
  within s hs := by
    obtain rfl := mem_singleton.1 hs
    exact (Nat.add_le_add_left (hr.inside ⟨body, 0⟩ (Nat.zero_le _)) offset).trans h
  fails _ := trivial
  returns hx := hr.cost_le_length hx

/-- What follows a check may use that it passed. -/
theorem safe_check {p : Prop} [Decidable p] {f : Unit → Logged Error α} {Q : α → Prop}
    (h : ¬p → Safe size (f ()) (fun _ => True) Q) :
    Safe size (Logged.lift (failIf p e) >>= f) (fun _ => True) Q :=
  Safe.bind (P := fun _ => ¬p) ⟨.lift _, fun _ => trivial, failIf_eq_ok.1⟩ fun _ => h

/-- The declared lengths add up to that of the file: the bound on the payload keeps their sum
from wrapping around. -/
theorem length_of_expected {maxBytes : UInt64} (hmax : maxBytes.toNat + 80 < 2 ^ 64)
    (hn : ¬n > maxBytes)
    (hshort : ¬data.length < (UInt64.ofNat stateHeaderSize + n + UInt64.ofNat stateTrailerSize).toNat) :
    stateHeaderSize + n.toNat + stateTrailerSize ≤ data.length := by
  rw [gt_iff_lt, UInt64.not_lt, UInt64.le_iff_toNat_le] at hn
  rw [UInt64.toNat_add, UInt64.toNat_add] at hshort
  simp only [stateHeaderSize, stateTrailerSize, UInt64.toNat_ofNat'] at hshort ⊢
  omega

/-- The envelope is read inside the file, which is long enough for the payload it declares. -/
theorem safe_openStateAt (data : List UInt8) (hmax : options.maxBytes.toNat + 80 < 2 ^ 64) :
    Safe data.length (openStateAt data options) (fun _ => True) fun x =>
      stateHeaderSize + x.1.toNat + stateTrailerSize ≤ data.length := by
  refine safe_check fun hsize => ?_
  have hsize : 80 ≤ data.length := Nat.le_of_not_lt hsize
  refine (Safe.read (by omega)).bind fun _ _ => safe_check fun _ => ?_
  refine (safe_readU32At (by omega)).bind fun _ _ => safe_check fun _ => ?_
  refine (safe_readU32At (by omega)).bind fun _ _ => safe_check fun _ => ?_
  refine (safe_readU64At (by omega)).bind fun n _ => ?_
  refine (safe_readU64At (by omega)).bind fun c _ => ?_
  refine (safe_readU64At (by omega)).bind fun o _ => ?_
  refine (safe_readU64At (by omega)).bind fun r _ => ?_
  refine (safe_readU32At (by omega)).bind fun crc _ => ?_
  refine (Safe.read (by rw [stateHeaderSize]; omega)).bind fun _ _ => safe_check fun _ => ?_
  refine safe_check fun hbound => safe_check fun hshort => safe_check fun _ => ?_
  have hlength := length_of_expected hmax hbound hshort
  rw [stateTrailerSize] at hlength
  refine (Safe.read (by omega)).bind fun _ _ => safe_check fun _ => ?_
  refine (safe_readU32At (by omega)).bind fun _ _ => ?_
  refine (Safe.read (by omega)).bind fun _ _ => safe_check fun _ => ?_
  exact .pure hlength

/-- A section is read inside what is left, and its body is shorter than the section. -/
theorem safe_openSectionAt (data : List UInt8) (seenSections : List UInt32)
    (h : offset + remaining ≤ data.length) :
    Safe data.length (openSectionAt data seenSections offset remaining) (fun _ => True) fun x =>
      x.2.2.1.length ≤ x.2.2.2 ∧ stateSectionHeaderSize + x.2.2.2 ≤ remaining := by
  refine safe_check fun hheader => ?_
  have hheader : 16 ≤ remaining := Nat.le_of_not_lt hheader
  refine (safe_readU32At (by omega)).bind fun rawType _ => ?_
  refine (safe_readU32At (by omega)).bind fun flags _ => ?_
  refine (safe_readU64At (by omega)).bind fun sectionLength _ => ?_
  refine safe_check fun _ => safe_check fun hsmall => safe_check fun hbody => ?_
  rw [stateSectionHeaderSize] at hbody ⊢
  refine (safe_readU32At (by omega)).bind fun crc _ => ?_
  refine (Safe.read (by omega)).bind fun body hread => ?_
  have hlength : body.length ≤ sectionLength.toNat - 4 := hread ▸ length_take_le _ _
  refine safe_check fun _ => safe_check fun _ => ?_
  split
  · exact ⟨.lift _, fun _ => trivial, nofun⟩
  · refine .pure ⟨?_, ?_⟩
    · exact hlength.trans (Nat.sub_le _ _)
    · change 16 + sectionLength.toNat ≤ remaining
      omega

/-- A part of the parse that fails where at most `limit` records have been staged. -/
theorem safe_staged {x : Logged Error α} {Q : α → Prop} {limit : Nat}
    (h : Safe size x (fun _ => True) Q) (hstaged : staged.recordTotal ≤ limit) :
    Safe size (x.mapError (·, staged)) (fun e => e.2.recordTotal ≤ limit) Q :=
  h.mapError fun _ _ => hstaged

/-- A section stages no more records than it has bytes, whether it comes to its end or not. -/
theorem safe_parseSectionAt (options : PersistenceOptions) (data : List UInt8)
    (staged : StagedState) (h : offset + remaining ≤ data.length) :
    Safe data.length (parseSectionAt options data staged offset remaining)
      (fun e => e.2.recordTotal ≤ staged.recordTotal + remaining) fun x =>
        x.1.recordTotal ≤ staged.recordTotal + x.2 ∧ stateSectionHeaderSize + x.2 ≤ remaining := by
  refine (safe_staged (safe_openSectionAt data _ h) (Nat.le_add_right _ _)).bind
    fun (rawType, type, body, sectionLength) ⟨hbody, hlength⟩ => ?_
  dsimp only at hbody hlength ⊢
  have hseen : ({ staged with seenSections := rawType :: staged.seenSections } :
      StagedState).recordTotal = staged.recordTotal := rfl
  generalize { staged with seenSections := rawType :: staged.seenSections } = staged' at hseen ⊢
  have hreached := recordTotal_reached options staged' (c := ⟨body, 0⟩) (Nat.zero_le _) type
  dsimp only at hreached
  refine (safe_staged (safe_readBodyAt (moves_stageSection options staged' type) (by omega))
    (by omega)).bind fun st hst => .pure ⟨?_, hlength⟩
  dsimp only
  omega

theorem safe_parseSectionsAt (options : PersistenceOptions) (data : List UInt8)
    (staged : StagedState) (offset remaining : Nat) (h : offset + remaining ≤ data.length) :
    Safe data.length (parseSectionsAt options data staged offset remaining)
      (fun e => e.2.recordTotal ≤ staged.recordTotal + remaining)
      fun st => st.recordTotal ≤ staged.recordTotal + remaining := by
  fun_induction parseSectionsAt options data staged offset remaining with
  | case1 staged offset => exact .pure (Nat.le_refl _)
  | case2 staged offset remaining hne ih =>
    refine (safe_parseSectionAt options data staged h).bind
      fun (staged', sectionLength) ⟨htotal, hlength⟩ => ?_
    dsimp only at htotal hlength
    -- what is left of the bound is what is left of the payload
    refine (ih staged' sectionLength (by omega)).mono (fun e he => ?_) fun st hst => ?_ <;> omega

theorem safe_parseStateAt (data : List UInt8) (hmax : options.maxBytes.toNat + 80 < 2 ^ 64) :
    Safe data.length (parseStateAt data options) (fun e => e.2.recordTotal ≤ data.length)
      fun st => st.recordTotal ≤ data.length := by
  refine (safe_staged (safe_openStateAt data hmax) (Nat.zero_le _)).bind
    fun (n, c, o, r) hlength => ?_
  dsimp only at hlength ⊢
  have hnone : ({ sourceCoordinatorEpoch := c, sourceObservationEpoch := o } :
      StagedState).recordTotal = 0 := rfl
  have hsections := safe_parseSectionsAt options data
    { sourceCoordinatorEpoch := c, sourceObservationEpoch := o } stateHeaderSize n.toNat (by omega)
  rw [hnone] at hsections
  refine (hsections.mono (fun e he => ?_) fun _ => id).bind fun st hst => ?_
  · exact he.trans (by omega)
  have hst : st.recordTotal ≤ data.length := hst.trans (by omega)
  exact (safe_staged (Q := fun _ => True) ⟨.lift _, fun _ => trivial, fun _ => trivial⟩ hst).bind
    fun _ _ => .pure hst

/-! ## Outcomes -/

/-- A field of a part of the file, at its offset in the file. -/
theorem getU32_slice {n : Nat} (h : n + 4 ≤ remaining) :
    getU32 ((data.drop offset).take remaining) n = getU32 data (offset + n) := by
  rw [getU32, getU32, drop_take, take_take, drop_drop,
    Nat.min_eq_left (by omega)]

theorem getU64_slice {n : Nat} (h : n + 8 ≤ remaining) :
    getU64 ((data.drop offset).take remaining) n = getU64 data (offset + n) := by
  rw [getU64, getU64, drop_take, take_take, drop_drop,
    Nat.min_eq_left (by omega)]

theorem outcome_openStateAt (data : List UInt8) (options : PersistenceOptions) :
    openState data options = (openStateAt data options).outcome >>= fun (n, c, o, r) =>
      .ok ((data.drop stateHeaderSize).take n.toNat, c, o, r) := by
  have hheader : ((data.take stateHeaderSize).take 48 ++ PayloadWriter.u32 0 ++
      (data.take stateHeaderSize).drop 52) =
      data.take 48 ++ PayloadWriter.u32 0 ++ (data.drop 52).take 12 := by
    rw [take_take, drop_take]
    rfl
  have hcrc (n : Nat) : getU32 data (n + 8) = getU32 (data.drop n) 8 := by
    rw [getU32, getU32, drop_drop]
  unfold openState openStateAt
  simp only [Logged.outcome_bind, Logged.outcome_lift, Logged.outcome_read, outcome_readU32At,
    outcome_readU64At, Logged.outcome_pure, ok_bind, bind_assoc, drop_zero, hheader, hcrc]
  rfl

/-- The outcome without the records that were staged. -/
def forget (x : Logged (Error × StagedState) α) : Except Error α := x.outcome.mapError Prod.fst

section

variable {β : Type}

theorem forget_bind (x : Logged (Error × StagedState) α)
    (f : α → Logged (Error × StagedState) β) :
    forget (x >>= f) = forget x >>= fun a => forget (f a) := by
  obtain ⟨outcome, slices⟩ := x
  cases outcome <;> rfl

theorem forget_mapError (x : Logged Error α) (staged : StagedState) :
    forget (x.mapError (·, staged)) = x.outcome := by
  obtain ⟨outcome, slices⟩ := x
  cases outcome <;> rfl

end

theorem outcome_openSectionAt (options : PersistenceOptions) (data : List UInt8)
    (staged : StagedState) (h : offset + remaining ≤ data.length) :
    parseSection options staged ((data.drop offset).take remaining) =
      (openSectionAt data staged.seenSections offset remaining).outcome >>=
        fun (rawType, type, body, sectionLength) => do
          let staged' ← (stageSection options
            { staged with seenSections := rawType :: staged.seenSections } type).run body
          return (staged', sectionLength) := by
  have hlength : ((data.drop offset).take remaining).length = remaining := by
    rw [length_take, length_drop]
    omega
  unfold parseSection openSectionAt
  simp only [Logged.outcome_bind, Logged.outcome_lift, Logged.outcome_read, outcome_readU32At,
    outcome_readU64At, ok_bind, hlength, bind_assoc]
  -- a field is only compared once it is known to be there
  by_cases hheader : remaining < stateSectionHeaderSize
  · simp only [failIf, if_pos hheader, error_bind]
  have hsixteen : 16 ≤ remaining := Nat.le_of_not_lt hheader
  rw [failIf_bind hheader, failIf_bind hheader, getU32_slice (n := 0) (by omega),
    getU32_slice (n := 4) (by omega), getU64_slice (n := 8) (by omega), Nat.add_zero]
  refine bind_congr fun _ => ?_
  generalize (getU64 data (offset + 8)).toNat = sectionLength
  by_cases hsmall : sectionLength < 4
  · simp only [failIf, if_pos hsmall, error_bind]
  rw [failIf_bind hsmall, failIf_bind hsmall]
  by_cases hbody : remaining - stateSectionHeaderSize < sectionLength
  · simp only [failIf, if_pos hbody, error_bind]
  rw [failIf_bind hbody, failIf_bind hbody]
  rw [stateSectionHeaderSize] at hbody ⊢
  rw [getU32_slice (n := 16 + (sectionLength - 4)) (by omega), drop_take, take_take,
    drop_drop, Nat.min_eq_left (by omega), Nat.add_assoc offset]
  refine bind_congr fun _ => bind_congr fun _ => ?_
  cases SectionType.ofRaw (getU32 data offset) with
  | none => rfl
  | some type => rfl

theorem forget_parseSectionAt (options : PersistenceOptions) (data : List UInt8)
    (staged : StagedState) (h : offset + remaining ≤ data.length) :
    forget (parseSectionAt options data staged offset remaining) =
      parseSection options staged ((data.drop offset).take remaining) := by
  rw [parseSectionAt, outcome_openSectionAt options data staged h, forget_bind, forget_mapError]
  refine bind_congr fun (rawType, type, body, sectionLength) => ?_
  dsimp only
  rw [forget_bind, forget_mapError]
  rfl

theorem forget_parseSectionsAt (options : PersistenceOptions) (data : List UInt8)
    (staged : StagedState) (offset remaining : Nat) (h : offset + remaining ≤ data.length) :
    forget (parseSectionsAt options data staged offset remaining) =
      parseSections options staged ((data.drop offset).take remaining) := by
  fun_induction parseSectionsAt options data staged offset remaining with
  | case1 staged offset => rw [take_zero, parseSections]; rfl
  | case2 staged offset remaining hne ih =>
    have hempty : ((data.drop offset).take remaining).isEmpty = false := by
      rw [isEmpty_eq_false_iff, ← length_pos_iff, length_take, length_drop]
      omega
    rw [parseSections, hempty, if_neg Bool.false_ne_true, forget_bind]
    have hsafe := safe_parseSectionAt options data staged h
    rw [← forget_parseSectionAt options data staged h, forget]
    cases hsection : (parseSectionAt options data staged offset remaining).outcome with
    | error e => rfl
    | ok result =>
      obtain ⟨staged', sectionLength⟩ := result
      have hle := (hsafe.returns hsection).2
      simp only [Except.mapError, ok_bind]
      rw [ih staged' sectionLength (by omega), drop_take, drop_drop, Nat.add_assoc]

/-- The offsets leave the outcome alone. -/
theorem forget_parseStateAt (data : List UInt8) (options : PersistenceOptions)
    (hmax : options.maxBytes.toNat + 80 < 2 ^ 64) :
    forget (parseStateAt data options) = parseState data options := by
  unfold parseState parseStateAt
  rw [outcome_openStateAt, forget_bind, forget_mapError, bind_assoc]
  cases hopen : (openStateAt data options).outcome with
  | error e => rfl
  | ok header =>
    obtain ⟨n, c, o, r⟩ := header
    have hlength := (safe_openStateAt data hmax).returns hopen
    dsimp only at hlength
    simp only [ok_bind, forget_bind, forget_mapError, Logged.outcome_lift, checkStaged, bind_assoc,
      forget_parseSectionsAt options data _ stateHeaderSize n.toNat (by omega)]
    rfl

/-! ## Loading -/

/-- A load that fails leaves the state as it was, whether the file cannot be read or not be
parsed. -/
theorem loadState_of_error {s : State} {path : Text} {file : Option (List UInt8)}
    {clock : Nat → Nanos} (h : (loadState s path file options clock).1 = .error e) :
    (loadState s path file options clock).2 = s := by
  unfold loadState at h ⊢
  split
  · rfl
  · next data hread =>
    rw [hread] at h
    dsimp only at h ⊢
    split
    · rfl
    · next staged hparse =>
      rw [hparse] at h
      simp at h

/-- A parse with default options has an outcome for every byte string, every byte it looks at is
    inside the string, and it stages no more records than the string has bytes, whether it fails
    or not; a load that fails leaves the state as it was. -/
theorem loading_safe (data : List UInt8) :
    (forget (parseStateAt data) = parseState data ∧
      ∀ slice ∈ (parseStateAt data).slices, slice.offset + slice.length ≤ data.length) ∧
    (stagedRecords (parseStateAt data).outcome).recordTotal ≤ data.length ∧
    ∀ (s : State) (path : Text) (file : Option (List UInt8)) (clock : Nat → Nanos) (e : Error),
      (loadState s path file {} clock).1 = .error e → (loadState s path file {} clock).2 = s := by
  have hmax : ({} : PersistenceOptions).maxBytes.toNat + 80 < 2 ^ 64 := by decide
  have hsafe := safe_parseStateAt data hmax
  refine ⟨⟨forget_parseStateAt data {} hmax, hsafe.within⟩, ?_, fun _ _ _ _ _ => loadState_of_error⟩
  cases houtcome : (parseStateAt data).outcome with
  | error e => exact hsafe.fails houtcome
  | ok staged => exact hsafe.returns houtcome

/-- A file of two nodes, of which the second is cut off. -/
def cutOffFile : List UInt8 :=
  sealState (buildSection .nodes (PayloadWriter.u64 2 ++ writeNode { id := ascii "n" } ++ [1])) 1 0 0

set_option maxRecDepth 10000 in
/-- The first node of the file is staged, the load fails, and the state keeps the node it has. -/
theorem loading_safe_cutOff :
    let s := (registerNode (State.initial {} 0) { id := ascii "m" } 0).2
    (stagedRecords (parseStateAt cutOffFile).outcome).recordTotal = 1 ∧ 1 ≤ cutOffFile.length ∧
      (loadState s [] (some cutOffFile) {} fun _ => 0).2 = s := by
  intro s
  obtain ⟨-, hrecords, hload⟩ := loading_safe cutOffFile
  have hone : (stagedRecords (parseStateAt cutOffFile).outcome).recordTotal = 1 := by
    decide +kernel
  rw [hone] at hrecords
  have hfailed : (loadState s [] (some cutOffFile) {} fun _ => 0).1.toBool = false := by
    decide +kernel
  cases hresult : (loadState s [] (some cutOffFile) {} fun _ => 0).1 with
  | error e => exact ⟨hone, hrecords, hload s [] (some cutOffFile) (fun _ => 0) e hresult⟩
  | ok report => exact absurd (hresult ▸ hfailed) nofun

end CoherenceObservatory
