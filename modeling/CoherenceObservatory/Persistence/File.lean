import CoherenceObservatory.Persistence.Section
import CoherenceObservatory.Publisher

/-!
# State files

`save_state` lays the state out as checksummed sections inside a checksummed envelope,
`parse_state` accepts a file as a whole or not at all, and `load_state` applies an accepted
file: the structure and the replay watermarks come back, the epochs advance, and nothing
that was current before stays current.

A file is its bytes. What the file system can do to a write is outside the model: a save
that fails leaves the file alone, a load that fails leaves the state alone.
-/

namespace CoherenceObservatory

open Std Codec Limits PayloadReader

/-- `PersistenceOptions`. -/
structure PersistenceOptions where
  maxBytes : UInt64 := UInt64.ofNat maxPersistenceBytes
  includeHistory : Bool := true
  maxHistoryRecords : Nat := Limits.maxHistoryRecords

/-! ## Section types -/

/-- The sections of a file. -/
inductive SectionType
  | metaInfo | nodes | processors | accelerators | memoryDomains | coherenceDomains | regions
  | topology | publisherWatermarks | capabilities | costModel | historicalAggregates | history
  deriving DecidableEq

namespace SectionType

/-- The sections in the order of a save. -/
def all : List SectionType :=
  [metaInfo, nodes, processors, accelerators, memoryDomains, coherenceDomains, regions, topology,
   publisherWatermarks, capabilities, costModel, historicalAggregates, history]

/-- The number a section is marked with, from one on. -/
def raw : SectionType → UInt32
  | metaInfo => 1
  | nodes => 2
  | processors => 3
  | accelerators => 4
  | memoryDomains => 5
  | coherenceDomains => 6
  | regions => 7
  | topology => 8
  | publisherWatermarks => 9
  | capabilities => 10
  | costModel => 11
  | historicalAggregates => 12
  | history => 13

/-- The section of a number, if there is one. -/
def ofRaw (raw : UInt32) : Option SectionType := all.find? fun type => type.raw = raw

theorem ofRaw_raw (type : SectionType) : ofRaw type.raw = some type := by
  cases type <;> decide

end SectionType

/-! ## Writing -/

/-- A counted list of encoded records. -/
def writeCounted {α : Type} (write : α → List UInt8) (records : List α) : List UInt8 :=
  PayloadWriter.u64 (UInt64.ofNat records.length) ++ records.flatMap write

/-- The records of a map in key order. -/
def writeMap {κ α : Type} [Ord κ] [TransOrd κ] (write : κ × α → List UInt8)
    (m : ExtTreeMap κ α) : List UInt8 :=
  writeCounted write m.toList

/-- The body of the first section. -/
def writeMeta (s : State) : List UInt8 :=
  PayloadWriter.u32 1 ++
  PayloadWriter.text s.options.observerId maxNameLength ++
  PayloadWriter.text s.options.nodeId maxNameLength ++
  PayloadWriter.text s.options.displayName maxRegionAnnotationLength ++
  PayloadWriter.u64 s.topologyGeneration ++
  PayloadWriter.u64 s.evidenceGeneration ++
  PayloadWriter.u64 s.options.timeBucketNs.toUInt64 ++
  PayloadWriter.u64 s.coordinatorEpoch ++
  PayloadWriter.u64 s.observationEpoch

/-- What is stored for a boot that is still bound. -/
def PublisherState.liveWatermark (p : PublisherState) : PublisherWatermark where
  publisher := p.view.id
  boot := p.view.boot
  highWatermark := p.highWatermark
  hasWatermark := p.hasWatermark
  fenced := p.view.fenced
  fenceReason := p.view.fenceReason
  bootIncarnations := p.bootIncarnations
  lastSeenNs := p.view.lastSeenNs

/-- A bound boot enters the stored table unless the table already has an entry for it. -/
def addLive (m : ExtTreeMap Text PublisherWatermark) (p : PublisherState) :
    ExtTreeMap Text PublisherWatermark :=
  if bootKey p.view.id p.view.boot ∈ m then m
  else m.insert (bootKey p.view.id p.view.boot) p.liveWatermark

/-- The watermarks a save stores. -/
def storedWatermarks (s : State) : ExtTreeMap Text PublisherWatermark :=
  (s.publishers.toList.map Prod.snd).foldl addLive s.watermarks

/-- The historical aggregates a save stores. -/
def storedAggregates (s : State) (options : PersistenceOptions) :
    List (AggregateKey × AggregateValue) :=
  s.historicalAggregates.buckets.toList.take options.maxHistoryRecords

/-- The historical evidence a save stores. -/
def storedHistory (s : State) (options : PersistenceOptions) : List HistoricalEvidence :=
  s.history.take options.maxHistoryRecords

/-- The sections of the history, where it is saved. -/
def historySections (s : State) (options : PersistenceOptions) :
    List (SectionType × List UInt8) :=
  if options.includeHistory then
    [(.historicalAggregates,
      writeCounted (fun e => writeAggregate e.1 e.2) (storedAggregates s options)),
     (.history, writeCounted writeHistory (storedHistory s options))]
  else []

/-- The sections of a save, in file order. -/
def savedSections (s : State) (options : PersistenceOptions) : List (SectionType × List UInt8) :=
  [(.metaInfo, writeMeta s),
   (.nodes, writeMap (fun e => writeNode e.2) s.nodes),
   (.processors, writeMap (fun e => writeProcessor e.2) s.processors),
   (.accelerators, writeMap (fun e => writeAccelerator e.2) s.accelerators),
   (.memoryDomains, writeMap (fun e => writeMemoryDomain e.2) s.memoryDomains),
   (.coherenceDomains, writeMap (fun e => writeCoherenceDomain e.2) s.coherenceDomains),
   (.regions, writeMap (fun e => writeRegion e.2) s.regions),
   (.topology, PayloadWriter.u64 s.topologyGeneration ++ writeCounted writeLink s.topology.links),
   (.publisherWatermarks, writeMap (fun e => writeWatermark e.2) (storedWatermarks s)),
   (.capabilities, writeMap (fun e => writeCapability e.2) s.capabilities),
   (.costModel, writeCostModel s.options.costModel)] ++ historySections s options

/-- `build_section`: the length covers the body and its checksum. -/
def buildSection (type : SectionType) (body : List UInt8) : List UInt8 :=
  PayloadWriter.u32 type.raw ++ PayloadWriter.u32 0 ++
    PayloadWriter.u64 (UInt64.ofNat (body.length + 4)) ++ body ++ PayloadWriter.u32 (crc32 body)

/-- How a file starts. -/
def stateMagic : List UInt8 := ascii "COBSST01"
/-- How its trailer starts. -/
def stateTrailerMagic : List UInt8 := ascii "COBSEND1"

/-- The header of a file, with the given checksum in place. -/
def stateHeader (payloadLength coordinatorEpoch observationEpoch recordCount : UInt64)
    (crc : UInt32) : List UInt8 :=
  stateMagic ++ PayloadWriter.u32 stateVersion ++ PayloadWriter.u32 0 ++
    PayloadWriter.u64 payloadLength ++ PayloadWriter.u64 coordinatorEpoch ++
    PayloadWriter.u64 observationEpoch ++ PayloadWriter.u64 recordCount ++
    PayloadWriter.u32 crc ++ PayloadWriter.u32 0 ++ PayloadWriter.u64 0

/-- A payload in its envelope. The header's checksum is taken with its own field zero. -/
def sealState (payload : List UInt8) (coordinatorEpoch observationEpoch recordCount : UInt64) :
    List UInt8 :=
  let header := stateHeader (UInt64.ofNat payload.length) coordinatorEpoch observationEpoch recordCount
  header (crc32 (header 0)) ++ payload ++
    (stateTrailerMagic ++ PayloadWriter.u32 (crc32 payload) ++ PayloadWriter.u32 0)

/-- How many historical records a save stores. -/
def storedRecords (s : State) (options : PersistenceOptions) : Nat :=
  if options.includeHistory
  then (storedHistory s options).length + (storedAggregates s options).length else 0

/-- The file `save_state` writes. -/
def saveState (s : State) (options : PersistenceOptions := {}) : List UInt8 :=
  sealState ((savedSections s options).flatMap fun e => buildSection e.1 e.2)
    s.coordinatorEpoch s.observationEpoch (UInt64.ofNat (storedRecords s options))

/-! ## Reading -/

/-- `stage_meta`. -/
def stageMeta (staged : StagedState) : PayloadReader StagedState := do
  let schemaVersion ← u32
  Reader.failIf (schemaVersion ≠ 1)
    (failWith .unsupportedStateVersion "unsupported state schema version"
      (formatNat schemaVersion.toNat))
  let observerId ← text maxNameLength
  let nodeId ← text maxNameLength
  let displayName ← text maxRegionAnnotationLength
  let topologyGeneration ← u64
  let evidenceGeneration ← u64
  let bucket ← u64
  let sourceCoordinatorEpoch ← u64
  let sourceObservationEpoch ← u64
  Reader.lift (checkOptionalToken observerId)
  Reader.lift (checkOptionalToken nodeId)
  Reader.failIf (bucket > maxTimestampNs) (corrupt "time bucket width out of range")
  requireExhausted
  return { staged with
    hasMeta := true, observerId, nodeId, displayName, topologyGeneration, evidenceGeneration
    timeBucketNs := bucket.toInt64, sourceCoordinatorEpoch, sourceObservationEpoch }

/-- A section of one table, filed under the keys its records name. -/
@[irreducible]
def stageTable {α : Type} (table : ExtTreeMap Text α) (bound : Nat) (tooMany : String)
    (keyOf : α → Text) (read : PayloadReader α) (duplicate : String)
    (put : ExtTreeMap Text α → StagedState) : PayloadReader StagedState := do
  let (_, m) ← stageMap table bound tooMany (keyed keyOf read) (corrupt duplicate ·)
  requireExhausted
  return put m

/-- `stage_nodes`. -/
def stageNodes (staged : StagedState) : PayloadReader StagedState :=
  stageTable staged.nodes maxNodeCount "node count exceeds the bound" NodeRecord.id readNode
    "duplicate node identity" fun nodes => { staged with nodes }

/-- `stage_processors`. -/
def stageProcessors (staged : StagedState) : PayloadReader StagedState :=
  stageTable staged.processors maxProcessorCount "processor count exceeds the bound"
    ProcessorRecord.id readProcessor "duplicate processor identity"
    fun processors => { staged with processors }

/-- `stage_accelerators`. -/
def stageAccelerators (staged : StagedState) : PayloadReader StagedState :=
  stageTable staged.accelerators maxAcceleratorCount "accelerator count exceeds the bound"
    AcceleratorRecord.id readAccelerator "duplicate accelerator identity"
    fun accelerators => { staged with accelerators }

/-- `stage_memory_domains`. -/
def stageMemoryDomains (staged : StagedState) : PayloadReader StagedState :=
  stageTable staged.memoryDomains maxMemoryDomainCount "memory domain count exceeds the bound"
    MemoryDomainRecord.id readMemoryDomain "duplicate memory domain identity"
    fun memoryDomains => { staged with memoryDomains }

/-- `stage_coherence_domains`. -/
def stageCoherenceDomains (staged : StagedState) : PayloadReader StagedState :=
  stageTable staged.coherenceDomains maxCoherenceDomainCount
    "coherence domain count exceeds the bound" CoherenceDomainRecord.id readCoherenceDomain
    "duplicate coherence domain identity" fun coherenceDomains => { staged with coherenceDomains }

/-- `stage_regions`. -/
def stageRegions (staged : StagedState) : PayloadReader StagedState :=
  stageTable staged.regions maxRegionCount "region count exceeds the bound" RegionRecord.id
    readRegion "duplicate region identity" fun regions => { staged with regions }

/-- `stage_topology`. -/
def stageTopology (staged : StagedState) : PayloadReader StagedState := do
  let topologyGeneration ← u64
  let (_, links) ← stageList maxTopologyLinkCount "topology link count exceeds the bound"
    readLink
  requireExhausted
  return { staged with topologyGeneration, links := staged.links ++ links }

/-- `stage_watermarks`. -/
def stageWatermarks (staged : StagedState) : PayloadReader StagedState :=
  stageTable staged.watermarks maxPublisherWatermarks "publisher watermark count exceeds the bound"
    (fun w => bootKey w.publisher w.boot) readWatermark "duplicate publisher watermark"
    fun watermarks => { staged with watermarks }

/-- The most capabilities a file may have. Nothing bounds how many a state has. -/
def maxStoredCapabilities : Nat := 256

/-- `stage_capabilities`. -/
def stageCapabilities (staged : StagedState) : PayloadReader StagedState :=
  stageTable staged.capabilities maxStoredCapabilities "capability count exceeds the bound"
    Capability.key readCapability "duplicate capability key"
    fun capabilities => { staged with capabilities }

/-- `stage_cost_model`. -/
def stageCostModel (staged : StagedState) : PayloadReader StagedState := do
  let costModel ← readCostModel
  requireExhausted
  return { staged with costModel := some costModel }

/-- `stage_historical_aggregates`: these count as records of the file. -/
def stageHistoricalAggregates (staged : StagedState) : PayloadReader StagedState := do
  let (count, historicalAggregates) ← stageMap staged.historicalAggregates
    maxHistoryAggregates "historical aggregate count exceeds the bound" readAggregate
    fun key => corrupt "duplicate historical aggregate key" key.value
  requireExhausted
  return { staged with historicalAggregates, recordCount := staged.recordCount + count }

/-- `stage_history`: so do these. -/
def stageHistory (options : PersistenceOptions) (staged : StagedState) :
    PayloadReader StagedState := do
  let (count, history) ← stageList options.maxHistoryRecords
    "history record count exceeds the configured bound" readHistory
  requireExhausted
  return { staged with
    history := staged.history ++ history, recordCount := staged.recordCount + count }

/-- Reads the body of a section. -/
def stageSection (options : PersistenceOptions) (staged : StagedState) :
    SectionType → PayloadReader StagedState
  | .metaInfo => stageMeta staged
  | .nodes => stageNodes staged
  | .processors => stageProcessors staged
  | .accelerators => stageAccelerators staged
  | .memoryDomains => stageMemoryDomains staged
  | .coherenceDomains => stageCoherenceDomains staged
  | .regions => stageRegions staged
  | .topology => stageTopology staged
  | .publisherWatermarks => stageWatermarks staged
  | .capabilities => stageCapabilities staged
  | .costModel => stageCostModel staged
  | .historicalAggregates => stageHistoricalAggregates staged
  | .history => stageHistory options staged

/-- One section at the start of the rest of the payload, and its length. -/
def parseSection (options : PersistenceOptions) (staged : StagedState) (rest : List UInt8) :
    Except Error (StagedState × Nat) := do
  failIf (rest.length < stateSectionHeaderSize)
    (failWith .truncated "state section header is truncated")
  let rawType := getU32 rest 0
  let sectionLength := (getU64 rest 8).toNat
  failIf (getU32 rest 4 ≠ 0) (corrupt "unknown state section flags")
  failIf (sectionLength < 4) (corrupt "state section length is too small")
  failIf (rest.length - stateSectionHeaderSize < sectionLength)
    (failWith .truncated "state section body is truncated")
  let bodySize := sectionLength - 4
  let body := (rest.drop stateSectionHeaderSize).take bodySize
  failIf (crc32 body ≠ getU32 rest (stateSectionHeaderSize + bodySize))
    (failWith .integrityFailure "state section checksum mismatch" (formatNat rawType.toNat))
  failIf (rawType ∈ staged.seenSections)
    (corrupt "duplicate state section" (formatNat rawType.toNat))
  match SectionType.ofRaw rawType with
  | none => .error (corrupt "unknown state section type" (formatNat rawType.toNat))
  | some type =>
    let staged ← (stageSection options
      { staged with seenSections := rawType :: staged.seenSections } type).run body
    return (staged, sectionLength)

/-- The sections of a payload. A section never reaches past the end of the rest, so the
payload is consumed exactly. -/
def parseSections (options : PersistenceOptions) (staged : StagedState) (rest : List UInt8) :
    Except Error StagedState :=
  if rest.isEmpty then .ok staged
  else
    match parseSection options staged rest with
    | .error e => .error e
    | .ok (staged, sectionLength) =>
      parseSections options staged (rest.drop (stateSectionHeaderSize + sectionLength))
termination_by rest.length
decreasing_by
  have : rest ≠ [] := by simpa using ‹¬rest.isEmpty = true›
  have := List.length_pos_iff.2 this
  simp only [List.length_drop, stateSectionHeaderSize]
  omega

/-- Fails at the first entry with a defect. -/
def checkEach {α : Type} (l : List α) (defect : α → Bool) (e : α → Error) : Status :=
  match l.find? defect with
  | none => .ok ()
  | some x => .error (e x)

/-- Every reference between sections must resolve. -/
def checkReferences (staged : StagedState) : Status := do
  checkEach staged.regions.toList
    (fun e => e.2.memoryDomain ≠ [] ∧ e.2.memoryDomain ∉ staged.memoryDomains)
    fun e => corrupt "region references an unknown memory domain" e.1
  checkEach staged.memoryDomains.toList
    (fun e => e.2.coherenceDomain ≠ [] ∧ e.2.coherenceDomain ∉ staged.coherenceDomains)
    fun e => corrupt "memory domain references an unknown coherence domain" e.1
  checkEach staged.processors.toList (fun e => e.2.node ≠ [] ∧ e.2.node ∉ staged.nodes)
    fun e => corrupt "processor references an unknown node" e.1
  checkEach staged.links (fun link => link.source.id = [] ∨ link.target.id = [])
    fun _ => corrupt "topology link endpoint is empty"

/-- The envelope of a file: the payload, the two epochs and the record count it declares. -/
def openState (data : List UInt8) (options : PersistenceOptions) :
    Except Error (List UInt8 × UInt64 × UInt64 × UInt64) := do
  failIf (data.length < stateHeaderSize + stateTrailerSize)
    (failWith .emptyState "state file is shorter than its fixed envelope")
  failIf (data.take 8 ≠ stateMagic) (failWith .invalidMagic "state file magic mismatch")
  failIf (getU32 data 8 ≠ stateVersion)
    (failWith .unsupportedStateVersion "unsupported state file version"
      (formatNat (getU32 data 8).toNat))
  failIf (getU32 data 12 ≠ 0)
    (corrupt "unknown state file flags" (formatNat (getU32 data 12).toNat))
  let payloadLength := getU64 data 16
  -- the checksum field itself counts as zero
  failIf (crc32 (data.take 48 ++ PayloadWriter.u32 0 ++ (data.drop 52).take 12) ≠ getU32 data 48)
    (failWith .integrityFailure "state header checksum mismatch")
  failIf (payloadLength > options.maxBytes)
    (failWith .tooLarge "state payload exceeds the accepted bound")
  let expected : UInt64 := UInt64.ofNat stateHeaderSize + payloadLength +
    UInt64.ofNat stateTrailerSize
  failIf (data.length < expected.toNat)
    (failWith .truncated "state file is truncated"
      (ascii "expected=" ++ formatU64 expected ++ ascii " actual=" ++ formatNat data.length))
  failIf (data.length > expected.toNat) (corrupt "trailing bytes follow the state payload")
  let payload := (data.drop stateHeaderSize).take payloadLength.toNat
  let trailer := data.drop (stateHeaderSize + payloadLength.toNat)
  failIf (trailer.take 8 ≠ stateTrailerMagic)
    (failWith .invalidMagic "state trailer magic mismatch")
  failIf (crc32 payload ≠ getU32 trailer 8)
    (failWith .integrityFailure "state payload checksum mismatch")
  return (payload, getU64 data 24, getU64 data 32, getU64 data 40)

/-- `parse_state`. -/
def parseState (data : List UInt8) (options : PersistenceOptions := {}) :
    Except Error StagedState := do
  let (payload, coordinatorEpoch, observationEpoch, declaredRecords) ← openState data options
  let staged ← parseSections options
    { sourceCoordinatorEpoch := coordinatorEpoch, sourceObservationEpoch := observationEpoch }
    payload
  failIf (¬staged.hasMeta) (corrupt "state file has no meta section")
  failIf (declaredRecords ≠ staged.recordCount)
    (corrupt "state record count does not match its payload"
      (ascii "declared=" ++ formatU64 declaredRecords ++ ascii " actual=" ++
        formatU64 staged.recordCount))
  checkReferences staged
  return staged

/-! ## Recovery -/

/-- `PersistenceReport`. -/
structure PersistenceReport where
  bytesWritten : Nat := 0
  bytesRead : Nat := 0
  sections : Nat := 0
  regions : Nat := 0
  processors : Nat := 0
  accelerators : Nat := 0
  memoryDomains : Nat := 0
  coherenceDomains : Nat := 0
  topologyLinks : Nat := 0
  publisherWatermarks : Nat := 0
  historyRecords : Nat := 0
  historyAggregates : Nat := 0
  sourceCoordinatorEpoch : CoordinatorEpoch := 0
  nextCoordinatorEpoch : CoordinatorEpoch := 0

/-- The report of a load of `bytes` bytes. -/
def loadReport (staged : StagedState) (bytes : Nat) : PersistenceReport where
  bytesRead := bytes
  regions := staged.regions.size
  processors := staged.processors.size
  accelerators := staged.accelerators.size
  memoryDomains := staged.memoryDomains.size
  coherenceDomains := staged.coherenceDomains.size
  topologyLinks := staged.links.length
  publisherWatermarks := staged.watermarks.size
  historyRecords := staged.history.length
  historyAggregates := staged.historicalAggregates.size
  sourceCoordinatorEpoch := staged.sourceCoordinatorEpoch
  nextCoordinatorEpoch := staged.sourceCoordinatorEpoch + 1

/-- A restored watermark is not a fence: its boot may register again. -/
def PublisherWatermark.recovered (w : PublisherWatermark) : PublisherWatermark :=
  { w with fenced := false, fenceReason := .coordinatorRestart }

/-- The options a file overrides. -/
def ObservatoryOptions.recover (o : ObservatoryOptions) (staged : StagedState) :
    ObservatoryOptions :=
  { o with
    observerId := if staged.observerId = [] then o.observerId else staged.observerId
    nodeId := if staged.nodeId = [] then o.nodeId else staged.nodeId
    displayName := if staged.displayName = [] then o.displayName else staged.displayName
    timeBucketNs := if staged.timeBucketNs > 0 then staged.timeBucketNs else o.timeBucketNs
    costModel := staged.costModel.getD o.costModel }

/-- An accepted file is applied. -/
def recover (s : State) (staged : StagedState) (clock : Nat → Nanos) : State :=
  let epoch := staged.sourceCoordinatorEpoch + 1
  recordStale
    { s with
      options := s.options.recover staged
      coordinatorEpoch := epoch
      observationEpoch := staged.sourceObservationEpoch + 1
      topologyGeneration := staged.topologyGeneration
      evidenceGeneration :=
        if staged.evidenceGeneration = 0 then 1 else staged.evidenceGeneration
      nodes := staged.nodes
      processors := staged.processors
      accelerators := staged.accelerators
      memoryDomains := staged.memoryDomains
      coherenceDomains := staged.coherenceDomains
      regions := staged.regions.map fun _ r => { r with loadedFromState := true }
      topology :=
        { links := staged.links
          generation := staged.topologyGeneration
          loadedFromState := true
          createdAtNs := clock 0 }
      watermarks := trimWatermarks (staged.watermarks.map fun _ w => w.recovered)
      capabilities := staged.capabilities.toList.foldl (fun m e => m.insert e.1 e.2) s.capabilities
      historicalAggregates := { buckets := staged.historicalAggregates }
      history := staged.history
      historicalObservationCount := staged.recordCount
      historySourceEpoch := staged.sourceCoordinatorEpoch
      aggregates := {}
      journal := []
      regionEvidence := ∅
      regionEvidenceOrder := []
      counters := ∅
      publishers := ∅
      stale := [] }
    { kind := .staleEpoch
      observedAtNs := clock 1
      detail := ascii "coordinator epoch advanced to " ++ formatU64 epoch ++
        ascii " by durable recovery; prior publishers are not current and must re-register" }

theorem recover_publishers (s : State) (staged : StagedState) (clock : Nat → Nanos) :
    (recover s staged clock).publishers = ∅ := by
  rw [recover, recordStale]

theorem recover_watermarks (s : State) (staged : StagedState) (clock : Nat → Nanos) :
    (recover s staged clock).watermarks =
      trimWatermarks (staged.watermarks.map fun _ w => w.recovered) := by
  rw [recover, recordStale]

/-- `read_file_bounded`, for a file that can be read as a whole if it exists. -/
def readFileBounded (path : Text) (file : Option (List UInt8)) (maxBytes : UInt64) :
    Except Error (List UInt8) :=
  match file with
  | none => .error (failWith .notFound "cannot stat file" path)
  | some data =>
    if data.length > maxBytes.toNat then
      .error (failWith .tooLarge "file exceeds the accepted size bound" path)
    else .ok data

theorem readFileBounded_eq_ok {path : Text} {file : Option (List UInt8)} {maxBytes : UInt64}
    {data : List UInt8} (h : readFileBounded path file maxBytes = .ok data) : file = some data := by
  unfold readFileBounded at h
  split at h
  · simp at h
  · split at h
    · simp at h
    · rw [Except.ok.inj h]

/-- `load_state`. -/
def loadState (s : State) (path : Text) (file : Option (List UInt8)) (options : PersistenceOptions)
    (clock : Nat → Nanos) : Except Error PersistenceReport × State :=
  match readFileBounded path file options.maxBytes with
  | .error e => (.error e, s)
  | .ok data =>
    match parseState data options with
    | .error e => (.error e, s)
    | .ok staged => (.ok (loadReport staged data.length), recover s staged clock)

end CoherenceObservatory
