import CoherenceObservatory.Record

/-!
# Cost estimates

What a quantity of observed traffic costs. Counts and bytes are facts; the latency is
measured, or what the cost model makes of the counts. Every contribution is a named term.

Floating point numbers are kept as bits (`F64`); arithmetic on them is the machine's.
-/

namespace CoherenceObservatory

namespace F64

/-- The number the bits stand for. -/
def toFloat (v : F64) : Float := Float.ofBits v.bits

/-- Its bits. -/
def ofFloat (v : Float) : F64 := ⟨v.toBits⟩

/-- `static_cast<double>` of a count. -/
def ofUInt64 (n : UInt64) : F64 := ofFloat n.toFloat

/-- `static_cast<double>` of a duration. -/
def ofInt64 (n : Int64) : F64 := ofFloat n.toFloat

/-- A sum of `double`s. -/
def add (a b : F64) : F64 := ofFloat (a.toFloat + b.toFloat)

/-- A product of `double`s. -/
def mul (a b : F64) : F64 := ofFloat (a.toFloat * b.toFloat)

/-- A quotient of `double`s. -/
def div (a b : F64) : F64 := ofFloat (a.toFloat / b.toFloat)

def zero : F64 := ⟨0⟩

def one : F64 := ⟨0x3ff0000000000000⟩

/-- `a >= b`; false for NaN. -/
def ge (a b : F64) : Bool := !a.isNaN && !b.isNaN && b.key ≤ a.key

/-- `a < b`; false for NaN. -/
def lt (a b : F64) : Bool := !a.isNaN && !b.isNaN && a.key < b.key

end F64

/-- Where a number about cost comes from. -/
inductive CostKind
  | measured | counterDerived | modelEstimated | unknown
  deriving DecidableEq

/-- What a cost is measured in. -/
inductive CostDimension
  | bytesTransferred | latencyNanos | bandwidthBytesPerSecond | stallCycles | retryOverhead
  | invalidatedBytes | writebackBytes | remoteMemoryAccesses | ownershipTransfers
  | crossDomainTraffic | crossNumaTraffic | crossAcceleratorTraffic | cxlClassTraffic
  | executionTimeImpact
  deriving DecidableEq

/-- One named contribution to a cost. -/
structure CostTerm where
  name : Text
  dimension : CostDimension := .latencyNanos
  value : F64 := .zero
  kind : CostKind := .unknown
  coefficient : F64 := .zero
  quantity : F64 := .zero
  unit : Text := []
  deriving DecidableEq

/-- `CostEstimate`: the totals, and the terms they are of. -/
structure CostEstimate where
  kind : CostKind := .unknown
  latencyNs : F64 := .zero
  bytes : UInt64 := 0
  bandwidthBytesPerNs : F64 := .zero
  remoteAccesses : UInt64 := 0
  ownershipTransfers : UInt64 := 0
  invalidations : UInt64 := 0
  retries : UInt64 := 0
  stallCycles : UInt64 := 0
  terms : List CostTerm := []
  modelId : Text := []
  modelVersion : UInt32 := 0
  precision : Precision := .Unknown
  lowerBound : Bool := false

/-- The observed quantities a cost is computed from. -/
structure CostInputs where
  bytes : UInt64 := 0
  remoteReads : UInt64 := 0
  remoteWrites : UInt64 := 0
  invalidations : UInt64 := 0
  ownershipTransfers : UInt64 := 0
  retries : UInt64 := 0
  conflicts : UInt64 := 0
  measuredDurationNs : Int64 := -1
  locality : Locality := .Unknown
  localityKnown : Bool := false
  precision : Precision := .Unknown

/-- `locality_multiplier`. -/
def localityMultiplier (model : CostModel) (locality : Locality) : F64 :=
  if locality = .CxlAttached then model.cxlMultiplier
  else if locality = .PooledMemory then model.pooledMultiplier
  else if locality = .RemoteNode then model.remoteNodeMultiplier
  else .one

/-- A nonzero quantity as a term of its own. -/
def exactTerm (name : String) (dimension : CostDimension) (kind : CostKind) (n : UInt64)
    (unit : String) : List CostTerm :=
  if n = 0 then []
  else
    [{ name := ascii name, dimension, kind, value := .ofUInt64 n, coefficient := .one,
       quantity := .ofUInt64 n, unit := ascii unit }]

/-- The facts, reported whatever the model. -/
def exactTerms (inputs : CostInputs) : List CostTerm :=
  exactTerm "transfer.bytes" .bytesTransferred
      (if inputs.measuredDurationNs ≥ 0 then .measured else .counterDerived) inputs.bytes "bytes" ++
    exactTerm "remote_read.count" .remoteMemoryAccesses .counterDerived inputs.remoteReads
      "accesses" ++
    exactTerm "remote_write.count" .remoteMemoryAccesses .counterDerived inputs.remoteWrites
      "accesses" ++
    exactTerm "invalidation.count" .invalidatedBytes .counterDerived inputs.invalidations
      "invalidations" ++
    exactTerm "ownership_transfer.count" .ownershipTransfers .counterDerived
      inputs.ownershipTransfers "transfers" ++
    exactTerm "retry.count" .retryOverhead .counterDerived inputs.retries "retries"

/-- `model_term`: a quantity is zero as a double exactly when it is zero. -/
def modelTerm (multiplier : F64) (name : String) (dimension : CostDimension) (coefficient : F64)
    (n : UInt64) : List CostTerm :=
  if n = 0 then []
  else
    [{ name := ascii name, dimension, coefficient := coefficient.mul multiplier,
       quantity := .ofUInt64 n, value := (coefficient.mul multiplier).mul (.ofUInt64 n),
       kind := .modelEstimated, unit := ascii "ns" }]

/-- The latencies the model estimates. -/
def modelTerms (model : CostModel) (inputs : CostInputs) : List CostTerm :=
  let multiplier :=
    if inputs.localityKnown then localityMultiplier model inputs.locality else .one
  modelTerm multiplier "remote_read.latency" .latencyNanos model.remoteReadLatencyNs
      inputs.remoteReads ++
    modelTerm multiplier "remote_write.latency" .latencyNanos model.remoteWriteLatencyNs
      inputs.remoteWrites ++
    modelTerm multiplier "invalidation.latency" .latencyNanos model.invalidationLatencyNs
      inputs.invalidations ++
    modelTerm multiplier "ownership_transfer.latency" .latencyNanos
      model.ownershipTransferLatencyNs inputs.ownershipTransfers ++
    modelTerm multiplier "retry.latency" .latencyNanos model.retryLatencyNs inputs.retries ++
    modelTerm multiplier "conflict.stall" .stallCycles model.conflictStallNs inputs.conflicts ++
    if F64.zero.lt model.bandwidthBytesPerNs ∧ inputs.bytes ≠ 0 then
      [{ name := ascii "transfer.bandwidth_time", dimension := .latencyNanos,
         coefficient := F64.one.div model.bandwidthBytesPerNs, quantity := .ofUInt64 inputs.bytes,
         value := (F64.one.div model.bandwidthBytesPerNs).mul (.ofUInt64 inputs.bytes),
         kind := .modelEstimated, unit := ascii "ns" }]
    else []

/-- The latency of an estimate with the terms that make it up. -/
def addLatency (model : CostModel) (inputs : CostInputs) (cost : CostEstimate) : CostEstimate :=
  if inputs.measuredDurationNs ≥ 0 then
    let latency := F64.ofInt64 inputs.measuredDurationNs
    { cost with
      kind := .measured
      latencyNs := latency
      terms := cost.terms ++
        [{ name := ascii "measured.duration", dimension := .latencyNanos, value := latency,
           kind := .measured, coefficient := .one, quantity := .one, unit := ascii "ns" }] }
  else if ¬model.defined then
    { cost with kind := if cost.terms = [] then .unknown else .counterDerived }
  else
    { cost with
      kind := .modelEstimated
      modelId := model.id
      modelVersion := model.version
      bandwidthBytesPerNs := model.bandwidthBytesPerNs
      latencyNs := (modelTerms model inputs).foldl (fun sum term => sum.add term.value) .zero
      terms := cost.terms ++ modelTerms model inputs }

/-- `estimate_cost`. -/
def estimateCost (model : CostModel) (inputs : CostInputs) : CostEstimate :=
  let cost := addLatency model inputs
    { precision := inputs.precision
      bytes := inputs.bytes
      remoteAccesses := inputs.remoteReads + inputs.remoteWrites
      ownershipTransfers := inputs.ownershipTransfers
      invalidations := inputs.invalidations
      retries := inputs.retries
      terms := exactTerms inputs }
  let invalid := cost.latencyNs.isNaN || cost.latencyNs.lt .zero
  { cost with
    latencyNs := if invalid then .zero else cost.latencyNs
    lowerBound := cost.lowerBound || invalid
    terms := cost.terms.insertionSort fun a b => (compare a.name b.name).isLE = true }

end CoherenceObservatory
