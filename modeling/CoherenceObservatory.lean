import CoherenceObservatory.Attribution.Exact
import CoherenceObservatory.Handles
import CoherenceObservatory.Fingerprint
import CoherenceObservatory.Persistence.History
import CoherenceObservatory.Persistence.Safety
import CoherenceObservatory.Persistence.Corruption
import CoherenceObservatory.Refusal
import CoherenceObservatory.Aggregation
import CoherenceObservatory.Forward
import CoherenceObservatory.Links
import CoherenceObservatory.Attribution.Conflict
import CoherenceObservatory.FenceAll
import CoherenceObservatory.Protocol.Remote
import CoherenceObservatory.Protocol.Allocation
import CoherenceObservatory.Protocol.Registration
import CoherenceObservatory.Protocol.Stream
import CoherenceObservatory.Protocol.Lifecycle
import CoherenceObservatory.Protocol.Clients
import CoherenceObservatory.Batches
import CoherenceObservatory.Isolation
import CoherenceObservatory.Counter.Continuity
import CoherenceObservatory.Counter.Wrapping
import CoherenceObservatory.Balance
import CoherenceObservatory.Identity
import CoherenceObservatory.Analysis.Alternation
import CoherenceObservatory.Analysis.Summary
import CoherenceObservatory.Analysis.Reality
import CoherenceObservatory.Analysis.HotspotPass
import CoherenceObservatory.Analysis.CounterTotals
import CoherenceObservatory.Analysis.RowOrder
import CoherenceObservatory.Analysis.Keys
import CoherenceObservatory.Analysis.Explanation
import CoherenceObservatory.Analysis.Influence
import CoherenceObservatory.Decimal
import CoherenceObservatory.Protocol.Agreement
import CoherenceObservatory.Protocol.Fields
