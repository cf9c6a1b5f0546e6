import CoherenceObservatory.Protocol.WireRoundTrip
import CoherenceObservatory.Validity

/-!
# The validator and the wire

An observation is checked twice on its way into the observatory: by the reader that takes it off
the wire, and by the validator. The two sets of checks were written apart. What the validator
accepts is read back, but for two ranges in which it is the more generous one: the locality, which
it compares with the number of localities and not with the last of them, and the kinds of resources,
of which it only singles out those it knows.
-/

namespace CoherenceObservatory.Wire

open Codec

/-! ## Fields on which the two differ -/

theorem conveys_enum (value exclusiveMax : UInt8) (what : String) :
    Conveys (u8 value) (requireEnum exclusiveMax what) value (value < exclusiveMax) :=
  ⟨rfl, (Reads.last (PayloadReader.decodes_u8 value) (Reads.check (.pure value))).iff (by simp)⟩

theorem conveys_resourceRef {ref : ResourceRef} (h : IsToken ref.id) :
    Conveys (writeResourceRef ref) readResourceRef ref (ref.kind.raw < 6) := by
  refine Conveys.iff (.cons (conveys_enum ref.kind.raw 6 _) ?_) (and_iff_left trivial)
  exact .field (carries_text h.length_le (by decide)) <| .field (carries_u64 _) <|
    .seq (decodes_parse h) (.nil ref)

theorem conveys_optionalResource {ref : Option ResourceRef} (h : ∀ x ∈ ref, IsToken x.id) :
    Conveys (writeOptionalResource ref) readOptionalResource ref (∀ x ∈ ref, x.kind.raw < 6) := by
  cases ref with
  | none => exact (carries_optionalResource (by rintro _ ⟨⟩)).conveys.iff (by simp)
  | some ref =>
    exact Conveys.iff (.field (carries_u8 1) (.cons (conveys_resourceRef (h ref rfl))
      (.nil (some ref)))) (by simp)

/-! ## Observations -/

/-- The ranges the reader checks and the validator leaves open. -/
structure InRange (o : Observation) : Prop where
  source : ∀ r ∈ o.source, r.kind.raw < 6
  target : ∀ r ∈ o.target, r.kind.raw < 6
  locality : o.locality.raw < Locality.count

variable {id : Option Text} {generation : Option UInt64}

theorem isSome_of_validNamed (h : ValidNamed id generation) : generation.isSome = id.isSome := by
  cases id with
  | none => rw [show generation = none from h]; rfl
  | some id =>
    cases generation with
    | none => exact absurd rfl h.2
    | some g => rfl

theorem names_of_validNamed (h : ValidNamed id generation) : ∀ x ∈ id, IsName x := by
  rintro x ⟨⟩
  exact .inr h.1

/-- Which valid observations are read back. -/
theorem conveys_observation {o : Observation} (h : o.Valid) :
    Conveys (writeObservation o) readObservation o.received (InRange o) := by
  have hle {a b : UInt8} {n : Nat} (h : a ≤ b) (hn : b.toNat < n) : a.toNat < n :=
    (UInt8.le_iff_toNat_le.1 h).trans_lt hn
  -- The fields in the order of the source. The three that decide are the ones put in front of the
  -- rest with `cons`.
  refine Conveys.iff (.field (carries_u64 _) <| .field (carries_enum _ h.type) <|
    .field (carries_nameId (.inr h.publisher)) <| .field (carries_u64 _) <|
    .field (carries_u64 _) <| .field (carries_u64 _) <| .field (carries_u64 _) <|
    .field (carries_u64 _) <| .field (carries_i64 _) <|
    .cons (conveys_optionalResource fun r hr => (h.source r hr).token) <|
    .cons (conveys_optionalResource fun r hr => (h.target r hr).token) <|
    .field (carries_optionalName (names_of_validNamed h.region)) <| .field (carries_u64 _) <|
    .field (carries_optionalName (names_of_validNamed h.domain)) <| .field (carries_u64 _) <|
    .field (carries_u64 _) <|
    .field (carries_optionalName fun x hx => .inr (h.workload x hx)) <|
    .field (carries_optionalName fun x hx => .inr (h.process x hx)) <|
    .field (carries_enum _ (UInt8.lt_iff_toNat_lt.2 (hle h.direction (by decide)))) <|
    .field (carries_enum _ (UInt8.lt_iff_toNat_lt.2 (hle h.stateBefore (by decide)))) <|
    .field (carries_enum _ (UInt8.lt_iff_toNat_lt.2 (hle h.stateAfter (by decide)))) <|
    .field (carries_bool _) <| .field (carries_u64 _) <| .field (carries_u64 _) <|
    .field (carries_u64 _) <| .field (carries_u64 _) <| .field (carries_u64 _) <|
    .field (carries_u64 _) <| .field (carries_i64 _) <| .cons (conveys_enum _ _ _) <|
    .field (carries_bool _) <|
    .field (carries_enum _ (UInt8.lt_iff_toNat_lt.2 (hle h.provenance (by decide)))) <|
    .field (carries_enum _ (UInt8.lt_iff_toNat_lt.2 (hle h.precision (by decide)))) <|
    .field (carries_enum _ (UInt8.lt_iff_toNat_lt.2 (hle h.granularity (by decide)))) <|
    .field (carries_metadata _) (?_ : Conveys _ _ _ True)) ?_
  · rw [map_getD_of_isSome (isSome_of_validNamed h.region),
      map_getD_of_isSome (isSome_of_validNamed h.domain)]
    have hdelta : (if o.counterDelta.isSome then some (o.counterDelta.getD 0) else none) =
        o.counterDelta := by
      cases o.counterDelta <;> rfl
    rw [hdelta]
    exact .nil o.received
  · exact ⟨fun h => ⟨h.1, h.2.1, h.2.2.1⟩, fun h => ⟨h.source, h.target, h.locality, trivial⟩⟩

/-- What the validator accepts is accepted by the reader exactly if its kinds of resources and its
    locality are declared ones. -/
theorem reader_agrees_iff (o : Observation) (h : validateObservationStructure o = .ok ()) :
    (writeObservation o).2 = .ok () ∧
      ((∃ o', readObservation.run (writeObservation o).1 = .ok o') ↔
        (∀ r ∈ o.source, r.kind.raw < 6) ∧ (∀ r ∈ o.target, r.kind.raw < 6) ∧
          o.locality.raw < Locality.count) := by
  have hconveys := conveys_observation (validateObservationStructure_eq_ok.1 h)
  refine ⟨hconveys.ok, ?_⟩
  constructor
  · rintro ⟨o', hread⟩
    have hrest : (Cursor.mk (writeObservation o).1 0).rest = (writeObservation o).1 ++ [] :=
      (List.append_nil _).symm
    have hrange := hconveys.reads.only hrest (Prod.ext hread rfl)
    exact ⟨hrange.source, hrange.target, hrange.locality⟩
  · rintro ⟨hsource, htarget, hlocality⟩
    have hdecodes := hconveys.reads.decodes ⟨hsource, htarget, hlocality⟩
    exact ⟨o.received, congrArg Prod.fst (hdecodes ⟨_, 0⟩ [] (List.append_nil _).symm)⟩

/-- A read between two processors. -/
def processorRead : Observation where
  eventId := 1
  type := .RemoteRead
  sourcePublisher := ascii "p"
  publisherBoot := 1
  sequence := 1
  source := some ⟨.Processor, ascii "cpu0", 1⟩
  target := some ⟨.Processor, ascii "cpu1", 1⟩

/-- A read between two processors is accepted by both. -/
theorem reader_agrees_processors :
    validateObservationStructure processorRead = .ok () ∧
      ∃ o', readObservation.run (writeObservation processorRead).1 = .ok o' := by
  have hvalid : validateObservationStructure processorRead = .ok () := by decide +kernel
  exact ⟨hvalid, (reader_agrees_iff processorRead hvalid).2.2
    ⟨by decide +kernel, by decide +kernel, by decide⟩⟩

/-- A declared locality just past the last one is valid, and cannot be read. -/
theorem localityCount_unreadable :
    let o := { processorRead with locality := ⟨Locality.count⟩, localityDeclared := true }
    validateObservationStructure o = .ok () ∧
      (readObservation.run (writeObservation o).1).toOption.isNone = true := by
  decide +kernel

end CoherenceObservatory.Wire
