import CoherenceObservatory.Lib.Codec
import CoherenceObservatory.Validity

/-!
# What an observation is recognised by

An observation that comes again is recognised by its content hash. The hash is taken over a stream
of words and texts, in which some parts are left out when absent: behind a tag for resources,
regions and domains, and without one for workload and process.
-/

namespace CoherenceObservatory

open List

/-! ## Words and texts -/

/-- The bytes of a hashed number. -/
def word (value : UInt64) : List UInt8 := Codec.toLE 8 value.toNat

/-- The bytes of numbers hashed one after the other. -/
def words (values : List UInt64) : List UInt8 := values.flatMap word

/-- The bytes of a hashed text. -/
def textBytes (text : Text) : List UInt8 := word (UInt64.ofNat text.length) ++ text

@[simp] theorem length_word (value : UInt64) : (word value).length = 8 := Codec.length_toLE _ _

theorem word_injective : Function.Injective word := by
  intro v v' h
  have h := congrArg Codec.ofLE h
  simp only [word, Codec.ofLE_toLE] at h
  rw [Nat.mod_eq_of_lt (b := 256 ^ 8) v.toNat_lt, Nat.mod_eq_of_lt (b := 256 ^ 8) v'.toNat_lt] at h
  exact UInt64.toNat_inj.1 h

variable {vs vs' : List UInt64} {l l' : List UInt8} {tag tag' : UInt64} {id : Text}
  {generation : Option UInt64}

@[simp] theorem word_append_inj {v v' : UInt64} :
    word v ++ l = word v' ++ l' ↔ v = v' ∧ l = l' := by
  refine ⟨fun h => ?_, by rintro ⟨rfl, rfl⟩; rfl⟩
  obtain ⟨hv, hl⟩ := append_inj h (by rw [length_word, length_word])
  exact ⟨word_injective hv, hl⟩

theorem words_append_inj (h : vs.length = vs'.length) :
    words vs ++ l = words vs' ++ l' ↔ vs = vs' ∧ l = l' := by
  induction vs generalizing vs' with
  | nil =>
    obtain rfl := length_eq_zero_iff.1 h.symm
    simp [words]
  | cons v vs ih =>
    obtain ⟨v', vs', rfl⟩ := exists_cons_of_length_eq_add_one h.symm
    have ih := @ih vs' (Nat.succ.inj h)
    simp only [words, flatMap_cons, append_assoc, word_append_inj] at ih ⊢
    rw [ih, List.cons.injEq, and_assoc]

theorem words_inj (h : vs.length = vs'.length) : words vs = words vs' ↔ vs = vs' := by
  have happend := @words_append_inj vs vs' [] [] h
  rwa [append_nil, append_nil, and_iff_left rfl] at happend

theorem length_words (vs : List UInt64) : (words vs).length = 8 * vs.length := by
  simp [words, length_flatMap, Nat.mul_comm]

theorem textBytes_append_inj {t t' : Text} (ht : t.length < 2 ^ 64) (ht' : t'.length < 2 ^ 64) :
    textBytes t ++ l = textBytes t' ++ l' ↔ t = t' ∧ l = l' := by
  refine ⟨fun h => ?_, by rintro ⟨rfl, rfl⟩; rfl⟩
  simp only [textBytes, append_assoc, word_append_inj] at h
  obtain ⟨hlength, h⟩ := h
  have hlength := congrArg UInt64.toNat hlength
  rw [UInt64.toNat_ofNat_of_lt' ht, UInt64.toNat_ofNat_of_lt' ht'] at hlength
  exact append_inj h hlength

/-- A number below 256 is one byte and seven zeros. -/
theorem word_small {n : Nat} (h : n < 256) :
    word (UInt64.ofNat n) = UInt8.ofNat n :: List.replicate 7 0 := by
  rw [word, UInt64.toNat_ofNat_of_lt' (h.trans (by decide))]
  have hzero : n / 256 = 0 := Nat.div_eq_of_lt h
  simp [Codec.toLE, hzero, List.replicate]

theorem zero_mem_word {n : Nat} (h : n < 256) : (0 : UInt8) ∈ word (UInt64.ofNat n) := by
  rw [word_small h]
  exact mem_cons_of_mem _ (by decide)

namespace IsToken

variable {t : Text} (h : IsToken t)

include h

theorem length_lt : t.length < 256 := h.length_le.trans_lt (by decide)

theorem length_lt_size : t.length < 2 ^ 64 := h.length_lt.trans (by decide)

theorem zero_not_mem : (0 : UInt8) ∉ t := fun hmem => absurd (h.admitted 0 hmem) (by decide)

theorem zero_mem_textBytes : (0 : UInt8) ∈ textBytes t :=
  mem_append_left _ (zero_mem_word h.length_lt)

end IsToken

/-! ## The stream -/

theorem fnv1a_append (h : UInt64) (l l' : List UInt8) : fnv1a (fnv1a h l) l' = fnv1a h (l ++ l') :=
  foldl_append.symm

theorem fnv1aU64_eq (h v : UInt64) : fnv1aU64 h v = fnv1a h (word v) := rfl

theorem fnv1aStr_eq (h : UInt64) (t : Text) : fnv1aStr h t = fnv1a h (textBytes t) :=
  fnv1a_append _ _ _

theorem foldl_fnv1aU64 (vs : List UInt64) (h : UInt64) :
    vs.foldl fnv1aU64 h = fnv1a h (words vs) := by
  induction vs generalizing h with
  | nil => rfl
  | cons v vs ih => exact (ih _).trans (fnv1a_append _ _ _)

/-- The bytes of a resource reference behind its tag. -/
def marked (tag : UInt64) : Option ResourceRef → List UInt8
  | none => []
  | some ref => word tag ++ word ref.kind.raw.toUInt64 ++ textBytes ref.id ++ word ref.generation

/-- The bytes of an identity with its generation behind its tag. -/
def named (tag : UInt64) (id : Option Text) (generation : Option UInt64) : List UInt8 :=
  match id with
  | none => []
  | some id => word tag ++ textBytes id ++ word (generation.getD 0)

/-- The bytes of a text without a tag. -/
def untagged : Option Text → List UInt8
  | none => []
  | some t => textBytes t

/-- The topology generation and the two names behind it. -/
structure SubjectNames where
  topology : TopologyGeneration
  workload : Option WorkloadId
  process : Option ProcessId

/-- The part of the stream for the names. -/
def SubjectNames.bytes (n : SubjectNames) : List UInt8 :=
  word n.topology ++ (untagged n.workload ++ untagged n.process)

/-- What an observation is about. -/
structure Subject where
  source : Option ResourceRef
  target : Option ResourceRef
  region : Option MemoryRegionId
  regionGeneration : Option MemoryRegionGeneration
  domain : Option CoherenceDomainId
  domainGeneration : Option CoherenceDomainGeneration
  names : SubjectNames

/-- The part of the stream for the subject. -/
def Subject.bytes (s : Subject) : List UInt8 :=
  marked 1 s.source ++ (marked 2 s.target ++ (named 3 s.region s.regionGeneration ++
    (named 4 s.domain s.domainGeneration ++ s.names.bytes)))

namespace Observation

variable (o : Observation)

/-- What the observation is about. -/
def subject : Subject :=
  ⟨o.source, o.target, o.region, o.regionGeneration, o.coherenceDomain,
    o.coherenceDomainGeneration, o.topologyGeneration, o.workload, o.process⟩

/-- The part of the stream before the subject. -/
def headBytes : List UInt8 :=
  words [o.eventId, o.type.raw.toUInt64] ++ textBytes o.sourcePublisher ++
    words [o.publisherBoot, o.coordinatorEpoch, o.samplingEpoch, o.evidenceGeneration,
      o.sequence, o.timestampNs.toUInt64]

/-- The counter delta, behind a tag. -/
def deltaBytes : List UInt8 :=
  match o.counterDelta with
  | none => []
  | some delta => words [5, delta]

/-- The numbers at the end. -/
def closingWords : List UInt64 :=
  [o.counterGeneration, o.bytes, o.lines, o.pages, o.regionCount,
    o.measuredDurationNs.toUInt64, o.locality.raw.toUInt64,
    if o.localityDeclared then 1 else 0, o.provenance.raw.toUInt64, o.precision.raw.toUInt64,
    o.granularity.raw.toUInt64, o.metadata.canonicalHash]

/-- The part of the stream behind the subject. -/
def tailBytes : List UInt8 :=
  words [o.direction.raw.toUInt64, o.stateBefore.raw.toUInt64, o.stateAfter.raw.toUInt64] ++
    o.deltaBytes ++ words o.closingWords

/-- The stream that is hashed. -/
def contentBytes : List UInt8 := o.headBytes ++ o.subject.bytes ++ o.tailBytes

theorem hashRef_eq (h tag : UInt64) (ref : Option ResourceRef) :
    hashRef h tag ref = fnv1a h (marked tag ref) := by
  cases ref with
  | none => rfl
  | some ref =>
    simp only [hashRef, marked, fnv1aU64_eq, fnv1aStr_eq, fnv1a_append, append_assoc]

theorem hashNamed_eq (h tag : UInt64) (id : Option Text) (generation : Option UInt64) :
    hashNamed h tag id generation = fnv1a h (named tag id generation) := by
  cases id with
  | none => rfl
  | some id =>
    simp only [hashNamed, named, fnv1aU64_eq, fnv1aStr_eq, fnv1a_append, append_assoc]

theorem hashText_eq (h : UInt64) (t : Option Text) : hashText h t = fnv1a h (untagged t) := by
  cases t with
  | none => rfl
  | some t => exact fnv1aStr_eq h t

/-- The stream that is hashed. -/
theorem contentHash_eq : o.contentHash = fnv1a fnv1aInit o.contentBytes := by
  unfold contentHash
  cases hdelta : o.counterDelta with
  | none =>
    simp only [hashRef_eq, hashNamed_eq, hashText_eq, foldl_fnv1aU64, fnv1aU64_eq, fnv1aStr_eq,
      fnv1a_append]
    simp only [contentBytes, headBytes, subject, Subject.bytes, tailBytes, deltaBytes, hdelta,
      SubjectNames.bytes, closingWords, append_assoc, nil_append]
  | some delta =>
    have hwords : words [5, delta] = word 5 ++ word delta := by simp [words]
    simp only [hashRef_eq, hashNamed_eq, hashText_eq, foldl_fnv1aU64, fnv1aU64_eq, fnv1aStr_eq,
      fnv1a_append]
    simp only [contentBytes, headBytes, subject, Subject.bytes, tailBytes, deltaBytes, hdelta,
      SubjectNames.bytes, closingWords, append_assoc, hwords]

end Observation

/-! ## The names behind a subject -/

variable {n n' : SubjectNames} {s s' : Subject}

namespace SubjectNames

/-- The names that are there, in order. -/
def texts (n : SubjectNames) : List Text := n.workload.toList ++ n.process.toList

/-- Every name is a token. -/
def Valid (n : SubjectNames) : Prop := ∀ t ∈ n.texts, IsToken t

/-- A workload alone poses as a process alone. -/
inductive Poses : SubjectNames → SubjectNames → Prop
  | process (topology : TopologyGeneration) (x : Text) :
      Poses ⟨topology, some x, none⟩ ⟨topology, none, some x⟩

theorem bytes_eq (n : SubjectNames) : n.bytes = word n.topology ++ n.texts.flatMap textBytes := by
  obtain ⟨topology, workload, process⟩ := n
  cases workload <;> cases process <;> simp [bytes, texts, untagged]

theorem texts_eq_iff (h : n.topology = n'.topology) :
    n.texts = n'.texts ↔ n = n' ∨ Poses n n' ∨ Poses n' n := by
  obtain ⟨topology, workload, process⟩ := n
  obtain ⟨topology', workload', process'⟩ := n'
  obtain rfl : topology = topology' := h
  constructor
  · intro h
    cases workload <;> cases process <;> cases workload' <;> cases process' <;>
      simp only [texts, Option.toList_none, Option.toList_some, nil_append, append_nil,
        cons_append, List.cons.injEq, reduceCtorEq, and_false, and_true] at h
    all_goals first
      | exact .inl rfl
      | subst h
        first | exact .inl rfl | exact .inr (.inl ⟨_, _⟩) | exact .inr (.inr ⟨_, _⟩)
      | obtain ⟨rfl, rfl⟩ := h
        exact .inl rfl
  · rintro (h | h | h)
    · rw [h]
    · cases h; rfl
    · cases h; rfl

end SubjectNames

theorem textBytes_ne_nil (t : Text) (l : List UInt8) : textBytes t ++ l ≠ [] := by
  intro h
  have h := congrArg List.length h
  simp [textBytes] at h

theorem flatMap_textBytes_inj {l l' : List Text} (h : ∀ t ∈ l, IsToken t)
    (h' : ∀ t ∈ l', IsToken t) : l.flatMap textBytes = l'.flatMap textBytes ↔ l = l' := by
  refine ⟨fun heq => ?_, fun heq => by rw [heq]⟩
  induction l generalizing l' with
  | nil =>
    cases l' with
    | nil => rfl
    | cons t' l' => exact absurd heq.symm (textBytes_ne_nil _ _)
  | cons t l ih =>
    cases l' with
    | nil => exact absurd heq (textBytes_ne_nil _ _)
    | cons t' l' =>
      obtain ⟨ht, hl⟩ := forall_mem_cons.1 h
      obtain ⟨ht', hl'⟩ := forall_mem_cons.1 h'
      rw [flatMap_cons, flatMap_cons,
        textBytes_append_inj ht.length_lt_size ht'.length_lt_size] at heq
      rw [heq.1, ih hl hl' heq.2]

theorem SubjectNames.bytes_eq_iff (h : n.Valid) (h' : n'.Valid) :
    n.bytes = n'.bytes ↔ n = n' ∨ Poses n n' ∨ Poses n' n := by
  rw [bytes_eq, bytes_eq, word_append_inj, flatMap_textBytes_inj h h']
  constructor
  · rintro ⟨htopology, htexts⟩
    exact (texts_eq_iff htopology).1 htexts
  · intro h
    have htopology : n.topology = n'.topology := by
      rcases h with h | h | h
      · rw [h]
      · cases h; rfl
      · cases h; rfl
    exact ⟨htopology, (texts_eq_iff htopology).2 h⟩

/-! ## The tagged parts -/

/-- What may follow a part with this tag: a part with a larger tag, or the names. -/
inductive Follows (tag : UInt64) : List UInt8 → Prop
  | tagged (tag' : UInt64) (rest : List UInt8) (lt : tag < tag') (le : tag' ≤ 4) :
      Follows tag (word tag' ++ rest)
  | names (n : SubjectNames) (valid : n.Valid) : Follows tag n.bytes

theorem Follows.named (hlt : tag < tag') (hle : tag' ≤ 4) (h : Follows tag' l) (id : Option Text)
    (generation : Option UInt64) :
    Follows tag (CoherenceObservatory.named tag' id generation ++ l) := by
  cases id with
  | none =>
    cases h with
    | tagged tag'' rest hlt' hle' => exact .tagged tag'' rest (UInt64.lt_trans hlt hlt') hle'
    | names n valid => exact .names n valid
  | some id =>
    rw [CoherenceObservatory.named, append_assoc, append_assoc]
    exact .tagged tag' _ hlt hle

theorem Follows.marked (hlt : tag < tag') (hle : tag' ≤ 4) (h : Follows tag' l)
    (ref : Option ResourceRef) : Follows tag (CoherenceObservatory.marked tag' ref ++ l) := by
  cases ref with
  | none =>
    cases h with
    | tagged tag'' rest hlt' hle' => exact .tagged tag'' rest (UInt64.lt_trans hlt hlt') hle'
    | names n valid => exact .names n valid
  | some ref =>
    simp only [CoherenceObservatory.marked, append_assoc]
    exact .tagged tag' _ hlt hle

/-- SubjectNames do not read as a kind and an identity: the length of the identity ends in zeros. -/
theorem flatMap_textBytes_ne_ref {l : List Text} (h : ∀ t ∈ l, IsToken t) (hid : IsToken id)
    (kind : UInt64) (rest : List UInt8) :
    word kind ++ (textBytes id ++ rest) ≠ l.flatMap textBytes := by
  intro heq
  cases l with
  | nil => exact absurd (congrArg List.length heq) (by simp [length_append])
  | cons t l =>
    obtain ⟨ht, hl⟩ := forall_mem_cons.1 h
    simp only [flatMap_cons, textBytes, append_assoc, word_append_inj] at heq
    obtain ⟨-, heq⟩ := heq
    rw [word_small hid.length_lt] at heq
    match t, ht with
    | [], ht => exact ht.ne_nil rfl
    | [a], _ =>
      -- The next length would start with a zero.
      obtain ⟨-, heq⟩ := List.cons.inj heq
      cases l with
      | nil => exact absurd heq nofun
      | cons t' l =>
        have ht' := hl t' mem_cons_self
        rw [flatMap_cons, textBytes, word_small ht'.length_lt] at heq
        have hzero := congrArg UInt8.toNat (List.cons.inj heq).1
        rw [UInt8.toNat_ofNat_of_lt' ht'.length_lt] at hzero
        exact ht'.ne_nil (length_eq_zero_iff.1 hzero.symm)
    | a :: b :: t, ht =>
      have hb : (0 : UInt8) = b := (List.cons.inj (List.cons.inj heq).2).1
      exact ht.zero_not_mem (hb ▸ by simp)

theorem Follows.ne_marked (h : Follows tag l') {ref : ResourceRef} (hid : IsToken ref.id) :
    CoherenceObservatory.marked tag (some ref) ++ l ≠ l' := by
  intro heq
  simp only [CoherenceObservatory.marked, append_assoc] at heq
  cases h with
  | tagged tag' rest hlt hle => exact absurd (word_append_inj.1 heq).1 (UInt64.ne_of_lt hlt)
  | names n valid =>
    rw [n.bytes_eq, word_append_inj] at heq
    exact flatMap_textBytes_ne_ref valid hid _ _ heq.2

/-- A resource reference can be read back. -/
theorem marked_inj {ref ref' : Option ResourceRef} (hl : Follows tag l) (hl' : Follows tag l')
    (href : ∀ r ∈ ref, IsToken r.id) (href' : ∀ r ∈ ref', IsToken r.id) :
    marked tag ref ++ l = marked tag ref' ++ l' ↔ ref = ref' ∧ l = l' := by
  refine ⟨fun heq => ?_, by rintro ⟨rfl, rfl⟩; rfl⟩
  match ref, ref' with
  | none, none => exact ⟨rfl, heq⟩
  | some ref, none => exact absurd heq (hl'.ne_marked (href ref rfl))
  | none, some ref' => exact absurd heq.symm (hl.ne_marked (href' ref' rfl))
  | some ⟨⟨kind⟩, id, generation⟩, some ⟨⟨kind'⟩, id', generation'⟩ =>
    have hid := (href _ rfl).length_lt_size
    have hid' := (href' _ rfl).length_lt_size
    simp only [marked, append_assoc, word_append_inj, textBytes_append_inj hid hid'] at heq
    obtain ⟨-, hkind, rfl, rfl, rfl⟩ := heq
    obtain rfl : kind = kind' := by
      have h := congrArg UInt64.toUInt8 hkind
      simpa using h
    exact ⟨rfl, rfl⟩

/-- What follows a part is a name only if it is the topology generation alone. -/
theorem Follows.eq_word (h : Follows tag l) (ht : IsToken l) : ∃ topology, l = word topology := by
  cases h with
  | tagged tag' rest hlt hle =>
    have hle : tag'.toNat ≤ 4 := UInt64.le_iff_toNat_le.1 hle
    have hzero : (0 : UInt8) ∈ word tag' := by
      have h := zero_mem_word (hle.trans_lt (by decide))
      rwa [UInt64.ofNat_toNat] at h
    exact absurd (mem_append_left _ hzero) ht.zero_not_mem
  | names n valid =>
    rw [n.bytes_eq] at ht ⊢
    cases htexts : n.texts with
    | nil => exact ⟨n.topology, append_nil _⟩
    | cons t texts =>
      rw [htexts] at ht
      have hzero := (valid t (by rw [htexts]; exact mem_cons_self)).zero_mem_textBytes
      exact absurd (mem_append_right _ (mem_append_left _ hzero)) ht.zero_not_mem

/-- A named part reads as two names if its generation is 8 and the topology generation behind it
makes a name. -/
theorem Follows.eq_of_named (h : Follows tag l) (h' : Follows tag l') (hid : IsToken id)
    (heq : CoherenceObservatory.named tag (some id) generation ++ l = l') :
    ∃ topology, l = word topology ∧ generation.getD 0 = 8 ∧
      (SubjectNames.mk tag (some id) (some (word topology))).Valid ∧
      l' = (SubjectNames.mk tag (some id) (some (word topology))).bytes := by
  simp only [CoherenceObservatory.named, append_assoc] at heq
  cases h' with
  | tagged tag' rest hlt hle => exact absurd (word_append_inj.1 heq).1 (UInt64.ne_of_lt hlt)
  | names n valid =>
    obtain ⟨topology, workload, process⟩ := n
    rw [SubjectNames.bytes, word_append_inj] at heq
    obtain ⟨rfl, heq⟩ := heq
    have hone {t : Text} (ht : IsToken t) (h : textBytes id ++ (word (generation.getD 0) ++ l) =
        textBytes t ++ []) : False := by
      rw [textBytes_append_inj hid.length_lt_size ht.length_lt_size] at h
      exact absurd (congrArg List.length h.2) (by simp)
    match workload, process, valid with
    | none, none, _ => exact absurd heq (textBytes_ne_nil _ _)
    | some t, none, valid => exact (hone (valid t mem_cons_self) heq).elim
    | none, some t, valid =>
      exact (hone (valid t mem_cons_self) (heq.trans (append_nil _).symm)).elim
    | some t, some t', valid =>
      have ht := valid t mem_cons_self
      have ht' := valid t' (mem_cons_of_mem _ mem_cons_self)
      rw [untagged, untagged, textBytes_append_inj hid.length_lt_size ht.length_lt_size, textBytes,
        word_append_inj] at heq
      obtain ⟨rfl, hgeneration, rfl⟩ := heq
      obtain ⟨number, rfl⟩ := h.eq_word ht'
      rw [length_word] at hgeneration
      exact ⟨number, rfl, hgeneration, valid, rfl⟩

/-- A named part, with what follows it, reads as two names under a topology generation that is its
tag. -/
structure NamedPoses (tag : UInt64) (id : Option Text) (generation : Option UInt64)
    (l : List UInt8) (id' : Option Text) (generation' : Option UInt64) (l' : List UInt8)
    (x : Text) (topology : UInt64) : Prop where
  id_eq : id = some x
  generation_eq : generation = some 8
  rest_eq : l = word topology
  id_eq' : id' = none
  generation_eq' : generation' = none
  valid : (SubjectNames.mk tag (some x) (some (word topology))).Valid
  rest_eq' : l' = (SubjectNames.mk tag (some x) (some (word topology))).bytes

/-- A named part can be read back, or it poses as two names, or two names pose as it. -/
theorem named_inj {id id' : Option Text} {generation' : Option UInt64} (hl : Follows tag l)
    (hl' : Follows tag l') (hid : ValidNamed id generation) (hid' : ValidNamed id' generation')
    (heq : named tag id generation ++ l = named tag id' generation' ++ l') :
    (id = id' ∧ generation = generation' ∧ l = l') ∨
      (∃ x topology, NamedPoses tag id generation l id' generation' l' x topology) ∨
      ∃ x topology, NamedPoses tag id' generation' l' id generation l x topology := by
  have hsome {g : Option UInt64} {v : UInt64} (h : g.getD 0 = v) (hv : v ≠ 0) : g = some v := by
    cases g with
    | none => exact absurd h.symm hv
    | some g => exact congrArg some h
  match id, id' with
  | none, none => exact .inl ⟨rfl, hid.trans hid'.symm, heq⟩
  | some id, none =>
    obtain ⟨topology, h, hgeneration, hvalid, h'⟩ := hl.eq_of_named hl' hid.1 heq
    exact .inr (.inl ⟨id, topology, rfl, hsome hgeneration (by decide), h, rfl, hid', hvalid, h'⟩)
  | none, some id' =>
    obtain ⟨topology, h, hgeneration, hvalid, h'⟩ := hl'.eq_of_named hl hid'.1 heq.symm
    exact .inr (.inr ⟨id', topology, rfl, hsome hgeneration (by decide), h, rfl, hid, hvalid, h'⟩)
  | some id, some id' =>
    simp only [named, append_assoc, word_append_inj,
      textBytes_append_inj hid.1.length_lt_size hid'.1.length_lt_size] at heq
    obtain ⟨-, rfl, hgeneration, rfl⟩ := heq
    exact .inl ⟨rfl, (hsome hgeneration hid'.2).trans (hsome rfl hid'.2).symm, rfl⟩

/-! ## The subject -/

namespace Subject

/-- What is hashed of a subject is well formed. -/
structure Valid (s : Subject) : Prop where
  source : ∀ r ∈ s.source, IsToken r.id
  target : ∀ r ∈ s.target, IsToken r.id
  region : ValidNamed s.region s.regionGeneration
  domain : ValidNamed s.domain s.domainGeneration
  names : s.names.Valid

/-- The subjects that have the bytes of another one. -/
inductive Poses : Subject → Subject → Prop
  /-- A workload without a process, as a process without a workload. -/
  | process (s : Subject) (topology : TopologyGeneration) (x : Text) :
      Poses { s with names := ⟨topology, some x, none⟩ }
        { s with names := ⟨topology, none, some x⟩ }
  /-- A domain of generation 8 without names, as a workload and a process under topology 4. -/
  | domain (s : Subject) (topology : TopologyGeneration) (x : Text) :
      Poses { s with domain := some x, domainGeneration := some 8, names := ⟨topology, none, none⟩ }
        { s with
          domain := none, domainGeneration := none, names := ⟨4, some x, some (word topology)⟩ }
  /-- A region of generation 8 without a domain and names, as a workload and a process under
  topology 3. -/
  | region (s : Subject) (topology : TopologyGeneration) (x : Text) :
      Poses
        { s with
          region := some x, regionGeneration := some 8, domain := none, domainGeneration := none
          names := ⟨topology, none, none⟩ }
        { s with
          region := none, regionGeneration := none, domain := none, domainGeneration := none
          names := ⟨3, some x, some (word topology)⟩ }

theorem Poses.bytes_eq (h : Poses s s') : s.bytes = s'.bytes := by
  cases h <;> simp [Subject.bytes, SubjectNames.bytes, named, untagged, textBytes]

variable {topology : TopologyGeneration} {x : Text}

/-- The names are read back where they do not stand alone. -/
theorem names_of_bytes_eq (h : n.Valid) {y : Text}
    (h' : (SubjectNames.mk topology (some x) (some y)).Valid)
    (heq : n.bytes = (SubjectNames.mk topology (some x) (some y)).bytes) :
    n = ⟨topology, some x, some y⟩ := by
  rcases (SubjectNames.bytes_eq_iff h h').1 heq with h | h | h
  · exact h
  · cases h
  · cases h

theorem names_of_bytes_eq_word (h : n.Valid) (heq : n.bytes = word topology) :
    n = ⟨topology, none, none⟩ := by
  have hnone : (SubjectNames.mk topology none none).Valid := nofun
  rcases (SubjectNames.bytes_eq_iff h hnone).1 (heq.trans (append_nil _).symm) with h | h | h
  · exact h
  · cases h
  · cases h

theorem poses_of_names (s : Subject) (h : n.Poses n') :
    Poses { s with names := n } { s with names := n' } := by
  cases h with
  | process topology x => exact .process s topology x

theorem poses_of_domain (h : s.Valid) (h' : s'.Valid) (hsource : s.source = s'.source)
    (htarget : s.target = s'.target) (hregion : s.region = s'.region)
    (hgeneration : s.regionGeneration = s'.regionGeneration) {topology : UInt64}
    (hposes : NamedPoses 4 s.domain s.domainGeneration s.names.bytes
      s'.domain s'.domainGeneration s'.names.bytes x topology) :
    Poses s s' := by
  have hnames := names_of_bytes_eq_word h.names hposes.rest_eq
  have hnames' := names_of_bytes_eq h'.names hposes.valid hposes.rest_eq'
  obtain ⟨hid, hgen, -, hid', hgen', -, -⟩ := hposes
  obtain ⟨source, target, region, generation, domain, domainGeneration, names⟩ := s
  obtain ⟨source', target', region', generation', domain', domainGeneration', names'⟩ := s'
  subst hsource htarget hregion hgeneration hid hgen hid' hgen' hnames hnames'
  exact .domain ⟨source, target, region, generation, none, none, ⟨0, none, none⟩⟩ topology x

theorem poses_of_region (h : s.Valid) (h' : s'.Valid) (hsource : s.source = s'.source)
    (htarget : s.target = s'.target) {topology : UInt64}
    (hposes : NamedPoses 3
      s.region s.regionGeneration (named 4 s.domain s.domainGeneration ++ s.names.bytes)
      s'.region s'.regionGeneration (named 4 s'.domain s'.domainGeneration ++ s'.names.bytes)
      x topology) :
    Poses s s' := by
  obtain ⟨source, target, region, generation, domain, domainGeneration, names⟩ := s
  obtain ⟨source', target', region', generation', domain', domainGeneration', names'⟩ := s'
  -- With a domain, the first stream would be too long and the second start with another tag.
  obtain rfl : domain = none := by
    cases domain with
    | none => rfl
    | some d => exact absurd (congrArg List.length hposes.rest_eq) (by simp [named])
  obtain rfl : domain' = none := by
    cases domain' with
    | none => rfl
    | some d =>
      have heq := hposes.rest_eq'
      simp only [named, SubjectNames.bytes, append_assoc, word_append_inj] at heq
      exact absurd heq.1 (by decide)
  have hnames := names_of_bytes_eq_word h.names hposes.rest_eq
  have hnames' := names_of_bytes_eq h'.names hposes.valid hposes.rest_eq'
  have hgen : domainGeneration = none := h.domain
  have hgen' : domainGeneration' = none := h'.domain
  obtain ⟨hid, hregion, -, hid', hregion', -, -⟩ := hposes
  subst hsource htarget hid hregion hid' hregion' hnames hnames' hgen hgen'
  exact .region ⟨source, target, none, none, none, none, ⟨0, none, none⟩⟩ topology x

/-- Subjects with the same bytes are the same, or one poses as the other. -/
theorem bytes_eq_iff (h : s.Valid) (h' : s'.Valid) :
    s.bytes = s'.bytes ↔ s = s' ∨ Poses s s' ∨ Poses s' s := by
  constructor
  · intro heq
    -- what comes behind a field cannot be mistaken for its start
    have follows {s : Subject} (h : s.Valid) : Follows 4 s.names.bytes ∧
        Follows 3 (named 4 s.domain s.domainGeneration ++ s.names.bytes) := by
      have hnames : Follows 4 s.names.bytes := .names s.names h.names
      exact ⟨hnames, hnames.named (by decide) (by decide) _ _⟩
    obtain ⟨hf4, hf3⟩ := follows h
    obtain ⟨hf4', hf3'⟩ := follows h'
    have hf2 : Follows 2 _ := hf3.named (by decide) (by decide) s.region s.regionGeneration
    have hf2' : Follows 2 _ := hf3'.named (by decide) (by decide) s'.region s'.regionGeneration
    rw [bytes, bytes, marked_inj (hf2.marked (by decide) (by decide) _)
      (hf2'.marked (by decide) (by decide) _) h.source h'.source,
      marked_inj hf2 hf2' h.target h'.target] at heq
    obtain ⟨hsource, htarget, heq⟩ := heq
    -- a named part may read as two names under a topology generation
    rcases named_inj hf3 hf3' h.region h'.region heq with
      ⟨hregion, hgeneration, heq⟩ | ⟨x, topology, hposes⟩ | ⟨x, topology, hposes⟩
    · rcases named_inj hf4 hf4' h.domain h'.domain heq with
        ⟨hdomain, hdomainGeneration, heq⟩ | ⟨x, topology, hposes⟩ | ⟨x, topology, hposes⟩
      · have hsubject : s' = { s with names := s'.names } := by
          obtain ⟨source, target, region, generation, domain, domainGeneration, names⟩ := s
          subst hsource htarget hregion hgeneration hdomain hdomainGeneration
          rfl
        rcases (SubjectNames.bytes_eq_iff h.names h'.names).1 heq with hnames | hnames | hnames
        · exact .inl (by rw [hsubject, ← hnames])
        · exact .inr (.inl (hsubject ▸ poses_of_names s hnames))
        · refine .inr (.inr ?_)
          have hposes := poses_of_names s hnames
          rwa [← hsubject] at hposes
      · exact .inr (.inl (poses_of_domain h h' hsource htarget hregion hgeneration hposes))
      · exact .inr (.inr (poses_of_domain h' h hsource.symm htarget.symm hregion.symm
          hgeneration.symm hposes))
    · exact .inr (.inl (poses_of_region h h' hsource htarget hposes))
    · exact .inr (.inr (poses_of_region h' h hsource.symm htarget.symm hposes))
  · rintro (h | h | h)
    · rw [h]
    · exact h.bytes_eq
    · exact h.bytes_eq.symm

end Subject

/-! ## The ends of the stream -/

namespace Observation

/-- The fields before the subject. -/
def opening (o : Observation) :=
  (o.eventId, o.type, o.sourcePublisher, o.publisherBoot, o.coordinatorEpoch, o.samplingEpoch,
    o.evidenceGeneration, o.sequence, o.timestampNs)

/-- The fields behind the subject, with the hash of the metadata. -/
def closing (o : Observation) :=
  (o.direction, o.stateBefore, o.stateAfter, o.counterDelta, o.counterGeneration, o.bytes, o.lines,
    o.pages, o.regionCount, o.measuredDurationNs, o.locality, o.localityDeclared, o.provenance,
    o.precision, o.granularity, o.metadata.canonicalHash)

theorem toUInt64_injective : Function.Injective UInt8.toUInt64 := by
  intro a b h
  have h := congrArg UInt64.toUInt8 h
  simpa using h

theorem toUInt64_eq_iff {a b : Int64} : a.toUInt64 = b.toUInt64 ↔ a = b :=
  ⟨congrArg Int64.ofUInt64, congrArg Int64.toUInt64⟩

variable {o o' : Observation}

/-- The opening can be read back from the front of the stream. -/
theorem head_inj (h : IsToken o.sourcePublisher) (h' : IsToken o'.sourcePublisher)
    (heq : o.headBytes ++ l = o'.headBytes ++ l') : o.opening = o'.opening ∧ l = l' := by
  simp only [headBytes, append_assoc] at heq
  obtain ⟨hfirst, heq⟩ := (words_append_inj (by rfl)).1 heq
  obtain ⟨hpublisher, heq⟩ := (textBytes_append_inj h.length_lt_size h'.length_lt_size).1 heq
  obtain ⟨hsecond, heq⟩ := (words_append_inj (by rfl)).1 heq
  simp only [List.cons.injEq, and_true, toUInt64_injective.eq_iff, toUInt64_eq_iff]
    at hfirst hsecond
  refine ⟨?_, heq⟩
  obtain ⟨hevent, htype⟩ := hfirst
  obtain ⟨hboot, hepoch, hsampling, hevidence, hsequence, htime⟩ := hsecond
  have htype : o.type = o'.type := congrArg EventType.mk htype
  simp only [opening, hevent, htype, hpublisher, hboot, hepoch, hsampling, hevidence, hsequence,
    htime]

theorem length_deltaBytes_eq (h : o.counterDelta.isSome = o'.counterDelta.isSome) :
    o.deltaBytes.length = o'.deltaBytes.length := by
  unfold deltaBytes
  cases hd : o.counterDelta <;> cases hd' : o'.counterDelta <;>
    simp [hd, hd', length_words] at h ⊢

theorem deltaBytes_inj (h : o.counterDelta.isSome = o'.counterDelta.isSome)
    (heq : o.deltaBytes = o'.deltaBytes) : o.counterDelta = o'.counterDelta := by
  unfold deltaBytes at heq
  cases hd : o.counterDelta <;> cases hd' : o'.counterDelta <;> simp only [hd, hd'] at h heq
  · rfl
  · cases h
  · cases h
  next delta delta' =>
    have heq := (words_inj (by rfl)).1 heq
    rw [(List.cons.inj (List.cons.inj heq).2).1]

/-- The closing can be read back from its end. -/
theorem tail_inj (h : o.counterDelta.isSome ↔ o.counterGeneration ≠ 0)
    (h' : o'.counterDelta.isSome ↔ o'.counterGeneration ≠ 0)
    (heq : l ++ o.tailBytes = l' ++ o'.tailBytes) : l = l' ∧ o.closing = o'.closing := by
  simp only [tailBytes, ← append_assoc] at heq
  obtain ⟨heq, hclosing⟩ := append_inj' heq (by rw [length_words, length_words]; rfl)
  have hclosing := (words_inj (by rfl)).1 hclosing
  simp only [closingWords, List.cons.injEq, and_true, toUInt64_injective.eq_iff, toUInt64_eq_iff]
    at hclosing
  obtain ⟨hgeneration, hbytes, hlines, hpages, hcount, hduration, hlocality, hdeclared, hprovenance,
    hprecision, hgranularity, hmetadata⟩ := hclosing
  -- Whether there is a delta shows in the generation behind it.
  have hsome : o.counterDelta.isSome = o'.counterDelta.isSome := by
    rw [Bool.eq_iff_iff, h, h', hgeneration]
  obtain ⟨heq, hdelta⟩ := append_inj' heq (length_deltaBytes_eq hsome)
  have hdelta := deltaBytes_inj hsome hdelta
  obtain ⟨hl, hmoves⟩ := append_inj' heq (by rw [length_words, length_words]; rfl)
  have hmoves := (words_inj (by rfl)).1 hmoves
  simp only [List.cons.injEq, and_true, toUInt64_injective.eq_iff] at hmoves
  have hdirection : o.direction = o'.direction := congrArg AccessDirection.mk hmoves.1
  have hbefore : o.stateBefore = o'.stateBefore := congrArg CoherenceState.mk hmoves.2.1
  have hafter : o.stateAfter = o'.stateAfter := congrArg CoherenceState.mk hmoves.2.2
  have hlocality : o.locality = o'.locality := congrArg Locality.mk hlocality
  have hprovenance : o.provenance = o'.provenance := congrArg Provenance.mk hprovenance
  have hprecision : o.precision = o'.precision := congrArg Precision.mk hprecision
  have hgranularity : o.granularity = o'.granularity := congrArg EvidenceGranularity.mk hgranularity
  have hdeclared : o.localityDeclared = o'.localityDeclared := by
    cases hd : o.localityDeclared <;> cases hd' : o'.localityDeclared <;>
      simp [hd, hd'] at hdeclared ⊢
  refine ⟨hl, ?_⟩
  simp only [closing, hgeneration, hbytes, hlines, hpages, hcount, hduration, hlocality, hdeclared,
    hprovenance, hprecision, hgranularity, hmetadata, hdelta, hdirection, hbefore, hafter]

/-! ## Telling observations apart -/

section

variable {o o' : Observation}

/-- The observations agree in everything but the late flag and the accepted epoch. -/
def SameContent (o o' : Observation) : Prop :=
  o' = { o with late := o'.late, acceptedEpoch := o'.acceptedEpoch }

/-- The observations agree but for their subjects. -/
def SameAround (o o' : Observation) : Prop :=
  o' = { o with
    source := o'.source
    target := o'.target
    region := o'.region
    regionGeneration := o'.regionGeneration
    coherenceDomain := o'.coherenceDomain
    coherenceDomainGeneration := o'.coherenceDomainGeneration
    topologyGeneration := o'.topologyGeneration
    workload := o'.workload
    process := o'.process
    late := o'.late
    acceptedEpoch := o'.acceptedEpoch }

/-- The observations agree but for their subjects, and one of these poses as the other. -/
def Confused (o o' : Observation) : Prop :=
  o.SameAround o' ∧ (o.subject.Poses o'.subject ∨ o'.subject.Poses o.subject)

theorem sameAround_of_ends (hopening : o.opening = o'.opening) (hclosing : o.closing = o'.closing)
    (hmetadata : o.metadata = o'.metadata) : o.SameAround o' := by
  cases o
  cases o'
  simp only [opening, closing, Prod.mk.injEq] at hopening hclosing
  obtain ⟨rfl, rfl, rfl, rfl, rfl, rfl, rfl, rfl, rfl⟩ := hopening
  obtain ⟨rfl, rfl, rfl, rfl, rfl, rfl, rfl, rfl, rfl, rfl, rfl, rfl, rfl, rfl, rfl, -⟩ := hclosing
  obtain rfl := hmetadata
  rfl

theorem sameContent_iff : o.SameContent o' ↔ o.SameAround o' ∧ o.subject = o'.subject := by
  constructor
  · intro h
    rw [SameAround, h]
    exact ⟨rfl, rfl⟩
  · rintro ⟨haround, hsubject⟩
    cases o
    cases o'
    simp only [subject, Subject.mk.injEq, SubjectNames.mk.injEq] at hsubject
    obtain ⟨rfl, rfl, rfl, rfl, rfl, rfl, rfl, rfl, rfl⟩ := hsubject
    exact haround

theorem SameAround.ends_eq (h : o.SameAround o') :
    o'.headBytes = o.headBytes ∧ o'.tailBytes = o.tailBytes := by
  rw [h]
  exact ⟨rfl, rfl⟩

theorem Valid.subject (h : o.Valid) : o.subject.Valid where
  source r hr := (h.source r hr).token
  target r hr := (h.target r hr).token
  region := h.region
  domain := h.domain
  names t ht := by
    rcases mem_append.1 ht with ht | ht
    · exact h.workload t (Option.mem_toList.1 ht)
    · exact h.process t (Option.mem_toList.1 ht)

/-- The streams of two observations are the same exactly if what is around their subjects is, and
the subjects are the same or pose as one another. -/
theorem contentBytes_eq_iff (h : o.Valid) (h' : o'.Valid)
    (hmetadata : o.metadata ≠ o'.metadata →
      o.metadata.canonicalHash ≠ o'.metadata.canonicalHash) :
    o.contentBytes = o'.contentBytes ↔ o.SameContent o' ∨ o.Confused o' := by
  rw [sameContent_iff, Confused, ← and_or_left, ← Subject.bytes_eq_iff h.subject h'.subject]
  constructor
  · intro heq
    simp only [contentBytes, append_assoc] at heq
    obtain ⟨hopening, heq⟩ := head_inj h.publisher h'.publisher heq
    obtain ⟨hsubject, hclosing⟩ := tail_inj h.delta_generation h'.delta_generation heq
    have hhash : o.metadata.canonicalHash = o'.metadata.canonicalHash := by
      simp only [closing, Prod.mk.injEq] at hclosing
      exact hclosing.2.2.2.2.2.2.2.2.2.2.2.2.2.2.2
    exact ⟨sameAround_of_ends hopening hclosing (not_imp_not.1 hmetadata hhash), hsubject⟩
  · rintro ⟨haround, hsubject⟩
    obtain ⟨hhead, htail⟩ := haround.ends_eq
    rw [contentBytes, contentBytes, hhead, htail, hsubject]

end

end Observation

theorem Subject.Poses.process_ne (h : s.Poses s') : s.names.process ≠ s'.names.process := by
  cases h <;> exact nofun

/-- Different observations are hashed over different bytes, except those that differ in their
    subjects only and in one of three ways: a workload against a process, or a region or domain of
    generation 8 against a workload and a process. -/
theorem content_told_apart_iff (o o' : Observation)
    (hvalid : validateObservationStructure o = .ok ())
    (hvalid' : validateObservationStructure o' = .ok ())
    (hmetadata : o.metadata ≠ o'.metadata →
      o.metadata.canonicalHash ≠ o'.metadata.canonicalHash) :
    o.contentHash = fnv1a fnv1aInit o.contentBytes ∧
      o'.contentHash = fnv1a fnv1aInit o'.contentBytes ∧
      ((¬o.SameContent o' → o.contentBytes ≠ o'.contentBytes) ↔ ¬o.Confused o') := by
  refine ⟨o.contentHash_eq, o'.contentHash_eq, ?_⟩
  rw [ne_eq, Observation.contentBytes_eq_iff (validateObservationStructure_eq_ok.1 hvalid)
    (validateObservationStructure_eq_ok.1 hvalid') hmetadata]
  constructor
  · intro h hconfused
    refine h (fun hsame => ?_) (.inr hconfused)
    have hsubject := (Observation.sameContent_iff.1 hsame).2
    rcases hconfused.2 with hposes | hposes
    · exact hposes.process_ne (by rw [hsubject])
    · exact hposes.process_ne (by rw [hsubject])
  · rintro hconfused hdiffers (hsame | h)
    · exact hdiffers hsame
    · exact hconfused h

/-- A read with or without names. -/
def namedRead (sequence : EventSequence) (workload process : Option Text) : Observation where
  eventId := 1
  type := .RemoteRead
  sourcePublisher := ascii "p"
  publisherBoot := 1
  coordinatorEpoch := 1
  sequence
  workload
  process

/-- Two reads with different sequence numbers are told apart. -/
theorem content_told_apart_sequences :
    (namedRead 1 none none).contentBytes ≠ (namedRead 2 none none).contentBytes := by
  have h := content_told_apart_iff (namedRead 1 none none) (namedRead 2 none none)
    (by decide +kernel) (by decide +kernel) fun h => absurd rfl h
  refine h.2.2.2 (fun hconfused => ?_) fun hsame => ?_
  · exact absurd (congrArg Observation.sequence hconfused.1) (by decide)
  · exact absurd (congrArg Observation.sequence hsame) (by decide)

/-- A read of workload `w` and a read of process `w` are taken for the same observation. -/
theorem workload_poses_as_process :
    let o := namedRead 1 (some (ascii "w")) none
    let o' := namedRead 1 none (some (ascii "w"))
    validateObservationStructure o = .ok () ∧ validateObservationStructure o' = .ok () ∧
      o.metadata = o'.metadata ∧ ¬o.SameContent o' ∧ o.contentBytes = o'.contentBytes ∧
      o.contentHash = o'.contentHash := by
  refine ⟨by decide +kernel, by decide +kernel, rfl, fun hsame => ?_, by decide +kernel,
    by decide +kernel⟩
  exact absurd (congrArg Observation.workload hsame) (by decide)

end CoherenceObservatory
