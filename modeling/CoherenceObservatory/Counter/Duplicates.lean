import CoherenceObservatory.Content
import CoherenceObservatory.Counter.Arithmetic
import CoherenceObservatory.Replay

/-!
# Repeated counter samples

A counter sample that comes again under its sequence number is compared with the hash that was
recorded for the number. The hash covers the name of the counter and its value, nothing else.
-/

namespace CoherenceObservatory

open Std ExtTreeMap Function

/-! ## What is hashed -/

/-- The stream the hash of a counter sample is taken over. -/
def counterBytes (c : CounterPublication) : List UInt8 :=
  textBytes c.counter ++ textBytes (formatU64 c.rawValue)

theorem counterHash_eq (c : CounterPublication) :
    counterHash c = fnv1a fnv1aInit (counterBytes c) := by
  rw [counterHash, fnv1aStr_eq, fnv1aStr_eq, fnv1a_append, counterBytes]

theorem length_formatU64_lt (v : UInt64) : (formatU64 v).length < 2 ^ 64 :=
  (length_formatNat_le (k := 20) (by decide) (v.toNat_lt.trans (by decide))).trans_lt (by decide)

variable {c : CounterPublication} {b : Binding} {s : State}

/-- What the hash is taken over determines just these two. -/
theorem counterBytes_inj {c' : CounterPublication} (h : IsToken c.counter) (h' : IsToken c'.counter) :
    counterBytes c = counterBytes c' ↔ c.counter = c'.counter ∧ c.rawValue = c'.rawValue := by
  have hvalue : textBytes (formatU64 c.rawValue) = textBytes (formatU64 c'.rawValue) ↔
      c.rawValue = c'.rawValue := by
    have happend := @textBytes_append_inj [] [] _ _ (length_formatU64_lt c.rawValue)
      (length_formatU64_lt c'.rawValue)
    rw [List.append_nil, List.append_nil, and_iff_left rfl] at happend
    exact happend.trans formatU64_injective.eq_iff
  rw [counterBytes, counterBytes, textBytes_append_inj h.length_lt_size h'.length_lt_size, hvalue]

/-- The fields by which a sample says what it measured. -/
def CounterPublication.content (c : CounterPublication) :=
  (c.counter, c.rawValue, c.kind, c.scope, c.widthBits, c.generation, c.mappedType, c.bytesPerUnit,
    c.source, c.target, c.region, c.timestampNs, c.provenance, c.metadata)

/-! ## Windows -/

/-- The numbers in a window are at most the watermark. -/
def Binding.Dated (b : Binding) : Prop :=
  ∀ q ∈ b.window, b.hasWatermark = true ∧ q ≤ b.highWatermark

/-- No window is ahead of the watermark of its publisher. -/
def State.Dated (s : State) : Prop := ∀ id b, s.binding id = some b → b.Dated

namespace Binding

theorem Dated.commit (h : b.Dated) (sequence hash : UInt64) : (b.commit sequence hash).Dated := by
  intro q hq
  refine ⟨rfl, ?_⟩
  obtain ⟨v, hv⟩ := Option.isSome_iff_exists.1 (mem_iff_isSome_getElem?.1 hq)
  rcases BoundedFifo.getElem?_push hv with hold | ⟨rfl, -⟩
  · have hmem : q ∈ b.window := mem_iff_isSome_getElem?.2 (by rw [hold]; rfl)
    obtain ⟨hw, hle⟩ := h q hmem
    have hhigh := toNat_highAfter hw sequence
    rw [UInt64.le_iff_toNat_le] at hle ⊢
    change q.toNat ≤ (b.highAfter sequence).toNat
    omega
  · exact b.le_highAfter q

/-- A registration keeps the window of the boot or starts an empty one. -/
theorem register_window (b : Option Binding) (id : PublisherId) (boot : PublisherBootId)
    (kept : Option PublisherWatermark) :
    (Binding.register b id boot kept).window = .empty ∨
      ∃ old, b = some old ∧ old.boot = boot ∧
        (Binding.register b id boot kept).window = old.window ∧
        (old.hasWatermark = true → (Binding.register b id boot kept).hasWatermark = true ∧
          (Binding.register b id boot kept).highWatermark = old.highWatermark) := by
  cases b with
  | none =>
    refine .inl ?_
    unfold Binding.register
    cases kept with
    | none => dsimp only; split <;> rfl
    | some kept => dsimp only; split <;> split <;> rfl
  | some old =>
    by_cases hboot : old.boot = boot
    · refine .inr ⟨old, rfl, hboot, ?_⟩
      unfold Binding.register
      simp only [Option.getD_some, hboot, if_true]
      cases kept with
      | none => exact ⟨rfl, fun h => ⟨h, rfl⟩⟩
      | some kept =>
        dsimp only
        split
        next h => exact ⟨rfl, fun hw => absurd hw h.2⟩
        next h => exact ⟨rfl, fun hw => ⟨hw, rfl⟩⟩
    · refine .inl ?_
      unfold Binding.register
      simp only [Option.getD_some, hboot, if_false]
      cases kept with
      | none => rfl
      | some kept => dsimp only; split <;> rfl

theorem Dated.register {b : Option Binding} (h : ∀ old ∈ b, old.Dated) (id : PublisherId)
    (boot : PublisherBootId) (kept : Option PublisherWatermark) :
    (Binding.register b id boot kept).Dated := by
  intro q hq
  rcases register_window b id boot kept with hempty | ⟨old, rfl, -, hwindow, hkeeps⟩
  · rw [hempty] at hq
    exact absurd hq (BoundedFifo.not_mem_empty q)
  · rw [hwindow] at hq
    obtain ⟨hw, hle⟩ := h old rfl q hq
    obtain ⟨hw', hhigh⟩ := hkeeps hw
    exact ⟨hw', hhigh ▸ hle⟩

end Binding

theorem State.Dated.update {s' : State} {id : PublisherId} (h : s.Dated) (hb : b.Dated)
    (heq : s'.binding = Function.update s.binding id (some b)) : s'.Dated := by
  intro id' b' hb'
  rw [heq, update_apply] at hb'
  split at hb'
  · exact Option.some.inj hb' ▸ hb
  · exact h id' b' hb'

theorem dated_initial (options : ObservatoryOptions) (now : Nanos) :
    (State.initial options now).Dated := by
  intro id b h
  simp [State.binding, State.initial] at h

theorem act_dated (h : s.Dated) (a : Action) : (act s a).2.Dated := by
  cases act_authority s a with
  | quiet hbinding => exact fun id b hb => h id b (hbinding ▸ hb)
  | commit id boot sequence hash b _ hcommits =>
    exact h.update ((h id b hcommits.bound).commit sequence hash) hcommits.binding_eq
  | refuse r clock _ hadmits =>
    rw [State.Dated, admitBoot_binding hadmits]
    exact h
  | bind r clock s₁ _ _ hadmits _ hstate =>
    rw [hstate]
    have h₁ : s₁.Dated := by
      rw [State.Dated, admitBoot_binding hadmits]
      exact h
    exact h₁.update (.register (fun old hold => h₁ r.id old hold) _ _ _) (bindBoot_binding s₁ r _)
  | fence id boot reason detail now p _ hbound _ hstate =>
    rw [hstate]
    have hp : p.binding.Dated := h id p.binding (by rw [State.binding, hbound]; rfl)
    exact h.update (b := p.binding.fence) hp (fenceBound_binding s id p reason detail now)
  | load path data options clock staged _ _ hstate =>
    intro id b hb
    rw [hstate, State.binding, recover_publishers] at hb
    simp at hb

theorem final_dated (h : s.Dated) (l : List Action) : (Run.final act s l).Dated :=
  Run.final_stable (I := State.Dated) (fun _ a h => act_dated h a) h l

/-! ## A number in the window -/

section

variable (p : PublisherId) (boot : PublisherBootId) (q hash : UInt64)

/-- The number is in the window of the boot, which is bound. -/
def State.InWindow (s : State) : Prop :=
  ∃ b, s.binding p = some b ∧ b.boot = boot ∧ q ∈ b.window

/-- The number is in the window of the boot with this hash. -/
def State.Holds (s : State) : Prop :=
  ∃ b, s.binding p = some b ∧ b.boot = boot ∧ b.window.entries[q]? = some hash

variable {p boot q hash}

/-- What is in the window before a step and after it has the same hash. -/
theorem act_holds (h : s.Holds p boot q hash) (a : Action) (hafter : (act s a).2.InWindow p boot q) :
    (act s a).2.Holds p boot q hash := by
  obtain ⟨b, hb, hboot, hentry⟩ := h
  have hmem : q ∈ b.window := mem_iff_isSome_getElem?.2 (by rw [hentry]; rfl)
  have hkept {s' : State} (hbinding : s'.binding p = s.binding p) : s'.Holds p boot q hash :=
    ⟨b, hbinding.trans hb, hboot, hentry⟩
  cases act_authority s a with
  | quiet hbinding => exact hkept (by rw [hbinding])
  | refuse r clock _ hadmits => exact hkept (by rw [admitBoot_binding hadmits])
  | commit id boot' sequence hash' b' _ hcommits =>
    by_cases hid : p = id
    · subst hid
      obtain rfl : b = b' := Option.some.inj (hb.symm.trans hcommits.bound)
      have hcommitted : (act s a).2.binding p = some (b.commit sequence hash') := by
        rw [hcommits.binding_eq, update_self]
      -- the window may push entries out, but not this one
      obtain ⟨b', hb', -, hmem'⟩ := hafter
      obtain rfl : b.commit sequence hash' = b' := Option.some.inj (hcommitted.symm.trans hb')
      exact ⟨_, hcommitted, hboot, BoundedFifo.getElem?_push_of_mem hentry hmem'⟩
    · exact hkept (by rw [hcommits.binding_eq, update_of_ne hid])
  | bind r clock s₁ _ _ hadmits _ hstate =>
    have hbinding := bindBoot_binding s₁ r (clock 1)
    rw [← hstate, admitBoot_binding hadmits] at hbinding
    by_cases hid : p = r.id
    · subst hid
      obtain ⟨b', hb', hboot', hmem'⟩ := hafter
      rw [hbinding, update_self, hb] at hb'
      obtain rfl := Option.some.inj hb'
      -- a boot that registers keeps its window or starts without one
      rcases Binding.register_window (some b) r.id r.boot (keptWatermark s₁ r) with
        hempty | ⟨old, hold, -, hwindow, -⟩
      · rw [hempty] at hmem'
        exact absurd hmem' (BoundedFifo.not_mem_empty q)
      · obtain rfl := Option.some.inj hold
        exact ⟨_, by rw [hbinding, update_self, hb], hboot', by rw [hwindow, hentry]⟩
    · exact hkept (by rw [hbinding, update_of_ne hid])
  | fence id boot' reason detail now p' _ hbound _ hstate =>
    have hbinding := fenceBound_binding s id p' reason detail now
    rw [← hstate] at hbinding
    by_cases hid : p = id
    · subst hid
      obtain rfl : b = p'.binding :=
        Option.some.inj (hb.symm.trans (by rw [State.binding, hbound]; rfl))
      exact ⟨p'.binding.fence, by rw [hbinding, update_self], hboot, hentry⟩
    · exact hkept (by rw [hbinding, update_of_ne hid])
  | load path data options clock staged _ _ hstate =>
    obtain ⟨b', hb', -⟩ := hafter
    rw [hstate, State.binding, recover_publishers] at hb'
    simp at hb'

/-- As long as a number stays in the window, its hash does not change. -/
theorem holds_run (h : s.Holds p boot q hash) {l : List Action}
    (hwindow : Run.Along act (fun s a => (act s a).2.InWindow p boot q) s l) :
    (Run.final act s l).Holds p boot q hash :=
  Run.final_invariant (I := fun s => s.Holds p boot q hash)
    (fun _ a h hafter => act_holds h a hafter) h hwindow

/-- What is accepted stands in the window from then on. -/
theorem holds_accepted (hs : s.Dated) {now : Nanos}
    (h : counterAccepted (ingestCounter s c now).1 = true) :
    (act s (.ingestCounter c now)).2.Holds c.publisher c.publisherBoot c.sequence
      (counterHash c) := by
  rcases (ingestCounter_binding s c now).2 with ⟨hrefused, -⟩ | ⟨-, b, -, -, hcommits⟩
  · rw [hrefused] at h
    cases h
  have hnew : c.sequence ∉ b.window := by
    intro hmem
    obtain ⟨hw, hle⟩ := hs _ b hcommits.bound _ hmem
    exact Binding.Covers.not_fresh ⟨hw, hle, .inr (.inl hmem)⟩ hcommits.fresh
  refine ⟨b.commit c.sequence (counterHash c), ?_, hcommits.boot_eq, ?_⟩
  · exact (congrFun hcommits.binding_eq _).trans (update_self ..)
  · exact BoundedFifo.getElem?_push_self hnew (by decide)

end

/-! ## What a repeated sample is answered with -/

/-- The answer to a sample whose number is in the window, by the hash found there. -/
theorem counterAccounted_held (s : State) {p : PublisherState} {seen : UInt64} (now : Nanos)
    (hw : p.hasWatermark = true) (hle : c.sequence ≤ p.highWatermark)
    (hentry : p.window.entries[c.sequence]? = some seen) :
    (counterAccounted s p c now).1 =
      if p.durableWatermark then
        .error ⟨.staleSequence, ascii "sequence at or below the durable replay watermark", []⟩
      else if seen = counterHash c then .ok { detail := ascii "duplicate counter sample" }
      else
        .error
          ⟨.conflict, ascii "conflicting duplicate: same sequence, different content", []⟩ := by
  unfold counterAccounted accountSequence
  rw [if_neg (not_not.2 hw), hentry]
  by_cases hdurable : p.durableWatermark = true
  · rw [if_pos ⟨hdurable, hle⟩, if_pos hdurable]
  · rw [if_neg (fun h => hdurable h.1), if_neg (UInt64.not_lt.2 hle), if_neg hdurable]
    by_cases hseen : seen = counterHash c
    · simp only [if_pos hseen]
    · simp only [if_neg hseen]

/-- A later sample that says something else under the number of an accepted one is a conflict
    exactly if the watermark is not a durable one and the samples differ in the name of the counter
    or its value. -/
theorem conflict_reported_iff (options : ObservatoryOptions) (start : Nanos)
    (before between : List Action) (c c' : CounterPublication) (now now' : Nanos)
    (p : PublisherState)
    (haccepted : counterAccepted (ingestCounter
      (Run.final act (State.initial options start) before) c now).1 = true)
    (hwindow : Run.Along act
      (fun s a => (act s a).2.InWindow c.publisher c.publisherBoot c.sequence)
      (Run.final act (State.initial options start) (before ++ [.ingestCounter c now])) between)
    (hadmitted : AdmittedCounter (Run.final act (State.initial options start)
      (before ++ [.ingestCounter c now] ++ between)) c' p)
    (hpublisher : c'.publisher = c.publisher) (hsequence : c'.sequence = c.sequence)
    (hstreams : counterHash c = counterHash c' → counterBytes c = counterBytes c') :
    let answer := (ingestCounter (Run.final act (State.initial options start)
      (before ++ [.ingestCounter c now] ++ between)) c' now').1
    (c.content ≠ c'.content → ∃ e, answer = .error e ∧ e.code = .conflict) ↔
      (c.content ≠ c'.content →
        p.durableWatermark = false ∧ (c.counter ≠ c'.counter ∨ c.rawValue ≠ c'.rawValue)) := by
  intro answer
  have hdated := final_dated (dated_initial options start) before
  have hfirst : (Run.final act (State.initial options start)
      (before ++ [.ingestCounter c now])).Holds c.publisher c.publisherBoot c.sequence
        (counterHash c) := by
    rw [Run.final_append]
    exact holds_accepted hdated haccepted
  -- The hash of the first sample is still the one on record.
  have hholds := holds_run hfirst hwindow
  rw [← Run.final_append] at hholds
  obtain ⟨b, hb, -, hentry⟩ := hholds
  -- both samples are valid, so their streams tell counters and values apart
  obtain ⟨p₀, hfirst⟩ : ∃ p₀, AdmittedCounter _ c p₀ := by
    by_contra hnone
    obtain ⟨e, he, -⟩ := ingestCounter_refused (not_exists.1 hnone) now
    rw [he] at haccepted
    cases haccepted
  have hdiffer : counterHash c = counterHash c' ↔
      c.counter = c'.counter ∧ c.rawValue = c'.rawValue := by
    rw [← counterBytes_inj (validateCounterPublication_eq_ok.1 hfirst.valid).counter
      (validateCounterPublication_eq_ok.1 hadmitted.valid).counter]
    refine ⟨hstreams, fun h => ?_⟩
    rw [counterHash_eq, counterHash_eq, h]
  obtain rfl : b = p.binding := by
    rw [State.binding, ← hpublisher, hadmitted.publisher] at hb
    exact (Option.some.inj hb).symm
  have hmem : c.sequence ∈ p.binding.window :=
    ExtTreeMap.mem_iff_isSome_getElem?.2 (by rw [hentry]; rfl)
  -- what is in the window is not ahead of the watermark, so it is looked up
  obtain ⟨hw, hle⟩ := final_dated (dated_initial options start) _ _ _ hb _ hmem
  rw [← hsequence] at hle hentry
  have hanswer : answer = _ := congrArg Prod.fst (ingestCounter_admitted hadmitted now')
  rw [counterAccounted_held _ now' hw hle hentry] at hanswer
  rw [hanswer]
  refine imp_congr_right fun _ => ?_
  rw [← not_and_or, ← hdiffer]
  cases p.durableWatermark with
  | true => simp
  | false =>
    by_cases hsame : counterHash c = counterHash c'
    · simp [hsame]
    · simp [hsame]

/-- A repeated number with another value is a conflict. -/
theorem conflict_reported_value :
    ∃ e, (ingestCounter (Run.final act (State.initial {} 0)
      (readingRun [] ++ [.ingestCounter (reading .Absolute 64 1 10) 0] ++ []))
      (reading .Absolute 64 1 20) 0).1 = .error e ∧ e.code = .conflict := by
  let s := Run.final act (State.initial {} 0)
    (readingRun [] ++ [.ingestCounter (reading .Absolute 64 1 10) 0] ++ [])
  have hview : s.publishers[ascii "p"]?.map (fun p =>
      (p.view.boot, p.view.current, p.view.fenced, p.durableWatermark)) =
        some (1, true, false, false) := by decide +kernel
  obtain ⟨p, hp, hview⟩ := Option.map_eq_some_iff.1 hview
  simp only [Prod.mk.injEq] at hview
  obtain ⟨hboot, hcurrent, hfenced, hdurable⟩ := hview
  have hadmitted : AdmittedCounter s (reading .Absolute 64 1 20) p :=
    ⟨by decide +kernel, by decide, hp, hboot, by decide +kernel, hcurrent, hfenced⟩
  have hdiffer : (reading .Absolute 64 1 10).content ≠ (reading .Absolute 64 1 20).content :=
    fun h => absurd (congrArg (·.2.1) h) (by decide)
  exact (conflict_reported_iff {} 0 (readingRun []) [] (reading .Absolute 64 1 10)
    (reading .Absolute 64 1 20) 0 0 p (by decide +kernel) trivial hadmitted rfl rfl
    fun h => absurd h (by decide +kernel)).2 (fun _ => ⟨hdurable, .inr (by decide)⟩) hdiffer

/-- A sample with another counter generation and unit is taken for a repetition. -/
theorem otherGeneration_duplicate :
    let c := reading .Absolute 64 1 10
    let c' := { c with generation := 2, bytesPerUnit := 64 }
    let answer := (ingestCounter (Run.final act (State.initial {} 0) (readingRun [c])) c' 0).1
    c.content ≠ c'.content ∧
      answer.toOption.map CounterOutcome.detail = some (ascii "duplicate counter sample") := by
  refine ⟨fun h => absurd (congrArg (·.2.2.2.2.2.1) h) (by decide), ?_⟩
  decide +kernel

end CoherenceObservatory
