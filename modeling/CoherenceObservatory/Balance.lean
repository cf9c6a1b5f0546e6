import CoherenceObservatory.Counter.Arithmetic
import CoherenceObservatory.Ledger
import CoherenceObservatory.Lib.Arrivals
import CoherenceObservatory.Persistence.Lineage

/-!
# The balance of a ledger

From the moment a boot is bound, its tallies say how the numbers it sent came in: what was
accepted and not late, together with what is missing, makes up all numbers from the base to the
watermark. The base is the watermark taken over from the table, or else what comes before the
first number.
-/

namespace CoherenceObservatory

open Std List

/-! ## Taking a number -/

/-- The watermark of a binding, if it has one. -/
def Binding.mark (b : Binding) : Option Nat :=
  if b.hasWatermark then some b.highWatermark.toNat else none

/-- The tallies of a ledger are those of numbers that arrived after a watermark. -/
structure Ledger.Balances (l : Ledger) (mark : Option Nat) (numbers : List Nat) : Prop where
  mark_eq : l.mark = Run.final Arrivals.arrive mark numbers
  accepted_eq : l.accepted.toNat = numbers.length
  late_eq : l.late.toNat = Run.total Arrivals.arrive Arrivals.late mark numbers
  missing_eq : l.missing.toNat = Run.total Arrivals.arrive Arrivals.missing mark numbers
  gaps_eq : l.gaps.toNat = Run.total Arrivals.arrive Arrivals.jump mark numbers

namespace Binding

theorem mark_commit (b : Binding) (sequence hash : UInt64) :
    (b.commit sequence hash).mark = (Arrivals.arrive b.mark sequence.toNat).2 := by
  cases hw : b.hasWatermark with
  | false => simp [mark, commit, highAfter, hw, Arrivals.arrive]
  | true =>
    have hhigh := toNat_highAfter hw sequence
    simp [mark, commit, hw, hhigh, Arrivals.arrive]

theorem late_mark (b : Binding) (sequence : UInt64) :
    Arrivals.late b.mark sequence.toNat = if b.Behind sequence then 1 else 0 := by
  cases hw : b.hasWatermark with
  | false => simp [mark, hw, Arrivals.late, Behind]
  | true => simp [mark, hw, Arrivals.late, Behind, UInt64.le_iff_toNat_le]

theorem toNat_skipped (b : Binding) (sequence : UInt64) :
    (b.skipped sequence).toNat = Arrivals.missing b.mark sequence.toNat := by
  cases hw : b.hasWatermark with
  | false => simp [mark, hw, Arrivals.missing, skipped]
  | true =>
    simp only [skipped, hw, true_and, mark, if_true, Arrivals.missing, Option.elim_some]
    split
    next hlt =>
      have hle : b.highWatermark ≤ sequence := UInt64.le_of_lt hlt
      have hlt := UInt64.lt_iff_toNat_lt.1 hlt
      have hone : (1 : UInt64) ≤ sequence - b.highWatermark := by
        rw [UInt64.le_iff_toNat_le, UInt64.toNat_sub_of_le _ _ hle]
        change 1 ≤ _
        omega
      rw [UInt64.toNat_sub_of_le _ _ hone, UInt64.toNat_sub_of_le _ _ hle]
      rfl
    next hle =>
      rw [UInt64.not_lt, UInt64.le_iff_toNat_le] at hle
      change 0 = _
      omega

theorem jump_mark (b : Binding) (sequence : UInt64) :
    Arrivals.jump b.mark sequence.toNat = if b.skipped sequence ≠ 0 then 1 else 0 := by
  have hskipped := b.toNat_skipped sequence
  have hzero : Arrivals.missing b.mark sequence.toNat ≠ 0 ↔ b.skipped sequence ≠ 0 := by
    rw [← hskipped, Ne, Ne, ← UInt64.toNat_inj]
    rfl
  rw [← if_congr hzero rfl rfl]
  cases b.mark with
  | none => rfl
  | some h =>
    have hiff : h + 1 < sequence.toNat ↔ sequence.toNat - h - 1 ≠ 0 := by omega
    exact if_congr hiff rfl rfl

end Binding

variable {n : UInt64} {mark : Option Nat} {p p' : PublisherState} {id : PublisherId}
  {boot : PublisherBootId} {a : Action} {b : Binding} {s s₁ : State} {r : PublisherRegistration}

theorem toNat_add_one (h : n.toNat + 1 < 2 ^ 64) : (n + 1).toNat = n.toNat + 1 := by
  rw [UInt64.toNat_add]
  exact Nat.mod_eq_of_lt h

/-- A tally that counts on under a condition. -/
theorem toNat_counted {q : Prop} [Decidable q] (h : n.toNat + 1 < 2 ^ 64) :
    (if q then n + 1 else n).toNat = n.toNat + if q then 1 else 0 := by
  split
  · exact toNat_add_one h
  · rfl

/-- Taking a number, while there are fewer than there are sequence numbers. -/
theorem Ledger.Balances.take {l : Ledger} {numbers : List Nat} (h : l.Balances mark numbers)
    (sequence hash : UInt64) (hlt : numbers.length + 1 < 2 ^ 64) :
    (l.take sequence hash).Balances mark (numbers ++ [sequence.toNat]) := by
  have hmark : (l.take sequence hash).mark =
      Run.final Arrivals.arrive mark (numbers ++ [sequence.toNat]) := by
    rw [Run.final_append, ← h.mark_eq]
    exact l.mark_commit sequence hash
  have htotal (f : Option Nat → Nat → Nat) :
      Run.total Arrivals.arrive f mark (numbers ++ [sequence.toNat]) =
        Run.total Arrivals.arrive f mark numbers + f l.mark sequence.toNat := by
    rw [Run.total_append, ← h.mark_eq]
    rfl
  have hlate : Run.total Arrivals.arrive Arrivals.late mark numbers ≤ numbers.length :=
    Run.total_le_length Arrivals.late_le mark numbers
  have hgaps : Run.total Arrivals.arrive Arrivals.jump mark numbers ≤ numbers.length :=
    Run.total_le_length Arrivals.jump_le mark numbers
  refine ⟨hmark, ?_, ?_, ?_, ?_⟩
  · rw [length_append, ← h.accepted_eq]
    exact toNat_add_one (by rw [h.accepted_eq]; exact hlt)
  · rw [htotal, ← h.late_eq, l.late_mark]
    exact toNat_counted (by rw [h.late_eq]; omega)
  · -- what is missing stays below the watermark
    have hbound : Run.total Arrivals.arrive Arrivals.missing mark (numbers ++ [sequence.toNat]) <
        2 ^ 64 := by
      have hle := Arrivals.missing_le (hmark.symm.trans (if_pos rfl))
      exact hle.trans_lt (UInt64.toNat_lt _)
    rw [htotal, ← l.toNat_skipped, ← h.missing_eq] at hbound ⊢
    exact (UInt64.toNat_add _ _).trans (Nat.mod_eq_of_lt hbound)
  · rw [htotal, ← h.gaps_eq, l.jump_mark]
    exact toNat_counted (by rw [h.gaps_eq]; omega)

/-! ## Steps -/

/-- No tally and no watermark has fallen. A tally that overflows falls. -/
structure PublisherState.AtMost (p p' : PublisherState) : Prop where
  tallies : List.Forall₂ (· ≤ ·) p.view.tallies p'.view.tallies
  missing : p.view.sequences.missingEvents ≤ p'.view.sequences.missingEvents
  high : p.hasWatermark = true → p'.hasWatermark = true ∧ p.highWatermark ≤ p'.highWatermark

theorem PublisherState.AtMost.refl (p : PublisherState) : p.AtMost p :=
  ⟨forall₂_same.2 fun _ _ => UInt64.le_refl _, UInt64.le_refl _,
    fun h => ⟨h, UInt64.le_refl _⟩⟩

theorem forall₂_trans {α : Type} {R : α → α → Prop} (hR : ∀ a b c, R a b → R b c → R a c)
    {l l' l'' : List α} (h : List.Forall₂ R l l') (h' : List.Forall₂ R l' l'') :
    List.Forall₂ R l l'' := by
  induction h generalizing l'' with
  | nil => exact h'
  | cons hab _ ih =>
    cases h' with
    | cons hbc h' => exact .cons (hR _ _ _ hab hbc) (ih h')

theorem PublisherState.AtMost.trans {p'' : PublisherState} (h : p.AtMost p') (h' : p'.AtMost p'') :
    p.AtMost p'' where
  tallies := by
    refine forall₂_trans ?_ h.tallies h'.tallies
    exact fun _ _ _ hab hbc => UInt64.le_trans hab hbc
  missing := UInt64.le_trans h.missing h'.missing
  high hw := ⟨(h'.high (h.high hw).1).1, UInt64.le_trans (h.high hw).2 (h'.high (h.high hw).1).2⟩

/-- If the step offers a counter sample with a fresh number, then there is room for its counter
and its value fits. -/
def SampleFits (s : State) : Action → Prop
  | .ingestCounter c _ =>
    ∀ p, AdmittedCounter s c p → p.binding.Fresh c.sequence → HasRoom s c ∧ FitsWidth c
  | _ => True

/-- The boot is bound with the entry `p`, whose ledger is that of the numbers accepted so far. -/
structure Audited (id : PublisherId) (boot : PublisherBootId) (mark : Option Nat)
    (past : List (Action × Answer)) (s : State) (p : PublisherState) : Prop where
  entry : s.publishers[id]? = some p
  boot_eq : p.view.boot = boot
  balances : p.ledger.Balances mark ((acceptedSequences id boot past).map UInt64.toNat)
  bounded : ∀ n ∈ p.view.tallies, n.toNat ≤ past.length

theorem acceptedSequences_of_ne {answer : Answer}
    (h : ∀ boot sequence, accepted a answer ≠ some (id, boot, sequence)) :
    acceptedSequences id boot [(a, answer)] = [] := by
  simp only [acceptedSequences, filterMap_cons, filterMap_nil]
  rcases haccepted : accepted a answer with _ | ⟨id', boot', sequence⟩
  · rfl
  · have hne : ¬(id' = id ∧ boot' = boot) := by
      rintro ⟨rfl, rfl⟩
      exact h boot' sequence haccepted
    simp only [if_neg hne]

theorem acceptedSequences_of_offers (answer : Answer) (h : a.offers = none) :
    acceptedSequences id boot [(a, answer)] = [] :=
  acceptedSequences_of_ne fun _ _ haccepted => by simp [accepted, h] at haccepted

/-- Tallies that count on from below the largest number do not fall. -/
theorem PublisherView.CountsOn.le {v v' : PublisherView} {n : Nat} (h : v.CountsOn v')
    (hbound : ∀ k ∈ v.tallies, k.toNat ≤ n) (hn : n + 1 < 2 ^ 64) :
    List.Forall₂ (· ≤ ·) v.tallies v'.tallies ∧ ∀ k ∈ v'.tallies, k.toNat ≤ n + 1 := by
  unfold CountsOn at h
  generalize v.tallies = l at h hbound
  generalize v'.tallies = l' at h
  induction h with
  | nil => exact ⟨.nil, nofun⟩
  | @cons k k' l l' hk _ ih =>
    obtain ⟨hkn, hl⟩ := forall_mem_cons.1 hbound
    obtain ⟨hle, hbound'⟩ := ih hl
    have hk' : k ≤ k' ∧ k'.toNat ≤ n + 1 := by
      rcases hk with rfl | rfl
      · exact ⟨UInt64.le_refl _, by omega⟩
      · rw [UInt64.le_iff_toNat_le, toNat_add_one (by omega)]
        omega
    exact ⟨.cons hk'.1 hle, forall_mem_cons.2 ⟨hk'.2, hbound'⟩⟩

theorem Binding.mark_congr {b' : Binding} (hw : b'.hasWatermark = b.hasWatermark)
    (hhigh : b'.highWatermark = b.highWatermark) : b'.mark = b.mark := by
  rw [mark, mark, hw, hhigh]

/-- Registering a bound boot again leaves its watermark alone, unless the table knows more. -/
theorem Binding.register_same (id : PublisherId) {kept : Option PublisherWatermark}
    (hkept : ∀ w, kept = some w → w.hasWatermark = true → b.hasWatermark = true) :
    (register (some b) id b.boot kept).hasWatermark = b.hasWatermark ∧
      (register (some b) id b.boot kept).highWatermark = b.highWatermark := by
  unfold register
  simp only [Option.getD_some, if_true]
  cases kept with
  | none => exact ⟨rfl, rfl⟩
  | some w =>
    dsimp only
    rw [if_neg]
    · exact ⟨rfl, rfl⟩
    · rintro ⟨hw, hnot⟩
      exact hnot (hkept w rfl hw)

/-- Registering a boot again where it is bound: the table knows no more than its entry. -/
theorem boundPublisher_mark {time : Nanos} (hahead : s.Ahead) (hp : s.publishers[r.id]? = some p)
    (hsame : p.view.boot = r.boot) (hadmits : admitBoot s r time = .ok s₁)
    (epoch : CoordinatorEpoch) (now : Nanos) :
    (boundPublisher p r epoch (keptWatermark s₁ r) now).hasWatermark = p.hasWatermark ∧
      (boundPublisher p r epoch (keptWatermark s₁ r) now).highWatermark = p.highWatermark := by
  obtain rfl : s₁ = s := by
    rcases admitBoot_cases hadmits with ⟨rfl, _⟩ | ⟨_, rfl, _⟩ | ⟨p', _, hp', hne, _⟩
    · rfl
    · rfl
    · obtain rfl := Option.some.inj (hp.symm.trans hp')
      exact absurd hsame hne
  have hbinding := boundPublisher_binding (some p) r epoch (keptWatermark s₁ r) now
  have hkept (w : PublisherWatermark) (hw : keptWatermark s₁ r = some w)
      (hhas : w.hasWatermark = true) : p.binding.hasWatermark = true := by
    obtain ⟨hentry, _⟩ := Option.filter_eq_some_iff.1 hw
    rw [← hsame] at hentry
    have hb : s₁.binding r.id = some p.binding := by simp [State.binding, hp]
    exact (hahead r.id p.binding w.highWatermark hb ⟨w, hentry, hhas, UInt64.le_refl _⟩).1
  obtain ⟨hhas, hhigh⟩ := Binding.register_same r.id hkept
  have hboot : p.binding.boot = r.boot := hsame
  rw [hboot] at hhas hhigh
  exact ⟨(congrArg (·.hasWatermark) hbinding).trans hhas,
    (congrArg (·.highWatermark) hbinding).trans hhigh⟩

section

variable {id : PublisherId} {boot : PublisherBootId} {mark : Option Nat}
  {past : List (Action × Answer)} {s : State} {p : PublisherState} {a : Action}

/-- A step that takes no number of the boot and leaves its ledger's numbers alone. -/
theorem Audited.keep (h : Audited id boot mark past s p)
    (hp' : (act s a).2.publishers[id]? = some p') (hboot : p'.view.boot = boot)
    (hnone : acceptedSequences id boot [(a, (act s a).1)] = [])
    (hmark : p'.hasWatermark = p.hasWatermark ∧ p'.highWatermark = p.highWatermark)
    (hsequences : p'.ledger.accepted = p.ledger.accepted ∧ p'.ledger.late = p.ledger.late ∧
      p'.ledger.missing = p.ledger.missing ∧ p'.ledger.gaps = p.ledger.gaps)
    (hcounts : p.view.CountsOn p'.view) (hlt : past.length + 1 < 2 ^ 64) :
    Audited id boot mark (past ++ [(a, (act s a).1)]) (act s a).2 p' ∧ p.AtMost p' := by
  obtain ⟨haccepted, hlate, hmissing, hgaps⟩ := hsequences
  obtain ⟨hle, hbounded⟩ := hcounts.le h.bounded hlt
  refine ⟨⟨hp', hboot, ?_, by simpa using hbounded⟩, hle, ?_, fun hw => ?_⟩
  · rw [acceptedSequences_append, hnone, append_nil]
    have hb := h.balances
    exact ⟨(Binding.mark_congr hmark.1 hmark.2).trans hb.mark_eq, haccepted ▸ hb.accepted_eq,
      hlate ▸ hb.late_eq, hmissing ▸ hb.missing_eq, hgaps ▸ hb.gaps_eq⟩
  · exact UInt64.le_of_eq hmissing.symm
  · exact ⟨hmark.1.trans hw, UInt64.le_of_eq hmark.2.symm⟩

/-- A step that accepts a number of the boot and takes it. -/
theorem Audited.take (h : Audited id boot mark past s p)
    (hp' : (act s a).2.publishers[id]? = some p') {sequence hash : UInt64}
    (hone : acceptedSequences id boot [(a, (act s a).1)] = [sequence])
    (hledger : { p'.ledger with eventIds := p.recentEventIds } = p.ledger.take sequence hash)
    (hcounts : p.view.CountsOn p'.view) (hlt : past.length + 1 < 2 ^ 64) :
    Audited id boot mark (past ++ [(a, (act s a).1)]) (act s a).2 p' ∧ p.AtMost p' := by
  obtain ⟨hle, hbounded⟩ := hcounts.le h.bounded hlt
  have hboot : p'.view.boot = p.view.boot := congrArg (·.boot) hledger
  have hlength : (acceptedSequences id boot past).length ≤ past.length :=
    length_filterMap_le _ _
  have hb := h.balances.take sequence hash (by rw [length_map]; omega)
  rw [← hledger] at hb
  refine ⟨⟨hp', hboot.trans h.boot_eq, ?_, by simpa using hbounded⟩, hle, ?_, fun hw => ?_⟩
  · rw [acceptedSequences_append, hone, map_append]
    exact ⟨hb.mark_eq, hb.accepted_eq, hb.late_eq, hb.missing_eq, hb.gaps_eq⟩
  · rw [UInt64.le_iff_toNat_le]
    have hnew := hb.missing_eq
    rw [Run.total_append, ← h.balances.missing_eq] at hnew
    exact Nat.le.intro hnew.symm
  · have hhas : p'.hasWatermark = true := congrArg (·.hasWatermark) hledger
    have hhigh : p'.highWatermark = p.binding.highAfter sequence :=
      congrArg (·.highWatermark) hledger
    refine ⟨hhas, ?_⟩
    rw [hhigh, UInt64.le_iff_toNat_le, Binding.toNat_highAfter hw]
    exact Nat.le_max_left _ _

/-- What one step does to a boot that stays bound. -/
theorem Audited.step (h : Audited id boot mark past s p) (hahead : s.Ahead)
    (hbound : (act s a).2.Bound id boot) (hfits : SampleFits s a)
    (hlt : past.length + 1 < 2 ^ 64) :
    ∃ p', Audited id boot mark (past ++ [(a, (act s a).1)]) (act s a).2 p' ∧ p.AtMost p' := by
  obtain ⟨p', hp', hboot⟩ := hbound
  refine ⟨p', ?_⟩
  have hentry := act_entry s a id
  rw [hp', h.entry] at hentry
  cases hentry with
  | keep hrecounts hne =>
    cases hrecounts with
    | some hrecounts =>
      have hledger := hrecounts.ledger_eq
      exact h.keep hp' hboot (acceptedSequences_of_ne hne)
        ⟨congrArg (·.hasWatermark) hledger, congrArg (·.highWatermark) hledger⟩
        (by rw [hledger]; exact ⟨rfl, rfl, rfl, rfl⟩) hrecounts.counts hlt
  | observe o now _ hid hadmitted haccepted hledger hcounts =>
    have hone : acceptedSequences id boot [(a, (act s a).1)] = [o.sequence] := by
      simp [acceptedSequences, haccepted, ← hadmitted.boot, h.boot_eq]
    exact h.take hp' hone (by rw [hledger]; rfl) hcounts hlt
  -- it takes its number, and is accepted because it fits
  | sample c now ha hid hadmitted hfresh haccepts hledger hcounts =>
    have hone : acceptedSequences id boot [(a, (act s a).1)] = [c.sequence] := by
      refine acceptedSequences_of_accepts (haccepts.2 ?_) ?_
      · subst ha
        exact hfits p hadmitted hfresh
      · rw [ha, Action.offers, ← hadmitted.boot, h.boot_eq, hid]
    exact h.take hp' hone (by rw [hledger]; rfl) hcounts hlt
  | bind r clock s₁ ha hid hchecks hadmits hregistered =>
    -- it is the same boot that registers again, and the table knows no more than its entry
    have hsame : p.view.boot = r.boot := by
      rw [h.boot_eq, ← hboot, (boundPublisher_view ..).2]
    obtain ⟨-, -, htallies, hmissing⟩ :=
      boundPublisher_same s.coordinatorEpoch (keptWatermark s₁ r) (clock 1) hsame
    have hcounts := PublisherView.countsOn_of_eq htallies
    subst hid
    have hmark := boundPublisher_mark hahead h.entry hsame hadmits s.coordinatorEpoch (clock 1)
    simp only [PublisherView.tallies, List.cons.injEq] at htallies
    obtain ⟨-, -, -, -, haccepted, -, -, hlate, -, -, -, hgaps, -⟩ := htallies
    exact h.keep hp' hboot (acceptedSequences_of_offers _ (by rw [ha]; rfl)) hmark
      ⟨haccepted, hlate, hmissing, hgaps⟩ hcounts hlt
  | fence boot' reason detail now ha hb =>
    exact h.keep hp' hboot (acceptedSequences_of_offers _ (by rw [ha]; rfl)) ⟨rfl, rfl⟩
      ⟨rfl, rfl, rfl, rfl⟩ (PublisherView.countsOn_of_eq rfl) hlt

end

/-! ## Runs -/

/-- What a run does to a boot that stays bound throughout. -/
theorem Audited.run {past : List (Action × Answer)} {l : List Action}
    (h : Audited id boot mark past s p) (hs : s.Sound) (hahead : s.Ahead)
    (hl : Run.Along act (fun s a => (act s a).2.Bound id boot ∧ SampleFits s a) s l)
    (hlt : past.length + l.length < 2 ^ 64) :
    ∃ p', Audited id boot mark (past ++ Run.history act s l) (Run.final act s l) p' ∧
      p.AtMost p' := by
  induction l generalizing past s p with
  | nil => exact ⟨p, by simpa [Run.history, Run.final] using h, .refl p⟩
  | cons a l ih =>
    obtain ⟨⟨hbound, hfits⟩, hl⟩ := hl
    rw [length_cons] at hlt
    obtain ⟨p₁, h₁, hle⟩ := h.step hahead hbound hfits (by omega)
    obtain ⟨p', h', hle'⟩ := ih h₁ (act_sound hs a) (act_ahead hs hahead a) hl
      (by rw [length_append, length_singleton]; omega)
    rw [append_assoc] at h'
    exact ⟨p', h', hle.trans hle'⟩

/-- The watermark a registration takes over from the table for a boot that is not bound. -/
def restoredMark (s : State) (r : PublisherRegistration) : Option Nat :=
  (keptWatermark s r).bind fun w =>
    if w.hasWatermark then some w.highWatermark.toNat else none

/-- Superseding the bound boot does not touch the entry of its successor. -/
theorem keptWatermark_admitBoot {now : Nanos} (h : admitBoot s r now = .ok s₁) :
    keptWatermark s₁ r = keptWatermark s r := by
  rcases admitBoot_cases h with ⟨rfl, _⟩ | ⟨_, rfl, _⟩ | ⟨p, rfl, _, hne, _⟩
  · rfl
  · rfl
  · have hkey : bootKey p.view.id p.view.boot ≠ bootKey r.id r.boot :=
      fun heq => hne (bootKey_injective heq).2
    rw [keptWatermark, keptWatermark]
    change (s.watermarks.insert _ _)[_]?.filter _ = _
    rw [ExtTreeMap.getElem?_insert, if_neg (by simpa using hkey)]

/-- A boot that was not bound starts with nothing but what it takes over. -/
theorem boundPublisher_balances (epoch : CoordinatorEpoch) (s : State) (now : Nanos)
    (hp : p.view.boot ≠ r.boot) : let p' := boundPublisher p r epoch (keptWatermark s r) now
    p'.ledger.Balances (restoredMark s r) [] ∧ ∀ n ∈ p'.view.tallies, n.toNat ≤ 0 := by
  have hne : p.binding.boot ≠ r.boot := hp
  obtain ⟨-, -, htallies, hmissing⟩ := boundPublisher_fresh epoch (keptWatermark s r) now hp
  have hbinding := boundPublisher_binding (some p) r epoch (keptWatermark s r) now
  have hmark : (Binding.register (some p.binding) r.id r.boot (keptWatermark s r)).mark =
      restoredMark s r := by
    rw [restoredMark]
    cases keptWatermark s r with
    | none => simp [Binding.register, hne, Binding.mark]
    | some w => by_cases hw : w.hasWatermark = true <;> simp [Binding.register, hne, hw, Binding.mark]
  refine ⟨?_, fun n hn => ?_⟩
  · simp only [PublisherView.tallies, List.replicate, List.cons.injEq] at htallies
    obtain ⟨-, -, -, -, haccepted, -, -, hlate, -, -, -, hgaps, -⟩ := htallies
    exact ⟨(congrArg Binding.mark hbinding).trans hmark, congrArg UInt64.toNat haccepted,
      congrArg UInt64.toNat hlate, congrArg UInt64.toNat hmissing, congrArg UInt64.toNat hgaps⟩
  · rw [htallies] at hn
    rw [eq_of_mem_replicate hn]
    exact Nat.le_refl 0

theorem audited_bound {clock : Nat → Nanos}
    (hbinds : registered (.registerPublisher r clock) (act s (.registerPublisher r clock)).1 = some (r.id, r.boot))
    (hnew : ¬s.Bound r.id r.boot) :
    ∃ p, Audited r.id r.boot (restoredMark s r) [] (act s (.registerPublisher r clock)).2 p := by
  rw [act] at hbinds ⊢
  rcases registerPublisher_cases s r clock with ⟨e, h⟩ | ⟨s₁, hchecks, hadmits, _, hrest⟩
  · rw [h] at hbinds
    cases hbinds
  rcases hrest with ⟨e, _, h⟩ | ⟨_, h⟩ <;> rw [h] at hbinds ⊢
  · cases hbinds
  have hp : (s₁.publishers[r.id]?.getD {}).view.boot ≠ r.boot := by
    rw [(admitBoot_publishers hadmits).1]
    cases hs : s.publishers[r.id]? with
    | none => exact fun heq => checkRegistration_boot hchecks heq.symm
    | some p => exact fun heq => hnew ⟨p, hs, heq⟩
  have hmark : restoredMark s₁ r = restoredMark s r := by
    rw [restoredMark, restoredMark, keptWatermark_admitBoot hadmits]
  obtain ⟨hbalances, hbounded⟩ := boundPublisher_balances s₁.coordinatorEpoch s₁ (clock 1) hp
  rw [hmark] at hbalances
  exact ⟨_, ExtTreeMap.getElem?_insert_self, (boundPublisher_view ..).2, hbalances, hbounded⟩

/-- The numbers accepted for a boot in a run. -/
def acceptedNumbers (id : PublisherId) (boot : PublisherBootId) (s : State) (l : List Action) :
    List Nat :=
  (acceptedSequences id boot (Run.history act s l)).map UInt64.toNat

/-- From the registration that binds a boot on, in every run of fewer than 2^64 steps in which
    the boot stays bound and the counter samples with fresh numbers fit: as soon as the boot has
    a watermark, what was accepted and not late and what is missing make up the way from the base
    to the watermark, which is the largest of the base and the numbers accepted; the gaps are the
    numbers ahead by more than one; and no tally and no watermark ever falls. -/
theorem sequences_balance (options : ObservatoryOptions) (now : Nanos) (before : List Action)
    (r : PublisherRegistration) (clock : Nat → Nanos) (l : List Action) {s₀ s : State}
    (hs₀ : s₀ = Run.final act (State.initial options now) before)
    (hs : s = (act s₀ (.registerPublisher r clock)).2)
    (hbinds : registered (.registerPublisher r clock)
      (act s₀ (.registerPublisher r clock)).1 = some (r.id, r.boot))
    (hnew : ¬s₀.Bound r.id r.boot) (hlength : before.length + 1 + l.length < 2 ^ 64)
    (hl : Run.Along act (fun s a => (act s a).2.Bound r.id r.boot ∧ SampleFits s a) s l) :
    ∃ p, (Run.final act s l).publishers[r.id]? = some p ∧ p.view.boot = r.boot ∧
      (p.hasWatermark = true →
        (p.view.sequences.accepted.toNat : Int) - p.view.sequences.lateEvents.toNat +
            p.view.sequences.missingEvents.toNat = p.highWatermark.toNat -
              Arrivals.base (restoredMark s₀ r) (acceptedNumbers r.id r.boot s l) ∧
          (p.highWatermark.toNat : Int) = (acceptedNumbers r.id r.boot s l).foldl
            (fun m (q : Nat) => max m (q : Int))
            (Arrivals.base (restoredMark s₀ r) (acceptedNumbers r.id r.boot s l))) ∧
      p.view.sequences.sequenceGaps.toNat = Run.total Arrivals.arrive Arrivals.jump
        (restoredMark s₀ r) (acceptedNumbers r.id r.boot s l) ∧
      ∀ l₁ l₂, l = l₁ ++ l₂ → ∃ p₁, (Run.final act s l₁).publishers[r.id]? = some p₁ ∧
        p₁.AtMost p := by
  have hsound₀ : s₀.Sound := hs₀ ▸ final_sound (sound_initial options now) before
  have hahead₀ : s₀.Ahead := hs₀ ▸ final_ahead (sound_initial options now)
    (Lineage.ahead_initial options now) before
  have hsound : s.Sound := hs ▸ act_sound hsound₀ _
  have hahead : s.Ahead := hs ▸ act_ahead hsound₀ hahead₀ _
  -- the audit starts with the registration and is kept along the run
  obtain ⟨p₀, haudited⟩ := audited_bound hbinds hnew
  rw [← hs] at haudited
  obtain ⟨p, hp, _⟩ := haudited.run hsound hahead hl (by rw [List.length_nil]; omega)
  rw [List.nil_append] at hp
  have hb := hp.balances
  refine ⟨p, hp.entry, hp.boot_eq, fun hw => ?_, hb.gaps_eq, ?_⟩
  -- the tallies are those of the abstract arrivals
  · have hfinal : Run.final Arrivals.arrive (restoredMark s₀ r) (acceptedNumbers r.id r.boot s l) =
        some p.highWatermark.toNat := hb.mark_eq.symm.trans (if_pos hw)
    have hbalance := Arrivals.balance hfinal
    refine ⟨?_, Arrivals.final_eq_max hfinal⟩
    rw [← hbalance]
    have haccepted : p.view.sequences.accepted.toNat =
        (acceptedNumbers r.id r.boot s l).length := hb.accepted_eq
    have hlate : p.view.sequences.lateEvents.toNat = Run.total Arrivals.arrive Arrivals.late
        (restoredMark s₀ r) (acceptedNumbers r.id r.boot s l) := hb.late_eq
    have hmissing : p.view.sequences.missingEvents.toNat = Run.total Arrivals.arrive
        Arrivals.missing (restoredMark s₀ r) (acceptedNumbers r.id r.boot s l) := hb.missing_eq
    rw [haccepted, hlate, hmissing]
  -- the rest of the run starts from an audited state
  · rintro l₁ l₂ rfl
    obtain ⟨hl₁, hl₂⟩ := (Run.along_append s l₁ l₂).1 hl
    rw [List.length_append] at hlength
    obtain ⟨p₁, hp₁, _⟩ := haudited.run hsound hahead hl₁ (by rw [List.length_nil]; omega)
    obtain ⟨p', hp', hle⟩ := hp₁.run (final_sound hsound l₁) (final_ahead hsound hahead l₁) hl₂
      (by rw [List.nil_append, Run.length_history]; omega)
    rw [← Run.final_append] at hp'
    obtain rfl := Option.some.inj (hp'.entry.symm.trans hp.entry)
    exact ⟨p₁, hp₁.entry, hle⟩

/-- Boot 1 of `p` sends 2, then 5, then 3 as a counter sample. -/
theorem sequences_balance_three :
    ∃ p, (Run.final act (act (State.initial {} 0) Lineage.greets).2
        [.ingest (sampleObservation 2) 0, .ingest (sampleObservation 5) 0,
          .ingestCounter (reading .Absolute 8 3 200) 0]).publishers[ascii "p"]? = some p ∧
      (p.hasWatermark = true →
        (p.view.sequences.accepted.toNat : Int) - p.view.sequences.lateEvents.toNat +
          p.view.sequences.missingEvents.toNat = p.highWatermark.toNat - 1) := by
  have hfits : SampleFits (Run.final act (act (State.initial {} 0) Lineage.greets).2
      [.ingest (sampleObservation 2) 0, .ingest (sampleObservation 5) 0])
      (.ingestCounter (reading .Absolute 8 3 200) 0) :=
    fun _ _ _ => ⟨.inr (by decide +kernel), .inr (.inr (by decide))⟩
  obtain ⟨p, hp, -, hbalance, -⟩ := sequences_balance {} 0 [] sampleRegistration (fun _ => 0)
    [.ingest (sampleObservation 2) 0, .ingest (sampleObservation 5) 0,
      .ingestCounter (reading .Absolute 8 3 200) 0] rfl rfl (by decide +kernel) (by decide +kernel)
    (by decide) ⟨⟨by decide +kernel, trivial⟩, ⟨by decide +kernel, trivial⟩,
      ⟨by decide +kernel, hfits⟩, trivial⟩
  refine ⟨p, hp, fun hw => ?_⟩
  rw [(hbalance hw).1]
  have hbase : Arrivals.base (restoredMark (State.initial {} 0) sampleRegistration)
      (acceptedNumbers (ascii "p") 1 (act (State.initial {} 0) Lineage.greets).2
        [.ingest (sampleObservation 2) 0, .ingest (sampleObservation 5) 0,
          .ingestCounter (reading .Absolute 8 3 200) 0]) = 1 := by
    decide +kernel
  exact congrArg (_ - ·) hbase

/-- Boot 1 of `p` sends 5 as a counter sample of 300 for a counter of eight bits, which is
    refused, and then 3, the only number that is accepted. Then two numbers count as accepted,
    one of them as late, and the watermark is 5. -/
theorem wideSample_unbalanced :
    let s := (act (State.initial {} 0) Lineage.greets).2
    let l : List Action := [.ingestCounter (reading .Absolute 8 5 300) 0,
      .ingest (sampleObservation 3) 0]
    registered Lineage.greets (act (State.initial {} 0) Lineage.greets).1 =
        some (ascii "p", 1) ∧ ¬(State.initial {} 0).Bound (ascii "p") 1 ∧
      Run.Along act (fun s a => (act s a).2.Bound (ascii "p") 1) s l ∧
      Arrivals.base (restoredMark (State.initial {} 0) sampleRegistration)
        (acceptedNumbers (ascii "p") 1 s l) = 2 ∧
      acceptedNumbers (ascii "p") 1 s l = [3] ∧
      ∃ p ∈ (Run.final act s l).publishers[ascii "p"]?, p.hasWatermark = true ∧
        p.highWatermark = 5 ∧ p.view.sequences.accepted = 2 ∧ p.view.sequences.lateEvents = 1 ∧
        p.view.sequences.missingEvents = 0 := by
  decide +kernel

end CoherenceObservatory
