import CoherenceObservatory.Bookkeeping
import CoherenceObservatory.Counter.Meter
import CoherenceObservatory.Ledger
import CoherenceObservatory.Replay

/-!
# Publishers do not affect each other

The tables are shared, but a publisher only reaches what is its own. Its entry and its counters
are filed under its name, and its boots have keys that no other publisher's boot has, whatever
characters the names contain.
-/

namespace CoherenceObservatory

open Std ExtTreeMap

/-- The publisher that registers or sends something in a step. -/
def Action.publisher : Action → Option PublisherId
  | .registerPublisher r _ => some r.id
  | .ingest o _ => some o.sourcePublisher
  | .ingestCounter c _ => some c.publisher
  | _ => none

/-- The states agree on what belongs to publishers other than `p`: their entries, the table
entries under the keys of their boots, all table entries that bear their names, and their
counters. -/
structure Isolates (p : PublisherId) (s s' : State) : Prop where
  publishers : ∀ id : PublisherId, id ≠ p → s'.publishers[id]? = s.publishers[id]?
  keys : ∀ (id : PublisherId) (boot : PublisherBootId), id ≠ p →
    s'.watermarks[bootKey id boot]? = s.watermarks[bootKey id boot]?
  watermarks : ∀ (key : Text) (w : PublisherWatermark), w.publisher ≠ p →
    (s'.watermarks[key]? = some w ↔ s.watermarks[key]? = some w)
  counters : ∀ k : CounterKey, k.publisher ≠ p → s'.counters[k]? = s.counters[k]?

namespace Isolates

variable {p : PublisherId} {s s' s'' : State}

theorem trans (h : Isolates p s s') (h' : Isolates p s' s'') : Isolates p s s'' where
  publishers id hid := (h'.publishers id hid).trans (h.publishers id hid)
  keys id boot hid := (h'.keys id boot hid).trans (h.keys id boot hid)
  watermarks key w hw := (h'.watermarks key w hw).trans (h.watermarks key w hw)
  counters k hk := (h'.counters k hk).trans (h.counters k hk)

/-- A step that leaves the table of watermarks alone. -/
theorem of_watermarks_eq (hpublishers : ∀ id : PublisherId, id ≠ p →
      s'.publishers[id]? = s.publishers[id]?) (hwatermarks : s'.watermarks = s.watermarks)
    (hcounters : ∀ k : CounterKey, k.publisher ≠ p → s'.counters[k]? = s.counters[k]?) :
    Isolates p s s' where
  publishers := hpublishers
  keys id boot _ := by rw [hwatermarks]
  watermarks key w _ := by rw [hwatermarks]
  counters := hcounters

/-- A step that files something under one of the publisher's boots. -/
theorem of_watermark {boot : PublisherBootId} {w : PublisherWatermark} (hs : s.Sound)
    (hpublishers : ∀ id : PublisherId, id ≠ p → s'.publishers[id]? = s.publishers[id]?)
    (hwatermarks : s'.watermarks = s.watermarks.insert (bootKey p boot) w)
    (hw : w.publisher = p) (hcounters : s'.counters = s.counters) : Isolates p s s' where
  publishers := hpublishers
  keys id b hid := by
    have hkey : bootKey p boot ≠ bootKey id b := fun heq => hid (bootKey_injective heq).1.symm
    rw [hwatermarks, getElem?_insert, if_neg (by simpa using hkey)]
  watermarks key w' hw' := by
    rw [hwatermarks, getElem?_insert]
    split
    next hkey =>
      -- what was there before was an entry of the same boot
      obtain rfl := LawfulEqOrd.compare_eq_iff_eq.1 hkey
      constructor
      · rintro ⟨⟩
        exact absurd hw hw'
      · intro hold
        exact absurd (bootKey_injective (hs.watermarks.key_eq hold)).1 hw'
    · exact Iff.rfl
  counters k _ := by rw [hcounters]

end Isolates

/-! ## Steps -/

theorem getElem?_insert_of_ne {V : Type} {m : ExtTreeMap PublisherId V} {k id : PublisherId} (v : V)
    (h : id ≠ k) : (m.insert k v)[id]? = m[id]? := by
  rw [getElem?_insert, if_neg (by simpa using Ne.symm h)]

theorem ingest_isolates (s : State) (o : Observation) (now : Nanos) :
    Isolates o.sourcePublisher s (ingestLocked s o now).2 := by
  refine .of_watermarks_eq (fun id hid => ?_) (ingestLocked_binding s o now).1.watermarks_eq
    fun k _ => by rw [ingestLocked_counters]
  by_cases h : ∃ p, Admitted s o p
  · obtain ⟨p, h⟩ := h
    rw [ingestLocked_admitted h, ingestAccepted_publishers]
    exact getElem?_insert_of_ne _ hid
  · rcases ingestLocked_publishers_refused s now (not_exists.1 h) with hm | ⟨_, p', _, _, hm⟩
    · rw [hm]
    · rw [hm]
      exact getElem?_insert_of_ne _ hid

theorem ingestCounter_isolates (s : State) (c : CounterPublication) (now : Nanos) :
    Isolates c.publisher s (ingestCounter s c now).2 := by
  refine .of_watermarks_eq (fun id hid => ?_) (ingestCounter_binding s c now).1.watermarks_eq
    fun k hk => ?_
  · by_cases h : ∃ p, AdmittedCounter s c p
    · obtain ⟨p, h⟩ := h
      rw [ingestCounter_admitted h]
      by_cases hfresh :
          (accountSequence p c.sequence (counterHash c)).disposition.isAccepted = true
      · obtain ⟨_, _, _, _, hm⟩ := counterAccounted_publishers s now hfresh
        rw [hm]
        exact getElem?_insert_of_ne _ hid
      · obtain ⟨_, _, _, hm⟩ := counterAccounted_publishers_refused s now hfresh
        rw [hm]
        exact getElem?_insert_of_ne _ hid
    · rw [ingestCounter_publishers_refused s now (not_exists.1 h)]
  · have hkey : c.key ≠ k := fun heq => hk (congrArg CounterKey.publisher heq).symm
    cases metered_ingestCounter s c now with
    | refused hcounters => rw [hcounters]
    | wide _ hcounters => rw [hcounters, getElem?_insert, if_neg (by simpa using hkey)]
    | sampled _ _ hcounters =>
      rw [hcounters, getElem?_insert, if_neg (by simpa using hkey)]

variable {s : State}

theorem admitBoot_isolates {s' : State} {r : PublisherRegistration} {now : Nanos} (hs : s.Sound)
    (h : admitBoot s r now = .ok s') : Isolates r.id s s' := by
  rcases admitBoot_cases h with ⟨rfl, _⟩ | ⟨_, rfl, _⟩ | ⟨p, rfl, hp, _⟩
  · exact .of_watermarks_eq (fun _ _ => rfl) rfl fun _ _ => rfl
  · exact .of_watermarks_eq (fun _ _ => rfl) rfl fun _ _ => rfl
  · have hid : p.view.id = r.id :=
      (hs.bindings r.id p.binding (by simp [State.binding, hp])).id_eq
    have hwatermarks : (supersede s p now).watermarks = s.watermarks.insert
        (bootKey r.id p.view.boot)
        (p.watermark p.view.id p.view.boot .supersededByNewBoot) := by
      rw [← hid]
      rfl
    exact .of_watermark hs (fun _ _ => rfl) hwatermarks hid rfl

theorem bindBoot_isolates (r : PublisherRegistration) (now : Nanos) (hs : s.Sound) :
    Isolates r.id s (bindBoot s r now) := by
  have hpublishers (id : PublisherId) (hid : id ≠ r.id) :
      (bindBoot s r now).publishers[id]? = s.publishers[id]? := getElem?_insert_of_ne _ hid
  cases hkept : keptWatermark s r with
  | none =>
    refine .of_watermarks_eq hpublishers ?_ fun _ _ => rfl
    rw [bindBoot, hkept]
  | some kept =>
    obtain ⟨hentry, _⟩ := Option.filter_eq_some_iff.1 hkept
    have hwatermarks : (bindBoot s r now).watermarks = s.watermarks.insert (bootKey r.id r.boot)
        { kept with fenced := false, fenceReason := .notFenced } := by
      rw [bindBoot, hkept]
    exact .of_watermark hs hpublishers hwatermarks
      (bootKey_injective (hs.watermarks.key_eq hentry)).1 rfl

theorem registerPublisher_isolates (r : PublisherRegistration) (clock : Nat → Nanos) (hs : s.Sound) :
    Isolates r.id s (registerPublisher s r clock).2 := by
  rcases registerPublisher_cases s r clock with ⟨e, h⟩ | ⟨s₁, _, hadmits, _, hrest⟩
  · rw [h]
    exact .of_watermarks_eq (fun _ _ => rfl) rfl fun _ _ => rfl
  have hadmitted := admitBoot_isolates hs hadmits
  rcases hrest with ⟨e, _, h⟩ | ⟨_, h⟩ <;> rw [h]
  · exact hadmitted
  · exact hadmitted.trans (bindBoot_isolates r (clock 1) (admitBoot_sound hs hadmits))

/-- In every state that a run of public operations reaches, a publisher that registers or sends
    something, whether with success or not, affects no other. -/
theorem publishers_isolated (options : ObservatoryOptions) (now : Nanos) (l : List Action)
    (a : Action) (p : PublisherId) (h : a.publisher = some p) :
    Isolates p (Run.final act (State.initial options now) l)
      (act (Run.final act (State.initial options now) l) a).2 := by
  have hs := final_sound (sound_initial options now) l
  generalize Run.final act (State.initial options now) l = s at hs ⊢
  unfold Action.publisher at h
  split at h
  next r clock => exact Option.some.inj h ▸ registerPublisher_isolates r clock hs
  next o time => exact Option.some.inj h ▸ ingest_isolates s o time
  next c time => exact Option.some.inj h ▸ ingestCounter_isolates s c time
  · exact nomatch h

/-- Publishers `p` and `q` have registered, and `p` has sent something. -/
def twoPublishers : List Action :=
  [.registerPublisher sampleRegistration fun _ => 0,
    .registerPublisher { id := ascii "q", boot := 7 } fun _ => 0, .ingest (sampleObservation 1) 0]

/-- Another boot of `p` registers, and `q` keeps its entry. -/
theorem publishers_isolated_two :
    let s := Run.final act (State.initial {} 0) twoPublishers
    let a := Action.registerPublisher { sampleRegistration with boot := 2 } fun _ => 0
    s.publishers[ascii "q"]?.isSome = true ∧
      (act s a).2.publishers[ascii "q"]? = s.publishers[ascii "q"]? :=
  ⟨by decide +kernel,
    (publishers_isolated {} 0 twoPublishers _ (ascii "p") rfl).publishers _ (by decide)⟩

end CoherenceObservatory
