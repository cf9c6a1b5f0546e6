import CoherenceObservatory.Persistence.Restored
import CoherenceObservatory.Replay

/-!
# Replay across restarts

What an observatory has accepted outlives it in the watermarks of the files it saves. A lineage
is the observatory that runs, the files saved so far, and, on the side, which numbers had been
accepted on the way to each of them.

A save stores a bound boot under its entry in the table, however old the entry is. An entry that a
load brought back stays when its boot registers again, so from the second save on what the boot has
sent since is not stored.
-/

namespace CoherenceObservatory

open Std Limits ExtTreeMap Function

/-! ## Marks -/

/-- The entry has the number below its watermark. -/
def PublisherWatermark.Reaches (w : PublisherWatermark) (q : EventSequence) : Prop :=
  w.hasWatermark = true ∧ q ≤ w.highWatermark

variable {b : Binding} {q : EventSequence} {boot : PublisherBootId} {id : PublisherId} {a : Action}
  {s : State}

namespace Binding

/-- The binding has the number below its watermark. -/
def Reaches (b : Binding) (q : EventSequence) : Prop :=
  b.hasWatermark = true ∧ q ≤ b.highWatermark

theorem reaches_commit (b : Binding) (sequence hash : UInt64) :
    (b.commit sequence hash).Reaches sequence :=
  ⟨rfl, b.le_highAfter sequence⟩

theorem Reaches.commit (h : b.Reaches q) (sequence hash : UInt64) :
    (b.commit sequence hash).Reaches q := by
  refine ⟨rfl, ?_⟩
  have hhigh := toNat_highAfter h.1 sequence
  have hle := UInt64.le_iff_toNat_le.1 h.2
  rw [UInt64.le_iff_toNat_le]
  change q.toNat ≤ (b.highAfter sequence).toNat
  omega

/-- A durable watermark turns away all that is below it. -/
theorem Reaches.not_fresh (h : b.Reaches q) (hdurable : b.durableWatermark = true) : ¬b.Fresh q :=
  (⟨h.1, h.2, .inl hdurable⟩ : b.Covers q).not_fresh

/-- What registering a boot makes of its watermark: it is kept if the boot was bound, and taken
over from the table, as a durable one, if the boot has none. -/
theorem register_marks (old : Option Binding) (id : PublisherId) (hboot : boot ≠ 0)
    (kept : Option PublisherWatermark) :
    (∃ b, old = some b ∧ b.boot = boot ∧ b.hasWatermark = true ∧
      (register old id boot kept).hasWatermark = true ∧
      (register old id boot kept).highWatermark = b.highWatermark ∧
      (register old id boot kept).durableWatermark = b.durableWatermark) ∨
    ((∀ b, old = some b → b.boot = boot → b.hasWatermark = false) ∧
      ∀ w, kept = some w → w.hasWatermark = true →
        (register old id boot kept).hasWatermark = true ∧
        (register old id boot kept).highWatermark = w.highWatermark ∧
        (register old id boot kept).durableWatermark = true) := by
  cases old with
  | none =>
    refine .inr ⟨nofun, ?_⟩
    rintro w rfl hw
    have hne : (PublisherState.binding {}).boot ≠ boot := fun h => hboot h.symm
    simp [register, hw, hne]
  | some b =>
    by_cases hsame : b.boot = boot
    · by_cases hhas : b.hasWatermark = true
      · refine .inl ⟨b, rfl, hsame, hhas, ?_⟩
        cases kept <;> simp [register, hsame, hhas]
      · refine .inr ⟨?_, ?_⟩
        · rintro b' ⟨⟩ -
          simpa using hhas
        · rintro w rfl hw
          simp [register, hsame, hhas, hw]
    · refine .inr ⟨?_, ?_⟩
      · rintro b' ⟨⟩ hb
        exact absurd hb hsame
      · rintro w rfl hw
        simp [register, hsame, hw]

end Binding

/-- The table has the number below the watermark of a boot. -/
def State.Tabled (s : State) (key : Text) (q : EventSequence) : Prop :=
  ∃ w, s.watermarks[key]? = some w ∧ w.Reaches q

/-- No bound boot is behind its entry in the table. -/
def State.Ahead (s : State) : Prop :=
  ∀ id b q, s.binding id = some b → s.Tabled (bootKey id b.boot) q → b.Reaches q

/-- A number below the watermark of the boot, in the table or where it is bound. -/
def State.Noted (s : State) (id : PublisherId) (boot : PublisherBootId) (q : EventSequence) :
    Prop :=
  s.Tabled (bootKey id boot) q ∨ ∃ b, s.binding id = some b ∧ b.boot = boot ∧ b.Reaches q

/-- What a step other than a load does to the marks. -/
structure MarksKept (s s' : State) : Prop where
  ahead : s'.Ahead
  tabled : ∀ key q, s.Tabled key q → s'.Tabled key q
  noted : ∀ id b q, s.binding id = some b → b.Reaches q → s'.Noted id b.boot q
  durable : ∀ id b' q, s'.binding id = some b' → s.Tabled (bootKey id b'.boot) q →
    (∀ b, s.binding id = some b → b.boot = b'.boot → b.durableWatermark = true) →
    b'.durableWatermark = true

/-! ## Steps -/

section

variable {s s' : State}

variable {w : PublisherWatermark} {r : PublisherRegistration} {now : Nanos}

theorem tabled_insert {key key' : Text} (h : s'.watermarks = s.watermarks.insert key w) :
    s'.Tabled key' q ↔ if key = key' then w.Reaches q else s.Tabled key' q := by
  rw [State.Tabled, h]
  by_cases hkey : key = key'
  · subst hkey
    simp
  · simp [getElem?_insert, hkey, State.Tabled]

/-- A step that leaves the boots bound so far bound, with entries at least as good. -/
theorem MarksKept.of_binding (hbinding : s'.binding = s.binding) (hahead : s'.Ahead)
    (htabled : ∀ key q, s.Tabled key q → s'.Tabled key q) : MarksKept s s' where
  ahead := hahead
  tabled := htabled
  noted _ b _ hb hq := .inr ⟨b, hbinding ▸ hb, rfl, hq⟩
  durable _ b' _ hb' _ h := h b' (hbinding ▸ hb') rfl

theorem MarksKept.of_quiet (hbinding : s'.binding = s.binding)
    (hwatermarks : s'.watermarks = s.watermarks) (h : s.Ahead) : MarksKept s s' := by
  have htabled (key : Text) (q : EventSequence) : s'.Tabled key q ↔ s.Tabled key q := by
    rw [State.Tabled, hwatermarks, State.Tabled]
  refine .of_binding hbinding ?_ fun key q => (htabled key q).2
  intro id b q hb hq
  exact h id b q (hbinding ▸ hb) ((htabled _ q).1 hq)

/-- A number is committed. -/
theorem Commits.marksKept {sequence hash : UInt64} (hcommits : Commits s s' id boot sequence hash b)
    (hwatermarks : s'.watermarks = s.watermarks) (h : s.Ahead) : MarksKept s s' := by
  have htabled (key : Text) (q : EventSequence) : s'.Tabled key q ↔ s.Tabled key q := by
    rw [State.Tabled, hwatermarks, State.Tabled]
  have hself : s'.binding id = some (b.commit sequence hash) := by
    rw [hcommits.binding_eq, update_self]
  have hother {k : PublisherId} (hk : k ≠ id) : s'.binding k = s.binding k := by
    rw [hcommits.binding_eq, update_of_ne hk]
  refine ⟨?_, fun key q => (htabled key q).2, ?_, ?_⟩
  · intro k b' q hb' hq
    by_cases hk : k = id
    · subst hk
      obtain rfl := Option.some.inj (hself.symm.trans hb')
      exact (h k b q hcommits.bound ((htabled _ q).1 hq)).commit sequence hash
    · exact h k b' q (hother hk ▸ hb') ((htabled _ q).1 hq)
  · intro k b' q hb' hq
    by_cases hk : k = id
    · subst hk
      obtain rfl := Option.some.inj (hcommits.bound.symm.trans hb')
      exact .inr ⟨_, hself, rfl, hq.commit sequence hash⟩
    · exact .inr ⟨b', (hother hk).trans hb', rfl, hq⟩
  · intro k b' q hb' _ hdurable
    by_cases hk : k = id
    · subst hk
      obtain rfl := Option.some.inj (hself.symm.trans hb')
      exact hdurable b hcommits.bound rfl
    · exact hdurable b' (hother hk ▸ hb') rfl

/-- The watermark of a bound boot is written into the table. The boot may lose its authority. -/
theorem MarksKept.of_entry {b' : Binding} (hb : s.binding id = some b)
    (hb' : s'.binding = Function.update s.binding id (some b')) (hboot : b'.boot = b.boot)
    (hsame : ∀ q, b'.Reaches q ↔ b.Reaches q) (hdurable : b'.durableWatermark = b.durableWatermark)
    (hw : s'.watermarks = s.watermarks.insert (bootKey id b.boot) w)
    (hentry : ∀ q, w.Reaches q ↔ b.Reaches q) (h : s.Ahead) : MarksKept s s' := by
  have hself : s'.binding id = some b' := by rw [hb', update_self]
  have hother {k : PublisherId} (hk : k ≠ id) : s'.binding k = s.binding k := by
    rw [hb', update_of_ne hk]
  refine ⟨?_, ?_, ?_, ?_⟩
  · intro k c q hc hq
    rw [tabled_insert hw] at hq
    by_cases hk : k = id
    · subst hk
      obtain rfl := Option.some.inj (hself.symm.trans hc)
      rw [hboot, if_pos rfl] at hq
      exact (hsame q).2 ((hentry q).1 hq)
    · rw [if_neg fun heq => hk (bootKey_injective heq).1.symm] at hq
      exact h k c q (hother hk ▸ hc) hq
  · intro key q hq
    rw [tabled_insert hw]
    split
    next hkey => exact (hentry q).2 (h id b q hb (hkey ▸ hq))
    · exact hq
  · intro k c q hc hq
    by_cases hk : k = id
    · subst hk
      obtain rfl := Option.some.inj (hb.symm.trans hc)
      exact .inr ⟨b', hself, hboot, (hsame q).2 hq⟩
    · exact .inr ⟨c, (hother hk).trans hc, rfl, hq⟩
  · intro k c q hc _ hdur
    by_cases hk : k = id
    · subst hk
      obtain rfl := Option.some.inj (hself.symm.trans hc)
      rw [hdurable]
      exact hdur b hb hboot.symm
    · exact hdur c (hother hk ▸ hc) rfl

/-- A boot that is written off for another has its watermark in the table from then on. -/
theorem admitBoot_marksKept (hs : s.Sound) (h : s.Ahead) (hadmits : admitBoot s r now = .ok s') :
    MarksKept s s' ∧ ∀ b q, s.binding r.id = some b → b.boot ≠ r.boot → b.Reaches q →
      s'.Tabled (bootKey r.id b.boot) q := by
  have hkeep (heq : s' = s) : MarksKept s s' := by
    subst heq
    exact .of_quiet rfl rfl h
  rcases admitBoot_cases hadmits with ⟨heq, hnone, _⟩ | ⟨p, heq, hp, hboot, _⟩ | ⟨p, heq, hp, _⟩
  · refine ⟨hkeep heq, fun b q hb => ?_⟩
    simp [State.binding, hnone] at hb
  · refine ⟨hkeep heq, fun b q hb hne => ?_⟩
    obtain rfl : p.binding = b := by simpa [State.binding, hp] using hb
    exact absurd hboot hne
  · have hb : s.binding r.id = some p.binding := by simp [State.binding, hp]
    have hid : p.view.id = r.id := (hs.bindings r.id p.binding hb).id_eq
    have hw : s'.watermarks = s.watermarks.insert (bootKey r.id p.binding.boot)
        (p.watermark p.view.id p.view.boot .supersededByNewBoot) := by
      rw [heq, ← hid]
      rfl
    refine ⟨.of_entry hb ?_ rfl (fun _ => Iff.rfl) rfl hw (fun _ => Iff.rfl) h, ?_⟩
    · rw [admitBoot_binding hadmits]
      exact (update_eq_self_iff.2 hb.symm).symm
    · intro b q hb' _ hq
      obtain rfl := Option.some.inj (hb.symm.trans hb')
      rw [tabled_insert hw, if_pos rfl]
      exact hq

/-- A fence that finds room in the table. -/
theorem fenceBound_marksKept {p : PublisherState} (hs : s.Sound) (h : s.Ahead)
    (hp : s.publishers[id]? = some p)
    (hroom : bootKey id p.view.boot ∈ s.watermarks ∨ s.watermarks.size < maxPublisherWatermarks)
    (reason : FenceReason) (detail : Text) (now : Nanos) :
    MarksKept s (fenceBound s id p reason detail now) := by
  have hb : s.binding id = some p.binding := by simp [State.binding, hp]
  refine .of_entry hb (fenceBound_binding s id p reason detail now) rfl (fun _ => Iff.rfl) rfl ?_
    (w := p.watermark id p.view.boot reason) (fun _ => Iff.rfl) h
  rw [fenceBound_watermarks]
  exact trimWatermarks_of_fits _ hroom hs.watermarks.size_le

/-- Binding a boot leaves the marks of the table as they are. -/
theorem bindBoot_tabled (s : State) (r : PublisherRegistration) (now : Nanos) (key : Text)
    (q : EventSequence) : (bindBoot s r now).Tabled key q ↔ s.Tabled key q := by
  cases hkept : keptWatermark s r with
  | none =>
    have hw : (bindBoot s r now).watermarks = s.watermarks := by rw [bindBoot, hkept]
    rw [State.Tabled, hw, State.Tabled]
  | some kept =>
    obtain ⟨hentry, _⟩ := Option.filter_eq_some_iff.1 hkept
    have hw : (bindBoot s r now).watermarks = s.watermarks.insert (bootKey r.id r.boot)
        { kept with fenced := false, fenceReason := .notFenced } := by rw [bindBoot, hkept]
    rw [tabled_insert hw]
    split
    next hkey =>
      subst hkey
      constructor
      · exact fun hq => ⟨kept, hentry, hq⟩
      · rintro ⟨w, hw, hq⟩
        obtain rfl := Option.some.inj (hentry.symm.trans hw)
        exact hq
    · exact Iff.rfl

/-- A registration binds its boot, whose watermark it finds in the table or where it was bound. -/
theorem bindBoot_marksKept {s₁ : State} (hs : s₁.Sound) (hboot : r.boot ≠ 0)
    (hbinding : s₁.binding = s.binding) (h : MarksKept s s₁)
    (hother : ∀ b q, s.binding r.id = some b → b.boot ≠ r.boot → b.Reaches q → s₁.Tabled (bootKey r.id b.boot) q) :
    MarksKept s (bindBoot s₁ r now) := by
  have hself : (bindBoot s₁ r now).binding r.id =
      some (Binding.register (s.binding r.id) r.id r.boot (keptWatermark s₁ r)) := by
    rw [bindBoot_binding, update_self, hbinding]
  have hrest {k : PublisherId} (hk : k ≠ r.id) : (bindBoot s₁ r now).binding k = s.binding k := by
    rw [bindBoot_binding, update_of_ne hk, hbinding]
  -- what the table has of the boot is what it is bound with
  have hkept {q : EventSequence} (hq : s₁.Tabled (bootKey r.id r.boot) q) :
      ∃ w, keptWatermark s₁ r = some w ∧ w.Reaches q := by
    obtain ⟨w, hw, hq⟩ := hq
    have hkey := (bootKey_injective (hs.watermarks.key_eq hw)).2
    exact ⟨w, Option.filter_eq_some_iff.2 ⟨hw, by simpa using hkey⟩, hq⟩
  have hmarks := Binding.register_marks (s.binding r.id) r.id hboot (keptWatermark s₁ r)
  have hnew := (Binding.register_authority (s.binding r.id) r.id r.boot (keptWatermark s₁ r)).2.1
  generalize Binding.register (s.binding r.id) r.id r.boot (keptWatermark s₁ r) = new at *
  refine ⟨?_, fun key q hq => (bindBoot_tabled s₁ r now key q).2 (h.tabled key q hq), ?_, ?_⟩
  -- bound boots are ahead of the table
  · intro k b q hb hq
    rw [bindBoot_tabled] at hq
    by_cases hk : k = r.id
    · subst hk
      obtain rfl := Option.some.inj (hself.symm.trans hb)
      rw [hnew] at hq
      rcases hmarks with ⟨b, hold, hsame, -, hhas, hhigh, -⟩ | ⟨-, hnew⟩
      · rw [← hsame] at hq
        exact ⟨hhas, hhigh ▸ (h.ahead r.id b q (hbinding ▸ hold) hq).2⟩
      · obtain ⟨w, hw, hq⟩ := hkept hq
        obtain ⟨hhas, hhigh, -⟩ := hnew w hw hq.1
        exact ⟨hhas, hhigh ▸ hq.2⟩
    · exact h.ahead k b q (by rw [hbinding, ← hrest hk, hb]) hq
  -- marks of bound boots are kept: here or, for the boot replaced, in the table
  · intro k b q hb hq
    by_cases hk : k = r.id
    · subst hk
      by_cases hne : b.boot = r.boot
      · rcases hmarks with ⟨b', hold, -, -, hhas, hhigh, -⟩ | ⟨hnone, -⟩
        · obtain rfl := Option.some.inj (hold.symm.trans hb)
          exact .inr ⟨new, hself, hnew.trans hne.symm, hhas, hhigh ▸ hq.2⟩
        · exact absurd hq.1 (by simp [hnone b hb hne])
      · exact .inl ((bindBoot_tabled s₁ r now _ q).2 (hother b q hb hne hq))
    · exact .inr ⟨b, (hrest hk).trans hb, rfl, hq⟩
  -- a mark from the table is durable
  · intro k b q hb hq hdurable
    by_cases hk : k = r.id
    · subst hk
      obtain rfl := Option.some.inj (hself.symm.trans hb)
      rw [hnew] at hq
      rcases hmarks with ⟨b, hold, hsame, -, -, -, hdur⟩ | ⟨-, htaken⟩
      · rw [hdur]
        exact hdurable b hold (hsame.trans hnew.symm)
      · obtain ⟨w, hw, hq⟩ := hkept (h.tabled _ q hq)
        exact (htaken w hw hq.1).2.2
    · exact hdurable b (hrest hk ▸ hb) rfl

/-- The table has room for what a fence writes into it. -/
def HasEntry (s : State) : Action → Prop
  | .fencePublisherBoot id boot _ _ _ =>
    bootKey id boot ∈ s.watermarks ∨ s.watermarks.size < maxPublisherWatermarks
  | _ => True

/-- What a step does to the marks. -/
theorem act_marksKept (hs : s.Sound) (h : s.Ahead) (hroom : HasEntry s a)
    (hload : ∀ path file options clock, a ≠ .load path file options clock) :
    MarksKept s (act s a).2 := by
  cases act_authority s a with
  | quiet hbinding hwatermarks => exact .of_quiet hbinding hwatermarks h
  | commit id boot sequence hash b hoffers hcommits hwatermarks =>
    exact hcommits.marksKept hwatermarks h
  | refuse r clock ha hadmits => exact (admitBoot_marksKept hs h hadmits).1
  | bind r clock s₁ ha hchecks hadmits hfenced hstate =>
    rw [hstate]
    obtain ⟨hmarks, hother⟩ := admitBoot_marksKept hs h hadmits
    obtain ⟨_, _, hchecks⟩ := bind_eq_ok.1 hchecks
    obtain ⟨_, hboot, _⟩ := bind_eq_ok.1 hchecks
    exact bindBoot_marksKept (admitBoot_sound hs hadmits) (failIf_eq_ok.1 hboot)
      (admitBoot_binding hadmits) hmarks hother
  | fence id boot reason detail now p ha hbound hboot hstate =>
    rw [hstate]
    subst ha hboot
    exact fenceBound_marksKept hs h hbound hroom reason detail now
  | load path data options clock staged ha => exact absurd ha (hload _ _ _ _)

end

/-! ## Files -/

/-- No bound boot is ahead of its entry in the table. -/
def State.TableCurrent (s : State) : Prop :=
  ∀ id b w, s.binding id = some b → s.watermarks[bootKey id b.boot]? = some w →
    b.hasWatermark = true → w.hasWatermark = true ∧ b.highWatermark ≤ w.highWatermark

/-- The number is below the watermark a save of the state stores for the boot. -/
def State.Stored (s : State) (id : PublisherId) (boot : PublisherBootId) (q : EventSequence) :
    Prop :=
  ∃ w, (storedWatermarks s)[bootKey id boot]? = some w ∧ w.Reaches q

/-- What a save stores, where no bound boot is ahead of its entry. -/
theorem stored_of_noted (hs : s.Sound) (hcurrent : s.TableCurrent) (h : s.Noted id boot q) :
    s.Stored id boot q := by
  rw [State.Stored]
  by_cases hkey : bootKey id boot ∈ s.watermarks
  · rw [storedWatermarks, getElem?_foldl_addLive_of_mem hkey]
    rcases h with h | ⟨b, hb, rfl, hq⟩
    · exact h
    · rw [mem_iff_isSome_getElem?, Option.isSome_iff_exists] at hkey
      obtain ⟨w, hw⟩ := hkey
      obtain ⟨hhas, hhigh⟩ := hcurrent id b w hb hw hq.1
      exact ⟨w, hw, hhas, UInt64.le_trans hq.2 hhigh⟩
  · rcases h with ⟨w, hw, _⟩ | ⟨b, hb, rfl, hq⟩
    · rw [mem_iff_isSome_getElem?, hw] at hkey
      exact absurd rfl hkey
    have hid := (hs.bindings id b hb).id_eq
    have hstored : bootKey id b.boot ∈ storedWatermarks s :=
      mem_storedWatermarks.2 (.inr ⟨id, b, hb, by rw [hid]⟩)
    rw [mem_iff_isSome_getElem?, Option.isSome_iff_exists] at hstored
    obtain ⟨w, hw⟩ := hstored
    refine ⟨w, hw, ?_⟩
    rcases getElem?_foldl_addLive hw with htable | ⟨p, hp, _, heq, rfl⟩
    · rw [mem_iff_isSome_getElem?, htable] at hkey
      exact absurd rfl hkey
    -- the publisher that is stored under the key is the one that is bound
    · obtain ⟨k, hk⟩ := mem_publishers_iff.1 hp
      have hbound := binding_eq_some.2 ⟨p, hk, rfl⟩
      have hpk : p.view.id = k := (hs.bindings k p.binding hbound).id_eq
      obtain ⟨hpid, _⟩ := bootKey_injective heq
      obtain rfl : id = k := hpid.trans hpk
      obtain rfl := Option.some.inj (hbound.symm.trans hb)
      exact hq

theorem loadState_cases (s : State) (path : Text) (file : Option (List UInt8))
    (options : PersistenceOptions) (clock : Nat → Nanos) :
    (∃ e, loadState s path file options clock = (.error e, s)) ∨
    ∃ data staged, file = some data ∧ parseState data options = .ok staged ∧
      loadState s path file options clock =
        (.ok (loadReport staged data.length), recover s staged clock) := by
  unfold loadState
  split
  next e _ => exact .inl ⟨e, rfl⟩
  next data hread =>
    split
    next e _ => exact .inl ⟨e, rfl⟩
    next staged hparse => exact .inr ⟨data, staged, readFileBounded_eq_ok hread, hparse, rfl⟩

theorem recover_ahead (s : State) (staged : StagedState) (clock : Nat → Nanos) :
    (recover s staged clock).Ahead := by
  intro id b q hb
  rw [State.binding, recover_publishers] at hb
  simp at hb

theorem State.Ahead.of_sub {s' : State} (h : s.Ahead) (hbinding : s'.binding = s.binding)
    (hsub : ∀ (key : Text) (w : PublisherWatermark), s'.watermarks[key]? = some w → s.watermarks[key]? = some w) :
    s'.Ahead := by
  rintro id b q hb ⟨w, hw, hq⟩
  exact h id b q (hbinding ▸ hb) ⟨w, hsub _ w hw, hq⟩

/-- No step leaves a bound boot behind its entry in the table. -/
theorem act_ahead (hs : s.Sound) (h : s.Ahead) (a : Action) : (act s a).2.Ahead := by
  cases act_authority s a with
  | quiet hbinding hwatermarks => exact (MarksKept.of_quiet hbinding hwatermarks h).ahead
  | commit id boot sequence hash b hoffers hcommits hwatermarks =>
    exact (hcommits.marksKept hwatermarks h).ahead
  | refuse r clock ha hadmits => exact (admitBoot_marksKept hs h hadmits).1.ahead
  | bind r clock s₁ ha =>
    exact (act_marksKept hs h (by rw [ha]; trivial) (by rw [ha]; exact nofun)).ahead
  | fence id boot reason detail now p ha hbound hboot hstate =>
    -- trimming the table only drops entries
    have hb : s.binding id = some p.binding := by simp [State.binding, hbound]
    have hbinding := fenceBound_binding s id p reason detail now
    have hw := fenceBound_watermarks s id p reason detail now
    rw [hstate]
    generalize fenceBound s id p reason detail now = s' at hbinding hw ⊢
    have huntrimmed : MarksKept s { s' with
        watermarks := s.watermarks.insert (bootKey id p.view.boot)
          (p.watermark id p.view.boot reason) } :=
      .of_entry hb hbinding rfl (fun _ => Iff.rfl) rfl rfl (fun _ => Iff.rfl) h
    refine huntrimmed.ahead.of_sub rfl fun key w hentry => ?_
    rw [hw] at hentry
    exact getElem?_trimWatermarks hentry
  | load path data options clock staged ha hparse hstate =>
    rw [hstate]
    exact recover_ahead s staged clock

theorem final_ahead (hs : s.Sound) (h : s.Ahead) (l : List Action) : (Run.final act s l).Ahead :=
  (Run.final_stable (I := fun s : State => s.Sound ∧ s.Ahead)
    (fun _ a h => ⟨act_sound h.1 a, act_ahead h.1 h.2 a⟩) ⟨hs, h⟩ l).2

/-- What was stored is in the table of whoever loads the file. -/
theorem recover_tabled {t : State} {saving options : PersistenceOptions} {staged : StagedState}
    (hs : s.Sound) (hparse : parseState (saveState s saving) options = .ok staged)
    (clock : Nat → Nanos) (h : s.Stored id boot q) :
    (recover t staged clock).Tabled (bootKey id boot) q := by
  have hfiled := storedWatermarks_filed hs (Nat.le_refl (storedWatermarks s).size)
  have hstaged : staged.watermarks = storedWatermarks s :=
    (parsed_of_parseState hparse).watermarks fun k w hw =>
      ⟨hfiled.key_eq hw, (hfiled.valid hw).publisher.length_le⟩
  have hsize : staged.watermarks.size ≤ maxPublisherWatermarks :=
    (parseState_storable hparse).1.watermarks.size_le.trans (staged.room_le ..)
  obtain ⟨w, hw, hq⟩ := h
  refine ⟨w.recovered, ?_, hq⟩
  -- a file has no more entries than the table takes
  rw [recover_watermarks, trimWatermarks, size_map, Nat.sub_eq_zero_of_le hsize, hstaged]
  simp [hw]

/-! ## Lineages -/

/-- A number of a publisher boot. -/
abbrev Numbered := PublisherId × PublisherBootId × EventSequence

/-- A saved file, and what had been accepted on the way to it. -/
structure SavedFile where
  file : List UInt8
  taken : List Numbered

/-- An observatory and the files saved so far. What has been accepted is not part of the program:
`taken` is what was accepted on the way to the present state, `restored` what of it was
accepted before the save that was loaded last. -/
structure Lineage where
  state : State
  taken : List Numbered := []
  restored : List Numbered := []
  saves : List SavedFile := []

namespace Lineage

/-- A first observatory, before any save. -/
def first (options : ObservatoryOptions) (now : Nanos) : Lineage :=
  { state := State.initial options now }

/-- What happens to the observatories of a lineage. -/
inductive Move
  /-- One step of the observatory. A file it loads comes from elsewhere. -/
  | operate (a : Action)
  /-- The observatory ends or crashes, and another one begins. -/
  | restart (options : ObservatoryOptions) (now : Nanos)
  /-- The save of the given number is loaded. -/
  | load (n : Nat) (path : Text) (options : PersistenceOptions) (clock : Nat → Nanos)

/-- The observatory has been replaced by what a file holds. -/
def reload (L : Lineage) (s : State) (taken : List Numbered) : Lineage :=
  { L with state := s, taken, restored := taken }

/-- The observatory in service takes an action. -/
def operate (L : Lineage) (a : Action) : Lineage :=
  let (answer, s) := act L.state a
  match answer with
  | .saved file => { L with saves := L.saves ++ [⟨file, L.taken⟩] }
  | .loaded (.ok _) => L.reload s []
  | _ => { L with state := s, taken := (accepted a answer).toList ++ L.taken }

/-- One move. -/
def move (L : Lineage) : Move → Answer × Lineage
  | .operate a => ((act L.state a).1, L.operate a)
  | .restart options now => (.done, L.reload (State.initial options now) [])
  | .load n path options clock =>
    match loadState L.state path (L.saves[n]?.map SavedFile.file) options clock with
    | (.ok report, s) =>
      (.loaded (.ok report), L.reload s ((L.saves[n]?.map SavedFile.taken).getD []))
    | (.error e, _) => (.loaded (.error e), L)

/-- A move accepts a number. -/
def Accepts (L : Lineage) (m : Move) (x : Numbered) : Prop :=
  ∃ a, m = .operate a ∧ accepted a (act L.state a).1 = some x

/-- What a move must find so that nothing is forgotten: a save no bound boot ahead of its entry
in the table, a fence room for what it writes. -/
def Careful (L : Lineage) : Move → Prop
  | .operate (.save _) => L.state.TableCurrent
  | .operate a => HasEntry L.state a
  | _ => True

/-- All that was accepted is noted, all that was accepted before the save that was loaded is in
the table, with durable watermarks for the boots bound again, and the saves have stored what
had been accepted by then. -/
structure Remembers (L : Lineage) : Prop where
  sound : L.state.Sound
  ahead : L.state.Ahead
  taken : ∀ x ∈ L.taken, L.state.Noted x.1 x.2.1 x.2.2
  restored : ∀ x ∈ L.restored, L.state.Tabled (bootKey x.1 x.2.1) x.2.2
  durable : ∀ x ∈ L.restored, ∀ b, L.state.binding x.1 = some b → b.boot = x.2.1 →
    b.durableWatermark = true
  saves : ∀ e ∈ L.saves, ∃ (s : State) (saving : PersistenceOptions),
    e.file = saveState s saving ∧ s.Sound ∧ ∀ x ∈ e.taken, s.Stored x.1 x.2.1 x.2.2

variable {L : Lineage}

/-- A fresh state, of which nothing is to be remembered. -/
theorem Remembers.reload_nil (h : L.Remembers) (hs : s.Sound) (hahead : s.Ahead) :
    (L.reload s []).Remembers :=
  ⟨hs, hahead, nofun, nofun, nofun, h.saves⟩

theorem ahead_initial (options : ObservatoryOptions) (now : Nanos) :
    (State.initial options now).Ahead := by
  intro id b q hb
  simp [State.binding, State.initial] at hb

theorem remembers_first (options : ObservatoryOptions) (now : Nanos) :
    (first options now).Remembers :=
  ⟨sound_initial options now, ahead_initial options now, nofun, nofun, nofun, nofun⟩

/-- A save that was made of what is remembered brings it back. -/
theorem Remembers.load (h : L.Remembers) (n : Nat) (path : Text) (options : PersistenceOptions)
    (clock : Nat → Nanos) : (L.move (.load n path options clock)).2.Remembers := by
  rw [move]
  rcases loadState_cases L.state path (L.saves[n]?.map SavedFile.file) options clock with
    ⟨e, heq⟩ | ⟨data, staged, hdata, hparse, heq⟩
  · rw [heq]
    exact h
  rw [heq]
  obtain ⟨save, hsave, rfl⟩ := Option.map_eq_some_iff.1 hdata
  obtain ⟨s, saving, hfile, hs, hstored⟩ := h.saves save (List.mem_of_getElem? hsave)
  rw [hfile] at hparse
  have htabled (x : Numbered) (hx : x ∈ save.taken) :
      (recover L.state staged clock).Tabled (bootKey x.1 x.2.1) x.2.2 :=
    recover_tabled hs hparse clock (hstored x hx)
  rw [hsave]
  refine ⟨recover_sound clock (parseState_storable hparse).1, recover_ahead _ _ _,
    fun x hx => .inl (htabled x hx), htabled, fun x hx b hb => ?_, h.saves⟩
  -- nobody is bound after a load
  change (recover L.state staged clock).binding x.1 = some b at hb
  rw [State.binding, recover_publishers] at hb
  simp at hb

/-- A step that neither saves nor loads. -/
theorem operate_eq (L : Lineage) (hsave : ∀ options, a ≠ .save options)
    (hload : ∀ path file options clock, a ≠ .load path file options clock) :
    L.operate a = { L with
      state := (act L.state a).2
      taken := (accepted a (act L.state a).1).toList ++ L.taken } := by
  cases a with
  | save options => exact absurd rfl (hsave options)
  | load path file options clock => exact absurd rfl (hload path file options clock)
  | _ => rfl

theorem Careful.hasEntry (h : L.Careful (.operate a)) : HasEntry L.state a := by
  cases a with
  | save options => trivial
  | _ => exact h

/-- What one step of the observatory leaves noted. -/
theorem Remembers.advance (h : L.Remembers) (hroom : HasEntry L.state a)
    (hload : ∀ path file options clock, a ≠ .load path file options clock) :
    { L with
      state := (act L.state a).2
      taken := (accepted a (act L.state a).1).toList ++ L.taken : Lineage }.Remembers := by
  have hstep := act_marksKept h.sound h.ahead hroom hload
  refine ⟨act_sound h.sound a, hstep.ahead, fun x hx => ?_,
    fun x hx => hstep.tabled _ _ (h.restored x hx), fun x hx b hb hboot => ?_, h.saves⟩
  · rcases List.mem_append.1 hx with hx | hx
    · obtain ⟨hash, b, hcommits⟩ := accepted_commits (Option.mem_toList.1 hx)
      refine .inr ⟨b.commit x.2.2 hash, ?_, hcommits.boot_eq, b.reaches_commit _ _⟩
      rw [hcommits.binding_eq, update_self]
    · rcases h.taken x hx with htabled | ⟨b, hb, hboot, hq⟩
      · exact .inl (hstep.tabled _ _ htabled)
      · exact hboot ▸ hstep.noted x.1 b x.2.2 hb hq
  · refine hstep.durable x.1 b x.2.2 hb (hboot ▸ h.restored x hx) fun b' hb' hsame => ?_
    exact h.durable x hx b' hb' (hsame.trans hboot)

theorem Remembers.operate (h : L.Remembers) (hcareful : L.Careful (.operate a)) :
    (L.operate a).Remembers := by
  by_cases hsave : ∃ options, a = .save options
  · obtain ⟨options, rfl⟩ := hsave
    refine ⟨h.sound, h.ahead, h.taken, h.restored, h.durable, fun e he => ?_⟩
    rcases List.mem_append.1 he with he | he
    · exact h.saves e he
    · obtain rfl := List.mem_singleton.1 he
      exact ⟨L.state, options, rfl, h.sound,
        fun x hx => stored_of_noted h.sound hcareful (h.taken x hx)⟩
  by_cases hload : ∃ path file options clock, a = .load path file options clock
  · obtain ⟨path, file, options, clock, rfl⟩ := hload
    rw [Lineage.operate, act]
    rcases loadState_cases L.state path file options clock with
      ⟨e, heq⟩ | ⟨data, staged, _, hparse, heq⟩
    · rw [heq]
      exact h
    · rw [heq]
      exact h.reload_nil (recover_sound clock (parseState_storable hparse).1)
        (recover_ahead _ _ _)
  · have hload' (path : Text) (file : Option (List UInt8)) (options : PersistenceOptions)
        (clock : Nat → Nanos) : a ≠ .load path file options clock :=
      fun ha => hload ⟨path, file, options, clock, ha⟩
    rw [operate_eq L (fun options ha => hsave ⟨options, ha⟩) hload']
    exact h.advance hcareful.hasEntry hload'

theorem Remembers.move (h : L.Remembers) {m : Move} (hcareful : L.Careful m) :
    (L.move m).2.Remembers := by
  cases m with
  | operate a => exact h.operate hcareful
  | restart options now =>
    exact h.reload_nil (sound_initial options now) (ahead_initial options now)
  | load n path options clock => exact h.load n path options clock

/-- Whoever remembers does not accept again. -/
theorem Remembers.refuses (h : L.Remembers) (m : Move) : ∀ x ∈ L.restored, ¬L.Accepts m x := by
  rintro x hx ⟨a, rfl, haccepted⟩
  obtain ⟨hash, b, hcommits⟩ := accepted_commits haccepted
  have hreaches : b.Reaches x.2.2 :=
    h.ahead x.1 b x.2.2 hcommits.bound (hcommits.boot_eq ▸ h.restored x hx)
  exact hreaches.not_fresh (h.durable x hx b hcommits.bound hcommits.boot_eq) hcommits.fresh

/-- In a run whose saves find no bound boot ahead of its entry in the table, and whose fences find
    room in the table, no number that was accepted before a save is accepted after that save, or a
    later one made from it, is loaded. -/
theorem never_accepted_again (options : ObservatoryOptions) (now : Nanos) (l : List Move)
    (h : Run.Along move Careful (first options now) l) :
    Run.Along move (fun L m => ∀ x ∈ L.restored, ¬L.Accepts m x) (first options now) l :=
  Run.along_of_invariant (I := Remembers) (fun _ m hL hm => ⟨hL.move hm, hL.refuses m⟩)
    (remembers_first options now) h

/-! ## Two restarts of one boot -/

/-- Boot 1 of `p` registers. -/
def greets : Action := .registerPublisher sampleRegistration fun _ => 0

/-- Boot 1 of `p` sends a number under a coordinator epoch. -/
def tells (epoch : CoordinatorEpoch) (sequence : EventSequence) : Action :=
  .ingest { sampleObservation sequence with coordinatorEpoch := epoch } 0

/-- The state after both. -/
def heard (s : State) (epoch : CoordinatorEpoch) (sequence : EventSequence) : State :=
  (act (act s greets).2 (tells epoch sequence)).2

/-- A fresh observatory that has loaded a save of the state. -/
def reloaded (s : State) : State := recover (State.initial {} 0) (stagedOf s) fun _ => 0

/-- The observatory saves and crashes, and the next one loads the save. -/
def restarts (n : Nat) : List Move :=
  [.operate (.save {}), .restart {} 0, .load n [] {} fun _ => 0]

theorem savable_heard (h : s.Savable) (epoch : CoordinatorEpoch) (sequence : EventSequence)
    (hroom : (storedWatermarks s).size < maxPublisherWatermarks) :
    (heard s epoch sequence).Savable := by
  have hregister : SaveSafe s greets := ⟨trivial, .inr hroom⟩
  exact act_savable (act_savable h hregister) ⟨trivial, trivial⟩

theorem act_load_saveState (h : s.Savable) :
    act (State.initial {} 0) (.load [] (some (saveState s)) {} fun _ => 0) =
      (.loaded (.ok (loadReport (stagedOf s) (saveState s).length)), reloaded s) := by
  rw [act, h.loadState_saveState]
  rfl

theorem savable_reloaded (h : s.Savable)
    (hcapabilities : (mergedCapabilities (State.initial {} 0) (stagedOf s)).size ≤ maxStoredCapabilities) :
    (reloaded s).Savable := by
  have hparse : parseState (saveState s) = .ok (stagedOf s) := by
    rw [parseState_saveState h.encodable, checkReferences_stagedOf.2 h.linked]
    rfl
  have hsafe : SaveSafe (State.initial {} 0) (.load [] (some (saveState s)) {} fun _ => 0) := by
    refine ⟨fun data hdata staged hstaged => ?_, trivial⟩
    obtain rfl := Option.some.inj hdata
    obtain rfl := Except.ok.inj (hparse.symm.trans hstaged)
    exact hcapabilities
  have hsavable := act_savable (savable_initial 0) hsafe
  rwa [act_load_saveState h] at hsavable

/-- The boot registers and sends a number that is accepted. -/
theorem final_heard (L : Lineage) (epoch : CoordinatorEpoch) (sequence : EventSequence)
    (h : accepted (tells epoch sequence) (act (act L.state greets).2 (tells epoch sequence)).1 =
      some (ascii "p", 1, sequence)) :
    Run.final move L [.operate greets, .operate (tells epoch sequence)] =
      { L with
        state := heard L.state epoch sequence
        taken := (ascii "p", 1, sequence) :: L.taken } := by
  simp only [Run.final, move]
  rw [operate_eq _ (by simp [tells]) (by simp [tells]),
    operate_eq _ (by simp [greets]) (by simp [greets])]
  dsimp only
  rw [h]
  rfl

theorem final_restarts (L : Lineage) (h : L.state.Savable) :
    Run.final move L (restarts L.saves.length) =
      { state := reloaded L.state
        taken := L.taken
        restored := L.taken
        saves := L.saves ++ [⟨saveState L.state, L.taken⟩] } := by
  have hsave : (move L (.operate (.save {}))).2 =
      { L with saves := L.saves ++ [⟨saveState L.state, L.taken⟩] } := rfl
  rw [restarts, Run.final, hsave, Run.final, move, Run.final, move, Run.final]
  dsimp only [reload]
  rw [List.getElem?_concat_length, Option.map_some, h.loadState_saveState]
  rfl

/-- The boot sends 1, is restarted and registers. -/
def restartedRun : List Move :=
  [.operate greets, .operate (tells 1 1)] ++ restarts 0 ++ [.operate greets]

/-- The boot sends 1, is restarted, sends 2, is restarted again and registers. -/
def twiceRestartedRun : List Move :=
  [.operate greets, .operate (tells 1 1)] ++ restarts 0 ++
    ([.operate greets, .operate (tells 2 2)] ++ restarts 1) ++ [.operate greets]

theorem savable_restarted : (reloaded (heard (State.initial {} 0) 1 1)).Savable :=
  savable_reloaded (savable_heard (savable_initial 0) 1 1 (by decide +kernel)) (by decide +kernel)

/-- The lineage of a boot that sends 1 and is restarted. -/
def restarted : Lineage where
  state := reloaded (heard (State.initial {} 0) 1 1)
  taken := [(ascii "p", 1, 1)]
  restored := [(ascii "p", 1, 1)]
  saves := [⟨saveState (heard (State.initial {} 0) 1 1), [(ascii "p", 1, 1)]⟩]

/-- The lineage of a boot that is restarted after 1 and after 2. -/
def twiceRestarted : Lineage where
  state := reloaded (heard (reloaded (heard (State.initial {} 0) 1 1)) 2 2)
  taken := [(ascii "p", 1, 2), (ascii "p", 1, 1)]
  restored := [(ascii "p", 1, 2), (ascii "p", 1, 1)]
  saves := restarted.saves ++ [⟨saveState (heard (reloaded (heard (State.initial {} 0) 1 1)) 2 2),
    [(ascii "p", 1, 2), (ascii "p", 1, 1)]⟩]

theorem final_restarted : Run.final move (first {} 0)
    ([.operate greets, .operate (tells 1 1)] ++ restarts 0) = restarted := by
  rw [Run.final_append, final_heard (first {} 0) 1 1 (by decide +kernel)]
  exact final_restarts _ (savable_heard (savable_initial 0) 1 1 (by decide +kernel))

theorem final_twiceRestarted : Run.final move restarted
    ([.operate greets, .operate (tells 2 2)] ++ restarts 1) = twiceRestarted := by
  rw [Run.final_append, final_heard restarted 2 2 (by decide +kernel)]
  exact final_restarts _ (savable_heard savable_restarted 2 2 (by decide +kernel))

theorem final_restartedRun :
    Run.final move (first {} 0) restartedRun = Run.final move restarted [.operate greets] := by
  rw [restartedRun, Run.final_append, final_restarted]

theorem final_twiceRestartedRun : Run.final move (first {} 0) twiceRestartedRun =
    Run.final move twiceRestarted [.operate greets] := by
  rw [twiceRestartedRun, Run.final_append, Run.final_append, final_restarted, final_twiceRestarted]

/-- Where the table is empty, no boot is ahead of its entry. -/
theorem tableCurrent_of_size (h : s.watermarks.size = 0) : s.TableCurrent := by
  intro id b w _ hw
  rw [eq_empty_iff_size_eq_zero.2 h] at hw
  simp at hw

theorem careful_restartedRun :
    Run.Along move Careful (first {} 0) (restartedRun ++ [.operate (tells 2 1)]) :=
  ⟨trivial, trivial, tableCurrent_of_size (by decide +kernel), trivial, trivial, trivial, trivial,
    trivial⟩

/-- The boot sends 1, and again after a restart: the second time it is refused. -/
theorem never_accepted_again_restarted :
    (ascii "p", 1, 1) ∈ (Run.final move (first {} 0) restartedRun).restored ∧
      ¬(Run.final move (first {} 0) restartedRun).Accepts (.operate (tells 2 1))
        (ascii "p", 1, 1) := by
  have hrestored : (ascii "p", 1, 1) ∈ (Run.final move (first {} 0) restartedRun).restored := by
    rw [final_restartedRun]
    exact List.mem_cons_self
  exact ⟨hrestored, Run.along_last (never_accepted_again {} 0 _ careful_restartedRun) _ hrestored⟩

/-- The boot sends 1, is restarted and sends 2, and is restarted again: then 2 is accepted once
    more, since the second save has stored the entry that the first one left. -/
theorem secondRestart_accepts :
    (ascii "p", 1, 2) ∈ (Run.final move (first {} 0) twiceRestartedRun).restored ∧
      (Run.final move (first {} 0) twiceRestartedRun).Accepts (.operate (tells 3 2))
        (ascii "p", 1, 2) := by
  rw [final_twiceRestartedRun]
  exact ⟨List.mem_cons_self, _, rfl, by decide +kernel⟩

end Lineage

end CoherenceObservatory
