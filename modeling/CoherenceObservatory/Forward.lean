import CoherenceObservatory.Evidence
import CoherenceObservatory.Lib.Table

/-!
# Structure moves forward

Devices, domains and regions are registered again and again, each time with the whole
record replaced. What a caller may rely on across that is their generation, that a
retirement is final for its generation, and that the domains named by a record exist. None
of it survives a load, which replaces the structure by that of the file.
-/

namespace CoherenceObservatory

open Std

/-! ## Generations -/

/-- Of the records filed in `m` none is lost, and their generations do not fall. -/
def Advances {α : Type} (generationOf : α → UInt64) (m m' : ExtTreeMap Text α) : Prop :=
  Grows (fun r r' => generationOf r ≤ generationOf r') m m'

variable {key : Text} {r : RegionRecord} {s s' : State} {α : Type}

namespace Advances

variable {α : Type} {generationOf : α → UInt64} {m m' m'' : ExtTreeMap Text α}

theorem refl (m : ExtTreeMap Text α) : Advances generationOf m m :=
  Grows.refl (fun r => UInt64.le_refl (generationOf r)) m

theorem trans (h : Advances generationOf m m') (h' : Advances generationOf m' m'') :
    Advances generationOf m m'' := Grows.trans UInt64.le_trans h h'

/-- A record that passed the check of its slot may be filed. -/
theorem insert {capacity : Nat} {generation : UInt64} {what full : String} {r : α}
    (h : checkSlot m key capacity generationOf generation what full = .ok ())
    (hr : generationOf r = generation) : Advances generationOf m (m.insert key r) :=
  Grows.insert (fun r => UInt64.le_refl (generationOf r)) fun _ hold =>
    hr ▸ checkSlot_generation h hold

end Advances

/-- A region record that may take the place of `r`. -/
def RegionRecord.Precedes (r r' : RegionRecord) : Prop :=
  r.generation ≤ r'.generation ∧
    (r.retired = true → r'.generation = r.generation → r'.retired = true)

theorem RegionRecord.Precedes.refl (r : RegionRecord) : r.Precedes r :=
  ⟨UInt64.le_refl _, fun h _ => h⟩

theorem RegionRecord.Precedes.trans {r' r'' : RegionRecord} (h : r.Precedes r')
    (h' : r'.Precedes r'') : r.Precedes r'' := by
  refine ⟨UInt64.le_trans h.1 h'.1, fun hretired hsame => ?_⟩
  -- generations do not fall, so the one in between is the same
  have hbetween : r'.generation = r.generation := UInt64.le_antisymm (hsame ▸ h'.1) h.1
  exact h'.2 (h.2 hretired hbetween) (hsame.trans hbetween.symm)

/-- No record of `s` is lost in `s'`, no generation falls, and a region that was retired is
still retired at its generation. -/
structure Forward (s s' : State) : Prop where
  processors : Advances ProcessorRecord.generation s.processors s'.processors
  accelerators : Advances AcceleratorRecord.generation s.accelerators s'.accelerators
  memoryDomains : Advances MemoryDomainRecord.generation s.memoryDomains s'.memoryDomains
  coherenceDomains :
    Advances CoherenceDomainRecord.generation s.coherenceDomains s'.coherenceDomains
  regions : Grows RegionRecord.Precedes s.regions s'.regions

theorem Forward.refl (s : State) : Forward s s where
  processors := .refl _
  accelerators := .refl _
  memoryDomains := .refl _
  coherenceDomains := .refl _
  regions := .refl RegionRecord.Precedes.refl _

theorem Forward.trans {s'' : State} (h : Forward s s') (h' : Forward s' s'') : Forward s s'' where
  processors := h.processors.trans h'.processors
  accelerators := h.accelerators.trans h'.accelerators
  memoryDomains := h.memoryDomains.trans h'.memoryDomains
  coherenceDomains := h.coherenceDomains.trans h'.coherenceDomains
  regions := h.regions.trans RegionRecord.Precedes.trans h'.regions

/-! ## References -/

/-- A name that is set names a registered entry. -/
def Names {α : Type} (name : Text) (m : ExtTreeMap Text α) : Prop := name = [] ∨ name ∈ m

theorem Names.mono {follows : α → α → Prop} {name : Text} {m m' : ExtTreeMap Text α}
    (h : Names name m) (hgrows : Grows follows m m') : Names name m' := h.imp_right hgrows.mem

/-- Every domain named by a record is registered. -/
structure Referenced (s : State) : Prop where
  processors : ∀ (k : Text) (r : ProcessorRecord), s.processors[k]? = some r →
    Names r.localMemoryDomain s.memoryDomains
  accelerators : ∀ (k : Text) (r : AcceleratorRecord), s.accelerators[k]? = some r →
    Names r.localMemoryDomain s.memoryDomains
  memoryDomains : ∀ (k : Text) (r : MemoryDomainRecord), s.memoryDomains[k]? = some r →
    Names r.coherenceDomain s.coherenceDomains
  regions : ∀ (k : Text) (r : RegionRecord), s.regions[k]? = some r →
    Names r.memoryDomain s.memoryDomains ∧ Names r.coherenceDomain s.coherenceDomains

/-- What is new in the table `m'` has the property `P`. -/
def AddsOnly (P : α → Prop) (m m' : ExtTreeMap Text α) : Prop :=
  ∀ (k : Text) (r : α), m'[k]? = some r → m[k]? = some r ∨ P r

/-- References stay resolved when the domains stay, and new records name registered ones. -/
theorem Referenced.forward (h : Referenced s) (hforward : Forward s s')
    (hprocessors : AddsOnly (fun r => Names r.localMemoryDomain s.memoryDomains)
      s.processors s'.processors)
    (haccelerators : AddsOnly (fun r => Names r.localMemoryDomain s.memoryDomains)
      s.accelerators s'.accelerators)
    (hmemory : AddsOnly (fun r => Names r.coherenceDomain s.coherenceDomains)
      s.memoryDomains s'.memoryDomains)
    (hregions : AddsOnly (fun r => Names r.memoryDomain s.memoryDomains ∧
      Names r.coherenceDomain s.coherenceDomains) s.regions s'.regions) :
    Forward s s' ∧ Referenced s' := by
  refine ⟨hforward, fun k r hr => ?_, fun k r hr => ?_, fun k r hr => ?_, fun k r hr => ?_⟩
  · exact ((hprocessors k r hr).elim (h.processors k r) id).mono hforward.memoryDomains
  · exact ((haccelerators k r hr).elim (h.accelerators k r) id).mono hforward.memoryDomains
  · exact ((hmemory k r hr).elim (h.memoryDomains k r) id).mono hforward.coherenceDomains
  · have hnames := (hregions k r hr).elim (h.regions k r) id
    exact ⟨hnames.1.mono hforward.memoryDomains, hnames.2.mono hforward.coherenceDomains⟩

/-- The steps that leave the five tables alone. -/
theorem Referenced.forward_of_eq (h : Referenced s) (hprocessors : s'.processors = s.processors)
    (haccelerators : s'.accelerators = s.accelerators)
    (hmemory : s'.memoryDomains = s.memoryDomains)
    (hcoherence : s'.coherenceDomains = s.coherenceDomains) (hregions : s'.regions = s.regions) :
    Forward s s' ∧ Referenced s' := by
  refine h.forward ⟨?_, ?_, ?_, ?_, ?_⟩ (fun _ _ hr => ?_) (fun _ _ hr => ?_) (fun _ _ hr => ?_)
    fun _ _ hr => ?_
  · exact hprocessors ▸ .refl _
  · exact haccelerators ▸ .refl _
  · exact hmemory ▸ .refl _
  · exact hcoherence ▸ .refl _
  · exact hregions ▸ .refl RegionRecord.Precedes.refl _
  · exact .inl (hprocessors ▸ hr)
  · exact .inl (haccelerators ▸ hr)
  · exact .inl (hmemory ▸ hr)
  · exact .inl (hregions ▸ hr)

/-- An entry of a table was there or is the one just made. -/
theorem getElem?_insert_or {m : ExtTreeMap Text α} {r : α} {P : α → Prop} (h : P r) (k : Text)
    (r' : α) (hr' : (m.insert key r)[k]? = some r') : m[k]? = some r' ∨ P r' := by
  rcases getElem?_insert_cases hr' with ⟨_, rfl⟩ | hold
  · exact .inr h
  · exact .inl hold

/-! ## Steps and runs -/

theorem checkRegion_precedes (h : checkRegion s r = .ok ()) {old : RegionRecord}
    (hold : s.regions[r.id]? = some old) :
    old.generation ≤ r.generation ∧ (old.retired = true → r.generation ≠ old.generation) := by
  unfold checkRegion at h
  iterate 6 obtain ⟨_, _, h⟩ := bind_eq_ok.1 h
  obtain ⟨_, hslot, h⟩ := bind_eq_ok.1 h
  obtain ⟨_, hretired, _⟩ := bind_eq_ok.1 h
  have hretired := failIf_eq_ok.1 hretired
  rw [hold] at hretired
  refine ⟨checkSlot_generation hslot hold, fun hold' hsame => hretired ?_⟩
  simp [hold', hsame]

theorem checkRegion_names (h : checkRegion s r = .ok ()) :
    Names r.memoryDomain s.memoryDomains ∧ Names r.coherenceDomain s.coherenceDomains := by
  unfold checkRegion at h
  iterate 8 obtain ⟨_, _, h⟩ := bind_eq_ok.1 h
  obtain ⟨_, hmemory, h⟩ := bind_eq_ok.1 h
  obtain ⟨_, _, hcoherence⟩ := bind_eq_ok.1 h
  exact ⟨checkReference_eq_ok hmemory, checkReference_eq_ok hcoherence⟩

/-- A step that loads no file moves the structure forward and keeps references resolved. -/
theorem act_forward {a : Action} (ha : a.loads = false) (hs : Referenced s) :
    Forward s (act s a).2 ∧ Referenced (act s a).2 := by
  have hcommit {next : State} {check : Status}
      (h : check = .ok () → Forward s next ∧ Referenced next) :
      Forward s (commit s check next).2 ∧ Referenced (commit s check next).2 :=
    commit_induction (P := fun s' => Forward s s' ∧ Referenced s') ⟨.refl s, hs⟩ h
  have hold {α : Type} {m : ExtTreeMap Text α} {P : α → Prop} (k : Text) (r : α)
      (h : m[k]? = some r) : m[k]? = some r ∨ P r := .inl h
  have hrefl := Forward.refl s
  by_cases hdescribes : a.describes = false
  · exact hs.forward_of_eq (act_of_not_describes State.processors hdescribes)
      (act_of_not_describes State.accelerators hdescribes)
      (act_of_not_describes State.memoryDomains hdescribes)
      (act_of_not_describes State.coherenceDomains hdescribes)
      (act_of_not_describes State.regions hdescribes)
  cases a with
  -- the five tables are not touched
  | registerNode | setTopologyLink | setCapability | setCostModel =>
    exact hcommit fun _ => hs.forward_of_eq rfl rfl rfl rfl rfl
  | bumpTopologyGeneration reason now =>
    rw [act, bumpTopologyGeneration]
    split <;> exact hs.forward_of_eq rfl rfl rfl rfl rfl
  | registerProcessor r now =>
    refine hcommit fun hcheck => ?_
    unfold checkProcessor at hcheck
    iterate 2 obtain ⟨_, _, hcheck⟩ := bind_eq_ok.1 hcheck
    obtain ⟨_, hslot, hnames⟩ := bind_eq_ok.1 hcheck
    exact hs.forward { hrefl with processors := .insert hslot rfl }
      (getElem?_insert_or (checkReference_eq_ok hnames)) hold hold hold
  | registerAccelerator r now =>
    refine hcommit fun hcheck => ?_
    unfold checkAccelerator at hcheck
    iterate 3 obtain ⟨_, _, hcheck⟩ := bind_eq_ok.1 hcheck
    obtain ⟨_, hslot, hcheck⟩ := bind_eq_ok.1 hcheck
    obtain ⟨_, _, hnames⟩ := bind_eq_ok.1 hcheck
    exact hs.forward { hrefl with accelerators := .insert hslot rfl }
      hold (getElem?_insert_or (checkReference_eq_ok hnames)) hold hold
  | registerMemoryDomain r now =>
    refine hcommit fun hcheck => ?_
    unfold checkMemoryDomain at hcheck
    iterate 4 obtain ⟨_, _, hcheck⟩ := bind_eq_ok.1 hcheck
    obtain ⟨_, hslot, hnames⟩ := bind_eq_ok.1 hcheck
    exact hs.forward { hrefl with memoryDomains := .insert hslot rfl }
      hold hold (getElem?_insert_or (checkReference_eq_ok hnames)) hold
  | registerCoherenceDomain r now =>
    refine hcommit fun hcheck => ?_
    unfold checkCoherenceDomain at hcheck
    iterate 4 obtain ⟨_, _, hcheck⟩ := bind_eq_ok.1 hcheck
    obtain ⟨_, hslot, _⟩ := bind_eq_ok.1 hcheck
    exact hs.forward { hrefl with coherenceDomains := .insert hslot rfl } hold hold hold hold
  | registerRegion r now =>
    refine hcommit fun hcheck => ?_
    have hnames := checkRegion_names hcheck
    refine hs.forward { hrefl with regions := .insert RegionRecord.Precedes.refl ?_ }
      hold hold hold (getElem?_insert_or hnames)
    intro old hold
    -- a retired generation is not registered again
    obtain ⟨hle, hretired⟩ := checkRegion_precedes hcheck hold
    exact ⟨hle, fun h hsame => absurd hsame (hretired h)⟩
  | retireRegion region generation reason now =>
    rw [act, retireRegion]
    split
    · exact ⟨hrefl, hs⟩
    next record hretire =>
      have hrecord := checkRetire_eq_ok hretire
      refine hs.forward { hrefl with regions := .insert RegionRecord.Precedes.refl ?_ }
        hold hold hold (getElem?_insert_or (hs.regions region record hrecord))
      intro old hold
      obtain rfl := Option.some.inj (hold.symm.trans hrecord)
      exact ⟨UInt64.le_refl _, fun _ _ => rfl⟩
  | load path file options clock => cases ha
  | _ => simp [Action.describes] at hdescribes

theorem referenced_initial (options : ObservatoryOptions) (now : Nanos) :
    Referenced (State.initial options now) where
  processors _ _ h := by simp [State.initial] at h
  accelerators _ _ h := by simp [State.initial] at h
  memoryDomains _ _ h := by simp [State.initial] at h
  regions _ _ h := by simp [State.initial] at h

/-- A run moves the structure forward and keeps references resolved. -/
theorem run_forward {l : List Action} (hl : ∀ a ∈ l, a.loads = false) (hs : Referenced s) :
    Forward s (Run.final act s l) ∧ Referenced (Run.final act s l) := by
  refine Run.final_invariant (I := fun s' => Forward s s' ∧ Referenced s') ?_ ⟨.refl s, hs⟩
    (Run.along_of_forall_mem hl s)
  rintro s' a ⟨hforward, hs'⟩ ha
  obtain ⟨hstep, hnext⟩ := act_forward ha hs'
  exact ⟨hforward.trans hstep, hnext⟩

/-- In every run without loads, every later state is forward of every earlier one, and in every
    state the domains named by a record are registered. -/
theorem structure_forward (options : ObservatoryOptions) (now : Nanos) (l l' : List Action)
    (h : ∀ a ∈ l ++ l', a.loads = false) :
    Forward (Run.final act (State.initial options now) l)
        (Run.final act (State.initial options now) (l ++ l')) ∧
      Referenced (Run.final act (State.initial options now) (l ++ l')) := by
  rw [List.forall_mem_append] at h
  rw [Run.final_append]
  exact run_forward h.2 (run_forward h.1 (referenced_initial options now)).2

/-- A region is retired and then registered at its next generation. -/
theorem structure_forward_region :
    let region : RegionRecord := { id := ascii "r", generation := 1 }
    let l : List Action := [.registerRegion region 0, .retireRegion (ascii "r") 1 [] 0]
    let l' : List Action :=
      [.registerRegion region 0, .registerRegion { region with generation := 2 } 0]
    Forward (Run.final act (State.initial {} 0) l) (Run.final act (State.initial {} 0) (l ++ l')) ∧
      Referenced (Run.final act (State.initial {} 0) (l ++ l')) := by
  intro region l l'
  exact structure_forward {} 0 l l' (by decide)

end CoherenceObservatory
