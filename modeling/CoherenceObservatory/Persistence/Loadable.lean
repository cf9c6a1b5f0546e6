import CoherenceObservatory.Persistence.Stored

/-!
# Which states can be loaded again

A save is only as good as the load that follows it. The reader checks bounds and references
that not every operation checks: a processor may name any node, a capability may always be
added, and every bound boot takes a place in the stored table. `SaveSafe` lists what a step
must respect beyond its own checks.
-/

namespace CoherenceObservatory

open Std Limits ExtTreeMap

/-! ## References -/

variable {α : Type} {staged : StagedState} {s s' : State} {key : Text} {P : TopologyLink → Prop}
  {link : TopologyLink} {a : Action}

theorem checkEach_eq_ok {l : List α} {defect : α → Bool} {e : α → Error} :
    checkEach l defect e = .ok () ↔ ∀ x ∈ l, defect x = false := by
  unfold checkEach
  split
  next h => simpa using h
  next x h =>
    have hdefect := List.find?_some h
    constructor
    · intro hok
      simp at hok
    · intro hall
      simp [hall x (List.mem_of_find?_eq_some h)] at hdefect

/-- Every reference of the state resolves. -/
structure State.Linked (s : State) : Prop where
  regions : ∀ (k : Text) (r : RegionRecord), s.regions[k]? = some r →
    r.memoryDomain = [] ∨ r.memoryDomain ∈ s.memoryDomains
  memoryDomains : ∀ (k : Text) (r : MemoryDomainRecord), s.memoryDomains[k]? = some r →
    r.coherenceDomain = [] ∨ r.coherenceDomain ∈ s.coherenceDomains
  processors : ∀ (k : Text) (r : ProcessorRecord), s.processors[k]? = some r →
    r.node = [] ∨ r.node ∈ s.nodes
  links : ∀ link ∈ s.topology.links, link.source.id ≠ [] ∧ link.target.id ≠ []

/-- The references of what is staged resolve exactly when the parser finds no fault. -/
theorem checkReferences_eq_ok :
    checkReferences staged = .ok () ↔
      (∀ (k : Text) (r : RegionRecord), staged.regions[k]? = some r →
        r.memoryDomain = [] ∨ r.memoryDomain ∈ staged.memoryDomains) ∧
      (∀ (k : Text) (r : MemoryDomainRecord), staged.memoryDomains[k]? = some r →
        r.coherenceDomain = [] ∨ r.coherenceDomain ∈ staged.coherenceDomains) ∧
      (∀ (k : Text) (r : ProcessorRecord), staged.processors[k]? = some r →
        r.node = [] ∨ r.node ∈ staged.nodes) ∧
      ∀ link ∈ staged.links, link.source.id ≠ [] ∧ link.target.id ≠ [] := by
  have hseq {x y : Status} : (x >>= fun _ => y) = .ok () ↔ x = .ok () ∧ y = .ok () := by
    rw [bind_eq_ok]
    exact ⟨fun ⟨_, hx, hy⟩ => ⟨hx, hy⟩, fun ⟨hx, hy⟩ => ⟨(), hx, hy⟩⟩
  have hmap {α β : Type} {m : ExtTreeMap Text α} {t : ExtTreeMap Text β} {name : α → Text} :
      (∀ e ∈ m.toList, decide (name e.2 ≠ [] ∧ name e.2 ∉ t) = false) ↔
        ∀ (k : Text) (r : α), m[k]? = some r → name r = [] ∨ name r ∈ t := by
    constructor
    · intro h k r hr
      have := h (k, r) (mem_toList_iff_getElem?_eq_some.2 hr)
      rw [decide_eq_false_iff_not] at this
      tauto
    · intro h e he
      have := h e.1 e.2 (mem_toList_iff_getElem?_eq_some.1 he)
      rw [decide_eq_false_iff_not]
      tauto
  unfold checkReferences
  rw [hseq, hseq, hseq, checkEach_eq_ok, checkEach_eq_ok, checkEach_eq_ok, checkEach_eq_ok, hmap,
    hmap, hmap]
  simp only [decide_eq_false_iff_not, not_or, ne_eq]

theorem checkReferences_stagedOf : checkReferences (stagedOf s) = .ok () ↔ s.Linked := by
  rw [checkReferences_eq_ok]
  constructor
  · rintro ⟨hregions, hmemory, hprocessors, hlinks⟩
    refine ⟨fun k r hr => hregions k r.loaded ?_, hmemory, hprocessors, hlinks⟩
    simp [stagedOf, getElem?_map, hr]
  · intro h
    refine ⟨fun k r hr => ?_, h.memoryDomains, h.processors, h.links⟩
    simp only [stagedOf, getElem?_map, Option.map_eq_some_iff] at hr
    obtain ⟨r, hr, rfl⟩ := hr
    exact h.regions k r hr

/-! ## Checks -/

theorem checkSlot_room {m : ExtTreeMap Text α} {capacity : Nat} {generationOf : α → UInt64}
    {generation : UInt64} {what full : String}
    (h : checkSlot m key capacity generationOf generation what full = .ok ()) :
    key ∈ m ∨ m.size < capacity := by
  unfold checkSlot at h
  split at h
  · exact .inr (Nat.lt_of_not_le (failIf_eq_ok.1 h))
  next existing hexisting =>
    left
    rw [mem_iff_isSome_getElem?, hexisting]
    rfl

/-- A name that is open or filed under an identity fits the format. -/
theorem length_le_of_reference {m : ExtTreeMap Text α} {keyOf : α → Text} {P : α → Prop}
    {bound : Nat} (hm : Filed keyOf P bound m) (htoken : ∀ r, P r → IsToken (keyOf r))
    (h : key = [] ∨ key ∈ m) : key.length ≤ maxNameLength := by
  rcases h with rfl | hmem
  · exact Nat.zero_le _
  · rw [mem_iff_isSome_getElem?, Option.isSome_iff_exists] at hmem
    obtain ⟨r, hr⟩ := hmem
    rw [← hm.key_eq hr]
    exact (htoken r (hm.valid hr)).length_le

/-- A current resource is of a known kind and under an identity. -/
theorem storable_of_isCurrent (hs : Structured s) {ref : ResourceRef}
    (h : resourceIsCurrent s ref = true) : ref.Storable := by
  have hfound {α : Type} {m : ExtTreeMap Text α} {keyOf : α → Text} {P : α → Prop} {bound : Nat}
      {current : α → Bool} (hm : Filed keyOf P bound m) (htoken : ∀ r, P r → IsToken (keyOf r))
      (hany : m[ref.id]?.any current = true) : ref.id.length ≤ maxNameLength := by
    refine length_le_of_reference hm htoken (.inr ?_)
    rw [mem_iff_isSome_getElem?]
    cases hr : m[ref.id]? with
    | none => simp [hr] at hany
    | some r => rfl
  unfold resourceIsCurrent at h
  split_ifs at h with hkind hkind hkind hkind hkind
  · exact ⟨by rw [hkind]; decide, hfound hs.processors (fun _ hr => hr.id) h⟩
  · exact ⟨by rw [hkind]; decide, hfound hs.accelerators (fun _ hr => hr.id) h⟩
  · exact ⟨by rw [hkind]; decide, hfound hs.memoryDomains (fun _ hr => hr.id) h⟩
  · exact ⟨by rw [hkind]; decide, hfound hs.coherenceDomains (fun _ hr => hr.id) h⟩
  · refine ⟨by rw [hkind]; decide, length_le_of_reference hs.nodes (fun _ hr => hr.id) (.inr ?_)⟩
    exact contains_iff_mem.1 h

theorem checkMembers_storable (hs : Structured s) {members : List ResourceRef}
    (h : checkMembers s members = .ok ()) : ∀ member ∈ members, member.Storable := by
  induction members with
  | nil => exact fun _ hm => nomatch hm
  | cons member members ih =>
    obtain ⟨_, _, h⟩ := bind_eq_ok.1 h
    obtain ⟨_, hcurrent, h⟩ := bind_eq_ok.1 h
    refine List.forall_mem_cons.2 ⟨storable_of_isCurrent hs ?_, ih h⟩
    exact not_not.1 (failIf_eq_ok.1 hcurrent)

/-! ## Bounds -/

/-- The capabilities of a state after those of a file were entered. -/
def mergedCapabilities (s : State) (staged : StagedState) : ExtTreeMap Text Capability :=
  staged.capabilities.toList.foldl (fun m e => m.insert e.1 e.2) s.capabilities

/-- The bounds of the format that an operation does not check itself. -/
def Action.Bounded (s : State) : Action → Prop
  | .registerProcessor r _ => r.node.length ≤ maxNameLength
  | .registerAccelerator r _ => r.node.length ≤ maxNameLength
  | .registerMemoryDomain r _ => r.node.length ≤ maxNameLength
  | .registerRegion r _ => r.workload.length ≤ maxNameLength
  | .setTopologyLink link => link.provenance.raw ≤ 9
  | .setCapability c => c.key ∈ s.capabilities ∨ s.capabilities.size < maxStoredCapabilities
  | .load _ file options _ => ∀ data ∈ file, ∀ staged, parseState data options = .ok staged →
    (mergedCapabilities s staged).size ≤ maxStoredCapabilities
  | _ => True

theorem Structured.of_skeleton (h : Structured s) (heq : s'.skeleton = s.skeleton) :
    Structured s' := by
  have hskeleton : Structured s.skeleton := { h with }
  rw [← heq] at hskeleton
  exact { hskeleton with }

theorem replaceLink_storable {links links' : List TopologyLink}
    (h : replaceLink link links = some links') (hlinks : ∀ l ∈ links, P l) (hlink : P link) :
    links'.length = links.length ∧ ∀ l ∈ links', P l := by
  induction links generalizing links' with
  | nil => simp [replaceLink] at h
  | cons existing links ih =>
    obtain ⟨hexisting, hlinks⟩ := List.forall_mem_cons.1 hlinks
    rw [replaceLink] at h
    split at h
    · obtain rfl := Option.some.inj h
      exact ⟨rfl, List.forall_mem_cons.2 ⟨hlink, hlinks⟩⟩
    · obtain ⟨rest, hrest, rfl⟩ := Option.map_eq_some_iff.1 h
      obtain ⟨hlength, hall⟩ := ih hrest hlinks
      exact ⟨congrArg (· + 1) hlength, List.forall_mem_cons.2 ⟨hexisting, hall⟩⟩

/-- The links after one was set: all as before or the new one, within the bound. -/
theorem setLink_storable (hlinks : ∀ l ∈ s.topology.links, P l) (hlink : P link)
    (hlength : s.topology.links.length ≤ maxTopologyLinkCount)
    (hroom : ¬(replaceLink link s.topology.links = none ∧ s.topology.links.length ≥ maxTopologyLinkCount)) :
    ((replaceLink link s.topology.links).getD (s.topology.links ++ [link])).length ≤
        maxTopologyLinkCount ∧
      ∀ l ∈ (replaceLink link s.topology.links).getD (s.topology.links ++ [link]), P l := by
  cases hreplace : replaceLink link s.topology.links with
  | none =>
    have hlt : s.topology.links.length < maxTopologyLinkCount :=
      Nat.lt_of_not_le fun h => hroom ⟨hreplace, h⟩
    refine ⟨by simpa using hlt, ?_⟩
    intro l hl
    rcases List.mem_append.1 hl with hl | hl
    · exact hlinks l hl
    · obtain rfl : l = link := by simpa using hl
      exact hlink
  | some links =>
    obtain ⟨heq, hall⟩ := replaceLink_storable hreplace hlinks hlink
    exact ⟨heq.trans_le hlength, hall⟩

/-! What the checks of each registration establish, beside the bounds it must meet. -/

section

variable {s : State} (hs : Structured s)

theorem checkNode_storable {r : NodeRecord} (h : checkNode s r = .ok ()) :
    r.Storable ∧ (r.id ∈ s.nodes ∨ s.nodes.size < maxNodeCount) := by
  obtain ⟨_, hid, h⟩ := bind_eq_ok.1 h
  obtain ⟨_, hdisplay, h⟩ := bind_eq_ok.1 h
  refine ⟨⟨validateIdentityToken_eq_ok.1 hid, Nat.le_of_not_lt (failIf_eq_ok.1 hdisplay)⟩, ?_⟩
  by_cases hmem : r.id ∈ s.nodes
  · exact .inl hmem
  · exact .inr (Nat.lt_of_not_le fun hfull => failIf_eq_ok.1 h ⟨hmem, hfull⟩)

include hs

theorem checkProcessor_storable {r : ProcessorRecord} (h : checkProcessor s r = .ok ())
    (hnode : r.node.length ≤ maxNameLength) :
    r.Storable ∧ (r.id ∈ s.processors ∨ s.processors.size < maxProcessorCount) := by
  obtain ⟨_, hid, h⟩ := bind_eq_ok.1 h
  obtain ⟨_, hgeneration, h⟩ := bind_eq_ok.1 h
  obtain ⟨_, hslot, hdomain⟩ := bind_eq_ok.1 h
  refine ⟨⟨validateIdentityToken_eq_ok.1 hid, hnode, ?_, failIf_eq_ok.1 hgeneration⟩,
    checkSlot_room hslot⟩
  exact length_le_of_reference hs.memoryDomains (fun _ h => h.id) (checkReference_eq_ok hdomain)

theorem checkAccelerator_storable {r : AcceleratorRecord} (h : checkAccelerator s r = .ok ())
    (hnode : r.node.length ≤ maxNameLength) :
    r.Storable ∧ (r.id ∈ s.accelerators ∨ s.accelerators.size < maxAcceleratorCount) := by
  obtain ⟨_, hid, h⟩ := bind_eq_ok.1 h
  obtain ⟨_, hgeneration, h⟩ := bind_eq_ok.1 h
  obtain ⟨_, hdescription, h⟩ := bind_eq_ok.1 h
  obtain ⟨_, hslot, h⟩ := bind_eq_ok.1 h
  obtain ⟨_, _, hdomain⟩ := bind_eq_ok.1 h
  obtain ⟨hvendor, huuid⟩ := not_or.1 (failIf_eq_ok.1 hdescription)
  refine ⟨⟨validateIdentityToken_eq_ok.1 hid, hnode, Nat.le_of_not_lt hvendor,
    Nat.le_of_not_lt huuid, ?_, failIf_eq_ok.1 hgeneration⟩, checkSlot_room hslot⟩
  exact length_le_of_reference hs.memoryDomains (fun _ h => h.id) (checkReference_eq_ok hdomain)

theorem checkMemoryDomain_storable {r : MemoryDomainRecord} (h : checkMemoryDomain s r = .ok ())
    (hnode : r.node.length ≤ maxNameLength) :
    r.Storable ∧ (r.id ∈ s.memoryDomains ∨ s.memoryDomains.size < maxMemoryDomainCount) ∧
      (r.coherenceDomain = [] ∨ r.coherenceDomain ∈ s.coherenceDomains) := by
  obtain ⟨_, hid, h⟩ := bind_eq_ok.1 h
  obtain ⟨_, hgeneration, h⟩ := bind_eq_ok.1 h
  obtain ⟨_, hkind, h⟩ := bind_eq_ok.1 h
  obtain ⟨_, _, h⟩ := bind_eq_ok.1 h
  obtain ⟨_, hslot, hdomain⟩ := bind_eq_ok.1 h
  have hkind : r.kind.raw < 7 := not_not.1 (failIf_eq_ok.1 hkind)
  have hdomain := checkReference_eq_ok hdomain
  refine ⟨⟨validateIdentityToken_eq_ok.1 hid, hnode, ?_, failIf_eq_ok.1 hgeneration, ?_⟩,
    checkSlot_room hslot, hdomain⟩
  · exact length_le_of_reference hs.coherenceDomains (fun _ h => h.id) hdomain
  · rw [gt_iff_lt, UInt8.not_lt]
    exact UInt8.le_iff_toNat_le.2 (Nat.le_of_lt_succ (UInt8.lt_iff_toNat_lt.1 hkind))

theorem checkCoherenceDomain_storable {r : CoherenceDomainRecord}
    (h : checkCoherenceDomain s r = .ok ()) :
    r.Storable ∧
      (r.id ∈ s.coherenceDomains ∨ s.coherenceDomains.size < maxCoherenceDomainCount) := by
  obtain ⟨_, hid, h⟩ := bind_eq_ok.1 h
  obtain ⟨_, hgeneration, h⟩ := bind_eq_ok.1 h
  obtain ⟨_, hfamily, h⟩ := bind_eq_ok.1 h
  obtain ⟨_, hmembers, h⟩ := bind_eq_ok.1 h
  obtain ⟨_, hslot, hcurrent⟩ := bind_eq_ok.1 h
  exact ⟨⟨validateIdentityToken_eq_ok.1 hid, Nat.le_of_not_lt (failIf_eq_ok.1 hfamily),
    failIf_eq_ok.1 hgeneration, Nat.le_of_not_lt (failIf_eq_ok.1 hmembers),
    checkMembers_storable hs hcurrent⟩, checkSlot_room hslot⟩

theorem checkRegion_storable {r : RegionRecord} (h : checkRegion s r = .ok ())
    (hworkload : r.workload.length ≤ maxNameLength) :
    r.Storable ∧ (r.id ∈ s.regions ∨ s.regions.size < maxRegionCount) ∧
      (r.memoryDomain = [] ∨ r.memoryDomain ∈ s.memoryDomains) := by
  obtain ⟨_, hid, h⟩ := bind_eq_ok.1 h
  obtain ⟨_, hgeneration, h⟩ := bind_eq_ok.1 h
  obtain ⟨_, hscope, h⟩ := bind_eq_ok.1 h
  obtain ⟨_, htexts, h⟩ := bind_eq_ok.1 h
  iterate 2 obtain ⟨_, _, h⟩ := bind_eq_ok.1 h
  obtain ⟨_, hslot, h⟩ := bind_eq_ok.1 h
  obtain ⟨_, _, h⟩ := bind_eq_ok.1 h
  obtain ⟨_, hmemory, h⟩ := bind_eq_ok.1 h
  obtain ⟨_, _, hcoherence⟩ := bind_eq_ok.1 h
  obtain ⟨howner, hannotated⟩ := not_or.1 (failIf_eq_ok.1 htexts)
  have hscope : r.sharingScope.raw < 6 := not_not.1 (failIf_eq_ok.1 hscope)
  have hmemory := checkReference_eq_ok hmemory
  refine ⟨⟨validateIdentityToken_eq_ok.1 hid, Nat.le_of_not_lt howner, Nat.le_of_not_lt hannotated,
    length_le_of_reference hs.memoryDomains (fun _ h => h.id) hmemory, ?_, hworkload,
    failIf_eq_ok.1 hgeneration, ?_⟩, checkSlot_room hslot, hmemory⟩
  · exact length_le_of_reference hs.coherenceDomains (fun _ h => h.id)
      (checkReference_eq_ok hcoherence)
  · rw [gt_iff_lt, UInt8.not_lt]
    exact UInt8.le_iff_toNat_le.2 (Nat.le_of_lt_succ (UInt8.lt_iff_toNat_lt.1 hscope))

theorem checkLink_storable (h : checkLink s link = .ok ()) (hprovenance : link.provenance.raw ≤ 9) :
    link.Storable ∧ (link.source.id ≠ [] ∧ link.target.id ≠ []) ∧
      ¬(replaceLink link s.topology.links = none ∧
        s.topology.links.length ≥ maxTopologyLinkCount) := by
  obtain ⟨_, hends, h⟩ := bind_eq_ok.1 h
  obtain ⟨_, _, h⟩ := bind_eq_ok.1 h
  obtain ⟨_, hlocality, h⟩ := bind_eq_ok.1 h
  iterate 2 obtain ⟨_, _, h⟩ := bind_eq_ok.1 h
  obtain ⟨_, hsource, h⟩ := bind_eq_ok.1 h
  obtain ⟨_, htarget, hroom⟩ := bind_eq_ok.1 h
  refine ⟨⟨storable_of_isCurrent hs (not_not.1 (failIf_eq_ok.1 hsource)),
    storable_of_isCurrent hs (not_not.1 (failIf_eq_ok.1 htarget)), ?_, ?_⟩,
    not_or.1 (failIf_eq_ok.1 hends), failIf_eq_ok.1 hroom⟩
  · exact UInt8.not_le.2 (not_not.1 (failIf_eq_ok.1 hlocality))
  · exact UInt8.not_lt.2 hprovenance

end

theorem checkCapability_storable {c : Capability} (h : checkCapability c = .ok ()) : c.Storable := by
  obtain ⟨_, hkey, h⟩ := bind_eq_ok.1 h
  obtain ⟨_, htexts, hstatus⟩ := bind_eq_ok.1 h
  obtain ⟨hne, hlength⟩ := not_or.1 (failIf_eq_ok.1 hkey)
  obtain ⟨hdetail, hmechanism⟩ := not_or.1 (failIf_eq_ok.1 htexts)
  have hstatus : c.status.raw < 3 := not_not.1 (failIf_eq_ok.1 hstatus)
  refine ⟨hne, Nat.le_of_not_lt hlength, ?_, Nat.le_of_not_lt hdetail, Nat.le_of_not_lt hmechanism⟩
  rw [gt_iff_lt, UInt8.not_lt]
  exact UInt8.le_iff_toNat_le.2 (Nat.le_of_lt_succ (UInt8.lt_iff_toNat_lt.1 hstatus))

theorem defaultCapabilities_filed :
    Filed Capability.key Capability.Storable maxStoredCapabilities
      (defaultCapabilities.foldl (fun m c => m.insert c.key c) ∅) := by
  have hstorable : ∀ c ∈ defaultCapabilities, c.Storable := by
    intro c hc
    simp only [defaultCapabilities, List.mem_cons, List.not_mem_nil, or_false] at hc
    rcases hc with rfl | rfl | rfl | rfl | rfl
    all_goals constructor <;> decide +kernel
  have hfiled : Filed Capability.key Capability.Storable maxStoredCapabilities
      ((defaultCapabilities.map fun c => (c.key, c)).foldl (fun t e => t.insert e.1 e.2) ∅) := by
    refine (show Filed Capability.key Capability.Storable 0 ∅ from .empty).enter ?_
      ((size_foldl_insert_le _).trans (by decide))
    intro e he
    obtain ⟨c, hc, rfl⟩ := List.mem_map.1 he
    exact ⟨rfl, hstorable c hc⟩
  rwa [List.foldl_map] at hfiled

theorem structured_initial (now : Nanos) : Structured (State.initial {} now) where
  observerId := rfl
  nodeId := rfl
  displayName := Nat.zero_le _
  timeBucketNs := show ¬(1000000000 : Int64).toUInt64 > maxTimestampNs by decide
  nodes := Filed.empty.insert rfl ⟨validateIdentityToken_eq_ok.1 rfl,
    show (ascii "node.local").length ≤ _ by decide⟩ (.inr (by decide))
  processors := .empty
  accelerators := .empty
  memoryDomains := .empty
  coherenceDomains := .empty
  regions := .empty
  links_length := Nat.zero_le _
  links := fun _ h => nomatch h
  capabilities := defaultCapabilities_filed
  costModel := defaultCostModel_validate
  aggregates_size := Nat.zero_le _
  aggregates := fun k v h => by simp [State.initial] at h
  history := fun _ h => nomatch h

/-- A recovered state is within the bounds that its file was. -/
theorem recover_structured (clock : Nat → Nanos) (hs : Structured s) (h : staged.Storable)
    (hcapabilities : (mergedCapabilities s staged).size ≤ maxStoredCapabilities) :
    Structured (recover s staged clock) := by
  have hroom (type : SectionType) (bound : Nat) := staged.room_le type bound
  have hregions : Filed RegionRecord.id RegionRecord.Storable maxRegionCount
      (staged.regions.map fun _ => RegionRecord.loaded) :=
    (h.regions.mono (fun _ hr => hr) (hroom ..)).map (fun _ => rfl) fun _ hr => { hr with }
  have hentered : Filed Capability.key Capability.Storable maxStoredCapabilities
      (mergedCapabilities s staged) := by
    refine hs.capabilities.enter (fun e he => ?_) hcapabilities
    have he := mem_toList_iff_getElem?_eq_some.1 he
    exact ⟨h.capabilities.key_eq he, h.capabilities.valid he⟩
  exact {
    observerId := by
      change checkOptionalToken (if staged.observerId = [] then _ else _) = _
      split
      · exact hs.observerId
      · exact h.observerId
    nodeId := by
      change checkOptionalToken (if staged.nodeId = [] then _ else _) = _
      split
      · exact hs.nodeId
      · exact h.nodeId
    displayName := by
      change (if staged.displayName = [] then s.options.displayName else _).length ≤ _
      split
      · exact hs.displayName
      · exact h.displayName
    timeBucketNs := by
      change ¬(if staged.timeBucketNs > 0 then _ else s.options.timeBucketNs).toUInt64 > _
      split
      · exact h.timeBucketNs
      · exact hs.timeBucketNs
    nodes := h.nodes.mono (fun _ hr => hr) (hroom ..)
    processors := h.processors.mono (fun _ hr => hr) (hroom ..)
    accelerators := h.accelerators.mono (fun _ hr => hr) (hroom ..)
    memoryDomains := h.memoryDomains.mono (fun _ hr => hr) (hroom ..)
    coherenceDomains := h.coherenceDomains.mono (fun _ hr => hr) (hroom ..)
    regions := hregions
    links_length := h.links_length.trans (hroom ..)
    links := h.links
    capabilities := hentered
    costModel := by
      change (staged.costModel.getD s.options.costModel).validate = _
      cases hmodel : staged.costModel with
      | none => exact hs.costModel
      | some model => exact (h.costModel model hmodel).1
    aggregates_size := h.aggregates_size.trans (hroom ..)
    aggregates := h.aggregates
    history := h.history }

/-- Each step keeps the records within the bounds of the format. -/
theorem act_structured (hs : Structured s) (ha : a.Bounded s) : Structured (act s a).2 := by
  by_cases hdescribes : a.describes = false
  · exact hs.of_skeleton (act_skeleton s hdescribes)
  cases a with
  | registerNode r now =>
    refine commit_induction hs fun hcheck => ?_
    obtain ⟨hr, hroom⟩ := checkNode_storable hcheck
    exact { hs with nodes := hs.nodes.insert rfl ⟨hr.id, hr.displayName⟩ hroom }
  | registerProcessor r now =>
    refine commit_induction hs fun hcheck => ?_
    obtain ⟨hr, hroom⟩ := checkProcessor_storable hs hcheck ha
    exact { hs with processors := hs.processors.insert rfl { hr with } hroom }
  | registerAccelerator r now =>
    refine commit_induction hs fun hcheck => ?_
    obtain ⟨hr, hroom⟩ := checkAccelerator_storable hs hcheck ha
    exact { hs with accelerators := hs.accelerators.insert rfl { hr with } hroom }
  | registerMemoryDomain r now =>
    refine commit_induction hs fun hcheck => ?_
    obtain ⟨hr, hroom, _⟩ := checkMemoryDomain_storable hs hcheck ha
    exact { hs with memoryDomains := hs.memoryDomains.insert rfl { hr with } hroom }
  | registerCoherenceDomain r now =>
    refine commit_induction hs fun hcheck => ?_
    obtain ⟨hr, hroom⟩ := checkCoherenceDomain_storable hs hcheck
    exact { hs with coherenceDomains := hs.coherenceDomains.insert rfl { hr with } hroom }
  | registerRegion r now =>
    refine commit_induction hs fun hcheck => ?_
    obtain ⟨hr, hroom, _⟩ := checkRegion_storable hs hcheck ha
    exact { hs with regions := hs.regions.insert rfl { hr with } hroom }
  | retireRegion region generation reason now =>
    rw [act, retireRegion]
    split
    · exact hs
    next record hretire =>
      have hrecord := checkRetire_eq_ok hretire
      have hkey := hs.regions.key_eq hrecord
      have hr := hs.regions.valid hrecord
      refine { hs with regions := hs.regions.insert hkey { hr with } (.inl ?_) }
      rw [mem_iff_isSome_getElem?, hrecord]
      rfl
  | setTopologyLink link =>
    refine commit_induction hs fun hcheck => ?_
    obtain ⟨hlink, _, hroom⟩ := checkLink_storable hs hcheck ha
    obtain ⟨hlength, hlinks⟩ := setLink_storable hs.links hlink hs.links_length hroom
    exact { hs with links_length := hlength, links := hlinks }
  | bumpTopologyGeneration reason now =>
    rw [act, bumpTopologyGeneration]
    split
    · exact hs
    · exact { hs with }
  | setCapability c =>
    refine commit_induction hs fun hcheck => ?_
    exact { hs with capabilities := hs.capabilities.insert rfl (checkCapability_storable hcheck) ha }
  | setCostModel model =>
    refine commit_induction hs fun hcheck => ?_
    exact { hs with costModel := hcheck }
  | load path file options clock =>
    rw [act, loadState]
    split
    · exact hs
    next data hread =>
    split
    · exact hs
    next staged hparse =>
      exact recover_structured clock hs (parseState_storable hparse).1
        (ha data (readFileBounded_eq_ok hread) staged hparse)
  | _ => exact absurd rfl hdescribes

/-! ## Runs -/

/-- What a step must respect, beyond its own checks, for the state to be loadable later. -/
def SaveSafe (s : State) (a : Action) : Prop :=
  a.Bounded s ∧
    match a with
    | .registerProcessor r _ => r.node = [] ∨ r.node ∈ s.nodes
    | .registerPublisher r _ => bootKey r.id r.boot ∈ storedWatermarks s ∨
        (storedWatermarks s).size < maxPublisherWatermarks
    | _ => True

theorem State.Linked.of_skeleton (h : s.Linked) (heq : s'.skeleton = s.skeleton) : s'.Linked := by
  have hskeleton : s.skeleton.Linked := { h with }
  rw [← heq] at hskeleton
  exact { hskeleton with }

theorem linked_initial (now : Nanos) : (State.initial {} now).Linked where
  regions k r h := by simp [State.initial] at h
  memoryDomains k r h := by simp [State.initial] at h
  processors k r h := by simp [State.initial] at h
  links := fun _ h => nomatch h

/-- Each step keeps the references resolved. -/
theorem act_linked (hs : Structured s) (hl : s.Linked) (ha : SaveSafe s a) :
    (act s a).2.Linked := by
  -- a name that is resolved stays so when its table grows
  have hgrow {α : Type} {m : ExtTreeMap Text α} {key name : Text} {r : α}
      (h : name = [] ∨ name ∈ m) : name = [] ∨ name ∈ m.insert key r :=
    h.imp_right fun hmem => mem_insert.2 (.inr hmem)
  by_cases hdescribes : a.describes = false
  · exact hl.of_skeleton (act_skeleton s hdescribes)
  cases a with
  | registerNode r now =>
    refine commit_induction hl fun _ => ?_
    exact { hl with processors := fun k r h => hgrow (hl.processors k r h) }
  | registerProcessor r now =>
    refine commit_induction hl fun _ => { hl with processors := fun k r' h => ?_ }
    rcases getElem?_insert_cases h with ⟨_, rfl⟩ | h
    · exact ha.2
    · exact hl.processors k r' h
  | registerAccelerator r now => exact commit_induction hl fun _ => { hl with }
  | registerMemoryDomain r now =>
    refine commit_induction hl fun hcheck => ?_
    obtain ⟨_, _, hdomain⟩ := checkMemoryDomain_storable hs hcheck ha.1
    refine { hl with
      regions := fun k r h => hgrow (hl.regions k r h), memoryDomains := fun k r' h => ?_ }
    rcases getElem?_insert_cases h with ⟨_, rfl⟩ | h
    · exact hdomain
    · exact hl.memoryDomains k r' h
  | registerCoherenceDomain r now =>
    refine commit_induction hl fun _ => ?_
    exact { hl with memoryDomains := fun k r h => hgrow (hl.memoryDomains k r h) }
  | registerRegion r now =>
    refine commit_induction hl fun hcheck => { hl with regions := fun k r' h => ?_ }
    obtain ⟨_, _, hdomain⟩ := checkRegion_storable hs hcheck ha.1
    rcases getElem?_insert_cases h with ⟨_, rfl⟩ | h
    · exact hdomain
    · exact hl.regions k r' h
  | retireRegion region generation reason now =>
    rw [act, retireRegion]
    split
    · exact hl
    next record hretire =>
      have hrecord := hl.regions region record (checkRetire_eq_ok hretire)
      refine { hl with regions := fun k r h => ?_ }
      rcases getElem?_insert_cases h with ⟨_, rfl⟩ | h
      · exact hrecord
      · exact hl.regions k r h
  -- the ends of the link have been looked up
  | setTopologyLink link =>
    refine commit_induction hl fun hcheck => ?_
    obtain ⟨_, hends, hroom⟩ := checkLink_storable hs hcheck ha.1
    obtain ⟨_, hlinks⟩ := setLink_storable hl.links hends hs.links_length hroom
    exact { hl with links := hlinks }
  | bumpTopologyGeneration reason now =>
    rw [act, bumpTopologyGeneration]
    split
    · exact hl
    · exact { hl with }
  | setCapability | setCostModel => exact commit_induction hl fun _ => { hl with }
  | load path file options clock =>
    rw [act, loadState]
    split
    · exact hl
    next data hread =>
    split
    · exact hl
    next staged hparse =>
      obtain ⟨hregions, hmemory, hprocessors, hlinks⟩ :=
        checkReferences_eq_ok.1 (parseState_storable hparse).2
      refine ⟨fun k r h => ?_, hmemory, hprocessors, hlinks⟩
      change (staged.regions.map fun _ r => { r with loadedFromState := true })[k]? = some r at h
      rw [getElem?_map, Option.map_eq_some_iff] at h
      obtain ⟨r, hr, rfl⟩ := h
      exact hregions k r hr
  | _ => exact absurd rfl hdescribes

/-- The stored table stays within its bound when a registration finds room in it. -/
theorem act_stored_size (hs : s.Sound)
    (hsize : (storedWatermarks s).size ≤ maxPublisherWatermarks) (ha : SaveSafe s a) :
    (storedWatermarks (act s a).2).size ≤ maxPublisherWatermarks := by
  -- without a load, only the boot being registered is new
  have hkeys (hload : ∀ path file options clock, a ≠ .load path file options clock)
      {key : Text} (h : key ∈ storedWatermarks (act s a).2) : key ∈ storedWatermarks s ∨
        ∃ r clock, a = .registerPublisher r clock ∧ bootKey r.id r.boot = key := by
    rw [mem_storedWatermarks] at h ⊢
    exact act_stores hs hload h
  cases a with
  | load path file options clock =>
    rw [act, loadState]
    split
    · exact hsize
    split
    · exact hsize
    next staged hparse =>
      change (storedWatermarks (recover s staged clock)).size ≤ _
      rw [storedWatermarks, recover_publishers]
      exact (recover_sound clock (parseState_storable hparse).1).watermarks.size_le
  | registerPublisher r clock =>
    have hinsert : ((storedWatermarks s).insert (bootKey r.id r.boot) {}).size ≤
        maxPublisherWatermarks := by
      rw [size_insert]
      split
      next => exact hsize
      next hnew => exact ha.2.resolve_left hnew
    refine (size_le_of_keys_subset fun key hkey => ?_).trans hinsert
    rcases hkeys (by simp) hkey with hold | ⟨r', clock', heq, rfl⟩
    · exact mem_insert.2 (.inr hold)
    · obtain ⟨rfl, _⟩ : r = r' ∧ clock = clock' := by simpa using heq
      exact mem_insert_self
  | _ =>
    refine (size_le_of_keys_subset fun key hkey => ?_).trans hsize
    rcases hkeys (by simp) hkey with hold | ⟨_, _, heq, _⟩
    · exact hold
    · simp at heq

/-- Everything a save needs. -/
structure State.Savable (s : State) : Prop where
  sound : s.Sound
  structured : Structured s
  linked : s.Linked
  stored_size : (storedWatermarks s).size ≤ maxPublisherWatermarks

theorem savable_initial (now : Nanos) : (State.initial {} now).Savable where
  sound := sound_initial {} now
  structured := structured_initial now
  linked := linked_initial now
  stored_size := by
    change (∅ : ExtTreeMap Text PublisherWatermark).size ≤ _
    simp

theorem act_savable (h : s.Savable) (ha : SaveSafe s a) : (act s a).2.Savable where
  sound := act_sound h.sound a
  structured := act_structured h.structured ha.1
  linked := act_linked h.structured h.linked ha
  stored_size := act_stored_size h.sound h.stored_size ha

theorem State.Savable.encodable (h : s.Savable) : Encodable s :=
  { h.structured with watermarks := storedWatermarks_filed h.sound h.stored_size }

end CoherenceObservatory
