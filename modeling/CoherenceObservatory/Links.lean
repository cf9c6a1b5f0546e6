import CoherenceObservatory.Lib.Ordered
import CoherenceObservatory.Locality

/-!
# Links and device generations

A link names its ends with their generations, and setting it again replaces it where it
stands. Links of older generations stay in the list. `locality_between` looks at kinds and
identities only and takes the first link that fits, which is one of the generations that were
linked first.
-/

namespace CoherenceObservatory

open Std

/-! ## Calls -/

/-- The ends of a link. -/
def TopologyLink.ends (link : TopologyLink) : ResourceRef × ResourceRef := (link.source, link.target)

/-- The link a call has set. -/
def setLink : Action × Answer → Option TopologyLink
  | (.setTopologyLink link, .status (.ok ())) => some link
  | _ => none

/-- The links that successful calls have set, in order. -/
def linkCalls (past : List (Action × Answer)) : List TopologyLink := past.filterMap setLink

/-- What the latest call for two ends has said. -/
def latestLocality (calls : List TopologyLink) (a b : ResourceRef) : Locality :=
  ((Ordered.latest TopologyLink.ends (a, b) calls).map TopologyLink.locality).getD .Unknown

/-- Two references to the same resource, of whatever generation. -/
def ResourceRef.Same (a b : ResourceRef) : Prop := a.kind = b.kind ∧ a.id = b.id

instance (a b : ResourceRef) : Decidable (a.Same b) := inferInstanceAs (Decidable (_ ∧ _))

/-- The first call that linked two resources, of whatever generations. -/
def firstCall (calls : List TopologyLink) (a b : ResourceRef) : Option TopologyLink :=
  calls.find? fun link => link.source.Same a ∧ link.target.Same b

/-- The generations that were linked first are those named, or were last given the same
locality. -/
def FirstAgrees (calls : List TopologyLink) (a b : ResourceRef) : Prop :=
  ∀ first, firstCall calls a b = some first →
    first.ends = (a, b) ∨
      latestLocality calls first.source first.target = latestLocality calls a b

/-! ## The list of links -/

theorem replaceLink_getD (link : TopologyLink) (links : List TopologyLink) :
    (replaceLink link links).getD (links ++ [link]) =
      Ordered.enter TopologyLink.ends link links := by
  induction links with
  | nil => rfl
  | cons existing links ih =>
    rw [replaceLink, Ordered.enter]
    by_cases h : existing.source = link.source ∧ existing.target = link.target
    · rw [if_pos h, if_pos (Prod.ext h.1 h.2)]
      rfl
    · rw [if_neg h, if_neg fun heq => h (Prod.ext_iff.1 heq), ← ih]
      cases replaceLink link links <;> rfl

variable {a : Action} {s : State}

theorem act_links (s : State) (h : a.loads = false) :
    (act s a).2.topology.links =
      (linkCalls [(a, (act s a).1)]).foldl
        (fun links link => Ordered.enter TopologyLink.ends link links) s.topology.links := by
  have hcommit {next : State} {check : Status} (hlinks : next.topology.links = s.topology.links) :
      (commit s check next).2.topology.links = s.topology.links :=
    commit_induction (P := fun s' => s'.topology.links = s.topology.links) rfl fun _ => hlinks
  by_cases hdescribes : a.describes = false
  · have hskeleton := act_of_not_describes (s := s) (fun s => s.topology.links) hdescribes
    cases a with
    | setTopologyLink link => cases hdescribes
    | _ => exact hskeleton
  cases a with
  | registerNode | registerProcessor | registerAccelerator | registerMemoryDomain
  | registerCoherenceDomain | registerRegion | setCapability | setCostModel => exact hcommit rfl
  | retireRegion region generation reason now =>
    rw [act, retireRegion]
    split <;> rfl
  | bumpTopologyGeneration reason now =>
    rw [act, bumpTopologyGeneration]
    split <;> rfl
  | setTopologyLink link =>
    rw [act]
    rcases setTopologyLink_cases s link with ⟨e, _, heq⟩ | ⟨links, hlinks, _, heq⟩ <;> rw [heq]
    · rfl
    · exact hlinks.trans (replaceLink_getD link _)
  | load path file options clock => cases h
  | _ => simp [Action.describes] at hdescribes

/-- The ends of a link that was set are named. -/
theorem ends_of_setLink {link : TopologyLink} (h : setLink (a, (act s a).1) = some link) :
    link.source.id ≠ [] ∧ link.target.id ≠ [] := by
  cases a with
  | setTopologyLink link' =>
    rcases setTopologyLink_cases s link' with ⟨e, _, heq⟩ | ⟨links, _, hcheck, heq⟩
    · rw [act, heq] at h
      cases h
    · rw [act, heq] at h
      obtain rfl : link' = link := Option.some.inj h
      obtain ⟨_, hends, _⟩ := bind_eq_ok.1 hcheck
      exact not_or.1 (failIf_eq_ok.1 hends)
  | _ => cases h

/-- The links are those set so far, entered one after the other, and their ends are named. -/
def Traced (past : List (Action × Answer)) (s : State) : Prop :=
  s.topology.links = (linkCalls past).foldl
      (fun links link => Ordered.enter TopologyLink.ends link links) [] ∧
    ∀ link ∈ linkCalls past, link.source.id ≠ [] ∧ link.target.id ≠ []

/-- The list of links in terms of the calls that succeeded. -/
theorem links_history (options : ObservatoryOptions) (now : Nanos) {l : List Action}
    (hl : ∀ a ∈ l, a.loads = false) :
    Traced (Run.history act (State.initial options now) l)
      (Run.final act (State.initial options now) l) := by
  refine Run.history_invariant (I := Traced) (C := fun _ a => a.loads = false) ?_ ⟨rfl, nofun⟩
    (Run.along_of_forall_mem hl _)
  rintro past s a ⟨hlinks, hends⟩ ha
  have hcalls : linkCalls (past ++ [(a, (act s a).1)]) =
      linkCalls past ++ linkCalls [(a, (act s a).1)] := List.filterMap_append
  refine ⟨?_, fun link hlink => ?_⟩
  · rw [act_links s ha, hlinks, hcalls, List.foldl_append]
  · rw [hcalls, List.mem_append] at hlink
    rcases hlink with hlink | hlink
    · exact hends link hlink
    · obtain ⟨e, he, hset⟩ := List.mem_filterMap.1 hlink
      rw [List.mem_singleton.1 he] at hset
      exact ends_of_setLink hset

/-! ## Lookups -/

/-- A lookup takes the generations that were linked first, with the locality they were last
given. -/
theorem localityBetween_history {past : List (Action × Answer)} (h : Traced past s)
    {a b : ResourceRef} (hne : ¬a.Same b) :
    s.topology.localityBetween a b =
      ((firstCall (linkCalls past) a b).map fun first =>
        latestLocality (linkCalls past) first.source first.target).getD .Unknown := by
  obtain ⟨hlinks, hends⟩ := h
  unfold TopologyRecord.localityBetween
  split
  next hempty =>
    -- no call has linked a resource without a name
    have hnone : firstCall (linkCalls past) a b = none := by
      refine List.find?_eq_none.2 fun link hlink hsame => ?_
      obtain ⟨hsource, htarget⟩ := of_decide_eq_true hsame
      obtain ⟨hnamed, hnamed'⟩ := hends link hlink
      rw [hsource.2] at hnamed
      rw [htarget.2] at hnamed'
      exact hempty.elim hnamed hnamed'
    rw [hnone]
    rfl
  next =>
    have hfind := @Ordered.find?_foldl_enter _ _ _ TopologyLink.ends
      (fun e => decide (e.1.Same a ∧ e.2.Same b)) (linkCalls past)
    have hlookup : (fun link : TopologyLink => decide (link.source.kind = a.kind ∧
        link.source.id = a.id ∧ link.target.kind = b.kind ∧ link.target.id = b.id)) =
          fun link => decide (link.ends.1.Same a ∧ link.ends.2.Same b) := by
      funext link
      simp only [ResourceRef.Same, TopologyLink.ends, and_assoc]
    rw [if_neg (show ¬(a.kind = b.kind ∧ a.id = b.id) from hne), hlookup, hlinks, hfind]
    change (((firstCall (linkCalls past) a b).bind _).map _).getD _ = _
    cases firstCall (linkCalls past) a b <;> rfl

/-- In every run without loads, a lookup between two different resources gives what the latest
    call for exactly the generations named has said, exactly if the generations that were linked
    first are those named, or were last given the same locality. -/
theorem localityBetween_latest_iff (options : ObservatoryOptions) (now : Nanos) (l : List Action)
    (hl : ∀ a ∈ l, a.loads = false) (a b : ResourceRef) (hne : ¬a.Same b) :
    let calls := linkCalls (Run.history act (State.initial options now) l)
    (Run.final act (State.initial options now) l).topology.localityBetween a b =
        latestLocality calls a b ↔ FirstAgrees calls a b := by
  intro calls
  rw [localityBetween_history (links_history options now hl) hne, FirstAgrees]
  change ((firstCall calls a b).map fun first =>
    latestLocality calls first.source first.target).getD .Unknown = _ ↔ _
  cases hfirst : firstCall calls a b with
  | none =>
    -- then no call was for the generations named either
    have hnone : Ordered.latest TopologyLink.ends (a, b) calls = none := by
      refine List.find?_eq_none.2 fun link hlink hends => ?_
      obtain ⟨rfl, rfl⟩ := Prod.ext_iff.1 (of_decide_eq_true hends)
      have hother := List.find?_eq_none.1 hfirst link (List.mem_reverse.1 hlink)
      exact hother (decide_eq_true ⟨⟨rfl, rfl⟩, rfl, rfl⟩)
    refine iff_of_true ?_ nofun
    rw [latestLocality, hnone]
    rfl
  | some first =>
    constructor
    · rintro h _ ⟨⟩
      exact .inr h
    · intro h
      rcases h first rfl with hends | hsame
      · obtain ⟨rfl, rfl⟩ := Prod.ext_iff.1 hends
        rfl
      · exact hsame

/-- A link is set again with another locality. -/
theorem localityBetween_latest_iff_pair :
    let l := processorPair ++ [.setTopologyLink (pairLink .RemoteNuma),
      .setTopologyLink (pairLink .RemoteNode)]
    (Run.final act (State.initial {} 0) l).topology.localityBetween
      ⟨.Processor, ascii "a", 1⟩ ⟨.Processor, ascii "b", 1⟩ = .RemoteNode := by
  intro l
  have hlatest : latestLocality (linkCalls (Run.history act (State.initial {} 0) l))
      ⟨.Processor, ascii "a", 1⟩ ⟨.Processor, ascii "b", 1⟩ = .RemoteNode := by decide +kernel
  rw [← hlatest]
  refine (localityBetween_latest_iff {} 0 l (by decide) _ _ (by decide)).2 ?_
  rintro first hfirst
  have hends : (firstCall (linkCalls (Run.history act (State.initial {} 0) l))
      ⟨.Processor, ascii "a", 1⟩ ⟨.Processor, ascii "b", 1⟩).map TopologyLink.ends =
        some (⟨.Processor, ascii "a", 1⟩, ⟨.Processor, ascii "b", 1⟩) := by decide +kernel
  rw [hfirst] at hends
  exact .inl (Option.some.inj hends)

/-- One of two linked processors is replaced by its next generation and linked anew. The link of
    the old generation is still the one that is found. -/
theorem replacedProcessor_oldLocality :
    let l := processorPair ++ [.setTopologyLink (pairLink .RemoteNuma),
      .registerProcessor { id := ascii "a", generation := 2 } 0,
      .setTopologyLink
        { pairLink .LocalProcessor with source := ⟨.Processor, ascii "a", 2⟩ }]
    latestLocality (linkCalls (Run.history act (State.initial {} 0) l))
        ⟨.Processor, ascii "a", 2⟩ ⟨.Processor, ascii "b", 1⟩ = .LocalProcessor ∧
      (Run.final act (State.initial {} 0) l).topology.localityBetween
        ⟨.Processor, ascii "a", 2⟩ ⟨.Processor, ascii "b", 1⟩ = .RemoteNuma := by
  decide +kernel

end CoherenceObservatory
