import CoherenceObservatory.Analysis.Partition
import CoherenceObservatory.Counter.Arithmetic

/-!
# Remote accesses and the order of the journal

A row of remote accesses counts and adds up what its entries say, but much of it is simply what
the first or the last entry of the group said. The rows are therefore those of the journal, and
not of its order, exactly where the entries of a group agree in all of that.
-/

namespace CoherenceObservatory

open Std (ExtTreeMap)
open Std.ExtTreeMap RemoteAccessRow Grouping List

/-! ## A row, from its entries -/

/-- The first of the weakest precisions. -/
def Precision.firstWeakest (ps : List Precision) : Precision :=
  ps.tail.foldl weakest (ps.headD .Unknown)

variable {ps : List Precision} {l : List JournalEntry}

theorem Precision.firstWeakest_concat (h : ps ≠ []) (p : Precision) :
    firstWeakest (ps ++ [p]) = (firstWeakest ps).weakest p := by
  cases ps with
  | nil => exact absurd rfl h
  | cons q ps => exact foldl_concat ..

theorem Precision.isWeakest_firstWeakest (h : ps ≠ []) : IsWeakest ps (firstWeakest ps) := by
  cases ps with
  | nil => exact absurd rfl h
  | cons p ps => exact isWeakest_foldl p ps

/-- A weakest precision stays in front. -/
theorem Precision.firstWeakest_cons {p : Precision} (h : ∀ q ∈ ps, p.rank ≤ q.rank) :
    firstWeakest (p :: ps) = p := by
  rw [firstWeakest, headD_cons, tail_cons]
  induction ps with
  | nil => rfl
  | cons q ps ih =>
    rw [foldl_cons, weakest, if_pos (h q mem_cons_self)]
    exact ih fun r hr => h r (mem_cons_of_mem _ hr)

namespace RemoteAccessRow

/-- What a row holds of its entries, before its cost. -/
def ofEntries (l : List JournalEntry) : RemoteAccessRow where
  source := (l.map (·.observation.sourceText)).headD []
  target := (l.map (·.observation.targetText)).headD []
  region := (l.filterMap (·.observation.region)).getLastD []
  regionGeneration := (l.filterMap (·.observation.regionGeneration)).getLastD 0
  direction := (l.map (·.observation.direction)).getLastD .None
  locality := (l.map (·.locality)).getLastD .Unknown
  localityEstablished := (l.map (·.localityEstablished)).getLastD false
  topologyGeneration := (l.map (·.observation.topologyGeneration)).getLastD 0
  precision := Precision.firstWeakest (l.map (·.observation.precision))
  provenance := (l.map (·.observation.provenance)).getLastD .Unknown
  reality := Reality.ofAll (.real :: l.map (·.observation.provenance.realityOf))
  aggregateOnly := (l.map (·.observation.counterDelta.isSome)).getLastD false
  bytes := l.foldl (fun n e => n + e.observation.bytes) 0
  accesses := .ofNat l.length
  writeAccesses := .ofNat (l.countP (·.observation.isRemoteWrite))
  readAccesses := .ofNat (l.countP (!·.observation.isRemoteWrite))

attribute [ext] RemoteAccessRow

variable {α β : Type}

theorem headD_concat (l : List α) (a d : α) :
    (l ++ [a]).headD d = if l = [] then a else l.headD d := by
  cases l with
  | nil | cons => rfl

theorem getLastD_filterMap_concat (f : α → Option β) (l : List α) (a : α) (d : β) :
    ((l ++ [a]).filterMap f).getLastD d = (f a).getD ((l.filterMap f).getLastD d) := by
  rw [← foldl_getD, foldl_concat, foldl_getD]

theorem ofNat_countP_concat (p : α → Bool) (l : List α) (a : α) :
    UInt64.ofNat ((l ++ [a]).countP p) =
      if p a then UInt64.ofNat (l.countP p) + 1 else .ofNat (l.countP p) := by
  rw [countP_append, countP_singleton]
  split
  · exact UInt64.ofNat_add ..
  · rfl

theorem ofEntries_concat (h : l.length < 2 ^ 64) (e : JournalEntry) :
    (ofEntries l).add e = ofEntries (l ++ [e]) := by
  have haccesses : UInt64.ofNat l.length = 0 ↔ l = [] := by
    rw [← UInt64.toNat_inj, UInt64.toNat_ofNat', Nat.mod_eq_of_lt h, UInt64.toNat_zero,
      length_eq_zero_iff]
  ext1 <;> simp only [add, ofEntries, haccesses, map_append, map_cons, map_nil,
    headD_concat, getLastD_filterMap_concat, getLastD_concat, map_eq_nil_iff,
    foldl_concat, ofNat_countP_concat]
  case accesses =>
    rw [length_append]
    exact (UInt64.ofNat_add ..).symm
  case readAccesses => cases e.observation.isRemoteWrite <;> rfl
  case precision =>
    split
    case isTrue hl => rw [hl]; rfl
    case isFalse hl => exact (Precision.firstWeakest_concat (by simpa using hl) _).symm
  case reality => exact (Reality.ofAll_concat (cons_ne_nil _ _) _).symm

/-- The pass over a group arrives at that. -/
theorem foldl_add_eq_ofEntries (h : l.length < 2 ^ 64) : l.foldl add {} = ofEntries l := by
  induction l using List.reverseRecOn with
  | nil => rfl
  | append_singleton l e ih =>
    rw [length_append] at h
    have hl : l.length < 2 ^ 64 := by omega
    rw [foldl_concat, ih hl, ofEntries_concat hl]

/-! ## Entries that agree -/

/-- The entries agree in what a row takes from the first or the last of them. -/
structure Uniform (l : List JournalEntry) : Prop where
  source : ∀ a ∈ l, ∀ b ∈ l, a.observation.sourceText = b.observation.sourceText
  target : ∀ a ∈ l, ∀ b ∈ l, a.observation.targetText = b.observation.targetText
  region : ∀ a ∈ l, ∀ b ∈ l, ∀ r ∈ a.observation.region, ∀ r' ∈ b.observation.region, r = r'
  regionGeneration : ∀ a ∈ l, ∀ b ∈ l, ∀ g ∈ a.observation.regionGeneration,
    ∀ g' ∈ b.observation.regionGeneration, g = g'
  direction : ∀ a ∈ l, ∀ b ∈ l, a.observation.direction = b.observation.direction
  locality : ∀ a ∈ l, ∀ b ∈ l, a.locality = b.locality
  localityEstablished : ∀ a ∈ l, ∀ b ∈ l, a.localityEstablished = b.localityEstablished
  topologyGeneration : ∀ a ∈ l, ∀ b ∈ l,
    a.observation.topologyGeneration = b.observation.topologyGeneration
  precision : ∀ a ∈ l, ∀ b ∈ l,
    (∀ e ∈ l, a.observation.precision.rank ≤ e.observation.precision.rank) →
    (∀ e ∈ l, b.observation.precision.rank ≤ e.observation.precision.rank) →
    a.observation.precision = b.observation.precision
  provenance : ∀ a ∈ l, ∀ b ∈ l, a.observation.provenance = b.observation.provenance
  counterDelta : ∀ a ∈ l, ∀ b ∈ l,
    a.observation.counterDelta.isSome = b.observation.counterDelta.isSome

theorem forall_mem_map₂ {f : α → β} {l : List α} (h : ∀ a ∈ l, ∀ b ∈ l, f a = f b) :
    ∀ c ∈ l.map f, ∀ d ∈ l.map f, c = d := by
  intro c hc d hd
  obtain ⟨a, ha, rfl⟩ := mem_map.1 hc
  obtain ⟨b, hb, rfl⟩ := mem_map.1 hd
  exact h a ha b hb

theorem forall_mem_filterMap₂ {f : α → Option β} {l : List α}
    (h : ∀ a ∈ l, ∀ b ∈ l, ∀ c ∈ f a, ∀ d ∈ f b, c = d) :
    ∀ c ∈ l.filterMap f, ∀ d ∈ l.filterMap f, c = d := by
  intro c hc d hd
  obtain ⟨a, ha, hc⟩ := mem_filterMap.1 hc
  obtain ⟨b, hb, hd⟩ := mem_filterMap.1 hd
  exact h a ha b hb c hc d hd

/-- The precision of a row is that of an entry that no other is weaker than. -/
theorem exists_firstWeakest (h : l ≠ []) : ∃ e ∈ l,
    e.observation.precision = Precision.firstWeakest (l.map (·.observation.precision)) ∧
      ∀ e' ∈ l, e.observation.precision.rank ≤ e'.observation.precision.rank := by
  have hne : l.map (·.observation.precision) ≠ [] := by simpa using h
  obtain ⟨hmem, hle⟩ := Precision.isWeakest_firstWeakest hne
  obtain ⟨e, he, heq⟩ := mem_map.1 hmem
  exact ⟨e, he, heq, fun e' he' => heq ▸ hle _ (mem_map_of_mem he')⟩

/-- Where the entries agree, their order does not matter. -/
theorem ofEntries_eq_of_perm {l' : List JournalEntry} (hperm : l.Perm l') (h : Uniform l) :
    ofEntries l = ofEntries l' := by
  ext1 <;> simp only [ofEntries]
  case source => exact headD_eq_of_perm (hperm.map _) (forall_mem_map₂ h.source) _
  case target => exact headD_eq_of_perm (hperm.map _) (forall_mem_map₂ h.target) _
  case region =>
    exact getLastD_eq_of_perm (hperm.filterMap _) (forall_mem_filterMap₂ h.region) _
  case regionGeneration =>
    exact getLastD_eq_of_perm (hperm.filterMap _)
      (forall_mem_filterMap₂ h.regionGeneration) _
  case direction =>
    exact getLastD_eq_of_perm (hperm.map _) (forall_mem_map₂ h.direction) _
  case locality =>
    exact getLastD_eq_of_perm (hperm.map _) (forall_mem_map₂ h.locality) _
  case localityEstablished =>
    exact getLastD_eq_of_perm (hperm.map _) (forall_mem_map₂ h.localityEstablished) _
  case topologyGeneration =>
    exact getLastD_eq_of_perm (hperm.map _) (forall_mem_map₂ h.topologyGeneration) _
  case provenance =>
    exact getLastD_eq_of_perm (hperm.map _) (forall_mem_map₂ h.provenance) _
  case aggregateOnly =>
    exact getLastD_eq_of_perm (hperm.map _) (forall_mem_map₂ h.counterDelta) _
  case precision =>
    by_cases hl : l = []
    · subst hl
      rw [hperm.nil_eq]
    · obtain ⟨a, ha, haeq, hale⟩ := exists_firstWeakest hl
      obtain ⟨b, hb, hbeq, hble⟩ := exists_firstWeakest (l := l') fun hnil =>
        hl (hnil ▸ hperm).eq_nil
      rw [← haeq, ← hbeq]
      exact h.precision a ha b (hperm.mem_iff.2 hb) hale fun e he => hble e (hperm.mem_iff.1 he)
  case reality =>
    simp only [Reality.ofAll, forall_mem_cons, forall_mem_map, hperm.mem_iff]
  case bytes =>
    refine hperm.foldl_eq' (fun a _ b _ n => ?_) 0
    rw [UInt64.add_assoc, UInt64.add_comm a.observation.bytes, ← UInt64.add_assoc]
  case accesses => rw [hperm.length_eq]
  case writeAccesses => rw [hperm.countP_eq]
  case readAccesses => rw [hperm.countP_eq]

end RemoteAccessRow

/-! ## Rows of a journal -/

/-- The rows are those of every order of the journal. -/
def OrderFree (s : State) (policy : RemoteAccessPolicy) : Prop :=
  ∀ journal, journal.Perm s.journal →
    remoteAccessRows { s with journal } policy = remoteAccessRows s policy

/-- A row is for counters only exactly if counters contributed to it. -/
def AggregateExact (s : State) : Prop :=
  ∀ key group, (remoteAccessGroups s)[key]? = some group →
    (group.aggregateOnly = true ↔ ∃ e ∈ remoteGroup s key, e.observation.counterDelta.isSome)

section

variable {s : State} {policy : RemoteAccessPolicy} {journal : List JournalEntry}

theorem length_remoteGroup (h : s.journal.length < 2 ^ 64) (key : Text) :
    (remoteGroup s key).length < 2 ^ 64 :=
  ((length_filter_le _ _).trans (length_filter_le _ _)).trans_lt h

theorem remoteAccessRows_eq (hrows : (remoteAccessGroups s).size ≤ policy.maxRows.toNat) :
    remoteAccessRows s policy = allRemoteAccessRows s := by
  refine take_of_length_le ?_
  rwa [allRemoteAccessRows, length_map, length_toList]

theorem perm_remoteEntries (hperm : journal.Perm s.journal) :
    (remoteEntries { s with journal }).Perm (remoteEntries s) := hperm.filter _

theorem perm_remoteGroup (hperm : journal.Perm s.journal) (key : Text) :
    (remoteGroup { s with journal } key).Perm (remoteGroup s key) :=
  perm_members (perm_remoteEntries hperm) key

theorem size_remoteAccessGroups (hperm : journal.Perm s.journal) :
    (remoteAccessGroups { s with journal }).size = (remoteAccessGroups s).size := by
  rw [← length_keys, ← length_keys, remoteAccessGroups, remoteAccessGroups,
    keys_groups_of_perm (perm_remoteEntries hperm)]

/-- Rows of two orders of the journal are the same if those of each key are. -/
theorem remoteAccessRows_eq_iff (hrows : (remoteAccessGroups s).size ≤ policy.maxRows.toNat)
    (hperm : journal.Perm s.journal) :
    remoteAccessRows { s with journal } policy = remoteAccessRows s policy ↔
      ∀ key, remoteGroup s key ≠ [] →
        ((remoteGroup { s with journal } key).foldl add {}).finish s =
          ((remoteGroup s key).foldl add {}).finish s := by
  rw [remoteAccessRows_eq hrows, remoteAccessRows_eq (by rwa [size_remoteAccessGroups hperm]),
    eq_comm]
  refine (map_toList_groups_eq_iff (perm_remoteEntries hperm).symm
    fun row : RemoteAccessRow => row.finish s).trans ?_
  refine forall_congr' fun key => imp_congr_right fun _ => eq_comm

/-- The group of a key takes up the entries of its key. -/
theorem remoteGroup_append (l l' : List JournalEntry) (key : Text) :
    remoteGroup { s with journal := l ++ l' } key =
      remoteGroup { s with journal := l } key ++ remoteGroup { s with journal := l' } key := by
  simp only [remoteGroup, remoteEntries, members, filter_append]

variable {a : JournalEntry} {key : Text}

theorem remoteGroup_singleton (ha : a ∈ remoteGroup s key) :
    remoteGroup { s with journal := [a] } key = [a] := by
  obtain ⟨hentry, hkey⟩ := mem_members.1 ha
  have hremote : a.observation.isRemoteAccess = true := (mem_filter.1 hentry).2
  simp only [remoteGroup, remoteEntries, members]
  rw [filter_cons_of_pos (by simpa using hremote),
    filter_cons_of_pos (by simpa using hkey)]
  rfl

/-- Each entry of a group is the last one in some order of the journal, and the first one in
another. -/
theorem OrderFree.exists_ends (hfree : OrderFree s policy)
    (hrows : (remoteAccessGroups s).size ≤ policy.maxRows.toNat) (ha : a ∈ remoteGroup s key) :
    ∃ l, (a :: l).Perm (remoteGroup s key) ∧
      ((l ++ [a]).foldl add {}).finish s =
        ((remoteGroup s key).foldl add {}).finish s ∧
      ((a :: l).foldl add {}).finish s =
        ((remoteGroup s key).foldl add {}).finish s := by
  have hne := ne_nil_of_mem ha
  have hmem : a ∈ s.journal := (mem_filter.1 (mem_members.1 ha).1).1
  obtain ⟨before, after, hjournal⟩ := append_of_mem hmem
  have hfirst : ([a] ++ (before ++ after)).Perm s.journal := by
    rw [hjournal, singleton_append]
    exact perm_middle.symm
  have hlast : (before ++ after ++ [a]).Perm s.journal :=
    (perm_append_comm).trans hfirst
  refine ⟨remoteGroup { s with journal := before ++ after } key, ?_, ?_, ?_⟩
  · have hperm := perm_remoteGroup hfirst key
    rwa [remoteGroup_append, remoteGroup_singleton ha] at hperm
  · have hgroup := (remoteAccessRows_eq_iff hrows hlast).1 (hfree _ hlast) key hne
    rwa [remoteGroup_append, remoteGroup_singleton ha] at hgroup
  · have hgroup := (remoteAccessRows_eq_iff hrows hfirst).1 (hfree _ hfirst) key hne
    rwa [remoteGroup_append, remoteGroup_singleton ha] at hgroup

/-- An entry says what the row says, as far as the row takes one entry's word. -/
structure RemoteAccessRow.Repeats (row : RemoteAccessRow) (l : List JournalEntry)
    (a : JournalEntry) : Prop where
  source : a.observation.sourceText = row.source
  target : a.observation.targetText = row.target
  region : ∀ r ∈ a.observation.region, r = row.region
  regionGeneration : ∀ g ∈ a.observation.regionGeneration, g = row.regionGeneration
  direction : a.observation.direction = row.direction
  locality : a.locality = row.locality
  localityEstablished : a.localityEstablished = row.localityEstablished
  topologyGeneration : a.observation.topologyGeneration = row.topologyGeneration
  precision : (∀ e ∈ l, a.observation.precision.rank ≤ e.observation.precision.rank) →
    a.observation.precision = row.precision
  provenance : a.observation.provenance = row.provenance
  counterDelta : a.observation.counterDelta.isSome = row.aggregateOnly

theorem RemoteAccessRow.uniform_of_repeats (row : RemoteAccessRow) (h : ∀ a ∈ l, row.Repeats l a) :
    Uniform l where
  source a ha b hb := (h a ha).source.trans (h b hb).source.symm
  target a ha b hb := (h a ha).target.trans (h b hb).target.symm
  region a ha b hb r hr r' hr' := ((h a ha).region r hr).trans ((h b hb).region r' hr').symm
  regionGeneration a ha b hb g hg g' hg' :=
    ((h a ha).regionGeneration g hg).trans ((h b hb).regionGeneration g' hg').symm
  direction a ha b hb := (h a ha).direction.trans (h b hb).direction.symm
  locality a ha b hb := (h a ha).locality.trans (h b hb).locality.symm
  localityEstablished a ha b hb :=
    (h a ha).localityEstablished.trans (h b hb).localityEstablished.symm
  topologyGeneration a ha b hb :=
    (h a ha).topologyGeneration.trans (h b hb).topologyGeneration.symm
  precision a ha b hb hale hble := ((h a ha).precision hale).trans ((h b hb).precision hble).symm
  provenance a ha b hb := (h a ha).provenance.trans (h b hb).provenance.symm
  counterDelta a ha b hb := (h a ha).counterDelta.trans (h b hb).counterDelta.symm

/-- Where the order does not matter, each entry could have been the first or the last one. -/
theorem OrderFree.repeats (hfree : OrderFree s policy) (hlength : s.journal.length < 2 ^ 64)
    (hrows : (remoteAccessGroups s).size ≤ policy.maxRows.toNat) (ha : a ∈ remoteGroup s key) :
    (((remoteGroup s key).foldl add {}).finish s).Repeats
      (remoteGroup s key) a := by
  obtain ⟨l, hperm, hlast, hfirst⟩ := hfree.exists_ends hrows ha
  rw [foldl_concat] at hlast
  rw [foldl_add_eq_ofEntries
    (hperm.length_eq ▸ length_remoteGroup hlength key)] at hfirst
  exact {
    source := congrArg source hfirst
    target := congrArg target hfirst
    region := fun r hr => by
      have := congrArg region hlast
      simp only [finish, add, Option.mem_def.1 hr] at this
      exact this
    regionGeneration := fun g hg => by
      have := congrArg regionGeneration hlast
      simp only [finish, add, Option.mem_def.1 hg] at this
      exact this
    direction := congrArg direction hlast
    locality := congrArg locality hlast
    localityEstablished := congrArg localityEstablished hlast
    topologyGeneration := congrArg topologyGeneration hlast
    precision := fun hle => by
      have hweakest : (ofEntries (a :: l)).precision = a.observation.precision := by
        refine Precision.firstWeakest_cons fun q hq => ?_
        obtain ⟨e, he, rfl⟩ := mem_map.1 hq
        exact hle e (hperm.mem_iff.1 (mem_cons_of_mem _ he))
      have hrow := congrArg precision hfirst
      exact hweakest.symm.trans hrow
    provenance := congrArg provenance hlast
    counterDelta := congrArg aggregateOnly hlast }

theorem orderFree_of_uniform (hlength : s.journal.length < 2 ^ 64)
    (hrows : (remoteAccessGroups s).size ≤ policy.maxRows.toNat)
    (h : ∀ key, Uniform (remoteGroup s key)) : OrderFree s policy := by
  intro journal hperm
  refine (remoteAccessRows_eq_iff hrows hperm).2 fun key _ => ?_
  have hgroup := perm_remoteGroup hperm key
  have hlt := length_remoteGroup hlength key
  rw [foldl_add_eq_ofEntries hlt,
    foldl_add_eq_ofEntries (hgroup.length_eq ▸ hlt),
    ofEntries_eq_of_perm hgroup.symm (h key)]

theorem aggregateExact_of_uniform (hlength : s.journal.length < 2 ^ 64)
    (h : ∀ key, Uniform (remoteGroup s key)) : AggregateExact s := by
  intro key group hkey
  obtain ⟨hne, rfl⟩ := getElem?_groups_eq_some.1 hkey
  have hfold := foldl_add_eq_ofEntries (length_remoteGroup hlength key)
  -- the last entry stands for all
  have hmem := getLastD_mem (l := (remoteGroup s key).map
    (·.observation.counterDelta.isSome)) (mt map_eq_nil_iff.1 hne) false
  obtain ⟨a, ha, hlast⟩ := mem_map.1 hmem
  have hrow : ((remoteGroup s key).foldl add {}).aggregateOnly =
      a.observation.counterDelta.isSome := by
    rw [hfold]
    exact hlast.symm
  refine (Bool.eq_iff_iff.1 hrow).trans ⟨fun hsome => ⟨a, ha, hsome⟩, ?_⟩
  rintro ⟨e, he, hsome⟩
  rw [(h key).counterDelta a ha e he]
  exact hsome

/-- Rows depend on the order of the journal, or miss a counter among their entries, unless the
    entries of each group agree in what a row takes from its first or last entry. -/
theorem remoteAccessRows_order_iff (s : State) (policy : RemoteAccessPolicy)
    (hlength : s.journal.length < 2 ^ 64)
    (hrows : (remoteAccessGroups s).size ≤ policy.maxRows.toNat) :
    OrderFree s policy ∧ AggregateExact s ↔
      ∀ key, RemoteAccessRow.Uniform (remoteGroup s key) := by
  constructor
  · rintro ⟨hfree, -⟩ key
    exact RemoteAccessRow.uniform_of_repeats _ fun a ha => hfree.repeats hlength hrows ha
  · intro h
    exact ⟨orderFree_of_uniform hlength hrows h, aggregateExact_of_uniform hlength h⟩

/-- The reads of a publisher that says nothing about them agree. -/
theorem remoteAccessRows_order_iff_mixed :
    OrderFree (Run.final act (State.initial {} 0) mixedRun) {} ∧
      AggregateExact (Run.final act (State.initial {} 0) mixedRun) := by
  refine (remoteAccessRows_order_iff _ _ (by decide +kernel) (by decide +kernel)).2 fun key => ?_
  have hsame : ∀ a ∈ remoteEntries (Run.final act (State.initial {} 0) mixedRun),
      a.observation.sourceText = ascii "unknown" ∧ a.observation.targetText = ascii "unknown" ∧
        a.observation.region = none ∧ a.observation.regionGeneration = none ∧
        a.observation.direction = .None ∧ a.locality = .Unknown ∧ a.localityEstablished = false ∧
        a.observation.topologyGeneration = 0 ∧ a.observation.precision = .Unknown ∧
        a.observation.provenance = .Unknown ∧ a.observation.counterDelta.isSome = false := by
    decide +kernel
  let row : RemoteAccessRow := { source := ascii "unknown", target := ascii "unknown" }
  refine row.uniform_of_repeats fun a ha => ?_
  obtain ⟨hsource, htarget, hregion, hgeneration, hdirection, hlocality, hestablished, htopology,
    hprecision, hprovenance, hdelta⟩ := hsame a (Grouping.mem_members.1 ha).1
  refine ⟨hsource, htarget, ?_, ?_, hdirection, hlocality, hestablished, htopology,
    fun _ => hprecision, hprovenance, hdelta⟩
  · rw [hregion]
    rintro _ ⟨⟩
  · rw [hgeneration]
    rintro _ ⟨⟩

/-- A remote read as an event, and remote reads from a counter. -/
def eventThenCounter : List Action :=
  [.registerPublisher sampleRegistration fun _ => 0, .ingest (sampleObservation 1) 0,
    .ingestCounter { reading .Delta 64 2 5 with mappedType := .RemoteRead } 0]

/-- One row holds both, and whether it is marked as coming from counters depends on which entry
    comes last. -/
theorem reversed_journal_not_aggregate :
    (remoteAccessRows (Run.final act (State.initial {} 0) eventThenCounter) {}).map
        (fun row => (row.accesses, row.aggregateOnly)) = [(2, true)] ∧
      (remoteAccessRows { Run.final act (State.initial {} 0) eventThenCounter with
        journal := (Run.final act (State.initial {} 0) eventThenCounter).journal.reverse } {}).map
        (fun row => (row.accesses, row.aggregateOnly)) = [(2, false)] ∧
      (Run.final act (State.initial {} 0) eventThenCounter).journal.reverse.Perm
        (Run.final act (State.initial {} 0) eventThenCounter).journal := by
  refine ⟨?_, ?_, List.reverse_perm _⟩ <;> decide +kernel

end

end CoherenceObservatory
