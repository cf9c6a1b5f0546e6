import CoherenceObservatory.Analysis.RemoteAccess
import CoherenceObservatory.Names

/-!
# Joined keys

Tables are keyed by names and numbers joined to one text. Names may contain the marks they are
joined with: a boot key is read from its last `#`, and the text of a resource from its first `:`
and its last `@`. The unit separator of the grouping keys is in no name.
-/

namespace CoherenceObservatory

/-- The text of a resource determines it. -/
theorem resourceText_inj {r r' : ResourceRef} (hid : r.id ≠ []) (hid' : r'.id ≠ [])
    (hkind : r.kind.raw ≤ 5) (hkind' : r'.kind.raw ≤ 5) (h : resourceText r = resourceText r') :
    r = r' := by
  have htext (r : ResourceRef) (hid : r.id ≠ []) :
      resourceText r = r.kind.toText ++ 58 :: (r.id ++ [64] ++ formatU64 r.generation) := by
    rw [resourceText, if_neg hid]
    simp only [List.append_assoc]
    rfl
  rw [htext r hid, htext r' hid'] at h
  obtain ⟨hname, hrest⟩ :=
    append_cons_inj_of_not_mem r.kind.colon_not_mem_toText r'.kind.colon_not_mem_toText h
  obtain ⟨hidentity, hgeneration⟩ := append_formatU64_inj (by decide) hrest
  obtain ⟨kind, id, generation⟩ := r
  obtain ⟨kind', id', generation'⟩ := r'
  obtain rfl : kind = kind' := ResourceKind.toText_inj hkind hkind' hname
  obtain rfl : id = id' := hidentity
  obtain rfl : generation = generation' := hgeneration
  rfl

/-- Three names and a number, with the unit separator between them. -/
theorem unitKey_inj {a b c a' b' c' : Text} {n n' : UInt64} (ha : IsToken a) (ha' : IsToken a')
    (hb : IsToken b) (hb' : IsToken b') (hc : IsToken c) (hc' : IsToken c')
    (h : a ++ [31] ++ b ++ [31] ++ c ++ [31] ++ formatU64 n =
      a' ++ [31] ++ b' ++ [31] ++ c' ++ [31] ++ formatU64 n') :
    a = a' ∧ b = b' ∧ c = c' ∧ n = n' := by
  have hfree {token : Text} (ht : IsToken token) : 31 ∉ token :=
    fun hmem => absurd (ht.admitted 31 hmem) (by decide)
  simp only [List.append_assoc, List.singleton_append] at h
  obtain ⟨rfl, h₁⟩ := append_cons_inj_of_not_mem (hfree ha) (hfree ha') h
  obtain ⟨rfl, h₂⟩ := append_cons_inj_of_not_mem (hfree hb) (hfree hb') h₁
  obtain ⟨rfl, h₃⟩ := append_cons_inj_of_not_mem (hfree hc) (hfree hc') h₂
  exact ⟨rfl, rfl, rfl, formatU64_injective h₃⟩

/-- The names an analysis groups an observation by are identity tokens. -/
structure Observation.NamesTokens (o : Observation) : Prop where
  region : IsToken o.regionText
  source : IsToken o.sourceText
  target : IsToken o.targetText

/-- The four components of the grouping keys agree. -/
def Observation.SameGroup (o o' : Observation) : Prop :=
  o.regionText = o'.regionText ∧ o.sourceText = o'.sourceText ∧ o.targetText = o'.targetText ∧
    o.regionGeneration.getD 0 = o'.regionGeneration.getD 0

/-- Keys that are equal are of the same publisher and boot, of the same resource, and of
    observations of the same group. -/
theorem joinedKeys_injective :
    (∀ p p' b b', IsToken p → IsToken p' → bootKey p b = bootKey p' b' → p = p' ∧ b = b') ∧
    (∀ r r' : ResourceRef, IsToken r.id → IsToken r'.id → r.kind.raw ≤ 5 → r'.kind.raw ≤ 5 →
      resourceText r = resourceText r' → r = r') ∧
    ∀ o o' : Observation, o.NamesTokens → o'.NamesTokens →
      (o.invalidationKey = o'.invalidationKey → o.SameGroup o') ∧
      (o.remoteAccessKey = o'.remoteAccessKey → o.SameGroup o') := by
  refine ⟨fun _ _ _ _ _ _ => bootKey_injective, fun _ _ h h' => resourceText_inj h.ne_nil h'.ne_nil,
    fun o o' h h' => ⟨fun heq => ?_, fun heq => ?_⟩⟩
  · exact unitKey_inj h.region h'.region h.source h'.source h.target h'.target heq
  · obtain ⟨hsource, htarget, hregion, hgeneration⟩ :=
      unitKey_inj h.source h'.source h.target h'.target h.region h'.region heq
    exact ⟨hregion, hsource, htarget, hgeneration⟩

/-- A mark or a digit at the end of a name is not taken for one of the number that follows. -/
theorem joinedKeys_injective_hash :
    bootKey (ascii "a#1") 2 ≠ bootKey (ascii "a") 12 ∧
      resourceText ⟨.Processor, ascii "a@1", 2⟩ ≠ resourceText ⟨.Processor, ascii "a", 12⟩ ∧
      let o : Observation := { region := ascii "a:1", regionGeneration := some 2 }
      let o' : Observation := { region := ascii "a:", regionGeneration := some 12 }
      o.invalidationKey ≠ o'.invalidationKey ∧ o.remoteAccessKey ≠ o'.remoteAccessKey := by
  obtain ⟨hboot, hresource, hgroup⟩ := joinedKeys_injective
  have htoken {token : Text} (h : validateIdentityToken token = .ok ()) : IsToken token :=
    validateIdentityToken_eq_ok.1 h
  refine ⟨fun h => ?_, fun h => ?_, ?_⟩
  · exact absurd (hboot _ _ _ _ (htoken (by decide)) (htoken (by decide)) h).2 (by decide)
  · exact absurd (hresource _ _ (htoken (by decide)) (htoken (by decide)) (by decide) (by decide) h)
      (by decide)
  · intro o o'
    have htokens := hgroup o o'
      ⟨htoken (by decide), htoken (by decide), htoken (by decide)⟩
      ⟨htoken (by decide), htoken (by decide), htoken (by decide)⟩
    exact ⟨fun h => absurd (htokens.1 h).1 (by decide), fun h => absurd (htokens.2 h).1 (by decide)⟩

end CoherenceObservatory
